import ServiceOS.Ipc.System

/-! # Sending and receiving are all or nothing

A refused send gives the sender back exactly what it prepared; a refused
receive leaves queue and entries alone; and what is received from an endpoint
is what was sent to it, in order, with the capabilities prepared for it. -/

namespace ServiceOS.Ipc

open Capability Execution CapabilitySpace ObjectTable MessageEnvelope List History

/-! ## Refused sends -/

/-- One `prepare_transfer` call of a sender. -/
structure Attachment where
  handle : CapabilityHandle
  requested : CapabilityRights
  mode : TransferMode

/-- Prepare attachments in order; `none` when one is refused, so that there is
no message to send. -/
def prepareAll (space : CapabilitySpace) :
    List Attachment → Option (List PreparedTransfer × CapabilitySpace)
  | [] => some ([], space)
  | attachment :: attachments =>
    match space.prepareTransfer attachment.handle attachment.requested attachment.mode with
    | (.error _, _) => none
    | (.ok transfer, space) =>
      (prepareAll space attachments).map fun (transfers, space) =>
        (transfer :: transfers, space)

/-- Rolling back `transfers`, in any order, turns `space` into `original`: what
is missing was moved out by one of them, and each records what it moved. -/
structure Restores (original space : CapabilitySpace) (transfers : List PreparedTransfer) :
    Prop where
  nextHandle_eq : space.nextHandle = original.nextHandle
  recorded : ∀ transfer ∈ transfers, ∀ source, transfer.movedSource = some source →
    ∃ rights, transfer.movedSourceRights = some rights ∧
      original.entries[source]? = some (restoredEntry transfer rights)
  missing : ∀ handle : CapabilityHandle, space.entries[handle]? = original.entries[handle]? ∨
    space.entries[handle]? = none ∧ ∃ transfer ∈ transfers, transfer.movedSource = some handle

namespace Restores

variable {space : CapabilitySpace} {transfers : List PreparedTransfer}

theorem refl (space : CapabilitySpace) : Restores space space [] :=
  ⟨rfl, nofun, fun _ => .inl rfl⟩

theorem eq_of_nil (restores : Restores original space []) : space = original := by
  cases space with
  | mk =>
    cases original with
    | mk =>
      rw [CapabilitySpace.mk.injEq]
      refine ⟨restores.nextHandle_eq, Std.ExtTreeMap.ext_getElem? fun handle => ?_⟩
      rcases restores.missing handle with same | ⟨-, _, member, -⟩
      · exact same
      · cases member

theorem perm (restores : Restores original space transfers) (permuted : reordered.Perm transfers) :
    Restores original space reordered where
  nextHandle_eq := restores.nextHandle_eq
  recorded transfer member := restores.recorded transfer (permuted.mem_iff.mp member)
  missing handle := by
    rcases restores.missing handle with same | ⟨absent, transfer, member, moved⟩
    · exact .inl same
    · exact .inr ⟨absent, transfer, permuted.mem_iff.mpr member, moved⟩

theorem filter_moved (restores : Restores original space transfers) :
    Restores original space (transfers.filter (·.movedSource.isSome)) where
  nextHandle_eq := restores.nextHandle_eq
  recorded transfer member := restores.recorded transfer (mem_of_mem_filter member)
  missing handle := by
    rcases restores.missing handle with same | ⟨absent, transfer, member, moved⟩
    · exact .inl same
    · exact .inr ⟨absent, transfer, mem_filter.mpr ⟨member, by simp [moved]⟩, moved⟩

theorem rollbackMoved (restores : Restores original space (transfer :: transfers)) :
    Restores original (space.rollbackMoved transfer).2 transfers := by
  have kept := fun other member => restores.recorded other (mem_cons_of_mem _ member)
  rcases call : space.rollbackMoved transfer with ⟨restored, next⟩
  rcases rollbackMoved_cases call with
    ⟨source, rights, moved, noted, -, -, rfl⟩ | ⟨-, rfl, present⟩
  · rcases restores.recorded transfer mem_cons_self source moved with
      ⟨_, same, originally⟩
    cases noted.symm.trans same
    refine ⟨restores.nextHandle_eq, kept, fun handle => ?_⟩
    rw [getElem?_insertEntry]
    split
    next here => exact .inl (here ▸ originally.symm)
    rename_i elsewhere
    rcases restores.missing handle with unchanged | ⟨absent, other, member, movedOther⟩
    · exact .inl unchanged
    rcases mem_cons.mp member with rfl | later
    · exact absurd (Option.some.inj (moved.symm.trans movedOther)) elsewhere
    · exact .inr ⟨absent, other, later, movedOther⟩
  · refine ⟨restores.nextHandle_eq, kept, fun handle => ?_⟩
    rcases restores.missing handle with unchanged | ⟨absent, other, member, moved⟩
    · exact .inl unchanged
    rcases mem_cons.mp member with rfl | later
    · rcases restores.recorded other mem_cons_self handle moved with ⟨_, noted, -⟩
      exact absurd absent (present handle moved (by simp [noted]))
    · exact .inr ⟨absent, other, later, moved⟩

section

variable (restores : Restores original space transfers)

include restores

theorem rollbackAll_eq : rollbackAll space transfers = original := by
  induction transfers generalizing space with
  | nil => exact restores.eq_of_nil
  | cons transfer transfers induction => exact induction restores.rollbackMoved

variable {next : CapabilitySpace}

theorem prepareTransfer {attachment : Attachment}
    (call : space.prepareTransfer attachment.handle attachment.requested attachment.mode =
      (.ok transfer, next)) :
    Restores original next (transfer :: transfers) := by
  rcases prepareTransfer_cases call with
    ⟨entry, found, -, -, answered, rfl⟩ | ⟨entry, found, -, -, answered, rfl⟩ |
    ⟨⟨_, refused⟩, -⟩
  · cases answered
    have originally : original.entries[attachment.handle]? = some entry := by
      rcases restores.missing attachment.handle with same | ⟨absent, -⟩
      · exact same.symm.trans found
      · simp [found] at absent
    refine ⟨restores.nextHandle_eq, ?_, fun handle => ?_⟩
    · refine forall_mem_cons.mpr ⟨?_, restores.recorded⟩
      intro source moved
      cases moved
      exact ⟨entry.rights, rfl, originally⟩
    rw [getElem?_removeEntry]
    split
    next here => exact .inr ⟨rfl, _, mem_cons_self, congrArg some here⟩
    rcases restores.missing handle with same | ⟨absent, other, member, moved⟩
    · exact .inl same
    · exact .inr ⟨absent, other, mem_cons_of_mem _ member, moved⟩
  · cases answered
    refine ⟨restores.nextHandle_eq, forall_mem_cons.mpr ⟨nofun, restores.recorded⟩,
      fun handle => ?_⟩
    rcases restores.missing handle with same | ⟨absent, other, member, moved⟩
    · exact .inl same
    · exact .inr ⟨absent, other, mem_cons_of_mem _ member, moved⟩
  · cases refused

theorem prepareAll {prepared : List PreparedTransfer}
    (call : prepareAll space attachments = some (prepared, next)) :
    Restores original next (prepared ++ transfers) := by
  induction attachments generalizing space transfers prepared next with
  | nil =>
    cases call
    exact restores
  | cons attachment attachments induction =>
    rw [Ipc.prepareAll] at call
    split at call
    · cases call
    rename_i first
    rcases Option.map_eq_some_iff.mp call with ⟨⟨later, final⟩, rest, equal⟩
    cases equal
    apply (induction (restores.prepareTransfer first) rest).perm
    exact perm_middle.symm

end

end Restores

variable {space spaceAfter : CapabilitySpace}

/-! ## Refused receives -/

/-- Closing what a partial install issued leaves the entries of a space whose
handles all lie below the counter. -/
theorem entries_partialInstall
    (bounded : ∀ handle : Nat, space.nextHandle ≤ handle → space.entries[handle]? = none) :
    (partialInstall space accepted).entries = space.entries := by
  refine Std.ExtTreeMap.ext_getElem? fun handle => ?_
  rw [partialInstall, getElem?_closeAll, getElem?_issueAll, length_map]
  simp only [mem_range'_1]
  split
  next issued => exact (bounded handle issued.1).symm
  · rfl

theorem receive_refused (reached : run step new operations = some history)
    (call : receive objects history.space handle = (.error error, objectsAfter, spaceAfter)) :
    objectsAfter = objects ∧ spaceAfter.entries = history.space.entries := by
  have consistent := consistent_of_run reached new_consistent
  rcases receive_cases call with ⟨_, _, _, _, _, _, _, accepted, _⟩ | ⟨_, accepted, -, rfl, rfl, -⟩
  · cases accepted
  refine ⟨rfl, entries_partialInstall (fun handle above => ?_)⟩
  rcases found : history.space.entries[handle]? with _ | entry
  · rfl
  · have below := consistent.issued_lt _ (consistent.entry_issued handle entry found)
    exact absurd below (Nat.not_lt.mpr above)

/-! ## Order and contents -/

/-- The message is the envelope's, and its handles name exactly the
capabilities prepared for it. -/
structure Reception.Carries (reception : Reception) (envelope : MessageEnvelope) : Prop where
  tag : reception.message.tag = envelope.tag
  words : reception.message.words = envelope.words
  sharedMemoryHint : reception.message.sharedMemoryHint = envelope.sharedMemoryHint
  capabilities : reception.capabilities =
    envelope.capabilities.map fun transfer => some transfer.entry
  replyEndpoint : reception.replyEndpoint =
    envelope.replyEndpoint.map fun transfer => some transfer.entry

theorem observe_carries (space : CapabilitySpace) :
    (Reception.observe (space.issueAll (envelope.transfers.map PreparedTransfer.entry))
      (envelope.receivedIn space)).Carries envelope where
  tag := rfl
  words := rfl
  sharedMemoryHint := rfl
  capabilities := by
    apply ext_getElem (by simp [Reception.observe, receivedIn])
    intro index _ bound
    have within : index < envelope.capabilities.length := by simpa using bound
    simp [Reception.observe, receivedIn, getElem?_issueAll, transfers, within, Nat.lt_add_right]
  replyEndpoint := by
    rcases reply : envelope.replyEndpoint with _ | transfer <;>
      simp [Reception.observe, receivedIn, getElem?_issueAll, transfers, reply]

/-- What was sent to an endpoint is what was received from it followed by what
its queue holds. -/
structure Ordered (system : System) : Prop where
  delivered : ∀ object, ∃ delivered pending, system.sent object = delivered ++ pending ∧
    List.Forall₂ Reception.Carries (system.received object) delivered ∧
    ∀ channel, system.objects.channelEndpoint object = some channel → channel.queue.toList = pending
  fresh : ∀ object, system.nextObject ≤ object →
    system.sent object = [] ∧ system.objects[object]? = none

namespace Ordered

variable {system next : System}

theorem new : Ordered System.new where
  delivered _ := ⟨[], [], rfl, .nil, by simp [System.new, channelEndpoint]⟩
  fresh := by simp [System.new]

section

variable (ordered : Ordered system)

include ordered

theorem lt_nextObject (found : system.objects.channelEndpoint object = some channel) :
    object < system.nextObject := by
  refine Nat.lt_of_not_le fun above => ?_
  have absent := (ordered.fresh object above).2
  rw [channelEndpoint_eq_some.mp found] at absent
  cases absent

theorem createObject
    (vacant : ∀ channel, object = .channelEndpoint channel → channel.queue.toList = []) :
    Ordered (system.createObject object) where
  delivered other := by
    rcases ordered.delivered other with ⟨delivered, pending, sent, carried, held⟩
    refine ⟨delivered, pending, sent, carried, fun channel found => ?_⟩
    rw [channelEndpoint_eq_some, System.createObject, Std.ExtTreeMap.getElem?_insert] at found
    split at found
    · cases found
      have unsent := (ordered.fresh other (by simp_all)).1
      rw [vacant channel rfl, (append_eq_nil_iff.mp (sent.symm.trans unsent)).2]
    · exact held channel (channelEndpoint_eq_some.mpr found)
  fresh other above := by
    rcases ordered.fresh other (Nat.le_of_succ_le above) with ⟨unsent, absent⟩
    refine ⟨unsent, ?_⟩
    have distinct : system.nextObject ≠ other := Nat.ne_of_lt above
    simpa [System.createObject, Std.ExtTreeMap.getElem?_insert, distinct] using absent

theorem dropObject (object : ObjectId) :
    Ordered (system.dropObject object) where
  delivered other := by
    rcases ordered.delivered other with ⟨delivered, pending, sent, carried, held⟩
    refine ⟨delivered, pending, sent, carried, fun channel found => ?_⟩
    rw [channelEndpoint_eq_some, System.dropObject, Std.ExtTreeMap.getElem?_erase] at found
    split at found
    · cases found
    · exact held channel (channelEndpoint_eq_some.mpr found)
  fresh other above := by
    rcases ordered.fresh other above with ⟨unsent, absent⟩
    exact ⟨unsent, by simp [System.dropObject, Std.ExtTreeMap.getElem?_erase, absent]⟩

theorem fresh_setQueue (found : system.objects.channelEndpoint object = some channel)
    (above : system.nextObject ≤ other) :
    object ≠ other ∧ (system.objects.setQueue object state queue)[other]? = none := by
  have below := ordered.lt_nextObject found
  have distinct : object ≠ other := Nat.ne_of_lt (Nat.lt_of_lt_of_le below above)
  refine ⟨distinct, ?_⟩
  simpa [setQueue, Std.ExtTreeMap.getElem?_insert, distinct] using
    (ordered.fresh other above).2

theorem send (space : Nat) (endpoint : CapabilityHandle)
    (message : OutgoingMessage) : Ordered (system.send space endpoint message) := by
  rcases system.send_cases space endpoint message with
    ⟨peer, peerChannel, queue, found, held, result⟩ | result
  · rw [result]
    refine ⟨fun object => ?_, fun object above => ?_⟩
    · rcases ordered.delivered object with ⟨delivered, pending, sent, carried, waiting⟩
      by_cases same : peer = object
      · subst same
        refine ⟨delivered, pending ++ [message.toMessageEnvelope], ?_, carried, ?_⟩
        · simp [sent]
        · simp [channelEndpoint_setQueue, held, waiting peerChannel found]
      refine ⟨delivered, pending, ?_, carried, ?_⟩
      · simpa [Ne.symm same] using sent
      · simpa [channelEndpoint_setQueue, same] using waiting
    · rcases ordered.fresh_setQueue found above with ⟨distinct, absent⟩
      refine ⟨?_, absent⟩
      simpa [Ne.symm distinct] using (ordered.fresh object above).1
  · rw [result]
    exact ⟨ordered.delivered, ordered.fresh⟩

theorem receive (space : Nat) (endpoint : CapabilityHandle) :
    Ordered (system.receive space endpoint) := by
  rcases system.receive_cases space endpoint with
    ⟨source, channel, envelope, queue, found, held, result⟩ | ⟨accepted, result, -⟩
  · rw [result]
    refine ⟨fun object => ?_, fun object above => ?_⟩
    · rcases ordered.delivered object with ⟨delivered, pending, sent, carried, waiting⟩
      by_cases same : source = object
      · subst same
        have front : pending = envelope :: queue.toList :=
          (waiting channel found).symm.trans held
        refine ⟨delivered ++ [envelope], queue.toList, ?_, ?_, ?_⟩
        · simp [sent, front, System.setSpace]
        · simpa using rel_append carried (.cons (observe_carries _) .nil)
        · simp [channelEndpoint_setQueue]
      · refine ⟨delivered, pending, sent, ?_, ?_⟩
        · simpa [Ne.symm same] using carried
        · simpa [channelEndpoint_setQueue, same] using waiting
    · exact ⟨(ordered.fresh object above).1, (ordered.fresh_setQueue found above).2⟩
  · rw [result]
    exact ⟨ordered.delivered, ordered.fresh⟩

end

theorem step {action : Action} (taken : system.step action = some next)
    (ordered : Ordered system) : Ordered next := by
  cases action with
  | capability =>
    rcases Option.ite_none_right_eq_some.mp taken with ⟨-, taken⟩
    cases taken
    exact ⟨ordered.delivered, ordered.fresh⟩
  | createChannelPair =>
    cases taken
    refine (ordered.createObject ?_).createObject ?_ <;>
      rintro _ ⟨⟩ <;> rfl
  | createObject =>
    cases taken
    exact ordered.createObject nofun
  | dropObject object =>
    cases taken
    exact ordered.dropObject object
  | send space endpoint message =>
    rcases Option.ite_none_right_eq_some.mp taken with ⟨-, taken⟩
    cases taken
    exact ordered.send space endpoint message
  | receive space endpoint =>
    cases taken
    exact ordered.receive space endpoint

end Ordered

/-- A refused send restores the sender from before its transfers were prepared;
a refused receive leaves the objects and the receiver's entries; and in every
run an endpoint's receivers get its envelopes once each, in send order, with
exactly the capabilities prepared for them. -/
theorem send_and_receive_all_or_nothing :
    (∀ objects original attachments prepared space handle (message : OutgoingMessage) error
        objectsAfter spaceAfter, prepareAll original attachments = some (prepared, space) →
      message.transfers.Perm prepared →
      send objects space handle message = (.error error, objectsAfter, spaceAfter) →
      objectsAfter = objects ∧ spaceAfter = original) ∧
    (∀ operations history objects handle error objectsAfter spaceAfter,
      run step new operations = some history →
      receive objects history.space handle = (.error error, objectsAfter, spaceAfter) →
      objectsAfter = objects ∧ spaceAfter.entries = history.space.entries) ∧
    (∀ actions system object, run System.step System.new actions = some system →
      ∃ delivered pending, system.sent object = delivered ++ pending ∧
        List.Forall₂ Reception.Carries (system.received object) delivered ∧
        ∀ channel, system.objects.channelEndpoint object = some channel →
          channel.queue.toList = pending) := by
  refine ⟨?_, ?_, ?_⟩
  · intro objects original attachments prepared space handle message error objectsAfter
      spaceAfter preparing attached call
    rcases send_cases call with ⟨_, _, _, _, _, accepted, _⟩ | ⟨-, rfl, rfl⟩
    · cases accepted
    have restores := (Restores.refl original).prepareAll preparing
    rw [append_nil] at restores
    exact ⟨rfl, (restores.perm attached).filter_moved.rollbackAll_eq⟩
  · intro operations history objects handle error objectsAfter spaceAfter reached call
    exact receive_refused reached call
  · intro actions system object reached
    exact (run_preserves Ordered Ordered.step reached Ordered.new).delivered object

def endpointOnly : CapabilitySpace := new.issue ⟨1, .channelEndpoint, none⟩

/-- A message that moves away the endpoint it is sent through. -/
def movesOwnEndpoint : OutgoingMessage :=
  ⟨⟨5, [], [movedTransfer 1 ⟨1, .channelEndpoint, none⟩ .send], none, none, Nat.zero_le _,
    by decide⟩⟩

theorem send_and_receive_all_or_nothing_own_endpoint :
    ∃ space, prepareAll endpointOnly [⟨1, .send, .move⟩] =
        some (movesOwnEndpoint.transfers, space) ∧
      space.entries[1]? = none ∧
      (send ∅ space 1 movesOwnEndpoint).1 = .error (.capability .invalidHandle) ∧
      (send ∅ space 1 movesOwnEndpoint).2.2 = endpointOnly :=
  ⟨_, rfl, by decide +kernel, rfl,
    (send_and_receive_all_or_nothing.1 ∅ endpointOnly [⟨1, .send, .move⟩] _ _ 1
      movesOwnEndpoint (.capability .invalidHandle) _ _ rfl .rfl rfl).2⟩

end ServiceOS.Ipc
