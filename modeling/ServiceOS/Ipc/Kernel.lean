import ServiceOS.Capability.Space
import ServiceOS.Ipc.Types

/-! # Sending and receiving

`IpcKernel` of `ipc/kernel.rs`, one call at a time. A call takes the object
table and the caller's space and returns both; the wakeup that follows a send
concerns the scheduler only. -/

namespace ServiceOS.Ipc

open Capability CapabilitySpace PreparedTransfer List

def OutgoingMessage.movedTransfers (message : OutgoingMessage) : List PreparedTransfer :=
  message.transfers.filter (·.movedSource.isSome)

def rollbackAll (space : CapabilitySpace) (transfers : List PreparedTransfer) : CapabilitySpace :=
  transfers.foldl (fun space transfer => (space.rollbackMoved transfer).2) space

def enqueue (objects : ObjectTable) (senderSpace : CapabilitySpace)
    (endpointHandle : CapabilityHandle) (message : OutgoingMessage) :
    Except IpcError MessageReceipt × ObjectTable :=
  match senderSpace.resolve endpointHandle .send with
  | .error error => (.error (.capability error), objects)
  | .ok endpoint =>
  match objects.channelEndpoint endpoint.object with
  | none => (.error .objectKindMismatch, objects)
  | some channel =>
  match channel.peer.filter (· ∈ objects) with
  | none => (.error .endpointClosed, objects)
  | some peer =>
  match objects.channelEndpoint peer with
  | none => (.error .objectKindMismatch, objects)
  | some peerChannel =>
  if message.replyEndpoint.any fun reply => (objects.channelEndpoint reply.object).isNone then
    (.error .invalidReplyEndpoint, objects)
  else if peerChannel.queue.len ≥ maxQueuedMessagesPerEndpoint then
    (.error (.queueFull peerChannel.queue.len maxQueuedMessagesPerEndpoint), objects)
  else
    match peerChannel.queue.pushBack message.toMessageEnvelope with
    | .error _ =>
      (.error (.queueFull maxQueuedMessagesPerEndpoint maxQueuedMessagesPerEndpoint), objects)
    | .ok queue =>
      (.ok ⟨peer, message.descriptor⟩, objects.setQueue peer peerChannel queue)

def send (objects : ObjectTable) (senderSpace : CapabilitySpace) (endpointHandle : CapabilityHandle)
    (message : OutgoingMessage) : Except IpcError MessageReceipt × ObjectTable × CapabilitySpace :=
  match enqueue objects senderSpace endpointHandle message with
  | (.ok receipt, objects) => (.ok receipt, objects, senderSpace)
  | (.error error, objects) =>
    (.error error, objects, rollbackAll senderSpace message.movedTransfers)

/-- The installing loop: the handles installed so far, and the error that
stopped it. -/
def acceptTransfers (space : CapabilitySpace) :
    List PreparedTransfer → Option CapabilityError × List CapabilityHandle × CapabilitySpace
  | [] => (none, [], space)
  | transfer :: transfers =>
    match space.acceptTransfer transfer with
    | (.error error, space) => (some error, [], space)
    | (.ok handle, space) =>
      match acceptTransfers space transfers with
      | (outcome, handles, space) => (outcome, handle :: handles, space)

def closeAll (space : CapabilitySpace) (handles : List CapabilityHandle) : CapabilitySpace :=
  handles.foldl (fun space handle => (space.close handle).2) space

def installTransferredCapabilities (receiverSpace : CapabilitySpace) (message : MessageEnvelope) :
    Except IpcError (List CapabilityHandle × Option CapabilityHandle) × CapabilitySpace :=
  match acceptTransfers receiverSpace message.capabilities with
  | (some error, handles, space) => (.error (.capability error), closeAll space handles)
  | (none, handles, space) =>
    match message.replyEndpoint with
    | none => (.ok (handles, none), space)
    | some transfer =>
      match space.acceptTransfer transfer with
      | (.ok handle, space) => (.ok (handles, some handle), space)
      | (.error error, space) => (.error (.capability error), closeAll space handles)

def receive (objects : ObjectTable) (receiverSpace : CapabilitySpace)
    (endpointHandle : CapabilityHandle) :
    Except IpcError ReceivedMessage × ObjectTable × CapabilitySpace :=
  match receiverSpace.resolve endpointHandle .receive with
  | .error error => (.error (.capability error), objects, receiverSpace)
  | .ok endpoint =>
  match objects.channelEndpoint endpoint.object with
  | none => (.error .objectKindMismatch, objects, receiverSpace)
  | some channel =>
  match channel.queue.popFront with
  | (none, queue) =>
    (.error .queueEmpty, objects.setQueue endpoint.object channel queue, receiverSpace)
  | (some message, queue) =>
  -- The envelope is off the queue while its capabilities are installed.
  let objects := objects.setQueue endpoint.object channel queue
  match installTransferredCapabilities receiverSpace message with
  | (.ok (handles, replyEndpoint), space) =>
    (.ok ⟨message.tag, message.words, handles, replyEndpoint, message.sharedMemoryHint⟩,
      objects, space)
  | (.error error, space) =>
    match queue.pushFront message with
    | .ok restored => (.error error, objects.setQueue endpoint.object channel restored, space)
    -- The source discards the envelope a full queue hands back.
    | .error _ => (.error error, objects, space)

/-! ## What each call can do -/

variable {next objects : ObjectTable}

theorem enqueue_cases (call : enqueue objects space handle message = (answer, next)) :
    (∃ peer peerChannel queue, objects.channelEndpoint peer = some peerChannel ∧
        peerChannel.queue.pushBack message.toMessageEnvelope = .ok queue ∧
        answer = .ok ⟨peer, message.descriptor⟩ ∧
        next = objects.setQueue peer peerChannel queue) ∨
      (∃ error, answer = .error error) ∧ next = objects := by
  unfold enqueue at call
  -- Every check before the push returns without a write.
  iterate 6
    split at call
    · cases call
      exact .inr ⟨⟨_, rfl⟩, rfl⟩
  split at call
  · cases call
    exact .inr ⟨⟨_, rfl⟩, rfl⟩
  rename_i found _ _ _ queue pushed
  cases call
  exact .inl ⟨_, _, queue, found, pushed, rfl, rfl⟩

theorem send_cases (call : send objects space handle message = (answer, next, spaceAfter)) :
    (∃ peer peerChannel queue, objects.channelEndpoint peer = some peerChannel ∧
        peerChannel.queue.pushBack message.toMessageEnvelope = .ok queue ∧
        answer = .ok ⟨peer, message.descriptor⟩ ∧
        next = objects.setQueue peer peerChannel queue ∧ spaceAfter = space) ∨
      (∃ error, answer = .error error) ∧ next = objects ∧
        spaceAfter = rollbackAll space message.movedTransfers := by
  unfold send at call
  split at call
  next enqueued =>
    cases call
    rcases enqueue_cases enqueued with
      ⟨peer, peerChannel, queue, found, pushed, answered, rfl⟩ | ⟨⟨_, refused⟩, -⟩
    · exact .inl ⟨peer, peerChannel, queue, found, pushed, answered, rfl, rfl⟩
    · cases refused
  rename_i error objectsAfter enqueued
  cases call
  rcases enqueue_cases enqueued with ⟨_, _, _, _, _, accepted, _⟩ | ⟨-, rfl⟩
  · cases accepted
  · exact .inr ⟨⟨error, rfl⟩, rfl, rfl⟩

theorem acceptTransfers_cases {next : CapabilitySpace}
    (call : acceptTransfers space transfers = (outcome, handles, next)) :
    ∃ accepted rest, transfers = accepted ++ rest ∧
      handles = range' space.nextHandle accepted.length ∧
      next = space.issueAll (accepted.map entry) ∧
      (outcome = none → rest = []) := by
  induction transfers generalizing space outcome handles next with
  | nil =>
    cases call
    exact ⟨[], [], rfl, rfl, rfl, fun _ => rfl⟩
  | cons transfer transfers induction =>
    by_cases possible : space.CanIssue
    · rcases rest : acceptTransfers (space.issue transfer.entry) transfers with
        ⟨restOutcome, restHandles, restSpace⟩
      rcases induction rest with ⟨accepted, refused, rfl, rfl, rfl, complete⟩
      rw [acceptTransfers, acceptTransfer, install_of_canIssue possible] at call
      dsimp only at call
      rw [← entry, rest] at call
      cases call
      exact ⟨transfer :: accepted, refused, rfl, rfl, rfl, complete⟩
    · rw [acceptTransfers, acceptTransfer,
        install_of_not_canIssue possible] at call
      cases call
      exact ⟨[], transfer :: transfers, rfl, rfl, rfl, nofun⟩

theorem getElem?_closeAll (space : CapabilitySpace) (handles : List CapabilityHandle)
    (handle : CapabilityHandle) :
    (closeAll space handles).entries[handle]? =
      if handle ∈ handles then none else space.entries[handle]? := by
  induction handles generalizing space with
  | nil => simp [closeAll]
  | cons closed handles induction =>
    rw [closeAll, foldl_cons, ← closeAll, induction, getElem?_close]
    by_cases same : closed = handle
    · simp [same]
    · simp [same, Ne.symm same]

/-- What closing the partial installs leaves of a space that had accepted
`accepted`. -/
def partialInstall (space : CapabilitySpace) (accepted : List PreparedTransfer) : CapabilitySpace :=
  closeAll (space.issueAll (accepted.map entry))
    (range' space.nextHandle accepted.length)

theorem installTransferredCapabilities_cases {next : CapabilitySpace}
    (call : installTransferredCapabilities space message = (answer, next)) :
    (answer = .ok (range' space.nextHandle message.capabilities.length,
          message.replyEndpoint.map fun _ => space.nextHandle + message.capabilities.length) ∧
        next = space.issueAll (message.transfers.map entry)) ∨
      (∃ error accepted, answer = .error error ∧ accepted.IsPrefix message.capabilities ∧
        next = partialInstall space accepted) := by
  unfold installTransferredCapabilities at call
  split at call
  next stopped =>
    cases call
    rcases acceptTransfers_cases stopped with ⟨accepted, rest, split, rfl, rfl, -⟩
    exact .inr ⟨_, accepted, rfl, ⟨rest, split.symm⟩, rfl⟩
  rename_i complete
  rcases acceptTransfers_cases complete with ⟨accepted, rest, split, rfl, rfl, finished⟩
  obtain rfl : message.capabilities = accepted := by
    rw [split, finished rfl, append_nil]
  split at call
  next noReply =>
    cases call
    exact .inl ⟨by rw [noReply]; rfl, by simp [MessageEnvelope.transfers, noReply]⟩
  rename_i reply
  split at call
  next installedReply =>
    cases call
    rcases install_cases installedReply with
      ⟨-, answered, rfl⟩ | ⟨-, refused, -⟩
    · cases answered
      refine .inl ⟨by simp [reply], ?_⟩
      simp [MessageEnvelope.transfers, reply, issueAll, entry]
    · cases refused
  next installedReply =>
    cases call
    rcases install_cases installedReply with
      ⟨-, answered, -⟩ | ⟨-, -, rfl⟩
    · cases answered
    · exact .inr ⟨_, message.capabilities, rfl, prefix_rfl, rfl⟩

/-- The message a receiver gets for `envelope`: its handles follow the counter. -/
def MessageEnvelope.receivedIn (envelope : MessageEnvelope) (space : CapabilitySpace) :
    ReceivedMessage :=
  ⟨envelope.tag, envelope.words, range' space.nextHandle envelope.capabilities.length,
    envelope.replyEndpoint.map fun _ => space.nextHandle + envelope.capabilities.length,
    envelope.sharedMemoryHint⟩

theorem receive_cases (call : receive objects space handle = (answer, next, spaceAfter)) :
    (∃ entry channel envelope queue, space.entries[handle]? = some entry ∧
        objects.channelEndpoint entry.object = some channel ∧
        channel.queue.toList = envelope :: queue.toList ∧
        answer = .ok (envelope.receivedIn space) ∧
        next = objects.setQueue entry.object channel queue ∧
        spaceAfter = space.issueAll (envelope.transfers.map PreparedTransfer.entry)) ∨
      (∃ error accepted, answer = .error error ∧ next = objects ∧
        spaceAfter = partialInstall space accepted ∧
        ∀ transfer ∈ accepted, ∃ object channel envelope,
          objects.channelEndpoint object = some channel ∧ envelope ∈ channel.queue.toList ∧
          transfer ∈ envelope.transfers) := by
  unfold receive at call
  split at call
  · cases call
    exact .inr ⟨_, [], rfl, rfl, rfl, nofun⟩
  rename_i resolved
  rcases resolve_ok resolved with ⟨entry, present, -, rfl⟩
  split at call
  · cases call
    exact .inr ⟨_, [], rfl, rfl, rfl, nofun⟩
  rename_i channel found
  split at call
  next popped =>
    cases call
    rcases Ring.popFront_cases popped with ⟨-, -, rfl⟩ | ⟨_, nonempty, -⟩
    · exact .inr ⟨_, [], rfl, ObjectTable.setQueue_same found, rfl, nofun⟩
    · cases nonempty
  rename_i envelope queue popped
  rcases Ring.popFront_cases popped with ⟨-, absent, -⟩ | ⟨_, nonempty, held, restored⟩
  · cases absent
  cases nonempty
  split at call
  next accepted =>
    cases call
    rcases installTransferredCapabilities_cases accepted with
      ⟨answered, rfl⟩ | ⟨_, _, refused, -⟩
    · cases answered
      exact .inl ⟨entry, channel, envelope, queue, present, found, held, rfl, rfl, rfl⟩
    · cases refused
  next refused =>
    rw [restored] at call
    cases call
    rcases installTransferredCapabilities_cases refused with
      ⟨answered, -⟩ | ⟨_, accepted, answered, within, rfl⟩
    · cases answered
    refine .inr ⟨_, accepted, rfl, ?_, rfl, ?_⟩
    · rw [ObjectTable.setQueue_setQueue, ObjectTable.setQueue_same found]
    intro transfer member
    refine ⟨entry.object, channel, envelope, found, by simp [held], ?_⟩
    exact mem_append_left _ (within.subset member)

end ServiceOS.Ipc
