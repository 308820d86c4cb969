import ServiceOS.Ipc.System

/-! # Authority only descends

Every right in a space, in a prepared transfer or in a queued envelope goes
back to an entry the kernel installed for the same object. -/

namespace ServiceOS.Ipc

open Capability Execution CapabilitySpace ObjectTable List

/-- Some kernel-installed entry for `object` has these rights. -/
def Authorized (installed : List CapabilityEntry) (object : ObjectId)
    (rights : CapabilityRights) : Prop :=
  ∃ source ∈ installed, source.object = object ∧ source.rights.contains rights = true

theorem Authorized.of_contains (authorized : Authorized installed object rights)
    (contained : rights.contains derived = true) : Authorized installed object derived := by
  rcases authorized with ⟨source, member, same, within⟩
  exact ⟨source, member, same, CapabilityRights.contains_trans within contained⟩

theorem Authorized.mono (authorized : Authorized installed object rights)
    (subset : installed ⊆ more) : Authorized more object rights := by
  rcases authorized with ⟨source, member, same, within⟩
  exact ⟨source, subset member, same, within⟩

/-- Both what a transfer grants and what its rollback would restore. -/
structure TransferAuthorized (installed : List CapabilityEntry)
    (transfer : PreparedTransfer) : Prop where
  granted : Authorized installed transfer.object transfer.rights
  restored : ∀ rights, transfer.movedSourceRights = some rights →
    Authorized installed transfer.object rights

def SpaceAuthorized (installed : List CapabilityEntry) (space : CapabilitySpace) : Prop :=
  ∀ (handle : CapabilityHandle) (entry : CapabilityEntry),
    space.entries[handle]? = some entry → Authorized installed entry.object entry.rights

section

variable {space next : CapabilitySpace}

theorem TransferAuthorized.mono (authorized : TransferAuthorized installed transfer)
    (subset : installed ⊆ more) : TransferAuthorized more transfer :=
  ⟨authorized.granted.mono subset,
    fun rights recorded => (authorized.restored rights recorded).mono subset⟩

section

variable (authorized : SpaceAuthorized installed space)

include authorized

theorem SpaceAuthorized.mono (subset : installed ⊆ more) : SpaceAuthorized more space :=
  fun handle entry found => (authorized handle entry found).mono subset

theorem SpaceAuthorized.insertEntry (source : CapabilityHandle)
    (granted : Authorized installed entry.object entry.rights) :
    SpaceAuthorized installed (space.insertEntry source entry) := by
  intro handle found present
  rw [getElem?_insertEntry] at present
  split at present
  · cases present
    exact granted
  · exact authorized handle found present

theorem SpaceAuthorized.issue (granted : Authorized installed entry.object entry.rights) :
    SpaceAuthorized installed (space.issue entry) :=
  authorized.insertEntry space.nextHandle granted

theorem SpaceAuthorized.removeEntry
    (source : CapabilityHandle) : SpaceAuthorized installed (space.removeEntry source) := by
  intro handle found present
  rw [getElem?_removeEntry] at present
  split at present
  · cases present
  · exact authorized handle found present

theorem SpaceAuthorized.issueAll {entries : List CapabilityEntry}
    (granted : ∀ entry ∈ entries, Authorized installed entry.object entry.rights) :
    SpaceAuthorized installed (space.issueAll entries) := by
  induction entries generalizing space with
  | nil => exact authorized
  | cons entry entries induction =>
    rcases forall_mem_cons.mp granted with ⟨here, rest⟩
    exact induction (authorized.issue here) rest

theorem SpaceAuthorized.closeAll
    (handles : List CapabilityHandle) : SpaceAuthorized installed (closeAll space handles) := by
  intro handle found present
  rw [getElem?_closeAll] at present
  split at present
  · cases present
  · exact authorized handle found present

theorem SpaceAuthorized.rollbackMoved (known : TransferAuthorized installed transfer) :
    SpaceAuthorized installed (space.rollbackMoved transfer).2 := by
  rcases call : space.rollbackMoved transfer with ⟨restored, next⟩
  rcases rollbackMoved_cases call with
    ⟨source, rights, -, recorded, -, -, rfl⟩ | ⟨-, rfl, -⟩
  · exact authorized.insertEntry source (known.restored rights recorded)
  · exact authorized

theorem SpaceAuthorized.rollbackAll
    (known : ∀ transfer ∈ transfers, TransferAuthorized installed transfer) :
    SpaceAuthorized installed (rollbackAll space transfers) := by
  induction transfers generalizing space with
  | nil => exact authorized
  | cons transfer transfers induction =>
    rcases forall_mem_cons.mp known with ⟨here, rest⟩
    exact induction (authorized.rollbackMoved here) rest

theorem SpaceAuthorized.install (granted : Authorized installed object rights) :
    SpaceAuthorized installed (space.install object rights badge).2 := by
  rcases call : space.install object rights badge with ⟨answer, next⟩
  rcases install_cases call with ⟨-, -, rfl⟩ | ⟨-, -, rfl⟩
  · exact authorized.issue granted
  · exact authorized

/-- One operation on one space, given that the transfers handed to it are
authorized. -/
theorem SpaceAuthorized.perform (call : space.perform operation = (answer, next))
    (known : ∀ transfer ∈ System.transfersOf operation, TransferAuthorized installed transfer) :
    SpaceAuthorized (System.installedBy operation answer ++ installed) next ∧
      ∀ transfer ∈ History.preparedBy answer,
        TransferAuthorized (System.installedBy operation answer ++ installed) transfer := by
  cases operation with
  | install object rights badge =>
    rcases installCall : space.install object rights badge with ⟨result, installedSpace⟩
    rw [CapabilitySpace.perform, installCall] at call
    cases call
    rcases CapabilitySpace.install_cases installCall with ⟨-, rfl, rfl⟩ | ⟨-, rfl, rfl⟩
    · refine ⟨(authorized.mono (subset_cons_self _ _)).issue ?_, forall_mem_nil _⟩
      exact ⟨_, mem_cons_self, rfl, CapabilityRights.contains_self rights⟩
    · exact ⟨authorized, forall_mem_nil _⟩
  | duplicate source requested badgeOverride =>
    rcases duplicateCall : space.duplicate source requested badgeOverride with ⟨result, after⟩
    rw [CapabilitySpace.perform, duplicateCall] at call
    cases call
    rcases CapabilitySpace.duplicate_cases duplicateCall with
      ⟨entry, found, contained, -, rfl, rfl⟩ | ⟨⟨_, rfl⟩, rfl⟩
    · exact ⟨authorized.issue ((authorized source entry found).of_contains contained),
        forall_mem_nil _⟩
    · exact ⟨authorized, forall_mem_nil _⟩
  | prepareTransfer handle requested mode =>
    rcases prepareCall : space.prepareTransfer handle requested mode with ⟨result, after⟩
    rw [CapabilitySpace.perform, prepareCall] at call
    cases call
    rcases CapabilitySpace.prepareTransfer_cases prepareCall with
      ⟨entry, found, contained, -, rfl, rfl⟩ | ⟨entry, found, contained, -, rfl, rfl⟩ |
      ⟨⟨_, rfl⟩, rfl⟩
    · refine ⟨authorized.removeEntry handle, forall_mem_singleton.mpr ⟨?_, ?_⟩⟩
      · exact (authorized handle entry found).of_contains contained
      intro rights recorded
      cases recorded
      exact authorized handle entry found
    · refine ⟨authorized, forall_mem_singleton.mpr ⟨?_, fun _ moved => ?_⟩⟩
      · exact (authorized handle entry found).of_contains contained
      cases moved
    · exact ⟨authorized, forall_mem_nil _⟩
  | rollbackMoved transfer =>
    cases call
    exact ⟨authorized.rollbackMoved (known transfer mem_cons_self), forall_mem_nil _⟩
  | acceptTransfer transfer =>
    cases call
    exact ⟨authorized.install (known transfer mem_cons_self).granted, forall_mem_nil _⟩
  | close handle =>
    rcases closeCall : space.close handle with ⟨result, after⟩
    rw [CapabilitySpace.perform, closeCall] at call
    cases call
    rcases CapabilitySpace.close_cases closeCall with ⟨_, -, -, rfl⟩ | ⟨-, -, rfl⟩
    · exact ⟨authorized.removeEntry handle, forall_mem_nil _⟩
    · exact ⟨authorized, forall_mem_nil _⟩

end

end

/-! ## The whole system -/

structure AuthorityDescends (system : System) : Prop where
  spaces : ∀ space, SpaceAuthorized system.installed (system.spaces space)
  prepared : ∀ transfer ∈ system.prepared, TransferAuthorized system.installed transfer
  queued : ∀ object channel, system.objects.channelEndpoint object = some channel →
    ∀ envelope ∈ channel.queue.toList, ∀ transfer ∈ envelope.transfers,
      TransferAuthorized system.installed transfer

namespace AuthorityDescends

theorem new : AuthorityDescends System.new where
  spaces := by simp [SpaceAuthorized, System.new, CapabilitySpace.new]
  prepared := by simp [System.new]
  queued := by simp [System.new, channelEndpoint]

variable {system next : System}

theorem setSpace {after : CapabilitySpace}
    (others : ∀ other, SpaceAuthorized installed (system.spaces other))
    (changed : SpaceAuthorized installed after) (other : Nat) :
    SpaceAuthorized installed ((system.setSpace space after).spaces other) := by
  by_cases same : other = space
  · subst same
    simpa [System.setSpace] using changed
  · simpa [System.setSpace, same] using others other

section

variable (descends : AuthorityDescends system)

include descends

theorem setQueue (held : ∀ envelope ∈ queue.toList, ∀ transfer ∈ envelope.transfers,
      TransferAuthorized system.installed transfer) :
    ∀ other state, (system.objects.setQueue object channel queue).channelEndpoint other =
        some state → ∀ envelope ∈ state.queue.toList, ∀ transfer ∈ envelope.transfers,
      TransferAuthorized system.installed transfer := by
  intro other state found
  rw [channelEndpoint_setQueue] at found
  split at found
  · cases found
    exact held
  · exact descends.queued other state found

theorem capability (known : ∀ transfer ∈ System.transfersOf operation, transfer ∈ system.prepared) :
    AuthorityDescends (system.capability space operation) := by
  rcases call : (system.spaces space).perform operation with ⟨answer, after⟩
  have performed := (descends.spaces space).perform call
    fun transfer member => descends.prepared transfer (known transfer member)
  have grows : system.installed ⊆ System.installedBy operation answer ++ system.installed :=
    subset_append_right _ _
  simp only [System.capability, call]
  refine ⟨?_, ?_, ?_⟩
  · exact setSpace (fun other => (descends.spaces other).mono grows) performed.1
  · intro transfer member
    rcases mem_append.mp member with fresh | older
    · exact performed.2 transfer fresh
    · exact (descends.prepared transfer older).mono grows
  · intro object channel found envelope held transfer member
    exact (descends.queued object channel found envelope held transfer member).mono grows

theorem createObject
    (vacant : ∀ channel, object = .channelEndpoint channel → channel.queue.toList = []) :
    AuthorityDescends (system.createObject object) := by
  refine ⟨descends.spaces, descends.prepared, ?_⟩
  intro other channel found envelope held
  rw [channelEndpoint_eq_some, System.createObject, Std.ExtTreeMap.getElem?_insert] at found
  split at found
  · cases found
    simp [vacant channel rfl] at held
  · exact descends.queued other channel (channelEndpoint_eq_some.mpr found)
      envelope held

theorem dropObject (object : ObjectId) : AuthorityDescends (system.dropObject object) := by
  refine ⟨descends.spaces, descends.prepared, ?_⟩
  intro other channel found
  rw [channelEndpoint_eq_some, System.dropObject, Std.ExtTreeMap.getElem?_erase] at found
  split at found
  · cases found
  · exact descends.queued other channel (channelEndpoint_eq_some.mpr found)

theorem send {endpoint : CapabilityHandle}
    (known : ∀ transfer ∈ message.transfers, transfer ∈ system.prepared) :
    AuthorityDescends (system.send space endpoint message) := by
  have attached : ∀ transfer ∈ message.transfers,
      TransferAuthorized system.installed transfer :=
    fun transfer member => descends.prepared transfer (known transfer member)
  rcases system.send_cases space endpoint message with
    ⟨peer, peerChannel, queue, found, held, result⟩ | result
  · rw [result]
    refine ⟨setSpace descends.spaces (descends.spaces space), descends.prepared,
      descends.setQueue ?_⟩
    rw [held]
    intro envelope member
    rcases mem_append.mp member with older | fresh
    · exact descends.queued peer peerChannel found envelope older
    · exact mem_singleton.mp fresh ▸ attached
  · rw [result]
    refine ⟨setSpace descends.spaces ?_, descends.prepared, descends.queued⟩
    exact (descends.spaces space).rollbackAll
      fun transfer member => attached transfer (mem_of_mem_filter member)

theorem receive (space : Nat)
    (endpoint : CapabilityHandle) : AuthorityDescends (system.receive space endpoint) := by
  rcases system.receive_cases space endpoint with
    ⟨object, channel, envelope, queue, found, held, result⟩ | ⟨accepted, result, queued⟩
  · have carried := descends.queued object channel found
    rw [held] at carried
    rw [result]
    refine ⟨setSpace descends.spaces ((descends.spaces space).issueAll ?_), descends.prepared,
      descends.setQueue fun other member => carried other (mem_cons_of_mem _ member)⟩
    intro installed member
    rcases mem_map.mp member with ⟨transfer, attached, rfl⟩
    exact (carried envelope mem_cons_self transfer attached).granted
  · rw [result]
    refine ⟨setSpace descends.spaces (((descends.spaces space).issueAll ?_).closeAll _),
      descends.prepared, descends.queued⟩
    intro installed member
    rcases mem_map.mp member with ⟨transfer, attached, rfl⟩
    rcases queued transfer attached with ⟨object, channel, envelope, found, waiting, carried⟩
    exact (descends.queued object channel found envelope waiting transfer carried).granted

end

theorem step (taken : system.step action = some next)
    (descends : AuthorityDescends system) : AuthorityDescends next := by
  cases action with
  | capability =>
    rcases Option.ite_none_right_eq_some.mp taken with ⟨known, taken⟩
    cases taken
    exact descends.capability known
  | createChannelPair =>
    cases taken
    refine (descends.createObject ?_).createObject ?_ <;>
      rintro _ ⟨⟩ <;> rfl
  | createObject =>
    cases taken
    exact descends.createObject nofun
  | dropObject object =>
    cases taken
    exact descends.dropObject object
  | send =>
    rcases Option.ite_none_right_eq_some.mp taken with ⟨known, taken⟩
    cases taken
    exact descends.send known
  | receive space endpoint =>
    cases taken
    exact descends.receive space endpoint

end AuthorityDescends

/-- In every state of every run, each right held by a space, granted or
restorable by a prepared transfer, or granted by an envelope is one the kernel
installed for that object. -/
theorem no_authority_amplification {actions : List Action} {system : System}
    (reached : run System.step System.new actions = some system) :
    (∀ space (handle : CapabilityHandle) entry,
        (system.spaces space).entries[handle]? = some entry →
        ∃ source ∈ system.installed, source.object = entry.object ∧
          source.rights.contains entry.rights = true) ∧
      (∀ transfer ∈ system.prepared, ∀ rights,
        rights = transfer.rights ∨ transfer.movedSourceRights = some rights →
        ∃ source ∈ system.installed, source.object = transfer.object ∧
          source.rights.contains rights = true) ∧
      (∀ object channel, system.objects.channelEndpoint object = some channel →
        ∀ envelope ∈ channel.queue.toList, ∀ transfer ∈ envelope.transfers,
          ∃ source ∈ system.installed, source.object = transfer.object ∧
            source.rights.contains transfer.rights = true) := by
  have descends : AuthorityDescends system :=
    run_preserves AuthorityDescends AuthorityDescends.step reached AuthorityDescends.new
  refine ⟨descends.spaces, ?_, ?_⟩
  · intro transfer member rights which
    rcases which with rfl | recorded
    · exact (descends.prepared transfer member).granted
    · exact (descends.prepared transfer member).restored rights recorded
  · exact fun object channel found envelope held transfer member =>
      (descends.queued object channel found envelope held transfer member).granted

/-- A memory capability moved, with `read` only, from one space to another. -/
def movedThroughChannel : List Action :=
  [.createChannelPair, .capability 0 (.install 1 .channelEndpoint none),
    .capability 0 (.install 7 .memoryObject (some 3)),
    .capability 0 (.prepareTransfer 2 .read .move),
    .send 0 1 ⟨⟨5, [], [movedTransfer 2 ⟨7, .memoryObject, some 3⟩ .read],
      none, none, Nat.zero_le _, by decide⟩⟩,
    .capability 1 (.install 2 .channelEndpoint none), .receive 1 1]

theorem no_authority_amplification_when_moved :
    ∃ system, run System.step System.new movedThroughChannel = some system ∧
      (system.spaces 1).entries[2]? = some ⟨7, .read, some 3⟩ ∧
      ∃ source ∈ system.installed, source.object = 7 ∧ source.rights.contains .read = true := by
  refine ⟨_, rfl, by decide +kernel, ?_⟩
  exact (no_authority_amplification (rfl : run _ _ movedThroughChannel = some _)).1 1 2
    ⟨7, .read, some 3⟩ (by decide +kernel)

end ServiceOS.Ipc
