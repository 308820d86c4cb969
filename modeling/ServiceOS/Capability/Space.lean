import ServiceOS.Capability.Types

/-! # Capability spaces

The operations of `capability/space.rs`. Each runs under the lock of its space
and is a function from the space before to its answer and the space after. -/

namespace ServiceOS.Capability

open List
open Std (ExtTreeMap)

structure CapabilityEntry where
  object : ObjectId
  rights : CapabilityRights
  badge : Badge
deriving DecidableEq

/-- `CapabilitySpaceState`. -/
structure CapabilitySpace where
  nextHandle : Nat
  entries : ExtTreeMap CapabilityHandle CapabilityEntry

def PreparedTransfer.entry (transfer : PreparedTransfer) : CapabilityEntry :=
  ⟨transfer.object, transfer.rights, transfer.badge⟩

namespace CapabilitySpace

def new : CapabilitySpace := ⟨1, ∅⟩

variable (space : CapabilitySpace)

def insertEntry (handle : CapabilityHandle) (entry : CapabilityEntry) : CapabilitySpace :=
  { space with entries := space.entries.insert handle entry }

def removeEntry (handle : CapabilityHandle) : CapabilitySpace :=
  { space with entries := space.entries.erase handle }

/-- Handles are `u32`: the counter may reach `u32::MAX` but not pass it. -/
def allocateHandle : Except CapabilityError CapabilityHandle × CapabilitySpace :=
  if space.nextHandle + 1 < 2 ^ 32 then
    (.ok space.nextHandle, { space with nextHandle := space.nextHandle + 1 })
  else
    (.error .handleSpaceExhausted, space)

def install (object : ObjectId) (rights : CapabilityRights)
    (badge : Badge) : Except CapabilityError CapabilityHandle × CapabilitySpace :=
  match space.allocateHandle with
  | (.error error, space) => (.error error, space)
  | (.ok handle, space) =>
    (.ok handle, space.insertEntry handle ⟨object, rights, badge⟩)

def resolve (handle : CapabilityHandle)
    (required : CapabilityRights) : Except CapabilityError CapabilityView :=
  match space.entries[handle]? with
  | none => .error .invalidHandle
  | some entry =>
    if entry.rights.contains required then
      .ok ⟨handle, entry.object, entry.rights, entry.badge⟩
    else
      .error (.rightsViolation required entry.rights)

/-- `badgeOverride` is `Option<Option<u64>>`: absent keeps the source's badge. -/
def duplicate (source : CapabilityHandle) (requested : CapabilityRights)
    (badgeOverride : Option Badge) : Except CapabilityError CapabilityHandle × CapabilitySpace :=
  match space.entries[source]? with
  | none => (.error .invalidHandle, space)
  | some entry =>
    if !entry.rights.contains .duplicate then
      (.error .duplicateForbidden, space)
    else if !entry.rights.contains requested then
      (.error .requestedRightsExceedSource, space)
    else
      match space.allocateHandle with
      | (.error error, space) => (.error error, space)
      | (.ok handle, space) =>
        (.ok handle, space.insertEntry handle
          ⟨entry.object, requested, badgeOverride.getD entry.badge⟩)

def prepareTransfer (handle : CapabilityHandle)
    (requested : CapabilityRights) (mode : TransferMode) :
    Except CapabilityError PreparedTransfer × CapabilitySpace :=
  match space.entries[handle]? with
  | none => (.error .invalidHandle, space)
  | some entry =>
    if !entry.rights.contains .transfer then
      (.error .transferForbidden, space)
    else if mode = .copy ∧ !entry.rights.contains .duplicate then
      (.error .duplicateForbidden, space)
    else if !entry.rights.contains requested then
      (.error .requestedRightsExceedSource, space)
    else
      match mode with
      | .move =>
        (.ok ⟨entry.object, requested, entry.badge, some handle, some entry.rights,
            some entry.badge⟩,
          space.removeEntry handle)
      | .copy => (.ok ⟨entry.object, requested, entry.badge, none, none, none⟩, space)

variable (transfer : PreparedTransfer)

/-- Put back the handle a `move` removed. Only an absent slot is filled. -/
def rollbackMoved : Bool × CapabilitySpace :=
  match transfer.movedSource with
  | none => (false, space)
  | some source =>
    match transfer.movedSourceRights with
    | none => (false, space)
    | some rights =>
      if source ∈ space.entries then
        (false, space)
      else
        (true, space.insertEntry source
          ⟨transfer.object, rights, transfer.movedSourceBadge.getD transfer.badge⟩)

def acceptTransfer : Except CapabilityError CapabilityHandle × CapabilitySpace :=
  space.install transfer.object transfer.rights transfer.badge

def close (handle : CapabilityHandle) :
    Except CapabilityError CapabilityDescriptor × CapabilitySpace :=
  match space.entries[handle]? with
  | none => (.error .invalidHandle, space)
  | some entry =>
    (.ok ⟨handle, entry.object, entry.rights, entry.badge⟩, space.removeEntry handle)

def resolveDescriptor (handle : CapabilityHandle) : Option CapabilityDescriptor :=
  space.entries[handle]?.map fun entry => ⟨handle, entry.object, entry.rights, entry.badge⟩

/-! ## What each operation can do

One lemma an operation, naming every answer with the guards that lead to it.
Later files reason from these and never unfold the operations. -/

def issue (entry : CapabilityEntry) : CapabilitySpace :=
  ⟨space.nextHandle + 1, space.entries.insert space.nextHandle entry⟩

def CanIssue : Prop := space.nextHandle + 1 < 2 ^ 32
deriving Decidable

variable {space} {next : CapabilitySpace}

theorem install_of_canIssue (possible : space.CanIssue)
    (object : ObjectId) (rights : CapabilityRights) (badge : Badge) :
    space.install object rights badge =
      (.ok space.nextHandle, space.issue ⟨object, rights, badge⟩) := by
  have bound : space.nextHandle + 1 < 2 ^ 32 := possible
  simp only [install, allocateHandle, if_pos bound]
  rfl

theorem install_of_not_canIssue (exhausted : ¬space.CanIssue)
    (object : ObjectId) (rights : CapabilityRights) (badge : Badge) :
    space.install object rights badge = (.error .handleSpaceExhausted, space) := by
  have bound : ¬space.nextHandle + 1 < 2 ^ 32 := exhausted
  simp only [install, allocateHandle, if_neg bound]

theorem install_cases (call : space.install object rights badge = (answer, next)) :
    (space.CanIssue ∧ answer = .ok space.nextHandle ∧
        next = space.issue ⟨object, rights, badge⟩) ∨
      (¬space.CanIssue ∧ answer = .error .handleSpaceExhausted ∧ next = space) := by
  by_cases possible : space.CanIssue
  · rw [install_of_canIssue possible] at call
    cases call
    exact .inl ⟨possible, rfl, rfl⟩
  rw [install_of_not_canIssue possible] at call
  cases call
  exact .inr ⟨possible, rfl, rfl⟩

theorem resolve_ok (resolved : space.resolve handle required = .ok view) :
    ∃ entry, space.entries[handle]? = some entry ∧
      entry.rights.contains required = true ∧
      view = ⟨handle, entry.object, entry.rights, entry.badge⟩ := by
  unfold resolve at resolved
  split at resolved
  · cases resolved
  rename_i entry found
  split at resolved
  next contained =>
    cases resolved
    exact ⟨entry, found, contained, rfl⟩
  · cases resolved

theorem duplicate_cases (call : space.duplicate source requested badgeOverride = (answer, next)) :
    (∃ entry, space.entries[source]? = some entry ∧
        entry.rights.contains requested = true ∧ space.CanIssue ∧
        answer = .ok space.nextHandle ∧
        next = space.issue ⟨entry.object, requested, badgeOverride.getD entry.badge⟩) ∨
      (∃ error, answer = .error error) ∧ next = space := by
  unfold duplicate at call
  split at call
  · cases call
    exact .inr ⟨⟨_, rfl⟩, rfl⟩
  rename_i entry found
  split at call
  · cases call
    exact .inr ⟨⟨_, rfl⟩, rfl⟩
  split at call
  · cases call
    exact .inr ⟨⟨_, rfl⟩, rfl⟩
  rename_i contained
  by_cases possible : space.CanIssue
  · have bound : space.nextHandle + 1 < 2 ^ 32 := possible
    simp only [allocateHandle, if_pos bound] at call
    cases call
    exact .inl ⟨entry, found, by simpa using contained, possible, rfl, rfl⟩
  have bound : ¬space.nextHandle + 1 < 2 ^ 32 := possible
  simp only [allocateHandle, if_neg bound] at call
  cases call
  exact .inr ⟨⟨_, rfl⟩, rfl⟩

def movedTransfer (handle : CapabilityHandle) (entry : CapabilityEntry)
    (requested : CapabilityRights) : PreparedTransfer :=
  ⟨entry.object, requested, entry.badge, some handle, some entry.rights, some entry.badge⟩

def copiedTransfer (entry : CapabilityEntry) (requested : CapabilityRights) : PreparedTransfer :=
  ⟨entry.object, requested, entry.badge, none, none, none⟩

theorem prepareTransfer_cases
    (call : space.prepareTransfer handle requested mode = (answer, next)) :
    (∃ entry, space.entries[handle]? = some entry ∧
        entry.rights.contains requested = true ∧ mode = .move ∧
        answer = .ok (movedTransfer handle entry requested) ∧
        next = space.removeEntry handle) ∨
      (∃ entry, space.entries[handle]? = some entry ∧
        entry.rights.contains requested = true ∧ mode = .copy ∧
        answer = .ok (copiedTransfer entry requested) ∧ next = space) ∨
      (∃ error, answer = .error error) ∧ next = space := by
  unfold prepareTransfer at call
  split at call
  · cases call
    exact .inr (.inr ⟨⟨_, rfl⟩, rfl⟩)
  rename_i entry found
  split at call
  · cases call
    exact .inr (.inr ⟨⟨_, rfl⟩, rfl⟩)
  split at call
  · cases call
    exact .inr (.inr ⟨⟨_, rfl⟩, rfl⟩)
  split at call
  · cases call
    exact .inr (.inr ⟨⟨_, rfl⟩, rfl⟩)
  rename_i contained
  have within : entry.rights.contains requested = true := by simpa using contained
  cases mode with
  | move =>
    cases call
    exact .inl ⟨entry, found, within, rfl, rfl, rfl⟩
  | copy =>
    cases call
    exact .inr (.inl ⟨entry, found, within, rfl, rfl, rfl⟩)

/-- The entry a rollback of `transfer` restores, given the recorded rights. -/
def restoredEntry (rights : CapabilityRights) : CapabilityEntry :=
  ⟨transfer.object, rights, transfer.movedSourceBadge.getD transfer.badge⟩

theorem rollbackMoved_cases {transfer : PreparedTransfer}
    (call : space.rollbackMoved transfer = (restored, next)) :
    (∃ source rights, transfer.movedSource = some source ∧
        transfer.movedSourceRights = some rights ∧ space.entries[source]? = none ∧
        restored = true ∧ next = space.insertEntry source (restoredEntry transfer rights)) ∨
      (restored = false ∧ next = space ∧
        ∀ source, transfer.movedSource = some source → transfer.movedSourceRights ≠ none →
          space.entries[source]? ≠ none) := by
  unfold rollbackMoved at call
  split at call
  next unmoved =>
    cases call
    exact .inr ⟨rfl, rfl, by simp [unmoved]⟩
  rename_i source moved
  split at call
  next unrecorded =>
    cases call
    exact .inr ⟨rfl, rfl, by simp [unrecorded]⟩
  rename_i rights recorded
  split at call
  next present =>
    cases call
    refine .inr ⟨rfl, rfl, fun other same _ absent => ?_⟩
    cases moved.symm.trans same
    rw [ExtTreeMap.mem_iff_isSome_getElem?, absent] at present
    cases present
  rename_i absent
  cases call
  exact .inl ⟨source, rights, moved, recorded, ExtTreeMap.getElem?_eq_none absent, rfl, rfl⟩

theorem close_cases (call : space.close handle = (answer, next)) :
    (∃ entry, space.entries[handle]? = some entry ∧
        answer = .ok ⟨handle, entry.object, entry.rights, entry.badge⟩ ∧
        next = space.removeEntry handle) ∨
      (space.entries[handle]? = none ∧ answer = .error .invalidHandle ∧ next = space) := by
  unfold close at call
  split at call
  · cases call
    exact .inr ⟨by assumption, rfl, rfl⟩
  rename_i entry found
  cases call
  exact .inl ⟨entry, found, rfl, rfl⟩

/-! ## Entries after an update -/

section

variable (space)

theorem getElem?_issue (entry : CapabilityEntry) (handle : CapabilityHandle) :
    (space.issue entry).entries[handle]? =
      if space.nextHandle = handle then some entry else space.entries[handle]? := by
  simp [issue, ExtTreeMap.getElem?_insert]

theorem getElem?_insertEntry (source : CapabilityHandle)
    (entry : CapabilityEntry) (handle : CapabilityHandle) :
    (space.insertEntry source entry).entries[handle]? =
      if source = handle then some entry else space.entries[handle]? := by
  simp [insertEntry, ExtTreeMap.getElem?_insert]

theorem getElem?_removeEntry (source handle : CapabilityHandle) :
    (space.removeEntry source).entries[handle]? =
      if source = handle then none else space.entries[handle]? := by
  simp [removeEntry, ExtTreeMap.getElem?_erase]

@[simp] theorem nextHandle_issue (entry : CapabilityEntry) :
    (space.issue entry).nextHandle = space.nextHandle + 1 := rfl

theorem getElem?_close (handle other : CapabilityHandle) :
    (space.close handle).2.entries[other]? =
      if handle = other then none else space.entries[other]? := by
  rcases call : space.close handle with ⟨answer, next⟩
  rcases close_cases call with ⟨entry, -, -, rfl⟩ | ⟨absent, -, rfl⟩
  · exact getElem?_removeEntry ..
  split
  next same => exact same ▸ absent
  · rfl

/-! ## Issuing several handles -/

variable (entries : List CapabilityEntry)

def issueAll : CapabilitySpace :=
  entries.foldl issue space

@[simp] theorem nextHandle_issueAll :
    (space.issueAll entries).nextHandle = space.nextHandle + entries.length := by
  induction entries generalizing space with
  | nil => rfl
  | cons entry entries induction =>
    rw [issueAll, foldl_cons, ← issueAll, induction, nextHandle_issue, length_cons]
    omega

/-- The new handles follow the counter and name the entries in order. -/
theorem getElem?_issueAll (handle : Nat) :
    (space.issueAll entries).entries[handle]? =
      if space.nextHandle ≤ handle ∧ handle < space.nextHandle + entries.length then
        entries[handle - space.nextHandle]?
      else
        space.entries[handle]? := by
  induction entries generalizing space with
  | nil =>
    rw [if_neg (by rw [length_nil]; omega)]
    rfl
  | cons entry entries induction =>
    rw [issueAll, foldl_cons, ← issueAll, induction, nextHandle_issue, getElem?_issue, length_cons]
    rcases Nat.lt_trichotomy handle space.nextHandle with before | rfl | afterwards
    · rw [if_neg (by omega), if_neg (by omega), if_neg (by omega)]
    · rw [if_neg (by omega), if_pos rfl, if_pos (by omega), Nat.sub_self]
      rfl
    have shifted : handle - space.nextHandle = handle - (space.nextHandle + 1) + 1 := by omega
    have window : space.nextHandle + 1 ≤ handle ∧
          handle < space.nextHandle + 1 + entries.length ↔
        space.nextHandle ≤ handle ∧ handle < space.nextHandle + (entries.length + 1) := by
      omega
    have distinct : space.nextHandle ≠ handle := by omega
    simp only [window, if_neg distinct, shifted, getElem?_cons_succ]

end

end CapabilitySpace

end ServiceOS.Capability
