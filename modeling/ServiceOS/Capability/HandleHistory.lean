import ServiceOS.Foundation.Execution
import ServiceOS.Capability.Space

/-! # The history of one capability space

A space together with everything it has ever issued. The counter bounds every
issued handle, so no handle is issued twice, and a handle resolves only to the
entry it was issued for. -/

namespace ServiceOS.Capability

open CapabilitySpace (getElem?_issue getElem?_removeEntry getElem?_insertEntry)

open Execution List

inductive Operation
  | install (object : ObjectId) (rights : CapabilityRights) (badge : Badge)
  | duplicate (source : CapabilityHandle) (requested : CapabilityRights)
      (badgeOverride : Option Badge)
  | prepareTransfer (handle : CapabilityHandle) (requested : CapabilityRights)
      (mode : TransferMode)
  | rollbackMoved (transfer : PreparedTransfer)
  | acceptTransfer (transfer : PreparedTransfer)
  | close (handle : CapabilityHandle)

inductive Answer
  | handle (answer : Except CapabilityError CapabilityHandle)
  | transfer (answer : Except CapabilityError PreparedTransfer)
  | restored (answer : Bool)
  | descriptor (answer : Except CapabilityError CapabilityDescriptor)

def Operation.Allocates : Operation → Prop
  | .install .. | .duplicate .. | .acceptTransfer .. => True
  | _ => False

def CapabilitySpace.perform (space : CapabilitySpace) : Operation → Answer × CapabilitySpace
  | .install object rights badge => (space.install object rights badge).map .handle id
  | .duplicate source requested badgeOverride =>
    (space.duplicate source requested badgeOverride).map .handle id
  | .prepareTransfer handle requested mode =>
    (space.prepareTransfer handle requested mode).map .transfer id
  | .rollbackMoved transfer => (space.rollbackMoved transfer).map .restored id
  | .acceptTransfer transfer => (space.acceptTransfer transfer).map .handle id
  | .close handle => (space.close handle).map .descriptor id

structure History where
  space : CapabilitySpace
  /-- Transfers prepared in this space. A `PreparedTransfer` can be cloned, so
  none ever leaves the list. -/
  prepared : List PreparedTransfer
  /-- Every handle returned so far with the entry it named, newest first. -/
  issued : List (CapabilityHandle × CapabilityEntry)

variable {operations : List Operation} {history : History}

namespace History

def new : History := ⟨.new, [], []⟩

def preparedBy : Answer → List PreparedTransfer
  | .transfer (.ok transfer) => [transfer]
  | _ => []

def issuedBy (space : CapabilitySpace) : Answer → List (CapabilityHandle × CapabilityEntry)
  | .handle (.ok handle) => space.entries[handle]?.toList.map (handle, ·)
  | _ => []

/-- The history after an operation the space answers with `performed`. -/
def after (history : History) (performed : Answer × CapabilitySpace) : History :=
  ⟨performed.2, preparedBy performed.1 ++ history.prepared,
    issuedBy performed.2 performed.1 ++ history.issued⟩

/-- A rollback names a transfer this space prepared; an accepted transfer may
come from anywhere. -/
def step (history : History) (operation : Operation) : Option History :=
  let next := history.after (history.space.perform operation)
  match operation with
  | .rollbackMoved transfer => if transfer ∈ history.prepared then some next else none
  | _ => some next

def handles (history : History) : List CapabilityHandle := history.issued.map Prod.fst

structure Consistent (history : History) : Prop where
  issued_lt : ∀ pair ∈ history.issued, pair.1 < history.space.nextHandle
  handles_nodup : history.handles.Nodup
  /-- A handle resolves only to the entry it was issued for. -/
  entry_issued : ∀ handle entry, history.space.entries[handle]? = some entry →
    (handle, entry) ∈ history.issued
  /-- What a rollback would restore is what the handle was issued for. -/
  moved_issued : ∀ transfer ∈ history.prepared, ∀ source rights,
    transfer.movedSource = some source → transfer.movedSourceRights = some rights →
    (source, CapabilitySpace.restoredEntry transfer rights) ∈ history.issued

theorem new_consistent : new.Consistent where
  issued_lt := by simp [new]
  handles_nodup := by simp [new, handles]
  entry_issued := by simp [new, CapabilitySpace.new]
  moved_issued := by simp [new]

/-! ## The three ways a space changes -/

variable {next final start : History}

section

variable (consistent : history.Consistent)

include consistent

theorem Consistent.issue (entry : CapabilityEntry) :
    Consistent ⟨history.space.issue entry, history.prepared,
      (history.space.nextHandle, entry) :: history.issued⟩ where
  issued_lt := by
    intro pair member
    rcases mem_cons.mp member with rfl | older
    · simp
    · exact Nat.lt_succ_of_lt (consistent.issued_lt pair older)
  handles_nodup := by
    refine nodup_cons.mpr ⟨?_, consistent.handles_nodup⟩
    intro member
    rcases mem_map.mp member with ⟨pair, older, equal⟩
    have below : pair.1 < history.space.nextHandle := consistent.issued_lt pair older
    exact Nat.ne_of_lt below equal
  entry_issued := by
    intro handle found present
    rw [getElem?_issue] at present
    split at present
    next same =>
      cases present
      exact same ▸ mem_cons_self
    · exact mem_cons_of_mem _ (consistent.entry_issued handle found present)
  moved_issued := by
    intro transfer member source rights moved recorded
    exact mem_cons_of_mem _
      (consistent.moved_issued transfer member source rights moved recorded)

theorem Consistent.removeEntry (handle : CapabilityHandle) :
    Consistent { history with space := history.space.removeEntry handle } where
  issued_lt := consistent.issued_lt
  handles_nodup := consistent.handles_nodup
  entry_issued := by
    intro other found present
    rw [getElem?_removeEntry] at present
    split at present
    · cases present
    · exact consistent.entry_issued other found present
  moved_issued := consistent.moved_issued

theorem Consistent.insertEntry (known : (source, entry) ∈ history.issued) :
    Consistent { history with space := history.space.insertEntry source entry } where
  issued_lt := consistent.issued_lt
  handles_nodup := consistent.handles_nodup
  entry_issued := by
    intro handle found present
    rw [getElem?_insertEntry] at present
    split at present
    next same =>
      cases present
      exact same ▸ known
    · exact consistent.entry_issued handle found present
  moved_issued := consistent.moved_issued

/-- A new prepared transfer only adds the obligation that what it would
restore was issued. -/
theorem Consistent.prepare (moved : ∀ source rights, transfer.movedSource = some source →
      transfer.movedSourceRights = some rights →
      (source, CapabilitySpace.restoredEntry transfer rights) ∈ history.issued) :
    Consistent { history with prepared := transfer :: history.prepared } where
  issued_lt := consistent.issued_lt
  handles_nodup := consistent.handles_nodup
  entry_issued := consistent.entry_issued
  moved_issued := by
    intro other member
    rcases mem_cons.mp member with rfl | older
    · exact moved
    · exact consistent.moved_issued other older

end

/-! ## What a step does to the history -/

theorem entry_at_issue (space : CapabilitySpace) (entry : CapabilityEntry) :
    issuedBy (space.issue entry) (.handle (.ok space.nextHandle)) =
      [(space.nextHandle, entry)] := by
  simp [issuedBy, getElem?_issue]

/-- Everything a step can do to a history. -/
inductive Change (history : History) : Operation → History → Prop
  | issue {operation} (entry : CapabilityEntry) (allocates : operation.Allocates)
      (answered : (history.space.perform operation).1 = .handle (.ok history.space.nextHandle)) :
      Change history operation ⟨history.space.issue entry, history.prepared,
        (history.space.nextHandle, entry) :: history.issued⟩
  | move {requested} (handle : CapabilityHandle) (entry : CapabilityEntry)
      (found : history.space.entries[handle]? = some entry) :
      Change history (.prepareTransfer handle requested .move)
        ⟨history.space.removeEntry handle,
          CapabilitySpace.movedTransfer handle entry requested :: history.prepared,
          history.issued⟩
  | copy {requested} (handle : CapabilityHandle) (entry : CapabilityEntry) :
      Change history (.prepareTransfer handle requested .copy)
        ⟨history.space, CapabilitySpace.copiedTransfer entry requested :: history.prepared,
          history.issued⟩
  | rollback {transfer source rights} (member : transfer ∈ history.prepared)
      (moved : transfer.movedSource = some source)
      (recorded : transfer.movedSourceRights = some rights) :
      Change history (.rollbackMoved transfer)
        ⟨history.space.insertEntry source (CapabilitySpace.restoredEntry transfer rights),
          history.prepared, history.issued⟩
  | close (handle : CapabilityHandle) :
      Change history (.close handle)
        ⟨history.space.removeEntry handle, history.prepared, history.issued⟩
  | unchanged {operation}
      (refused : ∀ handle, (history.space.perform operation).1 ≠ .handle (.ok handle)) :
      Change history operation history

theorem change_of_issue (allocates : operation.Allocates)
    (performed : history.space.perform operation =
      (.handle (.ok history.space.nextHandle), history.space.issue entry)) :
    history.Change operation (history.after (history.space.perform operation)) := by
  rw [performed, after, entry_at_issue]
  exact .issue entry allocates (congrArg Prod.fst performed)

theorem change_of_refusal (performed : history.space.perform operation = (answer, history.space))
    (noHandle : ∀ handle, answer ≠ .handle (.ok handle)) (noTransfer : preparedBy answer = []) :
    history.Change operation (history.after (history.space.perform operation)) := by
  have noIssue : issuedBy history.space answer = [] := by
    cases answer with
    | handle answer =>
      cases answer with
      | error => rfl
      | ok handle => exact absurd rfl (noHandle handle)
    | _ => rfl
  rw [performed, after, noTransfer, noIssue]
  exact .unchanged (by rw [performed]; exact noHandle)

theorem change_of_install (allocates : operation.Allocates)
    (performed : history.space.perform operation =
      (history.space.install object rights badge).map .handle id) :
    history.Change operation (history.after (history.space.perform operation)) := by
  rcases call : history.space.install object rights badge with ⟨answer, space⟩
  rw [call] at performed
  rcases CapabilitySpace.install_cases call with ⟨-, rfl, rfl⟩ | ⟨-, rfl, rfl⟩
  · exact change_of_issue allocates performed
  · exact change_of_refusal performed (by simp) rfl

theorem step_change
    (taken : history.step operation = some next) : history.Change operation next := by
  cases operation with
  | install object rights badge | acceptTransfer transfer =>
    cases taken
    exact change_of_install trivial rfl
  | duplicate source requested badgeOverride =>
    cases taken
    rcases call : history.space.duplicate source requested badgeOverride with ⟨answer, space⟩
    have performed : history.space.perform (.duplicate source requested badgeOverride) =
        (.handle answer, space) := by rw [CapabilitySpace.perform, call]; rfl
    rcases CapabilitySpace.duplicate_cases call with
      ⟨entry, -, -, -, rfl, rfl⟩ | ⟨⟨error, rfl⟩, rfl⟩
    · exact change_of_issue trivial performed
    · exact change_of_refusal performed (by simp) rfl
  | prepareTransfer handle requested mode =>
    cases taken
    rcases call : history.space.prepareTransfer handle requested mode with ⟨answer, space⟩
    have performed : history.space.perform (.prepareTransfer handle requested mode) =
        (.transfer answer, space) := by rw [CapabilitySpace.perform, call]; rfl
    rcases CapabilitySpace.prepareTransfer_cases call with
      ⟨entry, found, -, rfl, rfl, rfl⟩ | ⟨entry, -, -, rfl, rfl, rfl⟩ | ⟨⟨error, rfl⟩, rfl⟩
    · rw [performed]
      exact .move handle entry found
    · rw [performed]
      exact .copy handle entry
    · exact change_of_refusal performed (by simp) rfl
  | rollbackMoved transfer =>
    simp only [step] at taken
    split at taken
    next member =>
      cases taken
      rcases call : history.space.rollbackMoved transfer with ⟨answer, space⟩
      have performed : history.space.perform (.rollbackMoved transfer) =
          (.restored answer, space) := by rw [CapabilitySpace.perform, call]; rfl
      rcases CapabilitySpace.rollbackMoved_cases call with
        ⟨source, rights, moved, recorded, -, rfl, rfl⟩ | ⟨rfl, rfl, -⟩
      · rw [performed]
        exact .rollback member moved recorded
      · exact change_of_refusal performed (by simp) rfl
    · cases taken
  | close handle =>
    cases taken
    rcases call : history.space.close handle with ⟨answer, space⟩
    have performed : history.space.perform (.close handle) = (.descriptor answer, space) := by
      rw [CapabilitySpace.perform, call]; rfl
    rcases CapabilitySpace.close_cases call with ⟨entry, -, rfl, rfl⟩ | ⟨-, rfl, rfl⟩
    · rw [performed]
      exact .close handle
    · exact change_of_refusal performed (by simp) rfl

theorem Change.consistent (change : history.Change operation next)
    (consistent : history.Consistent) : next.Consistent := by
  cases change with
  | issue entry => exact consistent.issue entry
  | move handle entry found =>
    apply (consistent.removeEntry handle).prepare
    intro source rights moved recorded
    cases moved
    cases recorded
    exact consistent.entry_issued handle entry found
  | copy =>
    apply consistent.prepare
    intro source rights moved
    cases moved
  | @rollback transfer source rights member moved recorded =>
    exact consistent.insertEntry
      (consistent.moved_issued transfer member source rights moved recorded)
  | close handle => exact consistent.removeEntry handle
  | unchanged => exact consistent

section

variable (execution : run step start operations = some final)

include execution

theorem consistent_of_run (consistent : start.Consistent) : final.Consistent :=
  run_preserves Consistent (fun taken holds => (step_change taken).consistent holds)
    execution consistent

theorem issued_subset_of_run : start.issued ⊆ final.issued := by
  refine run_relates (fun first second => first.issued ⊆ second.issued)
    (fun _ => List.Subset.refl _) List.Subset.trans ?_ execution
  intro state next operation taken
  cases step_change taken with
  | issue => exact subset_cons_self _ _
  | _ => exact List.Subset.refl _

end

theorem Consistent.entry_unique (consistent : history.Consistent)
    (left : (handle, first) ∈ history.issued) (right : (handle, second) ∈ history.issued) :
    first = second := by
  have equal := inj_on_of_nodup_map consistent.handles_nodup left right rfl
  exact (Prod.mk.inj equal).2

/-! ## Handles are never reused -/

theorem Change.handles_eq (change : history.Change operation next) :
    next.handles = match (history.space.perform operation).1 with
      | .handle (.ok handle) => handle :: history.handles
      | _ => history.handles := by
  cases change with
  | issue entry allocates answered => rw [answered]; rfl
  | unchanged refused =>
    split
    next handle answered => exact absurd answered (refused handle)
    · rfl
  | _ => rfl

/-- An absent handle comes to resolve only as the answer of an allocating
operation or by a rollback, which restores what it was issued for. -/
theorem Change.appears (change : history.Change operation next) (consistent : history.Consistent)
    (absent : history.space.entries[handle]? = none)
    (present : next.space.entries[handle]? = some entry) :
    (history.space.perform operation).1 = .handle (.ok handle) ∨
      (∃ transfer, operation = .rollbackMoved transfer) ∧ (handle, entry) ∈ history.issued := by
  cases change with
  | issue issued allocates answered =>
    rw [getElem?_issue] at present
    split at present
    next same => exact .inl (same ▸ answered)
    · simp [absent] at present
  | @rollback transfer source rights member moved recorded =>
    rw [getElem?_insertEntry] at present
    split at present
    next same =>
      cases present
      exact .inr ⟨⟨transfer, rfl⟩,
        same ▸ consistent.moved_issued transfer member source rights moved recorded⟩
    · simp [absent] at present
  | move removed | close removed =>
    rw [getElem?_removeEntry, absent] at present
    split at present <;> cases present
  | copy | unchanged => simp [absent] at present

theorem perform_of_exhausted {space : CapabilitySpace} (exhausted : ¬space.CanIssue)
    (allocates : operation.Allocates) :
    ∃ error, space.perform operation = (.handle (.error error), space) := by
  cases operation with
  | install =>
    exact ⟨_, by rw [CapabilitySpace.perform,
      CapabilitySpace.install_of_not_canIssue exhausted]; rfl⟩
  | acceptTransfer =>
    exact ⟨_, by rw [CapabilitySpace.perform, CapabilitySpace.acceptTransfer,
      CapabilitySpace.install_of_not_canIssue exhausted]; rfl⟩
  | duplicate source requested badgeOverride =>
    rcases call : space.duplicate source requested badgeOverride with ⟨answer, next⟩
    rcases CapabilitySpace.duplicate_cases call with
      ⟨entry, -, -, possible, -, -⟩ | ⟨⟨error, rfl⟩, rfl⟩
    · exact absurd possible exhausted
    · exact ⟨error, by rw [CapabilitySpace.perform, call]; rfl⟩
  | _ => exact allocates.elim

/-- In every run of one space: a returned handle is none that was returned
before; an absent handle resolves again only through a rollback, and then to
the entry it was issued for; two states of the run never resolve one handle
differently; and an exhausted counter refuses without a change. -/
theorem handles_never_reused (reached : run step new operations = some history) :
    history.handles.Nodup ∧
      (∀ operation next, history.step operation = some next →
        (∀ handle, (history.space.perform operation).1 = .handle (.ok handle) →
          handle ∉ history.handles ∧ next.handles = handle :: history.handles) ∧
        ((∀ handle, (history.space.perform operation).1 ≠ .handle (.ok handle)) →
          next.handles = history.handles) ∧
        (∀ handle entry, history.space.entries[handle]? = none →
          next.space.entries[handle]? = some entry →
          (history.space.perform operation).1 = .handle (.ok handle) ∨
            (∃ transfer, operation = .rollbackMoved transfer) ∧ (handle, entry) ∈ history.issued)) ∧
      (∀ later final (handle : CapabilityHandle) earlierEntry laterEntry,
        run step history later = some final →
        history.space.entries[handle]? = some earlierEntry →
        final.space.entries[handle]? = some laterEntry → laterEntry = earlierEntry) ∧
      (¬history.space.CanIssue → ∀ operation, operation.Allocates →
        ∃ error, history.space.perform operation = (.handle (.error error), history.space)) := by
  have consistent : history.Consistent := consistent_of_run reached new_consistent
  refine ⟨consistent.handles_nodup, ?_, ?_, fun exhausted _ => perform_of_exhausted exhausted⟩
  · intro operation next taken
    have change := step_change taken
    have logged := change.handles_eq
    refine ⟨?_, ?_, fun handle entry => change.appears consistent⟩
    · intro handle answered
      rw [answered] at logged
      have fresh := (change.consistent consistent).handles_nodup
      rw [logged] at fresh
      exact ⟨(nodup_cons.mp fresh).1, logged⟩
    intro refused
    rw [logged]
    split
    next handle answered => exact absurd answered (refused handle)
    · rfl
  · intro later final handle earlierEntry laterEntry continued before afterwards
    have finalConsistent := consistent_of_run continued consistent
    exact finalConsistent.entry_unique (finalConsistent.entry_issued _ _ afterwards)
      (issued_subset_of_run continued (consistent.entry_issued _ _ before))

/-- A capability moved out and back, with another one installed in between. -/
def movedAndRolledBack : List Operation :=
  [.install 7 .memoryObject (some 9), .prepareTransfer 1 .read .move,
    .install 8 .memoryObject none,
    .rollbackMoved (CapabilitySpace.movedTransfer 1 ⟨7, .memoryObject, some 9⟩ .read)]

theorem handles_never_reused_when_rolled_back :
    ∃ history, run step new movedAndRolledBack = some history ∧
      history.handles = [2, 1] ∧ history.handles.Nodup ∧
      history.space.entries[1]? = some ⟨7, .memoryObject, some 9⟩ :=
  ⟨_, rfl, by decide +kernel,
    (handles_never_reused (rfl : run step new movedAndRolledBack = some _)).1,
    by decide +kernel⟩

end History
end ServiceOS.Capability
