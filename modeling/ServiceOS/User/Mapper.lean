import ServiceOS.User.Types

/-! # The page tables of an address space

What the loader and the memory calls rely on a page mapper to do, and a
four-level one that does it. -/

namespace ServiceOS.User

open Memory Table

/-- The operations of a page mapper on the tables of one address space. A page
is named by its first address, and `lookup` gives the frame and the permissions
it is mapped with. -/
structure UserPageMapper (Space : Type) where
  mapPage : Space → (page frame : Nat) → MappingFlags → FrameSystem →
    Except MappingError Unit × Space × FrameSystem
  unmapPage : Space → (page : Nat) → Except MappingError Unit × Space
  updateProtection : Space → (page : Nat) → MappingFlags → Except MappingError Unit × Space
  lookup : Space → (page : Nat) → Option (Nat × MappingFlags)
  lookup_aligned : ∀ {space page entry}, lookup space page = some entry → page % pageSizeBytes = 0
  lookup_lt : ∀ {space page entry}, lookup space page = some entry → page < Word.limit
  mapPage_allocates : ∀ {space mapped page frame flags frames after answer},
    mapPage space page frame flags frames = (answer, mapped, after) →
    ∃ new, Allocations frames new after
  /-- Only an aligned page that is not mapped yet can be mapped. -/
  mapPage_ok : ∀ {space mapped page frame flags frames after answer},
    mapPage space page frame flags frames = (.ok answer, mapped, after) →
    page % pageSizeBytes = 0 ∧ lookup space page = none ∧
      ∀ other, lookup mapped other = if other = page then some (frame, flags)
        else lookup space other
  mapPage_error : ∀ {space mapped page frame flags frames after error},
    mapPage space page frame flags frames = (.error error, mapped, after) →
    ∀ other, lookup mapped other = lookup space other
  unmapPage_other : ∀ {space unmapped page answer},
    unmapPage space page = (answer, unmapped) →
    ∀ other, other ≠ page → lookup unmapped other = lookup space other
  updateProtection_other : ∀ {space changed page flags answer},
    updateProtection space page flags = (answer, changed) →
    ∀ other, other ≠ page → lookup changed other = lookup space other
  updateProtection_frame : ∀ {space changed page flags answer},
    updateProtection space page flags = (answer, changed) →
    (lookup changed page).map Prod.fst = (lookup space page).map Prod.fst

def UserPageMapper.frameOf {Space : Type} (mapper : UserPageMapper Space) (space : Space)
    (page : Nat) : Option Nat :=
  (mapper.lookup space page).map Prod.fst

theorem UserPageMapper.frameOf_aligned (mapper : UserPageMapper Space)
    (found : mapper.frameOf space page = some frame) : page % pageSizeBytes = 0 := by
  rcases Option.map_eq_some_iff.mp found with ⟨entry, mapped, -⟩
  exact mapper.lookup_aligned mapped

/-! ## Finding a page in a tree of tables -/

namespace FourLevel

def find : (below : Nat) → Table (below + 1) → (page : Nat) → Option Nat
  | 0, table, page => (table (entryIndex 0 page)).map Prod.fst
  | below + 1, table, page =>
    match table (entryIndex (below + 1) page) with
    | some (_, some child) => find below child page
    | _ => none

/-- Pages are told apart by the entries on the way to them. -/
theorem mod_eq_iff (below other page : Nat) :
    other % 512 ^ (below + 2) = page % 512 ^ (below + 2) ↔
      entryIndex (below + 1) other = entryIndex (below + 1) page ∧
        other % 512 ^ (below + 1) = page % 512 ^ (below + 1) := by
  simp only [entryIndex, Fin.mk.injEq]
  constructor
  · intro same
    rw [Nat.pow_succ 512 (below + 1)] at same
    constructor
    · rw [← Nat.mod_mul_right_div_self, ← Nat.mod_mul_right_div_self, same]
    · rw [← Nat.mod_mod_of_dvd other ⟨512, rfl⟩, ← Nat.mod_mod_of_dvd page ⟨512, rfl⟩, same]
  · rintro ⟨high, low⟩
    rw [Nat.mod_pow_succ, high, low, ← Nat.mod_pow_succ]

theorem entryIndex_zero_eq_iff (other page : Nat) :
    entryIndex 0 other = entryIndex 0 page ↔ other % 512 ^ 1 = page % 512 ^ 1 := by
  simp [entryIndex]

theorem find_set_succ (table : Table (below + 2)) (page next other : Nat)
    (child : Table (below + 1)) :
    find (below + 1)
      (table.set (entryIndex (below + 1) page) (some (next, some child))) other =
      if entryIndex (below + 1) other = entryIndex (below + 1) page then
        find below child other
      else find (below + 1) table other := by
  by_cases high : entryIndex (below + 1) other = entryIndex (below + 1) page
  · have entry : table.set (entryIndex (below + 1) page) (some (next, some child))
        (entryIndex (below + 1) other) = some (next, some child) := if_pos high
    rw [find, entry, if_pos high]
  have entry : table.set (entryIndex (below + 1) page) (some (next, some child))
      (entryIndex (below + 1) other) = table (entryIndex (below + 1) other) :=
    if_neg high
  rw [find, entry, if_neg high, find]

/-- What a mapping changes. One that runs out of frames may leave tables, with no page in them. -/
def MapsIn (below page frame : Nat) (table mapped : Table (below + 1)) :
    Except MappingError Unit → Prop
  | .ok _ => find below table page = none ∧ ∀ other, find below mapped other =
      if other % 512 ^ (below + 1) = page % 512 ^ (below + 1) then some frame
      else find below table other
  | .error _ => ∀ other, find below mapped other = find below table other

variable {space : Space}

theorem MapsIn.below_entry (maps : MapsIn below page frame child mapped result)
    (same : ∀ other, entryIndex (below + 1) other = entryIndex (below + 1) page →
      find (below + 1) table other = find below child other) :
    MapsIn (below + 1) page frame table
      (table.set (entryIndex (below + 1) page) (some (next, some mapped))) result := by
  cases result with
  | error =>
    intro other
    rw [find_set_succ, maps other]
    split
    next high => exact (same other high).symm
    · rfl
  | ok =>
    refine ⟨(same page rfl).trans maps.1, fun other => ?_⟩
    rw [find_set_succ, maps.2 other]
    by_cases high : entryIndex (below + 1) other = entryIndex (below + 1) page
    · simp only [mod_eq_iff, high, true_and, if_true, same other high]
    · simp only [mod_eq_iff, high, false_and, if_false]

theorem mapsIn_mapInto (call : mapInto below table page frame frames = (result, mapped, after)) :
    MapsIn below page frame table mapped result := by
  induction below generalizing frames after with
  | zero =>
    rw [mapInto] at call
    split at call
    · cases call
      exact fun _ => rfl
    rename_i vacant
    cases call
    refine ⟨by rw [find, vacant]; rfl, fun other => ?_⟩
    simp only [find, Table.set, entryIndex_zero_eq_iff]
    split <;> rfl
  | succ below induction =>
    rw [mapInto] at call
    split at call
    · cases call
      exact fun _ => rfl
    next child present =>
      rcases inner : mapInto below child page frame frames with ⟨_, mappedChild, _⟩
      rw [inner] at call
      cases call
      exact (induction inner).below_entry fun other high => by rw [find, high, present]
    rename_i vacant
    split at call
    · cases call
      exact fun _ => rfl
    rename_i granted created
    rcases inner : mapInto below (empty below) page frame granted with
      ⟨_, mappedChild, _⟩
    rw [inner] at call
    cases call
    exact (induction inner).below_entry fun other high => by
      rw [find, high, vacant]
      cases below <;> rfl

theorem find_unmapFrom (call : Table.unmapFrom below table page = (answer, unmapped))
    (different : other % 512 ^ (below + 1) ≠ page % 512 ^ (below + 1)) :
    find below unmapped other = find below table other := by
  induction below generalizing answer with
  | zero =>
    cases call
    rw [ne_eq, ← entryIndex_zero_eq_iff] at different
    simp only [find, Table.set, if_neg different]
  | succ below induction =>
    rw [Table.unmapFrom] at call
    split at call
    · cases call
      rfl
    · cases call
      rfl
    rename_i next child present
    rcases inner : Table.unmapFrom below child page with ⟨_, unmappedChild⟩
    rw [inner] at call
    cases call
    rw [find_set_succ]
    split
    next high =>
      rw [ne_eq, mod_eq_iff, not_and] at different
      rw [induction inner (different high), find, high, present]
    · rfl

/-! ## The four-level mapper -/

structure Space where
  table : Table 4
  /-- The permissions pages were mapped or changed to, latest first. -/
  flags : List (Nat × MappingFlags)

def Reachable (page : Nat) : Prop := page % pageSizeBytes = 0 ∧ page < 2 ^ 47
deriving Decidable

def lookup (space : Space) (page : Nat) : Option (Nat × MappingFlags) :=
  if Reachable page then
    (find 3 space.table (page / pageSizeBytes)).map fun frame =>
      (frame * pageSizeBytes, (space.flags.lookup page).getD ⟨false, false, false⟩)
  else
    none

def mapPage (space : Space) (page frame : Nat) (flags : MappingFlags) (frames : FrameSystem) :
    Except MappingError Unit × Space × FrameSystem :=
  if page % pageSizeBytes = 0 ∧ frame % pageSizeBytes = 0 then
    if page < 2 ^ 47 then
      match mapInto 3 space.table (page / pageSizeBytes) (frame / pageSizeBytes) frames with
      | (.error error, table, frames) => (.error error, { space with table := table }, frames)
      | (.ok _, table, frames) => (.ok (), ⟨table, (page, flags) :: space.flags⟩, frames)
    else
      (.error .unsupported, space, frames)
  else
    (.error .addressAlignment, space, frames)

def unmapPage (space : Space) (page : Nat) : Except MappingError Unit × Space :=
  if page % pageSizeBytes = 0 then
    if page < 2 ^ 47 then
      match unmapFrom 3 space.table (page / pageSizeBytes) with
      | (answer, table) => (answer, { space with table := table })
    else
      (.error .unsupported, space)
  else
    (.error .addressAlignment, space)

def updateProtection (space : Space) (page : Nat) (flags : MappingFlags) :
    Except MappingError Unit × Space :=
  if page % pageSizeBytes = 0 then
    if (lookup space page).isSome then
      (.ok (), { space with flags := (page, flags) :: space.flags })
    else
      (.error .unsupported, space)
  else
    (.error .addressAlignment, space)

/-- Reachable pages have different numbers below the root's reach. -/
theorem mod_ne_of_ne (otherReachable : Reachable other)
    (pageReachable : Reachable page) (different : other ≠ page) :
    other / pageSizeBytes % 512 ^ 4 ≠ page / pageSizeBytes % 512 ^ 4 := by
  rcases otherReachable with ⟨otherAligned, otherLow⟩
  rcases pageReachable with ⟨pageAligned, pageLow⟩
  simp only [pageSizeBytes] at *
  omega

theorem lookup_cons_of_ne (different : other ≠ page) :
    ((page, flags) :: space.flags).lookup other = space.flags.lookup other := by
  rw [List.lookup_cons, beq_false_of_ne different]

variable {table : Table 4}

theorem lookup_mapped (reachable : Reachable page) (aligned : frame % pageSizeBytes = 0)
    (call : mapInto 3 space.table (page / pageSizeBytes) (frame / pageSizeBytes) frames =
      (.ok answer, table, after)) :
    lookup ⟨table, (page, flags) :: space.flags⟩ other =
      if other = page then some (frame, flags) else lookup space other := by
  have found := (mapsIn_mapInto call).2 (other / pageSizeBytes)
  by_cases same : other = page
  · subst same
    have whole : frame / pageSizeBytes * pageSizeBytes = frame :=
      Nat.div_mul_cancel (Nat.dvd_of_mod_eq_zero aligned)
    simp [lookup, reachable, found, whole]
  by_cases otherReachable : Reachable other
  · rw [if_neg (mod_ne_of_ne otherReachable reachable same)] at found
    simp only [lookup, if_pos otherReachable, found, lookup_cons_of_ne same, if_neg same]
  · simp only [lookup, if_neg otherReachable, if_neg same]

theorem lookup_of_find
    (same : find 3 table (other / pageSizeBytes) = find 3 space.table (other / pageSizeBytes)) :
    lookup { space with table := table } other = lookup space other := by
  simp only [lookup, same]

def mapper : UserPageMapper Space where
  mapPage := mapPage
  unmapPage := unmapPage
  updateProtection := updateProtection
  lookup := lookup
  lookup_aligned {space page entry} found := (Option.ite_none_right_eq_some.mp found).1.1
  lookup_lt {space page entry} found :=
    Nat.lt_trans (Option.ite_none_right_eq_some.mp found).1.2 (by decide)
  mapPage_allocates {space mapped page frame flags frames after answer} call := by
    unfold mapPage at call
    split at call
    · split at call
      · rcases inner : mapInto 3 space.table (page / pageSizeBytes)
          (frame / pageSizeBytes) frames with ⟨_ | _, table, granted⟩
        all_goals
          rw [inner] at call
          cases call
          rcases mapInto_spec inner with ⟨new, allocations, -⟩
          exact ⟨new, allocations⟩
      · cases call
        exact ⟨[], .none⟩
    · cases call
      exact ⟨[], .none⟩
  mapPage_ok {space mapped page frame flags frames after answer} call := by
    unfold mapPage at call
    split at call
    next aligned =>
      split at call
      next low =>
        split at call
        · cases call
        rename_i _ table granted inner
        cases call
        have reachable : Reachable page := ⟨aligned.1, low⟩
        refine ⟨aligned.1, ?_, fun other => lookup_mapped reachable aligned.2 inner⟩
        simp [lookup, (mapsIn_mapInto inner).1]
      · cases call
    · cases call
  mapPage_error {space mapped page frame flags frames after error} call other := by
    unfold mapPage at call
    split at call
    · split at call
      · split at call
        next inner =>
          cases call
          exact lookup_of_find (mapsIn_mapInto inner _)
        · cases call
      · cases call
        rfl
    · cases call
      rfl
  unmapPage_other {space unmapped page answer} call other different := by
    unfold unmapPage at call
    split at call
    next aligned =>
      split at call
      next low =>
        cases call
        by_cases reachable : Reachable other
        · exact lookup_of_find
            (find_unmapFrom rfl (mod_ne_of_ne reachable ⟨aligned, low⟩ different))
        · simp only [lookup, if_neg reachable]
      · cases call
        rfl
    · cases call
      rfl
  updateProtection_other {space changed page flags answer} call other different := by
    unfold updateProtection at call
    split at call
    · split at call
      · cases call
        simp only [lookup, lookup_cons_of_ne different]
      · cases call
        rfl
    · cases call
      rfl
  updateProtection_frame {space changed page flags answer} call := by
    unfold updateProtection at call
    split at call
    · split at call
      · cases call
        simp only [lookup]
        split
        · simp only [Option.map_map]
          rfl
        · rfl
      · cases call
        rfl
    · cases call
      rfl

end FourLevel
end ServiceOS.User
