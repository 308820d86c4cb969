import ServiceOS.Storage.Mount

/-! # Paths

`path.rs`: looking entries up by path and composing the paths a directory session
names. -/

namespace ServiceOS.Storage

open ByteString List

def findMutableEntry (entries : EntryTable) (path : Octets) : Option Nat :=
  entries.position fun entry => entry.path.val == path

def findMutableDirectory (entries : EntryTable) (path : Octets) : Option Nat :=
  (findMutableEntry entries path).filter fun index =>
    (entries.get? index).any fun entry => entry.kind == .directory

def mountAllowsWrite (mounts : MountTable) (path : Octets) : Bool :=
  (storageResolveMount mounts path).any StorageMount.writable

def isMutablePath (mounts : MountTable) (path : Octets) : Bool := mountAllowsWrite mounts path

def validDirectoryPath (path : Octets) : Bool := path.isEmpty || endsWithSlash path

def pathMatchesPrefix (path stem : Octets) : Bool := stem.isPrefixOf path

def EntrySlot.matches (entry : EntrySlot) (path : Octets) : Bool := entry.path.val == path

def bootDirectoryExists (entries : List EntrySlot) (path : Octets) : Bool :=
  entries.any fun entry =>
    path.length < entry.path.val.length && pathMatchesPrefix entry.path.val path

def mutableDirectoryHasChildren (entries : EntryTable) (path : Octets) : Bool :=
  (entries.position fun entry =>
    path.length < entry.path.val.length && pathMatchesPrefix entry.path.val path).isSome

def directoryExists (entries : List EntrySlot) (mutableEntries : EntryTable) (path : Octets) :
    Bool :=
  path.isEmpty || bootDirectoryExists entries path ||
    (findMutableDirectory mutableEntries path).isSome

def directoryOpenable (mounts : MountTable) (entries : List EntrySlot)
    (mutableEntries : EntryTable) (path : Octets) : Bool :=
  path.isEmpty || storagePathIsMountRoot mounts path ||
    directoryExists entries mutableEntries path

def subtreeHasEntries (entries : List EntrySlot) (mutableEntries : EntryTable)
    (root : Octets) : Bool :=
  if root.isEmpty then
    false
  else
    bootDirectoryExists entries root ||
      (mutableEntries.position fun entry => root.isPrefixOf entry.path.val).isSome

/-- The child of a directory a path leads through. -/
def directoryChildFromPath (path stem : Octets) : Option (Octets × StorageEntryKind) :=
  if !pathMatchesPrefix path stem || path.length == stem.length then
    none
  else
    match (path.drop stem.length).idxOf? slash with
    | none => some (path, .file)
    | some 0 => none
    | some componentLen => some (path.take (stem.length + componentLen + 1), .directory)

/-! ## Entries by path -/

section

theorem findMutableEntry_eq_some (found : findMutableEntry mutableEntries path = some index) :
    ∃ entry, mutableEntries.get? index = some entry ∧ entry.path.val = path := by
  rcases Slots.position_eq_some found with ⟨entry, held, same⟩
  exact ⟨entry, held, eq_of_beq same⟩

theorem findMutableEntry_eq_none :
    findMutableEntry mutableEntries path = none ↔
      ∀ index entry, mutableEntries.get? index = some entry → entry.path.val ≠ path := by
  rw [findMutableEntry, Slots.position_eq_none]
  simp only [beq_eq_false_iff_ne]

end

variable {path parent component longer relative : Octets}

theorem findMutableDirectory_isSome (found : (findMutableDirectory entries path).isSome = true) :
    ∃ index entry, entries.get? index = some entry ∧ entry.path.val = path ∧
      entry.kind = .directory := by
  rcases Option.isSome_iff_exists.mp found with ⟨index, position⟩
  rcases Option.filter_eq_some_iff.mp position with ⟨first, directory⟩
  rcases findMutableEntry_eq_some first with ⟨entry, held, named⟩
  rw [held] at directory
  exact ⟨index, entry, held, named, eq_of_beq directory⟩

def DistinctPaths (entries : EntryTable) : Prop :=
  ∀ ⦃first second entry other⦄, entries.get? first = some entry →
    entries.get? second = some other → entry.path = other.path → first = second

theorem distinctPaths_empty : DistinctPaths (.empty _) := by
  intro first second entry other held
  rw [Slots.get?_empty] at held
  cases held

theorem DistinctPaths.set_some (distinct : DistinctPaths entries)
    (apart : ∀ place other, entries.get? place = some other → other.path = entry.path →
      place = index) : DistinctPaths (entries.set index (some entry)) :=
  fun _ _ _ _ held heldToo => Slots.distinct_set_some (distinct · ·) apart held heldToo

/-! ## Composing paths -/

def composeChildPath (parent name : Octets) (kind : StorageEntryKind) : Option StoragePath :=
  if name.isEmpty || name.contains slash then
    none
  else
    AtMost.ofList? maxStoragePath (parent ++ name ++ if kind = .directory then [slash] else [])

def closeComponent (path : Octets) : Option Octets :=
  if endsWithSlash path then
    some path
  else if maxStoragePath ≤ path.length then
    none
  else
    some (path ++ [slash])

def appendComponent (path : Octets) (component : Octets × Nat) : Option Octets :=
  (if component.2 = 0 then some path else closeComponent path).bind fun path =>
    if maxStoragePath < path.length + component.1.length then none else some (path ++ component.1)

def closePath (path : Octets) : StorageEntryKind → Option Octets
  | .directory => closeComponent path
  | .file => some (if endsWithSlash path then path.dropLast else path)

def composeRelativePath (parent relative : Octets) (kind : StorageEntryKind) :
    Option StoragePath :=
  if !storageRelativeComponentsValid relative || maxStoragePath < parent.length then
    none
  else
    ((relative.splitOn slash).zipIdx.foldlM appendComponent parent).bind fun path =>
      (closePath path kind).bind (AtMost.ofList? maxStoragePath)

/-! ### What they yield -/

def kindEnding : StorageEntryKind → Octets
  | .file => []
  | .directory => [slash]

theorem composeChildPath_eq_some {path : StoragePath}
    (composed : composeChildPath parent name kind = some path) :
    name ≠ [] ∧ slash ∉ name ∧ path.val = parent ++ name ++ kindEnding kind := by
  rw [composeChildPath] at composed
  split at composed
  · cases composed
  rename_i accepted
  have made := AtMost.ofList?_eq_some.mp composed
  simp only [List.contains_eq_mem, Bool.or_eq_true, List.isEmpty_iff, decide_eq_true_eq,
    not_or] at accepted
  refine ⟨accepted.1, accepted.2, ?_⟩
  cases kind <;> exact made

theorem endsWithSlash_append (nonempty : back ≠ []) :
    endsWithSlash (front ++ back) = endsWithSlash back := by
  rw [endsWithSlash, endsWithSlash, getLast?_append_of_ne_nil front nonempty]

theorem endsWithSlash_of_not_mem (plain : slash ∉ path) : endsWithSlash path = false := by
  rw [endsWithSlash, beq_eq_false_iff_ne]
  intro last
  exact plain (mem_of_getLast? last)

theorem closeComponent_eq_some (unclosed : endsWithSlash path = false)
    (made : closeComponent path = some closed) : closed = path ++ [slash] := by
  rw [closeComponent, unclosed, if_neg Bool.false_ne_true] at made
  split at made <;> cases made
  rfl

theorem appendComponent_eq_some (unclosed : index ≠ 0 → endsWithSlash path = false)
    (made : appendComponent path (component, index) = some longer) :
    longer = path ++ (if index = 0 then [] else [slash]) ++ component := by
  rcases Option.bind_eq_some_iff.mp made with ⟨closed, closes, made⟩
  split at made
  · cases made
  cases made
  by_cases first : index = 0
  · rw [if_pos first] at closes
    cases closes
    rw [if_pos first, append_nil]
  · rw [if_neg first] at closes
    rw [if_neg first, closeComponent_eq_some (unclosed first) closes]

/-- The rounds after the first put a slash before each component. -/
theorem appendComponents_eq_some {components : List Octets} (later : index ≠ 0)
    (unclosed : endsWithSlash path = false)
    (plain : ∀ component ∈ components, component ≠ [] ∧ slash ∉ component)
    (made : (components.zipIdx index).foldlM appendComponent path = some longer) :
    longer = path ++ components.flatMap (slash :: ·) ∧ endsWithSlash longer = false := by
  induction components generalizing path index with
  | nil =>
    cases made
    exact ⟨(append_nil _).symm, unclosed⟩
  | cons component components induction =>
    rw [zipIdx_cons, foldlM_cons, Option.bind_eq_bind, Option.bind_eq_some_iff] at made
    rcases made with ⟨next, first, rest⟩
    rcases forall_mem_cons.mp plain with ⟨⟨nonempty, noSlash⟩, plain⟩
    have shape := appendComponent_eq_some (fun _ => unclosed) first
    rw [if_neg later] at shape
    have still : endsWithSlash next = false := by
      rw [shape, endsWithSlash_append nonempty, endsWithSlash_of_not_mem noSlash]
    rcases induction (Nat.succ_ne_zero index) still plain rest with ⟨equal, ends⟩
    refine ⟨?_, ends⟩
    rw [equal, shape, flatMap_cons]
    simp only [append_assoc, cons_append, nil_append]

theorem slash_not_mem_of_splitOn (member : component ∈ path.splitOn slash) : slash ∉ component := by
  induction path generalizing component with
  | nil =>
    rw [splitOn_nil, mem_singleton] at member
    rw [member]
    exact not_mem_nil
  | cons byte rest induction =>
    rw [splitOn_cons_eq_if_modifyHead] at member
    split at member
    · rcases mem_cons.mp member with rfl | member
      · exact not_mem_nil
      · exact induction member
    rename_i different
    cases components : rest.splitOn slash with
    | nil => exact absurd components (splitOn_ne_nil slash rest)
    | cons head =>
      rw [components, modifyHead_cons] at member
      rw [components] at induction
      rcases mem_cons.mp member with rfl | member
      · rw [mem_cons, not_or]
        refine ⟨fun same => different (beq_iff_eq.mpr same.symm), induction mem_cons_self⟩
      · exact induction (mem_cons_of_mem head member)

theorem intercalate_cons (component : Octets) (components : List Octets) :
    [slash].intercalate (component :: components) =
      component ++ components.flatMap (slash :: ·) := by
  induction components generalizing component with
  | nil => simp
  | cons next components induction =>
    rw [intercalate_cons_cons, induction]
    simp

theorem appendAll_eq_some
    (plain : ∀ component ∈ relative.splitOn slash, component ≠ [] ∧ slash ∉ component)
    (made : (relative.splitOn slash).zipIdx.foldlM appendComponent parent = some longer) :
    longer = parent ++ relative ∧ endsWithSlash longer = false := by
  have joined : [slash].intercalate (relative.splitOn slash) = relative :=
    intercalate_splitOn slash
  cases components : relative.splitOn slash with
  | nil => exact absurd components (splitOn_ne_nil slash relative)
  | cons component components =>
    rw [components] at joined plain made
    rw [zipIdx_cons, foldlM_cons, Option.bind_eq_bind, Option.bind_eq_some_iff] at made
    rcases made with ⟨next, first, rest⟩
    rcases forall_mem_cons.mp plain with ⟨⟨nonempty, noSlash⟩, plain⟩
    have shape := appendComponent_eq_some (fun later => absurd rfl later) first
    rw [if_pos rfl, append_nil] at shape
    have unclosed : endsWithSlash next = false := by
      rw [shape, endsWithSlash_append nonempty, endsWithSlash_of_not_mem noSlash]
    rcases appendComponents_eq_some Nat.one_ne_zero unclosed plain rest with ⟨equal, ends⟩
    refine ⟨?_, ends⟩
    rw [equal, shape, ← joined, append_assoc, intercalate_cons]

theorem composeRelativePath_eq_some
    {path : StoragePath} (composed : composeRelativePath parent relative kind = some path) :
    storageRelativeComponentsValid relative = true ∧
      path.val = parent ++ relative ++ kindEnding kind := by
  rw [composeRelativePath] at composed
  split at composed
  · cases composed
  rename_i accepted
  simp only [Bool.or_eq_true, Bool.not_eq_true', decide_eq_true_eq, not_or,
    Bool.not_eq_false] at accepted
  refine ⟨accepted.1, ?_⟩
  have valid := accepted.1
  rw [storageRelativeComponentsValid, Bool.and_eq_true, all_eq_true] at valid
  have plain : ∀ component ∈ relative.splitOn slash, component ≠ [] ∧ slash ∉ component :=
    fun component member =>
      ⟨by rintro rfl; exact absurd (valid.2 [] member) nofun, slash_not_mem_of_splitOn member⟩
  rcases Option.bind_eq_some_iff.mp composed with ⟨whole, appended, composed⟩
  rcases Option.bind_eq_some_iff.mp composed with ⟨closed, closes, made⟩
  rw [AtMost.ofList?_eq_some.mp made]
  rcases appendAll_eq_some plain appended with ⟨rfl, unclosed⟩
  cases kind with
  | directory => exact closeComponent_eq_some unclosed closes
  | file =>
    rw [closePath, unclosed, if_neg Bool.false_ne_true] at closes
    cases closes
    exact (append_nil _).symm

end ServiceOS.Storage
