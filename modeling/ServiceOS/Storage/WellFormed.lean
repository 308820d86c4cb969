import ServiceOS.Storage.Fsck

/-! # Well-formed paths

`entry_path_violation` accepts a path just when it is made of valid components joined by
slashes, with one more slash for a directory. -/

namespace ServiceOS.Storage

open ByteString List

def AllValid (core : Octets) : Prop :=
  ∀ component ∈ core.splitOn slash, validComponent component = true

def WellFormed (path : Octets) (kind : StorageEntryKind) : Prop :=
  ∃ core, path = core ++ kindEnding kind ∧ AllValid core

/-- The path of a directory that can be opened: the root or a well-formed one. -/
def DirectoryFormed (path : Octets) : Prop := path = [] ∨ WellFormed path .directory

section

theorem allValid_append_slash :
    AllValid (front ++ slash :: back) ↔ AllValid front ∧ AllValid back := by
  simp only [AllValid, splitOn_append_cons_self, mem_append, or_imp, forall_and]

theorem allValid_singleton (plain : slash ∉ core) : AllValid core ↔ validComponent core = true := by
  rw [AllValid, splitOn_eq_singleton plain, forall_mem_singleton]

theorem not_allValid_nil : ¬AllValid [] := by
  rw [allValid_singleton not_mem_nil]
  exact Bool.false_ne_true

theorem AllValid.ne_nil (valid : AllValid core) : core ≠ [] := by
  rintro rfl
  exact not_allValid_nil valid

theorem AllValid.head_ne (valid : AllValid core) : core.head? ≠ some slash := by
  rcases core with _ | ⟨byte, rest⟩
  · exact nofun
  intro first
  cases first
  have parts : AllValid [] ∧ AllValid rest := allValid_append_slash.mp valid
  exact not_allValid_nil parts.1

theorem endsWithSlash_iff : endsWithSlash path = true ↔ ∃ core, path = core ++ [slash] := by
  rw [endsWithSlash, beq_iff_eq, getLast?_eq_some_iff]

theorem AllValid.endsWithSlash (valid : AllValid core) : endsWithSlash core = false := by
  rw [← Bool.not_eq_true, endsWithSlash_iff]
  rintro ⟨front, rfl⟩
  exact not_allValid_nil (allValid_append_slash.mp valid).2

end

theorem relativeComponentsValid_iff :
    storageRelativeComponentsValid relative = true ↔ AllValid relative := by
  rw [storageRelativeComponentsValid, Bool.and_eq_true, all_eq_true]
  refine ⟨fun valid => valid.2, fun valid => ⟨?_, valid⟩⟩
  rw [Bool.and_eq_true, bne_iff_ne, Bool.not_eq_true', isEmpty_eq_false_iff]
  exact ⟨valid.ne_nil, valid.head_ne⟩

section

theorem wellFormed_file : WellFormed path .file ↔ AllValid path := by
  constructor
  · rintro ⟨core, rfl, valid⟩
    rwa [kindEnding, append_nil]
  · exact fun valid => ⟨path, (append_nil path).symm, valid⟩

theorem wellFormed_directory : WellFormed (core ++ [slash]) .directory ↔ AllValid core := by
  constructor
  · rintro ⟨other, same, valid⟩
    rwa [append_cancel_right same]
  · exact fun valid => ⟨core, rfl, valid⟩

section

variable (formed : WellFormed path kind)

include formed

theorem WellFormed.endsWithSlash : endsWithSlash path = (kind == .directory) := by
  rcases formed with ⟨core, rfl, valid⟩
  cases kind with
  | file => rw [kindEnding, append_nil, valid.endsWithSlash]; rfl
  | directory => exact endsWithSlash_iff.mpr ⟨core, rfl⟩

theorem WellFormed.ne_nil : path ≠ [] := by
  rcases formed with ⟨core, rfl, valid⟩
  exact append_ne_nil_of_left_ne_nil valid.ne_nil _

theorem WellFormed.head_ne : path.head? ≠ some slash := by
  rcases formed with ⟨core, rfl, valid⟩
  rw [head?_append_of_ne_nil _ valid.ne_nil]
  exact valid.head_ne

end

theorem entryPathViolation_eq_none :
    entryPathViolation path kind = none ↔ WellFormed path kind := by
  rw [entryPathViolation]
  constructor
  · intro accepted
    iterate 3 (split at accepted; · cases accepted)
    rename_i _ _ ends
    rw [not_not] at ends
    dsimp only at accepted
    split at accepted
    · cases accepted
    rename_i valid
    simp only [Bool.or_eq_true, Bool.not_eq_true', not_or, Bool.not_eq_false] at valid
    cases kind with
    | file => exact wellFormed_file.mpr (relativeComponentsValid_iff.mp valid.2)
    | directory =>
      rcases endsWithSlash_iff.mp ends with ⟨core, rfl⟩
      rw [pathCore, dropLast_concat] at valid
      exact wellFormed_directory.mpr (relativeComponentsValid_iff.mp valid.2)
  · intro formed
    rw [if_neg formed.ne_nil, if_neg formed.head_ne, if_neg (not_not.mpr formed.endsWithSlash)]
    rw [if_neg]
    simp only [Bool.or_eq_true, Bool.not_eq_true', not_or, Bool.not_eq_false]
    cases kind with
    | file =>
      have valid := wellFormed_file.mp formed
      exact ⟨by simpa [pathCore] using valid.ne_nil, relativeComponentsValid_iff.mpr valid⟩
    | directory =>
      rcases formed with ⟨core, rfl, valid⟩
      rw [kindEnding, pathCore, dropLast_concat]
      exact ⟨by simpa using valid.ne_nil, relativeComponentsValid_iff.mpr valid⟩

end

/-! ## Paths within directories -/

section

theorem wellFormed_below (nonempty : rest ≠ []) :
    WellFormed (directory ++ [slash] ++ rest) kind ↔ AllValid directory ∧ WellFormed rest kind := by
  rw [append_assoc]
  constructor
  · rintro ⟨core, same, valid⟩
    cases kind with
    | file =>
      rw [kindEnding, append_nil] at same
      rw [← same] at valid
      rcases allValid_append_slash.mp valid with ⟨first, second⟩
      exact ⟨first, wellFormed_file.mpr second⟩
    | directory =>
      have ends : endsWithSlash rest = true := by
        have whole : endsWithSlash (directory ++ ([slash] ++ rest)) = true := by
          rw [same]
          exact endsWithSlash_iff.mpr ⟨core, rfl⟩
        rwa [← append_assoc, endsWithSlash_append nonempty] at whole
      rcases endsWithSlash_iff.mp ends with ⟨inner, rfl⟩
      rw [← append_assoc, ← append_assoc] at same
      rw [← append_cancel_right same, append_assoc] at valid
      rcases allValid_append_slash.mp valid with ⟨first, second⟩
      exact ⟨first, wellFormed_directory.mpr second⟩
  · rintro ⟨first, core, rfl, second⟩
    refine ⟨directory ++ slash :: core, ?_, allValid_append_slash.mpr ⟨first, second⟩⟩
    rw [append_assoc]
    rfl

/-- A path composed of a directory's path and what is well formed itself. -/
theorem DirectoryFormed.append (formed : DirectoryFormed parent) (inner : WellFormed rest kind) :
    WellFormed (parent ++ rest) kind := by
  rcases formed with rfl | ⟨core, rfl, valid⟩
  · exact inner
  · exact (wellFormed_below inner.ne_nil).mpr ⟨valid, inner⟩

variable {path : StoragePath}

theorem wellFormed_name (plain : slash ∉ name)
    (valid : validComponent name = true) : WellFormed (name ++ kindEnding kind) kind :=
  ⟨name, rfl, (allValid_singleton plain).mpr valid⟩

end

/-! ## Directories that can be opened -/

theorem endedComponentsValid_iff (plain : slash ∉ current) :
    endedComponentsValid current (core ++ [slash]) = true ↔ AllValid (current ++ core) := by
  induction core generalizing current with
  | nil =>
    rw [append_nil, allValid_singleton plain]
    simp [endedComponentsValid]
  | cons byte core induction =>
    rw [cons_append, endedComponentsValid]
    split
    next same =>
      rw [same, Bool.and_eq_true, induction not_mem_nil, allValid_append_slash,
        allValid_singleton plain]
      rfl
    rename_i different
    rw [induction, append_assoc]
    · rfl
    · rw [mem_append, mem_singleton, not_or]
      exact ⟨plain, Ne.symm different⟩

theorem directoryFormed_mountPath (mount : StorageMount) : DirectoryFormed mount.path.val := by
  have valid := mount.valid
  rw [storageValidateMountPath] at valid
  split at valid
  next empty => exact .inl empty
  split at valid
  · cases valid
  rename_i shape
  split at valid
  next ended =>
    simp only [Bool.or_eq_true, Bool.not_eq_true', not_or, Bool.not_eq_false] at shape
    rcases endsWithSlash_iff.mp shape.1 with ⟨core, made⟩
    rw [made] at ended ⊢
    exact .inr (wellFormed_directory.mpr ((endedComponentsValid_iff not_mem_nil).mp ended))
  · cases valid

theorem directoryFormed_bootDirectory (boot : ∀ entry ∈ entries, WellFormed entry.path.val .file)
    (shape : validDirectoryPath path = true) (there : bootDirectoryExists entries path = true) :
    DirectoryFormed path := by
  rcases List.any_eq_true.mp there with ⟨entry, member, longer⟩
  rw [Bool.and_eq_true, decide_eq_true_eq, pathMatchesPrefix, List.isPrefixOf_iff_prefix] at longer
  rcases longer.2 with ⟨rest, made⟩
  rw [validDirectoryPath, Bool.or_eq_true, List.isEmpty_iff] at shape
  refine shape.imp id fun ends => ?_
  rcases endsWithSlash_iff.mp ends with ⟨core, rfl⟩
  have nonempty : rest ≠ [] := by
    rintro rfl
    rw [← made, List.append_nil] at longer
    exact Nat.lt_irrefl _ longer.1
  have formed := boot entry member
  rw [← made] at formed
  exact wellFormed_directory.mpr ((wellFormed_below nonempty).mp formed).1

end ServiceOS.Storage
