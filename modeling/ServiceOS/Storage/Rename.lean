import ServiceOS.Storage.Persistent

/-! # Renaming

`try_rename_entry` and the request for it. -/

namespace ServiceOS.Storage

open ByteString Fallible Service SearchIndex List Slots AtMost

/-- The directory a path is in: the path up to the last slash before its end. -/
def parentPath (path : Octets) : Octets :=
  let core := if endsWithSlash path then path.dropLast else path
  (core.reverse.dropWhile (· ≠ slash)).reverse

def isBelow (path source : Octets) : Bool :=
  source.length < path.length && source.isPrefixOf path

def staysPut (source : Octets) (entry : MutableEntry) : Bool :=
  !(entry.path.val == source) && !isBelow entry.path.val source

section

variable (mounts : MountTable) (entries : List EntrySlot) (mutableEntries : EntryTable)
  (searchIndex : SearchIndex) (source dest : Octets)

/-- Why an entry below the source cannot go below the destination. -/
def landingRefused (entry : MutableEntry) : Option StorageStatus :=
  if !isBelow entry.path.val source then
    none
  else
    let path := dest ++ entry.path.val.drop source.length
    if maxStoragePath < path.length then
      some .invalidPath
    else if mutableEntries.values.any fun other =>
        staysPut source other && other.path.val == path then
      some .alreadyExists
    else if entries.any (·.matches path) then
      some .denied
    else
      none

def pathKind (path : Octets) : StorageEntryKind :=
  if endsWithSlash path then .directory else .file

/-- The gates of a rename between different paths, up to the first that fails. -/
def renameRefused : Option StorageStatus :=
  match (findMutableEntry mutableEntries source).bind mutableEntries.get? with
  | none => some (if entries.any (·.matches source) then .denied else .notFound)
  | some entry =>
    if entry.kind ≠ pathKind source then
      some .invalidPath
    else if !isMutablePath mounts source || !isMutablePath mounts dest then
      some .denied
    else if (findMutableEntry mutableEntries dest).isSome then
      some .alreadyExists
    else if entries.any (·.matches dest) then
      some .denied
    else if !directoryOpenable mounts entries mutableEntries (parentPath dest) then
      some .notFound
    else if endsWithSlash source && isBelow dest source then
      some .invalidPath
    else if endsWithSlash source then
      mutableEntries.values.findSome? (landingRefused entries mutableEntries source dest)
    else
      none

def moveEntry (persistentNow : Bool) (entry : MutableEntry) : Option MutableEntry :=
  match renamedPath source dest entry.path with
  | none => some entry
  | some none => none
  | some (some path) => some { entry with path := path, persistent := persistentNow }

def reindex (searchIndex : SearchIndex) (source : Octets) (dest : StoragePath) (now : Nat) :
    SearchIndex :=
  if endsWithSlash source then
    (searchIndex.renameTree source dest.val now).1
  else
    searchIndex.rename source dest now

def applyRename (now : Nat) : Except (Fault Error) (EntryTable × SearchIndex) :=
  let move := moveEntry source dest ((storageResolveMount mounts dest).any StorageMount.persistent)
  match ofList? maxStoragePath dest with
  | none => .error .panicked
  | some destPath =>
    -- Writing a path that does not fit its slot is out of range.
    if mutableEntries.values.any fun entry => (move entry).isNone then
      .error .panicked
    else
      .ok (mutableEntries.update move, reindex searchIndex source destPath now)

/-- The status with the entries and the index after it. -/
def tryRenameEntry (now : Nat) : Except (Fault Error) (StorageStatus × EntryTable × SearchIndex) :=
  if source = [] ∨ dest = [] ∨ endsWithSlash dest ≠ endsWithSlash source then
    .ok (.invalidPath, mutableEntries, searchIndex)
  else if source = dest then
    .ok (.ok, mutableEntries, searchIndex)
  else
    match renameRefused mounts entries mutableEntries source dest with
    | some status => .ok (status, mutableEntries, searchIndex)
    | none =>
      (applyRename mounts mutableEntries searchIndex source dest now).map fun renamed =>
        (.ok, renamed)

end

/-! ## What a rename does -/

/-- The source itself, or below it if it is a directory. -/
def Renamed (source path : Octets) : Prop :=
  path = source ∨ (endsWithSlash source = true ∧ isBelow path source = true)
deriving Decidable

section

theorem isBelow_iff :
    isBelow path source = true ↔ source.length < path.length ∧ source <+: path := by
  rw [isBelow, Bool.and_eq_true, decide_eq_true_eq, isPrefixOf_iff_prefix]

theorem Renamed.stem (renamed : Renamed source path) : source <+: path := by
  rcases renamed with rfl | ⟨-, below⟩
  · exact prefix_rfl
  · exact (isBelow_iff.mp below).2

theorem renamedPath_of_renamed (renamed : Renamed source path.val) :
    renamedPath source dest path =
      some (ofList? maxStoragePath (dest ++ path.val.drop source.length)) := by
  rw [renamedPath, if_pos]
  rw [Bool.or_eq_true, Bool.and_assoc, Bool.and_eq_true]
  exact renamed.imp beq_iff_eq.mpr id

theorem renamedPath_of_not (stays : ¬Renamed source path.val) :
    renamedPath source dest path = none := by
  rw [renamedPath, if_neg]
  rw [Bool.or_eq_true, Bool.and_assoc, Bool.and_eq_true]
  exact fun renamed => stays (renamed.imp beq_iff_eq.mp id)

end

section

variable {mounts : MountTable} {entries : List EntrySlot} {mutableEntries : EntryTable}
  {searchIndex : SearchIndex}

theorem renameRefused_ne_ok :
    renameRefused mounts entries mutableEntries source dest ≠ some .ok := by
  rw [renameRefused]
  split
  · split <;> exact nofun
  iterate 6 (split; · exact nofun)
  split
  · intro refused
    rcases exists_of_findSome?_eq_some refused with ⟨entry, -, wrong⟩
    revert wrong
    rw [landingRefused]
    dsimp only
    repeat' split
    all_goals exact nofun
  · exact nofun

structure RenamePlanned (mounts : MountTable) (entries : List EntrySlot)
    (mutableEntries : EntryTable) (source dest : Octets) : Prop where
  sourceHeld : ∃ index entry, mutableEntries.get? index = some entry ∧ entry.path.val = source ∧
    entry.kind = pathKind source
  sourceMutable : isMutablePath mounts source = true
  destMutable : isMutablePath mounts dest = true
  destFree : ∀ index entry, mutableEntries.get? index = some entry → entry.path.val ≠ dest
  destNotBoot : ∀ entry ∈ entries, entry.path.val ≠ dest
  parentOpenable : directoryOpenable mounts entries mutableEntries (parentPath dest) = true
  notIntoItself : endsWithSlash source = true → isBelow dest source = false
  landing : endsWithSlash source = true → ∀ entry ∈ mutableEntries.values,
    landingRefused entries mutableEntries source dest entry = none

theorem renamePlanned_of_not_refused
    (accepted : renameRefused mounts entries mutableEntries source dest = none) :
    RenamePlanned mounts entries mutableEntries source dest := by
  rw [renameRefused] at accepted
  split at accepted
  · cases accepted
  rename_i entry found
  rcases Option.bind_eq_some_iff.mp found with ⟨index, position, held⟩
  rcases findMutableEntry_eq_some position with ⟨same, heldToo, named⟩
  cases Option.some.inj (held.symm.trans heldToo)
  iterate 6 (split at accepted; · cases accepted)
  rename_i kind writable destFree notBoot parent inside
  rw [not_not] at kind
  simp only [Bool.or_eq_true, Bool.not_eq_true', not_or, Bool.not_eq_false] at writable
  refine
    { sourceHeld := ⟨index, entry, held, named, kind⟩
      sourceMutable := writable.1
      destMutable := writable.2
      destFree := findMutableEntry_eq_none.mp (Option.not_isSome_iff_eq_none.mp destFree)
      destNotBoot := ?_
      parentOpenable := by simpa using parent
      notIntoItself := fun directory => by simpa [directory] using inside
      landing := ?_ }
  · intro boot member same
    exact notBoot (any_eq_true.mpr ⟨boot, member, beq_iff_eq.mpr same⟩)
  intro directory entry member
  rw [if_pos directory, findSome?_eq_none_iff] at accepted
  exact accepted entry member

theorem landing_free (below : isBelow entry.path.val source = true)
    (accepted : landingRefused entries mutableEntries source dest entry = none) :
    (dest ++ entry.path.val.drop source.length).length ≤ maxStoragePath ∧
      (∀ other ∈ mutableEntries.values, staysPut source other = true →
        other.path.val ≠ dest ++ entry.path.val.drop source.length) ∧
      ∀ boot ∈ entries, boot.path.val ≠ dest ++ entry.path.val.drop source.length := by
  rw [landingRefused, below, if_neg (by decide)] at accepted
  dsimp only at accepted
  iterate 3 (split at accepted; · cases accepted)
  rename_i fits free notBoot
  refine ⟨Nat.le_of_not_lt fits, ?_, ?_⟩
  · intro other member stays same
    refine free (any_eq_true.mpr ⟨other, member, ?_⟩)
    rw [stays, same, beq_self_eq_true, Bool.and_true]
  · intro boot member same
    exact notBoot (any_eq_true.mpr ⟨boot, member, beq_iff_eq.mpr same⟩)

/-- The new path of a renamed entry fits and no entry that is not renamed has it. -/
theorem RenamePlanned.lands (planned : RenamePlanned mounts entries mutableEntries source dest)
    (destFits : dest.length ≤ maxStoragePath) (held : mutableEntries.get? index = some entry)
    (renamed : Renamed source entry.path.val) :
    (dest ++ entry.path.val.drop source.length).length ≤ maxStoragePath ∧
      ∀ place other, mutableEntries.get? place = some other → ¬Renamed source other.path.val →
        other.path.val ≠ dest ++ entry.path.val.drop source.length := by
  rcases renamed with self | ⟨directory, below⟩
  · rw [self, drop_length, append_nil]
    exact ⟨destFits, fun place other there _ => planned.destFree place other there⟩
  have landed := landing_free below
    (planned.landing directory entry (mem_values.mpr ⟨index, held⟩))
  refine ⟨landed.1, fun place other there stays => ?_⟩
  apply landed.2.1 other (mem_values.mpr ⟨place, there⟩)
  rw [Renamed, not_or, directory] at stays
  rw [staysPut, Bool.and_eq_true, Bool.not_eq_true', Bool.not_eq_true', beq_eq_false_iff_ne]
  exact ⟨stays.1, by simpa using stays.2⟩

theorem moveEntry_of_not (stays : ¬Renamed source entry.path.val) :
    moveEntry source dest persistentNow entry = some entry := by
  rw [moveEntry, renamedPath_of_not stays]

theorem moveEntry_of_renamed (renamed : Renamed source entry.path.val)
    (fits : (dest ++ entry.path.val.drop source.length).length ≤ maxStoragePath) :
    moveEntry source dest persistentNow entry =
      some { entry with
        path := ⟨dest ++ entry.path.val.drop source.length, fits⟩
        persistent := persistentNow } := by
  have made : ofList? maxStoragePath (dest ++ entry.path.val.drop source.length) =
      some ⟨_, fits⟩ := ofList?_eq_some.mpr rfl
  rw [moveEntry, renamedPath_of_renamed renamed, made]

variable {after : EntryTable}

theorem applyRename_eq_ok (done : applyRename mounts mutableEntries searchIndex source dest now =
      .ok (after, afterIndex)) :
    ∃ fits : dest.length ≤ maxStoragePath,
      after = mutableEntries.update (moveEntry source dest
        ((storageResolveMount mounts dest).any StorageMount.persistent)) ∧
      afterIndex = reindex searchIndex source ⟨dest, fits⟩ now := by
  rw [applyRename] at done
  split at done
  · cases done
  rename_i destPath made
  split at done <;> cases done
  have same := ofList?_eq_some.mp made
  refine ⟨same ▸ destPath.property, rfl, ?_⟩
  congr 1
  exact Subtype.ext same

/-- No path is too long for its slot. -/
theorem applyRename_returns (planned : RenamePlanned mounts entries mutableEntries source dest)
    (fits : dest.length ≤ maxStoragePath) :
    ∃ result, applyRename mounts mutableEntries searchIndex source dest now = .ok result := by
  have made : ofList? maxStoragePath dest = some ⟨dest, fits⟩ :=
    ofList?_eq_some.mpr rfl
  rw [applyRename, made]
  dsimp only
  rw [if_neg]
  · exact ⟨_, rfl⟩
  rw [any_eq_true]
  rintro ⟨entry, member, tooLong⟩
  rcases mem_values.mp member with ⟨index, held⟩
  by_cases renamed : Renamed source entry.path.val
  · rw [moveEntry_of_renamed renamed (planned.lands fits held renamed).1] at tooLong
    cases tooLong
  · rw [moveEntry_of_not renamed] at tooLong
    cases tooLong

theorem tryRenameEntry_cases
    (done : tryRenameEntry mounts entries mutableEntries searchIndex source dest now =
      .ok (status, after, afterIndex)) :
    (after = mutableEntries ∧ afterIndex = searchIndex ∧ (status = .ok → source = dest)) ∨
      (status = .ok ∧ source ≠ dest ∧ source ≠ [] ∧ endsWithSlash dest = endsWithSlash source ∧
        RenamePlanned mounts entries mutableEntries source dest ∧
        applyRename mounts mutableEntries searchIndex source dest now =
          .ok (after, afterIndex)) := by
  rw [tryRenameEntry] at done
  split at done
  · cases done
    exact .inl ⟨rfl, rfl, fun wrong => nomatch wrong⟩
  rename_i shape
  rw [not_or, not_or, not_not] at shape
  split at done
  next same =>
    cases done
    exact .inl ⟨rfl, rfl, fun _ => same⟩
  rename_i different
  split at done
  next refused =>
    cases done
    exact .inl ⟨rfl, rfl, fun wrong => absurd (wrong ▸ refused) renameRefused_ne_ok⟩
  rename_i accepted
  rcases applied : applyRename mounts mutableEntries searchIndex source dest
    now with _ | result
  · rw [applied] at done
    cases done
  rw [applied] at done
  cases done
  exact .inr ⟨rfl, different, shape.1, shape.2.2, renamePlanned_of_not_refused accepted, rfl⟩

/-- Renamed entries keep apart from each other and from those that stay. -/
theorem distinctPaths_update (distinct : DistinctPaths mutableEntries)
    (planned : RenamePlanned mounts entries mutableEntries source dest)
    (fits : dest.length ≤ maxStoragePath) :
    DistinctPaths (mutableEntries.update (moveEntry source dest persistentNow)) := by
  intro first second left right held heldToo same
  rw [get?_update] at held heldToo
  rcases Option.bind_eq_some_iff.mp held with ⟨entry, here, moved⟩
  rcases Option.bind_eq_some_iff.mp heldToo with ⟨other, there, movedToo⟩
  by_cases renamed : Renamed source entry.path.val <;>
    by_cases renamedToo : Renamed source other.path.val
  · rw [moveEntry_of_renamed renamed (planned.lands fits here renamed).1] at moved
    rw [moveEntry_of_renamed renamedToo (planned.lands fits there renamedToo).1] at movedToo
    cases moved
    cases movedToo
    have rests := append_cancel_left (Subtype.ext_iff.mp same)
    exact distinct here there
      (Subtype.ext (by rw [← prefix_iff_eq_append.mp renamed.stem,
        ← prefix_iff_eq_append.mp renamedToo.stem, rests]))
  · rw [moveEntry_of_renamed renamed (planned.lands fits here renamed).1] at moved
    rw [moveEntry_of_not renamedToo] at movedToo
    cases moved
    cases movedToo
    exact absurd (Subtype.ext_iff.mp same).symm
      ((planned.lands fits here renamed).2 second _ there renamedToo)
  · rw [moveEntry_of_not renamed] at moved
    rw [moveEntry_of_renamed renamedToo (planned.lands fits there renamedToo).1] at movedToo
    cases moved
    cases movedToo
    exact absurd (Subtype.ext_iff.mp same)
      ((planned.lands fits there renamedToo).2 first _ here renamed)
  · rw [moveEntry_of_not renamed] at moved
    rw [moveEntry_of_not renamedToo] at movedToo
    cases moved
    cases movedToo
    exact distinct here there same

/-- The source prefix of the path replaced, the rest of what the entry holds kept. -/
structure Relocated (source dest : Octets) (entry moved : MutableEntry) : Prop where
  path : moved.path.val = dest ++ entry.path.val.drop source.length
  kind : moved.kind = entry.kind
  dataHandle : moved.dataHandle = entry.dataHandle
  dataLen : moved.dataLen = entry.dataLen
  dataCapacity : moved.dataCapacity = entry.dataCapacity

/-- The table after a rename: exactly the source and what is below it is relocated. -/
structure RelocatedBelow (source dest : Octets) (before after : EntryTable) : Prop where
  renamed : ∀ {index entry}, before.get? index = some entry → Renamed source entry.path.val →
    ∃ moved, after.get? index = some moved ∧ Relocated source dest entry moved
  others : ∀ {index}, (∀ entry, before.get? index = some entry → ¬Renamed source entry.path.val) →
    after.get? index = before.get? index

theorem relocatedBelow_update (planned : RenamePlanned mounts entries mutableEntries source dest)
    (fits : dest.length ≤ maxStoragePath) :
    RelocatedBelow source dest mutableEntries
      (mutableEntries.update (moveEntry source dest persistentNow)) where
  renamed held renamed := by
    rw [get?_update, held, Option.bind_some,
      moveEntry_of_renamed renamed (planned.lands fits held renamed).1]
    exact ⟨_, rfl, rfl, rfl, rfl, rfl, rfl⟩
  others {index} stays := by
    rw [get?_update]
    rcases held : mutableEntries.get? index with _ | entry
    · rfl
    · exact moveEntry_of_not (stays entry held)

/-- Rename is exact and atomic. -/
theorem tryRenameEntry_exact (mounts : MountTable) (entries : List EntrySlot)
    (mutableEntries : EntryTable) (searchIndex : SearchIndex) (source dest : Octets) (now : Nat)
    (distinct : DistinctPaths mutableEntries) :
    (dest.length ≤ maxStoragePath → ∃ result,
      tryRenameEntry mounts entries mutableEntries searchIndex source dest now = .ok result) ∧
    ∀ status after afterIndex,
      tryRenameEntry mounts entries mutableEntries searchIndex source dest now =
        .ok (status, after, afterIndex) →
      (status ≠ .ok → after = mutableEntries ∧ afterIndex = searchIndex) ∧
      (status = .ok → RelocatedBelow source dest mutableEntries after ∧ DistinctPaths after ∧
        (source ≠ dest → ∃ index entry, mutableEntries.get? index = some entry ∧
          entry.path.val = source)) := by
  constructor
  · intro fits
    rw [tryRenameEntry]
    split
    · exact ⟨_, rfl⟩
    split
    · exact ⟨_, rfl⟩
    split
    · exact ⟨_, rfl⟩
    rename_i accepted
    rcases applyRename_returns (renamePlanned_of_not_refused accepted) fits with
      ⟨result, applied⟩
    rw [applied]
    exact ⟨_, rfl⟩
  · intro status after afterIndex done
    rcases tryRenameEntry_cases done with ⟨rfl, rfl, same⟩ | ⟨rfl, _, _, _, planned, applied⟩
    · refine ⟨fun _ => ⟨rfl, rfl⟩, fun ok => ?_⟩
      cases same ok
      exact ⟨⟨fun held renamed => ⟨_, held, (prefix_iff_eq_append.mp renamed.stem).symm,
        rfl, rfl, rfl, rfl⟩, fun _ => rfl⟩, distinct, fun differs => absurd rfl differs⟩
    rcases applyRename_eq_ok applied with ⟨fits, rfl, rfl⟩
    rcases planned.sourceHeld with ⟨index, entry, held, named, -⟩
    exact ⟨fun wrong => absurd rfl wrong, fun _ => ⟨relocatedBelow_update planned fits,
      distinctPaths_update distinct planned fits, fun _ => ⟨index, entry, held, named⟩⟩⟩

end

/-- A directory with a file in it, and a file beside them. -/
def smallTree : EntryTable :=
  (((empty _).set 0 (some ⟨.directory, ⟨ascii "tmp/a/", by decide⟩, 0, 0, 0, false⟩)).set 1
    (some ⟨.file, ⟨ascii "tmp/a/c", by decide⟩, 1, 0, initialFileCapacity, false⟩)).set 2
    (some ⟨.file, ⟨ascii "tmp/c", by decide⟩, 2, 0, initialFileCapacity, false⟩)

theorem distinctPaths_smallTree : DistinctPaths smallTree := by
  repeat' apply DistinctPaths.set_some
  · exact distinctPaths_empty
  all_goals
    intro place other held same
    repeat
      rcases get?_set_cases held with ⟨-, made⟩ | ⟨-, held⟩
      · cases made
        exact absurd (congrArg Subtype.val same) (by decide)
    cases (get?_empty place).symm.trans held

theorem tryRenameEntry_exact_of_tree :
    ∃ after afterIndex,
      tryRenameEntry seedMountTable [] smallTree .new (ascii "tmp/a/") (ascii "tmp/b/") 1 =
        .ok (.ok, after, afterIndex) ∧
      RelocatedBelow (ascii "tmp/a/") (ascii "tmp/b/") smallTree after ∧ DistinctPaths after := by
  have exact := tryRenameEntry_exact seedMountTable [] smallTree .new (ascii "tmp/a/")
    (ascii "tmp/b/") 1 distinctPaths_smallTree
  rcases exact.1 (by decide +kernel) with ⟨⟨status, after, afterIndex⟩, done⟩
  have reported : (tryRenameEntry seedMountTable [] smallTree .new (ascii "tmp/a/")
      (ascii "tmp/b/") 1).toOption.map Prod.fst = some .ok := by decide +kernel
  rw [done] at reported
  cases reported
  have moved := (exact.2 .ok after afterIndex done).2 rfl
  exact ⟨after, afterIndex, done, moved.1, moved.2.1⟩

/-! ## The request -/

def renameOperands (message : RawMessage) : Except (Fault Error) (StoragePath × StoragePath) := do
  let sourceLen := (message.word 0).toNat
  let source ← unpackBytes (message.payload 2) sourceLen maxStoragePath
  let dest ← unpackBytes ((message.payload 2).drop (Word.divCeil sourceLen 8))
    (message.word 1).toNat maxStoragePath
  return (source, dest)

def handleRenameRequest (now : Nat) (message : RawMessage) : Code Unit :=
  answering message 3 fun replyHandle =>
    match renameOperands message with
    | .error _ => sendStatusOnly replyHandle .renameReply .invalidPath
    | .ok (source, dest) => do
      let service ← gets id
      let (status, mutableEntries, searchIndex) ← checked (tryRenameEntry service.mounts
        service.entries service.mutableEntries service.searchIndex source.val dest.val now)
      modify fun service =>
        { service with mutableEntries := mutableEntries, searchIndex := searchIndex }
      onlyIf (status = .ok) persistState
      sendStatusOnly replyHandle .renameReply status

end ServiceOS.Storage
