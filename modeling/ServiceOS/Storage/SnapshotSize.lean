import ServiceOS.Storage.Persistent

/-! # The size of a snapshot

A snapshot is refused when it would not fit its slot. The size that is compared also
counts the first file of the table once for every place that no record takes. -/

namespace ServiceOS.Storage

open Checked List

/-- A size in whole blocks. -/
def blockAligned (block size : Nat) : Nat :=
  if size % block = 0 then size else size + (block - size % block)

/-- The space that the data of an entry takes. -/
def dataBytes (block : Nat) : StorageEntryKind × Nat → Nat
  | (.directory, _) => 0
  | (.file, length) => blockAligned block length

section

variable (store : PersistentStore) (mounts : MountTable) (entries : EntryTable)

abbrev records : List MutableEntry := entries.values.filter MutableEntry.persistent

def slotBytes : Nat := store.slotBlocks * store.blockSize

/-- The header block and the records of a snapshot. -/
def metadataBytes : Nat :=
  store.blockSize + (records entries).length * persistentRecordBytes +
    mounts.values.length * persistentRecordBytes

/-- The header block, the records and the files of a snapshot. -/
def snapshotBytes : Nat :=
  blockAligned store.blockSize (metadataBytes store mounts entries) +
    ((records entries).map fun entry => dataBytes store.blockSize (entry.kind, entry.dataLen)).sum

/-- The size that is compared with the slot. -/
def countedBytes : Nat :=
  snapshotBytes store mounts entries +
    (maxMutableEntries - (records entries).length) * dataBytes store.blockSize (seedEntry entries)

/-- A snapshot that is refused would not fit. -/
def RefusesLarge : Prop :=
  planFlush store mounts entries = .error (.error .busy) →
    slotBytes store < snapshotBytes store mounts entries

end

/-! ## No more than this is counted -/

/-- A place that is not past a bound of whole blocks. -/
def Within (block bound place : Nat) : Prop := place ≤ bound ∧ (0 < block → block ∣ bound)

theorem within_blockAligned (block size : Nat) : Within block (blockAligned block size) size := by
  rw [blockAligned]
  split
  · exact ⟨le_rfl, fun _ => Nat.dvd_of_mod_eq_zero ‹_›⟩
  refine ⟨Nat.le_add_right _ _, fun positive => ?_⟩
  have small := Nat.mod_lt size positive
  have part := Nat.mod_le size block
  rw [show size + (block - size % block) = size - size % block + block by omega]
  exact Nat.dvd_add (Nat.dvd_sub_mod size) (Nat.dvd_refl block)

theorem settles_alignUp (within : Within block bound size) :
    Settles (alignUp size block) (Within block bound) refused := by
  rw [alignUp]
  split
  · exact within
  split
  · trivial
  rcases within with ⟨inside, whole⟩
  have part := Nat.mod_le size block
  have last := Nat.le_of_dvd (by omega) (Nat.dvd_sub (whole (by omega)) (Nat.dvd_sub_mod size))
  exact settles_ite ⟨by omega, whole⟩

theorem settles_reserveFile (file : StorageEntryKind × Nat) (within : Within block bound cursor) :
    Settles (reserveFile block cursor file) (Within block (bound + dataBytes block file))
      refused := by
  rcases file with ⟨_ | _, length⟩
  case directory => exact within
  apply settles_bind (settles_alignUp within)
  intro aligned placed
  have data := within_blockAligned block length
  exact ⟨(Nat.min_le_left _ _).trans (Nat.add_le_add placed.1 data.1), fun positive =>
    Nat.dvd_add (placed.2 positive) (data.2 positive)⟩

theorem settles_reserveFiles (files : List (StorageEntryKind × Nat))
    (within : Within block bound cursor) :
    Settles (files.foldlM (reserveFile block) cursor)
      (Within block (bound + (files.map (dataBytes block)).sum)) refused := by
  induction files generalizing cursor bound with
  | nil => exact within
  | cons file files induction =>
    rw [map_cons, sum_cons, ← Nat.add_assoc]
    exact settles_bind (settles_reserveFile file within) fun _ => induction

theorem settles_planFiles (entries : List MutableEntry) :
    Settles (planFiles block cursor entries) (fun _ => True) refused := by
  induction entries generalizing cursor with
  | nil => trivial
  | cons entry entries induction =>
    rw [planFiles]
    split
    · exact settles_bind induction fun _ _ => trivial
    · apply settles_bind (settles_alignUp (within_blockAligned block cursor))
      intro offset _
      apply settles_bind (@settles_ite _ _ (fun _ => True) _ _ _ _ trivial)
      exact fun _ _ => settles_bind induction fun _ _ => trivial

theorem countedBytes_eq (store : PersistentStore) (mounts : MountTable) (entries : EntryTable) :
    blockAligned store.blockSize (metadataBytes store mounts entries) +
      (((records entries).map (fun entry => (entry.kind, entry.dataLen)) ++
        replicate (maxMutableEntries - (records entries).length) (seedEntry entries)).map
          (dataBytes store.blockSize)).sum = countedBytes store mounts entries := by
  rw [countedBytes, snapshotBytes, map_append, sum_append_nat, map_replicate, sum_replicate_nat,
    map_map, ← Nat.add_assoc]
  rfl

theorem planFlush_busy (busy : planFlush store mounts entries = .error (.error .busy)) :
    slotBytes store < countedBytes store mounts entries := by
  have settles : Settles (planFlush store mounts entries) (fun _ => True) fun _ =>
      slotBytes store < countedBytes store mounts entries := by
    apply settles_bind (settles_alignUp (within_blockAligned _ _))
    intro dataOffset placed
    apply settles_bind (settles_reserveFiles _ placed)
    intro cursor within
    apply settles_bind (settles_alignUp within)
    rintro totalBytes ⟨bounded, -⟩
    apply settles_bind (@settles_ite _ _ (· = slotBytes store) _ _ _ _ rfl)
    rintro _ rfl
    split
    next small => exact small.trans_le (bounded.trans_eq (countedBytes_eq store mounts entries))
    · exact settles_bind (settles_planFiles _) fun _ _ => trivial
  rw [busy] at settles
  exact settles

/-! ## All of it is counted -/

theorem blockAligned_add (whole : block ∣ start) (size : Nat) :
    blockAligned block (start + size) = start + blockAligned block size := by
  have rest : (start + size) % block = size % block := by
    rw [Nat.add_mod, Nat.mod_eq_zero_of_dvd whole, Nat.zero_add, Nat.mod_mod]
  rw [blockAligned, blockAligned, rest]
  split
  · rfl
  · exact Nat.add_assoc ..

section

variable {block : Nat} (positive : 0 < block)

include positive

theorem alignUp_eq (small : blockAligned block size < Word.limit) :
    alignUp size block = .ok (blockAligned block size) := by
  rw [blockAligned] at small ⊢
  rw [alignUp]
  split
  · rfl
  rename_i part
  rw [if_neg part] at small
  rw [if_neg positive.ne', add, if_pos small]

theorem reserveFile_eq (file : StorageEntryKind × Nat)
    (small : blockAligned block cursor + dataBytes block file < Word.limit) :
    ∃ next, reserveFile block cursor file = .ok next ∧
      blockAligned block next = blockAligned block cursor + dataBytes block file := by
  rcases file with ⟨_ | _, length⟩
  case directory => exact ⟨cursor, rfl, rfl⟩
  have whole := (within_blockAligned block cursor).2 positive
  have grows := (within_blockAligned block length).1
  rw [dataBytes] at small
  refine ⟨blockAligned block cursor + length, ?_, blockAligned_add whole length⟩
  rw [reserveFile, alignUp_eq positive (by omega)]
  change Except.ok (Word.saturatingAdd (blockAligned block cursor) length) = _
  rw [Word.saturatingAdd, Nat.min_eq_left (by omega)]

theorem reserveFiles_eq (files : List (StorageEntryKind × Nat))
    (small : blockAligned block cursor + (files.map (dataBytes block)).sum < Word.limit) :
    ∃ final, files.foldlM (reserveFile block) cursor = .ok final ∧
      blockAligned block final = blockAligned block cursor + (files.map (dataBytes block)).sum := by
  induction files generalizing cursor with
  | nil => exact ⟨cursor, rfl, rfl⟩
  | cons file files induction =>
    rw [map_cons, sum_cons, ← Nat.add_assoc] at small ⊢
    rcases reserveFile_eq positive file (lt_of_le_of_lt (Nat.le_add_right _ _) small) with
      ⟨next, placed, same⟩
    rw [← same] at small ⊢
    rcases induction small with ⟨final, rest, total⟩
    refine ⟨final, ?_, total⟩
    rw [foldlM_cons, placed]
    exact rest

end

theorem busy_of_countedBytes (positive : 0 < store.blockSize)
    (word : countedBytes store mounts entries < Word.limit)
    (large : slotBytes store < countedBytes store mounts entries) :
    planFlush store mounts entries = .error (.error .busy) := by
  have total := countedBytes_eq store mounts entries
  have whole :=
    (within_blockAligned store.blockSize (metadataBytes store mounts entries)).2 positive
  have still : blockAligned store.blockSize
      (blockAligned store.blockSize (metadataBytes store mounts entries)) =
      blockAligned store.blockSize (metadataBytes store mounts entries) :=
    if_pos (Nat.mod_eq_zero_of_dvd whole)
  have aligned := alignUp_eq positive (lt_of_le_of_lt (Nat.le_add_right _ _) (total ▸ word))
  rcases reserveFiles_eq positive _ (by rwa [still, total]) with ⟨final, reserved, same⟩
  rw [still, total] at same
  have last := alignUp_eq positive (same ▸ word)
  rw [metadataBytes] at aligned reserved
  rw [slotBytes] at large
  rw [planFlush]
  simp only [aligned, reserved, last, same, bind, Except.bind, mul]
  rw [if_pos (large.trans word)]
  exact if_pos large

def oneByteFile (path : StoragePath) : EntryTable :=
  (Slots.empty _).set 0 (some ⟨.file, path, 7, 1, initialFileCapacity, false⟩)

end ServiceOS.Storage
