import ServiceOS.Storage.Service

/-! # Snapshots

`persistent.rs`: writing the persistent entries and the mounts to one of the two
slots of the device, and reading their records again. -/

namespace ServiceOS.Storage

open ByteString Fallible Service Checked List

def persistentMagic : Octets := ascii "SOSPSTR1"

def persistentVersion : Nat := 2

def persistentVersionV1 : Nat := 1

def persistentRecordBytes : Nat := 128

def blockBufferBytes : Nat := 512

def alignUp (value align : Nat) : Except (Fault Error) Nat :=
  if value % align = 0 then .ok value
  else if align = 0 then .error .panicked
  else add value (align - value % align)

def field (bytes : Octets) (start width : Nat) : Nat :=
  fromLittleEndian ((bytes.drop start).take width)

/-! ## Releasing -/

def releaseMutableEntry (index : Nat) : Code Unit := fun service =>
  match service.mutableEntries.get? index with
  | none => (.ok (), service)
  | some entry =>
    (.ok (), { service with
      mutableEntries := service.mutableEntries.set index none
      memory :=
        if entry.dataHandle ≠ invalidHandle then service.memory.close entry.dataHandle
        else service.memory })

def releaseMutableEntries (indices : List Nat) : Code Unit :=
  indices.foldr (fun index rest => do releaseMutableEntry index; rest) (pure ())

/-! ## Reading -/

structure Header where
  generation : Nat
  entryCount : Nat
  mountCount : Nat
  recordsOffset : Nat
  dataOffset : Nat
  totalBytes : Nat
  storedChecksum : Nat
deriving DecidableEq

def Header.decode (block : Octets) : Header where
  generation := field block 16 8
  entryCount := field block 12 4
  mountCount := if persistentVersion ≤ field block 8 4 then field block 48 4 else 0
  recordsOffset := field block 24 8
  dataOffset := field block 32 8
  totalBytes := field block 40 8
  storedChecksum := field block 52 8

/-- The offset from which a snapshot with this header may store file data. -/
def Header.dataFloor (header : Header) (blockSize : Nat) : Except (Fault Error) Nat := do
  let entriesEnd ← add header.recordsOffset (header.entryCount * persistentRecordBytes)
  let metadataEnd ← add entriesEnd (header.mountCount * persistentRecordBytes)
  alignUp metadataEnd blockSize

variable (store : PersistentStore)

def parseHeader (block : Octets) (blockSize : Nat) : Except (Fault Error) (Option Header) :=
  let version := field block 8 4
  let header := Header.decode block
  if block.take persistentMagic.length ≠ persistentMagic ∨
      (version ≠ persistentVersion ∧ version ≠ persistentVersionV1) ∨
      maxMutableEntries < header.entryCount ∨ storageMountTableMax < header.mountCount ∨
      header.recordsOffset < blockSize ∨ header.totalBytes = 0 then
    .ok none
  else do
    let slotBytes ← mul store.slotBlocks blockSize
    if slotBytes < header.totalBytes then
      return none
    else
      let floor ← header.dataFloor blockSize
      return if header.dataOffset < floor then none else some header

/-- Read a range of a slot block by block and hand the pieces on. -/
def readSpan {Answer : Type} (store : PersistentStore) (slot offset length : Nat)
    (use : Answer → Nat → Octets → Code Answer) : (fuel copied : Nat) → Answer → Code Answer
  | 0, _, _ => lift (.error .outOfFuel)
  | fuel + 1, copied, answer =>
    if length ≤ copied then
      pure answer
    else do
      let absolute ← checked (add offset copied)
      let blockIndex := absolute / store.blockSize
      let blockOffset := absolute % store.blockSize
      let copyLen := min (length - copied) (store.blockSize - blockOffset)
      let place ← checked (add (slot * store.slotBlocks) blockIndex)
      let block ← blockDeviceRead place store.blockSize
      let answer ← use answer copied ((block.drop blockOffset).take copyLen)
      readSpan store slot offset length use fuel (copied + copyLen) answer

def readRecordSpan (slot recordOffset : Nat) : Code Octets :=
  readSpan store slot recordOffset persistentRecordBytes (fun out _ piece => pure (out ++ piece))
    (persistentRecordBytes + 1) 0 []

structure StoredEntry where
  kind : StorageEntryKind
  path : StoragePath
  dataLen : Nat
  fileOffset : Nat

/-- What is in an entry record, if it is occupied. The answer is `none` when the snapshot
is given up. -/
def parseEntryRecord (record : Octets) : Option (Option StoredEntry) :=
  if record[0]?.getD 0 = 0 then
    some none
  else
    let kind? : Option StorageEntryKind := match (record[1]?.getD 0).toNat with
      | 0 => some .file
      | 1 => some .directory
      | _ => none
    kind?.bind fun kind =>
      let pathLen := field record 2 2
      if pathLen = 0 then
        none
      else
        if fits : pathLen ≤ maxStoragePath then
          some (some ⟨kind,
            ⟨(record.drop 24).take pathLen, Nat.le_trans (length_take_le _ _) fits⟩,
            field record 8 8, field record 16 8⟩)
        else
          none

structure StoredMount where
  path : Octets
  kind : StorageMountKind
  flags : UInt64
  authority : UInt64

/-- The mount of a record, unless the record is passed over. -/
def parseMountRecord (record : Octets) : Option StoredMount :=
  if record[0]?.getD 0 = 0 then
    none
  else
    let kind? : Option StorageMountKind := match field record 4 4 with
      | 0 => some .boot
      | 1 => some .persistent
      | 2 => some .ephemeral
      | 3 => some .temp
      | _ => none
    kind?.bind fun kind =>
      let pathLen := field record 2 2
      if storageMountPathMax < pathLen then
        none
      else
        some ⟨(record.drop 24).take pathLen, kind, .ofNat (field record 8 8),
          .ofNat (field record 16 8)⟩

def buffered (block : Octets) : Octets :=
  block ++ replicate (blockBufferBytes - block.length) 0

/-! ## Writing -/

def fnvOffsetBasis : UInt64 := 0xcbf29ce484222325

def fnvPrime : UInt64 := 0x100000001b3

def feedChecksum (hash : UInt64) (bytes : Octets) : UInt64 :=
  bytes.foldl (fun hash byte => (hash ^^^ .ofNat byte.toNat) * fnvPrime) hash

def padRecord (bytes : Octets) : Octets :=
  bytes ++ replicate (persistentRecordBytes - bytes.length) 0

def buildEntryRecord (entry : MutableEntry) (fileOffset : Nat) : Octets :=
  padRecord ([1, .ofNat entry.kind.code] ++ toLittleEndian 2 entry.path.val.length ++
    replicate 4 0 ++ toLittleEndian 8 entry.dataLen ++
    toLittleEndian 8 (if entry.kind = .file then fileOffset else 0) ++ entry.path.val)

def buildMountRecord (mount : StorageMount) : Octets :=
  padRecord ([1, 0] ++ toLittleEndian 2 mount.path.val.length ++ toLittleEndian 4 mount.kind.code ++
    toLittleEndian 8 mount.flags.toNat ++ toLittleEndian 8 mount.authority.toNat ++ mount.path.val)

def headerFields (header : Header) : Octets :=
  persistentMagic ++ toLittleEndian 4 persistentVersion ++ toLittleEndian 4 header.entryCount ++
    toLittleEndian 8 header.generation ++ toLittleEndian 8 header.recordsOffset ++
    toLittleEndian 8 header.dataOffset ++ toLittleEndian 8 header.totalBytes ++
    toLittleEndian 4 header.mountCount

/-- The space a file takes after what comes before it. -/
def reserveFile (blockSize cursor : Nat) (file : StorageEntryKind × Nat) :
    Except (Fault Error) Nat :=
  match file.1 with
  | .directory => .ok cursor
  | .file => do
    let cursor ← alignUp cursor blockSize
    return Word.saturatingAdd cursor file.2

def planFiles (blockSize : Nat) :
    (cursor : Nat) → List MutableEntry → Except (Fault Error) (List Nat)
  | _, [] => .ok []
  | cursor, entry :: entries =>
    match entry.kind with
    | .directory => do
      let offsets ← planFiles blockSize cursor entries
      return 0 :: offsets
    | .file => do
      let offset ← alignUp cursor blockSize
      let next ← add offset entry.dataLen
      let offsets ← planFiles blockSize next entries
      return offset :: offsets

structure FlushPlan where
  header : Header
  mountsOffset : Nat
  entries : List (MutableEntry × Nat)
  mounts : List StorageMount
deriving DecidableEq

namespace FlushPlan

def entryRecords (plan : FlushPlan) : List Octets :=
  plan.entries.map fun (entry, fileOffset) => buildEntryRecord entry fileOffset

def mountRecords (plan : FlushPlan) : List Octets := plan.mounts.map buildMountRecord

/-- The header block: the fields, the checksum over them and the records, and zeros. -/
def headerBlock (plan : FlushPlan) : Octets :=
  let fields := headerFields plan.header
  let checksum := (plan.entryRecords ++ plan.mountRecords).foldl feedChecksum
    (feedChecksum fnvOffsetBasis fields)
  let bytes := fields ++ toLittleEndian 8 checksum.toNat
  bytes ++ replicate (blockBufferBytes - bytes.length) 0

end FlushPlan

/-- The kind and length of the entry that fills the places without a record. -/
def seedEntry (entries : EntryTable) : StorageEntryKind × Nat :=
  match entries.get? 0 with
  | none => (.file, 0)
  | some entry => (entry.kind, entry.dataLen)

def planFlush (mounts : MountTable) (entries : EntryTable) : Except (Fault Error) FlushPlan := do
  let blockSize := store.blockSize
  let records := entries.values.filter MutableEntry.persistent
  let activeMounts := mounts.values
  let mountsOffset := blockSize + records.length * persistentRecordBytes
  let dataOffset ← alignUp (mountsOffset + activeMounts.length * persistentRecordBytes) blockSize
  -- The source adds up all places of its array, those beyond the records too.
  let reserved := records.map (fun entry => (entry.kind, entry.dataLen)) ++
    replicate (maxMutableEntries - records.length) (seedEntry entries)
  let cursor ← reserved.foldlM (reserveFile blockSize) dataOffset
  let totalBytes ← alignUp cursor blockSize
  let slotBytes ← mul store.slotBlocks blockSize
  if slotBytes < totalBytes then
    throw (.error .busy)
  else
    let fileOffsets ← planFiles blockSize dataOffset records
    return {
      header := {
        generation := Word.saturatingAdd store.generation 1
        entryCount := records.length
        mountCount := activeMounts.length
        recordsOffset := blockSize
        dataOffset := dataOffset
        totalBytes := totalBytes
        storedChecksum := 0 }
      mountsOffset := mountsOffset
      entries := records.zip fileOffsets
      mounts := activeMounts }

/-- The block being filled, and its index unless it has been written. -/
structure Batch where
  scratch : Octets
  pending : Option Nat

def writePending (slot : Nat) (batch : Batch) : Code Unit :=
  match batch.pending with
  | none => pure ()
  | some previous => blockDeviceWrite (slot * store.slotBlocks + previous) batch.scratch

def beginBlock (slot blockIndex blockOffset : Nat) (batch : Batch) : Code Batch :=
  if batch.pending = some blockIndex then
    pure batch
  else do
    writePending store slot batch
    if blockOffset = 0 then
      pure ⟨replicate store.blockSize 0, some blockIndex⟩
    else do
      let scratch ← blockDeviceRead (slot * store.slotBlocks + blockIndex) store.blockSize
      pure ⟨scratch, some blockIndex⟩

/-- Copy the rest of a record into the block that holds the address, and the next ones. -/
def writeRecord (store : PersistentStore) (slot : Nat) :
    (fuel absolute : Nat) → Octets → Batch → Code Batch
  | 0, _, _, _ => lift (.error .outOfFuel)
  | fuel + 1, absolute, bytes, batch =>
    if bytes = [] then
      pure batch
    else do
      let blockIndex := absolute / store.blockSize
      let blockOffset := absolute % store.blockSize
      let copyLen := min bytes.length (store.blockSize - blockOffset)
      let begun ← beginBlock store slot blockIndex blockOffset batch
      let scratch := Memory.overwrite begun.scratch blockOffset (bytes.take copyLen)
      if blockOffset + copyLen = store.blockSize then
        blockDeviceWrite (slot * store.slotBlocks + blockIndex) scratch
        writeRecord store slot fuel (absolute + copyLen) (bytes.drop copyLen) ⟨scratch, none⟩
      else
        writeRecord store slot fuel (absolute + copyLen) (bytes.drop copyLen)
          ⟨scratch, begun.pending⟩

def writeRecords (store : PersistentStore) (slot : Nat) :
    (absolute : Nat) → List Octets → Batch → Code Batch
  | _, [], batch => pure batch
  | absolute, record :: records, batch => do
    let batch ← writeRecord store slot (record.length + 1) absolute record batch
    writeRecords store slot (absolute + record.length) records batch

/-- `write_record_batch`: whole-block writes of records that may span block boundaries. -/
def writeRecordBatch (slot baseOffset : Nat) (records : List Octets) : Code Unit := do
  let batch ← writeRecords store slot baseOffset records ⟨replicate store.blockSize 0, none⟩
  writePending store slot batch

def flushFileBlocks (store : PersistentStore) (slot offset : Nat) (entry : MutableEntry) :
    (fuel copied : Nat) → Code Unit
  | 0, _ => lift (.error .outOfFuel)
  | fuel + 1, copied =>
    if entry.dataLen ≤ copied then
      pure ()
    else do
      let copyLen := min (entry.dataLen - copied) store.blockSize
      let read ← memoryRead entry.dataHandle copied copyLen
      blockDeviceWrite (slot * store.slotBlocks + (offset + copied) / store.blockSize)
        (read ++ replicate (store.blockSize - read.length) 0)
      flushFileBlocks store slot offset entry fuel (copied + read.length)

def flushFileData (store : PersistentStore) (slot : Nat) : List (MutableEntry × Nat) → Code Unit
  | [] => pure ()
  | (entry, offset) :: entries => do
    onlyIf (entry.kind = .file ∧ offset ≠ 0)
      (flushFileBlocks store slot offset entry (entry.dataLen + 1) 0)
    flushFileData store slot entries

def flushPersistentStore : Code Unit :=
  if blockBufferBytes < store.blockSize then
    fail (.error .bufferTooSmall)
  else do
    let nextSlot := (store.activeSlot + 1) % 2
    let mounts ← gets Service.mounts
    let entries ← gets Service.mutableEntries
    let plan ← checked (planFlush store mounts entries)
    blockDeviceWrite (nextSlot * store.slotBlocks) (plan.headerBlock.take store.blockSize)
    writeRecordBatch store nextSlot plan.header.recordsOffset plan.entryRecords
    flushFileData store nextSlot plan.entries
    writeRecordBatch store nextSlot plan.mountsOffset plan.mountRecords
    let flushed := { store with activeSlot := nextSlot, generation := plan.header.generation }
    modify fun service => { service with persistentStore := some flushed }

def persistState : Code Unit := do
  match ← gets Service.persistentStore with
  | none => pure ()
  | some store => flushPersistentStore store

/-! ## Records read back -/

theorem field_append {after : Octets} (starts : before.length = start)
    (fits : value < 256 ^ width) :
    field (before ++ (toLittleEndian width value ++ after)) start width = value := by
  rw [field, drop_left' starts, take_left' (length_toLittleEndian width value),
    fromLittleEndian_toLittleEndian fits]

/-- What both kinds of records have in common: two numbers and a path behind its length. -/
theorem fields_padRecord {path : Octets} (kind : UInt8) (width : four.length = 4)
    (short : path.length < 256 ^ 2) (firstFits : first < 256 ^ 8) (secondFits : second < 256 ^ 8)
    (built : record = padRecord ([1, kind] ++ toLittleEndian 2 path.length ++
      four ++ toLittleEndian 8 first ++ toLittleEndian 8 second ++ path)) :
    field record 2 2 = path.length ∧ field record 8 8 = first ∧ field record 16 8 = second ∧
      (record.drop 24).take path.length = path := by
  rw [padRecord] at built
  simp only [append_assoc] at built
  refine ⟨?_, ?_, ?_, ?_⟩
  · rw [built]
    exact field_append rfl short
  · rw [built, ← append_assoc, ← append_assoc,
      field_append (by simp [length_toLittleEndian, width]) firstFits]
  · rw [built, ← append_assoc, ← append_assoc, ← append_assoc,
      field_append (by simp [length_toLittleEndian, width]) secondFits]
  · rw [built]
    iterate 4 rw [← append_assoc]
    rw [drop_left' (by simp [length_toLittleEndian, width]), take_left' rfl]

/-- Every record the writer builds is read back as what it was built from. -/
theorem records_round_trip (entry : MutableEntry) (fileOffset : Nat)
    (named : entry.path.val ≠ []) (small : entry.dataLen < 2 ^ 64 ∧ fileOffset < 2 ^ 64) :
    parseEntryRecord (buildEntryRecord entry fileOffset) = some (some ⟨entry.kind, entry.path,
        entry.dataLen, if entry.kind = .file then fileOffset else 0⟩) ∧
      ∀ mount, parseMountRecord (buildMountRecord mount) =
        some ⟨mount.path.val, mount.kind, mount.flags, mount.authority⟩ := by
  have entryFits := entry.path.property
  constructor
  · have offset : (if entry.kind = .file then fileOffset else 0) < 256 ^ 8 := by
      split <;> omega
    rcases fields_padRecord _ rfl (Nat.lt_of_le_of_lt entryFits (by decide)) small.1 offset
      (rfl : buildEntryRecord entry fileOffset = _) with ⟨length, size, place, path⟩
    have kind : (buildEntryRecord entry fileOffset)[1]?.getD 0 = .ofNat entry.kind.code := rfl
    have occupied : (buildEntryRecord entry fileOffset)[0]?.getD 0 = 1 := rfl
    simp only [parseEntryRecord, occupied, kind, length, size, place, path]
    cases entry.kind <;> simp [StorageEntryKind.code, named, entryFits]
  · intro mount
    have mountFits := mount.path.property
    rcases fields_padRecord 0 (length_toLittleEndian 4 _)
      (Nat.lt_of_le_of_lt mountFits (by decide)) mount.flags.toNat_lt mount.authority.toNat_lt
      (rfl : buildMountRecord mount = _) with ⟨length, flags, authority, path⟩
    have kind : field (buildMountRecord mount) 4 4 = mount.kind.code := by
      rw [buildMountRecord, padRecord]
      simp only [append_assoc]
      rw [← append_assoc, field_append (by simp [length_toLittleEndian])]
      cases mount.kind <;> decide
    have occupied : (buildMountRecord mount)[0]?.getD 0 = 1 := rfl
    simp only [parseMountRecord, occupied, kind, length, flags, authority, path]
    cases mount.kind <;> simp [StorageMountKind.code, Nat.not_lt.mpr mountFits]

theorem records_round_trip_home : parseEntryRecord (buildEntryRecord
      ⟨.file, ⟨ascii "home/a", by decide⟩, 1, 3, initialFileCapacity, true⟩ 512) =
    some (some ⟨.file, ⟨ascii "home/a", by decide⟩, 3, 512⟩) :=
  (records_round_trip _ 512 (by decide) (by decide)).1

end ServiceOS.Storage
