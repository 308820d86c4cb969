import ServiceOS.Storage.Persistent

/-! # The consistency check

`fsck.rs`: the scan of the tables and of the snapshots, and the repair. -/

namespace ServiceOS.Storage

open ByteString Fallible Service Checked

def fsckRequestTag : Nat := 0x525

def fsckReplyTag : Nat := 0x526

def fsckMaxFindings : Nat := 16

def fsckPathBytes : Nat := 48

def originMountBase : Nat := 1000

inductive FsckCode
  | orphanedEntry
  | duplicatePath
  | invalidPath
  | kindSlashMismatch
  | emptyPath
  | mountDuplicate
  | mountPath
  | snapshotHeader
  | snapshotChecksum
  | snapshotRecord
  | generationRegression
deriving DecidableEq

def FsckCode.code : FsckCode → Nat
  | .orphanedEntry => 1
  | .duplicatePath => 2
  | .invalidPath => 3
  | .kindSlashMismatch => 4
  | .emptyPath => 5
  | .mountDuplicate => 6
  | .mountPath => 7
  | .snapshotHeader => 8
  | .snapshotChecksum => 9
  | .snapshotRecord => 10
  | .generationRegression => 11

/-- `SEV_ERROR` and `SEV_WARNING`. -/
inductive Severity
  | error
  | warning

def Severity.code : Severity → Nat
  | .error => 1
  | .warning => 2

structure FsckFinding where
  severity : Severity
  code : FsckCode
  origin : Nat
  path : Octets

structure FsckReport where
  errors : Nat
  warnings : Nat
  dropped : Nat
  rebuiltIndex : Bool
  findings : List FsckFinding
  truncated : Bool

namespace FsckReport

def new : FsckReport := ⟨0, 0, 0, false, [], false⟩

variable (report : FsckReport)

def push (severity : Severity) (code : FsckCode) (origin : Nat) (path : Octets) : FsckReport :=
  let counted := match severity with
    | .error => { report with errors := report.errors + 1 }
    | .warning => { report with warnings := report.warnings + 1 }
  if fsckMaxFindings ≤ report.findings.length then
    { counted with truncated := true }
  else
    { counted with findings := report.findings ++
        [⟨severity, code, origin % 2 ^ 16, path.take fsckPathBytes⟩] }

def error (report : FsckReport) (code : FsckCode) (origin : Nat) (path : Octets) : FsckReport :=
  report.push .error code origin path

def warning (report : FsckReport) (code : FsckCode) (origin : Nat) (path : Octets) :
    FsckReport :=
  report.push .warning code origin path

@[simp] theorem rebuiltIndex_error (report : FsckReport) (code : FsckCode) (origin : Nat)
    (path : Octets) : (report.error code origin path).rebuiltIndex = report.rebuiltIndex := by
  rw [error, push]
  split <;> rfl

def errorIf (found : Bool) (code : FsckCode) (origin : Nat) (path : Octets) : FsckReport :=
  if found then report.error code origin path else report

def warningIf (found : Bool) (code : FsckCode) (origin : Nat) (path : Octets) : FsckReport :=
  if found then report.warning code origin path else report

end FsckReport

/-! ## The tables -/

def pathCore (path : Octets) : StorageEntryKind → Octets
  | .directory => path.dropLast
  | .file => path

def entryPathViolation (path : Octets) (kind : StorageEntryKind) : Option FsckCode :=
  if path = [] then
    some .emptyPath
  else if path.head? = some slash then
    some .invalidPath
  else if endsWithSlash path ≠ (kind == .directory) then
    some .kindSlashMismatch
  else
    let core := pathCore path kind
    if core.isEmpty || !storageRelativeComponentsValid core then some .invalidPath else none

structure EntryVerdict where
  violation : Option FsckCode
  orphaned : Bool
  duplicateOf : Bool

variable (mounts : MountTable) (mutableEntries : EntryTable)

def judgeEntry (index : Nat) (entry : MutableEntry) : EntryVerdict :=
  let violation := entryPathViolation entry.path.val entry.kind
  { violation := violation
    orphaned := violation.isNone && (storageResolveMount mounts entry.path.val).isNone
    duplicateOf := violation.isNone && (mutableEntries.entries.take index).any fun other =>
      other.any fun other => other.path == entry.path }

def scanEntry (report : FsckReport) (slot : Option MutableEntry × Nat) : FsckReport :=
  match slot with
  | (none, _) => report
  | (some entry, index) =>
    let verdict := judgeEntry mounts mutableEntries index entry
    let report := match verdict.violation with
      | none => report
      | some code => report.error code index entry.path.val
    (report.errorIf verdict.duplicateOf .duplicatePath index entry.path.val).warningIf
      verdict.orphaned .orphanedEntry index entry.path.val

def scanMount (report : FsckReport) (slot : Option StorageMount × Nat) : FsckReport :=
  match slot with
  | (none, _) => report
  | (some mount, index) =>
    let report := report.warningIf (storageValidateMountPath mount.path.val != .ok ()) .mountPath
      index mount.path.val
    report.errorIf ((mounts.slots.entries.take index).any fun other =>
      other.any fun other => other.path == mount.path) .mountDuplicate index mount.path.val

def scanMemory (report : FsckReport) : FsckReport :=
  let report := mutableEntries.entries.zipIdx.foldl (scanEntry mounts mutableEntries) report
  mounts.slots.entries.zipIdx.foldl (scanMount mounts) report

section

theorem foldl_scan {slots : List Slot}
    (silent : ∀ slot ∈ slots, ∀ report, scan report slot = report) :
    slots.foldl scan report = report := by
  induction slots with
  | nil => rfl
  | cons slot slots induction =>
    rw [List.foldl_cons, silent slot List.mem_cons_self]
    exact induction fun other member => silent other (List.mem_cons_of_mem slot member)

theorem scanMount_clean (mounts : MountTable) {index : Nat}
    (held : mounts.slots.get? index = some mount) (report : FsckReport) :
    scanMount mounts report (some mount, index) = report := by
  have alone : ((mounts.slots.entries.take index).any fun other =>
      other.any fun other => other.path == mount.path) = false := by
    rw [← Bool.not_eq_true, Slots.any_take]
    rintro ⟨place, other, before, there, same⟩
    exact Nat.ne_of_lt before (mounts.distinct there held (eq_of_beq same))
  rw [scanMount, alone, mount.valid]
  rfl

theorem scanMemory_clean {mounts : MountTable} {mutableEntries : EntryTable}
    (judged : ∀ index entry, mutableEntries.get? index = some entry →
      judgeEntry mounts mutableEntries index entry = ⟨none, false, false⟩) :
    scanMemory mounts mutableEntries report = report := by
  have entries : mutableEntries.entries.zipIdx.foldl (scanEntry mounts mutableEntries) report =
      report := by
    apply foldl_scan
    rintro ⟨_ | entry, index⟩ member report
    · rfl
    · rw [scanEntry, judged index entry (Slots.get?_of_mem_zipIdx member)]
      rfl
  rw [scanMemory, entries]
  apply foldl_scan
  rintro ⟨_ | mount, index⟩ member report
  · rfl
  · exact scanMount_clean _ (Slots.get?_of_mem_zipIdx member) report

end

def drops (index : Nat) : Bool :=
  match mutableEntries.get? index with
  | none => false
  | some entry =>
    let verdict := judgeEntry mounts mutableEntries index entry
    verdict.violation.isSome || verdict.orphaned || verdict.duplicateOf

def collectDropPlan : List Nat :=
  (List.range maxMutableEntries).filter (drops mounts mutableEntries)

def applyRepairs (report : FsckReport) : Code FsckReport := do
  let plan ← gets fun service => collectDropPlan service.mounts service.mutableEntries
  releaseMutableEntries plan
  pure { report with dropped := report.dropped + plan.length, rebuiltIndex := true }

/-! ## The snapshots -/

structure SnapshotFields where
  magicOk : Bool
  version : Nat
  header : Header

def validateSnapshotFields (fields : SnapshotFields)
    (maxEntries maxMounts blockSize slotBytes : Nat) : Option FsckCode :=
  let header := fields.header
  if !fields.magicOk ||
      (fields.version != persistentVersion && fields.version != persistentVersionV1) then
    some .snapshotHeader
  else if maxEntries < header.entryCount || maxMounts < header.mountCount then
    some .snapshotHeader
  else if header.recordsOffset < blockSize || header.totalBytes == 0 ||
      slotBytes < header.totalBytes ||
      header.dataOffset < header.recordsOffset + header.entryCount * persistentRecordBytes +
        header.mountCount * persistentRecordBytes then
    some .snapshotHeader
  else
    none

def chainRegression (activeGeneration staleGeneration : Nat) : Bool :=
  activeGeneration < staleGeneration

variable (store : PersistentStore)

/-- Feed the records from one on to the checksum. The answer is `none` when one cannot be read. -/
def feedRecords (store : PersistentStore) (slot base : Nat) :
    (count index : Nat) → UInt64 → Code (Option UInt64)
  | 0, _, hash => pure (some hash)
  | count + 1, index, hash => do
    let recordOffset ← checked (add base (index * persistentRecordBytes))
    match ← recovered (readRecordSpan store slot recordOffset) with
    | none => pure none
    | some record => feedRecords store slot base count (index + 1) (feedChecksum hash record)

def recomputeSnapshotChecksum (slot : Nat) (header : Header) : Code UInt64 := do
  match ← recovered (blockDeviceRead (slot * store.slotBlocks) store.blockSize) with
  | none => pure 0
  | some block => do
    let hash := feedChecksum fnvOffsetBasis ((buffered block).take 52)
    match ← feedRecords store slot header.recordsOffset header.entryCount 0 hash with
    | none => pure 0
    | some hash => do
      let mountsBase ← checked (add header.recordsOffset
        (header.entryCount * persistentRecordBytes))
      let hash ← feedRecords store slot mountsBase header.mountCount 0 hash
      pure (hash.getD 0)

/-- Whether the slot does not have the checksum its header states. Zero states none. -/
def checksumMismatch (slot : Nat) (header : Header) : Code Bool :=
  if header.storedChecksum = 0 then
    pure false
  else do
    let computed ← recomputeSnapshotChecksum store slot header
    pure (computed.toNat != header.storedChecksum)

def recordKind (record : Octets) : Option StorageEntryKind :=
  match (record[1]?.getD 0).toNat with
  | 0 => some .file
  | 1 => some .directory
  | _ => none

def verifyEntryRecord (header : Header) (mounts : MountTable) (index : Nat) (record : Octets)
    (report : FsckReport) : FsckReport :=
  let occupied := record[0]?.getD 0
  if occupied = 0 then
    report
  else if 1 < occupied then
    report.error .snapshotRecord index (ascii "occupied-flag")
  else
    match recordKind record with
    | none => report.error .snapshotRecord index (ascii "kind")
    | some kind =>
      let pathLen := field record 2 2
      if pathLen = 0 || maxStoragePath < pathLen then
        report.error .snapshotRecord index (ascii "path-len")
      else
        let path := (record.drop 24).take pathLen
        let report := match entryPathViolation path kind with
          | none => report
          | some code => report.error code index path
        let report := report.warningIf (storageResolveMount mounts path).isNone .orphanedEntry
          index path
        let dataLen := field record 8 8
        let fileOffset := field record 16 8
        report.errorIf (kind == .file && (fileOffset < header.dataOffset ||
          header.totalBytes < Word.saturatingAdd fileOffset dataLen)) .snapshotRecord index path

/-- What there is to say about a mount record, and the paths seen. -/
def verifyMountRecord (index : Nat) (record : Octets)
    (seen : List Octets × FsckReport) : List Octets × FsckReport :=
  let (paths, report) := seen
  let origin := originMountBase + index
  if record[0]?.getD 0 = 0 then
    seen
  else if 3 < field record 4 4 then
    (paths, report.error .snapshotRecord origin (ascii "mount-kind"))
  else
    let pathLen := field record 2 2
    if storageMountPathMax < pathLen then
      (paths, report.error .snapshotRecord origin (ascii "mount-path-len"))
    else
      let path := (record.drop 24).take pathLen
      let report := report.warningIf (storageValidateMountPath path != .ok ()) .mountPath
        origin path
      if paths.contains path then
        (paths, report.error .mountDuplicate origin path)
      else if paths.length < storageMountTableMax then
        (paths ++ [path], report)
      else
        (paths, report)

def verifyRecords {Report : Type} (store : PersistentStore) (slot base : Nat)
    (unreadable : Nat → Report → Report) (verify : Nat → Octets → Report → Report) :
    (count index : Nat) → Report → Code Report
  | 0, _, report => pure report
  | count + 1, index, report => do
    let recordOffset ← checked (add base (index * persistentRecordBytes))
    let record ← recovered (readRecordSpan store slot recordOffset)
    verifyRecords store slot base unreadable verify count (index + 1) (match record with
      | none => unreadable index report
      | some record => verify index record report)

def verifySlotRecords (slot : Nat) (header : Header) (report : FsckReport) : Code FsckReport := do
  let mounts ← gets Service.mounts
  let report ← verifyRecords store slot header.recordsOffset
    (fun index report => report.error .snapshotRecord index (ascii "unreadable"))
    (verifyEntryRecord header mounts) header.entryCount 0 report
  let mountsBase ← checked (add header.recordsOffset (header.entryCount * persistentRecordBytes))
  let (_, report) ← verifyRecords store slot mountsBase
    (fun index (paths, report) =>
      (paths, report.error .snapshotRecord (originMountBase + index) (ascii "unreadable")))
    verifyMountRecord header.mountCount 0 ([], report)
  pure report

/-- Judge one slot. The answer has its generation if the header could be parsed. -/
def scanSnapshotSlot (slot : Nat) (report : FsckReport) : Code (Option Nat × FsckReport) := do
  match ← recovered (blockDeviceRead (slot * store.slotBlocks) store.blockSize) with
  | none => pure (none, report.error .snapshotHeader slot (ascii "slot-unreadable"))
  | some block =>
    if block.all (· == 0) then
      pure (none, report)
    else do
      match ← checked (parseHeader store (buffered block) store.blockSize) with
      | none => pure (none, report.error .snapshotHeader slot (ascii "unparseable"))
      | some header => do
        let fields : SnapshotFields :=
          ⟨(buffered block).take persistentMagic.length == persistentMagic,
            field (buffered block) 8 4, header⟩
        let slotBytes ← checked (mul store.slotBlocks store.blockSize)
        match validateSnapshotFields fields maxMutableEntries storageMountTableMax
            store.blockSize slotBytes with
        | some code => pure (some header.generation, report.error code slot (ascii "layout"))
        | none => do
          let mismatch ← checksumMismatch store slot header
          let report := report.errorIf mismatch .snapshotChecksum slot (ascii "metadata")
          let report ← verifySlotRecords store slot header report
          pure (some header.generation, report)

def scanSnapshotSlots (report : FsckReport) : Code FsckReport :=
  if blockBufferBytes < store.blockSize then
    pure report
  else do
    let (first, report) ← scanSnapshotSlot store 0 report
    let (second, report) ← scanSnapshotSlot store 1 report
    let (active, stale) := if store.activeSlot = 0 then (first, second) else (second, first)
    match active, stale with
    | some activeGeneration, some staleGeneration =>
      pure (report.errorIf (chainRegression activeGeneration staleGeneration)
        .generationRegression store.activeSlot (ascii "slots"))
    | _, _ => pure report

/-! ## The request -/

def scanStore (report : FsckReport) : Code FsckReport := do
  match ← gets Service.persistentStore with
  | none => pure report
  | some store => scanSnapshotSlots store report

def fullScan (apply : Bool) : Code FsckReport := do
  let report ← gets fun service =>
    scanMemory service.mounts service.mutableEntries FsckReport.new
  let report ← scanStore report
  if apply then do
    let report ← applyRepairs report
    match ← recovered persistState with
    | none => pure (report.error .snapshotHeader (2 ^ 16 - 1) (ascii "persist-after-repair"))
    | some () => pure report
  else
    pure report

def FsckFinding.word (finding : FsckFinding) : UInt64 :=
  .ofNat (finding.severity.code * 2 ^ 56 + finding.code.code * 2 ^ 48 + finding.origin)

def sendFsckReply (replyHandle : Handle) (status : StorageStatus) (report : FsckReport)
    (apply : Bool) : Code Unit :=
  channelSend replyHandle ⟨fsckReplyTag, [status.word, .ofNat report.errors,
    .ofNat report.warnings, .ofNat report.dropped, if report.rebuiltIndex then 1 else 0,
    if apply then 1 else 0] ++ (report.findings.take (ipcMaxWords - 6)).map FsckFinding.word, []⟩

def handleFsckRequest (message : RawMessage) : Code Unit :=
  answering message 2 fun replyHandle =>
    let apply := message.word 0 == 1
    if message.word 1 ≠ storageRootAuthority then
      sendFsckReply replyHandle .denied FsckReport.new false
    else do
      let report ← fullScan apply
      onlyIf (apply && report.rebuiltIndex)
        (modify fun service => { service with searchIndex := service.searchIndex.markDirty })
      sendFsckReply replyHandle .ok report apply

end ServiceOS.Storage
