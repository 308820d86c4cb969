import ServiceOS.Foundation.ByteString
import ServiceOS.Foundation.Checked
import ServiceOS.Foundation.Text

/-! # Backup blobs

The blob format of the backup service. Records are appended to a buffer of fixed size,
`finish` puts a header before them, and a view of the result reads them back. -/

namespace ServiceOS.Backup

open ByteString List

def maxBlobBytes : Nat := 16384

def maxRecords : Nat := 32

def maxRecordName : Nat := 64

def headerLen : Nat := 24

def magic : Nat := 0x31564253

def formatVersion : Nat := 1

/-- The scope bits of configuration, accounts and packages. -/
def knownMask : UInt32 := 0b111

inductive BackupError
  | invalidArgument
  | unknownScope
  | capacityExceeded
  | badMagic
  | unsupportedVersion
  | corrupt

def fnvOffset : UInt64 := 0xcbf29ce484222325

def fnvPrime : UInt64 := 0x100000001b3

def fnv1a64 (bytes : Octets) : UInt64 :=
  bytes.foldl (fun hash byte => (hash ^^^ byte.toUInt64) * fnvPrime) fnvOffset

def numberAt (width : Nat) (bytes : Octets) (position : Nat) : Nat :=
  fromLittleEndian ((bytes.drop position).take width)

def leU32 : Octets → Nat → Nat := numberAt 4

def leU64 : Octets → Nat → Nat := numberAt 8

def countOnes (value : UInt32) : Nat := (range 32).countP value.toNat.testBit

/-! ## Writing -/

structure Record where
  scope : UInt32
  name : Text
  data : Octets
deriving DecidableEq

def Record.encode (record : Record) : Octets :=
  toLittleEndian 4 record.scope.toNat ++ (toLittleEndian 4 record.name.byteLength ++
    (toLittleEndian 4 record.data.length ++ (record.name.toBytes ++ record.data)))

theorem Record.length_encode (record : Record) :
    record.encode.length = 12 + record.name.byteLength + record.data.length := by
  simp only [encode, length_append, length_toLittleEndian, Text.length_toBytes]
  omega

/-- The bytes of the buffer up to `len`; what lies behind them is never read. -/
structure BlobWriter where
  bytes : Octets
  recordCount : Nat
  scopeMask : UInt32
  fits : bytes.length ≤ maxBlobBytes

namespace BlobWriter

def new : BlobWriter := ⟨[], 0, 0, Nat.zero_le _⟩

def pushRecord (writer : BlobWriter) (record : Record) : Except BackupError BlobWriter :=
  if record.scope &&& ~~~knownMask ≠ 0 ∨ countOnes record.scope ≠ 1 ∨ record.name = [] then
    .error .invalidArgument
  else if maxRecordName < record.name.byteLength ∨ maxBlobBytes < record.data.length then
    .error .invalidArgument
  else
    let needed := 12 + record.name.byteLength + record.data.length
    if full : maxBlobBytes < writer.bytes.length + needed ∨ maxRecords ≤ writer.recordCount then
      .error .capacityExceeded
    else
      .ok {
        bytes := writer.bytes ++ record.encode
        recordCount := writer.recordCount + 1
        scopeMask := writer.scopeMask ||| record.scope
        fits := by
          rw [length_append, record.length_encode]
          exact Nat.le_of_not_lt (not_or.mp full).1 }

def header (writer : BlobWriter) (checksum : UInt64) : Octets :=
  toLittleEndian 4 magic ++ (toLittleEndian 4 formatVersion ++
    (toLittleEndian 4 writer.scopeMask.toNat ++ (toLittleEndian 4 writer.recordCount ++
      toLittleEndian 8 checksum.toNat)))

/-- The records move up by the length of the header. The copy is out of range when they then
no longer fit the buffer. -/
def finish (writer : BlobWriter) : Except (Fault BackupError) Octets := do
  let payload ← Checked.copyInto (maxBlobBytes - headerLen) writer.bytes
  return writer.header (fnv1a64 payload) ++ payload

/-- The writer after some calls, and the records it has accepted. -/
def pushAll (writer : BlobWriter) : List Record → BlobWriter × List Record
  | [] => (writer, [])
  | record :: rest =>
    match writer.pushRecord record with
    | .error _ => writer.pushAll rest
    | .ok after => ((after.pushAll rest).1, record :: (after.pushAll rest).2)

end BlobWriter

/-! ## Reading -/

structure BlobView where
  data : Octets
  scopeMask : Nat
  recordCount : Nat

def walkRecords (payload : Octets) : (count cursor : Nat) → Except BackupError Unit
  | 0, _ => .ok ()
  | count + 1, cursor =>
    if payload.length < cursor + 12 then
      .error .corrupt
    else
      let nameLen := leU32 payload (cursor + 4)
      let dataLen := leU32 payload (cursor + 8)
      if payload.length < cursor + 12 + nameLen + dataLen then
        .error .corrupt
      else
        walkRecords payload count (cursor + 12 + nameLen + dataLen)

namespace BlobView

def openBlob (data : Octets) : Except BackupError BlobView :=
  if data.length < headerLen then
    .error .corrupt
  else if leU32 data 0 ≠ magic then
    .error .badMagic
  else if leU32 data 4 ≠ formatVersion then
    .error .unsupportedVersion
  else
    let payload := data.drop headerLen
    if (fnv1a64 payload).toNat ≠ leU64 data 16 then
      .error .corrupt
    else do
      walkRecords payload (leU32 data 12) 0
      return ⟨data, leU32 data 8, leU32 data 12⟩

def nextRecord (view : BlobView) (cursor : Nat) : Except BackupError (Option (Record × Nat)) :=
  let payload := view.data.drop headerLen
  if payload.length ≤ cursor then
    .ok none
  else if payload.length < cursor + 12 then
    .error .corrupt
  else
    let nameStart := cursor + 12
    let dataStart := nameStart + leU32 payload (cursor + 4)
    let stop := dataStart + leU32 payload (cursor + 8)
    if payload.length < stop then
      .error .corrupt
    else
      match Text.fromBytes? ((payload.take dataStart).drop nameStart) with
      | none => .error .corrupt
      | some name =>
        let scope := UInt32.ofNat (leU32 payload cursor)
        .ok (some (⟨scope, name, (payload.take stop).drop dataStart⟩, stop))

/-- Reading from a position on gives these records and then the end. -/
inductive Enumerates (view : BlobView) : Nat → List Record → Prop
  | done (last : view.nextRecord cursor = .ok none) : Enumerates view cursor []
  | next {after : Nat} (found : view.nextRecord cursor = .ok (some (record, after)))
      (later : Enumerates view after rest) : Enumerates view cursor (record :: rest)

end BlobView

/-! ## Numbers in byte strings -/

theorem numberAt_add (width : Nat) (bytes : Octets) (start position : Nat) :
    numberAt width bytes (start + position) = numberAt width (bytes.drop start) position := by
  rw [numberAt, numberAt, drop_drop]

theorem numberAt_field (small : value < 256 ^ width) :
    numberAt width (toLittleEndian width value ++ rest) 0 = value := by
  rw [numberAt, drop_zero, take_left' (length_toLittleEndian width value),
    fromLittleEndian_toLittleEndian small]

theorem drop_field (width value : Nat) (rest : Octets) (position : Nat) :
    (toLittleEndian width value ++ rest).drop (width + position) = rest.drop position := by
  rw [← drop_drop, drop_left' (length_toLittleEndian width value)]

theorem numberAt_behind (position : Nat) :
    numberAt width (toLittleEndian earlier value ++ rest) (earlier + position) =
      numberAt width rest position := by
  rw [numberAt, numberAt, drop_field]

/-! ## One record -/

structure Record.Bounded (record : Record) : Prop where
  name : record.name.byteLength ≤ maxRecordName
  data : record.data.length ≤ maxBlobBytes

variable {view : BlobView} {record : Record}

section

variable {payload rest : Octets} (here : payload.drop cursor = record.encode ++ rest)

include here

theorem length_of_record :
    cursor + 12 + record.name.byteLength + record.data.length + rest.length = payload.length := by
  have lengths := congrArg length here
  rw [length_drop, length_append, record.length_encode] at lengths
  omega

theorem drop_record :
    payload.drop (cursor + 12 + record.name.byteLength + record.data.length) = rest := by
  rw [Nat.add_assoc, Nat.add_assoc, ← drop_drop, here, ← Nat.add_assoc,
    drop_left' record.length_encode]

theorem parts_of_record :
    (payload.take (cursor + 12 + record.name.byteLength)).drop (cursor + 12) =
        record.name.toBytes ∧
      (payload.take (cursor + 12 + record.name.byteLength + record.data.length)).drop
        (cursor + 12 + record.name.byteLength) = record.data := by
  have behind : payload.drop (cursor + 12) = record.name.toBytes ++ (record.data ++ rest) := by
    rw [← drop_drop, here, Record.encode]
    simp only [append_assoc]
    rw [drop_field 4 _ _ 8, drop_field 4 _ _ 4, drop_field 4 _ _ 0, drop_zero]
  have name := Text.length_toBytes record.name
  constructor
  · rw [← take_drop, behind, take_left' name]
  · rw [← take_drop, ← drop_drop, behind, drop_left' name, take_left' rfl]

variable (bounded : record.Bounded)

include bounded

theorem numbers_of_record :
    leU32 payload cursor = record.scope.toNat ∧
      leU32 payload (cursor + 4) = record.name.byteLength ∧
      leU32 payload (cursor + 8) = record.data.length := by
  have name := bounded.name
  have data := bounded.data
  simp only [maxRecordName, maxBlobBytes] at name data
  have scope := record.scope.toNat_lt
  simp only [leU32]
  refine ⟨?_, ?_, ?_⟩
  · rw [← Nat.add_zero cursor, numberAt_add, here, Record.encode]
    exact numberAt_field scope
  · rw [numberAt_add, here, Record.encode, append_assoc, numberAt_behind 0]
    exact numberAt_field (by omega)
  rw [numberAt_add, here, Record.encode, append_assoc, numberAt_behind 4,
    append_assoc, numberAt_behind 0]
  exact numberAt_field (by omega)

theorem nextRecord_of_record (viewed : view.data.drop headerLen = payload) :
    view.nextRecord cursor =
      .ok (some (record, cursor + 12 + record.name.byteLength + record.data.length)) := by
  have length := length_of_record here
  rcases numbers_of_record here bounded with ⟨scope, nameLen, dataLen⟩
  rcases parts_of_record here with ⟨name, data⟩
  rw [BlobView.nextRecord, viewed]
  simp only [scope, nameLen, dataLen, name, data, Text.fromBytes?_toBytes, UInt32.ofNat_toNat]
  rw [if_neg (by omega), if_neg (by omega), if_neg (by omega)]

end

/-! ## All records -/

variable {records : List Record}

section

theorem walkRecords_of_records (here : payload.drop cursor = records.flatMap Record.encode)
    (bounded : ∀ record ∈ records, record.Bounded) :
    walkRecords payload records.length cursor = .ok () := by
  induction records generalizing cursor with
  | nil => rfl
  | cons record records induction =>
    rcases forall_mem_cons.mp bounded with ⟨first, others⟩
    have length := length_of_record here
    rcases numbers_of_record here first with ⟨-, nameLen, dataLen⟩
    rw [length_cons, walkRecords, nameLen, dataLen, if_neg (by omega), if_neg (by omega)]
    exact induction (drop_record here) others

theorem enumerates_of_records (viewed : view.data.drop headerLen = payload)
    (here : payload.drop cursor = records.flatMap Record.encode)
    (bounded : ∀ record ∈ records, record.Bounded) : view.Enumerates cursor records := by
  induction records generalizing cursor with
  | nil =>
    apply BlobView.Enumerates.done
    rw [BlobView.nextRecord, viewed]
    exact if_pos (drop_eq_nil_iff.mp here)
  | cons record records induction =>
    rcases forall_mem_cons.mp bounded with ⟨first, others⟩
    exact .next (nextRecord_of_record here first viewed) (induction (drop_record here) others)

end

/-! ## The writer -/

namespace BlobWriter

structure Holds (writer : BlobWriter) (records : List Record) : Prop where
  bytes : writer.bytes = records.flatMap Record.encode
  count : writer.recordCount = records.length
  few : records.length ≤ maxRecords
  bounded : ∀ record ∈ records, record.Bounded

theorem new_holds : new.Holds [] := ⟨rfl, rfl, Nat.zero_le _, nofun⟩

variable {writer after : BlobWriter}

theorem Holds.pushRecord (holds : writer.Holds records)
    (accepted : writer.pushRecord record = .ok after) : after.Holds (records ++ [record]) := by
  rw [BlobWriter.pushRecord] at accepted
  split at accepted
  · cases accepted
  split at accepted
  · cases accepted
  rename_i small
  dsimp only at accepted
  split at accepted
  · cases accepted
  rename_i room
  cases accepted
  rcases not_or.mp small with ⟨name, data⟩
  have free := Nat.lt_of_not_le (not_or.mp room).2
  refine ⟨?_, ?_, ?_, ?_⟩
  · change writer.bytes ++ record.encode = _
    rw [flatMap_append, holds.bytes, flatMap_singleton]
  · rw [length_append, holds.count, length_singleton]
  · rw [length_append, length_singleton, ← holds.count]
    exact free
  · refine forall_mem_append.mpr ⟨holds.bounded, forall_mem_singleton.mpr ?_⟩
    exact ⟨Nat.le_of_not_lt name, Nat.le_of_not_lt data⟩

theorem Holds.pushAll (holds : writer.Holds records) (calls : List Record) :
    (writer.pushAll calls).1.Holds (records ++ (writer.pushAll calls).2) := by
  induction calls generalizing writer records with
  | nil =>
    rw [BlobWriter.pushAll, append_nil]
    exact holds
  | cons record calls induction =>
    rw [BlobWriter.pushAll]
    cases answer : writer.pushRecord record with
    | error => exact induction holds
    | ok =>
      have later := induction (holds.pushRecord answer)
      rwa [append_assoc] at later

theorem fields_of_header (checksum : UInt64) (payload : Octets)
    (count : writer.recordCount < 256 ^ 4) :
    leU32 (writer.header checksum ++ payload) 0 = magic ∧
      leU32 (writer.header checksum ++ payload) 4 = formatVersion ∧
      leU32 (writer.header checksum ++ payload) 8 = writer.scopeMask.toNat ∧
      leU32 (writer.header checksum ++ payload) 12 = writer.recordCount ∧
      leU64 (writer.header checksum ++ payload) 16 = checksum.toNat := by
  simp only [header, append_assoc, leU32, leU64]
  refine ⟨numberAt_field (by decide), ?_, ?_, ?_, ?_⟩
  · rw [numberAt_behind 0]
    exact numberAt_field (by decide)
  · rw [numberAt_behind 4, numberAt_behind 0]
    exact numberAt_field writer.scopeMask.toNat_lt
  · rw [numberAt_behind 8, numberAt_behind 4, numberAt_behind 0]
    exact numberAt_field count
  · rw [numberAt_behind 12, numberAt_behind 8, numberAt_behind 4,
      numberAt_behind 0]
    exact numberAt_field checksum.toNat_lt

theorem drop_header (checksum : UInt64) (payload : Octets) :
    (writer.header checksum ++ payload).drop headerLen = payload :=
  drop_left' (by simp only [header, length_append, length_toLittleEndian, headerLen])

def blob (writer : BlobWriter) : Octets :=
  writer.header (fnv1a64 writer.bytes) ++ writer.bytes

theorem finish_eq (room : writer.bytes.length + headerLen ≤ maxBlobBytes) :
    writer.finish = .ok writer.blob := by
  rw [finish, Checked.copyInto_ok (Nat.le_sub_of_add_le room)]
  rfl

theorem finish_out_of_range (full : maxBlobBytes < writer.bytes.length + headerLen) :
    writer.finish = .error .panicked := by
  rw [finish, Checked.copyInto, if_neg (by simp only [maxBlobBytes, headerLen] at *; omega)]
  rfl

theorem Holds.openBlob (holds : writer.Holds records) :
    BlobView.openBlob writer.blob =
      .ok ⟨writer.blob, writer.scopeMask.toNat, writer.recordCount⟩ := by
  have count : writer.recordCount < 256 ^ 4 := by
    rw [holds.count]
    exact Nat.lt_of_le_of_lt holds.few (by decide)
  have long : ¬ writer.blob.length < headerLen := by
    exact Nat.not_lt.mpr (Nat.le_add_left _ _)
  have walked : walkRecords writer.bytes writer.recordCount 0 = .ok () := by
    rw [holds.count]
    exact walkRecords_of_records holds.bytes holds.bounded
  rcases fields_of_header (fnv1a64 writer.bytes) writer.bytes count with
    ⟨magicField, versionField, maskField, countField, checksumField⟩
  rw [BlobView.openBlob, if_neg long]
  simp only [blob, magicField, versionField, maskField, countField, checksumField, drop_header,
    walked, ne_eq, not_true_eq_false, if_false]
  rfl

theorem Holds.enumerates (holds : writer.Holds records) (mask count : Nat) :
    BlobView.Enumerates ⟨writer.blob, mask, count⟩ 0 records :=
  enumerates_of_records (drop_header _ _) holds.bytes holds.bounded

end BlobWriter

/-- A blob is finished within the buffer, is accepted again and gives back the accepted records
in their order, if and only if they leave room for the header. -/
theorem blob_round_trip (calls : List Record) :
    (∃ blob view, (BlobWriter.new.pushAll calls).1.finish = .ok blob ∧
      blob.length ≤ maxBlobBytes ∧
      BlobView.openBlob blob = .ok view ∧
      view.Enumerates 0 (BlobWriter.new.pushAll calls).2) ↔
      (BlobWriter.new.pushAll calls).1.bytes.length + headerLen ≤ maxBlobBytes := by
  constructor
  · rintro ⟨blob, view, finished, -⟩
    by_contra full
    cases finished.symm.trans (BlobWriter.finish_out_of_range (Nat.lt_of_not_le full))
  · intro room
    have holds := BlobWriter.new_holds.pushAll calls
    exact ⟨_, _, BlobWriter.finish_eq room, room, holds.openBlob, holds.enumerates _ _⟩

namespace Sample

/-- The second record has no name and is refused. -/
def pushes : List Record := [⟨1, ['a'], [7, 8]⟩, ⟨2, [], [9]⟩, ⟨2, ['b'], []⟩]

end Sample

theorem blob_round_trip_two_records :
    (BlobWriter.new.pushAll Sample.pushes).2 = [⟨1, ['a'], [7, 8]⟩, ⟨2, ['b'], []⟩] ∧
      ∃ blob view, (BlobWriter.new.pushAll Sample.pushes).1.finish = .ok blob ∧
        blob.length ≤ maxBlobBytes ∧
        BlobView.openBlob blob = .ok view ∧
        view.Enumerates 0 (BlobWriter.new.pushAll Sample.pushes).2 :=
  ⟨by decide +kernel, (blob_round_trip Sample.pushes).mpr (by decide +kernel)⟩

/-- A record that fills the buffer to its last byte is accepted, and then there is no room for
the header. -/
theorem finish_out_of_range_of_accepted_record :
    (BlobWriter.new.pushAll [⟨1, ['a'], replicate 16371 0⟩]).2 =
        [⟨1, ['a'], replicate 16371 0⟩] ∧
      (BlobWriter.new.pushAll [⟨1, ['a'], replicate 16371 0⟩]).1.finish = .error .panicked := by
  have name : Text.byteLength ['a'] = 1 := by decide
  have scope : (1 : UInt32) &&& ~~~knownMask = 0 ∧ countOnes 1 = 1 := by decide +kernel
  have length : (replicate 16371 (0 : UInt8)).length = 16371 := length_replicate
  generalize replicate 16371 (0 : UInt8) = data at length ⊢
  have accepted : (BlobWriter.new.pushAll [⟨1, ['a'], data⟩]).2 = [⟨1, ['a'], data⟩] := by
    simp [BlobWriter.pushAll, BlobWriter.pushRecord, BlobWriter.new, scope, name, length,
      maxRecordName, maxBlobBytes, maxRecords]
  have holds := BlobWriter.new_holds.pushAll [⟨1, ['a'], data⟩]
  rw [accepted, nil_append] at holds
  refine ⟨accepted, BlobWriter.finish_out_of_range ?_⟩
  rw [holds.bytes, flatMap_singleton, Record.length_encode, length, name]
  decide

end ServiceOS.Backup
