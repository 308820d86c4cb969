import ServiceOS.Storage.Requests

/-! # What code leaves alone

Persisting and replying change the device, the place of the snapshots and the messages
sent. The service keeps its files, mounts and sessions apart from these. -/

namespace ServiceOS.Storage

open Fallible Service

structure Outside where
  persistentStore : Option PersistentStore
  device : Device
  sent : List (Handle × Reply)

def Service.facing (service : Service) (outside : Outside) : Service :=
  { service with
    persistentStore := outside.persistentStore
    device := outside.device
    sent := outside.sent }

def Quiet (before after : Service) : Prop := ∃ outside, after = before.facing outside

instance : IsPreorder Service Quiet where
  refl service := ⟨⟨service.persistentStore, service.device, service.sent⟩, rfl⟩
  trans := by
    rintro first _ _ ⟨outside, rfl⟩ ⟨later, rfl⟩
    exact ⟨later, rfl⟩

theorem Quiet.trans (before : Quiet first second) (later : Quiet second third) :
    Quiet first third := trans_of Quiet before later

section

theorem quiet_checked :
    (checked computed).Respects Quiet := respects_lift

theorem quiet_channelSend :
    (channelSend handle reply).Respects Quiet := fun service =>
  ⟨⟨service.persistentStore, service.device, service.sent ++ [(handle, reply)]⟩, rfl⟩

theorem quiet_memoryRead (offset length : Nat) :
    (memoryRead handle offset length).Respects Quiet := by
  intro service
  rw [memoryRead]
  split <;> exact refl_of Quiet _

theorem quiet_blockDeviceRead :
    (blockDeviceRead index length).Respects Quiet := fun service =>
  ⟨⟨service.persistentStore, (service.device.readBlock index length).2, service.sent⟩, rfl⟩

theorem quiet_blockDeviceWrite :
    (blockDeviceWrite index bytes).Respects Quiet := fun service =>
  ⟨⟨service.persistentStore, (service.device.writeBlock index bytes).2, service.sent⟩, rfl⟩

theorem quiet_cutOff : (lift (.error .outOfFuel) : Code Answer).Respects Quiet := fun service =>
  refl_of Quiet service

theorem quiet_onlyIf [Decidable condition] (quiet : code.Respects Quiet) :
    (onlyIf condition code).Respects Quiet :=
  respects_ite (fun _ => quiet) fun _ => respects_pure

theorem quiet_recovered (quiet : code.Respects Quiet) : (recovered code).Respects Quiet := by
  intro service
  have here := quiet service
  rw [recovered]
  split <;> rename_i call <;> rw [call] at here <;> exact here

theorem quiet_gets_bind {next : Answer → Code Result}
    (later : ∀ value, (next value).Respects Quiet) :
    ((gets part : Code Answer) >>= next).Respects Quiet :=
  respects_bind (fun service => refl_of Quiet service) later

end

/-! ## Replies -/

theorem quiet_sendPathReply : (sendPathReply replyHandle tag words path).Respects Quiet :=
  respects_bind quiet_checked fun _ => quiet_channelSend

theorem quiet_sendChildReply : (sendChildReply replyHandle tag cursor listed).Respects Quiet := by
  rw [sendChildReply]
  split
  · exact quiet_channelSend
  · exact quiet_sendPathReply

theorem quiet_answering (quiet : ∀ replyHandle, (handle replyHandle).Respects Quiet) :
    (answering message wordCount handle).Respects Quiet := by
  apply respects_ite
  · exact fun _ => respects_pure
  intro _
  rcases message.handles with _ | ⟨replyHandle, _⟩
  · exact respects_pure
  · exact quiet replyHandle

/-- A message is dropped or handled, as it has the words and a handle or not. -/
theorem answering_cases (call : answering message wordCount handle service = (.ok (), after)) :
    (¬(wordCount ≤ message.words.length ∧ message.handles ≠ []) ∧ after = service) ∨
      (wordCount ≤ message.words.length ∧ ∃ replyHandle rest,
        message.handles = replyHandle :: rest ∧ handle replyHandle service = (.ok (), after)) := by
  rw [answering] at call
  split at call
  next short =>
    cases call
    exact .inl ⟨fun long => Nat.not_le_of_lt short long.1, rfl⟩
  rename_i long
  rcases handles : message.handles with _ | ⟨replyHandle, rest⟩ <;> rw [handles] at call
  · cases call
    exact .inl ⟨fun wrong => wrong.2 rfl, rfl⟩
  · exact .inr ⟨Nat.le_of_not_lt long, replyHandle, rest, rfl, call⟩

/-! ## Persisting -/

section

variable (store : PersistentStore) (slot : Nat)

theorem quiet_writePending (batch : Batch) : (writePending store slot batch).Respects Quiet := by
  rw [writePending]
  split
  · exact respects_pure
  · exact quiet_blockDeviceWrite

theorem quiet_beginBlock (blockIndex blockOffset : Nat) :
    (beginBlock store slot blockIndex blockOffset batch).Respects Quiet := by
  apply respects_ite
  · exact fun _ => respects_pure
  intro _
  apply respects_bind (quiet_writePending store slot batch)
  intro _
  apply respects_ite
  · exact fun _ => respects_pure
  · exact fun _ => respects_bind quiet_blockDeviceRead fun _ => respects_pure

theorem quiet_writeRecord (fuel absolute : Nat) (bytes : Octets) (batch : Batch) :
    (writeRecord store slot fuel absolute bytes batch).Respects Quiet := by
  induction fuel generalizing absolute bytes batch with
  | zero => exact quiet_cutOff
  | succ fuel induction =>
    apply respects_ite
    · exact fun _ => respects_pure
    intro _
    apply respects_bind (quiet_beginBlock store slot _ _)
    intro begun
    apply respects_ite
    · exact fun _ => respects_bind quiet_blockDeviceWrite fun _ => induction _ _ _
    · exact fun _ => induction _ _ _

theorem quiet_writeRecords (absolute : Nat) (records : List Octets) (batch : Batch) :
    (writeRecords store slot absolute records batch).Respects Quiet := by
  induction records generalizing absolute batch with
  | nil => exact respects_pure
  | cons record records induction =>
    exact respects_bind (quiet_writeRecord store slot _ _ _ _) fun _ => induction _ _

theorem quiet_writeRecordBatch :
    (writeRecordBatch store slot baseOffset records).Respects Quiet := by
  exact respects_bind (quiet_writeRecords store slot _ _ _) (quiet_writePending store slot)

theorem quiet_flushFileBlocks (offset : Nat) (entry : MutableEntry) (fuel copied : Nat) :
    (flushFileBlocks store slot offset entry fuel copied).Respects Quiet := by
  induction fuel generalizing copied with
  | zero => exact quiet_cutOff
  | succ fuel induction =>
    apply respects_ite
    · exact fun _ => respects_pure
    intro _
    apply respects_bind (quiet_memoryRead _ _)
    intro read
    exact respects_bind quiet_blockDeviceWrite fun _ => induction _

theorem quiet_flushFileData (entries : List (MutableEntry × Nat)) :
    (flushFileData store slot entries).Respects Quiet := by
  induction entries with
  | nil => exact respects_pure
  | cons entry entries induction =>
    exact respects_bind (quiet_onlyIf (quiet_flushFileBlocks store slot _ _ _ _))
      fun _ => induction

theorem quiet_flushPersistentStore : (flushPersistentStore store).Respects Quiet := by
  apply respects_ite
  · exact fun _ service => refl_of Quiet service
  intro _
  apply quiet_gets_bind
  intro mounts
  apply quiet_gets_bind
  intro entries
  apply respects_bind quiet_checked
  intro plan
  apply respects_bind quiet_blockDeviceWrite
  intro _
  apply respects_bind (quiet_writeRecordBatch store _)
  intro _
  apply respects_bind (quiet_flushFileData store _ _)
  intro _
  apply respects_bind (quiet_writeRecordBatch store _)
  intro _ service
  exact ⟨⟨_, service.device, service.sent⟩, rfl⟩

theorem quiet_persistState : persistState.Respects Quiet := by
  apply quiet_gets_bind
  rintro (_ | store)
  · exact respects_pure
  · exact quiet_flushPersistentStore store

end

/-! ## Listings -/

section

variable (message : RawMessage)

theorem quiet_handleStatRequest : (handleStatRequest message).Respects Quiet := by
  apply quiet_answering
  intro replyHandle
  split
  · exact quiet_channelSend
  apply quiet_gets_bind
  intro service
  split <;> exact quiet_channelSend

theorem quiet_handleFindRequest : (handleFindRequest message).Respects Quiet := by
  apply quiet_answering
  intro replyHandle
  dsimp only
  split
  · apply respects_bind quiet_checked
    intro pattern
    apply quiet_gets_bind
    intro found
    split
    · exact quiet_channelSend
    · exact quiet_sendPathReply
  · exact respects_pure

theorem quiet_handleListRequest : (handleListRequest message).Respects Quiet := by
  apply quiet_answering
  intro replyHandle
  dsimp only
  split
  · exact respects_pure
  apply quiet_gets_bind
  intro service
  split
  · exact quiet_channelSend
  · exact quiet_sendPathReply

theorem quiet_handleMountListRequest : (handleMountListRequest message).Respects Quiet := by
  apply quiet_answering
  intro replyHandle
  apply quiet_gets_bind
  intro found
  split
  · exact quiet_channelSend
  · exact quiet_sendPathReply

theorem quiet_handleDirectoryListRequest : (handleDirectoryListRequest message).Respects Quiet := by
  apply quiet_answering
  intro replyHandle
  split
  · exact respects_pure
  apply quiet_gets_bind
  intro listed
  exact quiet_sendChildReply

end

theorem quiet_handleDirectoryReadRequest (session : DirectorySession) (message : RawMessage) :
    (handleDirectoryReadRequest session message).Respects Quiet := by
  apply quiet_answering
  intro replyHandle
  apply quiet_gets_bind
  intro listed
  exact quiet_sendChildReply

theorem quiet_handleReadRequest (session : BlobSession) (message : RawMessage) :
    (handleReadRequest session message).Respects Quiet := by
  apply quiet_answering
  intro replyHandle
  apply respects_ite
  · exact fun _ => quiet_channelSend
  intro _
  split
  · apply respects_bind quiet_checked
    intro start
    apply quiet_gets_bind
    intro bytes
    exact quiet_sendPathReply
  apply quiet_gets_bind
  rintro (_ | entry)
  · exact quiet_channelSend
  · exact respects_bind (quiet_memoryRead _ _) fun _ => quiet_sendPathReply

/-! ## Scanning -/

section

variable (store : PersistentStore) (slot : Nat)

theorem quiet_readSpan {use : Answer → Nat → Octets → Code Answer}
    (quiet : ∀ answer copied piece, (use answer copied piece).Respects Quiet)
    (offset length fuel copied : Nat) (answer : Answer) :
    (readSpan store slot offset length use fuel copied answer).Respects Quiet := by
  induction fuel generalizing copied answer with
  | zero => exact quiet_cutOff
  | succ fuel induction =>
    apply respects_ite
    · exact fun _ => respects_pure
    intro _
    apply respects_bind quiet_checked
    intro absolute
    apply respects_bind quiet_checked
    intro place
    apply respects_bind quiet_blockDeviceRead
    intro block
    exact respects_bind (quiet _ _ _) fun answer => induction _ answer

theorem quiet_readRecordSpan : (readRecordSpan store slot recordOffset).Respects Quiet :=
  quiet_readSpan store slot (fun _ _ _ => respects_pure) _ _ _ _ _

theorem quiet_feedRecords (base count index : Nat) (hash : UInt64) :
    (feedRecords store slot base count index hash).Respects Quiet := by
  induction count generalizing index hash with
  | zero => exact respects_pure
  | succ count induction =>
    apply respects_bind quiet_checked
    intro recordOffset
    apply respects_bind (quiet_recovered (quiet_readRecordSpan store slot))
    rintro (_ | record)
    · exact respects_pure
    · exact induction _ _

theorem quiet_recomputeSnapshotChecksum :
    (recomputeSnapshotChecksum store slot header).Respects Quiet := by
  apply respects_bind (quiet_recovered quiet_blockDeviceRead)
  rintro (_ | block)
  · exact respects_pure
  apply respects_bind (quiet_feedRecords store slot _ _ _ _)
  rintro (_ | hash)
  · exact respects_pure
  apply respects_bind quiet_checked
  intro mountsBase
  exact respects_bind (quiet_feedRecords store slot _ _ _ _) fun _ => respects_pure

theorem quiet_checksumMismatch : (checksumMismatch store slot header).Respects Quiet := by
  apply respects_ite
  · exact fun _ => respects_pure
  · exact fun _ => respects_bind (quiet_recomputeSnapshotChecksum store slot)
      fun _ => respects_pure

theorem quiet_verifyRecords {unreadable : Nat → Report → Report}
    (count index : Nat) (report : Report) :
    (verifyRecords store slot base unreadable verify count index report).Respects Quiet := by
  induction count generalizing index report with
  | zero => exact respects_pure
  | succ count induction =>
    apply respects_bind quiet_checked
    intro recordOffset
    exact respects_bind (quiet_recovered (quiet_readRecordSpan store slot))
      fun _ => induction _ _

theorem quiet_verifySlotRecords (report : FsckReport) :
    (verifySlotRecords store slot header report).Respects Quiet := by
  apply quiet_gets_bind
  intro mounts
  apply respects_bind (quiet_verifyRecords store slot _ _ _)
  intro report
  apply respects_bind quiet_checked
  intro mountsBase
  exact respects_bind (quiet_verifyRecords store slot _ _ _) fun _ => respects_pure

theorem quiet_scanSnapshotSlot : (scanSnapshotSlot store slot report).Respects Quiet := by
  apply respects_bind (quiet_recovered quiet_blockDeviceRead)
  rintro (_ | block)
  · exact respects_pure
  apply respects_ite
  · exact fun _ => respects_pure
  intro _
  apply respects_bind quiet_checked
  rintro (_ | header)
  · exact respects_pure
  apply respects_bind quiet_checked
  intro slotBytes
  split
  · exact respects_pure
  apply respects_bind (quiet_checksumMismatch store slot)
  intro mismatch
  exact respects_bind (quiet_verifySlotRecords store slot _)
    fun _ => respects_pure

theorem quiet_scanStore (report : FsckReport) : (scanStore report).Respects Quiet := by
  apply quiet_gets_bind
  rintro (_ | store)
  · exact respects_pure
  apply respects_ite
  · exact fun _ => respects_pure
  intro _
  apply respects_bind (quiet_scanSnapshotSlot store 0)
  intro first
  apply respects_bind (quiet_scanSnapshotSlot store 1)
  intro second
  dsimp only
  split
  · exact respects_pure
  · exact respects_pure

end

end ServiceOS.Storage
