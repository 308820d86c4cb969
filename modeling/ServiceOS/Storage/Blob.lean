import ServiceOS.Storage.Root

/-! # Requests on a blob session

`blob.rs`: reading and writing the file of a session. -/

namespace ServiceOS.Storage

open ByteString Fallible Service StorageTag

def payloadCapacity : Nat := (ipcMaxWords - 3) * 8

def releaseBlobSession (sessionIndex : Nat) : Code Unit :=
  modify fun service => { service with
    blobSessions := service.blobSessions.set sessionIndex none }

/-! ## Reading -/

def sendReadReply (replyHandle : Handle) (status : StorageStatus) (offset : Nat) : Code Unit :=
  channelSend replyHandle ⟨readReply.code, [status.word, .ofNat offset, 0], []⟩

def sendReadBytes (replyHandle : Handle) (offset : Nat) (bytes : Octets) : Code Unit :=
  sendPathReply replyHandle readReply.code
    [StorageStatus.ok.word, .ofNat offset, .ofNat bytes.length] bytes

def handleReadRequest (session : BlobSession) (message : RawMessage) : Code Unit :=
  answering message 2 fun replyHandle =>
    let offset := (message.word 0).toNat
    let requested := (message.word 1).toNat
    if session.dataLen < offset then
      sendReadReply replyHandle .invalidOffset offset
    else
      let readLen := min (min (session.dataLen - offset) requested) payloadCapacity
      match session.source with
      | .bootStore => do
        let start ← checked (Checked.add session.dataOffset offset)
        let bytes ← gets fun service => (service.bootstore.drop start).take readLen
        sendReadBytes replyHandle offset bytes
      | .mutable => do
        match ← gets fun service => service.mutableEntries.get? session.entryIndex with
        | none => sendReadReply replyHandle .notFound offset
        | some entry => do
          let bytes ← memoryRead entry.dataHandle offset readLen
          sendReadBytes replyHandle offset bytes

/-! ## Writing -/

def growCapacity (totalLen : Nat) : (fuel capacity : Nat) → Option Nat
  | 0, _ => none
  | fuel + 1, capacity =>
    if totalLen ≤ capacity then
      some capacity
    else
      growCapacity totalLen fuel (min (capacity * 2) (Word.limit - 1))

def copyData (source target : Handle) (dataLen : Nat) : (fuel copied : Nat) → Code Unit
  | 0, _ => lift (.error .outOfFuel)
  | fuel + 1, copied =>
    if dataLen ≤ copied then
      pure ()
    else do
      let read ← memoryRead source copied (min (dataLen - copied) 128)
      if read = [] then
        pure ()
      else do
        memoryWrite target copied read
        copyData source target dataLen fuel (copied + read.length)

def growEntry (entry : MutableEntry) (newCapacity : Nat) : Code MutableEntry := do
  let newHandle ← memoryCreate newCapacity
  copyData entry.dataHandle newHandle entry.dataLen (entry.dataLen + 1) 0
  onlyIf (entry.dataHandle ≠ invalidHandle) (handleClose entry.dataHandle)
  pure { entry with dataHandle := newHandle, dataCapacity := newCapacity }

def ensureMutableCapacity (entry : MutableEntry) (totalLen : Nat) : Code MutableEntry :=
  if totalLen ≤ entry.dataCapacity then
    pure entry
  else
    match growCapacity totalLen 65 (max entry.dataCapacity initialFileCapacity) with
    | none => lift (.error .outOfFuel)
    | some newCapacity => growEntry entry newCapacity

/-- The offset, the new length and the number of bytes of a write request. -/
structure WriteOperands where
  offset : Nat
  totalLen : Nat
  writeLen : Nat

def writeOperands (message : RawMessage) : WriteOperands :=
  ⟨(message.word 0).toNat, (message.word 1).toNat, (message.word 2).toNat⟩

def writeGates (service : Service) (session : BlobSession) (operands : WriteOperands) :
    Except StorageStatus MutableEntry :=
  if !session.writable ∨ session.source ≠ .mutable then
    .error .denied
  else if operands.totalLen < Word.saturatingAdd operands.offset operands.writeLen then
    .error .invalidOffset
  else
    match service.mutableEntries.get? session.entryIndex with
    | none => .error .notFound
    | some entry => .ok entry

def storeEntry (index : Nat) (entry : MutableEntry) : Code Unit :=
  modify fun service => { service with
    mutableEntries := service.mutableEntries.set index (some entry) }

/-- Write to the entry of a session and tell the index and the session. -/
def writeEntry (now sessionIndex : Nat) (session : BlobSession) (entry : MutableEntry)
    (operands : WriteOperands) (payload : List UInt64) : Code Unit := do
  let entry ← ensureMutableCapacity entry operands.totalLen
  storeEntry session.entryIndex entry
  let bytes ← checked (unpackBytes payload operands.writeLen payloadCapacity)
  memoryWrite entry.dataHandle operands.offset bytes.val
  storeEntry session.entryIndex { entry with dataLen := operands.totalLen }
  modify fun service => { service with
    blobSessions := service.blobSessions.set sessionIndex
      (some { session with dataLen := operands.totalLen })
    searchIndex := service.searchIndex.upsert entry.path .file operands.totalLen now .mutable }
  persistState

def sendWriteReply (replyHandle : Handle) (status : StorageStatus) (dataLen : Nat) : Code Unit :=
  channelSend replyHandle ⟨writeReply.code, [status.word, .ofNat dataLen], []⟩

def handleWriteRequest (now sessionIndex : Nat) (session : BlobSession) (message : RawMessage) :
    Code Unit :=
  answering message 3 fun replyHandle => do
    let operands := writeOperands message
    match ← gets fun service => writeGates service session operands with
    | .error status => sendWriteReply replyHandle status session.dataLen
    | .ok entry => do
      writeEntry now sessionIndex session entry operands (message.payload 3)
      sendWriteReply replyHandle .ok operands.totalLen

/-! ## Dispatch -/

def handleBlobRequest (now sessionIndex : Nat) (session : BlobSession) (message : RawMessage) :
    Code Unit :=
  if message.tag = closeRequest.code then
    releaseBlobSession sessionIndex
  else if message.tag = readRequest.code then
    handleReadRequest session message
  else if message.tag = writeRequest.code then
    handleWriteRequest now sessionIndex session message
  else
    pure ()

end ServiceOS.Storage
