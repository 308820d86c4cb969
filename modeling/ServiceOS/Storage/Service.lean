import ServiceOS.Foundation.Checked
import ServiceOS.Foundation.Fallible
import ServiceOS.Storage.Index
import ServiceOS.Storage.Kernel

/-! # The state of the service

What `main` keeps, the system calls made on it and the messages of `util.rs`. -/

namespace ServiceOS.Storage

open ByteString

/-! ## Messages -/

/-- A message that was received. The kernel hands over at most `IPC_MAX_WORDS` words. -/
structure RawMessage where
  tag : Nat
  words : List UInt64
  handles : List Handle
  wordsFit : words.length ≤ ipcMaxWords

def RawMessage.word (message : RawMessage) (index : Nat) : UInt64 := message.words[index]?.getD 0

def RawMessage.payload (message : RawMessage) (index : Nat) : List UInt64 :=
  message.words.drop index

/-- Rights of a session handle: send, receive, duplicate and transfer. -/
def sessionRights : Nat := 2 ^ 5 + 2 ^ 6 + 2 ^ 7 + 2 ^ 8

/-- A message that was sent, and the handles it carries with their rights. -/
structure Reply where
  tag : Nat
  words : List UInt64
  handles : List (Handle × Nat)

def StorageStatus.word (status : StorageStatus) : UInt64 := .ofNat status.code

def StorageEntryKind.word (kind : StorageEntryKind) : UInt64 := .ofNat kind.code

/-- The bytes in words of eight, when there is room for the words. -/
def packBytes (source : Octets) (room : Nat) : Except (Fault Error) (List UInt64) :=
  let required := Word.divCeil source.length 8
  if room < required then
    .error (.error .bufferTooSmall)
  else
    .ok ((List.range required).map fun index =>
      .ofNat (fromLittleEndian ((source.drop (8 * index)).take 8)))

/-- The first bytes of the words, when the words and the buffer have that many. -/
def unpackBytes (words : List UInt64) (len capacity : Nat) :
    Except (Fault Error) (AtMost capacity) :=
  if fits : len ≤ capacity ∧ len ≤ words.length * 8 then
    .ok ⟨(words.flatMap fun word => toLittleEndian 8 word.toNat).take len,
      Nat.le_trans (List.length_take_le _ _) fits.1⟩
  else
    .error (.error .bufferTooSmall)

/-! ## The state -/

structure Service where
  bootstore : Octets
  entries : List EntrySlot
  mounts : MountTable
  mutableEntries : EntryTable
  blobSessions : Slots BlobSession maxBlobSessions
  directorySessions : Slots DirectorySession maxDirectorySessions
  persistentStore : Option PersistentStore
  searchIndex : SearchIndex
  memory : Memory
  device : Device
  sent : List (Handle × Reply)

abbrev Code (Answer : Type) : Type := Fallible Service (Fault Error) Answer

namespace Service

def checked {Answer : Type} (computed : Except (Fault Error) Answer) : Code Answer :=
  liftM computed

/-! ## System calls -/

def memoryCreate (size : Nat) : Code Handle := fun service =>
  let (handle, memory) := service.memory.create size
  (.ok handle, { service with memory := memory })

def memoryRead (handle : Handle) (offset length : Nat) : Code Octets := fun service =>
  match service.memory.read handle offset length with
  | none => (.error (.error (.error .notFound)), service)
  | some bytes => (.ok bytes, service)

def memoryWrite (handle : Handle) (offset : Nat) (source : Octets) : Code Unit := fun service =>
  match service.memory.objects handle with
  | none => (.error (.error (.error .notFound)), service)
  | some _ => (.ok (), { service with memory := service.memory.write handle offset source })

def handleClose (handle : Handle) : Code Unit :=
  Fallible.modify fun service => { service with memory := service.memory.close handle }

def channelCreate : Code (Handle × Handle) := fun service =>
  let (first, memory) := service.memory.takeHandle
  let (second, memory) := memory.takeHandle
  (.ok (first, second), { service with memory := memory })

def channelSend (handle : Handle) (reply : Reply) : Code Unit :=
  Fallible.modify fun service => { service with sent := service.sent ++ [(handle, reply)] }

def blockDeviceRead (index length : Nat) : Code Octets := fun service =>
  let (outcome, device) := service.device.readBlock index length
  (outcome.mapError (Stop.error ∘ Fault.error), { service with device := device })

def blockDeviceWrite (index : Nat) (bytes : Octets) : Code Unit := fun service =>
  let (outcome, device) := service.device.writeBlock index bytes
  (outcome.mapError (Stop.error ∘ Fault.error), { service with device := device })

def onlyIf (condition : Prop) [Decidable condition] (code : Code Unit) : Code Unit :=
  if condition then code else pure ()

def recovered {Answer : Type} (code : Code Answer) : Code (Option Answer) := fun service =>
  match code service with
  | (.ok value, service) => (.ok (some value), service)
  | (.error (.error (.error _)), service) => (.ok none, service)
  | (.error stop, service) => (.error stop, service)

/-! ## Replies -/

/-- Handle a message that has this many words and a handle to reply on. Others are dropped. -/
def answering (message : RawMessage) (wordCount : Nat) (handle : Handle → Code Unit) : Code Unit :=
  if message.words.length < wordCount then
    pure ()
  else
    match message.handles with
    | [] => pure ()
    | replyHandle :: _ => handle replyHandle

variable (replyHandle : Handle)

def sendPathReply (tag : Nat) (words : List UInt64) (path : Octets) : Code Unit := do
  let packed ← checked (packBytes path (ipcMaxWords - words.length))
  channelSend replyHandle ⟨tag, words ++ packed, []⟩

variable (tag : StorageTag)

def sendBlobOpenReply (replyHandle : Handle) (status : StorageStatus)
    (len : Nat) (handle : Option Handle) : Code Unit :=
  channelSend replyHandle
    ⟨tag.code, [status.word, .ofNat len], handle.toList.map (·, sessionRights)⟩

def sendDirectoryHandleReply (replyHandle : Handle) (status : StorageStatus)
    (handle : Option Handle) : Code Unit :=
  channelSend replyHandle ⟨tag.code, [status.word], handle.toList.map (·, sessionRights)⟩

variable (status : StorageStatus)

def sendDirectoryOpenReply (handle : Option Handle) : Code Unit :=
  sendDirectoryHandleReply .directoryOpenReply replyHandle status handle

def sendTraverseReply (kind : StorageEntryKind) (len : Nat) (handle : Option Handle) : Code Unit :=
  channelSend replyHandle ⟨StorageTag.directoryTraverseReply.code,
    [status.word, kind.word, .ofNat len], handle.toList.map (·, sessionRights)⟩

def sendStatusOnly : Code Unit :=
  channelSend replyHandle ⟨tag.code, [status.word], []⟩

def sendMountReply (slot : Nat) : Code Unit :=
  channelSend replyHandle ⟨tag.code, [status.word, .ofNat slot], []⟩

def sendStatReply (kind : StorageEntryKind) (size : Nat) (indexTail : List UInt64) : Code Unit :=
  channelSend replyHandle ⟨StorageTag.statReply.code, [status.word, kind.word, .ofNat size] ++
    if indexTail.head? = some 0 then [] else indexTail, []⟩

end Service

end ServiceOS.Storage
