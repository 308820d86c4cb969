import ServiceOS.Storage.Fsck
import ServiceOS.Storage.Rename
import ServiceOS.Storage.Search

/-! # Requests on the root channel

`root.rs`: mounting and unmounting, opening files and directories by path, and the
listings. -/

namespace ServiceOS.Storage

open ByteString Fallible Service StorageTag StorageStatus

variable (service : Service) (message : RawMessage)

/-! ## Mounting -/

def openSessionPaths : List Octets :=
  service.blobSessions.entries.map
    (fun slot => (slot.map fun session => session.path.val).getD []) ++
    service.directorySessions.entries.map fun slot =>
      (slot.map fun session => session.path.val).getD []

def unmountGates (stem : Octets) (authority : UInt64) :
    Except StorageStatus (Nat × StorageMount) :=
  match storageFindMountByPath service.mounts stem with
  | none => .error .notFound
  | some index =>
    match service.mounts.slots.get? index with
    | none => .error .notFound -- The slot that was found is occupied.
    | some mount =>
      if !storageMountAuthorityOk mount authority then
        .error .denied
      else if stem = [] then
        .error .denied
      else if storageUnmountBusy (openSessionPaths service) stem then
        .error .busy
      else
        .ok (index, mount)

def droppedSlots (entries : EntryTable) (stem : Octets) : List Nat :=
  (List.range maxMutableEntries).filter fun index =>
    (entries.get? index).any fun entry => !entry.persistent && stem.isPrefixOf entry.path.val

def tryUnmount (stem : Octets) (authority : UInt64) : Code StorageStatus := do
  match ← gets fun service => unmountGates service stem authority with
  | .error status => pure status
  | .ok (index, mount) => do
    modify fun service => { service with mounts := service.mounts.clear index }
    let dropped ← gets fun service =>
      if mount.kind = .persistent then [] else droppedSlots service.mutableEntries stem
    releaseMutableEntries dropped
    modify fun service => { service with mounts := ensureBootRoot service.mounts }
    match ← recovered persistState with
    | none => pure .busy
    | some () => pure .ok

def mountKindOfWord (word : UInt64) : StorageMountKind :=
  match word.toNat % 2 ^ 32 with
  | 1 => .persistent
  | 2 => .ephemeral
  | 3 => .temp
  | _ => .boot

def mountGates : Except StorageStatus (Nat × MountTable) :=
  match unpackBytes (message.payload 4) (message.word 0).toNat maxStoragePath with
  | .error _ => .error .invalidPath
  | .ok path =>
    let kind := mountKindOfWord (message.word 1)
    if kind = .boot then
      .error .denied
    else
      storageMountAdd service.mounts path.val kind (message.word 2) (message.word 3)

def handleMountRequest : Code Unit :=
  answering message 4 fun replyHandle => do
    match ← gets fun service => mountGates service message with
    | .error status => sendMountReply replyHandle .mountReply status 0
    | .ok (slot, mounts) => do
      modify fun service => { service with mounts := mounts }
      match ← recovered persistState with
      | none => do
        modify fun service => { service with
          mounts := ensureBootRoot (service.mounts.clear slot) }
        sendMountReply replyHandle .mountReply .busy 0
      | some () => sendMountReply replyHandle .mountReply .ok slot

def unmountOperand : Except (Fault Error) StoragePath :=
  unpackBytes (message.payload 2) (message.word 0).toNat maxStoragePath

def handleUnmountRequest : Code Unit :=
  answering message 2 fun replyHandle =>
    match unmountOperand message with
    | .error _ => sendMountReply replyHandle .unmountReply .invalidPath 0
    | .ok stem => do
      let status ← tryUnmount stem.val (message.word 1)
      sendMountReply replyHandle .unmountReply status 0

/-! ## Opening -/

def ownerPath (mounts : MountTable) (path : Octets) : MountPath :=
  ((storageResolveMount mounts path).map StorageMount.path).getD ⟨[], Nat.zero_le _⟩

/-- `usize::MAX`, the entry index of a session on the boot store. -/
def noEntryIndex : Nat := Word.limit - 1

def stampBlobSession (mounts : MountTable) (endpoint : Handle) (path : StoragePath)
    (source : BlobSource) (dataOffset dataLen : Nat) (dataHandle : Handle) (entryIndex : Nat)
    (writable : Bool) : BlobSession :=
  ⟨endpoint, source, dataOffset, dataLen, dataHandle, entryIndex, path,
    ownerPath mounts path.val, writable⟩

inductive BlobTarget
  | mutable (index : Nat) (entry : MutableEntry)
  | boot (entry : EntrySlot)

def BlobTarget.dataLen : BlobTarget → Nat
  | .mutable _ entry => entry.dataLen
  | .boot entry => entry.dataLen

/-- The session on a target. A file of the boot store is never writable. -/
def stampTarget (mounts : MountTable) (endpoint : Handle) (path : StoragePath) (writable : Bool) :
    BlobTarget → BlobSession
  | .mutable index entry =>
    stampBlobSession mounts endpoint path .mutable 0 entry.dataLen entry.dataHandle index writable
  | .boot entry =>
    stampBlobSession mounts endpoint path .bootStore entry.dataOffset entry.dataLen
      invalidHandle noEntryIndex false

/-- Put a session on the target into a slot. The answer is the client's end of its channel. -/
def openBlobSession (slot : Nat) (path : StoragePath) (target : BlobTarget) (writable : Bool) :
    Code Handle := do
  let (first, second) ← channelCreate
  modify fun service => { service with
    blobSessions := service.blobSessions.set slot
      (some (stampTarget service.mounts first path writable target)) }
  pure second

def openGates (path : Octets) : Except StorageStatus (Nat × BlobTarget) :=
  let found := findMutableEntry service.mutableEntries path
  match found.bind fun index => (service.mutableEntries.get? index).map (index, ·) with
  | some (index, entry) =>
    if entry.kind ≠ .file then
      .error .invalidPath
    else
      match service.blobSessions.firstFree with
      | none => .error .busy
      | some slot => .ok (slot, .mutable index entry)
  | none =>
    match service.entries.find? (·.matches path) with
    | none => .error .notFound
    | some entry =>
      if entry.kind = .manifest then
        .error .invalidPath
      else
        match service.blobSessions.firstFree with
        | none => .error .busy
        | some slot => .ok (slot, .boot entry)

def handleOpenRequest : Code Unit :=
  answering message 1 fun replyHandle =>
    match unpackBytes (message.payload 1) (message.word 0).toNat maxStoragePath with
    | .error _ => pure ()
    | .ok path => do
      match ← gets fun service => openGates service path.val with
      | .error status => sendBlobOpenReply .openReply replyHandle status 0 none
      | .ok (slot, target) => do
        let handle ← openBlobSession slot path target false
        sendBlobOpenReply .openReply replyHandle .ok target.dataLen (some handle)

/-- Put a directory session into a slot. The answer is the client's end of its channel. -/
def openDirectoryAt (slot : Nat) (path : StoragePath) (writable : Bool) : Code Handle := do
  let (first, second) ← channelCreate
  modify fun service => { service with
    directorySessions := service.directorySessions.set slot
      (some ⟨first, path, ownerPath service.mounts path.val, writable⟩) }
  pure second

def directoryOpenGates (path : Octets) (writable : Bool) : Except StorageStatus Nat :=
  if !validDirectoryPath path then
    .error .invalidPath
  else if !directoryOpenable service.mounts service.entries service.mutableEntries path then
    .error .notFound
  else if writable && !isMutablePath service.mounts path then
    .error .denied
  else
    match service.directorySessions.firstFree with
    | none => .error .busy
    | some slot => .ok slot

def handleDirectoryOpenRequest : Code Unit :=
  answering message 2 fun replyHandle =>
    let writable := message.word 1 != 0
    match unpackBytes (message.payload 2) (message.word 0).toNat maxStoragePath with
    | .error _ => pure ()
    | .ok path => do
      match ← gets fun service => directoryOpenGates service path.val writable with
      | .error status => sendDirectoryOpenReply replyHandle status none
      | .ok slot => do
        let handle ← openDirectoryAt slot path writable
        sendDirectoryOpenReply replyHandle .ok (some handle)

/-! ## Looking -/

def statEntry (path : Octets) : Option (StorageEntryKind × Nat) :=
  match (findMutableEntry service.mutableEntries path).bind service.mutableEntries.get? with
  | some entry => some (entry.kind, entry.dataLen)
  | none =>
    match service.entries.find? (·.matches path) with
    | some entry => some (.file, entry.dataLen)
    | none =>
      if validDirectoryPath path &&
          directoryExists service.entries service.mutableEntries path then
        some (.directory, 0)
      else
        none

def handleStatRequest : Code Unit :=
  answering message 1 fun replyHandle =>
    match unpackBytes (message.payload 1) (message.word 0).toNat maxStoragePath with
    | .error _ => sendStatReply replyHandle .invalidPath .file 0 [0, 0, 0, 0]
    | .ok path => do
      let service ← gets id
      match statEntry service path.val with
      | none => sendStatReply replyHandle .notFound .file 0 [0, 0, 0, 0]
      | some (kind, size) =>
        sendStatReply replyHandle .ok kind size (indexTailWords service.searchIndex)

def allPaths : List (Octets × StorageEntryKind) :=
  service.entries.map (fun entry => (entry.path.val, .file)) ++
    service.mutableEntries.values.map fun entry => (entry.path.val, entry.kind)

def findPattern (bytes : Octets) (patternLen : Nat) : Except (Fault Error) Octets :=
  if patternLen = 0 then
    .ok (ascii "*")
  else
    Checked.range (bytes ++ List.replicate (maxStoragePath - bytes.length) 0) 0 patternLen

def handleFindRequest : Code Unit :=
  answering message 3 fun replyHandle =>
    let cursor := (message.word 0).toNat
    let rootLen := (message.word 1).toNat
    let patternLen := (message.word 2).toNat
    match unpackBytes (message.payload 3) (min rootLen maxStoragePath) maxStoragePath,
        unpackBytes ((message.payload 3).drop (Word.divCeil rootLen 8))
          (min patternLen maxStoragePath) maxStoragePath with
    | .ok root, .ok bytes => do
      let pattern ← checked (findPattern bytes.val patternLen)
      let found ← gets fun service => (allPaths service).filter fun (path, _) =>
        storageFindEntryMatches root.val pattern path
      match found[cursor]? with
      | none =>
        channelSend replyHandle ⟨findReply.code,
          [ended.word, .ofNat cursor, StorageEntryKind.file.word], []⟩
      | some (path, kind) =>
        sendPathReply replyHandle findReply.code
          [ok.word, .ofNat (cursor + 1), kind.word] path
    | _, _ => pure ()

def handleListRequest : Code Unit :=
  answering message 2 fun replyHandle =>
    let listIndex := (message.word 0).toNat
    match unpackBytes (message.payload 2) (message.word 1).toNat maxStoragePath with
    | .error _ => pure ()
    | .ok stem => do
      let service ← gets id
      let boot := service.entries.map fun entry => (entry.path.val, entry.kind.code)
      let mutables := service.mutableEntries.values.map fun entry =>
        (entry.path.val, entry.kind.code)
      let listed := (boot ++ mutables).filter fun (path, _) => pathMatchesPrefix path stem.val
      match listed[listIndex]? with
      | none =>
        channelSend replyHandle
          ⟨listReply.code, [ended.word, 0, 0], []⟩
      | some (path, kind) =>
        sendPathReply replyHandle listReply.code
          [ok.word, .ofNat kind, .ofNat path.length] path

def handleMountListRequest : Code Unit :=
  answering message 1 fun replyHandle => do
    let cursor := (message.word 0).toNat
    match ← gets fun service => service.mounts.values[cursor]? with
    | none =>
      channelSend replyHandle ⟨mountListReply.code,
        [ended.word, .ofNat cursor, .ofNat StorageMountKind.boot.code, 0, 0], []⟩
    | some mount =>
      sendPathReply replyHandle mountListReply.code [ok.word,
        .ofNat (cursor + 1), .ofNat mount.kind.code, mount.flags,
        .ofNat mount.path.val.length] mount.path.val

/-- The children of a directory: the mounts without entries if it is the root, then the
files of the boot store and the entries. `listed` says which mounts count. -/
def children (listed : StorageMount → Bool) (stem : Octets) :
    List (Octets × StorageEntryKind) :=
  let roots := if stem.isEmpty then
      (service.mounts.values.filter fun mount => listed mount &&
        !subtreeHasEntries service.entries service.mutableEntries mount.path.val).map fun mount =>
          (mount.path.val, .directory)
    else
      []
  roots ++ (allPaths service).filterMap fun (path, _) => directoryChildFromPath path stem

/-- The reply with one child, common to the two listings of a directory. -/
def sendChildReply (replyHandle : Handle) (tag : StorageTag) (cursor : Nat)
    (listed : List (Octets × StorageEntryKind)) : Code Unit :=
  match listed[cursor]? with
  | none =>
    channelSend replyHandle ⟨tag.code,
      [ended.word, .ofNat cursor, StorageEntryKind.file.word, 0], []⟩
  | some (path, kind) =>
    sendPathReply replyHandle tag.code
      [ok.word, .ofNat (cursor + 1), kind.word, .ofNat path.length] path

/-- Here the boot root counts as a mount without a name: its buffer is not empty. -/
def handleDirectoryListRequest : Code Unit :=
  answering message 2 fun replyHandle =>
    match unpackBytes (message.payload 2) (message.word 1).toNat maxStoragePath with
    | .error _ => pure ()
    | .ok stem => do
      let listed ← gets fun service => children service (fun _ => true) stem.val
      sendChildReply replyHandle .directoryListReply (message.word 0).toNat listed

/-! ## Dispatch -/

def handleRootRequest (now : Nat) (message : RawMessage) : Code Unit :=
  if message.tag = openRequest.code then handleOpenRequest message
  else if message.tag = listRequest.code then handleListRequest message
  else if message.tag = directoryListRequest.code then handleDirectoryListRequest message
  else if message.tag = directoryOpenRequest.code then handleDirectoryOpenRequest message
  else if message.tag = mountListRequest.code then handleMountListRequest message
  else if message.tag = mountRequest.code then handleMountRequest message
  else if message.tag = unmountRequest.code then handleUnmountRequest message
  else if message.tag = statRequest.code then handleStatRequest message
  else if message.tag = findRequest.code then handleFindRequest message
  else if message.tag = searchRequestTag then handleSearchRequest now message
  else if message.tag = grepRequestTag then handleGrepRequest now message
  else if message.tag = fsckRequestTag then handleFsckRequest message
  else if message.tag = renameRequest.code then handleRenameRequest now message
  else pure ()

end ServiceOS.Storage
