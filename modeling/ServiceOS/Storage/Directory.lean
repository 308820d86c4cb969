import ServiceOS.Storage.Root

/-! # Requests on a directory session

`directory.rs`: creating, removing and opening what a directory session names. -/

namespace ServiceOS.Storage

open ByteString Fallible Service StorageTag

variable (now : Nat) (service : Service) (session : DirectorySession) (message : RawMessage)

/-- A listing leaves out the boot root. -/
def handleDirectoryReadRequest : Code Unit :=
  answering message 1 fun replyHandle => do
    let listed ← gets fun service =>
      children service (fun mount => 0 < mount.path.val.length) session.path.val
    sendChildReply replyHandle .directoryReadReply (message.word 0).toNat listed

/-! ## Creating -/

def entryKindOfWord (word : UInt64) : Option StorageEntryKind :=
  match word.toNat % 2 ^ 32 with
  | 0 => some .file
  | 1 => some .directory
  | _ => none

def createTarget : Option (StorageEntryKind × StoragePath) :=
  (entryKindOfWord (message.word 0)).bind fun kind =>
    match unpackBytes (message.payload 2) (message.word 1).toNat maxStoragePath with
    | .error _ => none
    | .ok name => (composeChildPath session.path.val name.val kind).map (kind, ·)

def createGates : Except StorageStatus (Nat × StorageEntryKind × StoragePath) :=
  if !session.writable then
    .error .denied
  else
    match createTarget session message with
    | none => .error .invalidPath
    | some (kind, path) =>
      if !isMutablePath service.mounts path.val then
        .error .denied
      else if (findMutableEntry service.mutableEntries path.val).isSome then
        .error .alreadyExists
      else
        match service.mutableEntries.firstFree with
        | none => .error .busy
        | some slot => .ok (slot, kind, path)

/-- An entry without content. A file gets memory. -/
def newEntry (kind : StorageEntryKind) (path : StoragePath) (persistent : Bool) :
    Code MutableEntry :=
  match kind with
  | .directory => pure ⟨.directory, path, invalidHandle, 0, 0, persistent⟩
  | .file => do
    let handle ← memoryCreate initialFileCapacity
    pure ⟨.file, path, handle, 0, initialFileCapacity, persistent⟩

def createEntry (now slot : Nat) (kind : StorageEntryKind) (path : StoragePath) : Code Unit := do
  let persistent ← gets fun service =>
    (storageResolveMount service.mounts path.val).any StorageMount.persistent
  let entry ← newEntry kind path persistent
  modify fun service => { service with
    mutableEntries := service.mutableEntries.set slot (some entry)
    searchIndex := service.searchIndex.upsert path kind 0 now .mutable }
  persistState

def handleDirectoryCreateRequest : Code Unit :=
  answering message 2 fun replyHandle => do
    match ← gets fun service => createGates service session message with
    | .error status => sendStatusOnly replyHandle .directoryCreateReply status
    | .ok (slot, kind, path) => do
      createEntry now slot kind path
      sendStatusOnly replyHandle .directoryCreateReply .ok

/-! ## Removing -/

def inBootStore (path : Octets) : StorageEntryKind → Bool
  | .file => service.entries.any (·.matches path)
  | .directory => bootDirectoryExists service.entries path

/-- What there is to say about removing one of the two paths a name stands for. -/
def removalOf (parent name : Octets) (kind : StorageEntryKind) :
    Option (Except StorageStatus (Nat × StoragePath)) :=
  (composeChildPath parent name kind).bind fun path =>
    match findMutableEntry service.mutableEntries path.val with
    | some index =>
      if kind = .directory ∧ mutableDirectoryHasChildren service.mutableEntries path.val then
        some (.error .busy)
      else
        some (.ok (index, path))
    | none => if inBootStore service path.val kind then some (.error .denied) else none

def removeGates : Except StorageStatus (Nat × StoragePath) :=
  if !session.writable then
    .error .denied
  else
    match unpackBytes (message.payload 1) (message.word 0).toNat maxStoragePath with
    | .error _ => .error .invalidPath
    | .ok name =>
      ((removalOf service session.path.val name.val .file).orElse fun _ =>
        removalOf service session.path.val name.val .directory).getD (.error .notFound)

def removeEntry (index : Nat) (path : StoragePath) : Code Unit := do
  releaseMutableEntry index
  modify fun service => { service with searchIndex := service.searchIndex.removePath path.val }
  persistState

def handleDirectoryRemoveRequest : Code Unit :=
  answering message 1 fun replyHandle => do
    match ← gets fun service => removeGates service session message with
    | .error status => sendStatusOnly replyHandle .directoryRemoveReply status
    | .ok (index, path) => do
      removeEntry index path
      sendStatusOnly replyHandle .directoryRemoveReply .ok

/-! ## Opening files -/

inductive FileOpening
  | existing (target : BlobTarget)
  | created (slot : Nat)

/-- The file of the boot store at a path. Only data can be opened this way. -/
def bootDataFile (path : Octets) : Except StorageStatus EntrySlot :=
  match service.entries.find? (·.matches path) with
  | none => .error .notFound
  | some entry => if entry.kind ≠ .data then .error .invalidPath else .ok entry

def openFileGates : Except StorageStatus (Nat × StoragePath × FileOpening) :=
  let create := message.word 1 != 0
  let writable := message.word 2 != 0
  match unpackBytes (message.payload 3) (message.word 0).toNat maxStoragePath with
  | .error _ => .error .invalidPath
  | .ok name =>
    match composeChildPath session.path.val name.val .file with
    | none => .error .invalidPath
    | some path =>
      if (create || writable) && !session.writable then
        .error .denied
      else
        match service.blobSessions.firstFree with
        | none => .error .busy
        | some blobSlot =>
          let found := findMutableEntry service.mutableEntries path.val
          match found.bind fun index =>
              (service.mutableEntries.get? index).map (index, ·) with
          | some (index, entry) =>
            if entry.kind ≠ .file then
              .error .invalidPath
            else
              .ok (blobSlot, path, .existing (.mutable index entry))
          | none =>
            if writable || create then
              if !isMutablePath service.mounts path.val then
                .error .denied
              else
                match service.mutableEntries.firstFree with
                | none => .error .busy
                | some slot => .ok (blobSlot, path, .created slot)
            else
              (bootDataFile service path.val).map fun entry =>
                (blobSlot, path, .existing (.boot entry))

def handleDirectoryOpenFileRequest : Code Unit :=
  answering message 3 fun replyHandle => do
    let writable := message.word 2 != 0
    match ← gets fun service => openFileGates service session message with
    | .error status => sendBlobOpenReply .directoryOpenFileReply replyHandle status 0 none
    | .ok (blobSlot, path, .existing target) => do
      let handle ← openBlobSession blobSlot path target writable
      sendBlobOpenReply .directoryOpenFileReply replyHandle .ok target.dataLen (some handle)
    | .ok (blobSlot, path, .created slot) => do
      createEntry now slot .file path
      match ← gets fun service => service.mutableEntries.get? slot with
      | none => lift (.error (.error .panicked)) -- The slot was just filled.
      | some entry => do
        let handle ← openBlobSession blobSlot path (.mutable slot entry) writable
        sendBlobOpenReply .directoryOpenFileReply replyHandle .ok 0 (some handle)

/-! ## Traversing -/

/-- The session slot and the file for a traversal to a file. -/
def openFileSessionGates (path : Octets) (writable : Bool) :
    Except StorageStatus (Nat × BlobTarget) :=
  let found := findMutableEntry service.mutableEntries path
  match found.bind fun index => (service.mutableEntries.get? index).map (index, ·) with
  | some (index, entry) =>
    if entry.kind ≠ .file then
      .error .invalidPath
    else
      match service.blobSessions.firstFree with
      | none => .error .busy
      | some slot => .ok (slot, .mutable index entry)
  | none =>
    if writable then
      .error .denied
    else
      match bootDataFile service path with
      | .error status => .error status
      | .ok entry =>
        match service.blobSessions.firstFree with
        | none => .error .busy
        | some slot => .ok (slot, .boot entry)

inductive Traversal
  | directory (slot : Nat)
  | file (slot : Nat) (target : BlobTarget)

def traverseKind : StorageEntryKind :=
  if message.word 1 != 0 then .directory else .file

/-- The path a traversal reaches and what it opens, or the status with the kind it is
reported with. -/
def traverseGates : Except (StorageStatus × StorageEntryKind) (StoragePath × Traversal) :=
  let kind := traverseKind message
  let writable := message.word 2 != 0
  match unpackBytes (message.payload 3) (message.word 0).toNat maxStoragePath with
  | .error _ => .error (.invalidPath, .file)
  | .ok relative =>
    match composeRelativePath session.path.val relative.val kind with
    | none => .error (.invalidPath, kind)
    | some path =>
      if writable && (!session.writable || !isMutablePath service.mounts path.val) then
        .error (.denied, kind)
      else
        match kind with
        | .directory =>
          if !directoryExists service.entries service.mutableEntries path.val then
            .error (.notFound, kind)
          else
            match service.directorySessions.firstFree with
            | none => .error (.busy, kind)
            | some slot => .ok (path, .directory slot)
        | .file =>
          match openFileSessionGates service path.val writable with
          | .error status => .error (status, kind)
          | .ok (slot, target) => .ok (path, .file slot target)

def handleDirectoryTraverseRequest : Code Unit :=
  answering message 3 fun replyHandle => do
    let writable := message.word 2 != 0
    match ← gets fun service => traverseGates service session message with
    | .error (status, kind) => sendTraverseReply replyHandle status kind 0 none
    | .ok (path, .directory slot) => do
      let handle ← openDirectoryAt slot path writable
      sendTraverseReply replyHandle .ok .directory 0 (some handle)
    | .ok (path, .file slot target) => do
      let handle ← openBlobSession slot path target writable
      sendTraverseReply replyHandle .ok .file target.dataLen (some handle)

/-! ## Dispatch -/

def releaseDirectorySession (sessionIndex : Nat) : Code Unit :=
  modify fun service => { service with
    directorySessions := service.directorySessions.set sessionIndex none }

/-- A session whose mount is gone is told so and closed. -/
def dismissDirectorySession (sessionIndex : Nat) (message : RawMessage) : Code Unit := do
  let replyHandle := message.handles.headD invalidHandle
  onlyIf (replyHandle ≠ invalidHandle)
    (sendStatusOnly replyHandle .directoryReadReply .notMounted)
  releaseDirectorySession sessionIndex

def dispatchDirectoryRequest : Code Unit :=
  if message.tag = directoryReadRequest.code then
    handleDirectoryReadRequest session message
  else if message.tag = directoryCreateRequest.code then
    handleDirectoryCreateRequest now session message
  else if message.tag = directoryRemoveRequest.code then
    handleDirectoryRemoveRequest session message
  else if message.tag = directoryOpenFileRequest.code then
    handleDirectoryOpenFileRequest now session message
  else if message.tag = directoryTraverseRequest.code then
    handleDirectoryTraverseRequest session message
  else
    pure ()

def handleDirectoryRequest (now sessionIndex : Nat) (session : DirectorySession)
    (message : RawMessage) : Code Unit :=
  if message.tag = closeRequest.code then
    releaseDirectorySession sessionIndex
  else do
    match ← gets fun service =>
        storageFindMountByPath service.mounts session.mountPath.val with
    | none => dismissDirectorySession sessionIndex message
    | some _ => dispatchDirectoryRequest now session message

end ServiceOS.Storage
