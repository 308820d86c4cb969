import ServiceOS.Foundation.Execution
import ServiceOS.Storage.Blob
import ServiceOS.Storage.Directory

/-! # The service loop

The loop of `main`. A round looks at every channel once and a channel may have nothing
to say, so the loop takes the requests of its channels in any order. -/

namespace ServiceOS.Storage

open Fallible Service

/-- What a receive on a channel brings. A session whose client is gone is released. `now`
is what the clock says while the request is handled. -/
inductive Event
  | root (message : RawMessage) (now : Nat)
  | blob (sessionIndex : Nat) (message : RawMessage) (now : Nat)
  | directory (sessionIndex : Nat) (message : RawMessage) (now : Nat)
  | blobClosed (sessionIndex : Nat)
  | directoryClosed (sessionIndex : Nat)

/-- Only sessions that are open are asked for messages. -/
def handleEvent (event : Event) : Code Unit := fun service =>
  match event with
  | .root message now => handleRootRequest now message service
  | .blob sessionIndex message now =>
    match service.blobSessions.get? sessionIndex with
    | none => (.ok (), service)
    | some session => handleBlobRequest now sessionIndex session message service
  | .directory sessionIndex message now =>
    match service.directorySessions.get? sessionIndex with
    | none => (.ok (), service)
    | some session => handleDirectoryRequest now sessionIndex session message service
  | .blobClosed sessionIndex => releaseBlobSession sessionIndex service
  | .directoryClosed sessionIndex => releaseDirectorySession sessionIndex service

/-- The loop goes on unless a handler stops with an error. -/
def step (service : Service) (event : Event) : Option Service :=
  match handleEvent event service with
  | (.ok (), after) => some after
  | (.error _, _) => none

/-! ## A service that has just started -/

namespace Sample

open ByteString Execution

def memory : Memory := ⟨fun _ => none, 1, [], Nat.one_pos, fun _ _ => rfl⟩

/-- A device of blank blocks that is about to fail if `writesLeft` says so. -/
def device (writesLeft : Option Nat) : Device :=
  ⟨true, true, 512, 1024, fun _ => List.replicate 512 0, writesLeft, [],
    fun _ => List.length_replicate⟩

def serving (entries : List EntrySlot) : Service :=
  { bootstore := []
    entries := entries
    mounts := seedMountTable
    mutableEntries := .empty _
    blobSessions := .empty _
    directorySessions := .empty _
    persistentStore := none
    searchIndex := .new
    memory := memory
    device := device none
    sent := [] }

def service : Service := serving []

variable (text : String)

def path : StoragePath :=
  (AtMost.ofList? maxStoragePath (ascii text)).getD ⟨[], Nat.zero_le _⟩

def message (tag : StorageTag) (words : List UInt64) (texts : List String) : RawMessage :=
  let packed (text : String) : List UInt64 :=
    match packBytes (ascii text) ipcMaxWords with
    | .error _ => []
    | .ok packed => packed
  let all := words ++ texts.flatMap packed
  if fits : all.length ≤ ipcMaxWords then ⟨tag.code, all, [7], fits⟩
  else ⟨tag.code, [], [], Nat.zero_le _⟩

def size : UInt64 := .ofNat (ascii text).length

def flag (value : Bool) : UInt64 := if value then 1 else 0

def openDirectory (writable : Bool) : Event :=
  .root (message .directoryOpenRequest [size text, flag writable] [text]) 1

def mount (kind : StorageMountKind) (flags : UInt64) : Event :=
  .root (message .mountRequest [size text, .ofNat kind.code, flags, storageRootAuthority] [text]) 1

def unmount : Event :=
  .root (message .unmountRequest [size text, storageRootAuthority] [text]) 1

def rename (source dest : String) : Event :=
  .root (message .renameRequest [size source, size dest] [source, dest]) 1

variable (session : Nat)

def create (kind : StorageEntryKind) (name : String) : Event :=
  .directory session (message .directoryCreateRequest [.ofNat kind.code, size name] [name]) 1

def remove (name : String) : Event :=
  .directory session (message .directoryRemoveRequest [size name] [name]) 1

def openFile (name : String) (create writable : Bool) : Event :=
  .directory session
    (message .directoryOpenFileRequest [size name, flag create, flag writable] [name]) 1

def traverse (relative : String) (directory writable : Bool) : Event :=
  .directory session
    (message .directoryTraverseRequest [size relative, flag directory, flag writable] [relative]) 1

def closeDirectory : Event := .directory session (message .closeRequest [] []) 1

def closeBlob : Event := .blob session (message .closeRequest [] []) 1

def read (session offset length : Nat) : Event :=
  .blob session (message .readRequest [.ofNat offset, .ofNat length] []) 1

def write (session offset totalLen : Nat) (text : String) : Event :=
  .blob session (message .writeRequest [.ofNat offset, .ofNat totalLen, size text] [text]) 1

/-- The state after these requests, or the one before them if one of them stops the service. -/
def serve (service : Service) (events : List Event) : Service :=
  (run step service events).getD service

def next (service : Service) (event : Event) : Service := (step service event).getD service

variable {service : Service}

theorem step_next (taken : (step service event).isSome = true) :
    step service event = some (next service event) := by
  rcases Option.isSome_iff_exists.mp taken with ⟨after, stepped⟩
  rw [next, stepped]
  rfl

theorem run_serve (taken : (run step service events).isSome = true) :
    run step service events = some (serve service events) :=
  run_eq_getD taken

end Sample

end ServiceOS.Storage
