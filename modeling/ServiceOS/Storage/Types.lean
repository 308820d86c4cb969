import ServiceOS.Foundation.ByteString
import ServiceOS.Foundation.Slots

/-! # Vocabulary of the storage service

The kinds, statuses, tags and limits of the storage interface and of `state.rs`.
A buffer with a length beside it is the bytes up to that length. A table is an
array of slots; every release writes the empty record back, so a slot that is
not occupied holds nothing. -/

namespace ServiceOS.Storage

open ByteString

abbrev Handle : Type := Nat

def invalidHandle : Handle := 0

def ipcMaxWords : Nat := 16

def maxBlobSessions : Nat := 24

def maxDirectorySessions : Nat := 24

def maxMutableEntries : Nat := 128

def maxBootstoreEntries : Nat := 128

def maxStoragePath : Nat := 88

def initialFileCapacity : Nat := 256

def storageMountTableMax : Nat := 16

def storageMountPathMax : Nat := 96

def slash : UInt8 := 47

inductive Error
  | permissionDenied
  | invalidArgument
  | bufferTooSmall
  | notFound
  | busy
deriving DecidableEq

/-- `ended` is the source's `End`. -/
inductive StorageStatus
  | ok
  | notFound
  | invalidPath
  | invalidOffset
  | ended
  | busy
  | denied
  | alreadyExists
  | notDirectory
  | notMounted
deriving DecidableEq

def StorageStatus.code : StorageStatus → Nat
  | .ok => 0
  | .notFound => 1
  | .invalidPath => 2
  | .invalidOffset => 3
  | .ended => 4
  | .busy => 5
  | .denied => 6
  | .alreadyExists => 7
  | .notDirectory => 8
  | .notMounted => 9

inductive StorageEntryKind
  | file
  | directory
deriving DecidableEq

def StorageEntryKind.code : StorageEntryKind → Nat
  | .file => 0
  | .directory => 1

inductive StorageMountKind
  | boot
  | persistent
  | ephemeral
  | temp
deriving DecidableEq

def StorageMountKind.code : StorageMountKind → Nat
  | .boot => 0
  | .persistent => 1
  | .ephemeral => 2
  | .temp => 3

inductive BootStoreEntryKind
  | executable
  | manifest
  | data
deriving DecidableEq

def BootStoreEntryKind.code : BootStoreEntryKind → Nat
  | .executable => 1
  | .manifest => 2
  | .data => 3

inductive StorageTag
  | openRequest
  | openReply
  | readRequest
  | readReply
  | listRequest
  | listReply
  | closeRequest
  | directoryListRequest
  | directoryListReply
  | directoryOpenRequest
  | directoryOpenReply
  | directoryCreateRequest
  | directoryCreateReply
  | directoryRemoveRequest
  | directoryRemoveReply
  | directoryOpenFileRequest
  | directoryOpenFileReply
  | writeRequest
  | writeReply
  | directoryReadRequest
  | directoryReadReply
  | mountListRequest
  | mountListReply
  | directoryTraverseRequest
  | directoryTraverseReply
  | mountRequest
  | mountReply
  | unmountRequest
  | unmountReply
  | statRequest
  | statReply
  | findRequest
  | findReply
  | renameRequest
  | renameReply

def StorageTag.code : StorageTag → Nat
  | .openRequest => 0x500
  | .openReply => 0x501
  | .readRequest => 0x502
  | .readReply => 0x503
  | .listRequest => 0x504
  | .listReply => 0x505
  | .closeRequest => 0x506
  | .directoryListRequest => 0x507
  | .directoryListReply => 0x508
  | .directoryOpenRequest => 0x509
  | .directoryOpenReply => 0x50a
  | .directoryCreateRequest => 0x50b
  | .directoryCreateReply => 0x50c
  | .directoryRemoveRequest => 0x50d
  | .directoryRemoveReply => 0x50e
  | .directoryOpenFileRequest => 0x50f
  | .directoryOpenFileReply => 0x510
  | .writeRequest => 0x511
  | .writeReply => 0x512
  | .directoryReadRequest => 0x513
  | .directoryReadReply => 0x514
  | .mountListRequest => 0x515
  | .mountListReply => 0x516
  | .directoryTraverseRequest => 0x517
  | .directoryTraverseReply => 0x518
  | .mountRequest => 0x519
  | .mountReply => 0x51a
  | .unmountRequest => 0x51b
  | .unmountReply => 0x51c
  | .statRequest => 0x51d
  | .statReply => 0x51e
  | .findRequest => 0x51f
  | .findReply => 0x520
  | .renameRequest => 0x527
  | .renameReply => 0x528

/-! ## Paths and entries -/

abbrev StoragePath : Type := AtMost maxStoragePath

abbrev MountPath : Type := AtMost storageMountPathMax

structure EntrySlot where
  kind : BootStoreEntryKind
  dataOffset : Nat
  dataLen : Nat
  path : StoragePath

/-- A file or directory of the service. `persistent` entries survive an unmount and
a restart. -/
structure MutableEntry where
  kind : StorageEntryKind
  path : StoragePath
  dataHandle : Handle
  dataLen : Nat
  dataCapacity : Nat
  persistent : Bool
deriving DecidableEq

abbrev EntryTable : Type := Slots MutableEntry maxMutableEntries

/-! ## Sessions -/

inductive BlobSource
  | bootStore
  | mutable
deriving DecidableEq

structure BlobSession where
  endpoint : Handle
  source : BlobSource
  dataOffset : Nat
  dataLen : Nat
  dataHandle : Handle
  entryIndex : Nat
  path : StoragePath
  mountPath : MountPath
  writable : Bool

structure DirectorySession where
  endpoint : Handle
  path : StoragePath
  mountPath : MountPath
  writable : Bool
deriving DecidableEq

/-- Where the snapshots are and which of the two slots holds the last one. -/
structure PersistentStore where
  blockSize : Nat
  slotBlocks : Nat
  activeSlot : Nat
  generation : Nat

end ServiceOS.Storage
