import ServiceOS.Memory.AddressSpaces
import ServiceOS.User.Staging

/-! # A running task's address space

The memory calls of a task and the band of addresses they hand out, as in
`user/runtime.rs` and the syscall handlers. The handlers are taken from where
the caller's handle has been resolved to a memory object. -/

namespace ServiceOS.User

open Memory Word ByteString

def firstSharedMappingBase : Nat := 0x600000000000
def maxRuntimeLibraries : Nat := 4
def maxRuntimeLibraryImageBytes : Nat := 8 * 1024 * 1024
def maxRuntimeLibraryMappingBytes : Nat := 64 * 1024 * 1024

inductive SyscallError
  | notInitialized
  | unsupported
  | invalidArgument
  | permissionDenied
  | notFound
  | capacityExceeded
  | busy
deriving DecidableEq

inductive MemoryAccessError
  | readOnly
  | busy
  | unsupported
  | dmaPolicyViolation

structure MemoryObject where
  sizeBytes : Nat
  writable : Bool
  /-- Whether the object is declared to be physically contiguous. -/
  contiguous : Bool
  /-- The addresses of its frames, once it is backed by pages. -/
  frames : Option (List Nat)

structure RuntimeLibraryRecord where
  handle : Nat
  base : Nat
  mappedBytes : Nat

structure TaskLibraryState where
  nextHandle : Nat
  table : SymbolNamespace
  libraries : List RuntimeLibraryRecord

structure TaskSpace (Space : Type) where
  load : LoadState Space
  nextMappingBase : Nat
  libraries : Option TaskLibraryState
  objects : Nat → Option MemoryObject

abbrev Call (Space Answer : Type) : Type := Fallible (TaskSpace Space) SyscallError Answer

def refuse {Answer : Type} (error : SyscallError) : Call Space Answer := fun task =>
  (.error (.error error), task)

def require (condition : Prop) [Decidable condition] (error : SyscallError) : Call Space Unit :=
  if condition then pure () else refuse error

/-- Run code on the address space and report its errors as `report` says. -/
def onLoad {Answer : Type} (code : Load Space Answer) (report : LoadError → SyscallError) :
    Call Space Answer := fun task =>
  match code task.load with
  | (.ok answer, load) => (.ok answer, { task with load := load })
  | (.error (.error error), load) => (.error (.error (report error)), { task with load := load })
  | (.error .outOfFuel, load) => (.error .outOfFuel, { task with load := load })

/-! ## The band of reserved addresses -/

def reservedBytes (sizeBytes : Nat) : Nat :=
  wrappingMul (divCeil (max sizeBytes pageSizeBytes) pageSizeBytes) pageSizeBytes

/-- The band grows by every reservation; no end of it is checked. -/
def reserveMappingRange (sizeBytes : Nat) : Call Space Nat := fun task =>
  (.ok task.nextMappingBase, { task with
    nextMappingBase := wrappingAdd task.nextMappingBase (reservedBytes sizeBytes) })

def TaskSpace.ContainsReservedMappingRange (task : TaskSpace Space)
    (start sizeBytes : Nat) : Prop :=
  start + sizeBytes < limit ∧ firstSharedMappingBase ≤ start ∧
    start + sizeBytes ≤ task.nextMappingBase
deriving Decidable

/-! ## Changing a range of pages -/

variable (mapper : UserPageMapper Space)

def mapFrameRange (start : Nat) (writable : Bool) : (index : Nat) → List Nat → Load Space Unit
  | _, [] => pure ()
  | index, frame :: rest => do
    mapPage mapper (wrappingAdd start (index * pageSizeBytes)) frame ⟨writable, false, true⟩
    mapFrameRange start writable (index + 1) rest

def unmapPage (page : Nat) : Load Space Unit := fun state =>
  match mapper.unmapPage state.space page with
  | (.error error, space) => (.error (.error (.mapping error)), { state with space := space })
  | (.ok _, space) => (.ok (), { state with space := space })

def unmapMemoryRange (start : Nat) : (index count : Nat) → Load Space Unit
  | _, 0 => pure ()
  | index, count + 1 => do
    unmapPage mapper (wrappingAdd start (index * pageSizeBytes))
    unmapMemoryRange start (index + 1) count

def protectPage (page : Nat) (flags : MappingFlags) : Load Space Unit := fun state =>
  match mapper.updateProtection state.space page flags with
  | (.error error, space) => (.error (.error (.mapping error)), { state with space := space })
  | (.ok _, space) => (.ok (), { state with space := space })

/-- The hook `update_memory_protection`. Pages stay accessible to the user. -/
def updateMemoryProtection (start : Nat) (flags : MappingFlags) :
    (index count : Nat) → Load Space Unit
  | _, 0 => pure ()
  | index, count + 1 => do
    protectPage mapper (wrappingAdd start (index * pageSizeBytes))
      ⟨flags.writable, flags.executable, true⟩
    updateMemoryProtection start flags (index + 1) count

/-! ## Memory calls -/

def mapMappingError : LoadError → SyscallError
  | .mapping .addressAlignment => .invalidArgument
  | .mapping .unsupported => .unsupported
  | _ => .busy

def framesAreContiguous (frames : List Nat) : Prop :=
  frames.IsChain fun first second => second = first + pageSizeBytes
deriving Decidable

/-- Backing by pages is made when it is first asked for. -/
def MemoryObject.pageFrames (object : MemoryObject) (frames : FrameSystem) :
    Except MemoryAccessError (List Nat) × MemoryObject × FrameSystem :=
  let verify (backing : List Nat) : Except MemoryAccessError (List Nat) :=
    if object.contiguous ∧ ¬framesAreContiguous backing then .error .dmaPolicyViolation
    else .ok backing
  if object.writable then
    match object.frames with
    | some backing => (verify backing, object, frames)
    | none =>
      match allocatePageBacking frames (divCeil object.sizeBytes pageSizeBytes) with
      | (none, frames) => (.error .busy, object, frames)
      | (some numbers, frames) =>
        let backing := numbers.map (· * pageSizeBytes)
        (verify backing, { object with frames := some backing }, frames)
  else
    (.error .readOnly, object, frames)

def mapAccessError : MemoryAccessError → SyscallError
  | .readOnly => .permissionDenied
  | .busy => .busy
  | .unsupported => .unsupported
  | .dmaPolicyViolation => .busy

def pageFrames (objectId : Nat) : Call Space (List Nat) := fun task =>
  match task.objects objectId with
  | none => (.error (.error .invalidArgument), task)
  | some object =>
    match object.pageFrames task.load.frames with
    | (answer, object, frames) =>
      (answer.mapError fun error => .error (mapAccessError error), { task with
        load := { task.load with frames := frames }
        objects := Function.update task.objects objectId (some object) })

structure MemoryMapRequest where
  offsetBytes : Nat
  lengthBytes : Nat
  writable : Bool
  fixed : Bool

/-- The bytes a request asks for; no length means up to the object's end. -/
def MemoryMapRequest.length (request : MemoryMapRequest) (sizeBytes : Nat) : Nat :=
  if request.lengthBytes = 0 then sizeBytes - request.offsetBytes else request.lengthBytes

def objectSize (objectId : Nat) : Call Space Nat := fun task =>
  match task.objects objectId with
  | none => (.error (.error .invalidArgument), task)
  | some object => (.ok object.sizeBytes, task)

/-- The checks on a request to map an object, and the pages it asks for. `mayWrite`
says whether the handle carries the write right. -/
def requestedPages (objectId : Nat) (mayWrite : Bool) (request : MemoryMapRequest) :
    Call Space Nat := do
  let sizeBytes ← objectSize objectId
  require (request.writable → mayWrite) .permissionDenied
  require (¬request.fixed) .unsupported
  require (request.offsetBytes % pageSizeBytes = 0) .invalidArgument
  require (request.offsetBytes ≤ sizeBytes) .invalidArgument
  let length := request.length sizeBytes
  require (length ≠ 0) .invalidArgument
  require (request.offsetBytes + length ≤ sizeBytes) .invalidArgument
  return divCeil length pageSizeBytes

/-- The range is reserved before it is known whether it can be mapped. -/
def mapMemoryObject (objectId : Nat) (mayWrite : Bool)
    (request : MemoryMapRequest) : Call Space Nat := do
  let pageCount ← requestedPages objectId mayWrite request
  let base ← reserveMappingRange (wrappingMul pageCount pageSizeBytes)
  let frames ← pageFrames objectId
  let pageOffset := request.offsetBytes / pageSizeBytes
  require (pageOffset + pageCount ≤ frames.length) .invalidArgument
  onLoad (mapFrameRange mapper base request.writable 0
    ((frames.drop pageOffset).take pageCount)) mapMappingError
  return base

/-- The pages a range of `length` bytes from `address` on takes, if they were
handed out by the runtime. -/
def reservedPages (address length : Nat) : Call Space Nat := fun task =>
  let pageCount := divCeil length pageSizeBytes
  if pageCount * pageSizeBytes < limit then
    if task.ContainsReservedMappingRange address (pageCount * pageSizeBytes) then
      (.ok pageCount, task)
    else
      (.error (.error .permissionDenied), task)
  else
    (.error (.error .invalidArgument), task)

def handleMemoryUnmap (address length : Nat) : Call Space Unit := do
  let pageCount ← reservedPages address length
  onLoad (unmapMemoryRange mapper address 0 pageCount) mapMappingError

def handleMemoryProtect (address length : Nat) (flags : MappingFlags) : Call Space Unit := do
  let pageCount ← reservedPages address length
  onLoad (updateMemoryProtection mapper address flags 0 pageCount) mapMappingError

/-! ## Loading a library at run time -/

def mapLibraryLoadError : LoadError → SyscallError
  | .frameExhausted => .capacityExceeded
  | .dependencyUnavailable => .notFound
  | .truncated | .invalidMagic | .addressAlignment => .invalidArgument
  | .mapping .unsupported => .invalidArgument
  | .mapping _ => .busy
  | _ => .unsupported

def protectSegment (segment : RuntimeSegmentFrames) : Load Space Unit :=
  if segment.executable then updateMemoryProtection mapper segment.virtualStart
    ⟨false, true, false⟩ 0 segment.pages.length else pure ()

/-- Map the staged segments in order. A segment counts as mapped only when all of
its pages are. -/
def mapStagedSegments :
    List RuntimeSegmentFrames → LoadState Space →
      Except (Stop LoadError) Unit × List RuntimeSegmentFrames × LoadState Space
  | [], state => (.ok (), [], state)
  | segment :: rest, state =>
    match mapFrameRange mapper segment.virtualStart segment.writable 0 segment.pages state with
    | (.error stop, state) => (.error stop, [], state)
    | (.ok _, state) =>
      match protectSegment mapper segment state with
      | (.error stop, state) => (.error stop, [segment], state)
      | (.ok _, state) =>
        match mapStagedSegments rest state with
        | (answer, mapped, state) => (answer, segment :: mapped, state)

def unmapSegments : List RuntimeSegmentFrames → LoadState Space → LoadState Space
  | [], state => state
  | segment :: rest, state =>
    unmapSegments rest
      (unmapMemoryRange mapper segment.virtualStart 0 segment.pages.length state).2

/-- Map a staged library, or unmap what was mapped of it and release its frames. -/
def mapStagedLibrary (staged : StagedRuntimeLibrary) : Load Space Unit := fun state =>
  match mapStagedSegments mapper staged.segments state with
  | (.ok _, _, state) => (.ok (), state)
  | (.error stop, mapped, state) =>
    (.error stop, releaseFrames staged.segments (unmapSegments mapper mapped.reverse state))

/-- Run code, and release the staged frames if it stops. -/
def orRelease {Answer : Type} (staged : StagedRuntimeLibrary) (code : Call Space Answer) :
    Call Space Answer := fun task =>
  match code task with
  | (.ok answer, task) => (.ok answer, task)
  | (.error stop, task) =>
    (.error stop, { task with load := releaseFrames staged.segments task.load })

/-- A handle for the library and a copy of the task's symbols. -/
def beginRuntimeLoad : Call Space (Nat × SymbolNamespace) := fun task =>
  match task.libraries with
  | none => (.error (.error .capacityExceeded), task)
  | some state =>
    if state.libraries.length ≥ maxRuntimeLibraries ∨ state.nextHandle = 2 ^ 32 - 1 then
      (.error (.error .capacityExceeded), task)
    else
      (.ok (state.nextHandle, state.table),
        { task with libraries := some { state with nextHandle := state.nextHandle + 1 } })

def commitRuntimeLoad (handle base mappedBytes : Nat) (table : SymbolNamespace) :
    Call Space Unit := fun task =>
  match task.libraries with
  | none => (.error (.error .notInitialized), task)
  | some state =>
    (.ok (), { task with libraries := some { state with
      table := table
      libraries := state.libraries ++ [⟨handle, base, mappedBytes⟩] } })

/-- Exports into the staging copy, then the library's own relocations. -/
def resolveStaged (fuel : Nat) (staged : StagedRuntimeLibrary) (table : SymbolNamespace) :
    Load Space SymbolNamespace := do
  let table ← staged.registerExports fuel table
  staged.applyRelocations table
  return table

/-- The work on a library that has been staged at `base`. The commit cannot fail
after the load has begun, so its own rollback is not reached. -/
def installStaged (fuel base : Nat) (staged : StagedRuntimeLibrary) : Call Space Nat := do
  let (handle, table) ← orRelease staged beginRuntimeLoad
  let table ← orRelease staged (onLoad (resolveStaged fuel staged table) mapLibraryLoadError)
  onLoad (mapStagedLibrary mapper staged) fun _ => .busy
  commitRuntimeLoad handle base staged.mappingBytes table
  return handle

/-- The checks on a library before addresses are reserved for it. `image` are the
bytes of the memory object the caller names. -/
def planLibrary (image : Octets) : Call Space ElfDependencyPlan := do
  require (image.length ≠ 0 ∧ image.length ≤ maxRuntimeLibraryImageBytes) .invalidArgument
  require (isElf64Image image) .invalidArgument
  let plan ← onLoad (planElfDependency image .x86_64) mapLibraryLoadError
  require (plan.mappingSpanBytes ≠ 0 ∧ plan.mappingSpanBytes ≤ maxRuntimeLibraryMappingBytes)
    .invalidArgument
  return plan

def handleTaskLoadLibrary (fuel : Nat) (image : Octets) : Call Space Nat := do
  let plan ← planLibrary image
  let base ← reserveMappingRange plan.mappingSpanBytes
  let staged ← onLoad (stageRuntimeLibrary .x86_64 base image) mapLibraryLoadError
  installStaged mapper fuel base staged

end ServiceOS.User
