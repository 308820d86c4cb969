import Mathlib

/-! # The physical frame allocator

`EarlyFrameAllocator` of `memory/phys.rs`. A fixed array with a count is a
list. Frame numbers and statistics stay far below the machine's word size. -/

namespace ServiceOS.Memory

def pageSizeBytes : Nat := 4096

/-! A physical address is the number of a byte. -/

namespace PhysicalAddress

def alignUp (address align : Nat) : Nat :=
  if address % align = 0 then address else (address + (align - address % align)) % 2 ^ 64

def alignDown (address align : Nat) : Nat := address - address % align

end PhysicalAddress

inductive BootMemoryRegionKind
  | usable
  | bootServicesReclaimable
  | bootloaderOwned
  | acpiReclaimable
  | firmwareReserved
  | device
  | reserved
  | unknown (code : UInt32)
deriving DecidableEq

structure BootMemoryRegion where
  start : Nat
  endExclusive : Nat
  kind : BootMemoryRegionKind

inductive InitializationError
  | tooManyUsableRegions

inductive PageSize
  | size4KiB
  | size2MiB
  | size1GiB
deriving DecidableEq

structure Frame where
  base : Nat
  size : PageSize
deriving DecidableEq

structure FrameRegionCursor where
  startFrame : Nat
  endFrameExclusive : Nat
  nextFrame : Nat
deriving DecidableEq

def maxAllocatableRegions : Nat := 128
def maxReclaimedRegions : Nat := 256

structure EarlyFrameAllocator where
  regions : List FrameRegionCursor
  activeRegion : Nat
  allocatedFrames : Nat
  reclaimedBootServiceFrames : Nat
  reclaimed : List FrameRegionCursor
  freedFramesRecorded : Nat
  droppedFreeFrames : Nat
deriving DecidableEq

/-! ## Recording regions -/

def pushRegion (regions : List FrameRegionCursor) (startFrame endFrameExclusive : Nat) :
    Except InitializationError (List FrameRegionCursor) :=
  if regions.length = maxAllocatableRegions then
    .error .tooManyUsableRegions
  else
    .ok (regions ++ [⟨startFrame, endFrameExclusive, startFrame⟩])

def BootMemoryRegion.startFrame (region : BootMemoryRegion) : Nat :=
  PhysicalAddress.alignUp region.start pageSizeBytes / pageSizeBytes

def BootMemoryRegion.endFrame (region : BootMemoryRegion) : Nat :=
  PhysicalAddress.alignDown region.endExclusive pageSizeBytes / pageSizeBytes

/-- The loop of `from_boot_context` and `reclaim_boot_services`: record every
region of one kind and count its frames. What was recorded before a failure
stays recorded. -/
def pushRegions (kind : BootMemoryRegionKind) (regions : List FrameRegionCursor) (frames : Nat) :
    List BootMemoryRegion → Except InitializationError Nat × List FrameRegionCursor
  | [] => (.ok frames, regions)
  | region :: rest =>
    if region.kind ≠ kind then
      pushRegions kind regions frames rest
    else if region.endFrame ≤ region.startFrame then
      pushRegions kind regions frames rest
    else
      match pushRegion regions region.startFrame region.endFrame with
      | .error error => (.error error, regions)
      | .ok regions =>
        pushRegions kind regions (frames + (region.endFrame - region.startFrame)) rest

namespace EarlyFrameAllocator

def fromBootContext (memoryRegions : List BootMemoryRegion) :
    Except InitializationError EarlyFrameAllocator :=
  match pushRegions .usable [] 0 memoryRegions with
  | (.error error, _) => .error error
  | (.ok _, regions) => .ok ⟨regions, 0, 0, 0, [], 0, 0⟩

variable (allocator : EarlyFrameAllocator)

def reclaimBootServices (memoryRegions : List BootMemoryRegion) :
    Except InitializationError Nat × EarlyFrameAllocator :=
  match pushRegions .bootServicesReclaimable allocator.regions 0 memoryRegions with
  | (.error error, regions) => (.error error, { allocator with regions := regions })
  | (.ok frames, regions) =>
    (.ok frames, { allocator with
      regions := regions
      reclaimedBootServiceFrames := allocator.reclaimedBootServiceFrames + frames })

/-! ## Allocation -/

/-- Take a frame from the first region that has one, counting the regions
passed over. -/
def takeFrame : List FrameRegionCursor → Nat × Option (Nat × List FrameRegionCursor)
  | [] => (0, none)
  | region :: rest =>
    if region.nextFrame < region.endFrameExclusive then
      (0, some (region.nextFrame, { region with nextFrame := region.nextFrame + 1 } :: rest))
    else
      match takeFrame rest with
      | (passed, taken) => (passed + 1, taken.map fun (frame, rest) => (frame, region :: rest))

/-- Reclaimed frames are served first, then the fresh regions from the active
one on. -/
def allocate4kib : Option Frame × EarlyFrameAllocator :=
  match takeFrame allocator.reclaimed with
  | (_, some (frame, reclaimed)) =>
    (some ⟨frame * pageSizeBytes, .size4KiB⟩, { allocator with
      reclaimed := reclaimed
      allocatedFrames := allocator.allocatedFrames + 1 })
  | (_, none) =>
    let active := allocator.activeRegion
    match takeFrame (allocator.regions.drop active) with
    | (passed, some (frame, regions)) =>
      (some ⟨frame * pageSizeBytes, .size4KiB⟩, { allocator with
        regions := allocator.regions.take active ++ regions
        activeRegion := active + passed
        allocatedFrames := allocator.allocatedFrames + 1 })
    | (passed, none) => (none, { allocator with activeRegion := active + passed })

/-! ## Freeing -/

inductive FreeSlot
  | append (index : Nat)
  | prepend (index : Nat)
  | insert (index : Nat)

/-- The scan of `free_4kib` over a pool of `count` regions. -/
def scanReclaimed (frame count : Nat) : List FrameRegionCursor → Nat → Nat → FreeSlot
  | [], _, insertAt => .insert insertAt
  | region :: rest, index, insertAt =>
    if region.endFrameExclusive = frame then
      .append index
    else if region.startFrame = frame + 1 ∧ region.nextFrame = region.startFrame then
      .prepend index
    else if region.startFrame > frame ∧ insertAt = count then
      scanReclaimed frame count rest (index + 1) index
    else
      scanReclaimed frame count rest (index + 1) insertAt

variable (reclaimed : List FrameRegionCursor)

def freeSlot (frame : Nat) : FreeSlot :=
  scanReclaimed frame reclaimed.length reclaimed 0 reclaimed.length

/-- Fold the region at `left + 1` into the one at `left` when contiguous. The
cursor of the right region is not looked at. -/
def absorb (left : Nat) : List FrameRegionCursor :=
  match reclaimed[left]?, reclaimed[left + 1]? with
  | some region, some right =>
    if region.endFrameExclusive = right.startFrame then
      (reclaimed.set left { region with endFrameExclusive := right.endFrameExclusive }).eraseIdx
        (left + 1)
    else
      reclaimed
  | _, _ => reclaimed

def absorbRight (index : Nat) : List FrameRegionCursor :=
  absorb reclaimed index

def absorbLeft (index : Nat) : List FrameRegionCursor :=
  if index > 0 then absorb reclaimed (index - 1) else reclaimed

def free4kib (base : Nat) : Bool × EarlyFrameAllocator :=
  if base % pageSizeBytes ≠ 0 then
    (false, allocator)
  else
    let frame := base / pageSizeBytes
    let reclaimed := allocator.reclaimed
    let recorded (reclaimed : List FrameRegionCursor) : Bool × EarlyFrameAllocator :=
      (true, { allocator with
        reclaimed := reclaimed
        freedFramesRecorded := allocator.freedFramesRecorded + 1 })
    match freeSlot reclaimed frame with
    | .append index =>
      recorded (absorbRight (reclaimed.modify index fun region =>
        { region with endFrameExclusive := region.endFrameExclusive + 1 }) index)
    | .prepend index =>
      recorded (absorbLeft (reclaimed.modify index fun region =>
        { region with startFrame := frame, nextFrame := frame }) index)
    | .insert index =>
      if reclaimed.length = maxReclaimedRegions then
        (false, { allocator with droppedFreeFrames := allocator.droppedFreeFrames + 1 })
      else
        recorded (reclaimed.insertIdx index ⟨frame, frame + 1, frame⟩)

/-! ## Statistics -/

def available (regions : List FrameRegionCursor) : Nat :=
  (regions.map fun region => region.endFrameExclusive - region.nextFrame).sum

def remainingFrames : Nat := available allocator.regions

def reclaimableFrames : Nat := available allocator.reclaimed

def usableHeadroomFrames : Nat :=
  allocator.remainingFrames + allocator.reclaimableFrames

end EarlyFrameAllocator
end ServiceOS.Memory
