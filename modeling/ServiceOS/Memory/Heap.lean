import ServiceOS.Foundation.ShiftTable

/-! # The kernel heap

The free-list allocator behind the kernel's global allocator. Addresses and
sizes are 64-bit words, and the arithmetic on them wraps. -/

namespace ServiceOS.Memory

def maxFreeRegions : Nat := 4096

def nullPointer : Nat := 0

def wrappingAdd (first second : Nat) : Nat := (first + second) % 2 ^ 64

def wrappingSub (first second : Nat) : Nat := (first + (2 ^ 64 - second)) % 2 ^ 64

def saturatingAdd (first second : Nat) : Nat := min (first + second) (2 ^ 64 - 1)

/-- A valid allocation request, as `Layout::from_size_align` admits it. -/
structure Layout where
  size : Nat
  align : Nat
  align_power : ∃ exponent, align = 2 ^ exponent
  size_le : size + align ≤ 2 ^ 63
deriving DecidableEq

/-- Requests for no bytes are served as requests for one. -/
def Layout.bytes (layout : Layout) : Nat := max layout.size 1

structure FreeRegion where
  start : Nat
  size : Nat
deriving DecidableEq

namespace FreeRegion

def empty : FreeRegion := ⟨0, 0⟩

def endExclusive (region : FreeRegion) : Nat := wrappingAdd region.start region.size

def merge (region neighbour : FreeRegion) : FreeRegion :=
  let mergedStart := min neighbour.start region.start
  let mergedEnd := max neighbour.endExclusive region.endExclusive
  ⟨mergedStart, wrappingSub mergedEnd mergedStart⟩

end FreeRegion

abbrev RegionTable := ShiftTable FreeRegion maxFreeRegions

structure FreeListAllocator where
  regions : RegionTable
  initialized : Bool
  capacityBytes : Nat
  freeBytes : Nat
  droppedFreeBytes : Nat
  droppedFreeEvents : Nat

def alignUp (value align : Nat) : Nat :=
  let mask := align - 1
  wrappingAdd value mask &&& ((2 ^ 64 - 1) ^^^ mask)

namespace FreeListAllocator

def empty : FreeListAllocator where
  regions := ⟨fun _ => .empty, 0, Nat.zero_le _⟩
  initialized := false
  capacityBytes := 0
  freeBytes := 0
  droppedFreeBytes := 0
  droppedFreeEvents := 0

variable (allocator : FreeListAllocator)

def initializeHeap (start size : Nat) : Except Unit FreeListAllocator :=
  if allocator.initialized then
    .error ()
  else
    .ok { allocator with
      regions := ⟨Function.update allocator.regions.slots 0 ⟨start, size⟩, 1, by decide⟩
      initialized := true
      capacityBytes := size
      freeBytes := size }

/-! ## Allocation -/

/-- The loop of `allocate` up to the region it stops at, with the aligned start
of the block. It ends early when the end of a block is not an address. -/
def scanRegions (regions : RegionTable) (align size index : Nat) : Nat → Option (Nat × Nat)
  | 0 => none
  | remaining + 1 =>
    let region := regions.slots index
    let start := alignUp region.start align
    if 2 ^ 64 ≤ start + size then
      none
    else if region.endExclusive < start + size then
      scanRegions regions align size (index + 1) remaining
    else
      some (index, start)

/-- Take `[start, stop)` out of the region at `index`. A block in the middle
needs one more slot. -/
def splitRegion (regions : RegionTable) (index start stop : Nat) : Option RegionTable :=
  let region := regions.slots index
  let prefixSize := wrappingSub start region.start
  let suffixSize := wrappingSub region.endExclusive stop
  if 0 < prefixSize then
    if 0 < suffixSize then
      if full : regions.len = maxFreeRegions then
        none
      else
        some <| (regions.insertAt (Nat.lt_of_le_of_ne regions.len_le full) (index + 1)
          ⟨stop, suffixSize⟩).set index { region with size := prefixSize }
    else
      some (regions.set index { region with size := prefixSize })
  else if 0 < suffixSize then
    some (regions.set index ⟨stop, suffixSize⟩)
  else
    some (regions.removeAt .empty index)

def allocate (layout : Layout) : Nat × FreeListAllocator :=
  if allocator.initialized then
    match scanRegions allocator.regions layout.align layout.bytes 0 allocator.regions.len with
    | none => (nullPointer, allocator)
    | some (index, start) =>
      match splitRegion allocator.regions index start (start + layout.bytes) with
      | none => (nullPointer, allocator)
      | some regions =>
        (start, { allocator with
          regions := regions
          freeBytes := allocator.freeBytes - layout.bytes })
  else
    (nullPointer, allocator)

/-! ## Deallocation -/

/-- The first of the slots from `index` on whose region does not start below `start`. -/
def insertionIndex (regions : RegionTable) (start index : Nat) : Nat → Nat
  | 0 => index
  | remaining + 1 =>
    if (regions.slots index).start < start then
      insertionIndex regions start (index + 1) remaining
    else
      index

def coalesceLeft (regions : RegionTable) (index : Nat) (region : FreeRegion) :
    RegionTable × Nat × FreeRegion :=
  if 0 < index then
    let left := regions.slots (index - 1)
    if region.start ≤ left.endExclusive then
      (regions.removeAt .empty (index - 1), index - 1, region.merge left)
    else
      (regions, index, region)
  else
    (regions, index, region)

/-- The loop over the `remaining` regions from `index` on; each round removes one. -/
def coalesceRight (regions : RegionTable) (index : Nat) (region : FreeRegion) :
    Nat → RegionTable × FreeRegion
  | 0 => (regions, region)
  | remaining + 1 =>
    let next := regions.slots index
    if region.endExclusive < next.start then
      (regions, region)
    else
      coalesceRight (regions.removeAt .empty index) index (region.merge next) remaining

def insertAndCoalesce (region : FreeRegion) : FreeListAllocator :=
  if region.size = 0 then
    allocator
  else
    let freedBytes := region.size
    let index := insertionIndex allocator.regions region.start 0 allocator.regions.len
    let (regions, index, region) := coalesceLeft allocator.regions index region
    let (regions, region) := coalesceRight regions index region (regions.len - index)
    if full : regions.len = maxFreeRegions then
      { allocator with
        regions := regions
        droppedFreeBytes := saturatingAdd allocator.droppedFreeBytes region.size
        droppedFreeEvents := saturatingAdd allocator.droppedFreeEvents 1 }
    else
      { allocator with
        regions := regions.insertAt (Nat.lt_of_le_of_ne regions.len_le full) index region
        freeBytes := saturatingAdd allocator.freeBytes freedBytes }

def deallocate (pointer : Nat) (layout : Layout) : FreeListAllocator :=
  if allocator.initialized then
    if 2 ^ 64 ≤ pointer + layout.bytes then
      allocator
    else
      allocator.insertAndCoalesce ⟨pointer, layout.bytes⟩
  else
    allocator

end FreeListAllocator
end ServiceOS.Memory
