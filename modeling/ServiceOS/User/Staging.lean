import ServiceOS.User.Loader

/-! # Staging a runtime library

A library loaded at run time is first copied into frames that no one maps yet.
Its relocations go through the list of frames of each segment. -/

namespace ServiceOS.User

open Memory Word ByteString

variable {Space : Type}

structure RuntimeSegmentFrames where
  virtualStart : Nat
  executable : Bool
  writable : Bool
  pages : List Nat
deriving DecidableEq

structure StagedRuntimeLibrary where
  linked : LinkedImage
  segments : List RuntimeSegmentFrames
deriving DecidableEq

/-- The page loop of one segment. Its frames are in no one's list before the
loop is through. -/
def stagePages (payload : Octets) : (index count : Nat) → Load Space (List Nat)
  | _, 0 => pure []
  | index, count + 1 => do
    let frame ← fillPage payload index
    let frames ← stagePages payload (index + 1) count
    return frame :: frames

def stageSegment (image : Octets) (base : Nat) (segment : ElfLoadSegment) :
    Load Space RuntimeSegmentFrames := do
  let virtualStart ← okOr (checkedAdd base segment.virtualAddress) .unsupportedHeader
  let payload ← okOr (segment.payload image) .unsupportedHeader
  let pages ← stagePages payload 0 segment.pages
  return ⟨virtualStart, segment.executable, segment.writable, pages⟩

def stageSegments (image : Octets) (base : Nat) :
    List ElfLoadSegment → LoadState Space →
      Except (Stop LoadError) Unit × List RuntimeSegmentFrames × LoadState Space
  | [], state => (.ok (), [], state)
  | segment :: rest, state =>
    match stageSegment image base segment state with
    | (.error stop, state) => (.error stop, [], state)
    | (.ok staged, state) =>
      match stageSegments image base rest state with
      | (answer, later, state) => (answer, staged :: later, state)

variable (segments : List RuntimeSegmentFrames)

def stagedFrames : List Nat :=
  (segments.flatMap RuntimeSegmentFrames.pages).map (· / pageSizeBytes)

def releaseFrames (state : LoadState Space) : LoadState Space :=
  { state with frames := freeAll state.frames (stagedFrames segments) }

/-- What is checked and parsed before any frame is allocated. -/
def planRuntimeLibrary (machine : ElfMachine) (base : Nat) (image : Octets) :
    Except LoadError LinkedImage := do
  ensure (isElf64Image image) .unsupportedFormat
  let plan ← planElfDependencyInner image machine
  let (info, tables) ← orDependencyInvalid (readDynamic image plan.loads plan.dynamicRange)
  return ⟨image, plan.loads, base, info, tables⟩

def stageRuntimeLibrary (machine : ElfMachine) (base : Nat) (image : Octets) :
    Load Space StagedRuntimeLibrary := do
  let linked ← planRuntimeLibrary machine base image
  fun state =>
    match stageSegments image base linked.loads state with
    | (.error stop, segments, state) => (.error stop, releaseFrames segments state)
    | (.ok _, segments, state) => (.ok ⟨linked, segments⟩, state)

/-- The frame of a segment's page that the word at `target` lies in, and the
word's place there. A word across a page end lies in none. -/
def RuntimeSegmentFrames.locate (segment : RuntimeSegmentFrames) (target : Nat) : Option Nat :=
  if segment.virtualStart ≤ target then
    let offset := target - segment.virtualStart
    let inPage := offset % pageSizeBytes
    if inPage + 8 ≤ pageSizeBytes then
      segment.pages[offset / pageSizeBytes]?.map (· + inPage)
    else
      none
  else
    none

def writeStagedWord (target value : Nat) : Load Space Unit :=
  match segments.findSome? (·.locate target) with
  | some address => storeWord target value address
  | none => unsupportedRelocation

namespace StagedRuntimeLibrary

def mappingBytes (staged : StagedRuntimeLibrary) : Nat :=
  (staged.segments.map fun segment =>
    segment.virtualStart + segment.pages.length * pageSizeBytes -
      staged.linked.loadBase).foldl max 0

def registerExports (staged : StagedRuntimeLibrary) (fuel : Nat) (table : SymbolNamespace) :
    Load Space SymbolNamespace :=
  exportInto fuel staged.linked.tables staged.linked.loadBase table

def applyRelocations (staged : StagedRuntimeLibrary) (table : SymbolNamespace) : Load Space Unit :=
  User.applyRelocations (writeStagedWord staged.segments) staged.linked table

end StagedRuntimeLibrary
end ServiceOS.User
