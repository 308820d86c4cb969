import ServiceOS.User.Types

/-! # Flat images

`parse_flat_image` and `validate_segment_table`. -/

namespace ServiceOS.User

open Memory Word ByteString

def usesSegmentTableFlag (formatFlags : Nat) : Prop :=
  formatFlags &&& FlatImagePolicy.segmentTable ≠ 0
deriving Decidable

namespace FlatSegmentRecord

/-- Sums that do not fit wrap around. -/
def Fits (segment : FlatSegmentRecord) (memorySize fileSize : Nat) : Prop :=
  segment.virtualOffset % pageSizeBytes = 0 ∧ segment.memorySize ≠ 0 ∧
    segment.fileSize ≤ segment.memorySize ∧
    wrappingAdd segment.virtualOffset segment.memorySize ≤ memorySize ∧
    wrappingAdd segment.fileOffset segment.fileSize ≤ fileSize
deriving Decidable

def pageEnd (segment : FlatSegmentRecord) : Nat :=
  alignUpU64 (wrappingAdd segment.virtualOffset segment.memorySize) pageSizeBytes

def Apart (left right : FlatSegmentRecord) : Prop :=
  ¬(left.virtualOffset < right.pageEnd ∧ right.virtualOffset < left.pageEnd)
deriving Decidable

end FlatSegmentRecord

def validateSegmentTable (segments : List FlatSegmentRecord) (memorySize fileSize : Nat) :
    Except LoadError Unit := do
  ensure (∀ segment ∈ segments, segment.Fits memorySize fileSize) .unsupportedHeader
  ensure (segments.Pairwise FlatSegmentRecord.Apart) .unsupportedHeader

variable (image : Octets)

def readDependency (index : Nat) : Except LoadError FlatDependencyRecord := do
  let base := 88 + index * 16
  let imageId ← readU32Le image base
  let baseOffsetHint ← readU64Le image (base + 8)
  return ⟨imageId, baseOffsetHint⟩

def readSegment (index : Nat) : Except LoadError FlatSegmentRecord := do
  let base := 152 + index * 32
  let flags ← readU32Le image (base + 28)
  let virtualOffset ← readU64Le image base
  let fileOffset ← readU64Le image (base + 8)
  let fileSize ← readU64Le image (base + 16)
  let memorySize ← readU32Le image (base + 24)
  return ⟨virtualOffset, fileOffset, fileSize, memorySize, flags &&& 1 ≠ 0, flags &&& 2 ≠ 0⟩

def readExtension (memorySize fileSize : Nat) :
    Except LoadError (Nat × Nat × List FlatDependencyRecord × List FlatSegmentRecord) := do
  let formatFlags ← readU32Le image 72
  let minKernelAbi ← readU32Le image 76
  let dependencyCount ← readU32Le image 80
  let segmentCount ← readU32Le image 84
  -- Every bit outside the mask is refused.
  ensure (formatFlags &&& (2 ^ 32 - 1 - FlatImagePolicy.validMask) = 0) .unsupportedHeader
  ensure (minKernelAbi ≤ kernelAbiVersion) .kernelAbiTooNew
  ensure (dependencyCount ≤ maxFlatDependencies ∧ segmentCount ≤ maxFlatSegments) .unsupportedHeader
  ensure (¬(usesSegmentTableFlag formatFlags ∧ segmentCount = 0)) .unsupportedHeader
  let dependencies ← (List.range dependencyCount).mapM (readDependency image)
  let segments ← (List.range segmentCount).mapM (readSegment image)
  if usesSegmentTableFlag formatFlags then
    validateSegmentTable segments memorySize fileSize
  return (formatFlags, minKernelAbi, dependencies, segments)

/-- A legacy header leaves the extension fields zero. -/
def extensionFields (headerLen memorySize fileSize : Nat) :
    Except LoadError (Nat × Nat × List FlatDependencyRecord × List FlatSegmentRecord) :=
  if headerLen = flatImageHeaderLenV2 then readExtension image memorySize fileSize
  else .ok (0, 0, [], [])

def stackBottom (userStackTop : Nat) : Nat := userStackTop - userStackPages * pageSizeBytes

def parseFlatImage : Except LoadError FlatImageHeader := do
  ensure (flatImageHeaderLen ≤ image.length) .truncated
  ensure (image.take flatImageMagic.length = flatImageMagic) .invalidMagic
  let abiVersion ← readU32Le image 8
  let headerLen ← readU32Le image 12
  ensure (abiVersion = 1) .unsupportedAbi
  ensure (headerLen = flatImageHeaderLen ∨ headerLen = flatImageHeaderLenV2) .unsupportedHeader
  let imageBase ← readU64Le image 16
  let entryOffset ← readU64Le image 24
  let fileSize ← readU64Le image 32
  let executableLimit ← readU64Le image 40
  let writableOffset ← readU64Le image 48
  let memorySize ← readU64Le image 56
  let userStackTop ← readU64Le image 64
  ensure (imageBase % pageSizeBytes = 0 ∧ userStackTop % pageSizeBytes = 0) .addressAlignment
  ensure (imageWindowContains imageBase memorySize ∧
    imageWindowContains (stackBottom userStackTop) (userStackPages * pageSizeBytes))
    .unsupportedHeader
  ensure (wrappingAdd headerLen fileSize ≤ image.length) .truncated
  ensure (fileSize ≠ 0 ∧ executableLimit ≠ 0 ∧ executableLimit ≤ fileSize ∧
    writableOffset ≤ memorySize ∧ fileSize ≤ memorySize) .truncated
  let (formatFlags, minKernelAbi, dependencies, segments) ←
    extensionFields image headerLen memorySize fileSize
  return {
    abiVersion, headerLen, imageBase, entryOffset, fileSize, executableLimit, writableOffset,
    memorySize, userStackTop, formatFlags, minKernelAbi, dependencies, segments }

/-- What the loader relies on in an accepted header. -/
structure FlatImageHeader.Accepted (header : FlatImageHeader) (image : Octets) : Prop where
  base_aligned : header.imageBase % pageSizeBytes = 0
  stack_aligned : header.userStackTop % pageSizeBytes = 0
  window : imageWindowContains header.imageBase header.memorySize
  stack_window :
    imageWindowContains (stackBottom header.userStackTop) (userStackPages * pageSizeBytes)
  length : header.headerLen + header.fileSize ≤ image.length
  file_le : header.fileSize ≤ header.memorySize

theorem parseFlatImage_accepted {image : Octets}
    (parsed : parseFlatImage image = .ok header) : header.Accepted image := by
  simp only [parseFlatImage, bind_eq_ok, ensure_eq_ok, exists_const] at parsed
  rcases parsed with ⟨-, -, abiVersion, -, headerLen, -, -, known, imageBase, -, entryOffset, -,
    fileSize, -, executableLimit, -, writableOffset, -, memorySize, -, userStackTop, -, aligned,
    windows, length, sizes, extension, -, result⟩
  cases result
  refine ⟨aligned.1, aligned.2, windows.1, windows.2, ?_, sizes.2.2.2.2⟩
  have small : fileSize < limit / 2 := by
    have below : memorySize ≤ userSpaceEnd := by
      have := windows.1.2.2
      omega
    calc fileSize ≤ memorySize := sizes.2.2.2.2
      _ ≤ userSpaceEnd := below
      _ < limit / 2 := by decide
  have fits : headerLen + fileSize < limit := by
    · simp only [limit, flatImageHeaderLen, flatImageHeaderLenV2] at *
      omega
  rwa [wrappingAdd_of_lt fits] at length

/-! ## Writing an image

The layout the reads above rely on, for images given by their parts. -/

def encodeDependency (dependency : FlatDependencyRecord) : Octets :=
  toLittleEndian 4 dependency.imageId ++ toLittleEndian 4 0 ++
    toLittleEndian 8 dependency.baseOffsetHint

def encodeFlatSegment (segment : FlatSegmentRecord) : Octets :=
  toLittleEndian 8 segment.virtualOffset ++ toLittleEndian 8 segment.fileOffset ++
    toLittleEndian 8 segment.fileSize ++ toLittleEndian 4 segment.memorySize ++
    toLittleEndian 4 (segment.executable.toNat + 2 * segment.writable.toNat)

/-- The extension has room for a fixed number of records. -/
def encodeExtension (header : FlatImageHeader) : Octets :=
  toLittleEndian 4 header.formatFlags ++ toLittleEndian 4 header.minKernelAbi ++
    toLittleEndian 4 header.dependencies.length ++ toLittleEndian 4 header.segments.length ++
    header.dependencies.flatMap encodeDependency ++
    List.replicate (16 * (maxFlatDependencies - header.dependencies.length)) 0 ++
    header.segments.flatMap encodeFlatSegment ++
    List.replicate (32 * (maxFlatSegments - header.segments.length)) 0

def encodeFlatHeader (header : FlatImageHeader) : Octets :=
  flatImageMagic ++ toLittleEndian 4 header.abiVersion ++ toLittleEndian 4 header.headerLen ++
    toLittleEndian 8 header.imageBase ++ toLittleEndian 8 header.entryOffset ++
    toLittleEndian 8 header.fileSize ++ toLittleEndian 8 header.executableLimit ++
    toLittleEndian 8 header.writableOffset ++ toLittleEndian 8 header.memorySize ++
    toLittleEndian 8 header.userStackTop ++
    if header.headerLen = flatImageHeaderLenV2 then encodeExtension header else []

end ServiceOS.User
