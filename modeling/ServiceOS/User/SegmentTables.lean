import ServiceOS.User.PageContents

/-! # Segment tables of flat images

A flat image may declare its segments. The loader checks the table and then maps
the image by its limits alone, page for page as the payload lies. -/

namespace ServiceOS.User

open Memory Word ByteString Fallible FourLevel

variable {header : FlatImageHeader}

namespace FlatSegmentRecord

variable (segment : FlatSegmentRecord)

def Covers (index : Nat) : Prop :=
  segment.virtualOffset ≤ index * pageSizeBytes ∧
    index * pageSizeBytes < segment.virtualOffset + segment.memorySize
deriving Decidable

def flags : MappingFlags :=
  ⟨segment.writable, segment.executable, true⟩

/-- The byte declared at a distance from the segment's start: its file bytes,
followed by zeroes. -/
def byteAt (payload : Octets) (place : Nat) : UInt8 :=
  if place < segment.fileSize then payload[segment.fileOffset + place]?.getD 0 else 0

def lastPageEnd : Nat :=
  divCeil (segment.virtualOffset + segment.memorySize) pageSizeBytes * pageSizeBytes

/-- The limits of the image and the order of its payload are those the segment
declares. -/
structure Agrees (header : FlatImageHeader)
    (payload : Octets) : Prop where
  writable : segment.writable = true → header.writableOffset < segment.virtualOffset + pageSizeBytes
  readOnly : segment.writable = false → segment.lastPageEnd ≤ header.writableOffset
  executable : segment.executable = true →
    segment.lastPageEnd < header.executableLimit + pageSizeBytes
  data : segment.executable = false → header.executableLimit ≤ segment.virtualOffset
  bytes : ∀ place, segment.virtualOffset + place < segment.lastPageEnd →
    payload[segment.virtualOffset + place]?.getD 0 = segment.byteAt payload place

variable {segment : FlatSegmentRecord}

theorem Covers.le_lastPageEnd (covers : segment.Covers index) :
    index * pageSizeBytes + pageSizeBytes ≤ segment.lastPageEnd := by
  have inside := covers.2
  simp only [lastPageEnd, divCeil, pageSizeBytes] at *
  omega

variable (agrees : segment.Agrees header payload) (covers : segment.Covers index)

include agrees covers

theorem Agrees.pageFlags : header.pageFlags index = segment.flags := by
  have start := covers.1
  have stop := covers.le_lastPageEnd
  have writable : decide (header.writableOffset < index * pageSizeBytes + pageSizeBytes) =
      segment.writable := by
    cases declared : segment.writable with
    | false => exact decide_eq_false (by have := agrees.readOnly declared; omega)
    | true => exact decide_eq_true (by have := agrees.writable declared; omega)
  have executable : decide (index * pageSizeBytes < header.executableLimit) =
      segment.executable := by
    cases declared : segment.executable with
    | false => exact decide_eq_false (by have := agrees.data declared; omega)
    | true => exact decide_eq_true (by have := agrees.executable declared; omega)
  rw [FlatImageHeader.pageFlags, writable, executable, flags]

theorem Agrees.pageOf (inPage : place < pageSizeBytes) :
    (pageOf payload index)[place]?.getD 0 =
      segment.byteAt payload (index * pageSizeBytes + place - segment.virtualOffset) := by
  have start := covers.1
  have stop := covers.le_lastPageEnd
  rw [← agrees.bytes _ (by omega), User.pageOf, List.getElem?_take_of_lt inPage,
    List.getElem?_drop, Nat.add_sub_cancel' (by omega)]

end FlatSegmentRecord

variable {Space : Type}

/-- The image's page of this index is mapped as the segment declares it and holds the
segment's bytes. -/
def FlatSegmentRecord.Holds (segment : FlatSegmentRecord) (mapper : UserPageMapper Space)
    (header : FlatImageHeader) (payload : Octets) (index : Nat)
    (state : LoadState Space) : Prop :=
  ∃ frame, mapper.lookup state.space (header.imageBase + index * pageSizeBytes) =
      some (frame, segment.flags) ∧
    ∀ place < pageSizeBytes, state.memory (frame + place) =
      segment.byteAt payload (index * pageSizeBytes + place - segment.virtualOffset)

theorem loadFlatPages_address (accepted : header.Accepted image)
    (inImage : index < divCeil header.memorySize pageSizeBytes) :
    wrappingAdd header.imageBase ((0 + index) * pageSizeBytes) =
      header.imageBase + index * pageSizeBytes := by
  have window := accepted.window.2.2
  rw [Nat.zero_add, wrappingAdd_of_lt]
  simp only [divCeil, pageSizeBytes, limit, userSpaceEnd] at *
  omega

/-- A page of a loaded flat image that lies in a declared segment has the segment's
permissions and holds its bytes, when the segment agrees with the image's limits
and layout and the companions were relocated in frames that follow one another. -/
theorem segment_table_honoured (mapper : UserPageMapper Space) (fuel : Nat) (machine : ElfMachine)
    (resolver : Option ImageResolver) (image : Octets) (state after : LoadState Space)
    (header : FlatImageHeader) (loaded : LoadedUserImage) (owned : state.frames.Owned)
    (parsed : parseFlatImage image = .ok header)
    (call : loadFlatImage mapper fuel machine resolver image state = (.ok loaded, after))
    (inOrder : (flatBeforeRelocation mapper fuel machine resolver image).Ensures state
      (fun companions between => ∀ module ∈ companions.modules, module.InOrder mapper between)
      fun _ _ => True) :
    ∀ segment ∈ header.segments,
      (segment.virtualOffset < header.memorySize → segment.Agrees header (header.payload image)) →
      ∀ index < divCeil header.memorySize pageSizeBytes, segment.Covers index →
        segment.Holds mapper header (header.payload image) index after := by
  have accepted := parseFlatImage_accepted parsed
  suffices honoured : (loadFlatImage mapper fuel machine resolver image).Ensures state
      (fun _ after => ∀ segment ∈ header.segments,
        (segment.virtualOffset < header.memorySize → segment.Agrees header (header.payload image)) →
        ∀ index < divCeil header.memorySize pageSizeBytes, segment.Covers index →
          segment.Holds mapper header (header.payload image) index after)
      fun _ _ => True from honoured.answer call
  refine ensures_bind (ensures_lift (fun header' parsed' => ?_) fun _ _ => trivial)
  cases parsed'.symm.trans parsed
  refine ensures_bind_call fun frames between loading => ?_
  rcases (loadPages_holds owned _ _ _ _ _).answer loading with ⟨-, pages⟩
  refine ensures_bind_call fun companions mapped mapping => ?_
  have backed := ((inOrder.of_bind (lift_of_ok parsed state)).of_bind loading).answer mapping
  refine ensures_bind_call fun _ linked relocation => ?_
  refine ensures_bind_call fun frames stop stack => ?_
  refine ensures_pure fun segment _ agrees index inImage covers => ?_
  rcases pages index inImage with ⟨number, guarded, page, bytes⟩
  have spared := companions_spare guarded mapping backed relocation stack
  have begins : segment.virtualOffset < header.memorySize := by
    have start := covers.1
    simp only [divCeil, pageSizeBytes] at *
    omega
  rw [loadFlatPages_address accepted inImage, Nat.zero_add,
    (agrees begins).pageFlags covers] at page
  refine ⟨number * pageSizeBytes, spared.keeps _ _ page, fun place inPage => ?_⟩
  rw [spared.bytes place inPage, bytes place inPage, Nat.zero_add,
    (agrees begins).pageOf covers inPage]

/-- An image of two pages with one payload byte, its first page executable and its
second writable, that declares the given segments. -/
def tabledHeader (segments : List FlatSegmentRecord) : FlatImageHeader where
  abiVersion := 1
  headerLen := flatImageHeaderLenV2
  imageBase := userImageWindowStart
  entryOffset := 0
  fileSize := 1
  executableLimit := 1
  writableOffset := 0x1000
  memorySize := 0x2000
  userStackTop := 0x480000100000
  formatFlags := FlatImagePolicy.segmentTable
  minKernelAbi := 0
  dependencies := []
  segments := segments

def tabledImage (segments : List FlatSegmentRecord) : Octets :=
  encodeFlatHeader (tabledHeader segments) ++ [0xc3]

def codeSegment : FlatSegmentRecord := ⟨0, 0, 1, 0x1000, true, false⟩

/-- The payload's byte, to be executed from the second page. -/
def lateSegment : FlatSegmentRecord := ⟨0x1000, 0, 1, 0x1000, true, false⟩

theorem codeSegment_agrees : codeSegment.Agrees (tabledHeader [codeSegment]) [0xc3] := by
  refine ⟨by decide, by decide, by decide, by decide, fun place _ => ?_⟩
  cases place with
  | zero => rfl
  | succ => simp [codeSegment, FlatSegmentRecord.byteAt]

theorem segment_table_honoured_of_code :
    codeSegment.Holds mapper (tabledHeader [codeSegment]) [0xc3] 0
      (loadFlatImage mapper 0 .x86_64 none (tabledImage [codeSegment]) (bootLoad 300)).2 := by
  have owned : (bootLoad 300).frames.Owned := FrameSystem.boot_owned ⟨by decide, by simp⟩ rfl
  have parsed : parseFlatImage (tabledImage [codeSegment]) = .ok (tabledHeader [codeSegment]) := by
    decide +kernel
  have loaded : (loadFlatImage mapper 0 .x86_64 none (tabledImage [codeSegment])
      (bootLoad 300)).1.isOk := by
    decide +kernel
  have payload : (tabledHeader [codeSegment]).payload (tabledImage [codeSegment]) = [0xc3] := by
    decide +kernel
  rcases call : loadFlatImage mapper 0 .x86_64 none (tabledImage [codeSegment])
    (bootLoad 300) with ⟨answer, after⟩
  rw [call] at loaded
  cases answer with
  | error => cases loaded
  | ok image =>
    have honoured := segment_table_honoured mapper 0 .x86_64 none _ _ after _ image
      owned parsed call (by decide +kernel) codeSegment (by decide)
      (fun _ => payload ▸ codeSegment_agrees) 0 (by decide) (by decide)
    exact payload ▸ honoured

/-- The loader accepts a table that declares the second page executable, read-only and
filled from the file, and maps that page writable, not executable and empty. -/
theorem segment_table_ignored :
    parseFlatImage (tabledImage [lateSegment]) = .ok (tabledHeader [lateSegment]) ∧
      (loadFlatImage mapper 0 .x86_64 none (tabledImage [lateSegment]) (bootLoad 300)).1.isOk ∧
      lateSegment.byteAt ((tabledHeader [lateSegment]).payload (tabledImage [lateSegment])) 0 =
        0xc3 ∧
      ∃ frame, mapper.lookup (loadFlatImage mapper 0 .x86_64 none
          (tabledImage [lateSegment]) (bootLoad 300)).2.space (userImageWindowStart + 0x1000) =
          some (frame, ⟨true, false, true⟩) ∧
        (loadFlatImage mapper 0 .x86_64 none (tabledImage [lateSegment])
          (bootLoad 300)).2.memory frame = 0 := by
  refine ⟨by decide +kernel, by decide +kernel, by decide +kernel, 0x5000, by decide +kernel⟩

/-! ## What the check of a table accepts -/

section

variable {segment : FlatSegmentRecord}

variable (fits : segment.lastPageEnd < limit)

include fits

theorem FlatSegmentRecord.end_eq : wrappingAdd segment.virtualOffset segment.memorySize =
      segment.virtualOffset + segment.memorySize := by
  apply wrappingAdd_of_lt
  simp only [lastPageEnd, divCeil, pageSizeBytes] at fits
  omega

theorem FlatSegmentRecord.pageEnd_eq : segment.pageEnd = segment.lastPageEnd := by
  rw [pageEnd, end_eq fits]
  exact Nat.mod_eq_of_lt fits

end

/-- As long as no end of a record wraps around, the records that pass lie in the
image and in its file, and no page is covered by two of them. -/
theorem validated_segments_fit {segments : List FlatSegmentRecord} {memorySize fileSize : Nat}
    (memoryFits : ∀ segment ∈ segments, segment.lastPageEnd < limit)
    (fileFits : ∀ segment ∈ segments, segment.fileOffset + segment.fileSize < limit)
    (accepted : validateSegmentTable segments memorySize fileSize = .ok ()) :
    (∀ segment ∈ segments, segment.virtualOffset + segment.memorySize ≤ memorySize ∧
      segment.fileOffset + segment.fileSize ≤ fileSize ∧ segment.fileSize ≤ segment.memorySize) ∧
    segments.Pairwise fun left right => ∀ index, ¬(left.Covers index ∧ right.Covers index) := by
  simp only [validateSegmentTable, bind_eq_ok, ensure_eq_ok, exists_const] at accepted
  rcases accepted with ⟨fit, apart⟩
  constructor
  · intro segment member
    rcases fit segment member with ⟨-, -, file, inMemory, inFile⟩
    rw [FlatSegmentRecord.end_eq (memoryFits segment member)] at inMemory
    rw [wrappingAdd_of_lt (fileFits segment member)] at inFile
    exact ⟨inMemory, inFile, file⟩
  apply apart.imp_of_mem
  intro left right first second apart index covered
  rw [FlatSegmentRecord.Apart, FlatSegmentRecord.pageEnd_eq (memoryFits left first),
    FlatSegmentRecord.pageEnd_eq (memoryFits right second)] at apart
  have leftEnd := covered.1.le_lastPageEnd
  have rightEnd := covered.2.le_lastPageEnd
  have leftStart := covered.1.1
  have rightStart := covered.2.1
  have positive : 0 < pageSizeBytes := by decide
  exact apart ⟨by omega, by omega⟩

theorem validated_segments_fit_of_two :
    [codeSegment, lateSegment].Pairwise fun left right =>
      ∀ index, ¬(left.Covers index ∧ right.Covers index) :=
  (@validated_segments_fit _ 0x2000 1 (by decide) (by decide) (by decide +kernel)).2

/-- One page before the end of the address space and one after it. -/
def wrappingSegment : FlatSegmentRecord := ⟨2 ^ 64 - 0x1000, 0, 0, 0x2000, false, false⟩

/-- The record passes, far outside the image, and even twice. -/
theorem wrapping_segments_accepted :
    validateSegmentTable [wrappingSegment, wrappingSegment] 0x2000 1 = .ok () ∧
      0x2000 < wrappingSegment.virtualOffset + wrappingSegment.memorySize ∧
      wrappingSegment.Covers (2 ^ 52 - 1) := by
  decide +kernel

end ServiceOS.User
