import ServiceOS.User.RuntimeGrowth

/-! # The window of a library

The size checked or reserved for a library is the distance between the lowest
and the highest address of its segments, while its segments are mapped at their
own distance from the load base. -/

namespace ServiceOS.User

open Memory Word ByteString Fallible FourLevel

/-- Every segment that takes memory ends as far below the highest end as the
lowest segment lies above zero. -/
def ElfDependencyPlan.Compact (plan : ElfDependencyPlan) : Prop :=
  ∀ segment ∈ plan.loads, segment.memorySize ≠ 0 →
    segment.memoryEnd + spanLow plan.loads ≤ spanHigh plan.loads
deriving Decidable

def InSpan (base span page : Nat) : Prop :=
  ∃ index, page = base + index * pageSizeBytes ∧ index * pageSizeBytes < span

section

/-- The pages of a segment lie in the span, at whole pages from the base. -/
theorem SegmentPage.in_span {segment : ElfLoadSegment}
    (planned : planElfDependencyInner bytes machine = .ok plan) (compact : plan.Compact)
    (fits : base + plan.span ≤ userSpaceEnd) (member : segment ∈ plan.loads)
    (range : SegmentPage base segment page) :
    InSpan base plan.span page := by
  rcases range with ⟨virtualStart, index, computed, below, rfl⟩
  rcases planElfDependencyInner_accepted planned with ⟨plannable, span⟩
  rcases Option.ite_none_right_eq_some.mp computed with ⟨-, ⟨⟩⟩
  have start : segment.virtualAddress / pageSizeBytes * pageSizeBytes = segment.virtualAddress :=
    Nat.div_mul_cancel (Nat.dvd_of_mod_eq_zero (plannable segment member).1)
  have inside : index * pageSizeBytes < segment.memorySize := by
    simp only [ElfLoadSegment.pages, divCeil, pageSizeBytes] at below ⊢
    omega
  have ends : segment.memoryEnd + spanLow plan.loads ≤ spanHigh plan.loads :=
    compact segment member (by omega)
  have last : segment.virtualAddress + segment.memorySize ≤ plan.span := by
    simp only [ElfLoadSegment.memoryEnd, saturatingAdd, limit, userSpaceEnd] at ends fits
    omega
  refine ⟨segment.virtualAddress / pageSizeBytes + index, ?_, ?_⟩
  · rw [wrappingAdd_of_lt, Nat.add_mul, start, Nat.add_assoc]
    simp only [limit, userSpaceEnd] at *
    omega
  · rw [Nat.add_mul]
    omega

theorem spanHigh_lt (loads : List ElfLoadSegment) : spanHigh loads < limit := by
  have bounded : ∀ high < limit,
      loads.foldl (fun high segment => max high segment.memoryEnd) high < limit := by
    induction loads with
    | nil => exact fun high below => below
    | cons segment rest induction =>
      refine fun high below => induction _ (Nat.max_lt.mpr ⟨below, ?_⟩)
      exact Nat.lt_of_le_of_lt (Nat.min_le_right _ _) (by decide)
  exact bounded 0 (by decide)

/-- A span that rounds up to less than the word size to something rounds up to
the next page end, and that much is reserved for it. -/
theorem Loadable.reserved (loadable : Loadable image plan) :
    reservedBytes plan.mappingSpanBytes = divCeil plan.span pageSizeBytes * pageSizeBytes := by
  have high := spanHigh_lt plan.loads
  have span := (planElfDependencyInner_accepted loadable.planned).2
  have nonempty := loadable.nonempty
  simp only [ElfDependencyPlan.mappingSpanBytes, alignUpU64, reservedBytes, wrappingMul, divCeil,
    pageSizeBytes, limit] at *
  omega

end

section

variable {Space : Type} {mapper : UserPageMapper Space}

theorem loadElfCompanion_mapsOnly
    (planned : planElfDependency bytes machine = .ok plan) (compact : plan.Compact) :
    (loadElfCompanion mapper fuel machine header base bytes space).Respects
      (MapsOnly mapper fun page => DependencyFits header base plan.span ∧
        InSpan base plan.span page) := by
  refine respects_lift_bind fun plan' planned' => ?_
  cases planned'.symm.trans planned
  refine respects_lift_bind fun _ fits => ?_
  have fits := ensure_eq_ok.mp fits
  refine respects_bind (mapElfDependency_respects mapsOnly_admits ?_) fun _ => respects_pure
  intro segment member page range
  exact ⟨fits, range.in_span (planElfDependency_eq_ok.mp planned) compact fits.2.1.2.2 member⟩

theorem loadElfCompanion_keepsMappings :
    (loadElfCompanion mapper fuel machine header base bytes space).Respects
      (KeepsMappings mapper) := by
  refine respects_bind respects_lift fun plan => ?_
  refine respects_bind respects_lift fun _ => ?_
  refine respects_bind (mapElfDependency_respects keepsMappings_admits ?_) fun _ => respects_pure
  exact fun _ _ _ _ => trivial

theorem handleTaskLoadLibrary_mapsOnly
    (planned : planElfDependency image .x86_64 = .ok plan) (compact : plan.Compact)
    (fits : task.nextMappingBase + reservedBytes plan.mappingSpanBytes ≤ userSpaceEnd) :
    OnLoad (MapsOnly mapper fun page => Loadable image plan ∧
        InSpan task.nextMappingBase plan.span page) task
      (handleTaskLoadLibrary mapper fuel image task).2 := by
  refine handleTaskLoadLibrary_relates MapsOnly.of_space fun plan' staged loadable stages => ?_
  cases loadable.planned.symm.trans (planElfDependency_eq_ok.mp planned)
  refine installStaged_onLoad
    (writeStagedWord_respects (fun _ _ _ _ => .of_space rfl) _ _) (fun _ => .of_space rfl)
    (mapStagedLibrary_mapsOnly fun segment member page range => ⟨loadable, ?_⟩) fuel _
  rcases Stages.load_of_mem stages member with ⟨load, among, matched⟩
  have spanFits : task.nextMappingBase + plan.span ≤ userSpaceEnd := by
    have reserved := loadable.reserved
    simp only [divCeil, pageSizeBytes] at reserved
    omega
  exact (matched.segmentPage range).in_span loadable.planned compact spanFits among

theorem handleTaskLoadLibrary_keepsMappings :
    OnLoad (KeepsMappings mapper) task (handleTaskLoadLibrary mapper fuel image task).2 :=
  handleTaskLoadLibrary_relates KeepsMappings.of_space fun _ _ _ _ =>
    installStaged_onLoad
      (writeStagedWord_respects (fun _ _ _ _ => .of_space rfl) _ _) (fun _ => .of_space rfl)
      (mapStagedLibrary_keepsMappings _) fuel _

/-- A page a library changes lies in the size that was checked or reserved for it,
below the stack of the image it is a companion of and in user space, and was
free before. -/
theorem library_pages_in_window (mapper : UserPageMapper Space) (fuel : Nat)
    (bytes : Octets) (machine : ElfMachine) (plan : ElfDependencyPlan)
    (planned : planElfDependency bytes machine = .ok plan) (compact : plan.Compact) :
    (∀ image header base space state page, parseFlatImage image = .ok header →
      mapper.lookup (loadElfCompanion mapper fuel machine header base bytes space state).2.space
        page ≠ mapper.lookup state.space page →
      (base ≤ page ∧ page < base + plan.span ∧ imageWindowContains page pageSizeBytes ∧
        page + pageSizeBytes ≤ stackBottom header.userStackTop) ∧
      mapper.lookup state.space page = none) ∧
    (∀ (task : TaskSpace Space) page, machine = .x86_64 →
      task.nextMappingBase + reservedBytes plan.mappingSpanBytes ≤ userSpaceEnd →
      mapper.lookup (handleTaskLoadLibrary mapper fuel bytes task).2.load.space page ≠
        mapper.lookup task.load.space page →
      (task.nextMappingBase ≤ page ∧
        page + pageSizeBytes ≤ task.nextMappingBase + reservedBytes plan.mappingSpanBytes ∧
        page + pageSizeBytes ≤ userSpaceEnd) ∧
      mapper.lookup task.load.space page = none) := by
  constructor
  · intro image header base space state page parsed changed
    refine ⟨?_, (loadElfCompanion_keepsMappings state).free_of_changed changed⟩
    rcases loadElfCompanion_mapsOnly planned compact state page changed with
      ⟨⟨aligned, window, below⟩, index, rfl, inside⟩
    have accepted := parseFlatImage_accepted parsed
    have top := accepted.stack_aligned
    simp only [imageWindowContains, stackBottom, userStackPages, userImageWindowStart, userSpaceEnd,
      pageSizeBytes] at *
    omega
  · rintro task page rfl fits changed
    refine ⟨?_, handleTaskLoadLibrary_keepsMappings.free_of_changed changed⟩
    rcases handleTaskLoadLibrary_mapsOnly planned compact fits page changed with
      ⟨loadable, index, rfl, inside⟩
    rw [loadable.reserved] at fits ⊢
    simp only [divCeil, pageSizeBytes] at *
    omega

end

/-! ## Libraries linked at zero and above it -/

def onePageLibrary (virtualAddress : Nat) : Octets :=
  encodeLibrary [⟨5, 0, virtualAddress, 120, 0x1000⟩]

def onePagePlan (virtualAddress : Nat) : ElfDependencyPlan :=
  ⟨[⟨5, 0, virtualAddress, 120, 0x1000⟩], none, 0x1000⟩

/-- An image whose stack begins at `0x480000000000`. -/
def hostHeader : FlatImageHeader where
  abiVersion := 1
  headerLen := flatImageHeaderLen
  imageBase := userImageWindowStart
  entryOffset := 0
  fileSize := 1
  executableLimit := 1
  writableOffset := 0x1000
  memorySize := 0x1000
  userStackTop := 0x480000100000
  formatFlags := 0
  minKernelAbi := 0
  dependencies := []
  segments := []

def hostImage : Octets := encodeFlatHeader hostHeader ++ [0xc3]

def newTask (frames : Nat) : TaskSpace FourLevel.Space :=
  ⟨bootLoad frames, firstSharedMappingBase, some ⟨1, .empty, []⟩, fun _ => none⟩

theorem parse_hostImage : parseFlatImage hostImage = .ok hostHeader := by
  decide +kernel

theorem library_pages_in_window_of_zero :
    (mapper.lookup (loadElfCompanion mapper 0 .x86_64 hostHeader 0x47fffff00000
        (onePageLibrary 0) .empty (bootLoad 16)).2.space 0x47fffff00000).isSome ∧
      0x47fffff00000 + pageSizeBytes ≤ stackBottom hostHeader.userStackTop ∧
      (mapper.lookup (handleTaskLoadLibrary mapper 0 (onePageLibrary 0)
        (newTask 16)).2.load.space firstSharedMappingBase).isSome ∧
      firstSharedMappingBase + pageSizeBytes ≤
        firstSharedMappingBase + reservedBytes (onePagePlan 0).mappingSpanBytes := by
  have window := library_pages_in_window mapper 0 (onePageLibrary 0) .x86_64
    (onePagePlan 0) (by decide +kernel) (by decide)
  refine ⟨by decide +kernel, ?_, by decide +kernel, ?_⟩
  · exact (window.1 hostImage hostHeader 0x47fffff00000 .empty (bootLoad 16) _ parse_hostImage
      (by decide +kernel)).1.2.2.2
  · exact (window.2 (newTask 16) _ rfl (by decide +kernel) (by decide +kernel)).1.2.1

/-- Linked at `0x100000`, the same library is mapped into the stack of the image
and past the end of its reservation. -/
theorem library_page_outside_window :
    parseFlatImage hostImage = .ok hostHeader ∧
      planElfDependency (onePageLibrary 0x100000) .x86_64 = .ok (onePagePlan 0x100000) ∧
      (loadElfCompanion mapper 0 .x86_64 hostHeader 0x47fffff00000
        (onePageLibrary 0x100000) .empty (bootLoad 16)).1.isOk ∧
      mapper.lookup (loadElfCompanion mapper 0 .x86_64 hostHeader 0x47fffff00000
        (onePageLibrary 0x100000) .empty (bootLoad 16)).2.space
        (stackBottom hostHeader.userStackTop) = some (0x1000, ⟨false, true, true⟩) ∧
      0x47fffff00000 + (onePagePlan 0x100000).span ≤ stackBottom hostHeader.userStackTop ∧
      (handleTaskLoadLibrary mapper 0 (onePageLibrary 0x100000) (newTask 16)).1 = .ok 1 ∧
      (handleTaskLoadLibrary mapper 0 (onePageLibrary 0x100000)
        (newTask 16)).2.nextMappingBase = firstSharedMappingBase + 0x1000 ∧
      mapper.lookup (handleTaskLoadLibrary mapper 0 (onePageLibrary 0x100000)
        (newTask 16)).2.load.space (firstSharedMappingBase + 0x100000) =
        some (0x1000, ⟨false, true, true⟩) := by
  exact ⟨parse_hostImage, by decide +kernel, by decide +kernel⟩

end ServiceOS.User
