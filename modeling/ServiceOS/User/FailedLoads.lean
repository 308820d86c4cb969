import ServiceOS.Memory.AddressSpaces
import ServiceOS.User.Growth
import ServiceOS.User.Staging

/-! # What a failed load leaves behind

A failed staging frees the segments it has finished. A failed preparation of an
address space frees nothing. -/

namespace ServiceOS.Memory

open EarlyFrameAllocator List

/-! ## Frames that come back -/

/-- Every free of the list is safe and recorded when its turn comes. -/
def Releases : FrameSystem → List Nat → Prop
  | _, [] => True
  | frames, frame :: order =>
    FreeSafe frames.allocator.reclaimed frame ∧
      (frames.allocator.free4kib (frame * pageSizeBytes)).1 = true ∧
      Releases (frames.free frame) order

instance decidableReleases :
    (frames : FrameSystem) → (order : List Nat) → Decidable (Releases frames order)
  | _, [] => .isTrue trivial
  | frames, frame :: order =>
    have := decidableReleases (frames.free frame) order
    inferInstanceAs (Decidable (_ ∧ _ ∧ _))

theorem Releases.freesSafe
    (releases : Releases frames order) : MemorySystem.FreesSafe frames order := by
  induction order generalizing frames with
  | nil => exact .nil
  | cons frame order induction => exact .cons releases.1 (induction releases.2.2)

theorem Releases.dropped
    (releases : Releases frames order) : (freeAll frames order).dropped = frames.dropped := by
  induction order generalizing frames with
  | nil => rfl
  | cons frame order induction =>
    exact (induction releases.2.2).trans (by simp [FrameSystem.free, releases.2.1])

theorem usable_freeAll (frames : FrameSystem) (order : List Nat) :
    (freeAll frames order).usable = frames.usable := by
  induction order generalizing frames with
  | nil => rfl
  | cons frame order induction => exact induction _

theorem held_freeAll (frames : FrameSystem) (order : List Nat) :
    (freeAll frames order).held = frames.held.diff order := by
  induction order generalizing frames with
  | nil => rfl
  | cons frame order induction =>
    rw [freeAll_cons, induction, diff_cons]
    rfl

/-- Frames are obtainable as before when the same ones are held and dropped. -/
theorem FrameSystem.Owned.same_obtainable {before after : FrameSystem} (owned : before.Owned)
    (later : after.Owned) (usable : after.usable = before.usable)
    (dropped : after.dropped = before.dropped)
    (held : ∀ frame, frame ∈ after.held ↔ frame ∈ before.held) (frame : Nat) :
    frame ∈ after.allocator.obtainable ↔ frame ∈ before.allocator.obtainable := by
  rw [owned.mem_obtainable, later.mem_obtainable, usable, dropped, held]

theorem Allocations.released {new : List Nat} (allocations : Allocations start new between)
    (owned : start.Owned) (all : new.Perm order) (releases : Releases between order) (frame : Nat) :
    frame ∈ (freeAll between order).allocator.obtainable ↔ frame ∈ start.allocator.obtainable := by
  rcases allocations.owned owned with ⟨middle, held⟩
  have distinct := middle.held_nodup
  rw [held] at distinct
  rcases nodup_append'.mp distinct with ⟨newDistinct, -, apart⟩
  have freed := middle.freeAll (all.nodup_iff.mp newDistinct)
    (fun frame member => held ▸ mem_append_left _ (all.mem_iff.mpr member)) releases.freesSafe
  refine owned.same_obtainable freed.1 ?_ ?_ (fun frame => ?_) frame
  · exact (usable_freeAll _ _).trans allocations.usable.1
  · exact releases.dropped.trans allocations.usable.2
  rw [held_freeAll, middle.held_nodup.mem_sdiff_iff, held, mem_append, ← all.mem_iff]
  constructor
  · rintro ⟨fresh | older, outside⟩
    · exact absurd fresh outside
    · exact older
  · exact fun older => ⟨.inr older, fun fresh => apart fresh older⟩

end ServiceOS.Memory

namespace ServiceOS.User

open Memory Word ByteString Fallible

/-! ## Staging -/

/-- Frames run out, if they do, before the first page of a segment: `free` of them
are left for the given segments. -/
def StopsBetween (base : Nat) : List ElfLoadSegment → (free : Nat) → Prop
  | [], _ => True
  | segment :: rest, free =>
    checkedAdd base segment.virtualAddress = none ∨ free = 0 ∨
      segment.pages ≤ free ∧ StopsBetween base rest (free - segment.pages)

instance decidableStopsBetween (base : Nat) :
    (loads : List ElfLoadSegment) → (free : Nat) → Decidable (StopsBetween base loads free)
  | [], _ => .isTrue trivial
  | segment :: rest, free =>
    have := decidableStopsBetween base rest (free - segment.pages)
    inferInstanceAs (Decidable (_ ∨ _ ∨ _ ∧ _))

theorem stopsBetween_zero (base : Nat) (loads : List ElfLoadSegment) :
    StopsBetween base loads 0 := by
  cases loads with
  | nil => trivial
  | cons => exact .inr (.inl rfl)

section

variable {state after : LoadState Space}

theorem fillPage_cases (call : fillPage payload index state = (outcome, after)) :
    (∃ stop, outcome = .error stop ∧ state.frames.allocate = (none, after.frames)) ∨
      ∃ frame, outcome = .ok frame.base ∧ state.frames.allocate = (some frame, after.frames) := by
  rcases granting : state.frames.allocate with ⟨_ | frame, frames⟩
  · rw [fillPage_of_refused granting] at call
    cases call
    exact .inl ⟨_, rfl, rfl⟩
  rw [fillPage_of_granted granting] at call
  cases call
  exact .inr ⟨frame, rfl, rfl⟩

/-- The page loop allocates its pages, or all that is left and less than it needs. -/
theorem stagePages_frames (owned : state.frames.Owned) (payload : Octets) (index count : Nat) :
    (stagePages payload index count).Ensures state
      (fun pages after => ∃ new, Allocations state.frames new after.frames ∧
        new.Perm (pages.map (· / pageSizeBytes)) ∧ new.length = count)
      (fun _ after => ∃ new, Allocations state.frames new after.frames ∧
        new.length = state.frames.allocator.obtainable.length ∧ new.length < count) := by
  induction count generalizing index state with
  | zero => exact ensures_pure ⟨[], .none, .nil, rfl⟩
  | succ count induction =>
    refine ensures_bind (ensures_of_cases (fun {page between} call => ?_) fun call => ?_)
    · rcases fillPage_cases call with ⟨_, failed, -⟩ | ⟨frame, answer, granted⟩
      · cases failed
      cases answer
      have first := Allocations.none.granted granted
      have counted := first.length owned
      refine ensures_bind ((induction (first.owned owned).1 (index + 1)).mono ?_ ?_)
      · rintro pages after ⟨new, allocations, all, length⟩
        refine ensures_pure ⟨_, first.trans allocations, ?_, ?_⟩
        · exact List.perm_append_comm.trans (all.cons _)
        · rw [List.length_append, length]
          rfl
      rintro _ after ⟨new, allocations, length, less⟩
      refine ⟨_, first.trans allocations, ?_, ?_⟩
      · rw [List.length_append, length, counted]
      · rw [List.length_append]
        exact Nat.add_lt_add_right less 1
    · rcases fillPage_cases call with ⟨_, -, refused⟩ | ⟨frame, answer, -⟩
      · refine ⟨[], Allocations.none.refused refused, ?_, Nat.succ_pos _⟩
        rw [owned.allocate_eq_none.mp (congrArg Prod.fst refused)]
      · cases answer

theorem stageSegment_frames (owned : state.frames.Owned) (image : Octets) (base : Nat)
    (segment : ElfLoadSegment) :
    (stageSegment image base segment).Ensures state
      (fun staged after => checkedAdd base segment.virtualAddress ≠ none ∧
        ∃ new, Allocations state.frames new after.frames ∧
          new.Perm (staged.pages.map (· / pageSizeBytes)) ∧ new.length = segment.pages)
      (fun _ after => ∃ new, Allocations state.frames new after.frames ∧
        (new = [] ∨ checkedAdd base segment.virtualAddress ≠ none ∧
          new.length = state.frames.allocator.obtainable.length ∧ new.length < segment.pages)) := by
  refine ensures_bind (ensures_lift (fun virtualStart computed => ?_) fun _ _ => ?_)
  · have placed : checkedAdd base segment.virtualAddress ≠ none := by
      rw [okOr_eq_ok.mp computed]
      exact Option.some_ne_none _
    refine ensures_bind (ensures_lift (fun payload _ => ?_) fun _ _ => ⟨[], .none, .inl rfl⟩)
    refine ensures_bind ((stagePages_frames owned payload 0 segment.pages).mono ?_ ?_)
    · exact fun pages after spec => ensures_pure ⟨placed, spec⟩
    · rintro _ after ⟨new, allocations, length, less⟩
      exact ⟨new, allocations, .inr ⟨placed, length, less⟩⟩
  · exact ⟨[], .none, .inl rfl⟩

/-- The frames of the finished segments are all that was allocated. -/
theorem stageSegments_frames {answer : Except (Stop LoadError) Unit}
    (call : stageSegments image base loads state = (answer, segments, after))
    (owned : state.frames.Owned)
    (between : StopsBetween base loads state.frames.allocator.obtainable.length) :
    ∃ new, Allocations state.frames new after.frames ∧ new.Perm (stagedFrames segments) := by
  induction loads generalizing state segments with
  | nil =>
    cases call
    exact ⟨[], .none, .nil⟩
  | cons segment rest induction =>
    have spec := stageSegment_frames owned image base segment
    rw [stageSegments] at call
    split at call
    next staging =>
      cases call
      rcases spec.stop staging with ⟨new, allocations, rfl | ⟨placed, length, less⟩⟩
      · exact ⟨[], allocations, .nil⟩
      -- Fewer frames were left than the segment has pages, so none was.
      rcases between with overflow | none | ⟨enough, -⟩
      · exact absurd overflow placed
      · rw [none] at length
        rw [List.length_eq_zero_iff.mp length] at allocations
        exact ⟨[], allocations, .nil⟩
      · omega
    next middle staging =>
      rcases later : stageSegments image base rest middle with ⟨answer', segments', after'⟩
      rw [later] at call
      cases call
      rcases spec.answer staging with ⟨placed, first, allocations, all, length⟩
      have counted := allocations.length owned
      have left : StopsBetween base rest middle.frames.allocator.obtainable.length := by
        rcases between with overflow | none | ⟨-, onwards⟩
        · exact absurd overflow placed
        · have drained : middle.frames.allocator.obtainable.length = 0 := by omega
          rw [drained]
          exact stopsBetween_zero base rest
        · rw [← counted, length, Nat.add_sub_cancel] at onwards
          exact onwards
      rcases induction later (allocations.owned owned).1 left with ⟨second, more, allLater⟩
      refine ⟨second ++ first, allocations.trans more, ?_⟩
      rw [stagedFrames, List.flatMap_cons, List.map_append]
      exact List.perm_append_comm.trans (all.append allLater)

/-- A library is staged with its failures between segments, and every frame that
comes back is recorded. -/
def StagesCleanly (machine : ElfMachine) (base : Nat) (image : Octets)
    (state : LoadState Space) : Prop :=
  match planRuntimeLibrary machine base image with
  | .error _ => True
  | .ok linked =>
    StopsBetween base linked.loads state.frames.allocator.obtainable.length ∧
      Releases (stageSegments image base linked.loads state).2.2.frames
        (stagedFrames (stageSegments image base linked.loads state).2.1)

instance (machine : ElfMachine) (base : Nat) (image : Octets) (state : LoadState Space) :
    Decidable (StagesCleanly machine base image state) :=
  match planned : planRuntimeLibrary machine base image with
  | .error _ => .isTrue (by rw [StagesCleanly, planned]; trivial)
  | .ok _ => decidable_of_iff (_ ∧ _) (by rw [StagesCleanly, planned])

theorem stageRuntimeLibrary_frames
    (owned : state.frames.Owned) (clean : StagesCleanly machine base image state) :
    (stageRuntimeLibrary machine base image).Ensures state (fun _ _ => True)
      fun _ after => ∀ frame, frame ∈ after.frames.allocator.obtainable ↔
        frame ∈ state.frames.allocator.obtainable := by
  refine ensures_bind (ensures_lift (fun linked planned => ?_) fun _ _ _ => Iff.rfl)
  rw [StagesCleanly, planned] at clean
  rcases clean with ⟨stops, releases⟩
  rcases call : stageSegments image base linked.loads state with ⟨_ | _, segments, middle⟩
  · rw [call] at releases
    simp only [Ensures, call]
    rcases stageSegments_frames call owned stops with ⟨new, allocations, all⟩
    exact allocations.released owned all releases
  · simp only [Ensures, call]

end

/-! ## Preparing an address space -/

def Allocates (before after : LoadState Space) : Prop :=
  ∃ new, Allocations before.frames new after.frames

section

variable {state after : LoadState Space}

instance : IsPreorder (LoadState Space) Allocates where
  refl _ := ⟨[], .none⟩
  trans := by
    rintro _ _ _ ⟨first, allocations⟩ ⟨second, more⟩
    exact ⟨second ++ first, allocations.trans more⟩

theorem fillPage_allocates (payload : Octets) (index : Nat) :
    (fillPage payload index : Load Space Nat).Respects Allocates := by
  intro state
  rcases call : fillPage payload index state with ⟨outcome, after⟩
  rcases fillPage_cases call with ⟨_, -, refused⟩ | ⟨frame, -, granted⟩
  · exact ⟨[], Allocations.none.refused refused⟩
  · exact ⟨_, Allocations.none.granted granted⟩

theorem mapPage_allocates (page frame : Nat) (flags : MappingFlags) :
    (mapPage mapper page frame flags).Respects Allocates := by
  intro state
  rcases call : mapper.mapPage state.space page frame flags state.frames with
    ⟨_ | answer, space, frames⟩ <;>
    simp only [mapPage, call] <;> exact mapper.mapPage_allocates call

/-- Preparing an address space gives back what it took exactly when it took nothing. -/
theorem prepareAddressSpace_frames
    {outcome : Except (Stop AddressSpacePreparationError) PreparedUserAddressSpace}
    (owned : state.frames.Owned)
    (call : prepareAddressSpace mapper fuel resolver kernel image state = (outcome, after)) :
    (∀ frame, frame ∈ after.frames.allocator.obtainable ↔
        frame ∈ state.frames.allocator.obtainable) ↔
      kernel = none ∨ state.frames.allocate.1 = none := by
  cases kernel with
  | none =>
    cases call
    exact ⟨fun _ => .inl rfl, fun _ _ => Iff.rfl⟩
  | some =>
    rcases prepareAddressSpace_cases (loadImage_respects (.of_steps fillPage_allocates
      fun _ => mapPage_allocates _) fun _ _ _ state => refl_of Allocates state) call with
      ⟨_, -, refused⟩ | ⟨root, granted, granting, new, later⟩
    · have allocations := Allocations.none.refused refused
      rcases allocations.owned owned with ⟨after', held⟩
      refine ⟨fun _ => .inr (congrArg Prod.fst refused), fun _ => ?_⟩
      exact owned.same_obtainable after' allocations.usable.1 allocations.usable.2
        fun frame => by rw [held]; rfl
    have allocations := (Allocations.none.granted granting).trans later
    rcases allocations.owned owned with ⟨after', held⟩
    have taken : root.base / pageSizeBytes ∈ state.frames.allocator.obtainable :=
      owned.allocate_obtainable (congrArg Prod.fst granting)
    refine ⟨fun same => ?_, ?_⟩
    · have stillHeld : root.base / pageSizeBytes ∈ after.frames.held := by
        rw [held]
        exact List.mem_append_left _ (List.mem_append_right _ List.mem_cons_self)
      exact absurd stillHeld ((after'.mem_obtainable _).mp ((same _).mpr taken)).2.1
    rintro (absent | refused)
    · cases absent
    · rw [granting] at refused
      cases refused

end

/-- A failed load leaves the free frames as they were: preparing an address space
when it fails before there is a root table, and only then; staging a library when
it fails between two segments and what it frees is recorded. -/
theorem failed_load_leaks_nothing (mapper : UserPageMapper Space) (state : LoadState Space)
    (owned : state.frames.Owned) :
    (∀ fuel resolver kernel image stop after,
      prepareAddressSpace mapper fuel resolver kernel image state = (.error stop, after) →
      ((∀ frame, frame ∈ after.frames.allocator.obtainable ↔
          frame ∈ state.frames.allocator.obtainable) ↔
        kernel = none ∨ state.frames.allocate.1 = none)) ∧
    ∀ machine base image stop after,
      stageRuntimeLibrary machine base image state = (.error stop, after) →
      StagesCleanly machine base image state →
      ∀ frame, frame ∈ after.frames.allocator.obtainable ↔
        frame ∈ state.frames.allocator.obtainable :=
  ⟨fun _ _ _ _ _ _ => prepareAddressSpace_frames owned,
    fun _ _ _ _ _ call clean => (stageRuntimeLibrary_frames owned clean).stop call⟩

theorem bootLoad_owned : (bootLoad 1).frames.Owned :=
  FrameSystem.boot_owned ⟨by decide, by simp⟩ rfl

def firstLibraryBase : Nat := 0x600000000000

def twoSegments (first second : Nat) : Octets :=
  encodeLibrary [⟨5, 0, 0, 176, first * pageSizeBytes⟩,
    ⟨6, 0, first * pageSizeBytes, 176, second * pageSizeBytes⟩]

def stageTwo (first second : Nat) :
    Except (Stop LoadError) StagedRuntimeLibrary × LoadState FourLevel.Space :=
  stageRuntimeLibrary .x86_64 firstLibraryBase (twoSegments first second) (bootLoad 1)

theorem stageTwo_one_one : stageTwo 1 1 = (.error (.error .frameExhausted), (stageTwo 1 1).2) := by
  have failed : (stageTwo 1 1).1 = .error (.error .frameExhausted) := by decide +kernel
  rw [← failed]

/-- With one frame left, the first segment is staged and given back. -/
theorem failed_load_leaks_nothing_between_segments :
    (stageTwo 1 1).1 = .error (.error .frameExhausted) ∧
      (1 ∈ (stageTwo 1 1).2.frames.allocator.obtainable ↔
        1 ∈ (bootLoad 1).frames.allocator.obtainable) :=
  ⟨congrArg Prod.fst stageTwo_one_one,
    (failed_load_leaks_nothing FourLevel.mapper (bootLoad 1) bootLoad_owned).2 .x86_64
      firstLibraryBase (twoSegments 1 1) (.error .frameExhausted) (stageTwo 1 1).2
      stageTwo_one_one (by decide +kernel) 1⟩

/-- An image of no known format costs the root table its frame, and a segment that
is cut short costs the frames it has. -/
theorem failed_load_leaks :
    (bootLoad 1).frames.Owned ∧ 1 ∈ (bootLoad 1).frames.allocator.obtainable ∧
      (prepareAddressSpace FourLevel.mapper 0 none (some (bootLoad 1).space) [] (bootLoad 1)).1 =
        .error (.error (.load .unsupportedFormat)) ∧
      1 ∉ (prepareAddressSpace FourLevel.mapper 0 none (some (bootLoad 1).space) []
        (bootLoad 1)).2.frames.allocator.obtainable ∧
      (stageTwo 2 1).1 = .error (.error .frameExhausted) ∧
      1 ∉ (stageTwo 2 1).2.frames.allocator.obtainable := by
  refine ⟨bootLoad_owned, ?_⟩
  decide +kernel

end ServiceOS.User
