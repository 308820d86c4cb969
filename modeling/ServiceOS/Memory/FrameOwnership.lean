import ServiceOS.Foundation.Execution
import ServiceOS.Memory.Phys

/-! # Who owns a frame

Every usable frame is obtainable from the allocator, held by a caller, or
dropped, and only one of these. Freeing keeps this as long as it does not fold
in a neighbour that has already handed out frames. -/

namespace ServiceOS.Memory

open Execution List EarlyFrameAllocator

/-! ## Frames of a list of regions -/

variable (region : FrameRegionCursor)

def FrameRegionCursor.WellFormed : Prop :=
  region.startFrame ≤ region.nextFrame ∧ region.nextFrame ≤ region.endFrameExclusive

def FrameRegionCursor.frames : List Nat :=
  range' region.nextFrame (region.endFrameExclusive - region.nextFrame)

open FrameRegionCursor (frames)

def framesOf (regions : List FrameRegionCursor) : List Nat :=
  regions.flatMap frames

@[simp] theorem framesOf_nil : framesOf [] = [] := rfl

@[simp] theorem framesOf_cons (rest : List FrameRegionCursor) :
    framesOf (region :: rest) = region.frames ++ framesOf rest := rfl

@[simp] theorem framesOf_append (first second : List FrameRegionCursor) :
    framesOf (first ++ second) = framesOf first ++ framesOf second :=
  flatMap_append

theorem length_framesOf (regions : List FrameRegionCursor) :
    (framesOf regions).length = available regions := by
  simp [framesOf, frames, available, length_flatMap]

variable {allocator : EarlyFrameAllocator} {frame : Nat}

namespace EarlyFrameAllocator

def obtainable (allocator : EarlyFrameAllocator) : List Nat :=
  framesOf allocator.regions ++ framesOf allocator.reclaimed

theorem length_obtainable (allocator : EarlyFrameAllocator) :
    allocator.obtainable.length = allocator.usableHeadroomFrames := by
  rw [obtainable, length_append, length_framesOf, length_framesOf]
  rfl

/-! ## Taking a frame -/

variable {regions after before : List FrameRegionCursor} {region : FrameRegionCursor}

theorem takeFrame_cases (call : takeFrame regions = (passed, taken)) :
    (taken = none ∧ passed = regions.length ∧ framesOf regions = []) ∨
      (∃ before region after, regions = before ++ region :: after ∧ passed = before.length ∧
        framesOf before = [] ∧ region.nextFrame < region.endFrameExclusive ∧
        taken = some (region.nextFrame,
          before ++ { region with nextFrame := region.nextFrame + 1 } :: after)) := by
  induction regions generalizing passed taken with
  | nil =>
    cases call
    exact .inl ⟨rfl, rfl, rfl⟩
  | cons region rest induction =>
    rw [takeFrame] at call
    split at call
    next available =>
      cases call
      exact .inr ⟨[], region, rest, rfl, rfl, rfl, available, rfl⟩
    rename_i exhausted
    have none_left : region.frames = [] := by
      simp [frames, Nat.sub_eq_zero_of_le (Nat.le_of_not_lt exhausted)]
    rcases inner : takeFrame rest with ⟨innerPassed, innerTaken⟩
    rw [inner] at call
    cases call
    rcases induction inner with ⟨rfl, rfl, empty⟩ |
      ⟨before, found, after, rfl, rfl, empty, available, rfl⟩
    · exact .inl ⟨rfl, rfl, by simp [none_left, empty]⟩
    · exact .inr ⟨region :: before, found, after, rfl, rfl, by simp [none_left, empty],
        available, rfl⟩

theorem frames_advance (available : region.nextFrame < region.endFrameExclusive) :
    region.frames = region.nextFrame ::
      frames { region with nextFrame := region.nextFrame + 1 } := by
  rw [frames, frames, ← range'_succ]
  congr 1
  dsimp only
  omega

/-! ## Placing a freed frame -/

/-- What the scan of a pool has found, `offset` regions in. -/
inductive Placed (frame offset : Nat) (regions : List FrameRegionCursor) : FreeSlot → Prop
  | append (before after : List FrameRegionCursor) (region : FrameRegionCursor)
      (split : regions = before ++ region :: after)
      (ends : region.endFrameExclusive = frame) :
      Placed frame offset regions (.append (offset + before.length))
  | prepend (before after : List FrameRegionCursor) (region : FrameRegionCursor)
      (split : regions = before ++ region :: after)
      (starts : region.startFrame = frame + 1) (fresh : region.nextFrame = region.startFrame)
      (apart : ∀ earlier ∈ before, earlier.endFrameExclusive ≠ frame) :
      Placed frame offset regions (.prepend (offset + before.length))
  | insert (index : Nat) (within : index ≤ offset + regions.length) :
      Placed frame offset regions (.insert index)

theorem Placed.cons {offset : Nat} (placed : Placed frame (offset + 1) regions slot)
    (apart : region.endFrameExclusive ≠ frame) : Placed frame offset (region :: regions) slot := by
  cases placed with
  | append before after found split ends =>
    rw [Nat.add_assoc, Nat.add_comm 1]
    exact .append (region :: before) after found (by rw [split]; rfl) ends
  | prepend before after found split starts fresh earlier =>
    rw [Nat.add_assoc, Nat.add_comm 1]
    exact .prepend (region :: before) after found (by rw [split]; rfl) starts fresh
      (forall_mem_cons.mpr ⟨apart, earlier⟩)
  | insert index => exact .insert index (by rw [length_cons]; omega)

theorem scanReclaimed_placed (frame count : Nat) (index insertAt : Nat) (bound : insertAt ≤ count)
    (position : index + regions.length = count) :
    Placed frame index regions (scanReclaimed frame count regions index insertAt) := by
  induction regions generalizing index insertAt with
  | nil => exact .insert insertAt (by rw [position]; exact bound)
  | cons region rest induction =>
    rw [length_cons] at position
    rw [scanReclaimed]
    split
    next ends => exact .append [] rest region rfl ends
    rename_i apart
    split
    next starts => exact .prepend [] rest region rfl starts.1 starts.2 nofun
    split
    · exact (induction (index + 1) index (by omega) (by omega)).cons apart
    · exact (induction (index + 1) insertAt bound (by omega)).cons apart

theorem freeSlot_placed (reclaimed : List FrameRegionCursor) (frame : Nat) :
    Placed frame 0 reclaimed (freeSlot reclaimed frame) :=
  scanReclaimed_placed frame _ 0 _ (Nat.le_refl _) (Nat.zero_add _)

/-- Folding in a right neighbour loses track of what it handed out, so it must
not have handed out anything. -/
def FreeSafe (reclaimed : List FrameRegionCursor) (frame : Nat) : Prop :=
  match freeSlot reclaimed frame with
  | .append index =>
    ∀ right ∈ reclaimed[index + 1]?, right.startFrame = frame + 1 →
      right.nextFrame = right.startFrame
  | _ => True

instance (reclaimed : List FrameRegionCursor) (frame : Nat) :
    Decidable (FreeSafe reclaimed frame) := by
  unfold FreeSafe
  split <;> infer_instance

theorem frames_extend (wellFormed : region.WellFormed) :
    frames
        { region with endFrameExclusive := region.endFrameExclusive + 1 } =
      region.frames ++ [region.endFrameExclusive] := by
  have bound := wellFormed.2
  simp only [frames, Nat.succ_sub bound, range'_concat]
  congr 2
  omega

theorem frames_fold {right : FrameRegionCursor} (wellFormed : region.WellFormed)
    (rightWellFormed : right.WellFormed) (contiguous : region.endFrameExclusive = right.startFrame)
    (fresh : right.nextFrame = right.startFrame) :
    frames { region with endFrameExclusive := right.endFrameExclusive } =
      region.frames ++ right.frames := by
  rcases wellFormed with ⟨-, bound⟩
  rcases rightWellFormed with ⟨-, rightBound⟩
  have follows : right.nextFrame =
      region.nextFrame + (region.endFrameExclusive - region.nextFrame) := by omega
  rw [frames, frames, frames, follows, range'_append_1]
  dsimp only
  congr 1
  omega

theorem absorb_pair (before : List FrameRegionCursor) (region right : FrameRegionCursor)
    (after : List FrameRegionCursor) :
    absorb (before ++ region :: right :: after) before.length =
      if region.endFrameExclusive = right.startFrame then
        before ++ { region with endFrameExclusive := right.endFrameExclusive } :: after
      else
        before ++ region :: right :: after := by
  simp [absorb, eraseIdx_append_of_length_le]

/-- A pool that has taken in `frame` and nothing else. -/
structure TakesIn (frame : Nat) (pool grown : List FrameRegionCursor) : Prop where
  frames_perm : (framesOf grown).Perm (frame :: framesOf pool)
  wellFormed : ∀ region ∈ grown, region.WellFormed

section

variable {before after : List FrameRegionCursor}

theorem takesIn_middle (stretch grown : List FrameRegionCursor)
    (wellFormed : ∀ other ∈ before ++ (stretch ++ after), other.WellFormed)
    (grownWellFormed : ∀ other ∈ grown, other.WellFormed)
    (perm : (framesOf grown).Perm (frame :: framesOf stretch)) :
    TakesIn frame (before ++ (stretch ++ after)) (before ++ (grown ++ after)) where
  frames_perm := by
    simp only [framesOf_append]
    apply ((perm.append_right _).append_left _).trans
    exact perm_middle
  wellFormed := by
    simp only [forall_mem_append] at wellFormed ⊢
    exact ⟨wellFormed.1, grownWellFormed, wellFormed.2.2⟩

section

variable (wellFormed : ∀ other ∈ before ++ region :: after, other.WellFormed)

include wellFormed

theorem takesIn_append (ends : region.endFrameExclusive = frame)
    (safe : ∀ right ∈ after.head?, right.startFrame = frame + 1 →
      right.nextFrame = right.startFrame) :
    TakesIn frame (before ++ region :: after)
      (absorbRight (before ++
        { region with endFrameExclusive := region.endFrameExclusive + 1 } :: after)
        before.length) := by
  subst ends
  have here : region.WellFormed := wellFormed region (by simp)
  have extended : FrameRegionCursor.WellFormed
      { region with endFrameExclusive := region.endFrameExclusive + 1 } :=
    ⟨here.1, Nat.le_succ_of_le here.2⟩
  have grown := frames_extend here
  have alone : TakesIn region.endFrameExclusive (before ++ region :: after)
      (before ++ { region with endFrameExclusive := region.endFrameExclusive + 1 } :: after) := by
    refine takesIn_middle [region] [_] wellFormed
      (forall_mem_singleton.mpr extended) ?_
    simp [grown]
  cases after with
  | nil =>
    simpa [absorbRight, absorb] using alone
  | cons right =>
    rw [absorbRight, absorb_pair]
    split
    next contiguous =>
      have rightWellFormed : right.WellFormed := wellFormed right (by simp)
      have fresh := safe right rfl contiguous.symm
      have folded := frames_fold extended rightWellFormed contiguous fresh
      refine takesIn_middle [region, right] [_] wellFormed
        (forall_mem_singleton.mpr ⟨here.1, ?_⟩) ?_
      · have bound := extended.2
        have rightEnd := rightWellFormed.2
        dsimp only at contiguous bound ⊢
        omega
      simp only [framesOf_cons, framesOf_nil, folded, grown, append_nil,
        append_assoc, singleton_append]
      exact perm_middle
    · exact alone

theorem takesIn_prepend
    (starts : region.startFrame = frame + 1) (fresh : region.nextFrame = region.startFrame)
    (apart : ∀ earlier ∈ before, earlier.endFrameExclusive ≠ frame) :
    TakesIn frame (before ++ region :: after)
      (absorbLeft (before ++ { region with startFrame := frame, nextFrame := frame } :: after)
        before.length) := by
  have bound := (wellFormed region (by simp)).2
  have grown : frames { region with startFrame := frame, nextFrame := frame } =
      frame :: region.frames := by
    have count : region.endFrameExclusive - frame =
        region.endFrameExclusive - region.nextFrame + 1 := by omega
    simp only [frames, count, range'_succ]
    rw [fresh, starts]
  have alone : TakesIn frame (before ++ region :: after)
      (before ++ { region with startFrame := frame, nextFrame := frame } :: after) := by
    refine takesIn_middle [region] [_] wellFormed
      (forall_mem_singleton.mpr ⟨Nat.le_refl _, ?_⟩) ?_
    · dsimp only
      omega
    · simp [grown]
  -- A left neighbour that ends at `frame` would have been extended instead.
  rcases eq_nil_or_concat before with rfl | ⟨earlier, last, rfl⟩
  · exact alone
  · have distinct := apart last (by simp)
    simpa [absorbLeft, absorb_pair, distinct] using alone

end

theorem takesIn_insert (wellFormed : ∀ other ∈ pool, other.WellFormed)
    (within : index ≤ pool.length) :
    TakesIn frame pool (pool.insertIdx index ⟨frame, frame + 1, frame⟩) := by
  have reordered := perm_insertIdx ⟨frame, frame + 1, frame⟩ pool within
  refine ⟨?_, ?_⟩
  · have single : frames ⟨frame, frame + 1, frame⟩ = [frame] := by
      simp [frames]
    simpa [framesOf, single] using reordered.flatMap_right frames
  intro other member
  rcases mem_cons.mp (reordered.mem_iff.mp member) with rfl | older
  · exact ⟨Nat.le_refl _, Nat.le_succ _⟩
  · exact wellFormed other older

end

theorem modify_append_cons (before after : List FrameRegionCursor) (region : FrameRegionCursor)
    (change : FrameRegionCursor → FrameRegionCursor) :
    (before ++ region :: after).modify before.length change = before ++ change region :: after := by
  induction before with
  | nil => rfl
  | cons first before induction => exact congrArg (first :: ·) induction

theorem page_aligned (frame : Nat) : frame * pageSizeBytes % pageSizeBytes = 0 :=
  Nat.mul_mod_left ..

theorem page_number (frame : Nat) : frame * pageSizeBytes / pageSizeBytes = frame :=
  Nat.mul_div_cancel _ (by decide)

theorem free4kib_cases (wellFormed : ∀ region ∈ allocator.reclaimed, region.WellFormed)
    (safe : FreeSafe allocator.reclaimed frame) :
    (∃ reclaimed, TakesIn frame allocator.reclaimed reclaimed ∧
        allocator.free4kib (frame * pageSizeBytes) = (true, { allocator with
          reclaimed := reclaimed
          freedFramesRecorded := allocator.freedFramesRecorded + 1 })) ∨
      allocator.free4kib (frame * pageSizeBytes) =
        (false, { allocator with droppedFreeFrames := allocator.droppedFreeFrames + 1 }) := by
  have placed := freeSlot_placed allocator.reclaimed frame
  simp only [free4kib, page_aligned, page_number, ne_eq, not_true_eq_false, if_false]
  simp only [FreeSafe] at safe
  generalize freeSlot allocator.reclaimed frame = slot at placed safe
  cases placed with
  | append before after region split ends =>
    rw [split] at wellFormed safe ⊢
    refine .inl ⟨_, ?_, rfl⟩
    rw [Nat.zero_add, modify_append_cons]
    exact takesIn_append wellFormed ends
      (by simpa [getElem?_append_right, head?_eq_getElem?] using safe)
  | prepend before after region split starts fresh apart =>
    rw [split] at wellFormed ⊢
    refine .inl ⟨_, ?_, rfl⟩
    rw [Nat.zero_add, modify_append_cons]
    exact takesIn_prepend wellFormed starts fresh apart
  | insert index within =>
    by_cases full : allocator.reclaimed.length = maxReclaimedRegions
    · exact .inr (if_pos full)
    · refine .inl ⟨_, takesIn_insert wellFormed (by simpa using within), if_neg full⟩

/-! ## The allocator's own invariant -/

structure Consistent (allocator : EarlyFrameAllocator) : Prop where
  regions_wellFormed : ∀ region ∈ allocator.regions, region.WellFormed
  reclaimed_wellFormed : ∀ region ∈ allocator.reclaimed, region.WellFormed
  regions_le : allocator.regions.length ≤ maxAllocatableRegions
  active_le : allocator.activeRegion ≤ allocator.regions.length
  /-- The regions the walk has left behind are exhausted. -/
  passed : framesOf (allocator.regions.take allocator.activeRegion) = []

theorem wellFormed_advance (wellFormed : ∀ other ∈ before ++ region :: after, other.WellFormed)
    (available : region.nextFrame < region.endFrameExclusive) :
    ∀ other ∈ before ++ { region with nextFrame := region.nextFrame + 1 } :: after,
      other.WellFormed := by
  simp only [forall_mem_append, forall_mem_cons] at wellFormed ⊢
  exact ⟨wellFormed.1, ⟨Nat.le_succ_of_le wellFormed.2.1.1, available⟩, wellFormed.2.2⟩

theorem framesOf_advance (exhausted : framesOf before = [])
    (available : region.nextFrame < region.endFrameExclusive) :
    framesOf (before ++ region :: after) = region.nextFrame ::
      framesOf (before ++ { region with nextFrame := region.nextFrame + 1 } :: after) := by
  simp [exhausted, frames_advance available]

/-- The regions from the active one on hold every fresh frame. -/
theorem Consistent.framesOf_regions (consistent : allocator.Consistent) :
    framesOf allocator.regions = framesOf (allocator.regions.drop allocator.activeRegion) := by
  conv_lhs => rw [← take_append_drop allocator.activeRegion allocator.regions]
  rw [framesOf_append, consistent.passed, nil_append]

/-- `region` is the first fresh region with a frame left, and hands one out. -/
def takeFresh (allocator : EarlyFrameAllocator) (before : List FrameRegionCursor)
    (region : FrameRegionCursor) (after : List FrameRegionCursor) : EarlyFrameAllocator :=
  { allocator with
    regions := allocator.regions.take allocator.activeRegion ++
      (before ++ { region with nextFrame := region.nextFrame + 1 } :: after)
    activeRegion := allocator.activeRegion + before.length
    allocatedFrames := allocator.allocatedFrames + 1 }

section

variable {before after : List FrameRegionCursor}

section

variable (split : allocator.regions.drop allocator.activeRegion = before ++ region :: after)

include split

variable (consistent : allocator.Consistent) (exhausted : framesOf before = [])
  (available : region.nextFrame < region.endFrameExclusive)

include consistent exhausted available

theorem Consistent.takeFresh : (allocator.takeFresh before region after).Consistent := by
  have whole : allocator.regions.take allocator.activeRegion ++ before ++ region :: after =
      allocator.regions := by
    rw [append_assoc, ← split, take_append_drop]
  have counted := congrArg length whole
  simp only [length_append, length_take_of_le consistent.active_le, length_cons] at counted
  have limit := consistent.regions_le
  refine ⟨?_, consistent.reclaimed_wellFormed, ?_, ?_, ?_⟩
  · rw [EarlyFrameAllocator.takeFresh, ← append_assoc]
    exact wellFormed_advance (by rw [whole]; exact consistent.regions_wellFormed) available
  · simp [EarlyFrameAllocator.takeFresh]
    omega
  · simp [EarlyFrameAllocator.takeFresh]
    omega
  · rw [EarlyFrameAllocator.takeFresh, take_append,
      length_take_of_le consistent.active_le]
    simp [take_take, consistent.passed, exhausted]

theorem Consistent.obtainable_takeFresh : allocator.obtainable =
      region.nextFrame :: (allocator.takeFresh before region after).obtainable := by
  rw [obtainable, consistent.framesOf_regions, split, framesOf_advance exhausted available,
    obtainable, EarlyFrameAllocator.takeFresh, framesOf_append (allocator.regions.take _),
    consistent.passed]
  rfl

end

end

/-- An allocation takes one obtainable frame away, and fails only when there is
none. -/
theorem allocate4kib_cases {after : EarlyFrameAllocator} (consistent : allocator.Consistent)
    (call : allocator.allocate4kib = (answer, after)) :
    after.Consistent ∧ after.droppedFreeFrames = allocator.droppedFreeFrames ∧
      ((answer = none ∧ allocator.obtainable = [] ∧ after.obtainable = []) ∨
        (∃ number, answer = some ⟨number * pageSizeBytes, .size4KiB⟩ ∧
          allocator.obtainable.Perm (number :: after.obtainable))) := by
  unfold allocate4kib at call
  split at call
  next taken =>
    cases call
    rcases takeFrame_cases taken with ⟨refused, -⟩ |
      ⟨before, region, rest, split, -, exhausted, available, same⟩
    · cases refused
    cases same
    have wellFormed := consistent.reclaimed_wellFormed
    rw [split] at wellFormed
    refine ⟨{ consistent with reclaimed_wellFormed := wellFormed_advance wellFormed available },
      rfl, .inr ⟨region.nextFrame, rfl, ?_⟩⟩
    rw [obtainable, split, framesOf_advance exhausted available]
    exact perm_middle
  next passed refused =>
    rcases takeFrame_cases refused with ⟨-, -, drained⟩ | ⟨_, _, _, _, _, _, _, taken⟩
    · dsimp only at call
      split at call
      next taken =>
        cases call
        rcases takeFrame_cases taken with ⟨refused, -⟩ |
          ⟨before, region, rest, split, rfl, exhausted, available, same⟩
        · cases refused
        cases same
        exact ⟨consistent.takeFresh split exhausted available, rfl, .inr ⟨region.nextFrame, rfl,
          .of_eq (consistent.obtainable_takeFresh split exhausted available)⟩⟩
      next exhausted =>
        cases call
        rcases takeFrame_cases exhausted with ⟨-, rfl, none_left⟩ | ⟨_, _, _, _, _, _, _, taken⟩
        · have whole := consistent.framesOf_regions.trans none_left
          refine ⟨{ consistent with active_le := ?_, passed := ?_ }, rfl, .inl ⟨rfl, ?_, ?_⟩⟩
          · simp [consistent.active_le]
          · simp [consistent.active_le, whole]
          · simp [obtainable, whole, drained]
          · simp [obtainable, whole, drained]
        · cases taken
    · cases taken

/-! ## Recording boot regions -/

/-- The regions of one kind as the allocator records them. -/
def bootCursors (kind : BootMemoryRegionKind) (memoryRegions : List BootMemoryRegion) :
    List FrameRegionCursor :=
  memoryRegions.filterMap fun region =>
    if region.kind = kind ∧ region.startFrame < region.endFrame then
      some ⟨region.startFrame, region.endFrame, region.startFrame⟩
    else none

theorem pushRegions_cases {frames : Nat}
    (call : pushRegions kind regions frames memoryRegions = (answer, recorded))
    (room : regions.length ≤ maxAllocatableRegions) :
    recorded = regions ++ (bootCursors kind memoryRegions).take
        (maxAllocatableRegions - regions.length) ∧
      (∀ count, answer = .ok count →
        (bootCursors kind memoryRegions).length ≤ maxAllocatableRegions - regions.length) := by
  induction memoryRegions generalizing regions frames with
  | nil =>
    cases call
    exact ⟨by simp [bootCursors], by simp [bootCursors]⟩
  | cons region memoryRegions induction =>
    rw [pushRegions] at call
    by_cases counts : region.kind = kind ∧ region.startFrame < region.endFrame
    · have first : bootCursors kind (region :: memoryRegions) =
          ⟨region.startFrame, region.endFrame, region.startFrame⟩ ::
            bootCursors kind memoryRegions :=
        filterMap_cons_some (if_pos counts)
      rw [if_neg (not_not_intro counts.1), if_neg (Nat.not_le.mpr counts.2), pushRegion] at call
      split at call
      next full =>
        split at full
        next limit =>
          cases call
          simp [limit]
        · cases full
      rename_i pushed
      split at pushed
      · cases pushed
      cases pushed
      have space : maxAllocatableRegions - regions.length =
          maxAllocatableRegions - (regions.length + 1) + 1 := by omega
      rcases induction call (by rw [length_append, length_singleton]; omega) with
        ⟨rfl, complete⟩
      rw [length_append, length_singleton] at complete ⊢
      refine ⟨?_, fun count finished => ?_⟩
      · rw [first, space, take_succ_cons, append_assoc]
        rfl
      · rw [first, space]
        exact Nat.succ_le_succ (complete count finished)
    · have skipped : bootCursors kind (region :: memoryRegions) =
          bootCursors kind memoryRegions :=
        filterMap_cons_none (if_neg counts)
      rw [skipped]
      split at call
      · exact induction call room
      rename_i same
      rw [if_pos (Nat.le_of_not_lt fun below => counts ⟨not_not.mp same, below⟩)] at call
      exact induction call room

theorem bootCursors_wellFormed : ∀ region ∈ bootCursors kind memoryRegions, region.WellFormed := by
  intro region member
  rcases mem_filterMap.mp member with ⟨source, -, recorded⟩
  rcases Option.ite_none_right_eq_some.mp recorded with ⟨⟨-, nonempty⟩, equal⟩
  cases equal
  exact ⟨Nat.le_refl _, Nat.le_of_lt nonempty⟩

theorem reclaimBootServices_cases (memoryRegions : List BootMemoryRegion)
    (room : allocator.regions.length ≤ maxAllocatableRegions) :
    ∃ count, (allocator.reclaimBootServices memoryRegions).2 = { allocator with
      regions := allocator.regions ++ (bootCursors .bootServicesReclaimable memoryRegions).take
        (maxAllocatableRegions - allocator.regions.length)
      reclaimedBootServiceFrames := count } := by
  rcases call : pushRegions .bootServicesReclaimable allocator.regions 0 memoryRegions with
    ⟨_ | frames, recorded⟩
  · have recordedAll := (pushRegions_cases call room).1
    exact ⟨allocator.reclaimedBootServiceFrames, by simp only
      [reclaimBootServices, call, recordedAll]⟩
  · have recordedAll := (pushRegions_cases call room).1
    exact ⟨_, by simp only [reclaimBootServices, call, recordedAll]; rfl⟩

end EarlyFrameAllocator

/-! ## Callers -/

/-- The allocator with what its callers hold, the frames it counted as dropped,
and every frame it was ever given. -/
structure FrameSystem where
  allocator : EarlyFrameAllocator
  held : List Nat
  dropped : List Nat
  usable : List Nat

inductive FrameAction
  | allocate
  | free (frame : Nat)
  | reclaim (memoryRegions : List BootMemoryRegion)

namespace FrameSystem

open EarlyFrameAllocator

variable (system : FrameSystem)

variable (memoryRegions : List BootMemoryRegion)

/-- The frames of the regions that still fit the table. -/
def reclaimedBy : List Nat :=
  framesOf ((bootCursors .bootServicesReclaimable memoryRegions).take
    (maxAllocatableRegions - system.allocator.regions.length))

def allocate : Option Frame × FrameSystem :=
  match system.allocator.allocate4kib with
  | (none, allocator) => (none, { system with allocator := allocator })
  | (some frame, allocator) =>
    (some frame, { system with
      allocator := allocator
      held := frame.base / pageSizeBytes :: system.held })

def free (frame : Nat) : FrameSystem :=
  match system.allocator.free4kib (frame * pageSizeBytes) with
  | (recorded, allocator) =>
    { system with
      allocator := allocator
      held := system.held.erase frame
      dropped := if recorded then system.dropped else frame :: system.dropped }

def reclaim : FrameSystem :=
  { system with
    allocator := (system.allocator.reclaimBootServices memoryRegions).2
    usable := system.reclaimedBy memoryRegions ++ system.usable }

/-- A free returns a frame that is held. -/
def step : FrameAction → Option FrameSystem
  | .allocate => some system.allocate.2
  | .free frame => if frame ∈ system.held then some (system.free frame) else none
  | .reclaim memoryRegions => some (system.reclaim memoryRegions)

/-- A free folds in no region that has handed out frames, and reclaimed regions
overlap neither each other nor a region recorded before. -/
def Safe : FrameAction → Prop
  | .allocate => True
  | .free frame => FreeSafe system.allocator.reclaimed frame
  | .reclaim memoryRegions => (system.reclaimedBy memoryRegions ++ system.usable).Nodup

instance (system : FrameSystem) (action : FrameAction) : Decidable (system.Safe action) :=
  match action with
  | .allocate => .isTrue trivial
  | .free frame => inferInstanceAs (Decidable (FreeSafe system.allocator.reclaimed frame))
  | .reclaim _ => inferInstanceAs (Decidable (List.Nodup _))

/-- Every usable frame is in exactly one place. -/
structure Owned : Prop where
  consistent : system.allocator.Consistent
  partition : (system.allocator.obtainable ++ system.held ++ system.dropped).Perm system.usable
  usable_nodup : system.usable.Nodup
  dropped_count : system.allocator.droppedFreeFrames = system.dropped.length

namespace Owned

variable {system next : FrameSystem}

section

variable (owned : system.Owned)

include owned

theorem allocate : system.allocate.2.Owned := by
  rcases call : system.allocator.allocate4kib with ⟨answer, after⟩
  rcases allocate4kib_cases owned.consistent call with
    ⟨consistent, dropped, ⟨rfl, drained, still⟩ | ⟨number, rfl, taken⟩⟩
  · have partition := owned.partition
    rw [drained] at partition
    simp only [FrameSystem.allocate, call]
    exact ⟨consistent, by rw [still]; exact partition, owned.usable_nodup,
      dropped.trans owned.dropped_count⟩
  simp only [FrameSystem.allocate, call, page_number]
  refine ⟨consistent, .trans ?_ owned.partition, owned.usable_nodup,
    dropped.trans owned.dropped_count⟩
  apply (perm_middle.append_right _).trans
  exact (taken.symm.append_right _).append_right _

theorem perm_erase (member : frame ∈ system.held) :
    (frame :: (system.allocator.obtainable ++ system.held.erase frame ++ system.dropped)).Perm
      system.usable := by
  refine .trans ?_ owned.partition
  refine .trans ?_ (((perm_cons_erase member).symm.append_left _).append_right _)
  simp only [append_assoc, cons_append]
  exact perm_middle.symm

theorem free (member : frame ∈ system.held) (safe : FreeSafe system.allocator.reclaimed frame) :
    (system.free frame).Owned := by
  rcases free4kib_cases owned.consistent.reclaimed_wellFormed safe with
    ⟨reclaimed, takesIn, call⟩ | call
  · simp only [FrameSystem.free, call]
    refine ⟨{ owned.consistent with reclaimed_wellFormed := takesIn.wellFormed },
      .trans ?_ (owned.perm_erase member), owned.usable_nodup, owned.dropped_count⟩
    have grown : (framesOf system.allocator.regions ++ framesOf reclaimed).Perm
        (frame :: system.allocator.obtainable) :=
      (takesIn.frames_perm.append_left _).trans perm_middle
    exact (grown.append_right _).append_right _
  · simp only [FrameSystem.free, call]
    refine ⟨{ owned.consistent with }, .trans ?_ (owned.perm_erase member), owned.usable_nodup, ?_⟩
    · exact perm_middle
    · simp [owned.dropped_count]

theorem reclaim {memoryRegions : List BootMemoryRegion}
    (disjoint : (system.reclaimedBy memoryRegions ++ system.usable).Nodup) :
    (system.reclaim memoryRegions).Owned := by
  have consistent := owned.consistent
  rcases reclaimBootServices_cases memoryRegions consistent.regions_le with
    ⟨count, result⟩
  simp only [FrameSystem.reclaim, result]
  refine ⟨⟨?_, consistent.reclaimed_wellFormed, ?_, ?_, ?_⟩, ?_, disjoint, owned.dropped_count⟩
  · refine forall_mem_append.mpr ⟨consistent.regions_wellFormed, fun region member => ?_⟩
    exact bootCursors_wellFormed region (mem_of_mem_take member)
  · have room := consistent.regions_le
    rw [length_append, length_take]
    omega
  · rw [length_append]
    exact Nat.le_add_right_of_le consistent.active_le
  · rw [take_append_of_le_length consistent.active_le]
    exact consistent.passed
  · refine .trans ?_ (owned.partition.append_left _)
    simp only [obtainable, reclaimedBy, framesOf_append, append_assoc]
    exact perm_append_comm_assoc ..

end

theorem step (taken : system.step action = some next) (safe : system.Safe action)
    (owned : system.Owned) : next.Owned := by
  cases action with
  | allocate =>
    cases taken
    exact owned.allocate
  | free =>
    rcases Option.ite_none_right_eq_some.mp taken with ⟨member, taken⟩
    cases taken
    exact owned.free member safe
  | reclaim =>
    cases taken
    exact owned.reclaim safe

variable (owned : system.Owned)

include owned

theorem nodup : (system.allocator.obtainable ++ (system.held ++ system.dropped)).Nodup := by
  rw [← append_assoc]
  exact owned.partition.nodup_iff.mpr owned.usable_nodup

theorem mem_obtainable (frame : Nat) : frame ∈ system.allocator.obtainable ↔
      frame ∈ system.usable ∧ frame ∉ system.held ∧ frame ∉ system.dropped := by
  have apart := (nodup_append'.mp owned.nodup).2.2
  rw [← owned.partition.mem_iff]
  simp only [mem_append]
  constructor
  · intro member
    have outside : frame ∉ system.held ++ system.dropped := apart member
    rw [mem_append, not_or] at outside
    exact ⟨.inl (.inl member), outside⟩
  rintro ⟨(member | held) | dropped, notHeld, notDropped⟩
  · exact member
  · exact absurd held notHeld
  · exact absurd dropped notDropped

theorem allocate_obtainable {frame : Frame} (answered : system.allocate.1 = some frame) :
    frame.base / pageSizeBytes ∈ system.allocator.obtainable := by
  rcases call : system.allocator.allocate4kib with ⟨answer, after⟩
  simp only [FrameSystem.allocate, call] at answered
  rcases (allocate4kib_cases owned.consistent call).2.2 with ⟨rfl, -, -⟩ | ⟨number, rfl, taken⟩
  · cases answered
  cases answered
  rw [page_number]
  exact taken.mem_iff.mpr mem_cons_self

theorem allocate_eq_none : system.allocate.1 = none ↔ system.allocator.obtainable = [] := by
  rcases call : system.allocator.allocate4kib with ⟨answer, after⟩
  rcases (allocate4kib_cases owned.consistent call).2.2 with
    ⟨rfl, drained, -⟩ | ⟨number, rfl, taken⟩
  · simp [FrameSystem.allocate, call, drained]
  have nonempty : system.allocator.obtainable ≠ [] := by
    intro drained
    rw [drained] at taken
    exact cons_ne_nil _ _ taken.symm.eq_nil
  simp [FrameSystem.allocate, call, nonempty]

end Owned

/-! ## From a boot memory map -/

/-- Usable regions are frame-aligned and share no address. -/
structure ValidBootMap : Prop where
  aligned : ∀ region ∈ memoryRegions, region.kind = .usable →
    region.start % pageSizeBytes = 0 ∧ region.endExclusive % pageSizeBytes = 0
  disjoint : (memoryRegions.filter (·.kind = .usable)).Pairwise fun first second =>
    ∀ address, ¬((first.start ≤ address ∧ address < first.endExclusive) ∧
      (second.start ≤ address ∧ address < second.endExclusive))

def boot (allocator : EarlyFrameAllocator) : FrameSystem :=
  ⟨allocator, [], [], framesOf (bootCursors .usable memoryRegions)⟩

theorem address_mem_of_frame {region : BootMemoryRegion}
    (startAligned : region.start % pageSizeBytes = 0)
    (endAligned : region.endExclusive % pageSizeBytes = 0)
    (member : frame ∈ frames ⟨region.startFrame, region.endFrame, region.startFrame⟩) :
    region.start ≤ frame * pageSizeBytes ∧ frame * pageSizeBytes < region.endExclusive := by
  simp only [frames, mem_range'_1, BootMemoryRegion.startFrame,
    BootMemoryRegion.endFrame, PhysicalAddress.alignUp, PhysicalAddress.alignDown, startAligned,
    endAligned, if_true, Nat.sub_zero] at member
  simp only [pageSizeBytes] at *
  omega

variable {memoryRegions : List BootMemoryRegion}

theorem framesOf_bootCursors_nodup (valid : ValidBootMap memoryRegions) :
    (framesOf (bootCursors .usable memoryRegions)).Nodup := by
  refine nodup_flatMap.mpr ⟨fun region _ => nodup_range', ?_⟩
  apply pairwise_filterMap.mpr
  apply (pairwise_filter.mp valid.disjoint).imp_of_mem
  intro first second firstMember secondMember apart firstCursor firstMade secondCursor secondMade
  rcases Option.ite_none_right_eq_some.mp firstMade with ⟨⟨firstUsable, -⟩, firstEqual⟩
  rcases Option.ite_none_right_eq_some.mp secondMade with ⟨⟨secondUsable, -⟩, secondEqual⟩
  cases firstEqual
  cases secondEqual
  intro frame inFirst inSecond
  rcases valid.aligned first firstMember firstUsable with ⟨firstStart, firstEnd⟩
  rcases valid.aligned second secondMember secondUsable with ⟨secondStart, secondEnd⟩
  exact apart (by simpa using firstUsable) (by simpa using secondUsable) (frame * pageSizeBytes)
    ⟨address_mem_of_frame firstStart firstEnd inFirst,
      address_mem_of_frame secondStart secondEnd inSecond⟩

theorem boot_owned
    (valid : ValidBootMap memoryRegions) (made : fromBootContext memoryRegions = .ok allocator) :
    (boot memoryRegions allocator).Owned := by
  rcases call : pushRegions .usable [] 0 memoryRegions with ⟨_ | count, regions⟩
  · simp [fromBootContext, call] at made
  rcases pushRegions_cases call (Nat.zero_le _) with ⟨recorded, complete⟩
  simp only [fromBootContext, call] at made
  cases made
  rw [take_of_length_le (complete count rfl)] at recorded
  subst recorded
  refine ⟨⟨bootCursors_wellFormed, nofun, complete count rfl, Nat.zero_le _, rfl⟩, ?_,
    framesOf_bootCursors_nodup valid, rfl⟩
  simp [boot, obtainable]

/-- In every run of allocations, frees of held frames and reclaims that stays
safe: an allocated frame is not held, the obtainable frames are the usable ones
that are neither held nor dropped, the headroom counts them, and an allocation
fails only when there are none. -/
theorem frames_owned_once {actions : List FrameAction} {system : FrameSystem}
    (valid : ValidBootMap memoryRegions) (made : fromBootContext memoryRegions = .ok allocator)
    (execution : run step (boot memoryRegions allocator) actions = some system)
    (safe : EveryStep step Safe (boot memoryRegions allocator) actions) :
    (∀ frame, system.allocate.1 = some frame → frame.base / pageSizeBytes ∉ system.held) ∧
      (∀ frame, frame ∈ system.allocator.obtainable ↔
        frame ∈ system.usable ∧ frame ∉ system.held ∧ frame ∉ system.dropped) ∧
      system.allocator.obtainable.Nodup ∧
      system.allocator.usableHeadroomFrames = system.allocator.obtainable.length ∧
      system.dropped.Nodup ∧ system.allocator.droppedFreeFrames = system.dropped.length ∧
      (system.allocate.1 = none ↔ system.allocator.obtainable = []) := by
  have owned : system.Owned :=
    everyStep_preserves Owned Safe Owned.step execution safe (boot_owned valid made)
  have separate := nodup_append'.mp owned.nodup
  have claimed := nodup_append'.mp separate.2.1
  refine ⟨?_, owned.mem_obtainable, separate.1, (length_obtainable _).symm, claimed.2.1,
    owned.dropped_count, owned.allocate_eq_none⟩
  intro frame answered
  exact ((owned.mem_obtainable _).mp (owned.allocate_obtainable answered)).2.1

def sixFrames : List BootMemoryRegion := [⟨0x1000, 0x7000, .usable⟩]

def sixFramesAllocator : EarlyFrameAllocator := ⟨[⟨1, 7, 1⟩], 0, 0, 0, [], 0, 0⟩

theorem sixFrames_valid : ValidBootMap sixFrames := ⟨by decide, by simp [sixFrames]⟩

/-- Frames freed out of order fold into one region while nothing of it is out. -/
def freedApart : List FrameAction :=
  [.allocate, .allocate, .allocate, .free 1, .free 3, .free 2, .allocate]

theorem frames_owned_once_when_folded :
    ∃ system, run step (boot sixFrames sixFramesAllocator) freedApart = some system ∧
      system.allocator.reclaimed = [⟨1, 4, 2⟩] ∧
      system.allocator.usableHeadroomFrames = system.allocator.obtainable.length :=
  ⟨_, rfl, by decide +kernel,
    (frames_owned_once sixFrames_valid rfl
      (rfl : run step (boot sixFrames sixFramesAllocator) freedApart = some _)
      (by decide +kernel)).2.2.2.1⟩

/-! ## A neighbour that has handed out frames -/

/-- Frame 4 comes back and goes out again; then 2 and 3 come back, and the
region that grows to 3 folds in the one frame 4 was served from. -/
def foldedTooEarly : List FrameAction :=
  replicate 6 .allocate ++ [.free 4, .allocate, .free 2, .free 3, .allocate, .allocate]

/-- The next allocation returns frame 4, which a caller still holds. -/
theorem held_frame_allocated :
    ∃ allocator system, ValidBootMap sixFrames ∧ fromBootContext sixFrames = .ok allocator ∧
      run step (boot sixFrames allocator) foldedTooEarly = some system ∧
      4 ∈ system.held ∧ system.allocate.1 = some ⟨4 * pageSizeBytes, .size4KiB⟩ :=
  ⟨sixFramesAllocator, _, sixFrames_valid, rfl, rfl, by decide +kernel, by decide +kernel⟩

end FrameSystem

end ServiceOS.Memory
