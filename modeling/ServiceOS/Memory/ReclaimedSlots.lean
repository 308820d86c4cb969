import ServiceOS.Memory.FrameOwnership

/-! # Slots of the reclaimed pool

A region whose last frame was handed out keeps its slot. As long as no allocation takes the last
frame of a region, a freed frame is dropped only when every slot has a frame to give. -/

namespace ServiceOS.Memory

open Execution EarlyFrameAllocator List

def FrameRegionCursor.Serves (region : FrameRegionCursor) : Prop :=
  region.startFrame ≤ region.nextFrame ∧ region.nextFrame < region.endFrameExclusive

section

variable {pool : List FrameRegionCursor} (serves : ∀ region ∈ pool, region.Serves)

include serves

theorem absorb_serves : ∀ region ∈ absorb pool left, region.Serves := by
  rw [absorb]
  split
  next first right found follows =>
    split
    next contiguous =>
      intro region member
      have firstServes := serves first (mem_of_getElem? found)
      have rightServes := serves right (mem_of_getElem? follows)
      rcases mem_or_eq_of_mem_set (mem_of_mem_eraseIdx member) with older | rfl
      · exact serves region older
      refine ⟨firstServes.1, Nat.lt_trans firstServes.2 ?_⟩
      rw [contiguous]
      exact Nat.lt_of_le_of_lt rightServes.1 rightServes.2
    · exact serves
  · exact serves

theorem modify_serves {after : List FrameRegionCursor}
    {change : FrameRegionCursor → FrameRegionCursor} (split : pool = before ++ region :: after)
    (changed : (change region).Serves) :
    ∀ other ∈ pool.modify (0 + before.length) change, other.Serves := by
  subst split
  rw [Nat.zero_add, modify_append_cons]
  simp only [forall_mem_append, forall_mem_cons] at serves ⊢
  exact ⟨serves.1, changed, serves.2.2⟩

end

namespace FrameSystem

def PoolServes (system : FrameSystem) : Prop :=
  ∀ region ∈ system.allocator.reclaimed, region.Serves

/-- An allocation is not served with the last frame of a reclaimed region. -/
def Spares (system : FrameSystem) : FrameAction → Prop
  | .allocate => ∀ region ∈ system.allocator.reclaimed.find?
      (fun region => region.nextFrame < region.endFrameExclusive),
      region.nextFrame + 1 < region.endFrameExclusive
  | .free _ | .reclaim _ => True

instance (system : FrameSystem) : (action : FrameAction) → Decidable (system.Spares action)
  | .allocate => inferInstanceAs (Decidable (∀ region ∈ (_ : Option FrameRegionCursor), _))
  | .free _ | .reclaim _ => .isTrue trivial

variable {system next : FrameSystem}

theorem PoolServes.allocate (serves : system.PoolServes) (spares : system.Spares .allocate) :
    system.allocate.2.PoolServes := by
  rcases call : takeFrame system.allocator.reclaimed with ⟨passed, taken⟩
  simp only [FrameSystem.allocate, allocate4kib, call]
  rcases takeFrame_cases call with ⟨rfl, -⟩ |
    ⟨before, region, after, split, -, exhausted, available, rfl⟩
  · rcases takeFrame (system.allocator.regions.drop system.allocator.activeRegion) with
      ⟨passed, _ | ⟨frame, regions⟩⟩
    · exact serves
    · exact serves
  rw [PoolServes, split] at serves
  rw [Spares, split] at spares
  cases before with
  | nil =>
    rcases forall_mem_cons.mp serves with ⟨here, others⟩
    have further := spares region (find?_cons_of_pos (decide_eq_true available))
    exact forall_mem_cons.mpr ⟨⟨Nat.le_succ_of_le here.1, further⟩, others⟩
  | cons first =>
    have here := serves first mem_cons_self
    simp [FrameRegionCursor.frames] at exhausted
    exact absurd here.2 (by omega)

theorem PoolServes.free (serves : system.PoolServes) (frame : Nat) :
    (system.free frame).PoolServes ∧
      ((system.free frame).allocator.droppedFreeFrames ≠ system.allocator.droppedFreeFrames →
        system.allocator.reclaimed.length = maxReclaimedRegions) := by
  have placed := freeSlot_placed system.allocator.reclaimed frame
  simp only [FrameSystem.free, free4kib, page_aligned, page_number, ne_eq, not_true_eq_false,
    if_false]
  generalize freeSlot system.allocator.reclaimed frame = slot at placed
  cases placed with
  | append before after region split =>
    have here := serves region (by simp [split])
    exact ⟨absorb_serves (modify_serves serves split ⟨here.1, Nat.lt_succ_of_lt here.2⟩),
      fun kept => absurd rfl kept⟩
  | prepend before after region split =>
    have here := serves region (by simp [split])
    have grown := @modify_serves _ serves _ _ _ (fun region =>
      { region with startFrame := frame, nextFrame := frame }) split ⟨Nat.le_refl _, by
        dsimp only
        have := here.2
        omega⟩
    refine ⟨?_, fun kept => absurd rfl kept⟩
    dsimp only [PoolServes]
    rw [absorbLeft]
    split
    · exact absorb_serves grown
    · exact grown
  | insert =>
    dsimp only
    split
    next full => exact ⟨serves, fun _ => full⟩
    refine ⟨fun region member => ?_, fun kept => absurd rfl kept⟩
    rcases eq_or_mem_of_mem_insertIdx member with rfl | older
    · exact ⟨Nat.le_refl _, Nat.lt_succ_self _⟩
    · exact serves region older

theorem PoolServes.step (taken : system.step action = some next) (spares : system.Spares action)
    (serves : system.PoolServes) : next.PoolServes := by
  cases action with
  | allocate =>
    cases taken
    exact serves.allocate spares
  | free frame =>
    rcases Option.ite_none_right_eq_some.mp taken with ⟨-, taken⟩
    cases taken
    exact (serves.free frame).1
  | reclaim =>
    cases taken
    rw [FrameSystem.reclaim, reclaimBootServices]
    split
    · exact serves
    · exact serves

/-- In every run in which no allocation takes the last frame of a reclaimed region, a freed frame
is dropped only if every slot of the pool has a region with a frame to give. -/
theorem frames_dropped_when_pool_serves {memoryRegions : List BootMemoryRegion}
    {allocator : EarlyFrameAllocator} {actions : List FrameAction}
    (made : fromBootContext memoryRegions = .ok allocator)
    (execution : run step (boot memoryRegions allocator) actions = some system)
    (spares : EveryStep step Spares (boot memoryRegions allocator) actions) (frame : Nat) :
    (system.free frame).allocator.droppedFreeFrames = system.allocator.droppedFreeFrames ∨
      system.allocator.reclaimed.length = maxReclaimedRegions ∧
        ∀ region ∈ system.allocator.reclaimed, region.nextFrame < region.endFrameExclusive := by
  have initial : (boot memoryRegions allocator).PoolServes := by
    rw [fromBootContext] at made
    split at made <;> cases made
    exact forall_mem_nil _
  have serves : system.PoolServes :=
    everyStep_preserves PoolServes Spares PoolServes.step execution spares initial
  apply Decidable.or_iff_not_imp_left.mpr
  intro dropped
  exact ⟨(serves.free frame).2 dropped, fun region member => (serves region member).2⟩

def freedTwo : List FrameAction :=
  [.allocate, .allocate, .allocate, .free 1, .free 2, .allocate]

theorem frames_dropped_when_pool_serves_of_freed_two :
    ∃ system, run step (boot sixFrames sixFramesAllocator) freedTwo = some system ∧
      ((system.free 3).allocator.droppedFreeFrames = system.allocator.droppedFreeFrames ∨
        system.allocator.reclaimed.length = maxReclaimedRegions ∧
          ∀ region ∈ system.allocator.reclaimed, region.nextFrame < region.endFrameExclusive) :=
  ⟨_, rfl, frames_dropped_when_pool_serves rfl
    (rfl : run step (boot sixFrames sixFramesAllocator) freedTwo = some _) (by decide) 3⟩

/-! ## A slot that is not used again -/

/-- Regions of one frame with an even number. No frame with an even number is next to one. -/
def EvenSingles (pool : List FrameRegionCursor) : Prop :=
  ∀ region ∈ pool, region.startFrame % 2 = 0 ∧ region.endFrameExclusive = region.startFrame + 1

/-- A frame with an even number needs a slot of its own. -/
theorem EvenSingles.free (singles : EvenSingles system.allocator.reclaimed) (even : frame % 2 = 0) :
    ∃ index ≤ system.allocator.reclaimed.length, (system.free frame).allocator =
      if system.allocator.reclaimed.length = maxReclaimedRegions then
        { system.allocator with
          droppedFreeFrames := system.allocator.droppedFreeFrames + 1 }
      else
        { system.allocator with
          reclaimed := system.allocator.reclaimed.insertIdx index ⟨frame, frame + 1, frame⟩
          freedFramesRecorded := system.allocator.freedFramesRecorded + 1 } := by
  have placed := freeSlot_placed system.allocator.reclaimed frame
  simp only [FrameSystem.free, free4kib, page_aligned, page_number, ne_eq, not_true_eq_false,
    if_false]
  generalize freeSlot system.allocator.reclaimed frame = slot at placed
  cases placed with
  | append before after region split ends | prepend before after region split starts fresh apart =>
    have here := singles region (by simp [split])
    omega
  | insert index =>
    refine ⟨index, by omega, ?_⟩
    dsimp only
    split <;> rfl

def manyFrames : List BootMemoryRegion := [⟨0x1000, 0x204000, .usable⟩]

def manyFramesAllocator : EarlyFrameAllocator := ⟨[⟨1, 0x204, 1⟩], 0, 0, 0, [], 0, 0⟩

def scatter (count : Nat) : List FrameAction :=
  replicate 514 .allocate ++ (range count).map fun index => .free (2 * index + 2)

/-- Frames with even numbers have come back, each to a slot of its own. -/
structure Scattered (count : Nat) (system : FrameSystem) : Prop where
  serves : system.PoolServes
  singles : EvenSingles system.allocator.reclaimed
  slots : system.allocator.reclaimed.length = count
  held : ∀ frame, 2 * count < frame → frame ≤ 514 → frame ∈ system.held

theorem Scattered.free {count : Nat} (scattered : Scattered count system)
    (room : count < maxReclaimedRegions) : Scattered (count + 1) (system.free (2 * count + 2)) := by
  have even : (2 * count + 2) % 2 = 0 := by omega
  rcases scattered.singles.free even with ⟨index, within, freed⟩
  rw [if_neg (by rw [scattered.slots]; omega)] at freed
  refine ⟨(scattered.serves.free _).1, ?_, ?_, fun frame later known => ?_⟩
  · rw [freed]
    intro region member
    rcases eq_or_mem_of_mem_insertIdx member with rfl | older
    · exact ⟨even, rfl⟩
    · exact scattered.singles region older
  · rw [freed, ← scattered.slots]
    exact length_insertIdx_of_le_length within _
  · apply (mem_erase_of_ne (by omega)).mpr
    exact scattered.held frame (by omega) known

theorem run_scatter {count : Nat} (room : count ≤ maxReclaimedRegions) :
    ∃ system, run step (boot manyFrames manyFramesAllocator) (scatter count) = some system ∧
      Scattered count system := by
  induction count with
  | zero =>
    have outcome : (run step (boot manyFrames manyFramesAllocator) (scatter 0)).map (fun system =>
        (system.held, system.allocator.reclaimed)) = some ((range' 1 514).reverse, []) := by
      decide +kernel
    rcases Option.map_eq_some_iff.mp outcome with ⟨system, reached, seen⟩
    rcases Prod.mk.inj seen with ⟨held, empty⟩
    refine ⟨system, reached, ?_, ?_, by rw [empty]; rfl, fun frame first last => ?_⟩
    · rw [PoolServes, empty]
      exact nofun
    · rw [empty]
      exact nofun
    · rw [held, mem_reverse, mem_range'_1]
      omega
  | succ count induction =>
    rcases induction (Nat.le_of_succ_le room) with ⟨system, reached, scattered⟩
    have held := scattered.held (2 * count + 2) (by omega) (by
      rw [maxReclaimedRegions] at room
      omega)
    refine ⟨_, ?_, scattered.free room⟩
    rw [scatter, range_succ, map_append, ← append_assoc, run_append]
    change (run step _ (scatter count)).bind _ = _
    rw [reached]
    simp [run, step, held]

/-- The pool is filled with regions of one frame, and an allocation empties the first of them.
Its slot is not used again, and the next frame to come back is dropped. -/
theorem frame_dropped_beside_empty_slot :
    ∃ allocator system, fromBootContext manyFrames = .ok allocator ∧
      run step (boot manyFrames allocator) (scatter 256 ++ [.allocate]) = some system ∧
      514 ∈ system.held ∧
      (∃ region ∈ system.allocator.reclaimed, region.nextFrame = region.endFrameExclusive) ∧
      (system.free 514).allocator.droppedFreeFrames = system.allocator.droppedFreeFrames + 1 := by
  rcases run_scatter (Nat.le_refl 256) with ⟨full, reached, ⟨serves, singles, slots, held⟩⟩
  cases pool : full.allocator.reclaimed with
  | nil =>
    rw [pool] at slots
    cases slots
  | cons region others =>
    have here := serves region (by rw [pool]; exact mem_cons_self)
    rw [pool] at singles slots
    rcases forall_mem_cons.mp singles with ⟨single, apart⟩
    have emptied : full.allocate.2.allocator.reclaimed =
          { region with nextFrame := region.nextFrame + 1 } :: others ∧
        514 ∈ full.allocate.2.held := by
      simp [FrameSystem.allocate, allocate4kib, pool, takeFrame, here.2, held]
    have still : EvenSingles full.allocate.2.allocator.reclaimed := by
      rw [emptied.1]
      exact forall_mem_cons.mpr ⟨single, apart⟩
    rcases still.free (rfl : 514 % 2 = 0) with ⟨_, _, dropped⟩
    rw [if_pos (by rw [emptied.1]; exact slots)] at dropped
    refine ⟨manyFramesAllocator, full.allocate.2, rfl, ?_, emptied.2, ?_, by rw [dropped]⟩
    · rw [run_append, reached]
      rfl
    rw [FrameRegionCursor.Serves] at here
    rw [emptied.1]
    exact ⟨_, mem_cons_self, by dsimp only; omega⟩

end FrameSystem
end ServiceOS.Memory
