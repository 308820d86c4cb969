import ServiceOS.Memory.HeapOwnership

/-! # Which requests the heap serves

A request is refused only if no free region can hold it, unless the first region that can is
to be split and the table has no slot for the second part. -/

namespace ServiceOS.Memory

open Execution FreeListAllocator FreeListAllocator ShiftTable List

/-! ## The scan -/

variable {layout : Layout} {regions : RegionTable} {region : FreeRegion}
  {before after : List FreeRegion}

theorem alignUp_le (ahead : value ≤ address) (aligned : layout.align ∣ address) :
    alignUp value layout.align ≤ address := by
  have positive := layout.align_pos
  have rounded : (value + (layout.align - 1)) / layout.align ≤ address / layout.align := by
    rcases aligned with ⟨quotient, rfl⟩
    rw [Nat.mul_div_cancel_left _ positive, ← Nat.lt_succ_iff, Nat.div_lt_iff_lt_mul positive,
      Nat.succ_mul, Nat.mul_comm quotient]
    omega
  rw [alignUp_eq]
  calc (value + (layout.align - 1)) % 2 ^ 64 / layout.align * layout.align
      ≤ address / layout.align * layout.align :=
        Nat.mul_le_mul_right _ (Nat.le_trans (Nat.div_le_div_right (Nat.mod_le _ _)) rounded)
    _ = address := Nat.div_mul_cancel aligned

/-- An aligned block of the request lies in the region at this address. -/
structure FreeRegion.HoldsAt (region : FreeRegion) (layout : Layout) (address : Nat) : Prop where
  starts : region.start ≤ address
  aligned : layout.align ∣ address
  ends : address + layout.bytes ≤ region.stop

/-- No block fits behind `start` once the first aligned one there does not. -/
theorem not_holdsAt (ahead : start ≤ region.start)
    (misfit : region.stop < alignUp start layout.align + layout.bytes) :
    ¬region.HoldsAt layout address := by
  intro holds
  have first := alignUp_le (Nat.le_trans ahead holds.starts) holds.aligned
  have ends := holds.ends
  omega

/-- The scan passes over regions that cannot hold the request, and then finds one in which the
first aligned block fits or gives up for good. -/
theorem scanRegions_cases (split : regions.toList = before ++ after) (spaced : Spaced after)
    (bound : ∀ region ∈ after, region.stop < 2 ^ 64) :
    (scanRegions regions layout.align layout.bytes before.length after.length = none ∧
        ∀ region ∈ after, ∀ address, ¬region.HoldsAt layout address) ∨
      ∃ skipped region rest, after = skipped ++ region :: rest ∧
        scanRegions regions layout.align layout.bytes before.length after.length =
          some (before.length + skipped.length, alignUp region.start layout.align) ∧
        alignUp region.start layout.align + layout.bytes ≤ region.stop := by
  induction after generalizing before with
  | nil => exact .inl ⟨rfl, nofun⟩
  | cons region rest induction =>
    have here := bound region mem_cons_self
    rcases pairwise_cons.mp spaced.gaps with ⟨following, gaps⟩
    have behind : ∀ other ∈ region :: rest, region.start ≤ other.start :=
      forall_mem_cons.mpr ⟨le_rfl, fun other member => by
        have gap := following other member
        unfold FreeRegion.stop at gap
        omega⟩
    rw [length_cons, scanRegions, slots_of_split split, FreeRegion.endExclusive_eq here]
    split
    · refine .inl ⟨rfl, fun other member address => ?_⟩
      have limit := bound other member
      exact not_holdsAt (behind other member) (by omega)
    split
    next misfit =>
      have refused : ∀ address, ¬region.HoldsAt layout address := fun address =>
        not_holdsAt le_rfl misfit
      have later := @induction (before ++ [region]) (by simpa using split)
        ⟨fun other member => spaced.positive other (mem_cons_of_mem _ member), gaps⟩
        (fun other member => bound other (mem_cons_of_mem _ member))
      rw [length_append, length_singleton] at later
      rcases later with ⟨none, unserved⟩ | ⟨skipped, found, tail, rfl, scan, fits⟩
      · exact .inl ⟨none, forall_mem_cons.mpr ⟨refused, unserved⟩⟩
      · refine .inr ⟨region :: skipped, found, tail, rfl, ?_, fits⟩
        rw [scan, length_cons, Nat.add_assoc, Nat.add_comm 1]
    next fits =>
      exact .inr ⟨[], region, rest, rfl, rfl, Nat.le_of_not_lt fits⟩

/-- A block at an end of its region needs no slot, nor does any while one is free. -/
theorem splitRegion_isSome (split : regions.toList = before ++ region :: after)
    (bound : region.stop < 2 ^ 64)
    (unsplit : regions.len < maxFreeRegions ∨ start = region.start ∨ stop = region.stop) :
    ∃ next, splitRegion regions before.length start stop = some next := by
  simp only [splitRegion, slots_of_split split, FreeRegion.endExclusive_eq bound]
  split
  · split
    · have room : regions.len < maxFreeRegions := by
        unfold wrappingSub FreeRegion.stop at *
        omega
      rw [dif_neg (Nat.ne_of_lt room)]
      exact ⟨_, rfl⟩
    · exact ⟨_, rfl⟩
  · split
    · exact ⟨_, rfl⟩
    · exact ⟨_, rfl⟩

namespace HeapSystem

/-- Some free region can hold the request, and there is a slot for what is left of it. -/
def Servable (system : HeapSystem) (layout : Layout) : Prop :=
  ∃ region ∈ system.allocator.regions.toList, ∃ address, region.HoldsAt layout address ∧
    (system.allocator.regions.len < maxFreeRegions ∨ address = region.start ∨
      address + layout.bytes = region.stop)

/-- A slot is free, or the block the scan settles on is at an end of its region. -/
def Unsplit (system : HeapSystem) (layout : Layout) : Prop :=
  system.allocator.regions.len < maxFreeRegions ∨
    ∀ found ∈ scanRegions system.allocator.regions layout.align layout.bytes 0
        system.allocator.regions.len,
      found.2 = (system.allocator.regions.slots found.1).start ∨
        found.2 + layout.bytes = (system.allocator.regions.slots found.1).stop

/-- After every run of safe requests and of returns of live blocks, a safe request that splits
no region of a full table is served exactly if some region can serve it. -/
theorem allocate_complete {heap : HeapRange} {allocator : FreeListAllocator}
    {actions : List HeapAction} {system : HeapSystem} {layout : Layout}
    (made : empty.initializeHeap heap.start heap.size = .ok allocator)
    (execution : run step ⟨allocator, []⟩ actions = some system)
    (safe : EveryStep step Safe ⟨allocator, []⟩ (actions ++ [.allocate layout]))
    (unsplit : system.Unsplit layout) :
    (system.allocator.allocate layout).1 ≠ nullPointer ↔ system.Servable layout := by
  rcases safe.of_append execution with ⟨before, here, -⟩
  have owned : Owned heap system :=
    everyStep_preserves (Owned heap) Safe Owned.step execution before (initial_owned made)
  have bound : ∀ region ∈ system.allocator.regions.toList, region.stop < 2 ^ 64 :=
    fun region member => owned.region_bound member
  have cases := @scanRegions_cases layout _ _ _ (nil_append _).symm owned.spaced bound
  rw [length_toList, length_nil] at cases
  rw [allocate, if_pos owned.initialized]
  rcases cases with ⟨scan, unserved⟩ | ⟨skipped, region, rest, split, scan, fits⟩
  · rw [scan]
    apply iff_of_false (· rfl)
    rintro ⟨region, member, address, holds, -⟩
    exact unserved region member address holds
  have member : region ∈ system.allocator.regions.toList := by simp [split]
  rw [Nat.zero_add] at scan
  have slot := slots_of_split split
  simp only [Unsplit, scan, Option.mem_some, forall_eq', slot] at unsplit
  simp only [Safe, scan, Option.mem_some, forall_eq', slot] at here
  rcases splitRegion_isSome split (bound region member) unsplit with ⟨regions, carved⟩
  have below : region.start + (layout.align - 1) < 2 ^ 64 := by
    rcases here with below | refused
    · exact below
    · cases refused.symm.trans carved
  rcases alignUp_spec below with ⟨starts, aligned⟩
  simp only [scan, carved]
  refine iff_of_true (fun null => ?_) ⟨region, member, _,
    ⟨starts, Nat.dvd_of_mod_eq_zero aligned, fits⟩, unsplit⟩
  have low := (owned.region_inside member).1
  have positive := heap.start_pos
  simp only [nullPointer] at null
  omega

theorem allocate_complete_when_split :
    ∃ allocator system,
      empty.initializeHeap smallHeap.start smallHeap.size = .ok allocator ∧
      run step ⟨allocator, []⟩ splitAndReturn = some system ∧
      ((system.allocator.allocate wideLayout).1 ≠ nullPointer ↔ system.Servable wideLayout) :=
  ⟨_, _, rfl, rfl, @allocate_complete smallHeap _ _ _ wideLayout rfl
    (rfl : run step ⟨_, []⟩ splitAndReturn = some _) (by decide +kernel)
    (.inl (by decide +kernel))⟩

/-! ## A full table -/

def eighthLayout : Layout := ⟨1, 8, narrowLayout.align_power, by decide⟩

def evenLayout : Layout := ⟨1, 2, ⟨1, rfl⟩, by decide⟩

def evenHeap : HeapRange := ⟨⟨1, 32762⟩, by decide, by decide, by decide⟩

/-- The free regions after some blocks of `eighthLayout`: each has left seven bytes before it. -/
def leftBetween (count : Nat) : List FreeRegion :=
  (range count).map fun index => ⟨8 * index + 1, 7⟩

/-- So many blocks of `eighthLayout` were taken from `evenHeap`. -/
structure BrokenUp (count : Nat) (system : HeapSystem) : Prop where
  initialized : system.allocator.initialized = true
  regions : system.allocator.regions.toList =
    leftBetween count ++ [⟨8 * count + 1, 32762 - 8 * count⟩]

theorem alignUp_eighth (small : index ≤ 4095) : alignUp (8 * index + 1) 8 = 8 * index + 8 := by
  have rounded := alignUp_eq eighthLayout (8 * index + 1)
  simp only [eighthLayout] at rounded
  omega

theorem scanRegions_skip
    {before skipped after : List FreeRegion} (split : regions.toList = before ++ (skipped ++ after))
    (misfits : ∀ region ∈ skipped, alignUp region.start align + size < 2 ^ 64 ∧
      region.endExclusive < alignUp region.start align + size) (remaining : Nat) :
    scanRegions regions align size before.length (skipped.length + remaining) =
      scanRegions regions align size (before.length + skipped.length) remaining := by
  induction skipped generalizing before with
  | nil => rw [length_nil, Nat.zero_add, Nat.add_zero]
  | cons region skipped induction =>
    rcases forall_mem_cons.mp misfits with ⟨⟨representable, misfit⟩, others⟩
    have later := @induction (before ++ [region]) (by simpa using split) others
    rw [length_append, length_singleton] at later
    rw [length_cons, Nat.add_right_comm, scanRegions, slots_of_split split,
      if_neg (Nat.not_le.mpr representable), if_pos misfit, later, Nat.add_assoc, Nat.add_comm 1]

theorem BrokenUp.step {count : Nat} (broken : BrokenUp count system) (small : count < 4095) :
    ∃ next, system.step (.allocate eighthLayout) = some next ∧ BrokenUp (count + 1) next := by
  have length : system.allocator.regions.len = count + 1 := by
    have counted := len_of_split broken.regions
    simpa [leftBetween] using counted
  have width : (leftBetween count).length = count := by simp [leftBetween]
  have misfits : ∀ region ∈ leftBetween count, alignUp region.start 8 + 1 < 2 ^ 64 ∧
      region.endExclusive < alignUp region.start 8 + 1 := by
    intro region member
    rcases mem_map.mp member with ⟨index, earlier, rfl⟩
    have inside := mem_range.mp earlier
    rw [alignUp_eighth (by omega), FreeRegion.endExclusive, wrappingAdd]
    dsimp only
    omega
  have scan : scanRegions system.allocator.regions 8 1 0 system.allocator.regions.len =
      some (count, 8 * count + 8) := by
    have skipped := @scanRegions_skip _ 8 1 [] _ _ broken.regions misfits 1
    have slot := slots_of_split broken.regions
    rw [width] at slot skipped
    rw [length_nil, Nat.zero_add] at skipped
    rw [length, skipped, scanRegions, slot, alignUp_eighth (by omega), FreeRegion.endExclusive,
      wrappingAdd]
    dsimp only
    rw [if_neg (by omega), if_neg (by omega)]
  have bound : FreeRegion.stop ⟨8 * count + 1, 32762 - 8 * count⟩ < 2 ^ 64 := by
    simp only [FreeRegion.stop]
    omega
  have ends : 8 * count + 9 ≤ FreeRegion.stop ⟨8 * count + 1, 32762 - 8 * count⟩ := by
    simp only [FreeRegion.stop]
    omega
  rcases @splitRegion_isSome _ _ _ _ (8 * count + 8) (8 * count + 9) broken.regions bound
      (.inl (by rw [length, maxFreeRegions]; omega)) with ⟨regions, carved⟩
  have held := splitRegion_cases broken.regions bound (Nat.le_add_right _ 7) (Nat.lt_succ_self _)
    ends carved
  rw [width] at carved
  have parts : remainders ⟨8 * count + 1, 32762 - 8 * count⟩ (8 * count + 8) (8 * count + 9) =
      [⟨8 * count + 1, 7⟩, ⟨8 * (count + 1) + 1, 32762 - 8 * (count + 1)⟩] := by
    simp only [remainders, FreeRegion.stop]
    rw [filter_cons_of_pos (by simp), filter_cons_of_pos (by simp; omega),
      filter_nil, Nat.add_sub_add_left]
    congr 3
    omega
  refine ⟨⟨{ system.allocator with
      regions := regions, freeBytes := system.allocator.freeBytes - 1 },
    ⟨8 * count + 8, eighthLayout⟩ :: system.live⟩, ?_, broken.initialized, ?_⟩
  · simp [HeapSystem.step, allocate, broken.initialized, eighthLayout,
      Layout.bytes, scan, carved, nullPointer]
  · rw [held, parts]
    simp [leftBetween, range_succ]

theorem BrokenUp.run {count : Nat} (broken : BrokenUp count system) (small : count + steps ≤ 4095) :
    ∃ next, Execution.run HeapSystem.step system (replicate steps (.allocate eighthLayout)) =
      some next ∧ BrokenUp (count + steps) next := by
  induction steps generalizing count system with
  | zero => exact ⟨system, rfl, broken⟩
  | succ steps induction =>
    rcases broken.step (by omega) with ⟨between, taken, further⟩
    rcases induction further (by omega) with ⟨next, rest, reached⟩
    refine ⟨next, run_cons_eq_some.mpr ⟨between, taken, rest⟩, ?_⟩
    rwa [Nat.add_assoc, Nat.add_comm 1] at reached

/-- Every slot is taken by a region of seven bytes but the last, which has two. A byte at an even
address would split the first of them, and is refused, though it is the end of the last. -/
theorem full_table_refuses :
    ∃ allocator system,
      empty.initializeHeap evenHeap.start evenHeap.size = .ok allocator ∧
      run step ⟨allocator, []⟩ (replicate 4095 (.allocate eighthLayout)) = some system ∧
      system.Servable evenLayout ∧
      (system.allocator.allocate evenLayout).1 = nullPointer := by
  have initial : BrokenUp 0 ⟨{ empty with
      regions := ⟨Function.update (fun _ => .empty) 0 ⟨1, 32762⟩, 1, by decide⟩
      initialized := true, capacityBytes := 32762, freeBytes := 32762 }, []⟩ := by
    refine ⟨rfl, ?_⟩
    simp [toList, leftBetween]
  rcases initial.run (Nat.le_of_eq (Nat.zero_add 4095)) with ⟨system, reached, broken⟩
  refine ⟨_, system, rfl, reached, ?_, ?_⟩
  · refine ⟨⟨32761, 2⟩, by simp [broken.regions], 32762, ⟨by decide, by decide, by decide⟩, ?_⟩
    exact .inr (.inr rfl)
  have first : system.allocator.regions.toList = [] ++ ⟨1, 7⟩ ::
      ((range 4094).map (fun index => ⟨8 * (index + 1) + 1, 7⟩) ++ [⟨32761, 2⟩]) := by
    rw [broken.regions, leftBetween, range_succ_eq_map]
    simp [Function.comp_def]
  have full : system.allocator.regions.len = maxFreeRegions := by
    rw [len_of_split first]
    simp [maxFreeRegions]
  have slot := slots_of_split first
  rw [length_nil] at slot
  have scan : scanRegions system.allocator.regions 2 1 0 system.allocator.regions.len =
      some (0, 2) := by
    rw [full, maxFreeRegions, scanRegions, slot, if_neg (by decide), if_neg (by decide)]
    rfl
  have refused : splitRegion system.allocator.regions 0 2 3 = none := by
    rw [splitRegion, slot, if_pos (by decide), if_pos (by decide), dif_pos full]
  simp [allocate, broken.initialized, evenLayout, Layout.bytes, scan, refused]

open FreeRegion

/-! ## An empty heap -/

/-- Blocks may go back in any order: once all are back and none was dropped, the
free regions have grown together to the whole heap. -/
theorem returned_blocks_coalesce {heap : HeapRange} {allocator : FreeListAllocator}
    {actions : List HeapAction} {system : HeapSystem}
    (made : empty.initializeHeap heap.start heap.size = .ok allocator)
    (execution : run step ⟨allocator, []⟩ actions = some system)
    (safe : EveryStep step Safe ⟨allocator, []⟩ actions) (idle : system.live = [])
    (kept : system.allocator.droppedFreeBytes = 0) :
    system.allocator.regions.toList = [heap.toFreeRegion] := by
  have owned : Owned heap system :=
    everyStep_preserves (Owned heap) Safe Owned.step execution safe (initial_owned made)
  have covers (address : Nat) (above : heap.start ≤ address) (below : address < heap.stop) :
      ∃ region ∈ system.allocator.regions.toList,
        region.start ≤ address ∧ address < region.stop := by
    rcases owned.bytes with ⟨lost, counted, partition⟩
    have member := partition.mem_iff.mpr (mem_cells.mpr ⟨above, below⟩)
    rw [kept, length_eq_zero_iff] at counted
    rw [counted, idle, map_nil, cellsOf_nil, append_nil, append_nil] at member
    simpa [cellsOf] using member
  have gaps := owned.spaced.gaps
  have inside := fun region free => @Owned.region_inside _ _ owned region free
  have size := heap.size_pos
  have first := covers heap.start le_rfl (by rw [stop]; omega)
  have last := covers (heap.stop - 1) (by rw [stop]; omega) (by rw [stop]; omega)
  generalize toList system.allocator.regions = regions at *
  rcases regions with _ | ⟨region, _ | ⟨second, rest⟩⟩
  · simp at first
  · rcases region with ⟨start, size⟩
    simp only [mem_singleton, exists_eq_left, forall_eq, stop] at first last inside
    rw [(FreeRegion.mk.injEq ..).mpr (by omega : start = heap.start ∧ size = heap.size)]
  -- The byte behind the first region is in the heap, but in no region.
  · have behind := (pairwise_cons.mp gaps).1
    have within : region.stop < heap.stop :=
      (behind second mem_cons_self).trans_le
        ((Nat.le_add_right _ _).trans (inside second (by simp)).2)
    have outer := inside region mem_cons_self
    rcases covers region.stop (outer.1.trans (Nat.le_add_right _ _)) within with
      ⟨other, there, starts, stops⟩
    rcases mem_cons.mp there with rfl | later
    · exact absurd stops (lt_irrefl _)
    · exact absurd (behind other later) starts.not_gt

/-- Everything of `splitAndReturn` and the block that is left. -/
def splitAndReturnAll : List HeapAction := splitAndReturn ++ [.deallocate 0x3008 narrowLayout]

theorem returned_blocks_coalesce_small : ∃ allocator system,
    empty.initializeHeap smallHeap.start smallHeap.size = .ok allocator ∧
      run step ⟨allocator, []⟩ splitAndReturnAll = some system ∧
      system.allocator.regions.toList = [smallHeap.toFreeRegion] :=
  ⟨_, _, rfl, rfl, @returned_blocks_coalesce smallHeap _ _ _ rfl
    (rfl : run step ⟨_, []⟩ splitAndReturnAll = some _) (by decide +kernel) rfl rfl⟩

end HeapSystem
end ServiceOS.Memory
