import ServiceOS.Foundation.Execution
import ServiceOS.Memory.Heap

/-! # Who owns a byte of the heap

Every byte of the heap is free, part of one live block, or given up, and only
one of these. The free regions are kept in order with gaps between them. -/

namespace ServiceOS.Memory

open Execution ShiftTable FreeListAllocator FreeRegion List

/-! ## Rounding up -/

theorem and_not_mask (bound : value < 2 ^ 64) (small : exponent ≤ 64) :
    value &&& ((2 ^ 64 - 1) ^^^ (2 ^ exponent - 1)) = value / 2 ^ exponent * 2 ^ exponent := by
  refine Nat.eq_of_testBit_eq fun position => ?_
  rw [Nat.testBit_and, Nat.testBit_xor, Nat.testBit_two_pow_sub_one,
    Nat.testBit_two_pow_sub_one, Nat.testBit_mul_two_pow, Nat.testBit_div_two_pow]
  by_cases low : position < exponent
  · simp [low, Nat.lt_of_lt_of_le low small]
  have high : exponent ≤ position := Nat.le_of_not_lt low
  simp only [low, high, decide_false, decide_true, Bool.xor_false, Bool.true_and,
    Nat.sub_add_cancel high]
  by_cases within : position < 64
  · simp [within]
  · rw [Nat.testBit_eq_false_of_lt (Nat.lt_of_lt_of_le bound
      (Nat.pow_le_pow_right (by decide) (Nat.le_of_not_lt within))), Bool.false_and]

theorem Layout.align_pos (layout : Layout) : 0 < layout.align := by
  rcases layout.align_power with ⟨exponent, power⟩
  exact power ▸ Nat.two_pow_pos exponent

theorem Layout.bytes_pos (layout : Layout) : 0 < layout.bytes :=
  Nat.lt_of_lt_of_le Nat.zero_lt_one (Nat.le_max_right _ _)

theorem alignUp_eq (layout : Layout) (value : Nat) :
    alignUp value layout.align =
      (value + (layout.align - 1)) % 2 ^ 64 / layout.align * layout.align := by
  rcases layout.align_power with ⟨exponent, power⟩
  have fits := layout.size_le
  have small : exponent ≤ 64 := by
    refine Nat.le_of_not_lt fun large => ?_
    have := Nat.pow_le_pow_right (show 0 < 2 by decide) (Nat.le_of_lt large)
    omega
  simp only [power]
  exact and_not_mask (Nat.mod_lt _ (by decide)) small

variable {layout : Layout}

theorem alignUp_spec (below : value + (layout.align - 1) < 2 ^ 64) :
    value ≤ alignUp value layout.align ∧ alignUp value layout.align % layout.align = 0 := by
  rw [alignUp_eq, Nat.mod_eq_of_lt below, Nat.mul_mod_left]
  refine ⟨?_, rfl⟩
  have division := Nat.div_add_mod (value + (layout.align - 1)) layout.align
  have remainder := Nat.mod_lt (value + (layout.align - 1)) layout.align_pos
  rw [Nat.mul_comm] at division
  omega

/-! ## Bytes of regions -/

theorem wrappingSub_eq (ordered : second ≤ first) (bound : first < 2 ^ 64) :
    wrappingSub first second = first - second := by
  unfold wrappingSub
  omega

namespace FreeRegion

def stop (region : FreeRegion) : Nat := region.start + region.size

def cells (region : FreeRegion) : List Nat := range' region.start region.size

variable {region : FreeRegion}

@[simp] theorem mem_cells :
    address ∈ region.cells ↔ region.start ≤ address ∧ address < region.stop := by
  simp [cells, stop]

theorem endExclusive_eq (bound : region.stop < 2 ^ 64) : region.endExclusive = region.stop :=
  Nat.mod_eq_of_lt bound

theorem ordered_of_disjoint {first second : FreeRegion} (firstPositive : 0 < first.size)
    (secondPositive : 0 < second.size) (disjoint : first.cells.Disjoint second.cells) :
    first.stop ≤ second.start ∨ second.stop ≤ first.start := by
  have : ¬(first.start ≤ second.start ∧ second.start < first.stop) := fun inside =>
    disjoint (mem_cells.mpr inside) (mem_cells.mpr ⟨le_rfl, by unfold stop; omega⟩)
  have : ¬(second.start ≤ first.start ∧ first.start < second.stop) := fun inside =>
    disjoint (mem_cells.mpr ⟨le_rfl, by unfold stop; omega⟩) (mem_cells.mpr inside)
  omega

theorem within_of_subset {outer : FreeRegion} (positive : 0 < region.size)
    (subset : ∀ address ∈ region.cells, address ∈ outer.cells) :
    outer.start ≤ region.start ∧ region.stop ≤ outer.stop := by
  have first := mem_cells.mp (subset region.start (mem_cells.mpr ⟨le_rfl, by
    unfold stop; omega⟩))
  have last := mem_cells.mp (subset (region.start + (region.size - 1)) (mem_cells.mpr
    ⟨Nat.le_add_right _ _, by unfold stop; omega⟩))
  unfold stop at *
  omega

theorem merge_left (adjacent : left.stop = region.start) (bound : region.stop < 2 ^ 64) :
    region.merge left = ⟨left.start, left.size + region.size⟩ := by
  unfold stop at *
  simp only [merge, endExclusive, wrappingAdd, wrappingSub, FreeRegion.mk.injEq]
  omega

theorem merge_right {next : FreeRegion} (adjacent : region.stop = next.start)
    (bound : next.stop < 2 ^ 64) :
    region.merge next = ⟨region.start, region.size + next.size⟩ := by
  unfold stop at *
  simp only [merge, endExclusive, wrappingAdd, wrappingSub, FreeRegion.mk.injEq]
  omega

theorem cells_add (start first second : Nat) :
    cells ⟨start, first + second⟩ = cells ⟨start, first⟩ ++ cells ⟨start + first, second⟩ := by
  simp [cells, range'_append_1]

end FreeRegion

variable (regions : List FreeRegion)

def cellsOf : List Nat := regions.flatMap cells

@[simp] theorem cellsOf_nil : cellsOf [] = [] := rfl

@[simp] theorem cellsOf_cons (region : FreeRegion) (rest : List FreeRegion) :
    cellsOf (region :: rest) = region.cells ++ cellsOf rest := rfl

@[simp] theorem cellsOf_append (first second : List FreeRegion) :
    cellsOf (first ++ second) = cellsOf first ++ cellsOf second :=
  flatMap_append

theorem length_cellsOf : (cellsOf regions).length = (regions.map size).sum := by
  simp [cellsOf, cells, length_flatMap]

theorem cellsOf_nonempty : cellsOf (regions.filter (0 < ·.size)) = cellsOf regions := by
  induction regions with
  | nil => rfl
  | cons region rest induction =>
    rw [filter_cons]
    split
    · rw [cellsOf_cons, cellsOf_cons, induction]
    rename_i vacant
    have : region.size = 0 := by simpa using vacant
    rw [cellsOf_cons, induction, cells, this, range'_zero, nil_append]

/-- Nonempty, in order, with a gap between any two. -/
structure Spaced : Prop where
  positive : ∀ region ∈ regions, 0 < region.size
  gaps : regions.Pairwise fun first second => first.stop < second.start

theorem Spaced.replace {before after : List FreeRegion}
    (spaced : Spaced (before ++ region :: after)) (inner : Spaced parts)
    (within : ∀ part ∈ parts, region.start ≤ part.start ∧ part.stop ≤ region.stop) :
    Spaced (before ++ (parts ++ after)) := by
  rcases pairwise_append.mp spaced.gaps with ⟨earlier, rest, across⟩
  rcases pairwise_cons.mp rest with ⟨following, later⟩
  refine ⟨fun other member => ?_, ?_⟩
  · rcases mem_append.mp member with ahead | behind
    · exact spaced.positive other (mem_append_left _ ahead)
    rcases mem_append.mp behind with part | behind
    · exact inner.positive other part
    · exact spaced.positive other (mem_append_right _ (mem_cons_of_mem _ behind))
  refine pairwise_append.mpr ⟨earlier, pairwise_append.mpr ⟨inner.gaps, later, ?_⟩, ?_⟩
  · intro part member other behind
    exact Nat.lt_of_le_of_lt (within part member).2 (following other behind)
  intro other ahead next member
  rcases mem_append.mp member with part | behind
  · exact Nat.lt_of_lt_of_le (across other ahead region mem_cons_self)
      (within next part).1
  · exact across other ahead next (mem_cons_of_mem _ behind)

namespace FreeListAllocator

/-! ## Carving a block out of a region -/

variable {regions next : RegionTable} {index start stop : Nat} {region merged : FreeRegion}
  {before after : List FreeRegion}

theorem scanRegions_found {size : Nat} (bound : index + remaining ≤ regions.len)
    (call : scanRegions regions align size index remaining = some (found, start)) :
    found < regions.len ∧ start = alignUp (regions.slots found).start align ∧
      start + size < 2 ^ 64 ∧ start + size ≤ (regions.slots found).endExclusive := by
  induction remaining generalizing index with
  | zero => cases call
  | succ remaining induction =>
    rw [scanRegions] at call
    split at call
    · cases call
    rename_i representable
    split at call
    · exact induction (by omega) call
    rename_i fits
    cases call
    exact ⟨by omega, rfl, Nat.lt_of_not_le representable, Nat.le_of_not_lt fits⟩

/-- What is left of a region once `[start, stop)` is taken out. -/
def remainders (region : FreeRegion) (start stop : Nat) : List FreeRegion :=
  [⟨region.start, start - region.start⟩, ⟨stop, region.stop - stop⟩].filter (0 < ·.size)

section

variable (starts : region.start ≤ start) (nonempty : start < stop)

include starts nonempty

theorem remainders_spaced : Spaced (remainders region start stop) := by
  refine ⟨fun part member => of_decide_eq_true (mem_filter.mp member).2, ?_⟩
  refine List.Pairwise.filter _ (pairwise_pair.mpr ?_)
  simp only [FreeRegion.stop]
  omega

theorem remainders_within (ends : stop ≤ region.stop) :
    ∀ part ∈ remainders region start stop, region.start ≤ part.start ∧ part.stop ≤ region.stop := by
  intro part member
  have either := (mem_filter.mp member).1
  simp only [mem_cons, not_mem_nil, or_false] at either
  unfold FreeRegion.stop at *
  rcases either with rfl | rfl
  · dsimp only
    omega
  · dsimp only
    omega

theorem cells_remainders (ends : stop ≤ region.stop) :
    region.cells.Perm (cellsOf (remainders region start stop) ++
      FreeRegion.cells ⟨start, stop - start⟩) := by
  have parts : region = ⟨region.start, (start - region.start) +
      ((stop - start) + (region.stop - stop))⟩ := by
    rcases region with ⟨regionStart, regionSize⟩
    simp only [FreeRegion.stop, FreeRegion.mk.injEq, true_and] at *
    omega
  have middle : region.start + (start - region.start) = start := by omega
  have last : start + (stop - start) = stop := by omega
  have cells : region.cells = FreeRegion.cells ⟨region.start, start - region.start⟩ ++
      (FreeRegion.cells ⟨start, stop - start⟩ ++ FreeRegion.cells ⟨stop, region.stop - stop⟩) := by
    rw [congrArg FreeRegion.cells parts, FreeRegion.cells_add, FreeRegion.cells_add, middle, last]
  rw [cells, remainders, cellsOf_nonempty, cellsOf_cons, cellsOf_cons, cellsOf_nil,
    append_nil, append_assoc]
  exact perm_append_comm.append_left _

end

theorem splitRegion_cases (split : regions.toList = before ++ region :: after)
    (bound : region.stop < 2 ^ 64) (starts : region.start ≤ start) (nonempty : start < stop)
    (ends : stop ≤ region.stop) (call : splitRegion regions before.length start stop = some next) :
    next.toList = before ++ (remainders region start stop ++ after) := by
  have leading : wrappingSub start region.start = start - region.start :=
    wrappingSub_eq starts (by omega)
  have trailing : wrappingSub region.stop stop = region.stop - stop := wrappingSub_eq ends bound
  simp only [splitRegion, slots_of_split split, endExclusive_eq bound, leading, trailing] at call
  split at call
  next someLeading =>
    split at call
    next someTrailing =>
      split at call
      · cases call
      rename_i room
      cases call
      have whole : regions.toList = (before ++ [region]) ++ after := by simp [split]
      have inserted := toList_insertAt whole
        (Nat.lt_of_le_of_ne regions.len_le room) ⟨stop, region.stop - stop⟩
      rw [length_append, length_singleton, append_assoc] at inserted
      rw [toList_set inserted]
      simp [remainders, someLeading, someTrailing]
    next noTrailing =>
      cases call
      rw [toList_set split]
      simp [remainders, someLeading, noTrailing]
  next noLeading =>
    split at call
    next someTrailing =>
      cases call
      rw [toList_set split]
      simp [remainders, noLeading, someTrailing]
    rename_i noTrailing
    cases call
    rw [toList_removeAt split]
    simp [remainders, noLeading, noTrailing]

/-! ## Giving a block back -/

theorem insertionIndex_cases (start : Nat) (split : regions.toList = before ++ after)
    (earlier : ∀ other ∈ before, other.start < start) :
    ∃ low high, regions.toList = low ++ high ∧
      insertionIndex regions start before.length after.length = low.length ∧
      (∀ other ∈ low, other.start < start) ∧ ∀ other ∈ high.head?, start ≤ other.start := by
  induction after generalizing before with
  | nil => exact ⟨before, [], split, rfl, earlier, nofun⟩
  | cons region rest induction =>
    rw [length_cons, insertionIndex, slots_of_split split]
    split
    next below =>
      have onwards := @induction (before ++ [region]) (by simp [split])
        (forall_mem_append.mpr ⟨earlier, by simpa using below⟩)
      simpa using onwards
    rename_i reached
    refine ⟨before, region :: rest, split, rfl, earlier, fun other head => ?_⟩
    cases head
    exact Nat.le_of_not_lt reached

theorem insertionIndex_split (spaced : Spaced regions.toList) (positive : 0 < region.size)
    (apart : ∀ other ∈ regions.toList, other.cells.Disjoint region.cells) :
    ∃ before after, regions.toList = before ++ after ∧
      insertionIndex regions region.start 0 regions.len = before.length ∧
      (∀ other ∈ before, other.stop ≤ region.start) ∧
      ∀ other ∈ after, region.stop ≤ other.start := by
  rcases insertionIndex_cases region.start (nil_append _).symm nofun with
    ⟨before, after, split, index, below, above⟩
  rw [length_toList] at index
  have ordered : ∀ other ∈ regions.toList,
      other.stop ≤ region.start ∨ region.stop ≤ other.start := fun other member =>
    ordered_of_disjoint (spaced.positive other member) positive (apart other member)
  have higher : ∀ other ∈ after, region.start ≤ other.start := by
    have gaps := (pairwise_append.mp (split ▸ spaced.gaps)).2.1
    cases after with
    | nil => nofun
    | cons first =>
      have here := above first rfl
      refine forall_mem_cons.mpr ⟨here, fun other member => ?_⟩
      have following := (pairwise_cons.mp gaps).1 other member
      unfold stop at following
      omega
  refine ⟨before, after, split, index, fun other member => ?_, fun other member => ?_⟩
  · have known := ordered other (split ▸ mem_append_left _ member)
    have lower := below other member
    unfold stop at *
    omega
  have inside : other ∈ regions.toList := split ▸ mem_append_right _ member
  have known := ordered other inside
  have nonempty := spaced.positive other inside
  have starts := higher other member
  unfold stop at *
  omega

theorem coalesceLeft_cases (split : regions.toList = before ++ after) (spaced : Spaced before)
    (below : ∀ other ∈ before, other.stop ≤ region.start) (bound : region.stop < 2 ^ 64)
    (call : coalesceLeft regions before.length region = (next, index, merged)) :
    ∃ kept neighbours, before = kept ++ neighbours ∧ next.toList = kept ++ after ∧
      index = kept.length ∧ merged.stop = region.stop ∧
      merged.cells = cellsOf neighbours ++ region.cells ∧
      ∀ other ∈ kept, other.stop < merged.start := by
  rcases eq_nil_or_concat' before with rfl | ⟨kept, left, rfl⟩
  · cases call
    exact ⟨[], [], rfl, split, rfl, rfl, rfl, nofun⟩
  rcases pairwise_append.mp spaced.gaps with ⟨-, -, gaps⟩
  have next_left := below left (by simp)
  have split : regions.toList = kept ++ left :: after := by simpa using split
  have starts : region.start ≤ region.stop := Nat.le_add_right _ _
  simp only [coalesceLeft, length_append, length_singleton, Nat.succ_pos,
    if_true, Nat.add_sub_cancel, slots_of_split split,
    endExclusive_eq (Nat.lt_of_le_of_lt (Nat.le_trans next_left starts) bound)]
    at call
  split at call
  next touching =>
    cases call
    have adjacent : left.stop = region.start := Nat.le_antisymm next_left touching
    rw [merge_left adjacent bound]
    refine ⟨kept, [left], rfl, toList_removeAt split _, rfl, ?_, ?_, ?_⟩
    · unfold stop at *
      dsimp only
      omega
    · have : left.start + left.size = region.start := adjacent
      rw [cells_add, this]
      simp
    · exact fun other member => gaps other member left (mem_singleton_self _)
  next gap =>
    cases call
    refine ⟨kept ++ [left], [], by simp, by simpa using split, by simp, rfl, rfl, ?_⟩
    refine forall_mem_append.mpr ⟨fun other member => ?_, by simpa using gap⟩
    have ahead := gaps other member left (mem_singleton_self _)
    unfold stop at *
    omega

theorem coalesceRight_cases (split : regions.toList = before ++ after) (spaced : Spaced after)
    (above : ∀ other ∈ after, region.stop ≤ other.start)
    (bound : ∀ other ∈ after, other.stop < 2 ^ 64) (regionBound : region.stop < 2 ^ 64)
    (call : coalesceRight regions before.length region after.length = (next, merged)) :
    ∃ neighbours kept, after = neighbours ++ kept ∧ next.toList = before ++ kept ∧
      merged.start = region.start ∧
      merged.cells = region.cells ++ cellsOf neighbours ∧
      ∀ other ∈ kept, merged.stop < other.start := by
  induction after generalizing regions region with
  | nil =>
    cases call
    exact ⟨[], [], rfl, split, rfl, by simp, nofun⟩
  | cons neighbour rest induction =>
    rw [length_cons, coalesceRight, slots_of_split split, endExclusive_eq regionBound] at call
    rcases pairwise_cons.mp spaced.gaps with ⟨following, later⟩
    split at call
    next gap =>
      cases call
      refine ⟨[], neighbour :: rest, rfl, split, rfl, by simp, ?_⟩
      refine forall_mem_cons.mpr ⟨gap, fun other member => ?_⟩
      have := following other member
      unfold stop at *
      omega
    next touching =>
      have adjacent : region.stop = neighbour.start :=
        Nat.le_antisymm (above neighbour mem_cons_self) (Nat.le_of_not_lt touching)
      rw [merge_right adjacent (bound neighbour mem_cons_self)] at call
      have stops : stop ⟨region.start, region.size + neighbour.size⟩ =
          neighbour.stop := by
        unfold stop at *
        dsimp only
        omega
      rcases induction (toList_removeAt split _)
          ⟨fun other member => spaced.positive other (mem_cons_of_mem _ member), later⟩
          (fun other member => stops ▸ Nat.le_of_lt (following other member))
          (fun other member => bound other (mem_cons_of_mem _ member))
          (stops ▸ bound neighbour mem_cons_self) call with
        ⟨neighbours, kept, rfl, held, starts, cells, gaps⟩
      refine ⟨neighbour :: neighbours, kept, rfl, held, starts, ?_, gaps⟩
      rw [cells, cells_add, cellsOf_cons, append_assoc]
      have : region.start + region.size = neighbour.start := adjacent
      rw [this]

/-- A region that shares no byte with the free ones takes the place of its
neighbours, or is given up when the table is full. -/
theorem insertAndCoalesce_cases {allocator next : FreeListAllocator}
    (spaced : Spaced allocator.regions.toList) (positive : 0 < region.size)
    (apart : ∀ other ∈ allocator.regions.toList, other.cells.Disjoint region.cells)
    (bound : ∀ other ∈ allocator.regions.toList, other.stop < 2 ^ 64)
    (regionBound : region.stop < 2 ^ 64) (call : allocator.insertAndCoalesce region = next) :
    (∃ regions, regions.toList = allocator.regions.toList ∧
      next = { allocator with
        regions := regions
        droppedFreeBytes := saturatingAdd allocator.droppedFreeBytes region.size
        droppedFreeEvents := saturatingAdd allocator.droppedFreeEvents 1 }) ∨
      ∃ regions before neighbours after merged,
        allocator.regions.toList = before ++ (neighbours ++ after) ∧
        regions.toList = before ++ merged :: after ∧ Spaced regions.toList ∧
        merged.cells.Perm (region.cells ++ cellsOf neighbours) ∧
        next = { allocator with
          regions := regions
          freeBytes := saturatingAdd allocator.freeBytes region.size } := by
  rcases insertionIndex_split spaced positive apart with ⟨before, after, split, index, below, above⟩
  rcases pairwise_append.mp (split ▸ spaced.gaps) with ⟨lowGaps, highGaps, across⟩
  rcases forall_mem_append.mp (split ▸ spaced.positive) with ⟨lowPositive, highPositive⟩
  rw [insertAndCoalesce, if_neg (Nat.pos_iff_ne_zero.mp positive)] at call
  rcases leftCall : coalesceLeft allocator.regions before.length region with
    ⟨leftRegions, leftIndex, leftMerged⟩
  rcases coalesceLeft_cases split ⟨lowPositive, lowGaps⟩ below regionBound leftCall with
    ⟨low, lowNeighbours, rfl, leftHeld, rfl, leftStop, leftCells, lowBelow⟩
  have remaining : leftRegions.len - low.length = after.length := by
    rw [len_of_split leftHeld, Nat.add_sub_cancel_left]
  rcases rightCall : coalesceRight leftRegions low.length leftMerged after.length with
    ⟨rightRegions, merged⟩
  rcases coalesceRight_cases leftHeld ⟨highPositive, highGaps⟩ (leftStop ▸ above)
      (fun other member => bound other (split ▸ mem_append_right _ member))
      (leftStop ▸ regionBound) rightCall with
    ⟨highNeighbours, high, rfl, held, starts, cells, highAbove⟩
  rw [leftCells] at cells
  simp only [index, leftCall, remaining, rightCall] at call
  split at call
  next full =>
    -- A full table means that no neighbour was folded in.
    have counted := len_of_split held
    have total := len_of_split split
    have limit := allocator.regions.len_le
    simp only [length_append] at total
    have noLow : lowNeighbours = [] := eq_nil_of_length_eq_zero (by omega)
    have noHigh : highNeighbours = [] := eq_nil_of_length_eq_zero (by omega)
    subst noLow noHigh
    have size : merged.size = region.size := by
      simpa [FreeRegion.cells] using congrArg length cells
    rw [size] at call
    exact .inl ⟨rightRegions, by simp [held, split], call.symm⟩
  next room =>
    have inserted := toList_insertAt held
      (Nat.lt_of_le_of_ne rightRegions.len_le room) merged
    have nonempty : 0 < merged.size := by
      have lengths := congrArg length cells
      simp only [FreeRegion.cells, length_append, length_range'] at lengths
      omega
    refine .inr ⟨_, low, lowNeighbours ++ highNeighbours, high, merged, by simp [split],
      inserted, ?_, ?_, call.symm⟩
    · rw [inserted]
      refine ⟨?_, pairwise_append.mpr ⟨(pairwise_append.mp lowGaps).1,
        pairwise_cons.mpr ⟨highAbove, (pairwise_append.mp highGaps).2.1⟩, ?_⟩⟩
      · exact forall_mem_append.mpr ⟨(forall_mem_append.mp lowPositive).1,
          forall_mem_cons.mpr ⟨nonempty, (forall_mem_append.mp highPositive).2⟩⟩
      intro other member
      refine forall_mem_cons.mpr ⟨starts ▸ lowBelow other member, fun next later => ?_⟩
      exact across other (mem_append_left _ member) next (mem_append_right _ later)
    · rw [cells, cellsOf_append, ← append_assoc]
      exact perm_append_comm.append_right _

end FreeListAllocator

/-! ## The heap and its users -/

structure HeapRange extends FreeRegion where
  start_pos : 0 < start
  size_pos : 0 < size
  bound : start + size < 2 ^ 64

structure Block where
  start : Nat
  layout : Layout
deriving DecidableEq

def Block.region (block : Block) : FreeRegion := ⟨block.start, block.layout.bytes⟩

structure HeapSystem where
  allocator : FreeListAllocator
  /-- Blocks handed out and not given back. -/
  live : List Block

inductive HeapAction
  | allocate (layout : Layout)
  | deallocate (pointer : Nat) (layout : Layout)

variable {heap : HeapRange}

namespace HeapSystem

open FreeListAllocator

/-- A block may be given back while it is live, with the layout it was requested with. -/
def step (system : HeapSystem) : HeapAction → Option HeapSystem
  | .allocate layout =>
    match system.allocator.allocate layout with
    | (pointer, allocator) =>
      if pointer = nullPointer then
        some { system with allocator := allocator }
      else
        some ⟨allocator, ⟨pointer, layout⟩ :: system.live⟩
  | .deallocate pointer layout =>
    if ⟨pointer, layout⟩ ∈ system.live then
      some ⟨system.allocator.deallocate pointer layout, system.live.erase ⟨pointer, layout⟩⟩
    else
      none

/-- Rounding up the start of the region a request is served from stays below
the top of the address range, or the request is refused. -/
def Safe (system : HeapSystem) : HeapAction → Prop
  | .allocate layout =>
    ∀ found ∈ scanRegions system.allocator.regions layout.align layout.bytes 0
        system.allocator.regions.len,
      (system.allocator.regions.slots found.1).start + (layout.align - 1) < 2 ^ 64 ∨
        splitRegion system.allocator.regions found.1 found.2 (found.2 + layout.bytes) = none
  | .deallocate _ _ => True

instance (system : HeapSystem) : (action : HeapAction) → Decidable (system.Safe action)
  | .allocate _ => inferInstanceAs (Decidable (∀ found ∈ (_ : Option (Nat × Nat)), _))
  | .deallocate _ _ => .isTrue trivial

structure Owned (heap : HeapRange) (system : HeapSystem) : Prop where
  initialized : system.allocator.initialized = true
  capacity : system.allocator.capacityBytes = heap.size
  spaced : Spaced system.allocator.regions.toList
  free : system.allocator.freeBytes = (system.allocator.regions.toList.map size).sum
  aligned : ∀ block ∈ system.live, block.start % block.layout.align = 0
  bytes : ∃ lost : List Nat, lost.length = system.allocator.droppedFreeBytes ∧
    (cellsOf system.allocator.regions.toList ++
      (cellsOf (system.live.map Block.region) ++ lost)).Perm heap.cells

namespace Owned

variable {system next : HeapSystem}

section

variable (owned : Owned heap system)

include owned

theorem nodup :
    (cellsOf system.allocator.regions.toList ++ cellsOf (system.live.map Block.region)).Nodup := by
  rcases owned.bytes with ⟨lost, -, partition⟩
  have whole := partition.nodup_iff.mpr nodup_range'
  rw [← append_assoc] at whole
  exact (nodup_append'.mp whole).1

theorem inside (member : address ∈ cellsOf system.allocator.regions.toList ++
      cellsOf (system.live.map Block.region)) : address ∈ heap.cells := by
  rcases owned.bytes with ⟨lost, -, partition⟩
  rw [← partition.mem_iff, ← append_assoc]
  exact mem_append_left _ member

theorem region_inside (member : region ∈ system.allocator.regions.toList) :
    heap.start ≤ region.start ∧ region.stop ≤ heap.stop :=
  within_of_subset (owned.spaced.positive region member) fun _ cell =>
    owned.inside (mem_append_left _ (mem_flatMap.mpr ⟨region, member, cell⟩))

theorem block_inside (member : block ∈ system.live) :
    heap.start ≤ block.start ∧ block.region.stop ≤ heap.stop :=
  @within_of_subset block.region _ block.layout.bytes_pos fun _ cell =>
    owned.inside (mem_append_right _ (mem_flatMap.mpr ⟨block.region, mem_map_of_mem member, cell⟩))

theorem region_bound (member : region ∈ system.allocator.regions.toList) : region.stop < 2 ^ 64 :=
  Nat.lt_of_le_of_lt (owned.region_inside member).2 heap.bound

theorem accounted :
    system.allocator.freeBytes + ((system.live.map fun block => block.layout.bytes).sum +
      system.allocator.droppedFreeBytes) = heap.size := by
  rcases owned.bytes with ⟨lost, counted, partition⟩
  have lengths := partition.length_eq
  rw [length_append, length_append, length_cellsOf, length_cellsOf, ← owned.free,
    counted, cells, length_range', map_map] at lengths
  exact lengths

/-- A safe request is refused, or served from one of the regions. -/
theorem allocate_cases {allocator : FreeListAllocator} (safe : system.Safe (.allocate layout))
    (call : system.allocator.allocate layout = (pointer, allocator)) :
    (pointer = nullPointer ∧ allocator = system.allocator) ∨
      ∃ regions before region after,
        system.allocator.regions.toList = before ++ region :: after ∧
        region.start ≤ pointer ∧ pointer + layout.bytes ≤ region.stop ∧
        pointer % layout.align = 0 ∧
        regions.toList = before ++ (remainders region pointer (pointer + layout.bytes) ++ after) ∧
        allocator = { system.allocator with
          regions := regions
          freeBytes := system.allocator.freeBytes - layout.bytes } := by
  rw [allocate, if_pos owned.initialized] at call
  rcases scan : scanRegions system.allocator.regions layout.align layout.bytes 0
      system.allocator.regions.len with _ | ⟨index, start⟩
  · simp only [scan, Prod.mk.injEq] at call
    exact .inl ⟨call.1.symm, call.2.symm⟩
  rcases carved : splitRegion system.allocator.regions index start (start + layout.bytes) with
    _ | regions
  · simp only [scan, carved, Prod.mk.injEq] at call
    exact .inl ⟨call.1.symm, call.2.symm⟩
  simp only [scan, carved, Prod.mk.injEq] at call
  rcases call with ⟨rfl, rfl⟩
  rcases scanRegions_found (Nat.le_of_eq (Nat.zero_add _)) scan with
    ⟨within, rfl, representable, fits⟩
  rcases exists_split _ within with ⟨before, after, split, rfl⟩
  have bound : (system.allocator.regions.slots before.length).stop < 2 ^ 64 :=
    owned.region_bound (split ▸ mem_append_right _ mem_cons_self)
  rw [endExclusive_eq bound] at fits
  have below : (system.allocator.regions.slots before.length).start +
      (layout.align - 1) < 2 ^ 64 := by
    rcases safe _ scan with below | refused
    · exact below
    · rw [refused] at carved
      cases carved
  rcases alignUp_spec below with ⟨starts, aligned⟩
  exact .inr ⟨regions, before, _, after, split, starts, fits, aligned,
    splitRegion_cases split bound starts (Nat.lt_add_of_pos_right layout.bytes_pos) fits carved,
    rfl⟩

theorem allocate (safe : system.Safe (.allocate layout))
    (taken : system.step (.allocate layout) = some next) : Owned heap next := by
  rcases call : system.allocator.allocate layout with ⟨pointer, allocator⟩
  simp only [HeapSystem.step, call] at taken
  rcases owned.allocate_cases safe call with ⟨rfl, rfl⟩ |
    ⟨regions, before, region, after, split, starts, ends, aligned, held, rfl⟩
  · rw [if_pos rfl] at taken
    cases taken
    exact owned
  have inHeap := owned.region_inside (split ▸ mem_append_right _ mem_cons_self)
  have notNull : pointer ≠ nullPointer :=
    Nat.pos_iff_ne_zero.mp (Nat.lt_of_lt_of_le heap.start_pos (Nat.le_trans inHeap.1 starts))
  rw [if_neg notNull] at taken
  cases taken
  have nonempty : pointer < pointer + layout.bytes := Nat.lt_add_of_pos_right layout.bytes_pos
  have carved : (cellsOf system.allocator.regions.toList).Perm
      (cellsOf regions.toList ++ cells ⟨pointer, layout.bytes⟩) := by
    have parts := cells_remainders starts nonempty ends
    rw [Nat.add_sub_cancel_left] at parts
    simp only [split, held, cellsOf_append, cellsOf_cons, append_assoc]
    refine List.Perm.append_left _ ((parts.append_right _).trans ?_)
    rw [append_assoc]
    exact perm_append_comm.append_left _
  have sizes := carved.length_eq
  rw [length_append, length_cellsOf, length_cellsOf, ← owned.free, cells, length_range'] at sizes
  rcases owned.bytes with ⟨lost, counted, partition⟩
  refine ⟨owned.initialized, owned.capacity, ?_, ?_, ?_, lost, counted, ?_⟩
  · exact held ▸ (split ▸ owned.spaced).replace (remainders_spaced starts nonempty)
      (remainders_within starts nonempty ends)
  · exact Nat.sub_eq_of_eq_add sizes
  · exact forall_mem_cons.mpr ⟨aligned, owned.aligned⟩
  · rw [map_cons, cellsOf_cons, append_assoc, ← append_assoc]
    exact (carved.symm.append_right _).trans partition

theorem region_apart
    (free : region ∈ system.allocator.regions.toList) (live : block ∈ system.live) :
    region.cells.Disjoint block.region.cells := by
  intro address inRegion inBlock
  refine (nodup_append'.mp owned.nodup).2.2
    (mem_flatMap.mpr ⟨region, free, inRegion⟩) ?_
  exact mem_flatMap.mpr ⟨_, mem_map_of_mem live, inBlock⟩

theorem deallocate
    (taken : system.step (.deallocate pointer layout) = some next) : Owned heap next := by
  rcases Option.ite_none_right_eq_some.mp taken with ⟨member, result⟩
  cases result
  have bound : pointer + layout.bytes < 2 ^ 64 :=
    Nat.lt_of_le_of_lt (owned.block_inside member).2 heap.bound
  have fits : system.allocator.freeBytes + layout.bytes < 2 ^ 64 ∧
      system.allocator.droppedFreeBytes + layout.bytes < 2 ^ 64 := by
    have accounted := owned.accounted
    have bound := heap.bound
    have included : layout.bytes ≤ (system.live.map fun block => block.layout.bytes).sum :=
      le_sum_of_mem (mem_map_of_mem member)
    omega
  have apart : ∀ other ∈ system.allocator.regions.toList,
      other.cells.Disjoint (FreeRegion.cells ⟨pointer, layout.bytes⟩) :=
    fun other free => owned.region_apart free member
  have liveCells : (cellsOf (system.live.map Block.region)).Perm
      (FreeRegion.cells ⟨pointer, layout.bytes⟩ ++
        cellsOf ((system.live.erase ⟨pointer, layout⟩).map Block.region)) :=
    ((perm_cons_erase member).map _).flatMap_right _
  have aligned : ∀ block ∈ system.live.erase ⟨pointer, layout⟩,
      block.start % block.layout.align = 0 :=
    fun block kept => owned.aligned block (mem_of_mem_erase kept)
  have freed : system.allocator.deallocate pointer layout =
      system.allocator.insertAndCoalesce ⟨pointer, layout.bytes⟩ := by
    rw [deallocate, if_pos owned.initialized, if_neg (Nat.not_le.mpr bound)]
  rcases owned.bytes with ⟨lost, counted, partition⟩
  rcases insertAndCoalesce_cases owned.spaced layout.bytes_pos apart
      (fun other free => owned.region_bound free) bound freed.symm with
    ⟨regions, held, same⟩ |
      ⟨regions, before, neighbours, after, merged, split, held, spaced, cells, same⟩
  · rw [same]
    refine ⟨owned.initialized, owned.capacity, held ▸ owned.spaced, held ▸ owned.free, aligned,
      FreeRegion.cells ⟨pointer, layout.bytes⟩ ++ lost, ?_, ?_⟩
    · simp only [length_append, counted, FreeRegion.cells, length_range', saturatingAdd]
      omega
    rw [held]
    refine (List.Perm.append_left _ ?_).trans partition
    rw [← append_assoc]
    exact ((perm_append_comm.trans liveCells.symm).append_right _)
  · rw [same]
    have grown : (cellsOf regions.toList).Perm (cellsOf system.allocator.regions.toList ++
        FreeRegion.cells ⟨pointer, layout.bytes⟩) := by
      simp only [split, held, cellsOf_append, cellsOf_cons, append_assoc]
      refine List.Perm.append_left _ ((cells.append_right _).trans ?_)
      rw [append_assoc, ← append_assoc (cellsOf neighbours)]
      exact perm_append_comm
    have sizes := grown.length_eq
    rw [length_append, length_cellsOf, length_cellsOf, ← owned.free,
      FreeRegion.cells, length_range'] at sizes
    refine ⟨owned.initialized, owned.capacity, spaced, ?_, aligned, lost, counted, ?_⟩
    · simp only [saturatingAdd, sizes]
      omega
    refine ((grown.append_right _).trans ?_).trans partition
    rw [append_assoc]
    apply List.Perm.append_left _
    rw [← append_assoc]
    exact liveCells.symm.append_right _

end

theorem step (taken : system.step action = some next) (safe : system.Safe action)
    (owned : Owned heap system) : Owned heap next := by
  cases action with
  | allocate => exact owned.allocate safe taken
  | deallocate => exact owned.deallocate taken

end Owned

theorem initial_owned {allocator : FreeListAllocator}
    (made : empty.initializeHeap heap.start heap.size = .ok allocator) :
    Owned heap ⟨allocator, []⟩ := by
  cases made
  refine ⟨rfl, rfl, ⟨?_, pairwise_singleton _ _⟩, rfl, nofun, [], rfl, ?_⟩
  · exact forall_mem_singleton.mpr heap.size_pos
  · simp [toList]

/-- In every run of safe requests and of returns of live blocks: the free
regions are in order with gaps between them; live blocks are aligned and share
no byte with each other or with a free region; all of them lie in the heap; and
every byte of the heap is counted. -/
theorem heap_blocks_apart {allocator : FreeListAllocator} {actions : List HeapAction}
    {system : HeapSystem} (made : empty.initializeHeap heap.start heap.size = .ok allocator)
    (execution : run step ⟨allocator, []⟩ actions = some system)
    (safe : EveryStep step Safe ⟨allocator, []⟩ actions) :
    system.allocator.regions.toList.Pairwise
        (fun first second => first.stop < second.start) ∧
      (∀ region ∈ system.allocator.regions.toList, 0 < region.size ∧
        heap.start ≤ region.start ∧ region.stop ≤ heap.stop) ∧
      (∀ block ∈ system.live, block.start % block.layout.align = 0 ∧
        heap.start ≤ block.start ∧ block.region.stop ≤ heap.stop) ∧
      system.live.Pairwise
        (fun first second => first.region.cells.Disjoint second.region.cells) ∧
      (∀ region ∈ system.allocator.regions.toList, ∀ block ∈ system.live,
        region.cells.Disjoint block.region.cells) ∧
      system.allocator.freeBytes = (system.allocator.regions.toList.map size).sum ∧
      system.allocator.capacityBytes = heap.size ∧
      system.allocator.capacityBytes = system.allocator.freeBytes +
        ((system.live.map fun block => block.layout.bytes).sum +
          system.allocator.droppedFreeBytes) := by
  have owned : Owned heap system :=
    everyStep_preserves (Owned heap) Safe Owned.step execution safe (initial_owned made)
  have liveCells := (nodup_flatMap.mp (nodup_append'.mp owned.nodup).2.1).2
  have blocks := pairwise_map.mp liveCells
  exact ⟨owned.spaced.gaps,
    fun region free => ⟨owned.spaced.positive region free, owned.region_inside free⟩,
    fun block live => ⟨owned.aligned block live, owned.block_inside live⟩,
    blocks,
    fun region free block live => owned.region_apart free live,
    owned.free, owned.capacity, owned.capacity.trans owned.accounted.symm⟩

def smallHeap : HeapRange := ⟨⟨0x3003, 0x4000⟩, by decide, by decide, by decide⟩

def wideLayout : Layout := ⟨160, 64, ⟨6, rfl⟩, by decide⟩

def narrowLayout : Layout := ⟨24, 8, ⟨3, rfl⟩, by decide⟩

/-- An aligned block splits the heap in two, a second one comes out of the first
part, and the first block goes back between them. -/
def splitAndReturn : List HeapAction :=
  [.allocate wideLayout, .allocate narrowLayout, .deallocate 0x3040 wideLayout]

theorem heap_blocks_apart_when_split :
    ∃ allocator system,
      empty.initializeHeap smallHeap.start smallHeap.size = .ok allocator ∧
      run step ⟨allocator, []⟩ splitAndReturn = some system ∧
      system.allocator.regions.toList = [⟨0x3003, 5⟩, ⟨0x3020, 0x3fe3⟩] ∧
      system.allocator.regions.toList.Pairwise (fun first second => first.stop < second.start) :=
  ⟨_, _, rfl, rfl, by decide +kernel,
    (@heap_blocks_apart smallHeap _ _ _ rfl
      (rfl : run step ⟨_, []⟩ splitAndReturn = some _) (by decide +kernel)).1⟩

/-! ## An alignment that wraps around -/

/-- The heap of the kernel's address space layout. -/
def kernelHeap : HeapRange :=
  ⟨⟨0xffffc10000000000, 0x4000000⟩, by decide, by decide, by decide⟩

/-- No address at or above the heap's start is a multiple of this alignment. -/
def hugeLayout : Layout := ⟨1, 2 ^ 46, ⟨46, rfl⟩, by decide⟩

/-- A single request that the heap cannot serve leaves a free region that
starts at address 1, below the heap. -/
theorem refused_request_corrupts :
    ∃ allocator system,
      empty.initializeHeap kernelHeap.start kernelHeap.size = .ok allocator ∧
      run step ⟨allocator, []⟩ [.allocate hugeLayout] = some system ∧ system.live = [] ∧
      system.allocator.regions.toList =
        [⟨0xffffc10000000000, 0x3f0000000000⟩, ⟨1, 0xffffc10003ffffff⟩] :=
  ⟨_, _, rfl, rfl, by decide +kernel, by decide +kernel⟩

end HeapSystem
end ServiceOS.Memory
