import Mathlib

/-! # Fixed-capacity ring buffers

A ring is an array of optional values with a head and a length. It is a
bounded queue: `toList` is what it holds, oldest first, and every operation is
the corresponding list operation. -/

namespace ServiceOS

open Function List

namespace Ring

variable (head : Fin capacity)

/-- The slot `offset` places after `head`, wrapping at the end. -/
def position (offset : Nat) : Fin capacity :=
  ⟨(head.val + offset) % capacity, Nat.mod_lt _ head.pos⟩

@[simp] theorem position_zero : position head 0 = head := by
  simp [position, Nat.mod_eq_of_lt head.isLt]

@[simp] theorem position_capacity : position head capacity = head := by
  simp [position, Nat.mod_eq_of_lt head.isLt]

@[simp] theorem position_position (first second : Nat) :
    position (position head first) second = position head (first + second) := by
  simp [position, Nat.add_assoc]

theorem position_retreat (offset : Nat) :
    position head (capacity - 1 + (offset + 1)) = position head offset := by
  have positive := head.pos
  have around : capacity - 1 + (offset + 1) = capacity + offset := by omega
  rw [around, ← position_position, position_capacity]

variable {head : Fin capacity}

theorem position_inj (firstBound : first < capacity) (secondBound : second < capacity) :
    position head first = position head second ↔ first = second := by
  constructor
  · intro equal
    have congruent : Nat.ModEq capacity (head.val + first) (head.val + second) :=
      congrArg Fin.val equal
    exact Nat.ModEq.eq_of_lt_of_lt (congruent.add_left_cancel' _) firstBound secondBound
  · rintro rfl
    rfl

theorem position_ne_head (positive : 0 < offset) (bound : offset < capacity) :
    position head offset ≠ head := by
  intro equal
  rw [← position_zero head, position_position, Nat.zero_add, position_inj bound head.pos] at equal
  omega

end Ring

@[ext]
structure Ring (α : Type) (capacity : Nat) where
  slots : Fin capacity → Option α
  head : Fin capacity
  len : Nat
  len_le : len ≤ capacity
  /-- The `len` slots from the head hold values. -/
  occupied : ∀ offset < len, (slots (Ring.position head offset)).isSome

namespace Ring

variable {α : Type} {capacity : Nat}

def empty (positive : 0 < capacity) : Ring α capacity where
  slots _ := none
  head := ⟨0, positive⟩
  len := 0
  len_le := Nat.zero_le _
  occupied := by simp

variable (ring : Ring α capacity)

def slot (offset : Nat) : Option α :=
  ring.slots (position ring.head offset)

def pushBack (value : α) : Except α (Ring α capacity) :=
  if full : ring.len = capacity then
    .error value
  else
    .ok {
      slots := update ring.slots (position ring.head ring.len) (some value)
      head := ring.head
      len := ring.len + 1
      len_le := Nat.lt_of_le_of_ne ring.len_le full
      occupied := by
        intro offset bound
        rw [update_apply]
        split
        · rfl
        rename_i distinct
        refine ring.occupied offset (Nat.lt_of_le_of_ne (Nat.le_of_lt_succ bound) ?_)
        rintro rfl
        exact distinct rfl }

def popFront : Option α × Ring α capacity :=
  if ring.len = 0 then
    (none, ring)
  else
    (ring.slots ring.head, {
      slots := update ring.slots ring.head none
      head := position ring.head 1
      len := ring.len - 1
      len_le := Nat.le_trans (Nat.sub_le _ _) ring.len_le
      occupied := by
        intro offset bound
        have fits := ring.len_le
        rw [position_position, update_of_ne (position_ne_head (by omega) (by omega))]
        exact ring.occupied (1 + offset) (by omega) })

def pushFront (value : α) : Except α (Ring α capacity) :=
  if full : ring.len = capacity then
    .error value
  else
    .ok {
      slots := update ring.slots (position ring.head (capacity - 1)) (some value)
      head := position ring.head (capacity - 1)
      len := ring.len + 1
      len_le := Nat.lt_of_le_of_ne ring.len_le full
      occupied := by
        intro offset bound
        rw [position_position, update_apply]
        split
        · rfl
        rename_i distinct
        cases offset with
        | zero => exact absurd rfl distinct
        | succ offset =>
          rw [position_retreat]
          exact ring.occupied offset (by omega) }

/-! ## A ring is a bounded list -/

def toList : List α :=
  (range ring.len).filterMap ring.slot

theorem map_some_toList : ring.toList.map some = (range ring.len).map ring.slot := by
  have keep : ∀ offsets : List Nat, (∀ offset ∈ offsets, offset < ring.len) →
      (offsets.filterMap ring.slot).map some = offsets.map ring.slot := by
    intro offsets bounded
    induction offsets with
    | nil => rfl
    | cons offset offsets induction =>
      rcases forall_mem_cons.mp bounded with ⟨bound, rest⟩
      rcases Option.isSome_iff_exists.mp (ring.occupied offset bound) with ⟨value, found⟩
      have here : ring.slot offset = some value := found
      rw [filterMap_cons_some here, map_cons, map_cons, here, induction rest]
  exact keep _ fun offset => mem_range.mp

variable {ring : Ring α capacity}

theorem toList_eq (slots : (range ring.len).map ring.slot = values.map some) :
    ring.toList = values :=
  map_injective_iff.mpr (Option.some_injective α) (ring.map_some_toList.trans slots)

theorem pushBack_cases (call : ring.pushBack value = answer) :
    (ring.len = capacity ∧ answer = .error value) ∨
      (ring.len < capacity ∧
        ∃ pushed, answer = .ok pushed ∧ pushed.toList = ring.toList ++ [value]) := by
  have fits := ring.len_le
  unfold pushBack at call
  split at call
  next full => exact .inl ⟨full, call.symm⟩
  refine .inr ⟨by omega, _, call.symm, toList_eq ?_⟩
  rw [range_succ, map_append, map_append, ring.map_some_toList]
  congr 1
  · refine map_congr_left fun offset member => update_of_ne ?_ _ _
    have bound := mem_range.mp member
    rw [Ne, position_inj (by omega) (by omega)]
    omega
  · simp [slot]

theorem pushFront_cases (call : ring.pushFront value = answer) :
    (ring.len = capacity ∧ answer = .error value) ∨
      (ring.len < capacity ∧
        ∃ pushed, answer = .ok pushed ∧ pushed.toList = value :: ring.toList) := by
  have fits := ring.len_le
  unfold pushFront at call
  split at call
  next full => exact .inl ⟨full, call.symm⟩
  refine .inr ⟨by omega, _, call.symm, toList_eq ?_⟩
  rw [range_succ_eq_map, map_cons, map_cons, map_map, ring.map_some_toList]
  congr 1
  · simp [slot]
  refine map_congr_left fun offset member => ?_
  have bound := mem_range.mp member
  have distinct : position ring.head offset ≠ position ring.head (capacity - 1) := by
    rw [Ne, position_inj (by omega) (by omega)]
    omega
  simp only [comp_apply, Nat.succ_eq_add_one, slot, position_position,
    position_retreat, update_of_ne distinct]

/-- A value taken from the front goes back by `pushFront`, and the ring is then
the one it was taken from. -/
theorem popFront_cases (call : ring.popFront = (answer, rest)) :
    (ring.toList = [] ∧ answer = none ∧ rest = ring) ∨
      (∃ value, answer = some value ∧ ring.toList = value :: rest.toList ∧
        rest.pushFront value = .ok ring) := by
  unfold popFront at call
  split at call
  next vacant =>
    cases call
    exact .inl ⟨by simp [toList, vacant], rfl, rfl⟩
  have fits := ring.len_le
  have present := ring.occupied 0 (by omega)
  rw [position_zero] at present
  rcases Option.isSome_iff_exists.mp present with ⟨value, found⟩
  rcases Prod.mk.inj call with ⟨answered, shape⟩
  have back : rest.pushFront value = .ok ring := by
    have around : position (position ring.head 1) (capacity - 1) = ring.head := by
      rw [position_position, Nat.add_sub_cancel' (by omega), position_capacity]
    rw [← shape, pushFront, dif_neg (by dsimp only; omega)]
    refine congrArg Except.ok (Ring.ext ?_ ?_ ?_)
    · simp only [around, update_idem, ← found, update_eq_self]
    · exact around
    · exact Nat.sub_add_cancel (by omega)
  refine .inr ⟨value, answered.symm.trans found, ?_, back⟩
  rcases pushFront_cases back with ⟨-, refused⟩ | ⟨-, pushed, same, held⟩
  · cases refused
  · cases same
    exact held

/-! ## Sequences of calls -/

inductive Call (α : Type)
  | pushBack (value : α)
  | pushFront (value : α)
  | popFront

def afterPush (ring : Ring α capacity) :
    Except α (Ring α capacity) → Except α (Option α) × Ring α capacity
  | .error value => (.error value, ring)
  | .ok pushed => (.ok none, pushed)

/-- The answer is the value itself if it was refused, and what was taken if any. -/
def call (ring : Ring α capacity) : Call α → Except α (Option α) × Ring α capacity
  | .pushBack value => ring.afterPush (ring.pushBack value)
  | .pushFront value => ring.afterPush (ring.pushFront value)
  | .popFront => (.ok ring.popFront.1, ring.popFront.2)

/-- What a list of bounded length does. -/
def listCall (capacity : Nat) (values : List α) : Call α → Except α (Option α) × List α
  | .pushBack value =>
    if values.length = capacity then (.error value, values) else (.ok none, values ++ [value])
  | .pushFront value =>
    if values.length = capacity then (.error value, values) else (.ok none, value :: values)
  | .popFront => (.ok values.head?, values.tail)

def answers (step : State → Call α → Except α (Option α) × State) :
    State → List (Call α) → List (Except α (Option α)) × State
  | state, [] => ([], state)
  | state, call :: calls =>
    let rest := answers step (step state call).2 calls
    ((step state call).1 :: rest.1, rest.2)

/-- Only the slots from the head on hold values. -/
def Vacant (ring : Ring α capacity) : Prop :=
  ∀ place, (∀ offset < ring.len, position ring.head offset ≠ place) → ring.slots place = none

theorem length_toList : ring.toList.length = ring.len := by
  simpa using congrArg length ring.map_some_toList

theorem listCall_toList (call : Call α) :
    listCall capacity ring.toList call = ((ring.call call).1, (ring.call call).2.toList) := by
  cases call with
  | pushBack value =>
    rcases pushBack_cases (rfl : ring.pushBack value = _) with
      ⟨full, refused⟩ | ⟨room, pushed, made, held⟩
    · simp [listCall, Ring.call, afterPush, refused, length_toList, full]
    · simp [listCall, Ring.call, afterPush, made, length_toList, room.ne, held]
  | pushFront value =>
    rcases pushFront_cases (rfl : ring.pushFront value = _) with
      ⟨full, refused⟩ | ⟨room, pushed, made, held⟩
    · simp [listCall, Ring.call, afterPush, refused, length_toList, full]
    · simp [listCall, Ring.call, afterPush, made, length_toList, room.ne, held]
  | popFront =>
    rcases popped : ring.popFront with ⟨answer, rest⟩
    rcases popFront_cases popped with ⟨empty, rfl, rfl⟩ | ⟨value, rfl, held, -⟩
    · simp [listCall, Ring.call, popped, empty]
    · simp [listCall, Ring.call, popped, held]

theorem Vacant.call (vacant : ring.Vacant) (call : Call α) : (ring.call call).2.Vacant := by
  cases call with
  | pushBack value =>
    rw [Ring.call, pushBack]
    split
    · exact vacant
    intro place outside
    have other := outside ring.len (Nat.lt_succ_self _)
    refine (update_of_ne other.symm _ _).trans (vacant place fun offset bound => ?_)
    exact outside offset (Nat.lt_succ_of_lt bound)
  | pushFront value =>
    rw [Ring.call, pushFront]
    split
    · exact vacant
    intro place outside
    dsimp only [afterPush] at outside
    have other := outside 0 (Nat.succ_pos _)
    rw [position_zero] at other
    refine (update_of_ne other.symm _ _).trans (vacant place fun offset bound => ?_)
    have later := outside (offset + 1) (Nat.succ_lt_succ bound)
    rwa [position_position, position_retreat] at later
  | popFront =>
    rw [Ring.call, popFront]
    split
    · exact vacant
    intro place outside
    by_cases first : place = ring.head
    · rw [first]
      exact update_self _ _ _
    refine (update_of_ne first _ _).trans (vacant place fun offset bound => ?_)
    cases offset with
    | zero => exact fun same => first (same.symm.trans (position_zero _))
    | succ offset =>
      have later := outside offset (Nat.lt_sub_of_add_lt bound)
      rwa [position_position, Nat.add_comm] at later

theorem answers_toList (vacant : ring.Vacant) (calls : List (Call α)) :
    answers (listCall capacity) ring.toList calls =
        ((answers Ring.call ring calls).1, (answers Ring.call ring calls).2.toList) ∧
      (answers Ring.call ring calls).2.Vacant := by
  induction calls generalizing ring with
  | nil => exact ⟨rfl, vacant⟩
  | cons call calls induction =>
    rcases induction (vacant.call call) with ⟨same, still⟩
    refine ⟨?_, still⟩
    simp only [answers, listCall_toList, same]

end Ring
end ServiceOS
