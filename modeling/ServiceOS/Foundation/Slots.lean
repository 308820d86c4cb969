import Mathlib

/-! # Arrays of optional entries

A fixed number of slots, each empty or holding a value. As a bounded bag a value
goes into the first empty slot and the value in the first occupied one is taken,
so only the values it holds matter, not their order. As a table a slot is named
by its index. -/

namespace ServiceOS

open List

@[ext]
structure Slots (α : Type) (capacity : Nat) where
  entries : List (Option α)
  length_eq : entries.length = capacity
deriving DecidableEq

namespace Slots

variable {α : Type} {capacity : Nat}

def empty (capacity : Nat) : Slots α capacity :=
  ⟨replicate capacity none, length_replicate⟩

def fillFirst (value : α) : List (Option α) → Option (List (Option α))
  | [] => none
  | none :: rest => some (some value :: rest)
  | some other :: rest => (fillFirst value rest).map (some other :: ·)

def takeFirst : List (Option α) → Option α × List (Option α)
  | [] => (none, [])
  | none :: rest => (takeFirst rest).map id (none :: ·)
  | some value :: rest => (some value, none :: rest)

variable {slots next : Slots α capacity} {entries : List (Option α)}

theorem fillFirst_cases :
    (fillFirst value entries = none ∧ none ∉ entries) ∨
      ∃ filled, fillFirst value entries = some filled ∧ filled.length = entries.length ∧
        filled.reduceOption.Perm (value :: entries.reduceOption) := by
  induction entries with
  | nil => exact .inl ⟨rfl, not_mem_nil⟩
  | cons entry rest induction =>
    cases entry with
    | none => exact .inr ⟨_, rfl, rfl, .refl _⟩
    | some other =>
      rcases induction with ⟨refused, full⟩ | ⟨filled, accepted, length, held⟩
      · exact .inl ⟨by rw [fillFirst, refused]; rfl, by simp [full]⟩
      refine .inr ⟨some other :: filled, by rw [fillFirst, accepted]; rfl, by simp [length], ?_⟩
      exact (held.cons other).trans (.swap _ _ _)

theorem takeFirst_cases (call : takeFirst entries = (taken, rest)) :
    rest.length = entries.length ∧ entries.reduceOption = taken.toList ++ rest.reduceOption := by
  induction entries generalizing rest with
  | nil =>
    cases call
    exact ⟨rfl, rfl⟩
  | cons entry others induction =>
    cases entry with
    | none =>
      rcases inner : takeFirst others with ⟨found, remaining⟩
      rw [takeFirst, inner] at call
      cases call
      rcases induction inner with ⟨length, held⟩
      exact ⟨by simp [length], by simpa using held⟩
    | some =>
      cases call
      exact ⟨rfl, by simp⟩

/-- The answer is `none` when every slot is taken. -/
def push (slots : Slots α capacity) (value : α) : Option (Slots α capacity) :=
  match call : fillFirst value slots.entries with
  | none => none
  | some entries => some ⟨entries, by
      rcases fillFirst_cases with ⟨refused, -⟩ | ⟨filled, accepted, length, -⟩
      · exact nomatch refused.symm.trans call
      · cases accepted.symm.trans call
        exact length.trans slots.length_eq⟩

def pop (slots : Slots α capacity) : Option α × Slots α capacity :=
  match call : takeFirst slots.entries with
  | (taken, entries) => (taken, ⟨entries, (takeFirst_cases call).1.trans slots.length_eq⟩)

def values (slots : Slots α capacity) : List α := slots.entries.reduceOption

theorem values_push
    (accepted : slots.push value = some next) : next.values.Perm (value :: slots.values) := by
  unfold push at accepted
  split at accepted
  · cases accepted
  rename_i call
  cases accepted
  rcases fillFirst_cases with ⟨refused, -⟩ | ⟨filled, made, -, held⟩
  · exact nomatch refused.symm.trans call
  · cases made.symm.trans call
    exact held

theorem values_pop
    (call : slots.pop = (taken, next)) : slots.values = taken.toList ++ next.values := by
  rcases inner : takeFirst slots.entries with ⟨found, entries⟩
  have shape : slots.pop = (found, ⟨entries, (takeFirst_cases inner).1.trans slots.length_eq⟩) := by
    unfold pop
    split
    next here =>
      cases here.symm.trans inner
      rfl
  cases shape.symm.trans call
  exact (takeFirst_cases inner).2

/-! ## In order -/

/-- No value is behind an empty slot. -/
abbrev Packed (entries : List (Option α)) : Prop :=
  entries.Pairwise fun before after => after.isSome → before.isSome

theorem fillFirst_packed (packed : Packed entries)
    (accepted : fillFirst value entries = some filled) :
    filled.reduceOption = entries.reduceOption ++ [value] ∧ Packed filled := by
  induction packed generalizing filled with
  | nil => cases accepted
  | @cons entry rest behind packed induction =>
    cases entry with
    | none =>
      cases accepted
      have free : rest.reduceOption = [] := by
        simpa [reduceOption, filterMap_eq_nil_iff] using behind
      simp [free, packed]
    | some =>
      rcases Option.map_eq_some_iff.mp accepted with ⟨grown, inner, rfl⟩
      simp [induction inner]

theorem values_push_packed (packed : Packed slots.entries)
    (accepted : slots.push value = some next) :
    next.values = slots.values ++ [value] ∧ Packed next.entries := by
  unfold push at accepted
  split at accepted <;> cases accepted
  next call => exact fillFirst_packed packed call

/-! ## By index -/

def get? (slots : Slots α capacity) (index : Nat) : Option α := slots.entries[index]?.join

def set (slots : Slots α capacity) (index : Nat) (value : Option α) : Slots α capacity :=
  ⟨slots.entries.set index value, by rw [length_set, slots.length_eq]⟩

def firstFree (slots : Slots α capacity) : Option Nat := slots.entries.findIdx? Option.isNone

def position (slots : Slots α capacity) (test : α → Bool) : Option Nat :=
  slots.entries.findIdx? (Option.any test)

def update (slots : Slots α capacity) (change : α → Option α) : Slots α capacity :=
  ⟨slots.entries.map (Option.bind · change), by rw [length_map, slots.length_eq]⟩

theorem ext_get? (same : ∀ index, slots.get? index = other.get? index) : slots = other := by
  apply Slots.ext
  apply ext_getElem (slots.length_eq.trans other.length_eq.symm)
  intro index inside _
  have here := same index
  rw [get?, get?, getElem?_eq_getElem inside, getElem?_eq_getElem] at here
  exact here

theorem lt_of_get?_eq_some (held : slots.get? index = some value) : index < capacity := by
  rw [← slots.length_eq]
  by_contra outside
  rw [get?, getElem?_eq_none (Nat.le_of_not_lt outside)] at held
  cases held

@[simp] theorem get?_empty (index : Nat) :
    (empty capacity : Slots α capacity).get? index = none := by
  rw [get?, empty, getElem?_replicate]
  split <;> rfl

theorem get?_set_self (slots : Slots α capacity) (inside : index < capacity)
    (value : Option α) : (slots.set index value).get? index = value := by
  rw [get?, set, getElem?_set_self (slots.length_eq.symm ▸ inside)]
  rfl

theorem get?_set_ne (slots : Slots α capacity) (different : index ≠ other)
    (value : Option α) : (slots.set index value).get? other = slots.get? other := by
  rw [get?, set, getElem?_set_ne different, get?]

/-- A slot after an assignment holds the new value or what it held. -/
theorem get?_set_cases (here : (slots.set index value).get? other = some held) :
    (other = index ∧ value = some held) ∨ (other ≠ index ∧ slots.get? other = some held) := by
  by_cases same : index = other
  · cases same
    have inside := lt_of_get?_eq_some here
    rw [get?_set_self slots inside] at here
    exact .inl ⟨rfl, here⟩
  · rw [get?_set_ne slots same] at here
    exact .inr ⟨Ne.symm same, here⟩

theorem set_set (slots : Slots α capacity) (index : Nat) (first second : Option α) :
    (slots.set index first).set index second = slots.set index second :=
  Slots.ext (List.set_set first)

theorem get?_set_none (slots : Slots α capacity) (index other : Nat) :
    (slots.set index none).get? other = if other = index then none else slots.get? other := by
  split
  next same =>
    rcases held : (slots.set index none).get? other with _ | value
    · rfl
    rcases get?_set_cases held with ⟨-, made⟩ | ⟨different, -⟩
    · cases made
    · exact absurd same different
  next different => exact get?_set_ne slots (Ne.symm different) none

theorem held_of_set_none
    (held : (slots.set index none).get? other = some value) : slots.get? other = some value := by
  rw [get?_set_none] at held
  split at held
  · cases held
  · exact held

theorem distinct_set_some {key : α → β}
    (distinct : ∀ {first second left right}, slots.get? first = some left →
      slots.get? second = some right → key left = key right → first = second)
    (apart : ∀ place held, slots.get? place = some held → key held = key value → place = index)
    (held : (slots.set index (some value)).get? first = some left)
    (heldToo : (slots.set index (some value)).get? second = some right)
    (same : key left = key right) : first = second := by
  rcases get?_set_cases held with ⟨rfl, made⟩ | ⟨-, before⟩
  · cases made
    rcases get?_set_cases heldToo with ⟨rfl, -⟩ | ⟨-, beforeToo⟩
    · rfl
    · exact (apart second right beforeToo same.symm).symm
  rcases get?_set_cases heldToo with ⟨rfl, made⟩ | ⟨-, beforeToo⟩
  · cases made
    exact apart first left before same
  · exact distinct before beforeToo same

@[simp] theorem get?_update (slots : Slots α capacity) (change : α → Option α) (index : Nat) :
    (slots.update change).get? index = (slots.get? index).bind change := by
  rw [get?, update, getElem?_map, get?]
  rcases slots.entries[index]? with _ | _ | _ <;> rfl

theorem firstFree_eq_some
    (free : slots.firstFree = some index) : index < capacity ∧ slots.get? index = none := by
  rcases findIdx?_eq_some_iff_getElem.mp free with ⟨inside, empty, -⟩
  refine ⟨slots.length_eq ▸ inside, ?_⟩
  rw [get?, getElem?_eq_getElem inside]
  exact Option.isNone_iff_eq_none.mp empty

theorem position_eq_some (found : slots.position test = some index) :
    ∃ value, slots.get? index = some value ∧ test value = true := by
  rcases findIdx?_eq_some_iff_getElem.mp found with ⟨inside, passes, -⟩
  rcases held : slots.entries[index] with _ | value
  · rw [held] at passes
    cases passes
  · rw [held] at passes
    exact ⟨value, by rw [get?, getElem?_eq_getElem inside, held]; rfl, passes⟩

theorem position_first (found : slots.position test = some index) (before : place < index)
    (held : slots.get? place = some value) : test value = false := by
  rcases List.findIdx?_eq_some_iff_getElem.mp found with ⟨_, _, fails⟩
  rw [get?, Option.join_eq_some_iff] at held
  rcases List.getElem?_eq_some_iff.mp held with ⟨_, there⟩
  have earlier := fails place before
  rw [there] at earlier
  exact Bool.not_eq_true _ ▸ earlier

theorem position_eq_none :
    slots.position test = none ↔ ∀ index value, slots.get? index = some value →
      test value = false := by
  rw [position, findIdx?_eq_none_iff]
  constructor
  · intro fails index value held
    rw [get?, Option.join_eq_some_iff] at held
    exact fails (some value) (mem_of_getElem? held)
  intro fails entry member
  cases entry with
  | none => rfl
  | some value =>
    rcases getElem?_of_mem member with ⟨index, held⟩
    exact fails index value (by rw [get?, held]; rfl)

theorem mem_values : value ∈ slots.values ↔ ∃ index, slots.get? index = some value := by
  rw [values, reduceOption_mem_iff, mem_iff_getElem?]
  simp only [get?, Option.join_eq_some_iff]

theorem any_take :
    ((slots.entries.take index).any fun entry => entry.any test) = true ↔
      ∃ place value, place < index ∧ slots.get? place = some value ∧ test value = true := by
  simp only [List.any_eq_true, List.mem_take_iff_getElem, Option.any_eq_true]
  constructor
  · rintro ⟨entry, ⟨place, inside, rfl⟩, value, held, passes⟩
    rw [Nat.lt_min] at inside
    refine ⟨place, value, inside.1, ?_, passes⟩
    rw [get?, List.getElem?_eq_getElem inside.2, held, Option.join_some]
  rintro ⟨place, value, before, held, passes⟩
  rw [get?, Option.join_eq_some_iff] at held
  rcases List.getElem?_eq_some_iff.mp held with ⟨inside, there⟩
  exact ⟨some value, ⟨place, Nat.lt_min.mpr ⟨before, inside⟩, there⟩, value, rfl, passes⟩

theorem get?_of_mem_zipIdx
    (member : (some value, index) ∈ slots.entries.zipIdx) : slots.get? index = some value := by
  rw [get?, mem_zipIdx_iff_getElem?.mp member, Option.join_some]

theorem reduceOption_cons (entry : Option α) (entries : List (Option α)) :
    (entry :: entries).reduceOption = entry.toList ++ entries.reduceOption := by
  cases entry <;> rfl

/-- What a slot is made to hold comes on top of the other values. -/
theorem values_set (slots : Slots α capacity) (inside : index < capacity) (value : Option α) :
    (slots.set index value).values.Perm (value.toList ++ (slots.set index none).values) := by
  have bound : index < slots.entries.length := by rwa [slots.length_eq]
  have split (value : Option α) : (slots.set index value).values.Perm
      (value.toList ++ (slots.entries.eraseIdx index).reduceOption) := by
    rw [← reduceOption_cons]
    exact (set_perm_cons_eraseIdx bound value).filterMap id
  exact (split value).trans ((split none).symm.append_left value.toList)

theorem set_get? (slots : Slots α capacity) (inside : index < capacity) :
    slots.set index (slots.get? index) = slots := by
  apply ext_get?
  intro place
  by_cases here : index = place
  · rw [← here, get?_set_self _ inside]
  · rw [get?_set_ne _ here]

theorem values_update (slots : Slots α capacity) (change : α → Option α) :
    (slots.update change).values = slots.values.filterMap change := by
  rw [values, values, update]
  simp only [reduceOption, filterMap_map, filterMap_filterMap]
  rfl

theorem forall_values {holds : α → Prop} :
    (∀ value ∈ slots.values, holds value) ↔
      ∀ index value, slots.get? index = some value → holds value := by
  simp only [mem_values, forall_exists_index, forall_comm (α := α)]

end Slots
end ServiceOS
