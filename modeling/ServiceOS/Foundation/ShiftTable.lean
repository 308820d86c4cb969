import Mathlib

/-! # Fixed-capacity tables kept dense by shifting

A table is an array whose first `len` slots are in use. Entries are inserted
and removed in the middle by loops that move the entries behind them one slot
at a time; on `toList` these are insertion and removal at a position. -/

namespace ServiceOS

open Function List

structure ShiftTable (α : Type) (capacity : Nat) where
  slots : Nat → α
  len : Nat
  len_le : len ≤ capacity

namespace ShiftTable

variable {α : Type}

/-- `count` slots from `cursor` on each take their successor's value, first to last. -/
def shiftDown (slots : Nat → α) (cursor : Nat) : Nat → Nat → α
  | 0 => slots
  | count + 1 =>
    shiftDown (update slots cursor (slots (cursor + 1))) (cursor + 1) count

/-- `count` slots after `cursor` each take their predecessor's value, last to first. -/
def shiftUp (slots : Nat → α) (cursor : Nat) : Nat → Nat → α
  | 0 => slots
  | count + 1 =>
    shiftUp (update slots (cursor + count + 1) (slots (cursor + count))) cursor count

def set (table : ShiftTable α capacity) (index : Nat) (value : α) : ShiftTable α capacity :=
  { table with slots := update table.slots index value }

/-- The slot that becomes free at the end is filled with `filler`. -/
def removeAt (filler : α) (table : ShiftTable α capacity) (index : Nat) :
    ShiftTable α capacity where
  slots := update (shiftDown table.slots index (table.len - 1 - index))
    (table.len - 1) filler
  len := table.len - 1
  len_le := Nat.le_trans (Nat.sub_le _ _) table.len_le

def insertAt (table : ShiftTable α capacity) (room : table.len < capacity) (index : Nat)
    (value : α) : ShiftTable α capacity where
  slots := update (shiftUp table.slots index (table.len - index)) index value
  len := table.len + 1
  len_le := room

/-! ## A table is a bounded list -/

def toList (table : ShiftTable α capacity) : List α :=
  (range table.len).map table.slots

@[simp] theorem length_toList (table : ShiftTable α capacity) :
    table.toList.length = table.len := by
  simp [toList]

variable {table : ShiftTable α capacity} {values after before : List α}

theorem toList_eq (length : values.length = table.len)
    (slots : ∀ index (bound : index < values.length), table.slots index = values[index]) :
    table.toList = values := by
  refine ext_getElem (by simp [length]) fun index _ bound => ?_
  simp [toList, slots index bound]

theorem slots_eq_getElem (table : ShiftTable α capacity) (held : table.toList = values)
    (bound : index < values.length) : table.slots index = values[index] := by
  subst held
  simp [toList]

theorem len_of_split
    (split : table.toList = before ++ after) : table.len = before.length + after.length := by
  rw [← length_toList, split, length_append]

theorem slots_of_split (split : table.toList = before ++ value :: after) :
    table.slots before.length = value := by
  rw [table.slots_eq_getElem split (by simp)]
  simp

theorem exists_split (table : ShiftTable α capacity) (bound : index < table.len) :
    ∃ before after, table.toList = before ++ table.slots index :: after ∧
      before.length = index := by
  have within : index < table.toList.length := by simpa using bound
  refine ⟨table.toList.take index, table.toList.drop (index + 1), ?_, ?_⟩
  · rw [table.slots_eq_getElem rfl within, ← drop_eq_getElem_cons within, take_append_drop]
  · rw [length_take, Nat.min_eq_left (Nat.le_of_lt within)]

theorem shiftDown_apply (slots : Nat → α) (cursor count index : Nat) :
    shiftDown slots cursor count index =
      if cursor ≤ index ∧ index < cursor + count then slots (index + 1) else slots index := by
  induction count generalizing slots cursor with
  | zero => rw [shiftDown, if_neg (by omega)]
  | succ count induction =>
    rw [shiftDown, induction]
    rcases Nat.lt_trichotomy index cursor with below | rfl | above
    · rw [if_neg (by omega), if_neg (by omega), update_of_ne (by omega)]
    · rw [if_neg (by omega), if_pos (by omega), update_self]
    · rw [update_of_ne (by omega), update_of_ne (by omega)]
      exact if_congr (by omega) rfl rfl

theorem shiftUp_apply (slots : Nat → α) (cursor count index : Nat) :
    shiftUp slots cursor count index =
      if cursor < index ∧ index ≤ cursor + count then slots (index - 1) else slots index := by
  induction count generalizing slots with
  | zero => rw [shiftUp, if_neg (by omega)]
  | succ count induction =>
    rw [shiftUp, induction]
    rcases Nat.lt_trichotomy index (cursor + count + 1) with below | rfl | above
    · rw [update_of_ne (by omega), update_of_ne (by omega)]
      exact if_congr (by omega) rfl rfl
    · rw [if_neg (by omega), if_pos (by omega), update_self, Nat.add_sub_cancel]
    · rw [if_neg (by omega), if_neg (by omega), update_of_ne (by omega)]

theorem toList_set (split : table.toList = before ++ old :: after) (value : α) :
    (table.set before.length value).toList = before ++ value :: after := by
  have length := len_of_split split
  refine toList_eq (by simpa [set] using length.symm) fun index bound => ?_
  dsimp only [set]
  by_cases here : index = before.length
  · subst here
    simp
  rw [update_of_ne here, table.slots_eq_getElem split (by simpa using bound)]
  simp only [getElem_append, getElem_cons]
  split
  · rfl
  · rw [dif_neg (by omega), dif_neg (by omega)]

theorem toList_removeAt (split : table.toList = before ++ value :: after) (filler : α) :
    (table.removeAt filler before.length).toList = before ++ after := by
  have length := len_of_split split
  rw [length_cons] at length
  refine toList_eq (by simp [removeAt, length]) fun index bound => ?_
  rw [length_append] at bound
  dsimp only [removeAt]
  rw [update_of_ne (by omega), shiftDown_apply]
  split
  next behind =>
    rw [table.slots_eq_getElem split (by simp; omega), getElem_append_right (by omega),
      getElem_append_right behind.1]
    simp only [Nat.sub_add_comm behind.1, getElem_cons_succ]
  have ahead : index < before.length := by omega
  rw [table.slots_eq_getElem split (by simp; omega), getElem_append_left ahead,
    getElem_append_left ahead]

theorem toList_insertAt (split : table.toList = before ++ after) (room : table.len < capacity)
    (value : α) : (table.insertAt room before.length value).toList = before ++ value :: after := by
  have length := len_of_split split
  refine toList_eq (by simp [insertAt, length]; omega) fun index bound => ?_
  rw [length_append, length_cons] at bound
  dsimp only [insertAt]
  rcases Nat.lt_trichotomy index before.length with ahead | rfl | behind
  · rw [update_of_ne (by omega), shiftUp_apply, if_neg (by omega),
      table.slots_eq_getElem split (by simp; omega), getElem_append_left ahead,
      getElem_append_left ahead]
  · simp
  rw [update_of_ne (by omega), shiftUp_apply, if_pos (by omega),
    table.slots_eq_getElem split (by simp; omega), getElem_append_right (by omega),
    getElem_append_right (by omega)]
  simp only [getElem_cons, dif_neg (show index - before.length ≠ 0 by omega)]
  congr 1
  omega

end ShiftTable
end ServiceOS
