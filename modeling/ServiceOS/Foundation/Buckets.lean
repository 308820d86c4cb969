import Mathlib

/-! # Values spread over a fixed number of queues

What matters of several queues is often only which values they hold together.
`all` lists them, and each operation on one queue changes `all` up to order. -/

namespace ServiceOS.Buckets

open Function List

variable {α : Type} {count : Nat}

def pushBack (queues : Fin count → List α) (owner : Fin count) (value : α) : Fin count → List α :=
  update queues owner (queues owner ++ [value])

def popFront (queues : Fin count → List α) (owner : Fin count) :
    Option (α × (Fin count → List α)) :=
  match queues owner with
  | [] => none
  | value :: rest => some (value, update queues owner rest)

def popAny (queues : Fin count → List α) : Option (α × (Fin count → List α)) :=
  (finRange count).findSome? (popFront queues)

/-- Take the first occurrence of a value out of one queue to the end of another. -/
def move [DecidableEq α] (queues : Fin count → List α) (source target : Fin count)
    (value : α) : Fin count → List α :=
  pushBack (update queues source ((queues source).erase value)) target value

def all (queues : Fin count → List α) : List α := (finRange count).flatMap queues

variable {queues rest : Fin count → List α}

theorem mem_all : value ∈ all queues ↔ ∃ owner, value ∈ queues owner := by
  simp [all]

theorem all_update_perm (queues : Fin count → List α) (owner : Fin count) (queue : List α) :
    (queues owner ++ all (update queues owner queue)).Perm (queue ++ all queues) := by
  rcases append_of_mem (mem_finRange owner) with ⟨before, after, split⟩
  have distinct := nodup_finRange count
  rw [split] at distinct
  rcases nodup_append'.mp distinct with ⟨-, fresh, apart⟩
  have elsewhere : ∀ others : List (Fin count), owner ∉ others →
      others.flatMap (update queues owner queue) = others.flatMap queues := by
    intro others absent
    refine flatMap_congr fun other member => update_of_ne ?_ _ _
    rintro rfl
    exact absent member
  have first := elsewhere before fun member => apart member mem_cons_self
  have second := elsewhere after (nodup_cons.mp fresh).1
  rw [all, all, split, flatMap_append, flatMap_append, flatMap_cons, first, second, update_self]
  apply (perm_append_comm_assoc _ _ _).trans
  apply (List.Perm.append_left _ (perm_append_comm_assoc _ _ _)).trans
  exact perm_append_comm_assoc _ _ _

theorem all_pushBack (queues : Fin count → List α) (owner : Fin count) (value : α) :
    (all (pushBack queues owner value)).Perm (value :: all queues) := by
  have changed := all_update_perm queues owner (queues owner ++ [value])
  rw [append_assoc, perm_append_left_iff] at changed
  exact changed

theorem all_popFront (popped : popFront queues owner = some (value, rest)) :
    (all queues).Perm (value :: all rest) := by
  unfold popFront at popped
  split at popped
  · cases popped
  rename_i behind front
  cases popped
  have changed := all_update_perm queues owner behind
  rw [front] at changed
  have swapped := changed.symm.trans (perm_middle.symm)
  exact (perm_append_left_iff _).mp swapped

theorem all_popAny
    (popped : popAny queues = some (value, rest)) : (all queues).Perm (value :: all rest) := by
  rcases exists_of_findSome?_eq_some popped with ⟨owner, -, here⟩
  exact all_popFront here

theorem popAny_eq_none : popAny queues = none ↔ all queues = [] := by
  have empty : ∀ owner, popFront queues owner = none ↔ queues owner = [] := by
    intro owner
    unfold popFront
    split
    next vacant => simp [vacant]
    next front => simp [front]
  simp [popAny, all, empty, findSome?_eq_none_iff]

theorem all_move [DecidableEq α] (member : value ∈ queues source) (target : Fin count) :
    (all (move queues source target value)).Perm (all queues) := by
  have changed := all_update_perm queues source ((queues source).erase value)
  have without := ((perm_cons_erase member).symm.append_right _).trans changed
  have kept := (perm_append_left_iff _).mp (perm_middle.trans without)
  exact (all_pushBack _ target value).trans kept

end ServiceOS.Buckets
