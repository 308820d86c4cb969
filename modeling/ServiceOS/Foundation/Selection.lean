import Mathlib

/-! # Choosing from a list

The last of the elements with the largest key. -/

namespace ServiceOS.Selection

open List

variable {α κ : Type} [LinearOrder κ]

def later (key : α → κ) (best : Option α) (element : α) : Option α :=
  match best with
  | none => some element
  | some chosen => if key chosen ≤ key element then some element else some chosen

def maxByKey (key : α → κ) (elements : List α) : Option α := elements.foldl (later key) none

/-- A choice among the elements seen so far. -/
def Best (key : α → κ) (seen : List α) (best : Option α) : Prop :=
  (best = none ↔ seen = []) ∧
    ∀ chosen, best = some chosen → chosen ∈ seen ∧ ∀ element ∈ seen, key element ≤ key chosen

variable {key : α → κ} {seen elements : List α}

theorem best_later (holds : Best key seen best)
    (element : α) : Best key (seen ++ [element]) (later key best element) := by
  rcases holds with ⟨empty, largest⟩
  have here : element ∈ seen ++ [element] := mem_append_right seen (mem_singleton_self _)
  cases best with
  | none =>
    cases empty.mp rfl
    refine ⟨by simp [later], ?_⟩
    intro chosen made
    cases made
    exact ⟨here, fun other member => mem_singleton.mp member ▸ le_refl _⟩
  | some previous =>
    rcases largest previous rfl with ⟨member, above⟩
    rw [later]
    split
    next smaller =>
      refine ⟨by simp, ?_⟩
      intro chosen made
      cases made
      refine ⟨here, fun other among => ?_⟩
      rcases mem_append.mp among with among | among
      · exact le_trans (above other among) smaller
      · exact mem_singleton.mp among ▸ le_refl _
    next larger =>
      refine ⟨by simp, ?_⟩
      intro chosen made
      cases made
      refine ⟨mem_append_left _ member, fun other among => ?_⟩
      rcases mem_append.mp among with among | among
      · exact above other among
      · exact mem_singleton.mp among ▸ le_of_lt (not_le.mp larger)

theorem best_foldl (holds : Best key seen best) :
    Best key (seen ++ elements) (elements.foldl (later key) best) := by
  induction elements generalizing seen best with
  | nil => rwa [append_nil]
  | cons element elements induction =>
    have next := induction (best_later holds element)
    rwa [append_assoc] at next

theorem best_maxByKey : Best key elements (maxByKey key elements) :=
  @best_foldl α κ _ key [] elements none ⟨by simp, fun _ made => nomatch made⟩

end ServiceOS.Selection
