import Mathlib

/-! # What comes before what

Facts about the order of entries in a list that grows at its end. -/

namespace ServiceOS.History

open List

variable {Entry : Type}

/-- Every entry that is an `effect` comes after one that is a `cause`. -/
def PrecededBy (cause effect : Entry → Prop) (history : List Entry) : Prop :=
  ∀ earlier entry later, history = earlier ++ entry :: later → effect entry →
    ∃ before ∈ earlier, cause before

/-- New entries keep the order if there is a cause already or they are no effects. -/
theorem PrecededBy.append (preceded : PrecededBy cause effect history)
    (ordered : (∃ before ∈ history, cause before) ∨ ∀ entry ∈ entries, ¬effect entry) :
    PrecededBy cause effect (history ++ entries) := by
  intro earlier entry later split isEffect
  rcases append_eq_append_iff.mp split with
    ⟨between, earlierEq, entriesEq⟩ | ⟨between, historyEq, laterEq⟩
  · rcases ordered with ⟨before, member, isCause⟩ | none
    · refine ⟨before, ?_, isCause⟩
      rw [earlierEq]
      exact mem_append_left between member
    refine absurd isEffect (none entry ?_)
    rw [entriesEq]
    exact mem_append_right between mem_cons_self
  · cases between with
    | nil =>
      rcases ordered with ⟨before, member, isCause⟩ | none
      · refine ⟨before, ?_, isCause⟩
        rwa [historyEq, append_nil] at member
      refine absurd isEffect (none entry ?_)
      rw [nil_append] at laterEq
      rw [← laterEq]
      exact mem_cons_self
    | cons head tail =>
      rw [cons_append, cons.injEq] at laterEq
      exact preceded earlier head tail historyEq (laterEq.1 ▸ isEffect)

end ServiceOS.History
