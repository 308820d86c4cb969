import Mathlib

/-! # Executions of partial step functions

A component is a step function that answers `none` for a label its state does
not admit. Every run property of the development is derived from the
induction rules of this file. -/

namespace ServiceOS.Execution

variable {State Label : Type}

/-- The state reached by taking `labels` in order, oldest first. -/
def run (step : State → Label → Option State) : State → List Label → Option State
  | state, [] => some state
  | state, label :: labels => (step state label).bind (run step · labels)

/-- Every step the run takes starts in a state that meets `Allowed`. -/
def EveryStep (step : State → Label → Option State) (Allowed : State → Label → Prop) :
    State → List Label → Prop
  | _, [] => True
  | state, label :: labels =>
    Allowed state label ∧ ∀ next, step state label = some next → EveryStep step Allowed next labels

theorem everyStep_cons_of_some (taken : step state label = some next) :
    Allowed state label ∧ EveryStep step Allowed next labels ↔
      EveryStep step Allowed state (label :: labels) := by
  simp [EveryStep, taken]

theorem everyStep_cons_of_none (stuck : step state label = none) :
    Allowed state label ↔ EveryStep step Allowed state (label :: labels) := by
  simp [EveryStep, stuck]

/-- A decidable condition can be checked along a concrete run. -/
instance decidableEveryStep {Allowed : State → Label → Prop}
    [∀ state label, Decidable (Allowed state label)] :
    ∀ state labels, Decidable (EveryStep step Allowed state labels)
  | _, [] => .isTrue trivial
  | state, label :: labels =>
    match taken : step state label with
    | none => decidable_of_iff _ (everyStep_cons_of_none taken)
    | some next =>
      have : Decidable (EveryStep step Allowed next labels) := decidableEveryStep next labels
      decidable_of_iff _ (everyStep_cons_of_some taken)

theorem EveryStep.mono (weakens : ∀ {state label}, Allowed state label → Weaker state label)
    (all : EveryStep step Allowed state labels) : EveryStep step Weaker state labels := by
  induction labels generalizing state with
  | nil => trivial
  | cons label labels induction =>
    exact ⟨weakens all.1, fun next taken => induction (all.2 next taken)⟩

@[simp] theorem run_nil (state : State) : run step state [] = some state := rfl

theorem run_cons (state : State) (label : Label) (labels : List Label) :
    run step state (label :: labels) = (step state label).bind (run step · labels) := rfl

theorem run_cons_eq_some :
    run step state (label :: labels) = some final ↔
      ∃ next, step state label = some next ∧ run step next labels = some final := by
  rw [run_cons, Option.bind_eq_some_iff]

theorem run_append (state : State) (first second : List Label) :
    run step state (first ++ second) = (run step state first).bind (run step · second) := by
  induction first generalizing state with
  | nil => rfl
  | cons label labels induction =>
    simp only [List.cons_append, run_cons, Option.bind_assoc]
    exact congrArg _ (funext fun next => induction next)

theorem run_eq_getD (taken : (run step state labels).isSome = true) :
    run step state labels = some ((run step state labels).getD state) := by
  rcases Option.isSome_iff_exists.mp taken with ⟨final, ran⟩
  rw [ran]
  rfl

theorem EveryStep.of_append (all : EveryStep step Allowed state (first ++ second))
    (execution : run step state first = some next) :
    EveryStep step Allowed state first ∧ EveryStep step Allowed next second := by
  induction first generalizing state with
  | nil =>
    cases execution
    exact ⟨trivial, all⟩
  | cons label labels induction =>
    rcases run_cons_eq_some.mp execution with ⟨between, taken, rest⟩
    have tail := induction (all.2 between taken) rest
    refine ⟨⟨all.1, fun other takes => ?_⟩, tail.2⟩
    cases taken.symm.trans takes
    exact tail.1

/-- A reflexive and transitive relation that every step respects relates the
two ends of a run. -/
theorem run_relates (Related : State → State → Prop)
    (reflexive : ∀ state, Related state state)
    (transitive : ∀ {first second third}, Related first second → Related second third →
      Related first third)
    (stepRelates : ∀ {state next label}, step state label = some next → Related state next)
    (execution : run step start labels = some final) : Related start final := by
  induction labels generalizing start with
  | nil =>
    cases execution
    exact reflexive _
  | cons label labels induction =>
    rcases run_cons_eq_some.mp execution with ⟨next, taken, rest⟩
    exact transitive (stepRelates taken) (induction rest)

/-- What holds at the start and is kept by every step holds wherever a run ends. -/
theorem run_preserves (Invariant : State → Prop)
    (stepPreserves : ∀ {state next label}, step state label = some next →
      Invariant state → Invariant next)
    (execution : run step start labels = some final) (holds : Invariant start) :
    Invariant final :=
  run_relates (fun first second => Invariant first → Invariant second) (fun _ => id)
    (fun first second => second ∘ first) stepPreserves execution holds

/-- The invariant rule for runs whose steps all meet a condition. -/
theorem everyStep_preserves (Invariant : State → Prop) (Allowed : State → Label → Prop)
    (stepPreserves : ∀ {state next label}, step state label = some next →
      Allowed state label → Invariant state → Invariant next)
    (execution : run step start labels = some final)
    (allowed : EveryStep step Allowed start labels) (holds : Invariant start) :
    Invariant final := by
  induction labels generalizing start with
  | nil =>
    cases execution
    exact holds
  | cons label labels induction =>
    rcases run_cons_eq_some.mp execution with ⟨next, taken, rest⟩
    exact induction rest (allowed.2 next taken) (stepPreserves taken allowed.1 holds)

end ServiceOS.Execution
