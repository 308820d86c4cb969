import Mathlib

/-! # Loops that may not end

A loop body answers with a result or with the state of the next round. A loop that
follows an orbit ends when the orbit comes to a stop. -/

namespace ServiceOS.Loop

open List

variable {State Result : Type}

def iterate (body : State → Result ⊕ State) : Nat → State → Option Result
  | 0, _ => none
  | fuel + 1, state =>
    match body state with
    | .inl result => some result
    | .inr next => iterate body fuel next

def visited (body : State → Result ⊕ State) : Nat → State → List State
  | 0, _ => []
  | rounds + 1, state =>
    match body state with
    | .inl _ => [state]
    | .inr next => state :: visited body rounds next

variable {body : State → Result ⊕ State}

theorem visited_of_continues {next : State} (continues : body start = .inr next) (rounds : Nat) :
    visited body (rounds + 1) start = start :: visited body rounds next := by
  rw [visited, continues]

/-- A loop whose rounds bring a measure down ends before the measure is used up. -/
theorem iterate_ends_of_measure (Going : State → Prop) (measure : State → Nat)
    (advances : ∀ {state next}, Going state → body state = .inr next →
      Going next ∧ measure next < measure state)
    (going : Going start) (enough : measure start < fuel) :
    ∃ result, iterate body fuel start = some result := by
  induction fuel generalizing start with
  | zero => exact absurd enough (Nat.not_lt_zero _)
  | succ fuel induction =>
    rw [iterate]
    split
    next result _ => exact ⟨result, rfl⟩
    rename_i continues
    rcases advances going continues with ⟨stillGoing, less⟩
    exact induction stillGoing (by omega)

variable (Invariant : State → Prop)

/-- What holds at the start and is kept by every round that is made holds when a
round starts. -/
theorem visited_preserves
    (keeps : ∀ state ∈ visited body rounds start, Invariant state →
      ∀ next, body state = .inr next → Invariant next)
    (holds : Invariant start) : ∀ state ∈ visited body rounds start, Invariant state := by
  induction rounds generalizing start with
  | zero => exact nofun
  | succ rounds induction =>
    rcases round : body start with result | next
    · rw [visited, round]
      exact fun state member => mem_singleton.mp member ▸ holds
    rw [visited_of_continues round] at keeps ⊢
    refine forall_mem_cons.mpr ⟨holds, induction ?_ ?_⟩
    · exact fun state member => keeps state (mem_cons_of_mem start member)
    · exact keeps start mem_cons_self holds next round

/-- What holds at the start and is kept by every round that is made, the last one
included, holds when the loop ends. -/
theorem iterate_preserves_visited (Final : Result → Prop)
    (keeps : ∀ state ∈ visited body fuel start, Invariant state →
      ∀ next, body state = .inr next → Invariant next)
    (closes : ∀ state ∈ visited body fuel start, Invariant state →
      ∀ result, body state = .inl result → Final result)
    (holds : Invariant start)
    (finished : iterate body fuel start = some result) : Final result := by
  induction fuel generalizing start with
  | zero => cases finished
  | succ fuel induction =>
    rw [iterate] at finished
    split at finished
    next result ends =>
      cases finished
      refine closes start ?_ holds result ends
      rw [visited, ends]
      exact mem_singleton_self start
    rename_i next continues
    rw [visited_of_continues continues] at keeps closes
    refine induction ?_ ?_ (keeps start mem_cons_self holds next continues) finished
    · exact fun state member => keeps state (mem_cons_of_mem start member)
    · exact fun state member => closes state (mem_cons_of_mem start member)

theorem iterate_preserves (Final : Result → Prop)
    (keeps : ∀ {state next}, Invariant state → body state = .inr next → Invariant next)
    (closes : ∀ {state result}, Invariant state → body state = .inl result → Final result)
    (holds : Invariant start) (finished : iterate body fuel start = some result) : Final result :=
  iterate_preserves_visited Invariant Final (fun _ _ holds _ => keeps holds)
    (fun _ _ holds _ => closes holds) holds finished

theorem iterate_of_visited_end (member : state ∈ visited body fuel start)
    (ends : body state = .inl result) : iterate body fuel start = some result := by
  induction fuel generalizing start with
  | zero => cases member
  | succ fuel induction =>
    rw [visited] at member
    rw [iterate]
    split at member
    next ended =>
      cases mem_singleton.mp member
      rw [ends] at ended
      cases ended
      rfl
    rename_i continues
    rcases mem_cons.mp member with rfl | member
    · rw [ends] at continues
      cases continues
    · exact induction member

theorem iterate_never_ends (Going : State → Prop)
    (goesOn : ∀ {state}, Going state → ∃ next, body state = .inr next ∧ Going next)
    (going : Going start) (fuel : Nat) : iterate body fuel start = none := by
  induction fuel generalizing start with
  | zero => rfl
  | succ fuel induction =>
    rcases goesOn going with ⟨next, continues, stillGoing⟩
    rw [iterate, continues]
    exact induction stillGoing

/-- An orbit that comes to a stop does so before the places that do not stop are used up: from a
place that is met twice it would have come to the stop earlier. -/
theorem exists_stop_le {advance : Nat → Nat} {Stops : Nat → Prop}
    (bounded : ∀ {place}, ¬Stops place → place < bound)
    (ends : ∃ steps, Stops (advance^[steps] start)) :
    ∃ steps ≤ bound, Stops (advance^[steps] start) := by
  classical
  refine ⟨Nat.find ends, ?_, Nat.find_spec ends⟩
  have apart : ∀ {earlier later}, earlier < later → later < Nat.find ends →
      advance^[earlier] start ≠ advance^[later] start := by
    intro earlier later order within same
    apply Nat.find_min ends (show Nat.find ends - later + earlier < Nat.find ends by omega)
    rw [Function.iterate_add_apply, same, ← Function.iterate_add_apply,
      Nat.sub_add_cancel within.le]
    exact Nat.find_spec ends
  let place (step : Fin (Nat.find ends)) : Fin bound :=
    ⟨advance^[step.val] start, bounded (Nat.find_min ends step.isLt)⟩
  have injective : Function.Injective place := by
    intro first second same
    have same := Fin.val_eq_of_eq same
    rcases lt_trichotomy first second with order | equal | order
    · exact absurd same (apart order second.isLt)
    · exact equal
    · exact absurd same.symm (apart order first.isLt)
  simpa using Fintype.card_le_of_injective place injective

/-- A loop whose position follows an orbit ends if the orbit comes to a stop. What its rounds
keep holds of the result. -/
theorem iterate_ends_of_orbit {advance : Nat → Nat} {position : State → Nat} {Stops : Nat → Prop}
    (Invariant : State → Prop) (Final : Result → Prop)
    (round : ∀ {state}, Invariant state → (∃ result, body state = .inl result ∧ Final result) ∨
      ∃ next, body state = .inr next ∧ ¬Stops (position state) ∧
        position next = advance (position state) ∧ Invariant next)
    (bounded : ∀ {place}, ¬Stops place → place < bound)
    (ends : ∃ steps, Stops (advance^[steps] (position start))) (holds : Invariant start) :
    ∃ result, iterate body (bound + 1) start = some result ∧ Final result := by
  rcases exists_stop_le bounded ends with ⟨steps, few, stop⟩
  have enough : steps < bound + 1 := Nat.lt_succ_of_le few
  clear ends few
  generalize bound + 1 = fuel at enough ⊢
  induction fuel generalizing start steps with
  | zero => exact absurd enough (Nat.not_lt_zero _)
  | succ fuel induction =>
    rw [iterate]
    rcases round holds with ⟨result, ends, final⟩ | ⟨next, continues, going, followed, kept⟩
    · rw [ends]
      exact ⟨result, rfl, final⟩
    rw [continues]
    cases steps with
    | zero => exact absurd stop going
    | succ steps => exact induction kept steps (followed ▸ stop) (by omega)

end ServiceOS.Loop
