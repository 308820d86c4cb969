import Mathlib

/-! # Code that threads a state and may stop early

The state survives a stop, so what happened before an error can be spoken
about. The rules below say what code guarantees when it answers and when it
stops, and which relations between its first and its last state it respects. -/

namespace ServiceOS

/-- Why code did not answer: it reported an error, or a loop of it was cut off. -/
inductive Stop (Error : Type)
  | error (error : Error)
  | outOfFuel
deriving DecidableEq

def Fallible (State Error Answer : Type) : Type :=
  State → Except (Stop Error) Answer × State

namespace Fallible

variable {State Error Answer Result : Type}

def answer (value : Answer) : Fallible State Error Answer := fun state => (.ok value, state)

def sequence (code : Fallible State Error Answer)
    (next : Answer → Fallible State Error Result) : Fallible State Error Result := fun state =>
  match code state with
  | (.error stop, state) => (.error stop, state)
  | (.ok value, state) => next value state

instance : Monad (Fallible State Error) where
  pure := answer
  bind := sequence

def lift (computed : Except (Stop Error) Answer) : Fallible State Error Answer := fun state =>
  (computed, state)

instance : MonadLift (Except Error) (Fallible State Error) where
  monadLift computed := lift (computed.mapError .error)

/-! ## Reading, writing, stopping -/

def gets (part : State → Answer) : Fallible State Error Answer := fun state =>
  (.ok (part state), state)

def modify (change : State → State) : Fallible State Error Unit := fun state =>
  (.ok (), change state)

def fail (error : Error) : Fallible State Error Answer := fun state =>
  (.error (.error error), state)

def result? (code : Fallible State Error Answer) (state : State) : Option Answer :=
  match (code state).1 with
  | .error _ => none
  | .ok value => some value

variable {code : Fallible State Error Answer}

theorem result?_eq_some :
    code.result? state = some value ↔ ∃ after, code state = (.ok value, after) := by
  rcases call : code state with ⟨_ | answer, after⟩ <;> simp [result?, call]

def withDefault (code : Fallible State Error Answer) (default : Answer) :
    Fallible State Error Answer := fun state =>
  match code state with
  | (.error _, state) => (.ok default, state)
  | (.ok value, state) => (.ok value, state)

def mapError {Error' : Type} (change : Error → Error') (code : Fallible State Error Answer) :
    Fallible State Error' Answer := fun state =>
  match code state with
  | (.error (.error error), state) => (.error (.error (change error)), state)
  | (.error .outOfFuel, state) => (.error .outOfFuel, state)
  | (.ok value, state) => (.ok value, state)

theorem withDefault_of_answer (default : Answer) (call : code state = (.ok value, after)) :
    code.withDefault default state = (.ok value, after) := by
  rw [withDefault, call]

theorem mapError_answers (answers : code.mapError change state = (.ok value, after)) :
    code state = (.ok value, after) := by
  rw [mapError] at answers
  split at answers <;> cases answers
  assumption

section

theorem bind_of_stop (call : code state = (.error stop, after)) :
    (code >>= next) state = (.error stop, after) := by
  simp only [bind, sequence, call]

theorem bind_of_answer (call : code state = (.ok value, after)) :
    (code >>= next) state = next value after := by
  simp only [bind, sequence, call]

theorem bind_answers (call : (code >>= next) state = (.ok result, after)) :
    ∃ value between, code state = (.ok value, between) ∧
      next value between = (.ok result, after) := by
  rcases first : code state with ⟨_ | value, between⟩
  · rw [bind_of_stop first] at call
    cases call
  · rw [bind_of_answer first] at call
    exact ⟨value, between, rfl, call⟩

theorem gets_bind :
    (gets part >>= next) state = next (part state) state := rfl

theorem lift_of_ok {computed : Except Error Answer} (done : computed = .ok value) (state : State) :
    (liftM computed : Fallible State Error Answer) state = (.ok value, state) := by
  rw [done]
  rfl

end

/-! ## What code guarantees -/

/-- From `state` the code answers as `answered` says or stops as `stopped` says. -/
def Ensures (code : Fallible State Error Answer) (state : State)
    (answered : Answer → State → Prop) (stopped : Stop Error → State → Prop) : Prop :=
  match code state with
  | (.ok value, after) => answered value after
  | (.error stop, after) => stopped stop after

instance {code : Fallible State Error Answer} {state : State} {answered : Answer → State → Prop}
    {stopped : Stop Error → State → Prop} [∀ value after, Decidable (answered value after)]
    [∀ stop after, Decidable (stopped stop after)] :
    Decidable (code.Ensures state answered stopped) :=
  match call : code state with
  | (.ok value, after) =>
    decidable_of_iff (answered value after) (by rw [Ensures, call])
  | (.error stop, after) =>
    decidable_of_iff (stopped stop after) (by rw [Ensures, call])

section

variable {next : Answer → Fallible State Error Result}

theorem Ensures.answer (ensures : code.Ensures state answered stopped)
    (call : code state = (.ok value, after)) : answered value after := by
  rw [Ensures, call] at ensures
  exact ensures

theorem Ensures.stop (ensures : code.Ensures state answered stopped) {stop : Stop Error}
    (call : code state = (.error stop, after)) : stopped stop after := by
  rw [Ensures, call] at ensures
  exact ensures

theorem ensures_of_cases
    (answers : ∀ {value after}, code state = (.ok value, after) → answered value after)
    (stops : ∀ {stop after}, code state = (.error stop, after) → stopped stop after) :
    code.Ensures state answered stopped := by
  rcases call : code state with ⟨_ | value, after⟩
  · rw [Ensures, call]
    exact stops call
  · rw [Ensures, call]
    exact answers call

theorem Ensures.mono (ensures : code.Ensures state answered stopped)
    (answers : ∀ value after, answered value after → answered' value after)
    (stops : ∀ stop after, stopped stop after → stopped' stop after) :
    code.Ensures state answered' stopped' :=
  ensures_of_cases (fun call => answers _ _ (ensures.answer call))
    fun call => stops _ _ (ensures.stop call)

theorem ensures_pure (holds : answered value state) :
    Ensures (pure value) state answered stopped := holds

theorem ensures_bind (ensures : code.Ensures state
      (fun value between => (next value).Ensures between finished stopped)
      stopped) : (code >>= next).Ensures state finished stopped := by
  rcases call : code state with ⟨_ | value, between⟩
  · rw [Ensures, bind_of_stop call]
    exact ensures.stop call
  · rw [Ensures, bind_of_answer call]
    exact ensures.answer call

/-- Where nothing is asked of a stop, only the answers of the first part matter. -/
theorem ensures_bind_call (later : ∀ value between, code state = (.ok value, between) →
      (next value).Ensures between finished fun _ _ => True) :
    (code >>= next).Ensures state finished fun _ _ => True :=
  ensures_bind (ensures_of_cases (later _ _) fun _ => trivial)

theorem ensures_bind_of_answer (call : code state = (.ok value, after))
    (ensures : (next value).Ensures after finished stopped) :
    (code >>= next).Ensures state finished stopped := by
  rw [Ensures, bind_of_answer call]
  exact ensures

/-- What a sequence ensures is up to its second part once the first has answered. -/
theorem Ensures.of_bind (ensures : (code >>= next).Ensures state finished stopped)
    (call : code state = (.ok value, after)) : (next value).Ensures after finished stopped := by
  rw [Ensures, bind_of_answer call] at ensures
  exact ensures

theorem ensures_lift {computed : Except Error Answer}
    (answers : ∀ value, computed = .ok value → answered value state)
    (stops : ∀ error, computed = .error error → stopped (.error error) state) :
    Ensures (liftM computed : Fallible State Error Answer) state answered stopped := by
  rcases computed with error | value
  · exact stops error rfl
  · exact answers value rfl

@[simp] theorem ensures_gets_iff :
    Ensures (gets part >>= next) state finished stopped ↔
      (next (part state)).Ensures state finished stopped := Iff.rfl

@[simp] theorem ensures_modify_iff :
    Ensures (modify change >>= rest) state finished stopped ↔
      (rest ()).Ensures (change state) finished stopped := Iff.rfl

end

/-! ## What code can answer -/

def Answers (code : Fallible State Error Answer) (allowed : Answer → Prop) : Prop :=
  ∀ state value after, code state = (.ok value, after) → allowed value

section

variable {next : Answer → Fallible State Error Result}

theorem answers_pure (holds : allowed value) :
    Answers (pure value : Fallible State Error Answer) allowed := by
  intro state other after call
  cases call
  exact holds

theorem answers_bind (later : ∀ value, (next value).Answers finished) :
    (code >>= next).Answers finished := by
  intro state result after call
  rcases bind_answers call with ⟨value, between, _, call⟩
  exact later value _ _ _ call

end

/-! ## Relations code respects -/

/-- Whatever the outcome, the last state is related to the first. -/
def Respects (code : Fallible State Error Answer) (relation : State → State → Prop) : Prop :=
  ∀ state, relation state (code state).2

section

variable {relation : State → State → Prop} {next : Answer → Fallible State Error Result}

section

variable (respects : code.Respects relation)

include respects

theorem Respects.of_call (call : code state = (outcome, after)) : relation state after := by
  have related := respects state
  rwa [call] at related

theorem Respects.mono (weakens : ∀ {first last}, relation first last → weaker first last) :
    code.Respects weaker := fun state => weakens (respects state)

theorem Respects.ensures (state : State) :
    code.Ensures state (fun _ after => relation state after) fun _ after => relation state after :=
  ensures_of_cases respects.of_call respects.of_call

end

theorem relation_of_ensures (ensures : code.Ensures state (fun _ after => relation state after)
      fun _ after => relation state after) : relation state (code state).2 := by
  rcases call : code state with ⟨_ | value, after⟩
  · exact ensures.stop call
  · exact ensures.answer call

theorem respects_ite [Decidable condition] (holds : condition → code.Respects relation)
    (fails : ¬condition → code'.Respects relation) :
    (if condition then code else code').Respects relation := by
  split
  next condition => exact holds condition
  next condition => exact fails condition

variable [IsPreorder State relation]

theorem respects_pure :
    Respects (pure value : Fallible State Error Answer) relation := refl_of relation

theorem respects_lift {computed : Except Error Answer} :
    Respects (liftM computed : Fallible State Error Answer) relation := refl_of relation

theorem respects_bind (first : code.Respects relation)
    (later : ∀ value, (next value).Respects relation) : (code >>= next).Respects relation := by
  intro state
  have here := first state
  rcases call : code state with ⟨_ | value, between⟩
  · rw [bind_of_stop call]
    rwa [call] at here
  rw [bind_of_answer call]
  rw [call] at here
  exact trans_of relation here (later value between)

omit [IsPreorder State relation] in
theorem Respects.withDefault (respects : code.Respects relation) (default : Answer) :
    (code.withDefault default).Respects relation := by
  intro state
  have related := respects state
  rcases call : code state with ⟨_ | value, after⟩ <;> rw [call] at related
  all_goals
    rw [Fallible.withDefault, call]
    exact related

theorem respects_lift_bind {computed : Except Error Answer}
    (later : ∀ value, computed = .ok value → (next value).Respects relation) :
    ((liftM computed : Fallible State Error Answer) >>= next).Respects relation := by
  rcases computed with error | value
  · exact refl_of relation
  · exact later value rfl

end

end Fallible
end ServiceOS
