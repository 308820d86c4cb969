import ServiceOS.Time.Conservation

/-! # The order of the wakeups

A wakeup is pushed into the first empty slot and the first one is taken, so
their order is kept only while none of them is behind an empty slot. -/

namespace ServiceOS.Time

open Execution List

namespace TimeState

/-- The wakeups that `expire` pushes, in order. -/
def expired (now : MonotonicInstant) (ready : Slots WakeEvent maxReadyWakeups) :
    List (Option ArmedTimer) → List WakeEvent
  | [] => []
  | slot :: slots =>
    let (_, after, fired) := fire now slot ready
    (slot.toList.take fired).map (·.arming.wakeup) ++ expired now after slots

variable (state : TimeState)

def pushes : TimeAction → List WakeEvent
  | .armWakeup token request =>
    let event := ⟨token, .deadlineExpired⟩
    if request.deadline ≤ state.now ∧ (state.ready.push event).isSome then [event] else []
  | .handleTick => expired (state.now.saturatingAdd 1) state.ready state.timers.entries
  | .takeWakeup => []

/-- Whoever pushes finds no wakeup behind an empty slot. -/
abbrev PushesPacked (action : TimeAction) : Prop :=
  state.pushes action ≠ [] → Slots.Packed state.ready.entries

theorem fire_pushes (now : MonotonicInstant) (slot : Option ArmedTimer)
    (ready : Slots WakeEvent maxReadyWakeups) :
    (fire now slot ready).2 = (ready, 0) ∨
      ∃ timer after, slot = some timer ∧ (fire now slot ready).2 = (after, 1) ∧
        ready.push timer.arming.wakeup = some after := by
  unfold fire
  split
  · exact .inl rfl
  split
  · exact .inl rfl
  split
  · exact .inl rfl
  next accepted => exact .inr ⟨_, _, rfl, rfl, accepted⟩

theorem values_expire {now : MonotonicInstant} {ready : Slots WakeEvent maxReadyWakeups}
    (packed : expired now ready slots ≠ [] → Slots.Packed ready.entries) :
    (expire now ready slots).2.1.values = ready.values ++ expired now ready slots := by
  induction slots generalizing ready with
  | nil => simp [expire, expired]
  | cons slot slots induction =>
    rcases fire_pushes now slot ready with kept | ⟨timer, after, rfl, fired, accepted⟩
    · simp only [expire, expired, kept] at packed ⊢
      exact induction packed
    rcases Slots.values_push_packed (packed (by simp [expired, fired])) accepted with
      ⟨values, packed⟩
    simp only [expire, expired, fired]
    rw [induction fun _ => packed, values, append_assoc]
    rfl

variable {state} in
theorem values_armWakeup (packed : state.PushesPacked (.armWakeup token request)) :
    (state.armWakeup token request).2.ready.values =
      state.ready.values ++ state.pushes (.armWakeup token request) := by
  unfold armWakeup
  dsimp only [PushesPacked, pushes] at packed ⊢
  split
  next due =>
    split
    next accepted =>
      rw [if_pos ⟨due, by rw [accepted]; rfl⟩] at packed ⊢
      exact (Slots.values_push_packed (packed (cons_ne_nil _ _)) accepted).1
    next refused => simp [refused]
  next later => split <;> simp [later]

end TimeState

/-- The time manager with the wakeups that were pushed and those that were returned. -/
structure WakeupLog where
  time : TimeState
  pushed : List WakeEvent
  returned : List WakeEvent

namespace WakeupLog

def boot : WakeupLog := ⟨.new, [], []⟩

variable (log : WakeupLog) (action : TimeAction)

def step : Option WakeupLog :=
  let pushed := log.pushed ++ log.time.pushes action
  match action with
  | .armWakeup token request => some ⟨(log.time.armWakeup token request).2, pushed, log.returned⟩
  | .handleTick => some ⟨log.time.handleTick.2, pushed, log.returned⟩
  | .takeWakeup =>
    match log.time.takeWakeup with
    | (event, time) => some ⟨time, pushed, log.returned ++ event.toList⟩

def InOrder : Prop := log.returned ++ log.time.ready.values = log.pushed

variable {log action}

theorem InOrder.step {next : WakeupLog} (taken : log.step action = some next)
    (packed : log.time.PushesPacked action) (ordered : log.InOrder) : next.InOrder := by
  unfold InOrder at ordered ⊢
  cases action with
  | armWakeup =>
    cases taken
    rw [TimeState.values_armWakeup packed, ← ordered, append_assoc]
  | handleTick =>
    cases taken
    rw [← ordered, append_assoc]
    exact congrArg _ (TimeState.values_expire packed)
  | takeWakeup =>
    rcases call : log.time.takeWakeup with ⟨event, time⟩
    simp only [WakeupLog.step, call] at taken
    cases taken
    rw [← ordered, (TimeState.takeWakeup_cases call).2.2, append_assoc]
    exact (append_nil _).symm

/-- What was returned, and then what is ready, is what was pushed in its order. -/
theorem wakeups_in_order {actions : List TimeAction} (ran : run step boot actions = some log)
    (packed : EveryStep step (fun log => log.time.PushesPacked) boot actions) :
    log.returned ++ log.time.ready.values = log.pushed :=
  everyStep_preserves InOrder _ InOrder.step ran packed rfl

def twoDue : List TimeAction :=
  [.armWakeup 1 (.oneShot 1), .armWakeup 2 (.oneShot 1), .armWakeup 3 (.oneShot 2), .handleTick,
    .takeWakeup]

def drained : List TimeAction := twoDue ++ [.takeWakeup, .handleTick, .takeWakeup]

theorem wakeups_in_order_of_three :
    ∃ log, run step boot drained = some log ∧ log.returned.map (·.token) = [1, 2, 3] ∧
      log.returned ++ log.time.ready.values = log.pushed :=
  ⟨_, rfl, by decide +kernel, @wakeups_in_order _ drained rfl (by decide +kernel)⟩

/-- The third wakeup takes the slot the first has left, and overtakes the second. -/
theorem wakeup_overtakes :
    ∃ log, run step boot (twoDue ++ [.handleTick, .takeWakeup]) = some log ∧
      log.pushed.map (·.token) = [1, 2, 3] ∧ log.returned.map (·.token) = [1, 3] :=
  ⟨_, rfl, by decide +kernel, by decide +kernel⟩

end WakeupLog
end ServiceOS.Time
