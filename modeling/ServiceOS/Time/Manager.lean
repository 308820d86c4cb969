import ServiceOS.Foundation.Slots

/-! # The time manager

A counter of ticks, the armed timers, and the wakeups that wait to be taken.
Instants are 64-bit and stay at their maximum. -/

namespace ServiceOS.Time

open List

def maxArmedTimers : Nat := 64

def maxReadyWakeups : Nat := 64

abbrev MonotonicInstant := Nat

def MonotonicInstant.saturatingAdd (instant : MonotonicInstant) (ticks : Nat) : MonotonicInstant :=
  min (instant + ticks) (2 ^ 64 - 1)

abbrev TimerId := Nat

abbrev WakeToken := Nat

inductive WakeReason
  | deadlineExpired
deriving DecidableEq

structure WakeEvent where
  token : WakeToken
  reason : WakeReason
deriving DecidableEq

structure TimerRequest where
  deadline : MonotonicInstant
  intervalTicks : Option Nat
deriving DecidableEq

def TimerRequest.oneShot (deadline : MonotonicInstant) : TimerRequest := ⟨deadline, none⟩

inductive TimerError
  | unsupported
  | capacityExceeded

structure ArmedTimer where
  id : TimerId
  token : WakeToken
  request : TimerRequest

structure TickOutcome where
  now : MonotonicInstant
  expiredTimers : Nat

structure TimeState where
  nextTimerId : Nat
  now : MonotonicInstant
  timers : Slots ArmedTimer maxArmedTimers
  ready : Slots WakeEvent maxReadyWakeups

namespace TimeState

def new : TimeState := ⟨1, 0, .empty _, .empty _⟩

/-- A deadline that has passed makes the wakeup ready at once. -/
def armWakeup (state : TimeState) (token : WakeToken) (request : TimerRequest) :
    Except TimerError TimerId × TimeState :=
  let id := state.nextTimerId
  let state := { state with nextTimerId := min (state.nextTimerId + 1) (2 ^ 64 - 1) }
  if request.deadline ≤ state.now then
    match state.ready.push ⟨token, .deadlineExpired⟩ with
    | some ready => (.ok id, { state with ready := ready })
    | none => (.error .capacityExceeded, state)
  else
    match state.timers.push ⟨id, token, request⟩ with
    | some timers => (.ok id, { state with timers := timers })
    | none => (.error .capacityExceeded, state)

def rearm (now : MonotonicInstant) (timer : ArmedTimer) : Option ArmedTimer :=
  match timer.request.intervalTicks.filter (0 < ·) with
  | some intervalTicks =>
    some { timer with request.deadline := now.saturatingAdd intervalTicks }
  | none => none

/-- One round of the loop of `handle_tick`, with the number of wakeups made. A
timer whose wakeup finds no free slot stays armed. -/
def fire (now : MonotonicInstant) (slot : Option ArmedTimer)
    (ready : Slots WakeEvent maxReadyWakeups) :
    Option ArmedTimer × Slots WakeEvent maxReadyWakeups × Nat :=
  match slot with
  | none => (none, ready, 0)
  | some timer =>
    if now < timer.request.deadline then
      (some timer, ready, 0)
    else
      match ready.push ⟨timer.token, .deadlineExpired⟩ with
      | none => (some timer, ready, 0)
      | some ready => (rearm now timer, ready, 1)

def expire (now : MonotonicInstant) (ready : Slots WakeEvent maxReadyWakeups) :
    List (Option ArmedTimer) → List (Option ArmedTimer) × Slots WakeEvent maxReadyWakeups × Nat
  | [] => ([], ready, 0)
  | slot :: slots =>
    let (slot, ready, fired) := fire now slot ready
    let (slots, ready, expired) := expire now ready slots
    (slot :: slots, ready, fired + expired)

theorem length_expire (now : MonotonicInstant) (ready : Slots WakeEvent maxReadyWakeups)
    (slots : List (Option ArmedTimer)) : (expire now ready slots).1.length = slots.length := by
  induction slots generalizing ready with
  | nil => rfl
  | cons slot slots induction => simp [expire, induction]

def handleTick (state : TimeState) : TickOutcome × TimeState :=
  let now := state.now.saturatingAdd 1
  let result := expire now state.ready state.timers.entries
  (⟨now, result.2.2⟩, { state with
    now := now
    timers := ⟨result.1, (length_expire _ _ _).trans state.timers.length_eq⟩
    ready := result.2.1 })

def takeWakeup (state : TimeState) : Option WakeEvent × TimeState :=
  match state.ready.pop with
  | (event, ready) => (event, { state with ready := ready })

/-! ## Where timers and wakeups come from -/

variable {now : MonotonicInstant} {before after : Slots WakeEvent maxReadyWakeups}

theorem rearm_periodic (armed : rearm now timer = some again) :
    again.token = timer.token ∧ timer.request.intervalTicks.isSome := by
  unfold rearm at armed
  split at armed
  next periodic =>
    cases armed
    exact ⟨rfl, Option.isSome_of_eq_some (Option.filter_eq_some_iff.mp periodic).1⟩
  · cases armed

/-- A wakeup in `after` was ready before, or a timer whose deadline is `now` or
earlier made it; an armed timer was armed before, or is a periodic one. -/
structure Fired (now : MonotonicInstant) (armed : List ArmedTimer)
    (before : Slots WakeEvent maxReadyWakeups) (left : List ArmedTimer)
    (after : Slots WakeEvent maxReadyWakeups) : Prop where
  wakeups : ∀ event ∈ after.values, event ∈ before.values ∨
    ∃ timer ∈ armed, timer.token = event.token ∧ timer.request.deadline ≤ now
  timers : ∀ timer ∈ left, timer ∈ armed ∨
    ∃ earlier ∈ armed, earlier.token = timer.token ∧ earlier.request.intervalTicks.isSome

theorem fire_fired {count : Nat} (call : fire now slot before = (left, after, count)) :
    Fired now slot.toList before left.toList after := by
  unfold fire at call
  split at call
  · cases call
    exact ⟨fun event member => .inl member, fun timer member => .inl member⟩
  rename_i timer
  split at call
  · cases call
    exact ⟨fun event member => .inl member, fun timer member => .inl member⟩
  rename_i due
  split at call
  · cases call
    exact ⟨fun event member => .inl member, fun timer member => .inl member⟩
  rename_i accepted
  cases call
  refine ⟨fun event member => ?_, fun again member => .inr ⟨timer, by simp, ?_⟩⟩
  · rw [(Slots.values_push accepted).mem_iff, mem_cons] at member
    rcases member with rfl | earlier
    · exact .inr ⟨timer, by simp, rfl, Nat.le_of_not_lt due⟩
    · exact .inl earlier
  · rcases rearm_periodic (Option.mem_toList.mp member) with ⟨token, periodic⟩
    exact ⟨token.symm, periodic⟩

theorem Fired.append (one : Fired now first before firstLeft middle)
    (other : Fired now second middle secondLeft after) :
    Fired now (first ++ second) before (firstLeft ++ secondLeft) after := by
  constructor
  · intro event member
    rcases other.wakeups event member with earlier | ⟨timer, armed, due⟩
    · rcases one.wakeups event earlier with earlier | ⟨timer, armed, due⟩
      · exact .inl earlier
      · exact .inr ⟨timer, mem_append_left _ armed, due⟩
    · exact .inr ⟨timer, mem_append_right _ armed, due⟩
  intro timer member
  rcases mem_append.mp member with early | late
  · rcases one.timers timer early with armed | ⟨earlier, armed, periodic⟩
    · exact .inl (mem_append_left _ armed)
    · exact .inr ⟨earlier, mem_append_left _ armed, periodic⟩
  rcases other.timers timer late with armed | ⟨earlier, armed, periodic⟩
  · exact .inl (mem_append_right _ armed)
  · exact .inr ⟨earlier, mem_append_right _ armed, periodic⟩

theorem reduceOption_cons (slot : Option ArmedTimer) (slots : List (Option ArmedTimer)) :
    (slot :: slots).reduceOption = slot.toList ++ slots.reduceOption := by
  cases slot <;> simp

theorem expire_fired {count : Nat} (call : expire now before slots = (left, after, count)) :
    Fired now slots.reduceOption before left.reduceOption after := by
  induction slots generalizing left before count with
  | nil =>
    cases call
    exact ⟨fun event member => .inl member, nofun⟩
  | cons slot slots induction =>
    rcases first : fire now slot before with ⟨firstLeft, middle, fired⟩
    rcases rest : expire now middle slots with ⟨restLeft, last, expired⟩
    simp only [expire, first, rest] at call
    cases call
    rw [reduceOption_cons, reduceOption_cons]
    exact (fire_fired first).append (induction rest)

variable {state next : TimeState}

theorem handleTick_fired (call : state.handleTick = (outcome, next)) :
    next.now = state.now.saturatingAdd 1 ∧
      Fired next.now state.timers.values state.ready next.timers.values next.ready := by
  cases call
  exact ⟨rfl, expire_fired rfl⟩

theorem takeWakeup_cases (call : state.takeWakeup = (event, next)) :
    next.now = state.now ∧ next.timers = state.timers ∧
      state.ready.values = event.toList ++ next.ready.values := by
  rcases popped : state.ready.pop with ⟨taken, ready⟩
  simp only [takeWakeup, popped] at call
  cases call
  exact ⟨rfl, rfl, Slots.values_pop popped⟩

/-- An accepted request is armed, or its wakeup is ready because it is due. -/
theorem armWakeup_cases (call : state.armWakeup token request = (answer, next)) :
    next.now = state.now ∧
      ((∃ error, answer = .error error ∧ next.timers = state.timers ∧ next.ready = state.ready) ∨
        (answer.isOk = true ∧ request.deadline ≤ state.now ∧ next.timers = state.timers ∧
          next.ready.values.Perm (⟨token, .deadlineExpired⟩ :: state.ready.values)) ∨
        (answer.isOk = true ∧ next.ready = state.ready ∧ ∃ id,
          next.timers.values.Perm (⟨id, token, request⟩ :: state.timers.values))) := by
  unfold armWakeup at call
  dsimp only at call
  split at call
  next due =>
    split at call
    next accepted =>
      cases call
      exact ⟨rfl, .inr (.inl ⟨rfl, due, rfl, Slots.values_push accepted⟩)⟩
    · cases call
      exact ⟨rfl, .inl ⟨_, rfl, rfl, rfl⟩⟩
  · split at call
    next accepted =>
      cases call
      exact ⟨rfl, .inr (.inr ⟨rfl, rfl, _, Slots.values_push accepted⟩)⟩
    · cases call
      exact ⟨rfl, .inl ⟨_, rfl, rfl, rfl⟩⟩

end TimeState
end ServiceOS.Time
