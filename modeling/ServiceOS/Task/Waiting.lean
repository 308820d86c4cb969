import ServiceOS.Task.Scheduler

/-! # Beginning and ending waits

What the scheduler's operations are made of does to the threads that wait,
whatever the state of the queues: registering the current thread begins one
wait, and nothing else begins any. -/

namespace ServiceOS.Task.SchedulerState

open List Buckets
open Std (ExtTreeMap)
open Time

/-! ## Wait queues -/

section

variable (state : SchedulerState) (queue other : WaitQueue) (object position : ObjectId)

include state queue other object position

theorem waiters_setWaiting_insert (threads : List ThreadId) :
    (state.setWaiting queue ((state.waiting queue).insert object threads)).waiters other
        position =
      if other = queue ∧ position = object then threads else state.waiters other position := by
  by_cases sameQueue : other = queue
  · subst sameQueue
    by_cases same : object = position
    · simp [waiters, setWaiting, same]
    · simp [waiters, setWaiting, ExtTreeMap.getElem?_insert, same, Ne.symm same]
  · simp [waiters, setWaiting, sameQueue]

theorem waiters_removeWaiters : (state.removeWaiters queue object).waiters other position =
      if other = queue ∧ position = object then [] else state.waiters other position := by
  by_cases sameQueue : other = queue
  · subst sameQueue
    by_cases same : object = position
    · simp [waiters, removeWaiters, setWaiting, same]
    · simp [waiters, removeWaiters, setWaiting, ExtTreeMap.getElem?_erase, same, Ne.symm same]
  · simp [waiters, removeWaiters, setWaiting, sameQueue]

end

theorem waiters_removeFromWaitQueues (state : SchedulerState) (thread : ThreadId)
    (queue : WaitQueue) (object : ObjectId) :
    (state.removeFromWaitQueues thread).waiters queue object =
      (state.waiters queue object).filter (· ≠ thread) := by
  simp only [waiters, removeFromWaitQueues, ExtTreeMap.getElem?_filterMap]
  cases (state.waiting queue)[object]? with
  | none => rfl
  | some =>
    simp only [Option.pbind_some, Option.getD_some]
    split
    next vacant => simpa using (isEmpty_iff.mp vacant).symm
    · rfl

variable {thread other current : ThreadId} {state next : SchedulerState}

theorem timers_removeFromWaitQueues {token : WakeToken} :
    (state.removeFromWaitQueues thread).waitingTimers[token]? = some other ↔
      state.waitingTimers[token]? = some other ∧ other ≠ thread := by
  simp [removeFromWaitQueues, ExtTreeMap.getElem?_filter]

theorem isBlocked_iff :
    state.isBlocked thread = true ↔
      ∃ record, state.threads[thread]? = some record ∧ record.executionState = .blocked := by
  simp [isBlocked, Option.any_eq_true]

/-- Threads that are not blocked are passed over; the first that is blocked is
the receiver. -/
theorem nextReceiver_split {threads : List ThreadId}
    (call : state.nextReceiver threads = (receiver, rest)) :
    ∃ passed, threads = passed ++ (receiver.toList ++ rest) ∧
      (∀ thread ∈ passed, ¬state.isBlocked thread = true) ∧
      (∀ thread ∈ receiver, state.isBlocked thread = true) ∧ (receiver = none → rest = []) := by
  induction threads with
  | nil =>
    cases call
    exact ⟨[], rfl, nofun, nofun, fun _ => rfl⟩
  | cons thread threads induction =>
    rw [nextReceiver] at call
    split at call
    next blocked =>
      cases call
      refine ⟨[], rfl, nofun, ?_, nofun⟩
      rintro _ ⟨⟩
      exact blocked
    rename_i running
    rcases induction call with ⟨passed, rfl, skipped, found, ended⟩
    exact ⟨thread :: passed, rfl, forall_mem_cons.mpr ⟨running, skipped⟩, found, ended⟩

/-! ## Dispatching -/

structure Takes (state next : SchedulerState) (thread : ThreadId) : Prop where
  split : (all state.runnableQueues).Perm (thread :: all next.runnableQueues)
  idleTicks : next.queuedIdleTicks = state.queuedIdleTicks.erase thread
  current : next.current = state.current
  threads : next.threads = state.threads
  waiting : next.waiting = state.waiting
  timers : next.waitingTimers = state.waitingTimers
  tokens : next.nextWakeToken = state.nextWakeToken

theorem Takes.member (takes : Takes state next thread) : thread ∈ all state.runnableQueues :=
  takes.split.mem_iff.mpr mem_cons_self

theorem popRunnableNext_cases (call : state.popRunnableNext cpu = (taken, next)) :
    (taken = none ∧ next = state) ∨ ∃ thread, taken = some thread ∧ Takes state next thread := by
  unfold popRunnableNext at call
  split at call
  next thread queues front =>
    cases call
    exact .inr ⟨thread, rfl, all_popFront front, rfl, rfl, rfl, rfl, rfl, rfl⟩
  split at call
  next thread queues any =>
    cases call
    exact .inr ⟨thread, rfl, all_popAny any, rfl, rfl, rfl, rfl, rfl, rfl⟩
  · cases call
    exact .inl ⟨rfl, rfl⟩

/-- How dispatching can end: nothing is queued; the thread that is taken has no
record; or it gets the CPU. -/
theorem scheduleNextLocked_cases
    (call : state.scheduleNextLocked cpu trigger previous = (answer, next)) :
    ((∃ decision, answer = .ok decision) ∧ next = state) ∨
      ∃ thread middle, Takes state middle thread ∧
        ((thread ∉ state.threads ∧ next = middle) ∨
          (thread ∈ state.threads ∧ (∃ decision, answer = .ok decision) ∧
            next = middle.dispatch thread trigger previous)) := by
  rcases pop : state.popRunnableNext cpu with ⟨taken, middle⟩
  simp only [scheduleNextLocked, pop] at call
  rcases popRunnableNext_cases pop with ⟨rfl, rfl⟩ | ⟨thread, rfl, takes⟩
  · cases call
    exact .inl ⟨⟨_, rfl⟩, rfl⟩
  refine .inr ⟨thread, middle, takes, ?_⟩
  rw [← takes.threads]
  dsimp only at call
  split at call
  next known =>
    cases call
    exact .inr ⟨known, ⟨_, rfl⟩, rfl⟩
  rename_i unknown
  cases call
  exact .inl ⟨unknown, rfl⟩

/-! ## What begins no wait -/

/-- Every blocked thread was blocked before, for the same thing; the receiver
queues lose only threads that are not blocked; no timer entry is new. -/
structure StartsNoWait (state next : SchedulerState) : Prop where
  blocked : ∀ (thread : ThreadId) (record : ThreadState), next.threads[thread]? = some record →
    record.executionState = .blocked → state.threads[thread]? = some record
  receivers : ∀ endpoint,
    (next.waiters .receivers endpoint).Sublist (state.waiters .receivers endpoint)
  kept : ∀ endpoint, ∀ thread ∈ state.waiters .receivers endpoint,
    next.isBlocked thread = true → thread ∈ next.waiters .receivers endpoint
  timers : ∀ (token : WakeToken) (thread : ThreadId),
    next.waitingTimers[token]? = some thread → state.waitingTimers[token]? = some thread
  tokens : state.nextWakeToken ≤ next.nextWakeToken

namespace StartsNoWait

variable {state middle next : SchedulerState}

theorem of_eq (threads : next.threads = state.threads)
    (receivers : next.waiting .receivers = state.waiting .receivers)
    (timers : next.waitingTimers = state.waitingTimers)
    (tokens : state.nextWakeToken ≤ next.nextWakeToken) : StartsNoWait state next := by
  have waiters : ∀ endpoint, next.waiters .receivers endpoint =
      state.waiters .receivers endpoint := fun endpoint => by
    rw [waiters, receivers, waiters]
  refine ⟨fun thread record found _ => ?_, fun endpoint => ?_, fun endpoint thread member _ => ?_,
    fun token thread found => ?_, tokens⟩
  · rw [← threads]
    exact found
  · rw [waiters]
  · rw [waiters]
    exact member
  · rw [← timers]
    exact found

theorem refl (state : SchedulerState) : StartsNoWait state state :=
  of_eq rfl rfl rfl le_rfl

theorem isBlocked (calm : StartsNoWait state next) (after : next.isBlocked thread = true) :
    state.isBlocked thread = true := by
  rcases isBlocked_iff.mp after with ⟨record, found, blocked⟩
  exact isBlocked_iff.mpr ⟨record, calm.blocked thread record found blocked, blocked⟩

theorem trans (one : StartsNoWait state middle) (other : StartsNoWait middle next) :
    StartsNoWait state next := by
  refine ⟨fun thread record found blocked => ?_,
    fun endpoint => (other.receivers endpoint).trans (one.receivers endpoint),
    fun endpoint thread member blocked => ?_,
    fun token thread found => one.timers token thread (other.timers token thread found),
    Nat.le_trans one.tokens other.tokens⟩
  · exact one.blocked thread record (other.blocked thread record found blocked) blocked
  · exact other.kept endpoint thread (one.kept endpoint thread member (other.isBlocked blocked))
      blocked

/-- One thread, not blocked afterwards, gets a new record or loses its record,
and perhaps its entries too. -/
theorem of_update (thread : ThreadId)
    (threads : ∀ other : ThreadId, other ≠ thread → next.threads[other]? = state.threads[other]?)
    (awake : ¬next.isBlocked thread = true)
    (receivers : ∀ endpoint, (next.waiters .receivers endpoint).Sublist
      (state.waiters .receivers endpoint))
    (kept : ∀ endpoint, ∀ other ∈ state.waiters .receivers endpoint, other ≠ thread →
      other ∈ next.waiters .receivers endpoint)
    (timers : ∀ (token : WakeToken) (other : ThreadId),
      next.waitingTimers[token]? = some other → state.waitingTimers[token]? = some other)
    (tokens : state.nextWakeToken ≤ next.nextWakeToken) : StartsNoWait state next := by
  refine ⟨fun other record found blocked => ?_, receivers, fun endpoint other member blocked => ?_,
    timers, tokens⟩
  · rw [← threads]
    · exact found
    · rintro rfl
      exact awake (isBlocked_iff.mpr ⟨record, found, blocked⟩)
  apply kept endpoint other member
  rintro rfl
  exact awake blocked

theorem transitionTo (state : SchedulerState) (thread : ThreadId)
    (awake : executionState ≠ .blocked) (waitTarget : Option WaitTarget)
    (wakeReason : Option ThreadWakeReason) :
    StartsNoWait state (state.transitionTo thread executionState waitTarget wakeReason) := by
  refine of_update thread (fun other different => ?_) ?_ (fun _ => .refl _)
    (fun _ _ member _ => member) (fun _ _ => id) le_rfl
  · simp [SchedulerState.transitionTo, ExtTreeMap.getElem?_insert, different.symm]
  · simp [SchedulerState.isBlocked, SchedulerState.transitionTo, awake]

end StartsNoWait

theorem Takes.startsNoWait (takes : Takes state next thread) : StartsNoWait state next :=
  .of_eq takes.threads (congrFun takes.waiting _) takes.timers (Nat.le_of_eq takes.tokens.symm)

section

variable (state)

theorem scheduleNextLocked_startsNoWait (cpu : Cpu)
    (trigger : ScheduleTrigger) (previous : Option ThreadId) :
    StartsNoWait state (state.scheduleNextLocked cpu trigger previous).2 := by
  rcases call : state.scheduleNextLocked cpu trigger previous with ⟨answer, next⟩
  rcases scheduleNextLocked_cases call with
    ⟨-, rfl⟩ | ⟨thread, middle, takes, ⟨-, rfl⟩ | ⟨-, -, rfl⟩⟩
  · exact .refl _
  · exact takes.startsNoWait
  have running : StartsNoWait middle
      (middle.transitionTo thread .running none (some trigger.toWakeReason)) :=
    .transitionTo middle thread (by decide) _ _
  exact (takes.startsNoWait.trans running).trans (.of_eq rfl rfl rfl le_rfl)

theorem afterWake_startsNoWait (cpu : Cpu) (trigger : ScheduleTrigger)
    (previous : Option ThreadId) : StartsNoWait state (state.afterWake cpu trigger previous).2 := by
  unfold afterWake
  split
  · exact state.scheduleNextLocked_startsNoWait cpu trigger previous
  · exact .refl _

theorem wake_frame (cpu : Cpu) (thread : ThreadId) (reason : ThreadWakeReason) :
    (state.wake cpu thread reason).current = state.current ∧
      (state.wake cpu thread reason).waiting = state.waiting ∧
      (state.wake cpu thread reason).waitingTimers = state.waitingTimers ∧
      (state.wake cpu thread reason).nextWakeToken = state.nextWakeToken := by
  rw [wake, pushRunnableIfAbsent]
  split <;> exact ⟨rfl, rfl, rfl, rfl⟩

theorem pushRunnableIfAbsent_startsNoWait (cpu : Cpu)
    (thread : ThreadId) : StartsNoWait state (state.pushRunnableIfAbsent cpu thread) := by
  unfold pushRunnableIfAbsent
  split
  · exact .refl _
  · exact .of_eq rfl rfl rfl le_rfl

theorem wake_startsNoWait (cpu : Cpu) (thread : ThreadId)
    (reason : ThreadWakeReason) : StartsNoWait state (state.wake cpu thread reason) :=
  (state.pushRunnableIfAbsent_startsNoWait cpu thread).trans (.transitionTo _ _ (by decide) _ _)

theorem not_isBlocked_wake (cpu : Cpu) (thread : ThreadId)
    (reason : ThreadWakeReason) : ¬(state.wake cpu thread reason).isBlocked thread = true := by
  simp [isBlocked, wake, transitionTo]

/-- The thread leaves the queues first, and is blocked no longer afterwards. -/
theorem rouse_startsNoWait (cpu : Cpu) (thread : ThreadId) (reason : ThreadWakeReason) :
    StartsNoWait state ((state.removeFromWaitQueues thread).wake cpu thread reason) := by
  rcases (state.removeFromWaitQueues thread).wake_frame cpu thread reason with
    ⟨-, waiting, timers, tokens⟩
  have waiters : ∀ endpoint, ((state.removeFromWaitQueues thread).wake cpu thread
      reason).waiters .receivers endpoint =
        (state.waiters .receivers endpoint).filter (· ≠ thread) := by
    intro endpoint
    rw [waiters, waiting, ← waiters_removeFromWaitQueues, waiters]
  refine .of_update thread (fun other different => ?_) (not_isBlocked_wake _ cpu thread reason)
    (fun endpoint => ?_) (fun endpoint other member different => ?_) (fun token other found => ?_)
    (Nat.le_of_eq tokens.symm)
  · have same : ((state.removeFromWaitQueues thread).pushRunnableIfAbsent cpu thread).threads =
        state.threads := by
      unfold pushRunnableIfAbsent
      split <;> rfl
    simp [wake, transitionTo, ExtTreeMap.getElem?_insert, different.symm, same]
  · rw [waiters]
    exact filter_sublist
  · rw [waiters, mem_filter]
    exact ⟨member, decide_eq_true different⟩
  · rw [timers] at found
    exact (timers_removeFromWaitQueues.mp found).1

theorem endCurrent_startsNoWait (current : ThreadId) :
    StartsNoWait state (state.endCurrent current) := by
  refine .of_update current (fun other different => ?_) ?_ (fun endpoint => ?_)
    (fun endpoint other member different => ?_) (fun token other found => ?_) le_rfl
  · simp [endCurrent, removeRunnable, removeFromWaitQueues, transitionTo,
      ExtTreeMap.getElem?_erase, ExtTreeMap.getElem?_insert, different.symm]
  · simp [isBlocked, endCurrent]
  · exact (waiters_removeFromWaitQueues state current .receivers endpoint).symm ▸
      filter_sublist
  · refine (waiters_removeFromWaitQueues state current .receivers endpoint).symm ▸ ?_
    exact mem_filter.mpr ⟨member, decide_eq_true different⟩
  · exact (timers_removeFromWaitQueues.mp found).1

theorem eraseTimer_startsNoWait (token : WakeToken) :
    StartsNoWait state { state with waitingTimers := state.waitingTimers.erase token } := by
  refine ⟨fun _ _ found _ => found, fun _ => .refl _, fun _ _ member _ => member,
    fun other thread found => ?_, le_rfl⟩
  rw [ExtTreeMap.getElem?_erase] at found
  split at found
  · cases found
  · exact found

theorem wakeAll_startsNoWait (cpu : Cpu) (threads : List ThreadId) :
    StartsNoWait state (state.wakeAll cpu threads).2 := by
  induction threads generalizing state with
  | nil => exact .refl _
  | cons thread threads induction =>
    rw [wakeAll]
    split
    · exact (wake_startsNoWait _ _ _ _).trans (induction _)
    · exact .refl _

/-- The queues of packets, inputs and objects are not those of the receivers. -/
theorem setWaiting_startsNoWait (other : queue ≠ .receivers)
    (waiting : ExtTreeMap ObjectId (List ThreadId)) :
    StartsNoWait state (state.setWaiting queue waiting) :=
  .of_eq rfl (Function.update_of_ne other.symm _ _) rfl le_rfl

theorem setWaiting_setWaiting (queue : WaitQueue)
    (first second : ExtTreeMap ObjectId (List ThreadId)) :
    (state.setWaiting queue first).setWaiting queue second = state.setWaiting queue second := by
  simp [setWaiting]

theorem wake_setWaiting (queue : WaitQueue) (waiting : ExtTreeMap ObjectId (List ThreadId))
    (cpu : Cpu) (thread : ThreadId) (reason : ThreadWakeReason) :
    (state.setWaiting queue waiting).wake cpu thread reason =
      (state.wake cpu thread reason).setWaiting queue waiting := by
  have same : (state.setWaiting queue waiting).runnableContains thread =
      state.runnableContains thread := rfl
  unfold wake pushRunnableIfAbsent
  rw [same]
  split <;> rfl

theorem wakeForMessage_waiting (cpu : Cpu) (receiver : Option ThreadId) :
    (state.wakeForMessage cpu receiver).waiting = state.waiting := by
  cases receiver with
  | none => rfl
  | some thread => exact (state.wake_frame cpu thread .channelMessage).2.1

end

/-- The queue of the endpoint keeps what is behind the receiver, and nothing
else changes but for the wakeup. -/
theorem wakeReceiver_cases (call : state.wakeReceiver cpu endpoint = (woke, next)) :
    ∃ passed receiver rest waiting,
      (state.nextReceiver (state.waiters .receivers endpoint)).1 = receiver ∧
      state.waiters .receivers endpoint = passed ++ (receiver.toList ++ rest) ∧
      (∀ thread ∈ passed, ¬state.isBlocked thread = true) ∧
      (∀ thread ∈ receiver, state.isBlocked thread = true) ∧ (receiver = none → rest = []) ∧
      woke = receiver.isSome ∧
      next = (state.wakeForMessage cpu receiver).setWaiting .receivers waiting ∧
      ∀ other, next.waiters .receivers other =
        if other = endpoint then rest else state.waiters .receivers other := by
  rcases found : state.nextReceiver (state.waiters .receivers endpoint) with ⟨receiver, rest⟩
  rcases nextReceiver_split found with ⟨passed, split, skipped, blocked, ended⟩
  have woken : (state.removeWaiters .receivers endpoint).wakeForMessage cpu receiver =
      (state.wakeForMessage cpu receiver).removeWaiters .receivers endpoint := by
    rw [removeWaiters, removeWaiters, wakeForMessage_waiting]
    cases receiver with
    | none => rfl
    | some => exact wake_setWaiting _ _ _ _ _ _
  have held : ∀ other, (state.wakeForMessage cpu receiver).waiters .receivers other =
      state.waiters .receivers other := fun other => by
    rw [waiters, wakeForMessage_waiting, waiters]
  simp only [wakeReceiver, found, woken] at call
  split at call
  next vacant =>
    cases call
    refine ⟨passed, receiver, rest, _, rfl, split, skipped, blocked, ended, rfl, rfl,
      fun other => ?_⟩
    rw [waiters_removeWaiters, held, isEmpty_iff.mp vacant]
    simp
  cases call
  refine ⟨passed, receiver, rest, _, rfl, split, skipped, blocked, ended, rfl,
    setWaiting_setWaiting _ _ _ _, fun other => ?_⟩
  rw [waiters_setWaiting_insert, waiters_removeWaiters, held]
  by_cases same : other = endpoint <;> simp [same]

theorem wakeForMessage_startsNoWait (state : SchedulerState) (cpu : Cpu)
    (receiver : Option ThreadId) : StartsNoWait state (state.wakeForMessage cpu receiver) := by
  cases receiver with
  | none => exact .refl _
  | some thread => exact state.wake_startsNoWait cpu thread .channelMessage

theorem wakeReceiver_startsNoWait (state : SchedulerState) (cpu : Cpu) (endpoint : ObjectId) :
    StartsNoWait state (state.wakeReceiver cpu endpoint).2 := by
  rcases call : state.wakeReceiver cpu endpoint with ⟨woke, next⟩
  rcases wakeReceiver_cases call with
    ⟨passed, receiver, rest, waiting, -, split, skipped, -, -, -, rfl, held⟩
  have woken := state.wakeForMessage_startsNoWait cpu receiver
  refine ⟨woken.blocked, fun other => ?_, fun other thread member blocked => ?_, woken.timers,
    woken.tokens⟩
  · rw [held]
    split
    next same =>
      rw [same, split]
      exact (sublist_append_right _ _).trans (sublist_append_right _ _)
    · exact .refl _
  rw [held]
  split
  next same =>
    rw [same, split, mem_append, mem_append] at member
    rcases member with early | taken | late
    · exact absurd (woken.isBlocked blocked) (skipped thread early)
    · cases Option.mem_toList.mp taken
      exact absurd blocked (not_isBlocked_wake state cpu thread .channelMessage)
    · exact late
  · exact member

/-! ## What begins a wait -/

/-- What a timed wait arms. -/
structure Alarm where
  token : WakeToken
  deadline : MonotonicInstant

/-- The current thread is blocked on `target` and registered: among the
receivers of an endpoint if it waits for a message, and under a token that was
never used before if it waits for a deadline. -/
structure StartsWait (state next : SchedulerState) (thread : ThreadId) (target : WaitTarget)
    (alarm : Option Alarm) : Prop where
  current : state.current = some thread
  threads : next.threads = state.threads.insert thread ⟨.blocked, some target, none⟩
  queues : next.runnableQueues = state.runnableQueues
  receivers : ∀ endpoint, next.waiters .receivers endpoint =
    if target = .channelReceive endpoint then state.waiters .receivers endpoint ++ [thread]
    else state.waiters .receivers endpoint
  timers : ∀ token : WakeToken, next.waitingTimers[token]? =
    if alarm.map Alarm.token = some token then some thread else state.waitingTimers[token]?
  tokens : state.nextWakeToken ≤ next.nextWakeToken
  fresh : ∀ set ∈ alarm, set.token = state.nextWakeToken ∧ set.token < next.nextWakeToken
  timed : ∀ set ∈ alarm,
    target = .timer set.token set.deadline ∨ ∃ endpoint, target = .channelReceive endpoint
  deadline : ∀ token deadline, target = .timer token deadline → alarm = some ⟨token, deadline⟩

/-- An operation begins no wait, or it begins one and then dispatches. -/
inductive Waits (state next : SchedulerState) (alarm : Option Alarm) : Prop
  | none (calm : StartsNoWait state next)
  | begins {middle : SchedulerState} {thread : ThreadId} {target : WaitTarget} {cpu : Cpu}
      (start : StartsWait state middle thread target alarm)
      (dispatched : (middle.scheduleNextLocked cpu .blocked (some thread)).2 = next)

theorem receivers_pushWaiter (state : SchedulerState) (queue : WaitQueue) (object : ObjectId)
    (thread : ThreadId) (endpoint : ObjectId) :
    (state.pushWaiter queue object thread).waiters .receivers endpoint =
      if queue.target object = .channelReceive endpoint then
        state.waiters .receivers endpoint ++ [thread]
      else state.waiters .receivers endpoint := by
  have same : (WaitQueue.receivers = queue ∧ endpoint = object) ↔
      queue.target object = .channelReceive endpoint := by
    constructor
    · rintro ⟨rfl, rfl⟩
      rfl
    intro here
    have same : queue.target object = WaitQueue.receivers.target endpoint := here
    rcases WaitQueue.target_inj.mp same with ⟨rfl, rfl⟩
    exact ⟨rfl, rfl⟩
  rw [pushWaiter, waiters_setWaiting_insert]
  by_cases here : queue.target object = .channelReceive endpoint
  · rw [if_pos (same.mpr here), if_pos here]
    rcases same.mpr here with ⟨rfl, rfl⟩
    rfl
  · rw [if_neg (mt same.mp here), if_neg here]

/-- A token is used up in any case; it is armed when it is returned. -/
theorem armToken_cases {after : TimeState}
    (call : state.armToken time deadline = (answer, next, after)) :
    (∃ error, answer = .error error ∧
      ((next = state ∧ after = time) ∨
        (next = { state with nextWakeToken := state.nextWakeToken + 1 } ∧
          ∃ reason, time.armWakeup state.nextWakeToken (.oneShot deadline) =
            (.error reason, after)))) ∨
      (answer = .ok state.nextWakeToken ∧
        next = { state with nextWakeToken := state.nextWakeToken + 1 } ∧
        ∃ id, time.armWakeup state.nextWakeToken (.oneShot deadline) = (.ok id, after)) := by
  unfold armToken at call
  dsimp only at call
  split at call
  · split at call
    next armed =>
      cases call
      exact .inl ⟨_, rfl, .inr ⟨rfl, _, armed⟩⟩
    rename_i id accepted armed
    cases call
    exact .inr ⟨rfl, rfl, id, armed⟩
  · cases call
    exact .inl ⟨_, rfl, .inl ⟨rfl, rfl⟩⟩

def takeToken (state : SchedulerState) : SchedulerState :=
  { state with nextWakeToken := state.nextWakeToken + 1 }

/-- How a timed wait can end: nothing was armed; the timer was asked for and
the thread does not wait; or the thread is registered under an armed token. -/
theorem blockUntil_cases {after : TimeState}
    (call : state.blockUntil time cpu current deadline register = (answer, next, after)) :
    (next = state ∧ after = time) ∨
      ∃ armed, time.armWakeup state.nextWakeToken (.oneShot deadline) = (armed, after) ∧
        (next = state.takeToken ∨
          (current ∈ state.threads ∧ next = ((register state.takeToken
            state.nextWakeToken).scheduleNextLocked cpu .blocked (some current)).2)) := by
  rcases taken : state.armToken time deadline with ⟨token, middle, armedTime⟩
  simp only [blockUntil, taken] at call
  rcases armToken_cases taken with
    ⟨error, rfl, ⟨rfl, rfl⟩ | ⟨rfl, reason, refused⟩⟩ | ⟨rfl, rfl, id, accepted⟩
  · cases call
    exact .inl ⟨rfl, rfl⟩
  · cases call
    exact .inr ⟨_, refused, .inl rfl⟩
  dsimp only at call
  split at call
  next known =>
    split at call
    all_goals
      rename_i scheduled
      cases call
      refine .inr ⟨_, accepted, .inr ⟨known, ?_⟩⟩
      exact (congrArg Prod.snd scheduled).symm
  · cases call
    exact .inr ⟨_, accepted, .inl rfl⟩

theorem timers_insertTimer (state : SchedulerState) (token other : WakeToken) (thread : ThreadId) :
    (state.insertTimer token thread).waitingTimers[other]? =
      if some token = some other then some thread else state.waitingTimers[other]? := by
  simp [insertTimer, ExtTreeMap.getElem?_insert]

theorem registerReceiver_startsWait
    (here : state.current = some current) (endpoint : ObjectId) (deadline : MonotonicInstant) :
    StartsWait state (registerReceiver current endpoint state.takeToken state.nextWakeToken)
      current (.channelReceive endpoint) (some ⟨state.nextWakeToken, deadline⟩) := by
  refine ⟨here, rfl, rfl, ?_, fun other => timers_insertTimer state _ other current,
    Nat.le_succ _, ?_, fun _ _ => .inr ⟨endpoint, rfl⟩, nofun⟩
  · exact receivers_pushWaiter (state.blockCurrent current (.channelReceive endpoint)) .receivers
      endpoint current
  · rintro _ ⟨⟩
    exact ⟨rfl, Nat.lt_succ_self _⟩

theorem registerTimer_startsWait
    (here : state.current = some current) (deadline : MonotonicInstant) :
    StartsWait state (registerTimer current deadline state.takeToken state.nextWakeToken)
      current (.timer state.nextWakeToken deadline) (some ⟨state.nextWakeToken, deadline⟩) := by
  refine ⟨here, rfl, rfl, fun _ => rfl, fun other => timers_insertTimer state _ other current,
    Nat.le_succ _, ?_, ?_, ?_⟩
  · rintro _ ⟨⟩
    exact ⟨rfl, Nat.lt_succ_self _⟩
  · rintro _ ⟨⟩
    exact .inl rfl
  · rintro other _ ⟨⟩
    rfl

/-- The alarm of a receive with a deadline, if it has one. -/
def receiveAlarm (state : SchedulerState) (time : Option TimeState) (deadlineTicks : Nat) :
    Option Alarm :=
  if deadlineTicks = 0 then none
  else time.map fun time => ⟨state.nextWakeToken, time.now.saturatingAdd deadlineTicks⟩

end ServiceOS.Task.SchedulerState
