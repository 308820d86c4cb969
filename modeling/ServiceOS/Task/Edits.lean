import ServiceOS.Task.System

/-! # What the operations are made of

An operation changes the scheduler by edits of a few kinds, one after the other;
a blocking operation registers the current thread for its wait and dispatches.
What every edit and every registration keeps, every operation keeps. -/

namespace ServiceOS.Task.SchedulerState

open Std (ExtTreeMap)
open Time

/-- One change on the way of an operation that began in `initial`. The threads
that timers and receiver queues name are looked at before any other change. -/
inductive Edit (initial : SchedulerState) (operation : TaskOperation) (state : SchedulerState) :
    SchedulerState → Prop
  | reshuffle {next : SchedulerState} (moved : Reshuffles state next) :
      Edit initial operation state next
  | takeToken : Edit initial operation state state.takeToken
  | schedule (vacant : state.current = none) (cpu : Cpu) (trigger : ScheduleTrigger)
      (previous : Option ThreadId) :
      Edit initial operation state (state.scheduleNextLocked cpu trigger previous).2
  | register {thread : ThreadId} (unknown : thread ∉ state.threads) :
      Edit initial operation state (state.transitionTo thread .suspended none none)
  | resume {thread : ThreadId} (here : state.current = some thread)
      (known : thread ∈ state.threads) (reason : ThreadWakeReason) :
      Edit initial operation state (state.transitionTo thread .running none (some reason))
  | rouse {thread : ThreadId} {reason : ThreadWakeReason}
      (asked : operation = .makeRunnable thread reason)
      (elsewhere : state.current ≠ some thread) (known : thread ∈ state.threads) (cpu : Cpu) :
      Edit initial operation state ((state.removeFromWaitQueues thread).wake cpu thread reason)
  | requeue {current : ThreadId} (here : state.current = some current)
      (known : current ∈ state.threads) (cpu : Cpu) (reason : ThreadWakeReason) :
      Edit initial operation state (state.requeueCurrent cpu current reason)
  | race {current : ThreadId} (here : state.current = some current)
      (known : current ∈ state.threads) (cpu : Cpu) :
      Edit initial operation state (((state.transitionTo current .runnable none
        (some .inputReady)).pushRunnableIfAbsent cpu current).scheduleNextLocked cpu .inputWake
          (some current)).2
  | finish {current : ThreadId} (here : state.current = some current) :
      Edit initial operation state (state.endCurrent current)
  | expire (token : WakeToken) :
      Edit initial operation state { state with waitingTimers := state.waitingTimers.erase token }
  | timeOut {token : WakeToken} {thread : ThreadId} (first : initial = state)
      (found : state.waitingTimers[token]? = some thread)
      (blocked : state.isBlocked thread = true)
      (wakes : ∀ target, initial.Wakes operation thread target) (cpu : Cpu)
      (reason : ThreadWakeReason) :
      Edit initial operation state
        (wake { state with waitingTimers := state.waitingTimers.erase token } cpu thread reason)
  | wakeReceiver (first : initial = state) (cpu : Cpu) (endpoint : ObjectId)
      (wakes : ∀ thread, (state.nextReceiver (state.waiters .receivers endpoint)).1 =
        some thread → ∀ target, initial.Wakes operation thread target) :
      Edit initial operation state (state.wakeReceiver cpu endpoint).2
  | wakeObjects {object : ObjectId} {waiters : List ThreadId}
      (found : (state.waiting .objects)[object]? = some waiters)
      (wakes : ∀ thread, initial.Wakes operation thread (.object object)) (cpu : Cpu) :
      Edit initial operation state ((state.removeWaiters .objects object).wakeAll cpu waiters).2
  | wakeFirst {queue : WaitQueue} {object : ObjectId} {thread : ThreadId} {rest : List ThreadId}
      (exact : queue ≠ .receivers) (first : state.waiters queue object = thread :: rest)
      (known : thread ∈ state.threads)
      (wakes : ∀ thread, initial.Wakes operation thread (queue.target object)) (cpu : Cpu)
      (reason : ThreadWakeReason) :
      Edit initial operation state ((state.setWaiting queue
        ((state.waiting queue).insert object rest)).wake cpu thread reason)
  | dropFirst {queue : WaitQueue} {object : ObjectId} {thread : ThreadId} {rest : List ThreadId}
      (exact : queue ≠ .receivers) (first : state.waiters queue object = thread :: rest)
      (unknown : thread ∉ state.threads) :
      Edit initial operation state
        (state.setWaiting queue ((state.waiting queue).insert object rest))
  | dropQueue {queue : WaitQueue} {object : ObjectId} (exact : queue ≠ .receivers)
      (vacant : state.waiters queue object = []) :
      Edit initial operation state (state.removeWaiters queue object)

abbrev Edits (initial : SchedulerState) (operation : TaskOperation) :
    SchedulerState → SchedulerState → Prop :=
  Relation.ReflTransGen (Edit initial operation)

/-- The current thread is blocked and entered where its wait is looked up. -/
inductive Registers (state : SchedulerState) (thread : ThreadId) :
    WaitTarget → Option Alarm → SchedulerState → Prop
  | queue (queue : WaitQueue) (object : ObjectId) :
      Registers state thread (queue.target object) none
        ((state.blockCurrent thread (queue.target object)).pushWaiter queue object thread)
  | receiver (endpoint : ObjectId) (deadline : MonotonicInstant) :
      Registers state thread (.channelReceive endpoint) (some ⟨state.nextWakeToken, deadline⟩)
        (registerReceiver thread endpoint state.takeToken state.nextWakeToken)
  | timer (deadline : MonotonicInstant) :
      Registers state thread (.timer state.nextWakeToken deadline)
        (some ⟨state.nextWakeToken, deadline⟩)
        (registerTimer thread deadline state.takeToken state.nextWakeToken)

inductive Performs (operation : TaskOperation) (alarm : Option Alarm)
    (state next : SchedulerState) : Prop
  | edits (path : Edits state operation state next)
  | blocks {middle : SchedulerState} {thread : ThreadId} {target : WaitTarget} {cpu : Cpu}
      (here : state.current = some thread) (known : thread ∈ state.threads)
      (registers : Registers state thread target alarm middle)
      (dispatched : (middle.scheduleNextLocked cpu .blocked (some thread)).2 = next)

/-! ## The operations -/

section

variable (cpu : Cpu)

theorem wakeAll_current (state : SchedulerState) (threads : List ThreadId) :
    (state.wakeAll cpu threads).2.current = state.current := by
  induction threads generalizing state with
  | nil => rfl
  | cons thread threads induction =>
    rw [wakeAll]
    split
    · exact (induction _).trans (wake_frame _ _ _ _).1
    · rfl

theorem wakeReceiver_current (state : SchedulerState) (endpoint : ObjectId) :
    (state.wakeReceiver cpu endpoint).2.current = state.current := by
  rcases served : state.wakeReceiver cpu endpoint with ⟨woke, after⟩
  rcases wakeReceiver_cases served with ⟨-, receiver, -, waiting, -, -, -, -, -, -, rfl, -⟩
  cases receiver with
  | none => rfl
  | some thread => exact (wake_frame state cpu thread .channelMessage).1

/-- Waking operations dispatch only when the CPU was idle. -/
theorem afterWake_edits (trigger : ScheduleTrigger) (same : state.current = previous) :
    Edits initial operation state (state.afterWake cpu trigger previous).2 := by
  unfold afterWake
  split
  next idle =>
    exact .single (.schedule (same.trans (Option.isNone_iff_eq_none.mp idle)) cpu trigger _)
  · exact .refl

section

variable (state : SchedulerState)

theorem registerThread_edits (thread : ThreadId) :
    Edits initial operation state (state.registerThread thread).2 := by
  unfold registerThread
  split
  · exact .refl
  next unknown => exact .single (.register unknown)

theorem makeRunnable_edits (thread : ThreadId) (reason : ThreadWakeReason) :
    Edits initial (.makeRunnable thread reason) state (state.makeRunnable cpu thread reason).2 := by
  unfold makeRunnable
  dsimp only
  split
  next known =>
    split
    next here => exact .single (.resume here known reason)
    rename_i elsewhere
    have roused : Edits initial (.makeRunnable thread reason) state
        ((state.removeFromWaitQueues thread).wake cpu thread reason) :=
      .single (.rouse rfl elsewhere known cpu)
    split
    next idle =>
      have vacant : ((state.removeFromWaitQueues thread).wake cpu thread reason).current = none :=
        (wake_frame _ cpu thread reason).1.trans (Option.isNone_iff_eq_none.mp idle)
      exact roused.tail (.schedule vacant cpu .explicit _)
    · exact roused
  · exact .refl

theorem yieldCurrent_edits : Edits initial operation state (state.yieldCurrent cpu).2 := by
  unfold yieldCurrent
  split
  next vacant => exact .single (.schedule vacant cpu .yielded none)
  rename_i current here
  split
  next known =>
    have requeued : Edits initial operation state (state.requeueCurrent cpu current .yielded) :=
      .single (.requeue here known cpu .yielded)
    exact requeued.tail (.schedule rfl cpu .yielded _)
  · exact .refl

theorem preemptCurrentIfNeeded_edits :
    Edits initial operation state (state.preemptCurrentIfNeeded cpu).2 := by
  unfold preemptCurrentIfNeeded
  split
  · split
    next vacant =>
      have cleared : Edits initial operation state { state with preemptionPending := false } :=
        .single (.reshuffle (.consumePreemption state))
      apply cleared.tail
      apply Edit.schedule
      exact vacant
    rename_i current here
    split
    next known =>
      have requeued : Edits initial operation state
          (state.requeueCurrent cpu current .yielded) :=
        .single (.requeue here known cpu .yielded)
      have cleared := requeued.tail (.reshuffle (.consumePreemption _))
      exact cleared.tail (.schedule rfl cpu .yielded _)
    · exact .refl
  · exact .refl

theorem terminateCurrent_edits : Edits initial operation state (state.terminateCurrent cpu).2 := by
  unfold terminateCurrent
  split
  · exact .refl
  rename_i current here
  split
  · have ended : Edits initial operation state (state.endCurrent current) :=
      .single (.finish here)
    exact ended.tail (.schedule rfl cpu .explicit _)
  · exact .refl

theorem handleTimeWakeup_edits (event : WakeEvent) :
    Edits state (.handleTimeWakeup event) state (state.handleTimeWakeup cpu event).2 := by
  unfold handleTimeWakeup
  split
  · exact .refl
  rename_i thread found
  dsimp only
  split
  next blocked =>
    have wakes : ∀ target, state.Wakes (.handleTimeWakeup event) thread target := fun _ => found
    exact .head (.timeOut rfl found blocked wakes cpu .timerExpired)
      (afterWake_edits cpu .timeWake (wake_frame _ _ _ _).1)
  · exact .single (.expire event.token)

end

theorem wakeObjects_edits {waiters : List ThreadId}
    (found : (state.waiting .objects)[object]? = some waiters)
    (wakes : ∀ thread, initial.Wakes operation thread (.object object)) :
    Edits initial operation state ((state.removeWaiters .objects object).wakeAll cpu waiters).2 :=
  .single (.wakeObjects found wakes cpu)

/-- The threads that wait for the object are woken after those of the queue. -/
theorem notifyObjects_edits (trigger : ScheduleTrigger) (same : state.current = previous)
    (woke : Bool) (wakes : ∀ thread, initial.Wakes operation thread (.object object)) :
    Edits initial operation state (state.notifyObjects cpu trigger object previous woke).2 := by
  have served : Edits initial operation state (state.wakeObjectWaitersLocked cpu object).2 ∧
      (state.wakeObjectWaitersLocked cpu object).2.current = previous := by
    unfold wakeObjectWaitersLocked
    split
    · exact ⟨.refl, same⟩
    rename_i waiters found
    have woken := wakeObjects_edits cpu found wakes
    have current := (wakeAll_current cpu (state.removeWaiters .objects object) waiters).trans same
    split <;> rename_i call <;> rw [call] at woken current <;> exact ⟨woken, current⟩
  unfold notifyObjects
  split <;> rename_i call <;> rw [call] at served
  · exact served.1
  split
  · exact served.1
  · exact served.1.trans (afterWake_edits cpu trigger served.2)

section

variable (state : SchedulerState)

theorem notifyChannelReady_edits (endpoint : ObjectId) :
    Edits state (.notifyChannelReady endpoint) state (state.notifyChannelReady cpu endpoint).2 := by
  have woken : Edits state (.notifyChannelReady endpoint) state
      (state.wakeReceiver cpu endpoint).2 :=
    .single (.wakeReceiver rfl cpu endpoint fun _ found _ => .inl found)
  exact woken.trans (notifyObjects_edits cpu .ipcWake (wakeReceiver_current cpu state endpoint) _
    fun _ => .inr rfl)

theorem notifyFirst_edits (exact : queue ≠ .receivers) (reason : ThreadWakeReason)
    (trigger : ScheduleTrigger) (wakes : ∀ thread target, Notified queue object thread target →
      initial.Wakes operation thread target) :
    Edits initial operation state (state.notifyFirst cpu queue reason trigger object).2 := by
  have objects := fun thread => wakes thread (.object object) (.inr rfl)
  unfold notifyFirst
  split
  · exact notifyObjects_edits cpu trigger rfl false objects
  rename_i thread rest first
  split
  next known =>
    have woken : Edits initial operation state _ :=
      .single (.wakeFirst exact first known (fun thread => wakes thread _ (.inl rfl)) cpu reason)
    have frame := (state.setWaiting queue
      ((state.waiting queue).insert object rest)).wake_frame cpu thread reason
    have current : ((state.setWaiting queue ((state.waiting queue).insert object rest)).wake cpu
        thread reason).current = state.current := frame.1
    split
    next vacant =>
      have empty : ((state.setWaiting queue ((state.waiting queue).insert object rest)).wake cpu
          thread reason).waiters queue object = [] := by
        rw [waiters, frame.2.1]
        exact (waiters_setWaiting_insert state queue queue object object rest).trans
          ((if_pos ⟨rfl, rfl⟩).trans (List.isEmpty_iff.mp vacant))
      apply (woken.tail (.dropQueue exact empty)).trans
      apply notifyObjects_edits
      · exact current
      · exact objects
    · exact woken.trans (notifyObjects_edits cpu trigger current true objects)
  next unknown => exact .single (.dropFirst exact first unknown)

theorem notifyObjectReady_edits (object : ObjectId) :
    Edits initial (.notifyObjectReady object) state (state.notifyObjectReady cpu object).2 := by
  unfold notifyObjectReady
  split
  · exact .refl
  rename_i waiters found
  have woken : Edits initial (.notifyObjectReady object) state _ :=
    wakeObjects_edits cpu found fun _ => rfl
  have current := wakeAll_current cpu (state.removeWaiters .objects object) waiters
  split <;> rename_i call <;> rw [call] at woken current
  · exact woken
  · exact woken.trans (afterWake_edits cpu .objectWake current)

theorem blockCurrentOn_performs (queue : WaitQueue) (object : ObjectId) :
    Performs operation none state (state.blockCurrentOn cpu queue object).2 := by
  unfold blockCurrentOn
  split
  · exact .edits .refl
  rename_i here
  split
  next known => exact .blocks here known (.queue queue object) rfl
  · exact .edits .refl

/-- An input that arrives before the thread is registered keeps it runnable. -/
theorem blockCurrentOnInputReceive_performs (source : ObjectId) (raced : Bool) :
    Performs operation none state (state.blockCurrentOnInputReceive cpu source raced).2 := by
  unfold blockCurrentOnInputReceive
  split
  · split
    · exact .edits .refl
    rename_i here
    split
    next known => exact .edits (.single (.race here known cpu))
    · exact .edits .refl
  · exact blockCurrentOn_performs cpu state .inputs source

end

/-- A timed wait is one of the waits its registration begins. -/
theorem blockUntil_performs {current : ThreadId} (here : state.current = some current)
    (registers : Registers state current target alarm
      (register state.takeToken state.nextWakeToken))
    (time : TimeState) (deadline : MonotonicInstant) :
    Performs operation alarm state (state.blockUntil time cpu current deadline register).2.1 := by
  rcases call : state.blockUntil time cpu current deadline register with ⟨answer, next, after⟩
  rcases blockUntil_cases call with ⟨rfl, -⟩ | ⟨armed, -, rfl | ⟨known, rfl⟩⟩
  · exact .edits .refl
  · exact .edits (.single .takeToken)
  · exact .blocks here known registers rfl

theorem blockCurrentOnReceiveUntil_performs (state : SchedulerState) (time : Option TimeState)
    (endpoint : ObjectId) (deadlineTicks : Nat) :
    Performs operation (state.receiveAlarm time deadlineTicks) state
      (state.blockCurrentOnReceiveUntil time cpu endpoint deadlineTicks).2.1 := by
  unfold blockCurrentOnReceiveUntil receiveAlarm
  split
  · exact blockCurrentOn_performs cpu state .receivers endpoint
  split
  · exact .edits .refl
  · exact .edits .refl
  next here => exact blockUntil_performs cpu here (.receiver endpoint _) _ _

theorem blockCurrentUntil_performs (state : SchedulerState) (time : Option TimeState)
    (deadline : MonotonicInstant) :
    Performs operation (some ⟨state.nextWakeToken, deadline⟩) state
      (state.blockCurrentUntil time cpu deadline).2.1 := by
  unfold blockCurrentUntil
  split
  · exact .edits .refl
  · exact .edits .refl
  next here => exact blockUntil_performs cpu here (.timer deadline) _ _

theorem perform_performs (system : TaskSystem) (operation : TaskOperation) :
    Performs operation (system.alarm operation) system.scheduler
      (system.perform cpu operation).scheduler := by
  cases operation with
  | registerThread thread => exact .edits (registerThread_edits _ thread)
  | makeRunnable thread reason => exact .edits (makeRunnable_edits cpu _ thread reason)
  | yieldCurrent => exact .edits (yieldCurrent_edits cpu _)
  | preemptCurrentIfNeeded => exact .edits (preemptCurrentIfNeeded_edits cpu _)
  | blockCurrentOnReceive endpoint => exact blockCurrentOn_performs cpu _ .receivers endpoint
  | blockCurrentOnReceiveUntil endpoint deadlineTicks =>
    exact blockCurrentOnReceiveUntil_performs cpu _ _ endpoint deadlineTicks
  | blockCurrentOnPacketReceive interface =>
    exact blockCurrentOn_performs cpu _ .packets interface
  | blockCurrentOnInputReceive source raced =>
    exact blockCurrentOnInputReceive_performs cpu _ source raced
  | blockCurrentOnObject object => exact blockCurrentOn_performs cpu _ .objects object
  | blockCurrentUntil deadline => exact blockCurrentUntil_performs cpu _ _ deadline
  | terminateCurrent => exact .edits (terminateCurrent_edits cpu _)
  | handleTimeWakeup event => exact .edits (handleTimeWakeup_edits cpu _ event)
  | notifyChannelReady endpoint => exact .edits (notifyChannelReady_edits cpu _ endpoint)
  | notifyPacketReady _ | notifyInputReady _ =>
    exact .edits (notifyFirst_edits cpu _ (by decide) _ _ fun _ _ => id)
  | notifyObjectReady object => exact .edits (notifyObjectReady_edits cpu _ object)
  | handleTick count => exact .edits (.single (.reshuffle (.handleTick _ cpu count)))
  | consumePreemption => exact .edits (.single (.reshuffle (.consumePreemption _)))
  | stealIdleRunnables =>
    have moved := Reshuffles.stealIdleRunnablesLocked system.scheduler cpu
    dsimp only [TaskSystem.perform]
    exact .edits (.single (.reshuffle moved))
  | initializeTime | tickTime | takeWakeup => exact .edits .refl

end

/-! ## Waits -/

theorem Edits.preserves {Kept : SchedulerState → Prop} (path : Edits initial operation state next)
    (each : ∀ {before after}, Edit initial operation before after → Kept before → Kept after)
    (holds : Kept state) : Kept next := by
  induction path with
  | refl => exact holds
  | tail _ edit induction => exact each edit induction

theorem Edit.startsNoWait (edit : Edit initial operation state next) : StartsNoWait state next := by
  cases edit with
  | reshuffle moved => exact moved.startsNoWait
  | takeToken => exact .of_eq rfl rfl rfl (Nat.le_succ _)
  | schedule => exact scheduleNextLocked_startsNoWait _ _ _ _
  | register | resume => exact .transitionTo state _ (by decide) _ _
  | rouse => exact rouse_startsNoWait _ _ _ _
  | requeue =>
    exact (StartsNoWait.transitionTo state _ (by decide) _ _).trans (.of_eq rfl rfl rfl le_rfl)
  | @race current =>
    have runnable : StartsNoWait state
        (state.transitionTo current .runnable none (some .inputReady)) :=
      .transitionTo state current (by decide) _ _
    exact (runnable.trans (pushRunnableIfAbsent_startsNoWait _ _ _)).trans
      (scheduleNextLocked_startsNoWait _ _ _ _)
  | finish => exact endCurrent_startsNoWait _ _
  | expire token => exact state.eraseTimer_startsNoWait token
  | timeOut =>
    exact (state.eraseTimer_startsNoWait _).trans (wake_startsNoWait _ _ _ _)
  | wakeReceiver => exact wakeReceiver_startsNoWait _ _ _
  | wakeObjects =>
    exact (setWaiting_startsNoWait _ (by decide) _).trans (wakeAll_startsNoWait _ _ _)
  | wakeFirst exact =>
    exact (setWaiting_startsNoWait _ exact _).trans (wake_startsNoWait _ _ _ _)
  | dropFirst exact first unknown | dropQueue exact vacant =>
    exact setWaiting_startsNoWait _ exact _

theorem Edits.startsNoWait (path : Edits initial operation state next) :
    StartsNoWait state next := by
  induction path with
  | refl => exact .refl _
  | tail _ edit induction => exact induction.trans edit.startsNoWait

theorem Registers.startsWait (here : state.current = some thread)
    (registers : Registers state thread target alarm next) :
    StartsWait state next thread target alarm := by
  cases registers with
  | queue queue object =>
    exact ⟨here, rfl, rfl, receivers_pushWaiter (state.blockCurrent thread _) queue object thread,
      fun _ => rfl, le_rfl, nofun, nofun, by cases queue <;> nofun⟩
  | receiver endpoint deadline => exact registerReceiver_startsWait here endpoint deadline
  | timer deadline => exact registerTimer_startsWait here deadline

theorem perform_waits (system : TaskSystem) (cpu : Cpu) (operation : TaskOperation) :
    Waits system.scheduler (system.perform cpu operation).scheduler (system.alarm operation) := by
  cases perform_performs cpu system operation with
  | edits path => exact .none path.startsNoWait
  | blocks here known registers dispatched =>
    exact .begins (registers.startsWait here) dispatched

/-! ## Agreement -/

theorem Edit.consistent (edit : Edit initial operation state next) (matched : initial.Matched)
    (consistent : state.Consistent) :
    next.Consistent ∧ Keeps (initial.Wakes operation) state next := by
  cases edit with
  | reshuffle moved => exact ⟨moved.consistent consistent, .of_role moved.role⟩
  | takeToken => exact ⟨consistent.takeToken, .of_role rfl⟩
  | schedule vacant =>
    exact (consistent.scheduleNext vacant rfl).imp_right .weaken
  | register unknown => exact (consistent.register unknown).imp_right .weaken
  | resume here known reason => exact (consistent.resume here reason).imp_right .weaken
  | rouse asked elsewhere known cpu =>
    subst asked
    refine ⟨consistent.rouse elsewhere cpu _, .relabel (role_wake _ cpu _ _) fun _ _ => rfl⟩
  | requeue here known cpu reason =>
    exact (consistent.requeueCurrent here cpu reason).imp_right .weaken
  | race here => exact (consistent.race here rfl).imp_right .weaken
  | finish here => exact (consistent.endCurrent here).imp_right .weaken
  | expire token => exact ⟨consistent.eraseTimer token, .of_role rfl⟩
  | @timeOut token thread first found blocked wakes cpu reason =>
    subst first
    have loose := matched.loose_of_timer found blocked
    have kept : Keeps (initial.Wakes operation)
        { initial with waitingTimers := initial.waitingTimers.erase token } _ :=
      keeps_wake (fun target _ => wakes target) cpu reason
    exact ⟨(consistent.eraseTimer token).wakeLoose loose cpu reason, kept⟩
  | wakeReceiver first cpu endpoint wakes =>
    subst first
    rcases consistent.wakeReceiver (matched.receivers endpoint) cpu with ⟨woken, kept⟩
    exact ⟨woken, fun thread target here => (kept thread target here).imp_right fun found =>
      wakes thread found target⟩
  | wakeObjects found wakes =>
    rcases consistent.wakeObjects found rfl with ⟨woken, kept⟩
    exact ⟨woken, kept.of_waitingFor wakes⟩
  | wakeFirst exact first known wakes cpu reason =>
    rcases consistent.wakeFirst exact first cpu reason with ⟨woken, kept⟩
    exact ⟨woken, kept.of_waitingFor wakes⟩
  | @dropFirst queue object thread rest exact first unknown =>
    have waiting := (consistent.waiters queue object exact thread).mp
      (by rw [first]; exact List.mem_cons_self)
    exact absurd (mem_threads_of_role (by rw [waiting]; nofun)) unknown
  | dropQueue exact vacant => exact ⟨consistent.removeVacant exact vacant, .of_role rfl⟩

theorem Edits.consistent (path : Edits initial operation state next) (matched : initial.Matched)
    (consistent : state.Consistent) :
    next.Consistent ∧ Keeps (initial.Wakes operation) state next := by
  induction path with
  | refl => exact ⟨consistent, .refl _⟩
  | tail _ edit induction =>
    rcases edit.consistent matched induction.1 with ⟨edited, kept⟩
    exact ⟨edited, induction.2.trans kept⟩

/-- The current thread leaves the CPU, and the others stay where they are. -/
theorem Registers.consistent (registers : Registers state thread target alarm next)
    (here : state.current = some thread) (consistent : state.Consistent) :
    next.Consistent ∧ Keeps Nobody state next ∧ next.current = none := by
  cases registers with
  | queue queue object =>
    exact ⟨consistent.blockWaiter here queue object, consistent.keeps_blockCurrent here _, rfl⟩
  | receiver endpoint =>
    have blocked := consistent.takeToken.blockLoose here (Role.loose_channelReceive endpoint)
    exact ⟨(blocked.insertTimer _ thread).pushReceiver _ thread,
      consistent.keeps_blockCurrent here _, rfl⟩
  | timer deadline =>
    have blocked := consistent.takeToken.blockLoose here
      (Role.loose_timer state.nextWakeToken deadline)
    exact ⟨blocked.insertTimer _ thread, consistent.keeps_blockCurrent here _, rfl⟩

theorem Consistent.perform {system : TaskSystem} (consistent : system.scheduler.Consistent)
    (matched : system.scheduler.Matched) (cpu : Cpu) (operation : TaskOperation) :
    (system.perform cpu operation).scheduler.Consistent ∧
      Keeps (system.scheduler.Wakes operation) system.scheduler
        (system.perform cpu operation).scheduler := by
  cases perform_performs cpu system operation with
  | edits path => exact path.consistent matched consistent
  | blocks here known registers dispatched =>
    rcases registers.consistent here consistent with ⟨blocked, kept, vacant⟩
    rcases blocked.scheduleNext vacant rfl with ⟨scheduled, others⟩
    rw [← dispatched]
    exact ⟨scheduled, (kept.trans others).weaken⟩

end ServiceOS.Task.SchedulerState
