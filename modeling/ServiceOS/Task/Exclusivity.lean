import ServiceOS.Task.Edits

/-! # A thread is in one queue at a time

A timed receive registers its thread twice, and each way of waking it leaves
the other registration behind. As long as no thread is woken out of such a
wait, the queues, the timers and the threads' states agree throughout. -/

namespace ServiceOS.Task

open Execution Time Buckets List

namespace SchedulerState

/-- Receiver queues and timers hold exactly the threads that wait in them. -/
structure Settled (state : SchedulerState) : Prop where
  receivers_nodup : ∀ endpoint, (state.waiters .receivers endpoint).Nodup
  receivers : ∀ endpoint thread, thread ∈ state.waiters .receivers endpoint ↔
    state.role thread = .waiting (.channelReceive endpoint)
  timers : ∀ (token : WakeToken) (thread : ThreadId), state.waitingTimers[token]? = some thread →
    ∃ target, state.role thread = .waiting target ∧
      ((∃ deadline, target = .timer token deadline) ∨ ∃ endpoint, target = .channelReceive endpoint)

theorem new_settled (bootstrap : ThreadId) : (new bootstrap).Settled := by
  have idle : ∀ endpoint thread,
      (new bootstrap).role thread ≠ .waiting (.channelReceive endpoint) := by
    intro endpoint thread waiting
    rcases isBlocked_iff.mp (isBlocked_of_waiting waiting) with ⟨record, found, blocked⟩
    rw [new, Std.ExtTreeMap.getElem?_insert] at found
    split at found
    · cases found
      cases blocked
    · simp at found
  refine ⟨fun endpoint => nodup_nil, fun endpoint thread => ?_, fun token thread found => ?_⟩
  · exact iff_of_false (by simp [new, waiters]) (idle endpoint thread)
  · simp [new] at found

variable {state next : SchedulerState}

theorem Settled.matched (settled : state.Settled) : state.Matched := by
  refine ⟨fun endpoint thread member target waiting => ?_,
    fun token thread found target waiting => ?_⟩
  · have receives := (settled.receivers endpoint thread).mp member
    exact Role.waiting.inj (waiting.symm.trans receives)
  rcases settled.timers token thread found with ⟨registered, here, either⟩
  rw [Role.waiting.inj (waiting.symm.trans here)]
  exact either

def Released (state : SchedulerState) (thread : ThreadId) : Prop :=
  (∀ endpoint, thread ∉ state.waiters .receivers endpoint) ∧
    ∀ token : WakeToken, state.waitingTimers[token]? ≠ some thread

/-- A thread that does not wait for a message or a deadline has no entries. -/
theorem Settled.released (settled : state.Settled)
    (message : ∀ endpoint, state.role thread ≠ .waiting (.channelReceive endpoint))
    (deadline : ∀ token deadline, state.role thread ≠ .waiting (.timer token deadline)) :
    state.Released thread := by
  refine ⟨fun endpoint member => message endpoint ((settled.receivers endpoint thread).mp member),
    fun token found => ?_⟩
  rcases settled.timers token thread found with ⟨_, here, ⟨due, rfl⟩ | ⟨endpoint, rfl⟩⟩
  · exact deadline token due here
  · exact message endpoint here

theorem Released.calm
    (released : state.Released thread) (calm : StartsNoWait state next) : next.Released thread :=
  ⟨fun endpoint member => released.1 endpoint ((calm.receivers endpoint).subset member),
    fun token found => released.2 token (calm.timers token thread found)⟩

theorem Settled.calm (settled : state.Settled) (calm : StartsNoWait state next)
    (kept : Keeps (fun thread _ => next.Released thread) state next) : next.Settled := by
  refine ⟨fun endpoint => (calm.receivers endpoint).nodup (settled.receivers_nodup endpoint),
    fun endpoint thread => ⟨fun member => ?_, fun waiting => ?_⟩, fun token thread found => ?_⟩
  · have before := (calm.receivers endpoint).subset member
    rcases kept thread _ ((settled.receivers endpoint thread).mp before) with still | released
    · exact still
    · exact absurd member (released.1 endpoint)
  · exact calm.kept endpoint thread ((settled.receivers endpoint thread).mpr (calm.waiting waiting))
      (isBlocked_of_waiting waiting)
  rcases settled.timers token thread (calm.timers token thread found) with ⟨target, here, either⟩
  rcases kept thread target here with still | released
  · exact ⟨target, still, either⟩
  · exact absurd found (released.2 token)

/-- The current thread has no entries when it is registered for its wait. -/
theorem Settled.begins (settled : state.Settled)
    (running : state.role thread = .running) (start : StartsWait state next thread target alarm) :
    next.Settled := by
  have free := settled.released (fun endpoint => by rw [running]; nofun)
    (fun token deadline => by rw [running]; nofun)
  have own : next.role thread = .waiting target := by rw [start.role, Function.update_self]
  have others : ∀ other, other ≠ thread → next.role other = state.role other :=
    fun other different => by rw [start.role, Function.update_of_ne different]
  refine ⟨fun endpoint => ?_, fun endpoint other => ?_, fun other waiter found => ?_⟩
  · rw [start.receivers]
    split
    · exact nodup_append'.mpr ⟨settled.receivers_nodup endpoint, nodup_singleton _,
        disjoint_singleton.mpr (free.1 endpoint)⟩
    · exact settled.receivers_nodup endpoint
  · rw [start.receivers]
    by_cases same : other = thread
    · subst same
      rw [own, Role.waiting.injEq]
      split
      next here => simp [here]
      next elsewhere => exact iff_of_false (free.1 endpoint) elsewhere
    · rw [others other same, ← settled.receivers]
      split <;> simp [same]
  · rw [start.timers] at found
    split at found
    next here =>
      cases found
      rcases Option.map_eq_some_iff.mp here with ⟨set, member, rfl⟩
      exact ⟨target, own, (start.timed set member).imp_left (Exists.intro set.deadline)⟩
    rcases settled.timers other waiter found with ⟨wanted, here, either⟩
    refine ⟨wanted, ?_, either⟩
    rw [others waiter, here]
    rintro rfl
    exact free.2 other found

/-! ## Woken threads lose their entries -/

theorem makeRunnable_released (elsewhere : state.current ≠ some thread)
    (registered : thread ∈ state.threads) :
    (state.makeRunnable cpu thread reason).2.Released thread := by
  have roused : ((state.removeFromWaitQueues thread).wake cpu thread reason).Released thread := by
    rcases (state.removeFromWaitQueues thread).wake_frame cpu thread reason with
      ⟨-, waiting, timers, -⟩
    refine ⟨fun endpoint member => ?_, fun token found => ?_⟩
    · rw [waiters, waiting, ← waiters, waiters_removeFromWaitQueues] at member
      simp at member
    · rw [timers] at found
      exact (timers_removeFromWaitQueues.mp found).2 rfl
  unfold makeRunnable
  rw [if_pos registered, if_neg elsewhere]
  split
  · exact roused.calm (scheduleNextLocked_startsNoWait _ _ _ _)
  · exact roused

theorem handleTimeWakeup_erases (state : SchedulerState) (cpu : Cpu) (event : WakeEvent)
    (thread : ThreadId) :
    (state.handleTimeWakeup cpu event).2.waitingTimers[event.token]? ≠ some thread := by
  have erased : (state.waitingTimers.erase event.token)[event.token]? ≠ some thread := by simp
  unfold handleTimeWakeup
  split
  next missing =>
    rw [missing]
    nofun
  dsimp only
  split
  · intro found
    exact erased ((wake_startsNoWait _ _ _ _).timers _ _
      ((afterWake_startsNoWait _ _ _ _).timers _ _ found))
  · exact erased

theorem handleTimeWakeup_released (settled : state.Settled)
    (found : state.waitingTimers[event.token]? = some thread)
    (clear : state.receiving thread = []) :
    (state.handleTimeWakeup cpu event).2.Released thread := by
  have calm := (handleTimeWakeup_edits cpu state event).startsNoWait
  have outside : ∀ endpoint, thread ∉ state.waiters .receivers endpoint := by
    intro endpoint member
    have listed := mem_receiving.mpr member
    rw [clear] at listed
    cases listed
  refine ⟨fun endpoint member => outside endpoint ((calm.receivers endpoint).subset member),
    fun token still => ?_⟩
  -- Its wait is the one for this timer, so every token it is under is this one.
  have ended : ∀ {other : WakeToken}, state.waitingTimers[other]? = some thread →
      ∃ deadline, state.role thread = .waiting (.timer other deadline) := by
    intro other registered
    rcases settled.timers other thread registered with ⟨_, here, ⟨due, rfl⟩ | ⟨endpoint, rfl⟩⟩
    · exact ⟨due, here⟩
    · exact absurd ((settled.receivers endpoint thread).mpr here) (outside endpoint)
  rcases ended found with ⟨due, here⟩
  rcases ended (calm.timers token thread still) with ⟨later, same⟩
  cases here.symm.trans same
  exact handleTimeWakeup_erases state cpu event thread still

/-- The receiver is the one thread that leaves the receiver queue awake. -/
theorem notifyChannelReady_released (settled : state.Settled)
    (found : (state.nextReceiver (state.waiters .receivers endpoint)).1 = some thread)
    (clear : state.pendingTokens thread = []) :
    (state.notifyChannelReady cpu endpoint).2.Released thread := by
  rcases served : state.wakeReceiver cpu endpoint with ⟨woke, after⟩
  rcases wakeReceiver_cases served with
    ⟨passed, receiver, rest, waiting, same, split, -, -, -, -, rfl, held⟩
  cases found.symm.trans same
  have member : thread ∈ state.waiters .receivers endpoint := by
    rw [split]
    simp
  have here := (settled.receivers endpoint thread).mp member
  have distinct := settled.receivers_nodup endpoint
  rw [split] at distinct
  have behind : thread ∉ rest :=
    (nodup_cons.mp (nodup_append'.mp distinct).2.1).1
  have taken : ((state.wakeForMessage cpu (some thread)).setWaiting .receivers
      waiting).Released thread := by
    refine ⟨fun other inside => ?_, fun token registered => ?_⟩
    · rw [held] at inside
      split at inside
      · exact behind inside
      rename_i different
      have elsewhere := (settled.receivers other thread).mp inside
      cases here.symm.trans elsewhere
      exact different rfl
    · have before := (state.wake_startsNoWait cpu thread .channelMessage).timers token thread
        registered
      have listed := mem_pendingTokens.mpr before
      rw [clear] at listed
      cases listed
  have current := wakeReceiver_current cpu state endpoint
  rw [served] at current
  have objects : Edits state (.notifyChannelReady endpoint) _ _ :=
    notifyObjects_edits cpu .ipcWake current woke fun _ => .inr rfl
  rw [notifyChannelReady, served]
  exact taken.calm objects.startsNoWait

/-! ## Whole runs -/

/-- A timer does not wake a thread that is in a receiver queue, and a message
does not wake a thread that has a timer pending. -/
def WakesCleanly (state : SchedulerState) : TaskOperation → Prop
  | .handleTimeWakeup event => ∀ thread ∈ state.waitingTimers[event.token]?,
      state.isBlocked thread = true → state.receiving thread = []
  | .notifyChannelReady endpoint =>
    ∀ thread ∈ (state.nextReceiver (state.waiters .receivers endpoint)).1,
      state.pendingTokens thread = []
  | _ => True

instance decidableWakesCleanly (state : SchedulerState) (operation : TaskOperation) :
    Decidable (state.WakesCleanly operation) := by
  cases operation <;> unfold WakesCleanly <;> infer_instance

/-- A thread that is woken out of a wait for anything else had no entries. -/
theorem Settled.released_of_other (settled : state.Settled) (calm : StartsNoWait state next)
    (here : state.role thread = .waiting target)
    (message : ∀ endpoint, target ≠ .channelReceive endpoint)
    (deadline : ∀ token deadline, target ≠ .timer token deadline) : next.Released thread := by
  refine (settled.released (fun endpoint => ?_) fun token due => ?_).calm calm
  · rw [here]
    exact fun same => message endpoint (Role.waiting.inj same)
  · rw [here]
    exact fun same => deadline token due (Role.waiting.inj same)

variable {system : TaskSystem}

variable (settled : system.scheduler.Settled) (consistent : system.scheduler.Consistent)
  (clean : system.scheduler.WakesCleanly operation)

include settled consistent clean

theorem Settled.released_of_wakes
    (calm : StartsNoWait system.scheduler (system.perform cpu operation).scheduler)
    (here : system.scheduler.role thread = .waiting target)
    (woken : system.scheduler.Wakes operation thread target) :
    (system.perform cpu operation).scheduler.Released thread := by
  have notified : ∀ {queue object}, queue ≠ .receivers →
      Notified queue object thread target →
      (system.perform cpu operation).scheduler.Released thread := by
    intro queue object exact either
    refine settled.released_of_other calm here (fun endpoint same => ?_) fun token due same => ?_
    · subst same
      rcases either with receives | waits
      · exact exact (WaitQueue.target_inj.mp
          (show WaitQueue.receivers.target endpoint = _ from receives)).1.symm
      · cases waits
    subst same
    rcases either with receives | waits
    · cases queue <;> cases receives
    · cases waits
  cases operation with
  | makeRunnable =>
    cases woken
    refine makeRunnable_released (fun current => ?_) (mem_threads_of_role (by rw [here]; nofun))
    cases here.symm.trans ((consistent.current thread).mp current)
  | handleTimeWakeup =>
    exact handleTimeWakeup_released settled woken
      (clean thread woken (isBlocked_of_waiting here))
  | notifyChannelReady =>
    rcases woken with receiver | rfl
    · exact notifyChannelReady_released settled receiver (clean thread receiver)
    · exact settled.released_of_other calm here nofun nofun
  | notifyPacketReady interface | notifyInputReady source => exact notified (by decide) woken
  | notifyObjectReady =>
    cases woken
    exact settled.released_of_other calm here nofun nofun
  | _ => exact woken.elim

theorem Settled.perform : (system.perform cpu operation).scheduler.Settled := by
  have kept := (consistent.perform settled.matched cpu operation).2
  cases perform_waits system cpu operation with
  | none calm =>
    refine settled.calm calm fun thread target here => ?_
    exact (kept thread target here).imp_right
      (settled.released_of_wakes consistent clean calm here)
  | @begins middle thread target other start dispatched =>
    rw [← dispatched]
    have running := (consistent.current thread).mp start.current
    exact (settled.begins running start).calm (scheduleNextLocked_startsNoWait _ _ _ _)
      (start.keeps consistent other .blocked (some thread)).weaken

end SchedulerState

namespace TaskSystem

open SchedulerState

/-- The queues, the timers and the threads' states agree. -/
structure InPlace (system : TaskSystem) : Prop where
  consistent : system.scheduler.Consistent
  settled : system.scheduler.Settled

def WakesCleanly (system : TaskSystem) (action : TaskAction) : Prop :=
  system.scheduler.WakesCleanly action.operation

instance decidableWakesCleanly (system : TaskSystem) (action : TaskAction) :
    Decidable (system.WakesCleanly action) :=
  SchedulerState.decidableWakesCleanly _ _

theorem InPlace.step {system next : TaskSystem} (taken : system.step action = some next)
    (clean : system.WakesCleanly action) (placed : system.InPlace) : next.InPlace := by
  cases taken
  exact ⟨(placed.consistent.perform placed.settled.matched action.cpu action.operation).1,
    placed.settled.perform placed.consistent clean⟩

/-- In every state reached, no thread is queued twice, the current thread is not
queued, idle ticks are counted for exactly the queued threads, and a thread that
is runnable or running is in no wait queue and under no token. -/
theorem thread_queues_exclusive {bootstrap : ThreadId} {actions : List TaskAction}
    {system : TaskSystem} (execution : run step (boot bootstrap) actions = some system)
    (clean : EveryStep step WakesCleanly (boot bootstrap) actions) :
    (all system.scheduler.runnableQueues).Nodup ∧
      (∀ thread, system.scheduler.current = some thread →
        thread ∉ all system.scheduler.runnableQueues) ∧
      (∀ thread, thread ∈ system.scheduler.queuedIdleTicks ↔
        thread ∈ all system.scheduler.runnableQueues) ∧
      ∀ (thread : ThreadId) (record : ThreadState),
        system.scheduler.threads[thread]? = some record →
        record.executionState = .runnable ∨ record.executionState = .running →
        (∀ queue object, thread ∉ system.scheduler.waiters queue object) ∧
          ∀ token : WakeToken, system.scheduler.waitingTimers[token]? ≠ some thread := by
  have placed : system.InPlace :=
    everyStep_preserves InPlace WakesCleanly InPlace.step execution clean
      ⟨new_consistent bootstrap, new_settled bootstrap⟩
  rcases placed with ⟨consistent, settled⟩
  refine ⟨consistent.queued_nodup, fun thread current queued => ?_, fun thread => ?_,
    fun thread record found active => ?_⟩
  · have running := (consistent.current thread).mp current
    cases running.symm.trans ((consistent.queued thread).mp queued)
  · rw [consistent.idleTicks, consistent.queued]
  have awake : ∀ target, system.scheduler.role thread ≠ .waiting target := by
    intro target waiting
    rcases isBlocked_iff.mp (isBlocked_of_waiting waiting) with ⟨same, here, blocked⟩
    cases found.symm.trans here
    rcases active with runnable | running
    · cases runnable.symm.trans blocked
    · cases running.symm.trans blocked
  have released := settled.released (fun endpoint => awake _) fun token deadline => awake _
  refine ⟨fun queue object member => ?_, released.2⟩
  by_cases exact : queue = .receivers
  · subst exact
    exact released.1 object member
  · exact awake _ ((consistent.waiters queue object exact thread).mp member)

/-- One thread sleeps until a deadline, the other receives a message. -/
def sleepAndReceive : List TaskAction :=
  [.initializeTime, .registerThread 1, .makeRunnable 1 .explicit, .blockCurrentUntil 1, .tickTime,
    .takeWakeup, .handleTimeWakeup ⟨1, .deadlineExpired⟩, .blockCurrentOnReceive 7,
    .notifyChannelReady 7, .handleTick 1].map (⟨bootCpu, ·⟩)

theorem thread_queues_exclusive_after_waits :
    ∃ system, run step (boot 0) sleepAndReceive = some system ∧
      all system.scheduler.runnableQueues = [1] ∧
      (all system.scheduler.runnableQueues).Nodup :=
  ⟨_, rfl, by decide +kernel,
    (@thread_queues_exclusive 0 sleepAndReceive _ rfl (by decide +kernel)).1⟩

def timedReceive : List TaskAction :=
  [.initializeTime, .blockCurrentOnReceiveUntil 7 5, .notifyChannelReady 7].map (⟨bootCpu, ·⟩)

/-- A message that ends a timed receive leaves the timer of the thread pending. -/
theorem running_thread_has_timer :
    ∃ system, run step (boot 0) timedReceive = some system ∧
      system.scheduler.current = some 0 ∧
      system.scheduler.threads[(0 : ThreadId)]? = some ⟨.running, none, some .channelMessage⟩ ∧
      system.scheduler.waitingTimers[(1 : WakeToken)]? = some 0 :=
  ⟨_, rfl, by decide +kernel, by decide +kernel, by decide +kernel⟩

end TaskSystem
end ServiceOS.Task
