import ServiceOS.Task.Registration

/-! # Operations find the threads they look up

As every thread the scheduler refers to is registered, no operation ends with an
unknown thread, but for the one a caller names, and no list of waiters is given
up half way. -/

namespace ServiceOS.Task

open SchedulerState
open Std (ExtTreeMap)
open Execution Time

variable {state : SchedulerState}

namespace SchedulerState

/-! ## Waking -/

section

variable (registered : state.Registered) (cpu : Cpu) (trigger : ScheduleTrigger)
  (previous : Option ThreadId)

include registered cpu trigger previous

theorem Registered.scheduleNextLocked_ok :
    ∃ decision, (state.scheduleNextLocked cpu trigger previous).1 = .ok decision := by
  rcases call : state.scheduleNextLocked cpu trigger previous with ⟨answer, next⟩
  rcases scheduleNextLocked_cases call with
    ⟨ok, -⟩ | ⟨thread, middle, takes, ⟨unknown, -⟩ | ⟨-, ok, -⟩⟩
  · exact ok
  · exact absurd (registered thread (.queued takes.member)) unknown
  · exact ok

theorem Registered.afterWake_isSome : (state.afterWake cpu trigger previous).1.isSome = true := by
  unfold afterWake
  split
  · rcases registered.scheduleNextLocked_ok cpu trigger previous with ⟨decision, scheduled⟩
    dsimp only
    rw [scheduled]
    rfl
  · rfl

end

theorem wakeAll_isSome {threads : List ThreadId}
    (known : ∀ thread ∈ threads, thread ∈ state.threads) (cpu : Cpu) :
    (state.wakeAll cpu threads).1 = some () := by
  induction threads generalizing state with
  | nil => rfl
  | cons thread threads induction =>
    rcases List.forall_mem_cons.mp known with ⟨here, others⟩
    rw [wakeAll, if_pos here]
    have woken : Touches (fun _ => True) state (state.wake cpu thread .objectReady) :=
      .wake trivial cpu .objectReady
    exact induction fun other member => woken.kept other (others other member)

section

variable (registered : state.Registered)

include registered

theorem Registered.wakeAll_waiters {waiters : List ThreadId}
    (found : (state.waiting queue)[object]? = some waiters) (cpu : Cpu) :
    ((state.removeWaiters queue object).wakeAll cpu waiters).1 = some () := by
  refine wakeAll_isSome (fun thread member => ?_) cpu
  have held : thread ∈ state.waiters queue object := by
    rw [SchedulerState.waiters, found]
    exact member
  exact registered thread (.waiting held)

variable (cpu : Cpu)

theorem Registered.wakeWaiters (queue : WaitQueue) (object : ObjectId) (waiters : List ThreadId) :
    ((state.removeWaiters queue object).wakeAll cpu waiters).2.Registered :=
  (registered.touches (.removeWaiters state queue object)).touches
    (.wakeAll (fun _ _ => id) (fun _ => id) cpu)

theorem Registered.wakeObjectWaitersLocked (object : ObjectId) :
    (state.wakeObjectWaitersLocked cpu object).1 =
      some ((state.waiting .objects)[object]?).isSome := by
  unfold SchedulerState.wakeObjectWaitersLocked
  split
  next vacant => rw [vacant]; rfl
  rename_i found
  have all := registered.wakeAll_waiters found cpu
  split <;> rename_i call <;> rw [call] at all
  · cases all
  · rw [found]
    rfl

theorem Registered.notifyObjects_isSome (trigger : ScheduleTrigger) (object : ObjectId)
    (previous : Option ThreadId)
    (any : woke = true ∨ ((state.waiting .objects)[object]?).isSome = true) :
    (state.notifyObjects cpu trigger object previous woke).1.isSome = true := by
  have answer := registered.wakeObjectWaitersLocked cpu object
  have woken : (state.wakeObjectWaitersLocked cpu object).2.Registered := by
    unfold SchedulerState.wakeObjectWaitersLocked
    split
    · exact registered
    rename_i waiters found
    have all := registered.wakeWaiters cpu .objects object waiters
    split <;> rename_i call <;> rw [call] at all <;> exact all
  unfold SchedulerState.notifyObjects
  split <;> rename_i call <;> rw [call] at answer woken
  · cases answer
  cases answer
  rcases any with rfl | some
  · exact woken.afterWake_isSome cpu trigger previous
  · rw [some]
    simpa using woken.afterWake_isSome cpu trigger previous

theorem Registered.handleTimeWakeup_isSome (found : state.waitingTimers[event.token]? = some thread)
    (blocked : state.isBlocked thread = true) (cpu : Cpu) :
    (state.handleTimeWakeup cpu event).1.isSome = true := by
  have erased := registered.touches (.eraseTimer state event.token)
  unfold handleTimeWakeup
  rw [found]
  dsimp only
  split
  next still =>
    have woken := erased.touches (.wake (mem_threads_of_isBlocked still) cpu .timerExpired)
    exact woken.afterWake_isSome cpu _ _
  next running => exact absurd blocked running

theorem Registered.notifyChannelReady_isSome
    (any : (∃ thread ∈ state.waiters .receivers endpoint, state.isBlocked thread = true) ∨
      ((state.waiting .objects)[endpoint]?).isSome = true) :
    (state.notifyChannelReady cpu endpoint).1.isSome = true := by
  have woken := registered.touches
    (.wakeReceiver (fun _ => mem_threads_of_isBlocked) cpu endpoint)
  rcases call : state.wakeReceiver cpu endpoint with ⟨woke, next⟩
  simp only [notifyChannelReady, call]
  rw [call] at woken
  apply woken.notifyObjects_isSome cpu _ endpoint _
  rcases wakeReceiver_cases call with
    ⟨passed, receiver, rest, waiting, -, split, skipped, -, ended, rfl, rfl, -⟩
  have objects : ((state.wakeForMessage cpu receiver).setWaiting .receivers waiting).waiting
      .objects = state.waiting .objects := by
    have different : WaitQueue.objects ≠ .receivers := by decide
    rw [waiting_setWaiting_of_ne _ different, wakeForMessage_waiting]
  rw [objects]
  refine any.imp_left fun ⟨thread, member, blocked⟩ => ?_
  cases receiver with
  | some => rfl
  | none =>
    rw [split, ended rfl] at member
    exact absurd blocked (skipped thread (by simpa using member))

theorem Registered.notifyFirst_isSome (reason : ThreadWakeReason) (trigger : ScheduleTrigger)
    (any : state.waiters queue object ≠ [] ∨ ((state.waiting .objects)[object]?).isSome = true) :
    (state.notifyFirst cpu queue reason trigger object).1.isSome = true := by
  unfold notifyFirst
  split
  next vacant =>
    exact registered.notifyObjects_isSome cpu _ _ _ (.inr (any.neg_resolve_left vacant))
  rename_i thread rest waiters
  have held : thread ∈ state.waiters queue object := waiters ▸ List.mem_cons_self
  have known := registered thread (.waiting held)
  have woken := registered.touches ((Touches.popWaiter waiters).trans (.wake known cpu reason))
  rw [if_pos known]
  split
  · exact (woken.touches (.removeWaiters _ _ _)).notifyObjects_isSome cpu _ _ _ (.inl rfl)
  · exact woken.notifyObjects_isSome cpu _ _ _ (.inl rfl)

theorem Registered.notifyObjectReady_isSome
    (any : ((state.waiting .objects)[object]?).isSome = true) :
    (state.notifyObjectReady cpu object).1.isSome = true := by
  rcases Option.isSome_iff_exists.mp any with ⟨waiters, found⟩
  have all := registered.wakeAll_waiters found cpu
  have woken := registered.wakeWaiters cpu .objects object waiters
  unfold notifyObjectReady
  rw [found]
  dsimp only
  split <;> rename_i call <;> rw [call] at all woken
  · cases all
  · exact woken.afterWake_isSome cpu _ _

/-- An operation that wakes threads and gives no decision had no thread to
wake. -/
structure WakesAll (state : SchedulerState) (cpu : Cpu) : Prop where
  timer : ∀ event thread, state.waitingTimers[event.token]? = some thread →
    state.isBlocked thread = true → (state.handleTimeWakeup cpu event).1.isSome = true
  channel : ∀ endpoint,
    (∃ thread ∈ state.waiters .receivers endpoint, state.isBlocked thread = true) ∨
      ((state.waiting .objects)[endpoint]?).isSome = true →
    (state.notifyChannelReady cpu endpoint).1.isSome = true
  packet : ∀ interface, state.waiters .packets interface ≠ [] ∨
      ((state.waiting .objects)[interface]?).isSome = true →
    (state.notifyPacketReady cpu interface).1.isSome = true
  input : ∀ source, state.waiters .inputs source ≠ [] ∨
      ((state.waiting .objects)[source]?).isSome = true →
    (state.notifyInputReady cpu source).1.isSome = true
  object : ∀ object, ((state.waiting .objects)[object]?).isSome = true →
    (state.notifyObjectReady cpu object).1.isSome = true

theorem Registered.wakesAll : state.WakesAll cpu where
  timer _ _ found blocked := registered.handleTimeWakeup_isSome found blocked cpu
  channel _ any := registered.notifyChannelReady_isSome cpu any
  packet _ any := registered.notifyFirst_isSome cpu _ _ any
  input _ any := registered.notifyFirst_isSome cpu _ _ any
  object _ any := registered.notifyObjectReady_isSome cpu any

end

end SchedulerState

namespace TaskSystem

open SchedulerState

/-- The operation ends with the error. Operations that return no result end
with none. -/
def Refuses (system : TaskSystem) (cpu : Cpu) (error : SchedulerError) : TaskOperation → Prop
  | .registerThread thread => (system.scheduler.registerThread thread).1 = .error error
  | .makeRunnable thread reason =>
    (system.scheduler.makeRunnable cpu thread reason).1 = .error error
  | .yieldCurrent => (system.scheduler.yieldCurrent cpu).1 = .error error
  | .preemptCurrentIfNeeded => (system.scheduler.preemptCurrentIfNeeded cpu).1 = .error error
  | .blockCurrentOnReceive endpoint =>
    (system.scheduler.blockCurrentOnReceive cpu endpoint).1 = .error error
  | .blockCurrentOnReceiveUntil endpoint deadlineTicks =>
    (system.scheduler.blockCurrentOnReceiveUntil system.time cpu endpoint deadlineTicks).1 =
      .error error
  | .blockCurrentOnPacketReceive interface =>
    (system.scheduler.blockCurrentOnPacketReceive cpu interface).1 = .error error
  | .blockCurrentOnInputReceive source racedWakeup =>
    (system.scheduler.blockCurrentOnInputReceive cpu source racedWakeup).1 = .error error
  | .blockCurrentOnObject object =>
    (system.scheduler.blockCurrentOnObject cpu object).1 = .error error
  | .blockCurrentUntil deadline =>
    (system.scheduler.blockCurrentUntil system.time cpu deadline).1 = .error error
  | .terminateCurrent => (system.scheduler.terminateCurrent cpu).1 = .error error
  | _ => False

end TaskSystem

namespace SchedulerState

theorem Registered.scheduleNextLocked_ne (registered : state.Registered)
    (cpu : Cpu) (trigger : ScheduleTrigger) (previous : Option ThreadId) :
    (state.scheduleNextLocked cpu trigger previous).1 ≠ .error .invalidThread := by
  rcases registered.scheduleNextLocked_ok cpu trigger previous with ⟨decision, scheduled⟩
  rw [scheduled]
  nofun

theorem Registered.blockCurrentOn_ne (registered : state.Registered) (cpu : Cpu) (queue : WaitQueue)
    (object : ObjectId) : (state.blockCurrentOn cpu queue object).1 ≠ .error .invalidThread := by
  unfold blockCurrentOn
  split
  · nofun
  rename_i current here
  have known := registered current (.current here)
  rw [if_pos known]
  exact (registered.touches (.of_registers known (.queue queue object))).scheduleNextLocked_ne
    cpu _ _

theorem Registered.blockUntil_ne (registered : state.Registered) {current : ThreadId}
    (known : current ∈ state.threads) {register : SchedulerState → WakeToken → SchedulerState}
    (registers : Registers state current target alarm
      (register state.takeToken state.nextWakeToken))
    (time : TimeState) (cpu : Cpu) (deadline : MonotonicInstant) :
    (state.blockUntil time cpu current deadline register).1 ≠ .error .invalidThread := by
  have listed := registered.touches (.of_registers known registers)
  rcases listed.scheduleNextLocked_ok cpu .blocked (some current) with ⟨decision, scheduled⟩
  unfold blockUntil armToken
  dsimp only
  split <;> rename_i armed <;> split at armed
  · split at armed <;> cases armed
    nofun
  · cases armed
    nofun
  · split at armed <;> cases armed
    rw [if_pos known]
    split <;> rename_i ended <;> rw [takeToken, ended] at scheduled
    · cases scheduled
    · nofun
  · cases armed

theorem registerThread_ne (state : SchedulerState) (thread : ThreadId) :
    (state.registerThread thread).1 ≠ .error .invalidThread := by
  unfold registerThread
  split <;> nofun

section

variable (registered : state.Registered)

include registered

theorem Registered.of_makeRunnable
    (refused : (state.makeRunnable cpu thread reason).1 = .error .invalidThread) :
    thread ∉ state.threads := by
  intro known
  have roused := registered.touches (.rouse known cpu reason)
  rw [makeRunnable, if_pos known] at refused
  split at refused
  · cases refused
  split at refused
  · exact roused.scheduleNextLocked_ne cpu _ _ refused
  · cases refused

theorem Registered.yieldCurrent_ne
    (cpu : Cpu) : (state.yieldCurrent cpu).1 ≠ .error .invalidThread := by
  unfold yieldCurrent
  split
  · exact registered.scheduleNextLocked_ne cpu _ _
  rename_i current here
  have known := registered current (.current here)
  rw [if_pos known]
  exact (registered.touches (.requeueCurrent known cpu _)).scheduleNextLocked_ne cpu _ _

theorem Registered.preemptCurrentIfNeeded_ne (cpu : Cpu) :
    (state.preemptCurrentIfNeeded cpu).1 ≠ .error .invalidThread := by
  unfold preemptCurrentIfNeeded
  split
  · split
    · exact (registered.touches
        (.of_reshuffles (.consumePreemption state))).scheduleNextLocked_ne cpu _ _
    rename_i current here
    have known := registered current (.current here)
    have requeued := registered.touches (.requeueCurrent known cpu .yielded)
    rw [if_pos known]
    exact (requeued.touches (.of_reshuffles (.consumePreemption _))).scheduleNextLocked_ne cpu _ _
  · nofun

theorem Registered.blockCurrentOnInputReceive_ne (cpu : Cpu) (source : ObjectId) (raced : Bool) :
    (state.blockCurrentOnInputReceive cpu source raced).1 ≠ .error .invalidThread := by
  unfold blockCurrentOnInputReceive
  split
  · split
    · nofun
    rename_i current here
    have known := registered current (.current here)
    rw [if_pos known]
    exact (registered.touches (.race known cpu)).scheduleNextLocked_ne cpu _ _
  · exact registered.blockCurrentOn_ne cpu _ _

theorem Registered.blockCurrentOnReceiveUntil_ne
    (time : Option TimeState) (cpu : Cpu) (endpoint : ObjectId) (deadlineTicks : Nat) :
    (state.blockCurrentOnReceiveUntil time cpu endpoint deadlineTicks).1 ≠
      .error .invalidThread := by
  unfold blockCurrentOnReceiveUntil
  split
  · exact registered.blockCurrentOn_ne cpu .receivers endpoint
  split
  · nofun
  · nofun
  rename_i current time here
  have known := registered current (.current here)
  have found := registered.blockUntil_ne known
    (.receiver endpoint (time.now.saturatingAdd deadlineTicks)) time cpu
    (time.now.saturatingAdd deadlineTicks)
  dsimp only
  cases answer : (state.blockUntil time cpu current (time.now.saturatingAdd deadlineTicks)
    (registerReceiver current endpoint)).1 with
  | ok result => nofun
  | error error =>
    rw [answer] at found
    exact fun refused => found (congrArg _ (Except.error.inj refused))

theorem Registered.blockCurrentUntil_ne
    (time : Option TimeState) (cpu : Cpu) (deadline : MonotonicInstant) :
    (state.blockCurrentUntil time cpu deadline).1 ≠ .error .invalidThread := by
  unfold blockCurrentUntil
  split
  · nofun
  · nofun
  rename_i time current here
  have known := registered current (.current here)
  exact registered.blockUntil_ne known (.timer deadline) time cpu deadline

theorem Registered.terminateCurrent_ne
    (cpu : Cpu) : (state.terminateCurrent cpu).1 ≠ .error .invalidThread := by
  unfold terminateCurrent
  split
  · nofun
  rename_i current here
  rw [if_pos (registered current (.current here))]
  exact (registered.endCurrent current).scheduleNextLocked_ne cpu _ _

end

/-- Only a thread that the caller names can be unknown. -/
theorem Registered.of_refuses {system : TaskSystem} (registered : system.scheduler.Registered)
    (refuses : system.Refuses cpu .invalidThread operation) :
    ∃ thread reason, operation = .makeRunnable thread reason ∧
      thread ∉ system.scheduler.threads := by
  cases operation with
  | makeRunnable thread reason => exact ⟨thread, reason, rfl, registered.of_makeRunnable refuses⟩
  | registerThread => exact absurd refuses (registerThread_ne _ _)
  | yieldCurrent => exact absurd refuses (registered.yieldCurrent_ne _)
  | preemptCurrentIfNeeded => exact absurd refuses (registered.preemptCurrentIfNeeded_ne _)
  | blockCurrentOnReceive endpoint | blockCurrentOnPacketReceive interface
  | blockCurrentOnObject =>
    exact absurd refuses (registered.blockCurrentOn_ne _ _ _)
  | blockCurrentOnReceiveUntil =>
    exact absurd refuses (registered.blockCurrentOnReceiveUntil_ne _ _ _ _)
  | blockCurrentOnInputReceive =>
    exact absurd refuses (registered.blockCurrentOnInputReceive_ne _ _ _)
  | blockCurrentUntil => exact absurd refuses (registered.blockCurrentUntil_ne _ _ _)
  | terminateCurrent => exact absurd refuses (registered.terminateCurrent_ne _)
  | _ => exact refuses.elim

end SchedulerState

namespace TaskSystem

open SchedulerState

/-- In every state that is reached, threads are registered as long as anything
refers to them, a thread that ends is forgotten, no lookup of a thread fails but
that of a thread the caller names, and every thread that is to be woken is. -/
theorem references_registered {bootstrap : ThreadId} {actions : List TaskAction}
    {system : TaskSystem} (ran : run step (boot bootstrap) actions = some system) :
    system.scheduler.Registered ∧
      (∀ cpu thread, system.scheduler.current = some thread →
        thread ∉ (system.perform cpu .terminateCurrent).scheduler.threads ∧
          ¬(system.perform cpu .terminateCurrent).scheduler.Refers thread) ∧
      (∀ cpu operation, system.Refuses cpu .invalidThread operation →
        ∃ thread reason, operation = .makeRunnable thread reason ∧
          thread ∉ system.scheduler.threads) ∧
      ∀ cpu, system.scheduler.WakesAll cpu := by
  have registered : system.scheduler.Registered := by
    refine run_preserves (fun reached : TaskSystem => reached.scheduler.Registered) ?_ ran
      (new_registered bootstrap)
    rintro before after action ⟨⟩ registered
    exact registered.perform action.cpu action.operation
  exact ⟨registered, fun cpu thread here => registered.gone_of_terminateCurrent here cpu,
    fun cpu operation refuses => registered.of_refuses refuses,
    fun cpu => registered.wakesAll cpu⟩

/-- Two threads wait for one object, are woken together, and one ends. -/
def waitTogether : List TaskAction :=
  [.registerThread 1, .makeRunnable 1 .explicit, .blockCurrentOnObject 9, .blockCurrentOnObject 9,
    .notifyObjectReady 9, .terminateCurrent].map (⟨bootCpu, ·⟩)

theorem references_registered_of_waiters :
    ∃ system, run step (boot 0) waitTogether = some system ∧
      system.scheduler.current = some 1 ∧ (0 : ThreadId) ∉ system.scheduler.threads ∧
      system.scheduler.Registered :=
  ⟨_, rfl, by decide +kernel, by decide +kernel, (@references_registered 0 waitTogether _ rfl).1⟩

end TaskSystem
end ServiceOS.Task
