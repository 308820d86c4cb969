import ServiceOS.Task.Operations

/-! # What wakeups and ticks keep

A timer or a message leaves the scheduler arranged when the thread it wakes is
in none of the exact queues. -/

namespace ServiceOS.Task.SchedulerState

open Function Arranged
open Std (ExtTreeMap)
open Time

/-! ## Timers -/

variable {next state : SchedulerState} {cpu : Cpu} {object : ObjectId}

theorem Consistent.eraseTimer (consistent : state.Consistent) (token : WakeToken) :
    Consistent { state with waitingTimers := state.waitingTimers.erase token } :=
  frame consistent rfl rfl rfl fun _ _ => rfl

/-! ## Objects -/

def WaitingFor (target : WaitTarget) (_ : ThreadId) (other : WaitTarget) : Prop := other = target

theorem Keeps.of_waitingFor (kept : Keeps (WaitingFor target) state next)
    (wakes : ∀ thread, Wakes thread target) : Keeps Wakes state next := by
  intro thread other waiting
  refine (kept thread other waiting).imp_right fun same => ?_
  cases same
  exact wakes thread

variable {answer : Option Unit}

theorem Arranged.wakeAll {threads : List ThreadId}
    (arranged : Arranged (cleared state.role threads) state) (distinct : threads.Nodup)
    (waits : ∀ thread ∈ threads, state.role thread = .waiting target)
    (call : state.wakeAll cpu threads = (answer, next)) :
    next.Consistent ∧ Keeps (WaitingFor target) state next := by
  induction threads generalizing state with
  | nil =>
    cases call
    exact ⟨arranged, .refl _⟩
  | cons thread threads induction =>
    rcases List.nodup_cons.mp distinct with ⟨fresh, others⟩
    have waiting := waits thread List.mem_cons_self
    have registered : thread ∈ state.threads :=
      mem_threads_of_role (by rw [waiting]; nofun)
    rw [SchedulerState.wakeAll, if_pos registered] at call
    have roles := role_wake state cpu thread .objectReady
    -- The roles of those still to be woken are the same before and after.
    have woken : Arranged (cleared (state.wake cpu thread .objectReady).role threads)
        (state.wake cpu thread .objectReady) := by
      have placed := arranged.wake (update_self thread _ _) cpu .objectReady
      rw [cleared, update_idem] at placed
      rw [roles, cleared_update fresh]
      exact placed
    have still : ∀ other ∈ threads,
        (state.wake cpu thread .objectReady).role other = .waiting target := by
      intro other member
      rw [roles, update_of_ne (by rintro rfl; exact fresh member)]
      exact waits other (List.mem_cons_of_mem _ member)
    rcases induction woken others still call with ⟨ended, kept⟩
    have one : Keeps (WaitingFor target) state (state.wake cpu thread .objectReady) :=
      keeps_wake (fun other here => Role.waiting.inj (here.symm.trans waiting)) cpu _
    exact ⟨ended, one.trans kept⟩

section

variable (consistent : state.Consistent)

include consistent

theorem Consistent.wakeObjects {waiters : List ThreadId}
    (found : (state.waiting .objects)[object]? = some waiters)
    (call : (state.removeWaiters .objects object).wakeAll cpu waiters = (answer, next)) :
    next.Consistent ∧ Keeps (WaitingFor (.object object)) state next := by
  have exact : WaitQueue.objects ≠ .receivers := by decide
  have held : state.waiters .objects object = waiters := by
    rw [SchedulerState.waiters, found, Option.getD_some]
  have split : (state.waiters .objects object).Perm (waiters ++ []) := by
    rw [held, List.append_nil]
  have taken : Arranged (cleared state.role waiters) (state.removeWaiters .objects object) :=
    takeWaiters consistent exact split fun other position =>
      waiters_removeWaiters state .objects other object position
  have distinct := consistent.waiters_nodup .objects object exact
  rw [held] at distinct
  have waits : ∀ thread ∈ waiters,
      (state.removeWaiters .objects object).role thread = .waiting (.object object) := by
    rw [← held]
    exact fun thread => (consistent.waiters .objects object exact thread).mp
  have left : Arranged (cleared (state.removeWaiters .objects object).role waiters)
      (state.removeWaiters .objects object) := taken
  exact left.wakeAll distinct waits call

/-! ## Receivers, packets and inputs -/

/-- Threads that a notification about a queue's object may wake. -/
def Notified (queue : WaitQueue) (object : ObjectId) (_ : ThreadId) (target : WaitTarget) : Prop :=
  target = queue.target object ∨ target = .object object

theorem Consistent.wakeFirst (exact : queue ≠ .receivers)
    (first : state.waiters queue object = thread :: rest) (cpu : Cpu) (reason : ThreadWakeReason) :
    ((state.setWaiting queue ((state.waiting queue).insert object rest)).wake cpu thread
      reason).Consistent ∧
      Keeps (WaitingFor (queue.target object)) state
        ((state.setWaiting queue ((state.waiting queue).insert object rest)).wake cpu thread
          reason) := by
  have split : (state.waiters queue object).Perm ([thread] ++ rest) := by rw [first]; rfl
  have taken := takeWaiters consistent exact split fun other position =>
    waiters_setWaiting_insert state queue other object position rest
  have popped : Arranged (update
      (state.setWaiting queue ((state.waiting queue).insert object rest)).role thread .idle)
      (state.setWaiting queue ((state.waiting queue).insert object rest)) := taken
  have waiting : state.role thread = .waiting (queue.target object) :=
    (consistent.waiters queue object exact thread).mp (by rw [first]; exact List.mem_cons_self)
  exact ⟨popped.wakeTaken cpu reason, .relabel (role_wake _ cpu thread reason) fun target here =>
    Role.waiting.inj (here.symm.trans waiting)⟩

theorem Consistent.removeVacant (exact : queue ≠ .receivers)
    (vacant : state.waiters queue object = []) : (state.removeWaiters queue object).Consistent := by
  have nothing : (state.waiters queue object).Perm ([] ++ []) := by rw [vacant]; rfl
  exact takeWaiters consistent exact nothing fun other position =>
    waiters_removeWaiters state queue other object position

/-- The first blocked receiver is woken, and all threads that wait for the
endpoint as an object are. -/
def Receives (state : SchedulerState) (endpoint : ObjectId) (thread : ThreadId)
    (target : WaitTarget) : Prop :=
  (state.nextReceiver (state.waiters .receivers endpoint)).1 = some thread ∨
    target = .object endpoint

/-- The receiver that is found must be in none of the exact queues. -/
theorem Consistent.wakeReceiver (receives : ∀ thread ∈ state.waiters .receivers endpoint, ∀ target,
      state.role thread = .waiting target → target = .channelReceive endpoint)
    (cpu : Cpu) :
    (state.wakeReceiver cpu endpoint).2.Consistent ∧
      Keeps (fun thread _ => (state.nextReceiver (state.waiters .receivers endpoint)).1 =
        some thread) state (state.wakeReceiver cpu endpoint).2 := by
  rcases served : state.wakeReceiver cpu endpoint with ⟨woke, after⟩
  rcases wakeReceiver_cases served with
    ⟨passed, receiver, rest, waiting, found, split, -, blocked, -, -, rfl, -⟩
  have woken : (state.wakeForMessage cpu receiver).Consistent ∧
      Keeps (fun thread _ => (state.nextReceiver (state.waiters .receivers endpoint)).1 =
        some thread) state (state.wakeForMessage cpu receiver) := by
    cases receiver with
    | none => exact ⟨consistent, .refl _⟩
    | some thread =>
      have member : thread ∈ state.waiters .receivers endpoint := by
        rw [split]
        simp
      refine ⟨consistent.wakeLoose ?_ cpu _, keeps_wake (fun target here => found) cpu _⟩
      rcases role_of_isBlocked (blocked thread rfl) with idle | ⟨target, here⟩
      · rw [idle]
        exact Role.loose_idle
      · rw [here, receives thread member target here]
        exact Role.loose_channelReceive endpoint
  have left : ((state.wakeForMessage cpu receiver).setWaiting .receivers waiting).Consistent :=
    frame woken.1 rfl rfl rfl fun _ exact => update_of_ne exact _ _
  exact ⟨left, woken.2⟩

end

/-! ## Ticks -/

/-- Queued threads change queues and counters change; nothing else does. -/
structure Reshuffles (state next : SchedulerState) : Prop where
  threads : next.threads = state.threads
  waiting : next.waiting = state.waiting
  timers : next.waitingTimers = state.waitingTimers
  tokens : next.nextWakeToken = state.nextWakeToken
  current : next.current = state.current
  queued : (Buckets.all next.runnableQueues).Perm (Buckets.all state.runnableQueues)
  arranged : ∀ {role}, Arranged role state → Arranged role next

namespace Reshuffles

theorem refl (state : SchedulerState) : Reshuffles state state :=
  ⟨rfl, rfl, rfl, rfl, rfl, .refl _, id⟩

theorem trans (one : Reshuffles state middle) (other : Reshuffles middle next) :
    Reshuffles state next :=
  ⟨other.threads.trans one.threads, other.waiting.trans one.waiting,
    other.timers.trans one.timers, other.tokens.trans one.tokens,
    other.current.trans one.current, other.queued.trans one.queued,
    fun arranged => other.arranged (one.arranged arranged)⟩

section

variable (moved : Reshuffles state next)

include moved

theorem role : next.role = state.role := by
  funext thread
  rw [SchedulerState.role, moved.threads, SchedulerState.role]

theorem startsNoWait : StartsNoWait state next :=
  .of_eq moved.threads (congrFun moved.waiting _) moved.timers (Nat.le_of_eq moved.tokens.symm)

theorem consistent (consistent : state.Consistent) : next.Consistent := by
  rw [Consistent, moved.role]
  exact moved.arranged consistent

end

theorem foldl {move : Nat × SchedulerState → Candidate → Nat × SchedulerState}
    (each : ∀ result candidate, Reshuffles result.2 (move result candidate).2)
    (candidates : List Candidate) (result : Nat × SchedulerState) :
    Reshuffles result.2 (candidates.foldl move result).2 := by
  induction candidates generalizing result with
  | nil => exact .refl _
  | cons candidate candidates induction => exact (each result candidate).trans (induction _)

theorem stealThread (cpu : Cpu) (result : Nat × SchedulerState) (candidate : Cpu × ThreadId) :
    Reshuffles result.2 (SchedulerState.stealThread cpu result candidate).2 := by
  unfold SchedulerState.stealThread
  dsimp only
  split
  next member =>
    exact ⟨rfl, rfl, rfl, rfl, rfl, Buckets.all_move member _, fun arranged =>
      (arranged.moveRunnable member cpu).frame rfl rfl rfl fun _ _ => rfl⟩
  · exact .refl _

theorem stealIdleRunnablesLocked (state : SchedulerState) (cpu : Cpu) :
    Reshuffles state (state.stealIdleRunnablesLocked cpu).2 := by
  have counted : Reshuffles state { state with
      stealAttempts := saturatingIncrement 64 state.stealAttempts
      stealScanCursor := update state.stealScanCursor cpu
        ((state.stealScanCursor cpu + 1) % runnableQueueCpus) } :=
    ⟨rfl, rfl, rfl, rfl, rfl, .refl _, fun arranged => arranged.frame rfl rfl rfl fun _ _ => rfl⟩
  exact counted.trans (foldl (stealThread cpu) (state.stealCandidates cpu) (0, _))

theorem balanceThread (busiest emptiest : Cpu) (result : Nat × SchedulerState) (thread : ThreadId) :
    Reshuffles result.2 (SchedulerState.balanceThread busiest emptiest result thread).2 := by
  unfold SchedulerState.balanceThread
  dsimp only
  split
  next member =>
    exact ⟨rfl, rfl, rfl, rfl, rfl, Buckets.all_move member _, fun arranged =>
      (arranged.moveRunnable member emptiest).frame rfl rfl rfl fun _ _ => rfl⟩
  · exact .refl _

theorem pushBalanceLocked (state : SchedulerState) :
    Reshuffles state state.pushBalanceLocked.2 := by
  unfold SchedulerState.pushBalanceLocked
  split
  · exact .refl _
  next busiest emptiest moves plan => exact foldl (balanceThread busiest emptiest) _ (0, state)

theorem handleTick (state : SchedulerState) (cpu : Cpu) (balancingCpuCount : Nat) :
    Reshuffles state (state.handleTick cpu balancingCpuCount) := by
  have counted : Reshuffles state { state with
      ticksRemaining := state.ticksRemaining - 1
      preemptionPending := state.preemptionPending ||
        (decide (state.ticksRemaining - 1 = 0) && decide (0 < state.runnableLen))
      tickCounter := (state.tickCounter + 1) % 2 ^ 32
      queuedIdleTicks := state.queuedIdleTicks.map fun _ idle => saturatingIncrement 32 idle } := by
    refine ⟨rfl, rfl, rfl, rfl, rfl, .refl _, fun arranged => ⟨arranged.queued_nodup,
      arranged.queued, fun thread => ?_, arranged.current, arranged.waiters_nodup,
        arranged.waiters⟩⟩
    rw [← arranged.idleTicks, ExtTreeMap.mem_map]
  unfold SchedulerState.handleTick
  dsimp only
  split
  · exact .refl _
  split
  · exact (counted.trans (stealIdleRunnablesLocked _ cpu)).trans (pushBalanceLocked _)
  · exact counted

theorem consumePreemption (state : SchedulerState) : Reshuffles state state.consumePreemption.2 :=
  ⟨rfl, rfl, rfl, rfl, rfl, .refl _, fun arranged => arranged.frame rfl rfl rfl fun _ _ => rfl⟩

end Reshuffles
end ServiceOS.Task.SchedulerState
