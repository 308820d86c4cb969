import ServiceOS.Foundation.Execution
import ServiceOS.Task.Waking

/-! # The scheduler and the time manager together

Every CPU may call any operation of the scheduler at any time; the timed waits
arm timers of the time manager. Wake events reach the scheduler in any order,
and may be anything. -/

namespace ServiceOS.Task

open Std (ExtTreeMap)
open Execution Time

structure TaskSystem where
  scheduler : SchedulerState
  time : Option TimeState

inductive TaskOperation
  | registerThread (thread : ThreadId)
  | makeRunnable (thread : ThreadId) (reason : ThreadWakeReason)
  | yieldCurrent
  | preemptCurrentIfNeeded
  | blockCurrentOnReceive (endpoint : ObjectId)
  | blockCurrentOnReceiveUntil (endpoint : ObjectId) (deadlineTicks : Nat)
  | blockCurrentOnPacketReceive (interface : ObjectId)
  | blockCurrentOnInputReceive (source : ObjectId) (racedWakeup : Bool)
  | blockCurrentOnObject (object : ObjectId)
  | blockCurrentUntil (deadline : MonotonicInstant)
  | terminateCurrent
  | handleTimeWakeup (event : WakeEvent)
  | notifyChannelReady (endpoint : ObjectId)
  | notifyPacketReady (interface : ObjectId)
  | notifyInputReady (source : ObjectId)
  | notifyObjectReady (object : ObjectId)
  | handleTick (balancingCpuCount : Nat)
  | consumePreemption
  | stealIdleRunnables
  | initializeTime
  | tickTime
  | takeWakeup

structure TaskAction where
  cpu : Cpu
  operation : TaskOperation

namespace TaskSystem

/-- The time manager is set up once, at any time. -/
def boot (bootstrap : ThreadId) : TaskSystem := ⟨.new bootstrap, none⟩

def perform (system : TaskSystem) (cpu : Cpu) : TaskOperation → TaskSystem
  | .registerThread thread =>
    { system with scheduler := (system.scheduler.registerThread thread).2 }
  | .makeRunnable thread reason =>
    { system with scheduler := (system.scheduler.makeRunnable cpu thread reason).2 }
  | .yieldCurrent => { system with scheduler := (system.scheduler.yieldCurrent cpu).2 }
  | .preemptCurrentIfNeeded =>
    { system with scheduler := (system.scheduler.preemptCurrentIfNeeded cpu).2 }
  | .blockCurrentOnReceive endpoint =>
    { system with scheduler := (system.scheduler.blockCurrentOnReceive cpu endpoint).2 }
  | .blockCurrentOnReceiveUntil endpoint deadlineTicks =>
    match system.scheduler.blockCurrentOnReceiveUntil system.time cpu endpoint
        deadlineTicks with
    | (_, scheduler, time) => ⟨scheduler, time⟩
  | .blockCurrentOnPacketReceive interface =>
    { system with scheduler := (system.scheduler.blockCurrentOnPacketReceive cpu interface).2 }
  | .blockCurrentOnInputReceive source racedWakeup =>
    { system with
      scheduler := (system.scheduler.blockCurrentOnInputReceive cpu source racedWakeup).2 }
  | .blockCurrentOnObject object =>
    { system with scheduler := (system.scheduler.blockCurrentOnObject cpu object).2 }
  | .blockCurrentUntil deadline =>
    match system.scheduler.blockCurrentUntil system.time cpu deadline with
    | (_, scheduler, time) => ⟨scheduler, time⟩
  | .terminateCurrent => { system with scheduler := (system.scheduler.terminateCurrent cpu).2 }
  | .handleTimeWakeup event =>
    { system with scheduler := (system.scheduler.handleTimeWakeup cpu event).2 }
  | .notifyChannelReady endpoint =>
    { system with scheduler := (system.scheduler.notifyChannelReady cpu endpoint).2 }
  | .notifyPacketReady interface =>
    { system with scheduler := (system.scheduler.notifyPacketReady cpu interface).2 }
  | .notifyInputReady source =>
    { system with scheduler := (system.scheduler.notifyInputReady cpu source).2 }
  | .notifyObjectReady object =>
    { system with scheduler := (system.scheduler.notifyObjectReady cpu object).2 }
  | .handleTick balancingCpuCount =>
    { system with scheduler := system.scheduler.handleTick cpu balancingCpuCount }
  | .consumePreemption => { system with scheduler := system.scheduler.consumePreemption.2 }
  | .stealIdleRunnables =>
    { system with scheduler := (system.scheduler.stealIdleRunnablesLocked cpu).2 }
  | .initializeTime => { system with time := some (system.time.getD .new) }
  | .tickTime => { system with time := system.time.map fun time => time.handleTick.2 }
  | .takeWakeup => { system with time := system.time.map fun time => time.takeWakeup.2 }

def step (system : TaskSystem) (action : TaskAction) : Option TaskSystem :=
  some (system.perform action.cpu action.operation)

/-- What a wait that the operation begins is to arm. -/
def alarm (system : TaskSystem) : TaskOperation → Option SchedulerState.Alarm
  | .blockCurrentOnReceiveUntil _ deadlineTicks =>
    system.scheduler.receiveAlarm system.time deadlineTicks
  | .blockCurrentUntil deadline => some ⟨system.scheduler.nextWakeToken, deadline⟩
  | _ => none

theorem bootCpu_lt : 0 < runnableQueueCpus := by decide

def bootCpu : Cpu := ⟨0, bootCpu_lt⟩

end TaskSystem

def Role.target? : Role → Option WaitTarget
  | .waiting target => some target
  | _ => none

theorem Role.mem_target? {role : Role} : target ∈ role.target? ↔ role = .waiting target := by
  cases role <;> simp [target?]

namespace SchedulerState

/-! ## One operation -/

/-- A thread that waits has no entries that belong to another wait. -/
structure Matched (state : SchedulerState) : Prop where
  receivers : ∀ endpoint, ∀ thread ∈ state.waiters .receivers endpoint, ∀ target,
    state.role thread = .waiting target → target = .channelReceive endpoint
  timers : ∀ (token : WakeToken) (thread : ThreadId), state.waitingTimers[token]? = some thread →
    ∀ target, state.role thread = .waiting target →
      (∃ deadline, target = .timer token deadline) ∨ ∃ endpoint, target = .channelReceive endpoint

variable {state : SchedulerState} {token : WakeToken}

/-- The timer that is due wakes a thread that is in none of the exact queues. -/
theorem Matched.loose_of_timer (matched : state.Matched)
    (found : state.waitingTimers[token]? = some thread)
    (blocked : state.isBlocked thread = true) : (state.role thread).Loose := by
  rcases role_of_isBlocked blocked with idle | ⟨target, waiting⟩
  · rw [idle]
    exact Role.loose_idle
  rw [waiting]
  rcases matched.timers token thread found target waiting with ⟨deadline, rfl⟩ | ⟨endpoint, rfl⟩
  · exact Role.loose_timer token deadline
  · exact Role.loose_channelReceive endpoint

def Wakes (state : SchedulerState) : TaskOperation → ThreadId → WaitTarget → Prop
  | .makeRunnable thread _ => fun woken _ => woken = thread
  | .handleTimeWakeup event => fun woken _ => state.waitingTimers[event.token]? = some woken
  | .notifyChannelReady endpoint => state.Receives endpoint
  | .notifyPacketReady interface => Notified .packets interface
  | .notifyInputReady source => Notified .inputs source
  | .notifyObjectReady object => WaitingFor (.object object)
  | _ => Nobody

theorem role_scheduleNextLocked (outside : thread ∉ Buckets.all state.runnableQueues) (cpu : Cpu)
    (trigger : ScheduleTrigger) (previous : Option ThreadId) :
    (state.scheduleNextLocked cpu trigger previous).2.role thread = state.role thread := by
  rcases call : state.scheduleNextLocked cpu trigger previous with ⟨answer, next⟩
  rcases scheduleNextLocked_cases call with
    ⟨-, rfl⟩ | ⟨taken, middle, takes, ⟨-, rfl⟩ | ⟨-, -, rfl⟩⟩
  · rfl
  · rw [takes.role]
  rw [role_dispatch, Function.update_of_ne, takes.role]
  rintro rfl
  exact outside takes.member

theorem StartsWait.keeps (consistent : state.Consistent)
    (start : StartsWait state middle thread target alarm) (cpu : Cpu) (trigger : ScheduleTrigger)
    (previous : Option ThreadId) :
    Keeps Nobody middle (middle.scheduleNextLocked cpu trigger previous).2 := by
  intro other wanted here
  refine .inl ((role_scheduleNextLocked ?_ cpu trigger previous).trans here)
  rw [start.queues, consistent.queued]
  intro queued
  by_cases same : other = thread
  · subst same
    cases queued.symm.trans ((consistent.current other).mp start.current)
  · rw [start.role, Function.update_of_ne same] at here
    cases queued.symm.trans here

/-! ## Entries left over from earlier waits -/

def receiving (state : SchedulerState) (thread : ThreadId) : List ObjectId :=
  ((state.waiting .receivers).toList.filter fun entry => thread ∈ entry.2).map Prod.fst

theorem mem_receiving :
    endpoint ∈ state.receiving thread ↔ thread ∈ state.waiters .receivers endpoint := by
  simp only [receiving, List.mem_map, List.mem_filter, decide_eq_true_eq, Prod.exists,
    ExtTreeMap.mem_toList_iff_getElem?_eq_some, waiters]
  constructor
  · rintro ⟨_, threads, ⟨found, member⟩, rfl⟩
    rw [found]
    exact member
  intro member
  cases found : (state.waiting .receivers)[endpoint]? with
  | none =>
    rw [found] at member
    cases member
  | some threads =>
    rw [found] at member
    exact ⟨endpoint, threads, ⟨found, member⟩, rfl⟩

def pendingTokens (state : SchedulerState) (thread : ThreadId) : List WakeToken :=
  (state.waitingTimers.toList.filter fun entry => entry.2 = thread).map Prod.fst

theorem mem_pendingTokens :
    token ∈ state.pendingTokens thread ↔ state.waitingTimers[token]? = some thread := by
  simp [pendingTokens]

/-- When an operation makes the current thread wait, the receiver queues hold it
only for the endpoint it then waits for. -/
def ReceiversClear (state next : SchedulerState) : Prop :=
  ∀ thread ∈ state.current, ∀ target ∈ (next.role thread).target?,
    ∀ endpoint ∈ state.receiving thread, target = .channelReceive endpoint
deriving Decidable

end SchedulerState
end ServiceOS.Task
