import ServiceOS.Foundation.Buckets
import ServiceOS.Task.Types

/-! # The scheduler

The operations of `task/scheduler.rs`. Each runs under the scheduler's lock, on
one CPU, and is a function from the state before to its answer and the state
after. -/

namespace ServiceOS.Task

open Buckets Function
open Std (ExtTreeMap)
open Time

def runnableQueueCpus : Nat := 8

def stealBatchMax : Nat := 2

def stealMinIdleTicks : Nat := 3

def balancePeriodTicks : Nat := 64

def balanceOvercommitRatio : Nat := 2

abbrev Cpu := Fin runnableQueueCpus

/-- Counters are unsigned and stay at their maximum. -/
def saturatingIncrement (width value : Nat) : Nat := min (value + 1) (2 ^ width - 1)

structure SchedulerState where
  current : Option ThreadId
  runnableQueues : Cpu → List ThreadId
  queuedIdleTicks : ExtTreeMap ThreadId Nat
  stolenPerCpu : Cpu → Nat
  stealAttempts : Nat
  rebalanceMoves : Nat
  tickCounter : Nat
  stealScanCursor : Cpu → Nat
  threads : ExtTreeMap ThreadId ThreadState
  waitingTimers : ExtTreeMap WakeToken ThreadId
  waiting : WaitQueue → ExtTreeMap ObjectId (List ThreadId)
  nextWakeToken : Nat
  contextSwitches : Nat
  ticksRemaining : Nat
  preemptionPending : Bool

namespace SchedulerState

def new (bootstrap : ThreadId) : SchedulerState where
  current := some bootstrap
  runnableQueues _ := []
  queuedIdleTicks := ∅
  stolenPerCpu _ := 0
  stealAttempts := 0
  rebalanceMoves := 0
  tickCounter := 0
  stealScanCursor _ := 0
  threads := (∅ : ExtTreeMap ThreadId ThreadState).insert bootstrap
    ⟨.running, none, some .bootstrap⟩
  waitingTimers := ∅
  waiting _ := ∅
  nextWakeToken := 1
  contextSwitches := 0
  ticksRemaining := 1
  preemptionPending := false

/-! ## Threads and queues -/

variable (state : SchedulerState) (cpu : Cpu)

variable (thread : ThreadId)

def transitionTo (executionState : ExecutionState)
    (waitTarget : Option WaitTarget) (wakeReason : Option ThreadWakeReason) : SchedulerState :=
  { state with threads := state.threads.insert thread ⟨executionState, waitTarget, wakeReason⟩ }

def runnableLen : Nat := (all state.runnableQueues).length

/-- `blocked_thread_count`: entries, not threads. -/
def blockedThreadCount : Nat :=
  state.waitingTimers.size +
    ([WaitQueue.receivers, .packets, .inputs, .objects].map fun queue =>
      ((state.waiting queue).toList.map fun entry => entry.2.length).sum).sum

variable (trigger : ScheduleTrigger)

def decision (previous next : Option ThreadId) : ScheduleDecision :=
  ⟨trigger, previous, next, state.runnableLen, state.blockedThreadCount⟩

def pushRunnableOnCurrentCpu : SchedulerState :=
  { state with
    runnableQueues := pushBack state.runnableQueues cpu thread
    queuedIdleTicks := state.queuedIdleTicks.insert thread 0 }

def runnableContains : Bool :=
  (all state.runnableQueues).contains thread

def pushRunnableIfAbsent : SchedulerState :=
  if state.runnableContains thread then state else state.pushRunnableOnCurrentCpu cpu thread

/-- The CPU's own queue first; then any other, which counts as a steal. -/
def popRunnableNext : Option ThreadId × SchedulerState :=
  match popFront state.runnableQueues cpu with
  | some (thread, queues) =>
    (some thread, { state with
      runnableQueues := queues
      queuedIdleTicks := state.queuedIdleTicks.erase thread })
  | none =>
    match popAny state.runnableQueues with
    | some (thread, queues) =>
      (some thread, { state with
        runnableQueues := queues
        queuedIdleTicks := state.queuedIdleTicks.erase thread
        stolenPerCpu := update state.stolenPerCpu cpu
          (saturatingIncrement 64 (state.stolenPerCpu cpu)) })
    | none => (none, state)

def removeRunnable : SchedulerState :=
  { state with
    runnableQueues := fun cpu => (state.runnableQueues cpu).filter (· ≠ thread)
    queuedIdleTicks := state.queuedIdleTicks.erase thread }

variable (queue : WaitQueue)

variable (object : ObjectId)

/-- Threads registered in a wait map for an object, oldest first. -/
def waiters : List ThreadId :=
  (state.waiting queue)[object]?.getD []

def setWaiting (waiting : ExtTreeMap ObjectId (List ThreadId)) : SchedulerState :=
  { state with waiting := update state.waiting queue waiting }

/-- `entry(object).or_default().push_back(thread)`. -/
def pushWaiter (thread : ThreadId) : SchedulerState :=
  state.setWaiting queue
    ((state.waiting queue).insert object (state.waiters queue object ++ [thread]))

def removeFromWaitQueues : SchedulerState :=
  { state with
    waitingTimers := state.waitingTimers.filter fun _ waiting => waiting ≠ thread
    waiting := fun queue => (state.waiting queue).filterMap fun _ waiters =>
      let waiters := waiters.filter (· ≠ thread)
      if waiters.isEmpty then none else some waiters }

variable (previous : Option ThreadId)

def dispatch : SchedulerState :=
  { state.transitionTo thread .running none (some trigger.toWakeReason) with
    current := some thread
    ticksRemaining := 1
    preemptionPending := false
    contextSwitches :=
      if previous ≠ some thread then saturatingIncrement 64 state.contextSwitches
      else state.contextSwitches }

def scheduleNextLocked : Except SchedulerError ScheduleDecision × SchedulerState :=
  match state.popRunnableNext cpu with
  | (none, state) => (.ok (state.decision trigger previous none), state)
  | (some thread, state) =>
    if thread ∈ state.threads then
      let state := state.dispatch thread trigger previous
      (.ok (state.decision trigger previous (some thread)), state)
    else
      (.error .invalidThread, state)

/-! ## Registering, running and yielding -/

def registerThread : Except SchedulerError ThreadId × SchedulerState :=
  if thread ∈ state.threads then
    (.error .threadAlreadyRegistered, state)
  else
    (.ok thread, state.transitionTo thread .suspended none none)

/-- Queue a thread unless it is queued, and mark it runnable. -/
def wake (reason : ThreadWakeReason) : SchedulerState :=
  (state.pushRunnableIfAbsent cpu thread).transitionTo thread .runnable none (some reason)

def makeRunnable
    (wakeReason : ThreadWakeReason) : Except SchedulerError ScheduleDecision × SchedulerState :=
  let previous := state.current
  if thread ∈ state.threads then
    if previous = some thread then
      let state := state.transitionTo thread .running none (some wakeReason)
      (.ok (state.decision .explicit previous previous), state)
    else
      let state := (state.removeFromWaitQueues thread).wake cpu thread wakeReason
      if previous.isNone then
        state.scheduleNextLocked cpu .explicit previous
      else
        (.ok (state.decision .explicit previous previous), state)
  else
    (.error .invalidThread, state)

variable (current : ThreadId)

def requeueCurrent (reason : ThreadWakeReason) : SchedulerState :=
  { (state.transitionTo current .runnable none (some reason)).pushRunnableOnCurrentCpu
      cpu current with current := none }

def yieldCurrent : Except SchedulerError ScheduleDecision × SchedulerState :=
  match state.current with
  | none => state.scheduleNextLocked cpu .yielded none
  | some current =>
    if current ∈ state.threads then
      (state.requeueCurrent cpu current .yielded).scheduleNextLocked cpu .yielded
        (some current)
    else
      (.error .invalidThread, state)

def preemptCurrentIfNeeded : Except SchedulerError ScheduleDecision × SchedulerState :=
  if state.preemptionPending then
    match state.current with
    | none =>
      { state with preemptionPending := false }.scheduleNextLocked cpu .yielded none
    | some current =>
      if current ∈ state.threads then
        { state.requeueCurrent cpu current .yielded with
          preemptionPending := false }.scheduleNextLocked cpu .yielded (some current)
      else
        (.error .invalidThread, state)
  else
    (.ok (state.decision .explicit state.current state.current), state)

/-! ## Blocking -/

def blockCurrent (target : WaitTarget) : SchedulerState :=
  { state.transitionTo current .blocked (some target) none with current := none }

/-- The common body of the blocking receives: the thread waits in one of the
maps until its object is notified. -/
def blockCurrentOn : Except SchedulerError ScheduleDecision × SchedulerState :=
  match state.current with
  | none => (.ok (state.decision .blocked none none), state)
  | some current =>
    if current ∈ state.threads then
      ((state.blockCurrent current (queue.target object)).pushWaiter queue object
        current).scheduleNextLocked cpu .blocked (some current)
    else
      (.error .invalidThread, state)

variable (endpoint : ObjectId)

def blockCurrentOnReceive : Except SchedulerError ScheduleDecision × SchedulerState :=
  state.blockCurrentOn cpu .receivers endpoint

def blockCurrentOnPacketReceive (interface : ObjectId) :
    Except SchedulerError ScheduleDecision × SchedulerState :=
  state.blockCurrentOn cpu .packets interface

def blockCurrentOnObject : Except SchedulerError ScheduleDecision × SchedulerState :=
  state.blockCurrentOn cpu .objects object

/-- `racedWakeup`: an event came in before the thread could be registered. The
thread then stays runnable, and is queued while it is still current. -/
def blockCurrentOnInputReceive (source : ObjectId)
    (racedWakeup : Bool) : Except SchedulerError ScheduleDecision × SchedulerState :=
  if racedWakeup then
    match state.current with
    | none => (.ok (state.decision .blocked none none), state)
    | some current =>
      if current ∈ state.threads then
        ((state.transitionTo current .runnable none (some .inputReady)).pushRunnableIfAbsent
          cpu current).scheduleNextLocked cpu .inputWake (some current)
      else
        (.error .invalidThread, state)
  else
    state.blockCurrentOn cpu .inputs source

/-- Take the next wake token and arm it. The token is used up even when no
timer could be armed. -/
def armToken (time : TimeState) (deadline : MonotonicInstant) :
    Except SchedulerError WakeToken × SchedulerState × TimeState :=
  let token := state.nextWakeToken
  if token + 1 < 2 ^ 64 then
    let state := { state with nextWakeToken := token + 1 }
    match time.armWakeup token (.oneShot deadline) with
    | (.error error, time) => (.error (.timer error), state, time)
    | (.ok _, time) => (.ok token, state, time)
  else
    (.error .wakeTokenExhausted, state, time)

def insertTimer (token : WakeToken) (thread : ThreadId) : SchedulerState :=
  { state with waitingTimers := state.waitingTimers.insert token thread }

/-- The common body of the timed waits: arm a timer, then register the thread
under its token. -/
def blockUntil (time : TimeState) (cpu : Cpu) (current : ThreadId)
    (deadline : MonotonicInstant) (register : SchedulerState → WakeToken → SchedulerState) :
    Except SchedulerError (WakeToken × ScheduleDecision) × SchedulerState × TimeState :=
  match state.armToken time deadline with
  | (.error error, state, time) => (.error error, state, time)
  | (.ok token, state, time) =>
    if current ∈ state.threads then
      match (register state token).scheduleNextLocked cpu .blocked (some current) with
      | (.error error, state) => (.error error, state, time)
      | (.ok decision, state) => (.ok (token, decision), state, time)
    else
      (.error .invalidThread, state, time)

/-- The thread waits for a message and for a deadline: it is registered twice. -/
def registerReceiver (state : SchedulerState) (token : WakeToken) : SchedulerState :=
  ((state.blockCurrent current (.channelReceive endpoint)).insertTimer token
    current).pushWaiter .receivers endpoint current

def registerTimer (deadline : MonotonicInstant) (state : SchedulerState)
    (token : WakeToken) : SchedulerState :=
  (state.blockCurrent current (.timer token deadline)).insertTimer token current

/-- A deadline of zero ticks waits without limit. -/
def blockCurrentOnReceiveUntil (time : Option TimeState) (cpu : Cpu)
    (endpoint : ObjectId) (deadlineTicks : Nat) :
    Except SchedulerError ScheduleDecision × SchedulerState × Option TimeState :=
  if deadlineTicks = 0 then
    match state.blockCurrentOnReceive cpu endpoint with
    | (answer, state) => (answer, state, time)
  else
    match state.current, time with
    | none, time => (.ok (state.decision .blocked none none), state, time)
    | some _, none => (.error .timeUnavailable, state, none)
    | some current, some time =>
      match state.blockUntil time cpu current (time.now.saturatingAdd deadlineTicks)
          (registerReceiver current endpoint) with
      | (answer, state, time) => (answer.map Prod.snd, state, some time)

def blockCurrentUntil (time : Option TimeState) (cpu : Cpu) (deadline : MonotonicInstant) :
    Except SchedulerError (WakeToken × ScheduleDecision) × SchedulerState × Option TimeState :=
  match time, state.current with
  | none, _ => (.error .timeUnavailable, state, none)
  | some time, none => (.ok (0, state.decision .blocked none none), state, some time)
  | some time, some current =>
    match state.blockUntil time cpu current deadline (registerTimer current deadline) with
    | (answer, state, time) => (answer, state, some time)

def endCurrent : SchedulerState :=
  let state := state.transitionTo current .dying none (some .explicit)
  let state := (state.removeFromWaitQueues current).removeRunnable current
  { state with
    current := none
    threads := state.threads.erase current }

def terminateCurrent : Except SchedulerError ScheduleDecision × SchedulerState :=
  match state.current with
  | none => (.ok (state.decision .explicit none none), state)
  | some current =>
    if current ∈ state.threads then
      (state.endCurrent current).scheduleNextLocked cpu .explicit (some current)
    else
      (.error .invalidThread, state)

/-! ## Waking -/

def isBlocked : Bool :=
  state.threads[thread]?.any (·.executionState = .blocked)

/-- The end of every waking operation: an idle CPU takes the next thread. -/
def afterWake : Option ScheduleDecision × SchedulerState :=
  if previous.isNone then
    match state.scheduleNextLocked cpu trigger previous with
    | (answer, state) => (answer.toOption, state)
  else
    (some (state.decision trigger previous state.current), state)

/-- The entry of the token goes even when its thread no longer waits. -/
def handleTimeWakeup (event : WakeEvent) : Option ScheduleDecision × SchedulerState :=
  match state.waitingTimers[event.token]? with
  | none => (none, state)
  | some thread =>
    let previous := state.current
    let state := { state with waitingTimers := state.waitingTimers.erase event.token }
    if state.isBlocked thread then
      (state.wake cpu thread .timerExpired).afterWake cpu .timeWake previous
    else
      (none, state)

/-- Wake threads one after the other; the loop ends at the first that is not
registered, and those behind it are forgotten. -/
def wakeAll (state : SchedulerState) (cpu : Cpu) : List ThreadId → Option Unit × SchedulerState
  | [] => (some (), state)
  | thread :: threads =>
    if thread ∈ state.threads then
      (state.wake cpu thread .objectReady).wakeAll cpu threads
    else
      (none, state)

def removeWaiters : SchedulerState :=
  state.setWaiting queue ((state.waiting queue).erase object)

def wakeObjectWaitersLocked : Option Bool × SchedulerState :=
  match (state.waiting .objects)[object]? with
  | none => (some false, state)
  | some waiters =>
    match (state.removeWaiters .objects object).wakeAll cpu waiters with
    | (none, state) => (none, state)
    | (some _, state) => (some true, state)

/-- What the channel, packet and input notifications do once their own queue
has been served. -/
def notifyObjects (woke : Bool) : Option ScheduleDecision × SchedulerState :=
  match state.wakeObjectWaitersLocked cpu object with
  | (none, state) => (none, state)
  | (some wokeObject, state) =>
    if !woke && !wokeObject then
      (none, state)
    else
      state.afterWake cpu trigger previous

/-- The first of the waiters that is registered and blocked, and those behind it. -/
def nextReceiver (state : SchedulerState) : List ThreadId → Option ThreadId × List ThreadId
  | [] => (none, [])
  | thread :: rest =>
    if state.isBlocked thread then (some thread, rest) else state.nextReceiver rest

def wakeForMessage : Option ThreadId → SchedulerState
  | some thread => state.wake cpu thread .channelMessage
  | none => state

/-- Wake a receiver, if there is one. The waiters that were passed over are
dropped. -/
def wakeReceiver : Bool × SchedulerState :=
  let (receiver, rest) := state.nextReceiver (state.waiters .receivers endpoint)
  let woken := (state.removeWaiters .receivers endpoint).wakeForMessage cpu receiver
  (receiver.isSome,
    if rest.isEmpty then woken
    else woken.setWaiting .receivers ((woken.waiting .receivers).insert endpoint rest))

def notifyChannelReady : Option ScheduleDecision × SchedulerState :=
  let previous := state.current
  let (wokeReceiver, state) := state.wakeReceiver cpu endpoint
  state.notifyObjects cpu .ipcWake endpoint previous wokeReceiver

/-- The first waiter is woken whatever it is doing. Its entry is gone, and the
queue it leaves empty stays in the map, when it is not registered. -/
def notifyFirst (reason : ThreadWakeReason)
    (trigger : ScheduleTrigger) (object : ObjectId) : Option ScheduleDecision × SchedulerState :=
  let previous := state.current
  match state.waiters queue object with
  | [] => state.notifyObjects cpu trigger object previous false
  | thread :: rest =>
    let popped := state.setWaiting queue ((state.waiting queue).insert object rest)
    if thread ∈ state.threads then
      let woken := popped.wake cpu thread reason
      let woken := if rest.isEmpty then woken.removeWaiters queue object else woken
      woken.notifyObjects cpu trigger object previous true
    else
      (none, popped)

def notifyPacketReady (interface : ObjectId) : Option ScheduleDecision × SchedulerState :=
  state.notifyFirst cpu .packets .packetReady .networkWake interface

def notifyInputReady (source : ObjectId) : Option ScheduleDecision × SchedulerState :=
  state.notifyFirst cpu .inputs .inputReady .inputWake source

def notifyObjectReady : Option ScheduleDecision × SchedulerState :=
  let previous := state.current
  match (state.waiting .objects)[object]? with
  | none => (none, state)
  | some waiters =>
    match (state.removeWaiters .objects object).wakeAll cpu waiters with
    | (none, state) => (none, state)
    | (some _, state) => state.afterWake cpu .objectWake previous

/-! ## Spreading threads over the CPUs -/

/-- A queued thread changes queues and starts a new idle count. -/
def moveRunnable (source target : Cpu) (thread : ThreadId) : SchedulerState :=
  { state with
    runnableQueues := move state.runnableQueues source target thread
    queuedIdleTicks := state.queuedIdleTicks.insert thread 0 }

def idleTicks : Nat :=
  state.queuedIdleTicks[thread]?.getD 0

/-- The scan for threads to steal: the queues of the other CPUs in turn, each
from its front, until the batch is full. -/
def stealCandidates : List (Cpu × ThreadId) :=
  (List.range' 1 runnableQueueCpus).foldl (fun candidates offset =>
    let victim : Cpu := ⟨(state.stealScanCursor cpu + offset) % runnableQueueCpus,
      Nat.mod_lt _ (by decide)⟩
    if stealBatchMax ≤ candidates.length ∨ victim = cpu then
      candidates
    else
      (state.runnableQueues victim).foldl (fun candidates thread =>
        if candidates.length < stealBatchMax ∧ stealMinIdleTicks ≤ state.idleTicks thread then
          candidates ++ [(victim, thread)]
        else
          candidates) candidates) []

/-- One stolen thread; a candidate that has left its queue is skipped. -/
def stealThread (result : Nat × SchedulerState) (candidate : Cpu × ThreadId) :
    Nat × SchedulerState :=
  let (stolen, state) := result
  if candidate.2 ∈ state.runnableQueues candidate.1 then
    (stolen + 1, { state.moveRunnable candidate.1 cpu candidate.2 with
      stolenPerCpu := update state.stolenPerCpu cpu
        (saturatingIncrement 64 (state.stolenPerCpu cpu)) })
  else
    result

def stealIdleRunnablesLocked : Nat × SchedulerState :=
  let candidates := state.stealCandidates cpu
  let state := { state with
    stealAttempts := saturatingIncrement 64 state.stealAttempts
    stealScanCursor := update state.stealScanCursor cpu
      ((state.stealScanCursor cpu + 1) % runnableQueueCpus) }
  candidates.foldl (stealThread cpu) (0, state)

/-- The busiest queue, the emptiest, and how many threads to move between them. -/
def rebalancePlan (depths : Cpu → Nat) : Option (Cpu × Cpu × Nat) :=
  let total := ((List.finRange runnableQueueCpus).map depths).sum
  if total < 2 then
    none
  else
    let average := total / runnableQueueCpus
    let limit := balanceOvercommitRatio * max average 1
    let first : Cpu := ⟨0, by decide⟩
    let (busiest, emptiest) := (List.finRange runnableQueueCpus).foldl
      (fun (busiest, emptiest) slot =>
        (if depths busiest < depths slot then slot else busiest,
          if depths slot < depths emptiest then slot else emptiest)) (first, first)
    if busiest = emptiest ∨ depths busiest ≤ limit then
      none
    else
      some (busiest, emptiest, min (depths busiest - limit) (depths busiest))

/-- The longest idle first; among equals, the one nearer to the front. -/
def selectRebalanceCandidates (queue : List ThreadId) (idleTicks : ThreadId → Nat)
    (count : Nat) : List ThreadId :=
  let ranked := queue.mapIdx fun position thread =>
    (idleTicks thread, 2 ^ 64 - 1 - position, thread)
  let sorted := ranked.mergeSort fun first second =>
    decide (second.1 < first.1 ∨ (second.1 = first.1 ∧ second.2.1 ≤ first.2.1))
  (sorted.take count).map fun entry => entry.2.2

def balanceThread (busiest emptiest : Cpu) (result : Nat × SchedulerState) (thread : ThreadId) :
    Nat × SchedulerState :=
  let (moved, state) := result
  if thread ∈ state.runnableQueues busiest then
    (moved + 1, { state.moveRunnable busiest emptiest thread with
      rebalanceMoves := saturatingIncrement 64 state.rebalanceMoves })
  else
    result

def pushBalanceLocked : Nat × SchedulerState :=
  match rebalancePlan fun cpu => (state.runnableQueues cpu).length with
  | none => (0, state)
  | some (busiest, emptiest, moves) =>
    (selectRebalanceCandidates (state.runnableQueues busiest) state.idleTicks moves).foldl
      (balanceThread busiest emptiest) (0, state)

/-- The statistics lines a tick may emit change no state. -/
def handleTick (balancingCpuCount : Nat) : SchedulerState :=
  if state.current.isNone then
    state
  else
    let ticksRemaining := state.ticksRemaining - 1
    let tick := (state.tickCounter + 1) % 2 ^ 32
    let state := { state with
      ticksRemaining := ticksRemaining
      preemptionPending :=
        state.preemptionPending || (ticksRemaining = 0 && 0 < state.runnableLen)
      tickCounter := tick
      queuedIdleTicks := state.queuedIdleTicks.map fun _ idle => saturatingIncrement 32 idle }
    if 1 < balancingCpuCount ∧ tick % balancePeriodTicks = 0 then
      (state.stealIdleRunnablesLocked cpu).2.pushBalanceLocked.2
    else
      state

def consumePreemption : Bool × SchedulerState :=
  (state.preemptionPending, { state with preemptionPending := false })

end SchedulerState
end ServiceOS.Task
