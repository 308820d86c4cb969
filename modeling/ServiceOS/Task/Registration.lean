import ServiceOS.Task.Touching

/-! # Every thread the scheduler refers to is registered

The operations look a thread up before they queue it, and a thread leaves every
structure when its record goes. -/

namespace ServiceOS.Task

open SchedulerState
open Std (ExtTreeMap)
open Execution Time

namespace SchedulerState

/-- The thread is in one of the scheduler's structures. -/
inductive Refers (state : SchedulerState) (thread : ThreadId) : Prop
  | current (here : state.current = some thread)
  | queued (member : thread ∈ Buckets.all state.runnableQueues)
  | waiting {queue : WaitQueue} {object : ObjectId} (member : thread ∈ state.waiters queue object)
  | timer {token : WakeToken} (found : state.waitingTimers[token]? = some thread)

def Registered (state : SchedulerState) : Prop :=
  ∀ thread, state.Refers thread → thread ∈ state.threads

variable {state : SchedulerState}

/-- The same threads have records, and those that are referred to were so before
or have one. -/
structure Within (state next : SchedulerState) : Prop where
  threads : ∀ thread, thread ∈ next.threads ↔ thread ∈ state.threads
  refers : ∀ thread, next.Refers thread → state.Refers thread ∨ thread ∈ state.threads

variable {next : SchedulerState}

theorem Registered.within (registered : state.Registered)
    (within : Within state next) : next.Registered := by
  intro thread refers
  rw [within.threads]
  rcases within.refers thread refers with before | known
  · exact registered thread before
  · exact known

theorem Within.of_touches (touches : Touches Touched state next)
    (known : ∀ thread, Touched thread → thread ∈ state.threads) : Within state next := by
  refine ⟨fun thread => ⟨touches.known known, touches.kept thread⟩, fun thread refers => ?_⟩
  cases refers with
  | current here => exact (touches.current thread here).imp .current (known thread)
  | queued member => exact (touches.queued thread member).imp .queued (known thread)
  | waiting member => exact (touches.waiting _ _ thread member).imp .waiting (known thread)
  | timer found => exact (touches.timers _ thread found).imp .timer (known thread)

/-- Where only registered threads are touched, threads stay registered. -/
theorem Registered.touches (registered : state.Registered)
    (touches : Touches (· ∈ state.threads) state next) : next.Registered :=
  registered.within (.of_touches touches fun _ => id)

/-! ## Threads that come and go -/

theorem Registered.register (registered : state.Registered) (thread : ThreadId) :
    (state.transitionTo thread .suspended none none).Registered := by
  intro other refers
  have before : state.Refers other := by
    cases refers with
    | current here => exact .current here
    | queued member => exact .queued member
    | waiting member => exact .waiting member
    | timer found => exact .timer found
  exact ExtTreeMap.mem_insert.mpr (.inr (registered other before))

theorem Registered.scheduleNext (registered : state.Registered) (cpu : Cpu)
    (trigger : ScheduleTrigger) (previous : Option ThreadId) :
    (state.scheduleNextLocked cpu trigger previous).2.Registered :=
  registered.touches (.scheduleNextLocked (fun _ _ => id) cpu trigger previous)

/-- Nothing refers to the thread that ends, and what refers to another did so
before. -/
theorem Refers.of_endCurrent {current thread : ThreadId}
    (refers : (state.endCurrent current).Refers thread) :
    thread ≠ current ∧ state.Refers thread := by
  cases refers with
  | current here => cases here
  | queued member =>
    rcases Buckets.mem_all.mp member with ⟨cpu, held⟩
    rcases List.mem_filter.mp held with ⟨before, different⟩
    exact ⟨by simpa using different, .queued (Buckets.mem_all.mpr ⟨cpu, before⟩)⟩
  | @waiting queue object member =>
    have held : thread ∈ ((state.transitionTo current .dying none
        (some .explicit)).removeFromWaitQueues current).waiters queue object := member
    rw [waiters_removeFromWaitQueues] at held
    rcases List.mem_filter.mp held with ⟨before, different⟩
    exact ⟨by simpa using different, .waiting before⟩
  | timer found =>
    rcases timers_removeFromWaitQueues.mp found with ⟨before, different⟩
    exact ⟨different, .timer before⟩

theorem Registered.endCurrent (registered : state.Registered)
    (current : ThreadId) : (state.endCurrent current).Registered := by
  intro thread refers
  rcases refers.of_endCurrent with ⟨different, before⟩
  have known := registered thread before
  simp only [SchedulerState.endCurrent, removeRunnable, removeFromWaitQueues,
    SchedulerState.transitionTo, ExtTreeMap.mem_erase, ExtTreeMap.mem_insert,
    compare_eq_iff_eq, ne_eq]
  exact ⟨Ne.symm different, .inr known⟩

theorem Registered.gone_of_terminateCurrent {current : ThreadId}
    (registered : state.Registered) (here : state.current = some current) (cpu : Cpu) :
    current ∉ (state.terminateCurrent cpu).2.threads ∧
      ¬(state.terminateCurrent cpu).2.Refers current := by
  have known := registered current (.current here)
  have next : Within (state.endCurrent current) _ :=
    .of_touches (.scheduleNextLocked (fun _ _ => id) cpu .explicit (some current)) fun _ => id
  have gone : current ∉ (state.endCurrent current).threads := by
    simp [SchedulerState.endCurrent]
  simp only [terminateCurrent, here, if_pos known]
  refine ⟨fun member => gone ((next.threads current).mp member), fun refers => ?_⟩
  rcases next.refers current refers with before | member
  · exact before.of_endCurrent.1 rfl
  · exact gone member

/-! ## Every operation -/

theorem new_registered (bootstrap : ThreadId) : (new bootstrap).Registered := by
  intro thread refers
  cases refers with
  | current here =>
    cases here
    exact ExtTreeMap.mem_insert.mpr (.inl (compare_eq_iff_eq.mpr rfl))
  | queued member => simp [new, Buckets.all] at member
  | waiting member => simp [new, waiters] at member
  | timer found => simp [new] at found

theorem Edit.registered (edit : Edit initial operation state next) (registered : state.Registered) :
    next.Registered := by
  rcases edit.touches with ⟨thread, rfl⟩ | ⟨thread, -, rfl⟩ | touches
  · exact registered.register thread
  · exact registered.endCurrent thread
  · exact registered.within (.of_touches touches fun _ => And.left)

theorem Registered.perform {system : TaskSystem} (registered : system.scheduler.Registered)
    (cpu : Cpu) (operation : TaskOperation) :
    (system.perform cpu operation).scheduler.Registered := by
  cases perform_performs cpu system operation with
  | edits path => exact path.preserves Edit.registered registered
  | blocks here known registers dispatched =>
    rw [← dispatched]
    exact (registered.touches (.of_registers known registers)).scheduleNext _ _ _

end SchedulerState
end ServiceOS.Task
