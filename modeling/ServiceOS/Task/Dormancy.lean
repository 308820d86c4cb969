import ServiceOS.Task.Touching

/-! # Threads that nothing can bring back

A thread that is on no CPU, in no runnable queue and in no wait queue that wakes
its threads unasked stays so, whatever the scheduler does, until somebody makes
it runnable. A receiver queue or a timer may still hold it: those wake only
blocked threads. -/

namespace ServiceOS.Task.SchedulerState

open Buckets
open Std (ExtTreeMap)
open Time

/-- No operation can reach the thread. -/
structure Inactive (state : SchedulerState) (thread : ThreadId) : Prop where
  current : state.current ≠ some thread
  queued : thread ∉ all state.runnableQueues
  waiting : ∀ queue, queue ≠ .receivers → ∀ object, thread ∉ state.waiters queue object

variable {state : SchedulerState}

theorem inactive_iff :
    (state.current ≠ some thread ∧ thread ∉ all state.runnableQueues ∧
      ∀ queue ∈ [WaitQueue.packets, .inputs, .objects], ∀ entry ∈ (state.waiting queue).toList,
        thread ∉ entry.2) ↔ state.Inactive thread := by
  have outside : ∀ queue, (∀ entry ∈ (state.waiting queue).toList, thread ∉ entry.2) ↔
      ∀ object, thread ∉ state.waiters queue object := by
    intro queue
    simp only [Prod.forall, ExtTreeMap.mem_toList_iff_getElem?_eq_some, waiters]
    apply forall_congr'
    intro object
    cases (state.waiting queue)[object]? <;> simp
  constructor
  · rintro ⟨current, queued, waiting⟩
    refine ⟨current, queued, fun queue exact => (outside queue).mp (waiting queue ?_)⟩
    cases queue <;> simp at exact ⊢
  rintro ⟨current, queued, waiting⟩
  refine ⟨current, queued, fun queue member => (outside queue).mpr (waiting queue ?_)⟩
  rintro rfl
  simp at member

instance decidableInactive (state : SchedulerState) (thread : ThreadId) :
    Decidable (state.Inactive thread) :=
  decidable_of_iff _ inactive_iff

/-- The thread's record, if it has one, says neither `Running` nor `Blocked`. -/
def Resting (state : SchedulerState) (thread : ThreadId) : Prop :=
  ∀ record, state.threads[thread]? = some record →
    record.executionState ≠ .running ∧ record.executionState ≠ .blocked

structure Dormant (state : SchedulerState) (thread : ThreadId) : Prop
    extends Inactive state thread where
  resting : state.Resting thread

namespace Dormant

variable {state next : SchedulerState}

section

variable (dormant : state.Dormant thread)

include dormant

theorem of_parts (threads : next.threads[thread]? = state.threads[thread]?)
    (current : next.current = some thread → state.current = some thread)
    (queued : thread ∈ all next.runnableQueues → thread ∈ all state.runnableQueues)
    (waiting : ∀ queue, queue ≠ .receivers → ∀ object, thread ∈ next.waiters queue object →
      thread ∈ state.waiters queue object) : next.Dormant thread := by
  refine ⟨⟨fun here => dormant.current (current here), fun member => dormant.queued (queued member),
    fun queue exact object member => ?_⟩, ?_⟩
  · exact dormant.waiting queue exact object (waiting queue exact object member)
  · rw [Resting, threads]
    exact dormant.resting

theorem touches (touches : Touches Touched state next) (left : ¬Touched thread) :
    next.Dormant thread :=
  dormant.of_parts (touches.records thread left)
    (fun here => (touches.current thread here).resolve_right left)
    (fun member => (touches.queued thread member).resolve_right left)
    fun queue _ object member => (touches.waiting queue object thread member).resolve_right left

variable {other current : ThreadId}

theorem transitionTo (different : other ≠ thread) (executionState : ExecutionState)
    (waitTarget : Option WaitTarget) (wakeReason : Option ThreadWakeReason) :
    (state.transitionTo other executionState waitTarget wakeReason).Dormant thread :=
  dormant.touches (.transitionTo rfl _ _ _) different

theorem ne_of_current (here : state.current = some current) : current ≠ thread := by
  rintro rfl
  exact dormant.current here

theorem register (other : ThreadId) :
    (state.transitionTo other .suspended none none).Dormant thread := by
  by_cases same : other = thread
  · subst same
    refine ⟨⟨dormant.current, dormant.queued, dormant.waiting⟩, fun record found => ?_⟩
    rw [SchedulerState.transitionTo, ExtTreeMap.getElem?_insert_self] at found
    cases found
    simp
  · exact dormant.transitionTo same _ _ _

theorem endCurrent (different : current ≠ thread) : (state.endCurrent current).Dormant thread := by
  have cleared := (dormant.transitionTo different .dying none (some .explicit)).touches
    (.removeFromWaitQueues _ current) different
  refine cleared.of_parts ?_ nofun (fun member => ?_) fun _ _ _ => id
  · rw [SchedulerState.endCurrent]
    dsimp only [removeRunnable]
    rw [ExtTreeMap.getElem?_erase, if_neg]
    rw [compare_eq_iff_eq]
    exact different
  · rcases mem_all.mp member with ⟨cpu, held⟩
    exact mem_all.mpr ⟨cpu, (List.mem_filter.mp held).1⟩

theorem scheduleNext (cpu : Cpu) (trigger : ScheduleTrigger) (previous : Option ThreadId) :
    (state.scheduleNextLocked cpu trigger previous).2.Dormant thread :=
  dormant.touches (.scheduleNextLocked (fun _ member _ => member) cpu trigger previous)
    dormant.queued

theorem not_reaches (left : ∀ reason, operation ≠ .makeRunnable thread reason) :
    ¬Reaches operation state thread := by
  intro reaches
  cases reaches with
  | current here => exact dormant.current here
  | queued member => exact dormant.queued member
  | waiting exact member => exact dormant.waiting _ exact _ member
  | blocked blocked =>
    rcases isBlocked_iff.mp blocked with ⟨record, found, here⟩
    exact (dormant.resting record found).2 here
  | asked asked => exact left _ asked

end

end Dormant

theorem Edit.dormant (edit : Edit initial operation state next)
    (left : ∀ reason, operation ≠ .makeRunnable thread reason) (dormant : state.Dormant thread) :
    next.Dormant thread := by
  rcases edit.touches with ⟨other, rfl⟩ | ⟨current, here, rfl⟩ | touches
  · exact dormant.register other
  · exact dormant.endCurrent (dormant.ne_of_current here)
  · exact dormant.touches touches fun touched => dormant.not_reaches left touched.2

theorem Dormant.perform {system : TaskSystem} (dormant : system.scheduler.Dormant thread)
    (cpu : Cpu) (left : ∀ reason, operation ≠ .makeRunnable thread reason) :
    (system.perform cpu operation).scheduler.Dormant thread := by
  cases perform_performs cpu system operation with
  | edits path => exact path.preserves (fun edit => edit.dormant left) dormant
  | blocks here known registers dispatched =>
    rw [← dispatched]
    have blocked := dormant.touches (.of_registers rfl registers) (dormant.ne_of_current here)
    exact blocked.scheduleNext _ _ _

end ServiceOS.Task.SchedulerState
