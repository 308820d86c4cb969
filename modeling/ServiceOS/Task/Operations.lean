import ServiceOS.Task.Arrangement

/-! # What changes of the current thread keep

Dispatching, yielding, blocking and ending leave the scheduler arranged, and
take no thread out of its wait but the one that is made runnable. -/

namespace ServiceOS.Task.SchedulerState

open Function Arranged Buckets List
open Std (ExtTreeMap)
open Time

/-- The structures agree with what the threads' own states say. -/
def Consistent (state : SchedulerState) : Prop := Arranged state.role state

theorem new_consistent (bootstrap : ThreadId) : (new bootstrap).Consistent := by
  have roles : ∀ thread, (new bootstrap).role thread =
      if thread = bootstrap then .running else .idle := by
    intro thread
    by_cases same : bootstrap = thread
    · simp [role, new, ThreadState.role, same]
    · simp [role, new, same, Ne.symm same]
  have empty : all (new bootstrap).runnableQueues = [] :=
    eq_nil_iff_forall_not_mem.mpr fun thread member => by
      rcases mem_all.mp member with ⟨cpu, inside⟩
      cases inside
  refine ⟨by rw [empty]; exact nodup_nil, fun thread => ?_, fun thread => ?_,
    fun thread => ?_, fun queue object _ => nodup_nil, fun queue object _ thread => ?_⟩
  · rw [empty, roles]
    split <;> simp
  · rw [roles]
    split <;> simp [new]
  · rw [roles, new, Option.some.injEq, eq_comm]
    split <;> simp [*]
  · rw [roles]
    split <;> simp [new, waiters]

/-- Every thread goes on waiting, but for those that may be woken. -/
def Keeps (Wakes : ThreadId → WaitTarget → Prop) (state next : SchedulerState) : Prop :=
  ∀ thread target, state.role thread = .waiting target →
    next.role thread = .waiting target ∨ Wakes thread target

def Nobody (_ : ThreadId) (_ : WaitTarget) : Prop := False

variable {thread : ThreadId}

namespace Keeps

variable {state middle next : SchedulerState}

theorem of_role (roles : next.role = state.role) : Keeps Wakes state next :=
  fun thread _ waiting => .inl ((congrFun roles thread).trans waiting)

theorem refl (state : SchedulerState) : Keeps Wakes state state := of_role rfl

theorem trans (one : Keeps Wakes state middle) (other : Keeps Wakes middle next) :
    Keeps Wakes state next := by
  intro thread target waiting
  rcases one thread target waiting with still | woken
  · exact other thread target still
  · exact .inr woken

theorem weaken (kept : Keeps Nobody state next) : Keeps Wakes state next :=
  fun thread target waiting => (kept thread target waiting).imp_right False.elim

theorem relabel {new : Role} (roles : next.role = update state.role thread new)
    (woken : ∀ target, state.role thread = .waiting target → Wakes thread target) :
    Keeps Wakes state next := by
  intro other target waiting
  by_cases same : other = thread
  · subst same
    exact .inr (woken target waiting)
  · rw [roles, update_of_ne same]
    exact .inl waiting

end Keeps

/-! ## Dispatching -/

variable {next state : SchedulerState} {cpu : Cpu} {current : ThreadId}
  {answer : Except SchedulerError ScheduleDecision}

theorem Arranged.dispatch (arranged : Arranged (update state.role thread .idle) state)
    (vacant : state.current = none) (trigger : ScheduleTrigger) (previous : Option ThreadId) :
    (state.dispatch thread trigger previous).Consistent := by
  have placed := arranged.setCurrent vacant (update_self thread _ _)
  rw [update_idem] at placed
  rw [Consistent, role_dispatch]
  exact placed.frame rfl rfl rfl fun _ _ => rfl

variable {role : ThreadId → Role}

theorem Consistent.scheduleNext (consistent : state.Consistent) (vacant : state.current = none)
    (call : state.scheduleNextLocked cpu trigger previous = (answer, next)) :
    next.Consistent ∧ Keeps Nobody state next := by
  rcases scheduleNextLocked_cases call with ⟨-, rfl⟩ | ⟨thread, middle, takes, either⟩
  · exact ⟨consistent, .refl _⟩
  rcases popped consistent takes with ⟨queued, removed⟩
  rcases either with ⟨unknown, -⟩ | ⟨-, -, rfl⟩
  · exact absurd (mem_threads_of_role (by rw [queued]; nofun)) unknown
  rw [← takes.role] at removed queued
  refine ⟨removed.dispatch (takes.current.trans vacant) trigger previous, ?_⟩
  have kept : Keeps Nobody middle (middle.dispatch thread trigger previous) :=
    .relabel (role_dispatch _ _ _ _) fun target waiting => nomatch queued.symm.trans waiting
  exact (Keeps.of_role takes.role).trans kept

/-! ## Waking one thread -/

theorem role_wake (state : SchedulerState) (cpu : Cpu) (thread : ThreadId)
    (reason : ThreadWakeReason) :
    (state.wake cpu thread reason).role = update state.role thread .queued := by
  have same : (state.pushRunnableIfAbsent cpu thread).role = state.role := by
    unfold pushRunnableIfAbsent
    split <;> rfl
  rw [wake, role_transitionTo, same]
  rfl

theorem runnableContains_iff (state : SchedulerState) (thread : ThreadId) :
    state.runnableContains thread = true ↔ thread ∈ all state.runnableQueues := by
  simp [runnableContains]

theorem Arranged.wake (arranged : Arranged role state)
    (idle : role thread = .idle) (cpu : Cpu) (reason : ThreadWakeReason) :
    Arranged (update role thread .queued) (state.wake cpu thread reason) := by
  have absent : ¬state.runnableContains thread = true := by
    rw [runnableContains_iff, arranged.queued, idle]
    nofun
  rw [SchedulerState.wake, pushRunnableIfAbsent, if_neg absent]
  exact (arranged.push idle cpu).frame rfl rfl rfl fun _ _ => rfl

theorem Arranged.wake_queued (arranged : Arranged role state) (queued : role thread = .queued)
    (cpu : Cpu) (reason : ThreadWakeReason) : Arranged role (state.wake cpu thread reason) := by
  have present : state.runnableContains thread = true := by
    rw [runnableContains_iff, arranged.queued, queued]
  rw [SchedulerState.wake, pushRunnableIfAbsent, if_pos present]
  exact arranged.frame rfl rfl rfl fun _ _ => rfl

theorem Arranged.wakeTaken (arranged : Arranged (update state.role thread .idle) state)
    (cpu : Cpu) (reason : ThreadWakeReason) : (state.wake cpu thread reason).Consistent := by
  have woken := arranged.wake (update_self thread _ _) cpu reason
  rw [update_idem, ← role_wake state cpu thread reason] at woken
  exact woken

/-- A thread that is in none of the exact queues becomes runnable. -/
theorem Consistent.wakeLoose (consistent : state.Consistent) (loose : (state.role thread).Loose)
    (cpu : Cpu) (reason : ThreadWakeReason) : (state.wake cpu thread reason).Consistent :=
  (relabelLoose consistent loose Role.loose_idle).wakeTaken cpu reason

theorem keeps_wake (woken : ∀ target, state.role thread = .waiting target → Wakes thread target)
    (cpu : Cpu) (reason : ThreadWakeReason) : Keeps Wakes state (state.wake cpu thread reason) :=
  .relabel (role_wake state cpu thread reason) woken

/-! ## Registering, running and yielding -/

section

variable (consistent : state.Consistent)

include consistent

theorem Consistent.register (unknown : thread ∉ state.threads) :
    (state.transitionTo thread .suspended none none).Consistent ∧
      Keeps Nobody state (state.transitionTo thread .suspended none none) := by
  have idle : state.role thread = .idle := by
    rw [role, ExtTreeMap.getElem?_eq_none unknown]
  have roles : (state.transitionTo thread .suspended none none).role = state.role := by
    rw [role_transitionTo]
    exact update_eq_self_iff.mpr idle.symm
  refine ⟨?_, .of_role roles⟩
  rw [Consistent, roles]
  exact frame consistent rfl rfl rfl fun _ _ => rfl

theorem Consistent.resume (here : state.current = some thread) (reason : ThreadWakeReason) :
    (state.transitionTo thread .running none (some reason)).Consistent ∧
      Keeps Nobody state (state.transitionTo thread .running none (some reason)) := by
  have running := (consistent.current thread).mp here
  have roles : (state.transitionTo thread .running none (some reason)).role = state.role := by
    rw [role_transitionTo]
    exact update_eq_self_iff.mpr running.symm
  refine ⟨?_, .of_role roles⟩
  rw [Consistent, roles]
  exact frame consistent rfl rfl rfl fun _ _ => rfl

theorem Consistent.rouse (elsewhere : state.current ≠ some thread)
    (cpu : Cpu) (reason : ThreadWakeReason) :
    ((state.removeFromWaitQueues thread).wake cpu thread reason).Consistent := by
  by_cases queued : state.role thread = .queued
  · have kept : Arranged state.role (state.removeFromWaitQueues thread) :=
      Arranged.removeFromWaitQueues_same consistent fun target => by rw [queued]; nofun
    have roles : ((state.removeFromWaitQueues thread).wake cpu thread reason).role =
        state.role :=
      (role_wake _ _ _ _).trans (update_eq_self_iff.mpr queued.symm)
    rw [Consistent, roles]
    exact kept.wake_queued queued cpu reason
  · have notRunning : state.role thread ≠ .running := fun running =>
      elsewhere ((consistent.current thread).mpr running)
    have removed : Arranged (update (state.removeFromWaitQueues thread).role thread .idle)
        (state.removeFromWaitQueues thread) :=
      Arranged.removeFromWaitQueues consistent queued notRunning
    exact removed.wakeTaken cpu reason

theorem Consistent.requeueCurrent
    (here : state.current = some current) (cpu : Cpu) (reason : ThreadWakeReason) :
    (state.requeueCurrent cpu current reason).Consistent ∧
      Keeps Nobody state (state.requeueCurrent cpu current reason) := by
  rcases clearCurrent consistent here with ⟨running, removed⟩
  have pushed := removed.push (update_self current _ _) cpu
  rw [update_idem] at pushed
  have roles : (state.requeueCurrent cpu current reason).role =
      update state.role current .queued := role_transitionTo state current _ _ _
  refine ⟨?_, .relabel roles fun _ waiting => nomatch running.symm.trans waiting⟩
  rw [Consistent, roles]
  exact pushed.frame rfl rfl rfl fun _ _ => rfl

end

/-! ## Blocking -/

theorem role_blockCurrent (state : SchedulerState) (current : ThreadId) (target : WaitTarget) :
    (state.blockCurrent current target).role = update state.role current (.waiting target) :=
  role_transitionTo state current _ _ _

section

variable (consistent : state.Consistent)

include consistent

theorem Consistent.keeps_blockCurrent (here : state.current = some current)
    (target : WaitTarget) : Keeps Nobody state (state.blockCurrent current target) :=
  .relabel (role_blockCurrent state current target) fun _ waiting =>
    nomatch ((consistent.current current).mp here).symm.trans waiting

/-- The current thread leaves the CPU for a wait that no exact queue records. -/
theorem Consistent.blockLoose (here : state.current = some current)
    (loose : Role.Loose (.waiting target)) : (state.blockCurrent current target).Consistent := by
  have removed := (clearCurrent consistent here).2
  have waiting := removed.relabelLoose
    (show (update state.role current .idle current).Loose by
      rw [update_self]; exact Role.loose_idle) loose
  rw [update_idem, ← role_blockCurrent] at waiting
  exact waiting.frame rfl rfl rfl fun _ _ => rfl

/-- The receiver queues are not among the exact ones. -/
theorem Consistent.pushReceiver (endpoint : ObjectId)
    (thread : ThreadId) : (state.pushWaiter .receivers endpoint thread).Consistent :=
  frame consistent rfl rfl rfl fun _ exact => update_of_ne exact _ _

/-- The current thread leaves the CPU for one of the wait queues. -/
theorem Consistent.blockWaiter (here : state.current = some current)
    (queue : WaitQueue) (object : ObjectId) :
    ((state.blockCurrent current (queue.target object)).pushWaiter queue object
      current).Consistent := by
  by_cases exact : queue = .receivers
  · subst exact
    exact (consistent.blockLoose here (Role.loose_channelReceive object)).pushReceiver object
      current
  have removed := (clearCurrent consistent here).2
  have waiting := removed.pushWaiter (update_self current _ _) exact object
  rw [update_idem, ← role_blockCurrent] at waiting
  exact waiting.frame rfl rfl rfl fun _ _ => rfl

end

/-- When some thread is dispatched, it does not matter which one was current. -/
theorem scheduleNextLocked_vacate (ready : all state.runnableQueues ≠ [])
    (registered : ∀ thread ∈ all state.runnableQueues, thread ∈ state.threads) :
    state.scheduleNextLocked cpu trigger previous =
      { state with current := none }.scheduleNextLocked cpu trigger previous := by
  rcases own : popFront state.runnableQueues cpu with _ | ⟨thread, queues⟩
  · rcases other : popAny state.runnableQueues with _ | ⟨thread, queues⟩
    · exact absurd (popAny_eq_none.mp other) ready
    have known := registered thread
      ((all_popAny other).mem_iff.mpr mem_cons_self)
    simp only [scheduleNextLocked, popRunnableNext, own, other, if_pos known]
    rfl
  have known := registered thread ((all_popFront own).mem_iff.mpr mem_cons_self)
  simp only [scheduleNextLocked, popRunnableNext, own, if_pos known]
  rfl

section

variable (consistent : state.Consistent)

include consistent

/-- The current thread is queued before it stops being current. -/
theorem Consistent.race (here : state.current = some current)
    (call : ((state.transitionTo current .runnable none (some .inputReady)).pushRunnableIfAbsent
      cpu current).scheduleNextLocked cpu .inputWake (some current) = (answer, next)) :
    next.Consistent ∧ Keeps Nobody state next := by
  rcases consistent.requeueCurrent here cpu .inputReady with ⟨requeued, kept⟩
  have absent : ¬(state.transitionTo current .runnable none
      (some .inputReady)).runnableContains current = true := by
    rw [runnableContains_iff]
    intro queued
    cases ((consistent.current current).mp here).symm.trans ((consistent.queued current).mp queued)
  rw [pushRunnableIfAbsent, if_neg absent] at call
  have queued : current ∈ all ((state.transitionTo current .runnable none
      (some .inputReady)).pushRunnableOnCurrentCpu cpu current).runnableQueues :=
    (all_pushBack state.runnableQueues cpu current).mem_iff.mpr mem_cons_self
  have registered : ∀ thread ∈ all (state.requeueCurrent cpu current
      .inputReady).runnableQueues, thread ∈ (state.requeueCurrent cpu current
      .inputReady).threads :=
    fun thread member => mem_threads_of_role (by simp [(requeued.queued thread).mp member])
  rw [scheduleNextLocked_vacate (ne_nil_of_mem queued) registered] at call
  rcases requeued.scheduleNext rfl call with ⟨scheduled, dispatched⟩
  exact ⟨scheduled, kept.trans dispatched⟩

theorem Consistent.takeToken : state.takeToken.Consistent :=
  frame consistent rfl rfl rfl fun _ _ => rfl

theorem Consistent.insertTimer
    (token : WakeToken) (thread : ThreadId) : (state.insertTimer token thread).Consistent :=
  frame consistent rfl rfl rfl fun _ _ => rfl

theorem Consistent.endCurrent (here : state.current = some current) :
    (state.endCurrent current).Consistent ∧ Keeps Nobody state (state.endCurrent current) := by
  rcases clearCurrent consistent here with ⟨running, removed⟩
  have idle : update state.role current .idle current = .idle :=
    update_self _ _ _
  have unwaited := removed.removeFromWaitQueues_same fun target =>
    show update state.role current .idle current ≠ _ by simp
  have gone := unwaited.removeRunnable
    (show update state.role current .idle current ≠ _ by simp)
  have roles : (state.endCurrent current).role = update state.role current .idle := by
    funext other
    by_cases same : other = current
    · subst same
      simp [role, SchedulerState.endCurrent]
    · simp [role, SchedulerState.endCurrent, removeRunnable, removeFromWaitQueues, transitionTo,
        ExtTreeMap.getElem?_erase, ExtTreeMap.getElem?_insert, same, Ne.symm same]
  refine ⟨?_, .relabel roles fun _ waiting => by simp [running] at waiting⟩
  rw [Consistent, roles]
  exact gone.frame rfl rfl rfl fun _ _ => rfl

end

end ServiceOS.Task.SchedulerState
