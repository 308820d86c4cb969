import ServiceOS.Task.Waiting

/-! # Where a thread is

Each thread has one role: it is queued, running, waiting for something, or none
of these. The runnable queues, the current thread and the wait maps are arranged
when they say the same as the threads' own states. The receivers are left out:
a thread whose wait timed out stays in the receiver queue. -/

namespace ServiceOS.Task

open Function Buckets List WaitQueue
open Std (ExtTreeMap)

inductive Role
  | idle
  | queued
  | running
  | waiting (target : WaitTarget)
deriving DecidableEq

/-- Roles that no queue records exactly: a thread that does not wait, or waits
for a message or a deadline. -/
structure Role.Loose (role : Role) : Prop where
  not_queued : role ≠ .queued
  not_running : role ≠ .running
  not_waiting : ∀ (queue : WaitQueue) (object : ObjectId), queue ≠ .receivers →
    role ≠ .waiting (queue.target object)

theorem Role.loose_idle : Role.Loose .idle := ⟨nofun, nofun, nofun⟩

theorem Role.loose_channelReceive (endpoint : ObjectId) :
    Role.Loose (.waiting (.channelReceive endpoint)) := by
  refine ⟨nofun, nofun, fun queue object exact here => exact ?_⟩
  have same : receivers.target endpoint = queue.target object := Role.waiting.inj here
  exact (target_inj.mp same).1.symm

theorem Role.loose_timer (token : Time.WakeToken) (deadline : Time.MonotonicInstant) :
    Role.Loose (.waiting (.timer token deadline)) := by
  refine ⟨nofun, nofun, fun queue object _ => ?_⟩
  cases queue <;> nofun

def ThreadState.role (thread : ThreadState) : Role :=
  match thread.executionState, thread.waitTarget with
  | .runnable, _ => .queued
  | .running, _ => .running
  | .blocked, some target => .waiting target
  | _, _ => .idle

variable {next state : SchedulerState} {thread : ThreadId} {wanted new : Role}

namespace SchedulerState

def role (state : SchedulerState) (thread : ThreadId) : Role :=
  match state.threads[thread]? with
  | some record => record.role
  | none => .idle

theorem mem_threads_of_role (placed : state.role thread ≠ .idle) : thread ∈ state.threads := by
  unfold role at placed
  rw [ExtTreeMap.mem_iff_isSome_getElem?]
  split at placed
  next found => simp [found]
  · exact absurd rfl placed

theorem role_transitionTo (state : SchedulerState) (thread : ThreadId)
    (executionState : ExecutionState) (waitTarget : Option WaitTarget)
    (wakeReason : Option ThreadWakeReason) :
    (state.transitionTo thread executionState waitTarget wakeReason).role =
      update state.role thread
        (ThreadState.role ⟨executionState, waitTarget, wakeReason⟩) := by
  funext other
  by_cases same : other = thread
  · subst same
    simp [role, transitionTo]
  · simp [role, transitionTo, ExtTreeMap.getElem?_insert, same, Ne.symm same]

theorem role_dispatch (state : SchedulerState) (thread : ThreadId) (trigger : ScheduleTrigger)
    (previous : Option ThreadId) :
    (state.dispatch thread trigger previous).role = update state.role thread .running :=
  role_transitionTo state thread _ _ _

theorem Takes.role (takes : Takes state next thread) : next.role = state.role := by
  funext other
  rw [SchedulerState.role, takes.threads, SchedulerState.role]

theorem role_of_isBlocked (blocked : state.isBlocked thread = true) :
    state.role thread = .idle ∨ ∃ target, state.role thread = .waiting target := by
  rcases isBlocked_iff.mp blocked with ⟨record, found, blocked⟩
  rw [role, found]
  dsimp only
  rw [ThreadState.role, blocked]
  cases record.waitTarget with
  | none => exact .inl rfl
  | some target => exact .inr ⟨target, rfl⟩

variable {target : WaitTarget}

theorem isBlocked_of_waiting
    (waiting : state.role thread = .waiting target) : state.isBlocked thread = true := by
  unfold role ThreadState.role at waiting
  unfold isBlocked
  split at waiting
  next found =>
    split at waiting <;> simp_all
  · cases waiting

theorem StartsNoWait.role_eq (calm : StartsNoWait state next)
    (blocked : next.isBlocked thread = true) : next.role thread = state.role thread := by
  rcases isBlocked_iff.mp blocked with ⟨record, found, blocked⟩
  rw [role, found, role, calm.blocked thread record found blocked]

theorem StartsNoWait.waiting (calm : StartsNoWait state next)
    (waiting : next.role thread = .waiting target) : state.role thread = .waiting target :=
  (calm.role_eq (isBlocked_of_waiting waiting)).symm.trans waiting

theorem StartsWait.role (start : StartsWait state next thread target alarm) :
    next.role = update state.role thread (.waiting target) := by
  funext other
  rw [SchedulerState.role, start.threads]
  exact congrFun (role_transitionTo state thread .blocked (some target) none) other

/-- The queues, the wait maps and the current thread are those of the roles. -/
structure Arranged (role : ThreadId → Role) (state : SchedulerState) : Prop where
  queued_nodup : (all state.runnableQueues).Nodup
  queued : ∀ thread, thread ∈ all state.runnableQueues ↔ role thread = .queued
  idleTicks : ∀ thread, thread ∈ state.queuedIdleTicks ↔ role thread = .queued
  current : ∀ thread, state.current = some thread ↔ role thread = .running
  waiters_nodup : ∀ queue object, queue ≠ .receivers → (state.waiters queue object).Nodup
  waiters : ∀ queue object, queue ≠ .receivers → ∀ thread,
    thread ∈ state.waiters queue object ↔ role thread = .waiting (queue.target object)

section

variable {role : ThreadId → Role} {member : ThreadId → Prop}

section

variable (before : ∀ other, member other ↔ role other = wanted)

include before

theorem unaffected (was : role thread ≠ wanted) (becomes : new ≠ wanted) (other : ThreadId) :
    member other ↔ update role thread new other = wanted := by
  by_cases same : other = thread
  · subst same
    rw [update_self, before]
    exact iff_of_false was becomes
  · rw [update_of_ne same, before]

theorem joins (other : ThreadId) :
    (other = thread ∨ member other) ↔ update role thread wanted other = wanted := by
  by_cases same : other = thread
  · subst same
    simp
  · simp [before, same]

theorem leaves (becomes : new ≠ wanted) (other : ThreadId) :
    (other ≠ thread ∧ member other) ↔ update role thread new other = wanted := by
  by_cases same : other = thread
  · subst same
    simp [becomes]
  · simp [before, same]

end

end

def cleared (role : ThreadId → Role) : List ThreadId → ThreadId → Role
  | [] => role
  | thread :: threads => update (cleared role threads) thread .idle

variable {role : ThreadId → Role} {threads : List ThreadId}

theorem cleared_iff (proper : wanted ≠ .idle) :
    cleared role threads other = wanted ↔ other ∉ threads ∧ role other = wanted := by
  induction threads with
  | nil => simp [cleared]
  | cons thread threads induction =>
    by_cases same : other = thread
    · subst same
      simp [cleared, proper.symm]
    · simp [cleared, same, induction]

theorem cleared_update (fresh : thread ∉ threads) (new : Role) :
    cleared (update role thread new) threads = update (cleared role threads) thread new := by
  induction threads with
  | nil => rfl
  | cons other threads induction =>
    rcases ne_and_not_mem_of_not_mem_cons fresh with ⟨different, outside⟩
    rw [cleared, cleared, induction outside, update_comm different]

namespace Arranged

section

variable (arranged : Arranged role state)

include arranged

theorem frame (queues : next.runnableQueues = state.runnableQueues)
    (idleTicks : next.queuedIdleTicks = state.queuedIdleTicks)
    (current : next.current = state.current)
    (waiting : ∀ queue, queue ≠ .receivers → next.waiting queue = state.waiting queue) :
    Arranged role next := by
  have waiters : ∀ queue object, queue ≠ .receivers →
      next.waiters queue object = state.waiters queue object := fun queue object exact => by
    rw [SchedulerState.waiters, waiting queue exact, SchedulerState.waiters]
  refine ⟨?_, fun thread => ?_, fun thread => ?_, fun thread => ?_, fun queue object exact => ?_,
    fun queue object exact thread => ?_⟩
  · rw [queues]
    exact arranged.queued_nodup
  · rw [queues]
    exact arranged.queued thread
  · rw [idleTicks]
    exact arranged.idleTicks thread
  · rw [current]
    exact arranged.current thread
  · rw [waiters queue object exact]
    exact arranged.waiters_nodup queue object exact
  · rw [waiters queue object exact]
    exact arranged.waiters queue object exact thread

theorem push (idle : role thread = .idle) (cpu : Cpu) :
    Arranged (update role thread .queued) (state.pushRunnableOnCurrentCpu cpu thread) := by
  have pushed := all_pushBack state.runnableQueues cpu thread
  have fresh : thread ∉ all state.runnableQueues := by
    rw [arranged.queued, idle]
    nofun
  refine ⟨pushed.nodup_iff.mpr (arranged.queued_nodup.cons fresh), fun other => ?_,
    fun other => ?_, unaffected arranged.current (by rw [idle]; nofun) nofun,
    arranged.waiters_nodup, fun queue object exact =>
      unaffected (arranged.waiters queue object exact) (by rw [idle]; nofun) nofun⟩
  · rw [← joins arranged.queued, ← mem_cons]
    exact pushed.mem_iff
  · rw [← joins arranged.idleTicks, pushRunnableOnCurrentCpu, ExtTreeMap.mem_insert,
      compare_eq_iff_eq, eq_comm]

theorem popped (takes : Takes state next thread) :
    role thread = .queued ∧ Arranged (update role thread .idle) next := by
  have queued := (arranged.queued thread).mp takes.member
  have waiters : ∀ queue object, next.waiters queue object = state.waiters queue object := by
    intro queue object
    rw [SchedulerState.waiters, takes.waiting, SchedulerState.waiters]
  rcases nodup_cons.mp (takes.split.nodup_iff.mp arranged.queued_nodup) with
    ⟨fresh, distinct⟩
  refine ⟨queued, distinct, fun other => ?_, fun other => ?_, ?_, ?_, ?_⟩
  · refine Iff.trans ?_ (leaves arranged.queued (by simp) other)
    rw [takes.split.mem_iff, mem_cons]
    constructor
    · exact fun member => ⟨fun same => fresh (same ▸ member), .inr member⟩
    · exact fun both => both.2.resolve_left both.1
  · refine Iff.trans ?_ (leaves arranged.idleTicks (by simp) other)
    rw [takes.idleTicks, ExtTreeMap.mem_erase, Ne, compare_eq_iff_eq, eq_comm]
  · rw [takes.current]
    exact unaffected arranged.current (by simp [queued]) (by simp)
  · simp only [waiters]
    exact arranged.waiters_nodup
  · simp only [waiters]
    exact fun queue object exact =>
      unaffected (arranged.waiters queue object exact) (by simp [queued]) (by simp)

theorem setCurrent (vacant : state.current = none) (idle : role thread = .idle) :
    Arranged (update role thread .running) { state with current := some thread } := by
  refine ⟨arranged.queued_nodup, unaffected arranged.queued (by rw [idle]; nofun) nofun,
    unaffected arranged.idleTicks (by rw [idle]; nofun) nofun, fun other => ?_,
    arranged.waiters_nodup, fun queue object exact =>
      unaffected (arranged.waiters queue object exact) (by rw [idle]; nofun) nofun⟩
  rw [← joins arranged.current, vacant, Option.some.injEq, eq_comm]
  simp

theorem clearCurrent (here : state.current = some thread) :
    role thread = .running ∧
      Arranged (update role thread .idle) { state with current := none } := by
  have running := (arranged.current thread).mp here
  refine ⟨running, arranged.queued_nodup,
    unaffected arranged.queued (by rw [running]; nofun) nofun,
    unaffected arranged.idleTicks (by rw [running]; nofun) nofun, fun other => ?_,
    arranged.waiters_nodup, fun queue object exact =>
      unaffected (arranged.waiters queue object exact) (by rw [running]; nofun) nofun⟩
  refine Iff.trans ?_ (leaves arranged.current (by nofun) other)
  simp [here, eq_comm]

theorem pushWaiter (idle : role thread = .idle) (exact : queue ≠ .receivers) (object : ObjectId) :
    Arranged (update role thread (.waiting (queue.target object)))
      (state.pushWaiter queue object thread) := by
  have fresh : thread ∉ state.waiters queue object := by
    rw [arranged.waiters queue object exact, idle]
    nofun
  refine ⟨arranged.queued_nodup, unaffected arranged.queued (by rw [idle]; nofun) nofun,
    unaffected arranged.idleTicks (by rw [idle]; nofun) nofun,
    unaffected arranged.current (by rw [idle]; nofun) nofun, fun other position tracked => ?_,
    fun other position tracked waiter => ?_⟩
  · rw [SchedulerState.pushWaiter, waiters_setWaiting_insert]
    split
    · exact nodup_append'.mpr ⟨arranged.waiters_nodup _ _ exact, nodup_singleton _,
        disjoint_singleton.mpr fresh⟩
    · exact arranged.waiters_nodup _ _ tracked
  rw [SchedulerState.pushWaiter, waiters_setWaiting_insert]
  split
  next same =>
    rcases same with ⟨rfl, rfl⟩
    rw [← joins (arranged.waiters _ _ exact), mem_append, mem_singleton, or_comm]
  rename_i different
  refine unaffected (arranged.waiters other position tracked) (by rw [idle]; nofun) ?_ waiter
  rw [Ne, Role.waiting.injEq, target_inj]
  rintro ⟨rfl, rfl⟩
  exact different ⟨rfl, rfl⟩

theorem relabelLoose (before : (role thread).Loose)
    (after : new.Loose) : Arranged (update role thread new) state :=
  ⟨arranged.queued_nodup, unaffected arranged.queued before.not_queued after.not_queued,
    unaffected arranged.idleTicks before.not_queued after.not_queued,
    unaffected arranged.current before.not_running after.not_running, arranged.waiters_nodup,
    fun queue object exact => unaffected (arranged.waiters queue object exact)
      (before.not_waiting queue object exact) (after.not_waiting queue object exact)⟩

theorem takeWaiters (exact : queue ≠ .receivers)
    (split : (state.waiters queue object).Perm (removed ++ kept))
    {waiting : ExtTreeMap ObjectId (List ThreadId)}
    (held : ∀ other position, (state.setWaiting queue waiting).waiters other position =
      if other = queue ∧ position = object then kept else state.waiters other position) :
    Arranged (cleared role removed) (state.setWaiting queue waiting) := by
  have waits : ∀ thread ∈ removed, role thread = .waiting (queue.target object) :=
    fun thread member => (arranged.waiters queue object exact thread).mp
      (split.mem_iff.mpr (mem_append_left _ member))
  have distinct := nodup_append'.mp
    (split.nodup_iff.mp (arranged.waiters_nodup queue object exact))
  have apart : ∀ {wanted thread}, wanted ≠ .idle → wanted ≠ .waiting (queue.target object) →
      (cleared role removed thread = wanted ↔ role thread = wanted) := by
    intro wanted thread proper different
    rw [cleared_iff proper]
    refine and_iff_right_of_imp fun here member => different ?_
    rw [← here, waits thread member]
  refine ⟨arranged.queued_nodup, fun thread => ?_, fun thread => ?_, fun thread => ?_,
    fun other position tracked => ?_, fun other position tracked thread => ?_⟩
  · exact (arranged.queued thread).trans (apart (by nofun) (by nofun)).symm
  · exact (arranged.idleTicks thread).trans (apart (by nofun) (by nofun)).symm
  · exact (arranged.current thread).trans (apart (by nofun) (by nofun)).symm
  · rw [held]
    split
    · exact distinct.2.1
    · exact arranged.waiters_nodup other position tracked
  · rw [held]
    split
    next same =>
      rcases same with ⟨rfl, rfl⟩
      refine Iff.trans ?_ (cleared_iff (by nofun)).symm
      rw [← arranged.waiters _ _ exact, split.mem_iff, mem_append]
      constructor
      · exact fun member => ⟨fun out => distinct.2.2 out member, .inr member⟩
      · exact fun ⟨outside, either⟩ => either.resolve_left outside
    next different =>
      refine (arranged.waiters other position tracked thread).trans (apart (by nofun) ?_).symm
      rw [Ne, Role.waiting.injEq, target_inj]
      exact different

theorem removeFromWaitQueues
    (notQueued : role thread ≠ .queued) (notRunning : role thread ≠ .running) :
    Arranged (update role thread .idle) (state.removeFromWaitQueues thread) := by
  refine ⟨arranged.queued_nodup, unaffected arranged.queued notQueued nofun,
    unaffected arranged.idleTicks notQueued nofun,
    unaffected arranged.current notRunning nofun, fun queue object exact => ?_,
    fun queue object exact other => ?_⟩
  · rw [waiters_removeFromWaitQueues]
    exact (arranged.waiters_nodup queue object exact).filter _
  refine Iff.trans ?_ (leaves (arranged.waiters queue object exact) (by nofun) other)
  rw [waiters_removeFromWaitQueues, mem_filter, and_comm]
  simp

/-- A thread that does not wait is in no wait queue to be removed from. -/
theorem removeFromWaitQueues_same (notWaiting : ∀ target, role thread ≠ .waiting target) :
    Arranged role (state.removeFromWaitQueues thread) := by
  have same : ∀ queue object, queue ≠ .receivers →
      (state.removeFromWaitQueues thread).waiters queue object = state.waiters queue object := by
    intro queue object exact
    rw [waiters_removeFromWaitQueues, filter_eq_self]
    intro other member
    simp only [ne_eq, decide_not, Bool.not_eq_eq_eq_not, Bool.not_true, decide_eq_false_iff_not]
    rintro rfl
    exact notWaiting _ ((arranged.waiters queue object exact other).mp member)
  refine ⟨arranged.queued_nodup, arranged.queued, arranged.idleTicks, arranged.current,
    fun queue object exact => ?_, fun queue object exact => ?_⟩
  · rw [same queue object exact]
    exact arranged.waiters_nodup queue object exact
  · rw [same queue object exact]
    exact arranged.waiters queue object exact

theorem removeRunnable (notQueued : role thread ≠ .queued) :
    Arranged role (state.removeRunnable thread) := by
  have same : (state.removeRunnable thread).runnableQueues = state.runnableQueues := by
    funext cpu
    refine filter_eq_self.mpr fun other member => ?_
    simp only [ne_eq, decide_not, Bool.not_eq_eq_eq_not, Bool.not_true, decide_eq_false_iff_not]
    rintro rfl
    exact notQueued ((arranged.queued other).mp (mem_all.mpr ⟨cpu, member⟩))
  refine ⟨?_, fun other => ?_, fun other => ?_, arranged.current, arranged.waiters_nodup,
    arranged.waiters⟩
  · rw [same]
    exact arranged.queued_nodup
  · rw [same]
    exact arranged.queued other
  rw [SchedulerState.removeRunnable, ExtTreeMap.mem_erase, arranged.idleTicks, Ne,
    compare_eq_iff_eq]
  refine and_iff_right_of_imp fun queued same => notQueued ?_
  rw [same, queued]

theorem moveRunnable (member : thread ∈ state.runnableQueues source) (target : Cpu) :
    Arranged role (state.moveRunnable source target thread) := by
  have moved := all_move member target
  have queued := (arranged.queued thread).mp (mem_all.mpr ⟨source, member⟩)
  refine ⟨moved.nodup_iff.mpr arranged.queued_nodup, fun other => ?_, fun other => ?_,
    arranged.current, arranged.waiters_nodup, arranged.waiters⟩
  · exact moved.mem_iff.trans (arranged.queued other)
  rw [SchedulerState.moveRunnable, ExtTreeMap.mem_insert, arranged.idleTicks, compare_eq_iff_eq]
  refine or_iff_right_of_imp fun same => ?_
  rw [← same, queued]

end

end Arranged
end SchedulerState
end ServiceOS.Task
