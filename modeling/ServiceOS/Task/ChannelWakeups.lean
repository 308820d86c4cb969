import ServiceOS.Task.Edits

/-! # Channel notifications reach a receiver

A receiver queue may hold threads whose timed wait ran out. They are passed
over while they are not blocked; an entry of a thread that has begun another
wait is taken for a receiver. -/

namespace ServiceOS.Task

open Execution Time Function List

namespace SchedulerState

/-- Blocked threads have a target, every receiver is in its endpoint's queue,
and the blocked threads of that queue are its receivers. -/
structure ReceiversFound (state : SchedulerState) : Prop where
  targeted : ∀ thread, state.isBlocked thread = true → ∃ target, state.role thread = .waiting target
  listed : ∀ endpoint thread, state.role thread = .waiting (.channelReceive endpoint) →
    thread ∈ state.waiters .receivers endpoint
  receiving : ∀ endpoint, ∀ thread ∈ state.waiters .receivers endpoint, ∀ target,
    state.role thread = .waiting target → target = .channelReceive endpoint

theorem new_receiversFound (bootstrap : ThreadId) : (new bootstrap).ReceiversFound := by
  have nobody : ∀ thread, ¬(new bootstrap).isBlocked thread = true := by
    intro thread blocked
    rcases isBlocked_iff.mp blocked with ⟨record, found, blocked⟩
    rw [new, Std.ExtTreeMap.getElem?_insert] at found
    split at found
    · cases found
      cases blocked
    · simp at found
  refine ⟨fun thread blocked => absurd blocked (nobody thread), fun endpoint thread waiting => ?_,
    fun endpoint thread member => ?_⟩
  · exact absurd (isBlocked_of_waiting waiting) (nobody thread)
  · simp [new, waiters] at member

variable {state next : SchedulerState}

theorem ReceiversFound.calm (found : state.ReceiversFound)
    (calm : StartsNoWait state next) : next.ReceiversFound := by
  refine ⟨fun thread blocked => ?_, fun endpoint thread waiting => ?_,
    fun endpoint thread member target waiting => ?_⟩
  · rw [calm.role_eq blocked]
    exact found.targeted thread (calm.isBlocked blocked)
  · exact calm.kept endpoint thread (found.listed endpoint thread (calm.waiting waiting))
      (isBlocked_of_waiting waiting)
  · exact found.receiving endpoint thread ((calm.receivers endpoint).subset member) target
      (calm.waiting waiting)

/-- A thread that goes to wait may be among the receivers of its new endpoint
already, and of no other. -/
theorem ReceiversFound.begins (found : state.ReceiversFound)
    (start : StartsWait state middle thread target alarm) (calm : StartsNoWait middle next)
    (clear : next.isBlocked thread = true →
      ∀ endpoint, thread ∈ state.waiters .receivers endpoint → target = .channelReceive endpoint) :
    next.ReceiversFound := by
  have own : middle.role thread = .waiting target := by
    rw [start.role, update_self]
  have others : ∀ other, other ≠ thread → middle.role other = state.role other := by
    intro other different
    rw [start.role, update_of_ne different]
  have kept : ∀ endpoint other, other ∈ state.waiters .receivers endpoint →
      other ∈ middle.waiters .receivers endpoint := by
    intro endpoint other member
    rw [start.receivers]
    split
    · exact mem_append_left _ member
    · exact member
  have earlier : ∀ endpoint other, other ∈ middle.waiters .receivers endpoint →
      other ∈ state.waiters .receivers endpoint ∨
        (other = thread ∧ target = .channelReceive endpoint) := by
    intro endpoint other member
    rw [start.receivers] at member
    split at member
    next here =>
      rcases mem_append.mp member with old | new
      · exact .inl old
      · exact .inr ⟨mem_singleton.mp new, here⟩
    · exact .inl member
  refine ⟨fun other blocked => ?_, fun endpoint other waiting => ?_,
    fun endpoint other member wanted waiting => ?_⟩
  · rw [calm.role_eq blocked]
    by_cases same : other = thread
    · subst same
      exact ⟨target, own⟩
    rw [others other same]
    apply found.targeted other
    have before := calm.isBlocked blocked
    rw [isBlocked, start.threads, Std.ExtTreeMap.getElem?_insert] at before
    simpa [isBlocked, Ne.symm same] using before
  · refine calm.kept endpoint other ?_ (isBlocked_of_waiting waiting)
    have before := calm.waiting waiting
    by_cases same : other = thread
    · subst same
      rw [start.receivers, if_pos (Role.waiting.inj (own.symm.trans before))]
      exact mem_append_right _ (mem_singleton_self _)
    · rw [others other same] at before
      exact kept endpoint other (found.listed endpoint other before)
  · have before := calm.waiting waiting
    rcases earlier endpoint other ((calm.receivers endpoint).subset member) with old | ⟨rfl, here⟩
    · by_cases same : other = thread
      · subst same
        rw [← Role.waiting.inj (own.symm.trans before)]
        exact clear (isBlocked_of_waiting waiting) endpoint old
      · rw [others other same] at before
        exact found.receiving endpoint other old wanted before
    · rw [← Role.waiting.inj (own.symm.trans before)]
      exact here

/-! ## Threads that are ready to run -/

def Ready (state : SchedulerState) (thread : ThreadId) : Prop :=
  state.role thread = .queued ∧ thread ∈ Buckets.all state.runnableQueues

/-- The thread is runnable and queued; if no thread was running before, it may
also have been given the CPU. -/
def Served (previous : Option ThreadId) (state : SchedulerState) (thread : ThreadId) : Prop :=
  state.Ready thread ∨
    (previous = none ∧ state.role thread = .running ∧ state.current = some thread)

theorem mem_pushRunnableIfAbsent
    (member : other = thread ∨ other ∈ Buckets.all state.runnableQueues) :
    other ∈ Buckets.all (state.pushRunnableIfAbsent cpu thread).runnableQueues := by
  unfold pushRunnableIfAbsent
  split
  next present =>
    rcases member with rfl | queued
    · exact (runnableContains_iff state other).mp present
    · exact queued
  · exact (Buckets.all_pushBack state.runnableQueues cpu thread).mem_iff.mpr
      (mem_cons.mpr member)

theorem ready_wake (state : SchedulerState) (cpu : Cpu) (thread : ThreadId)
    (reason : ThreadWakeReason) : (state.wake cpu thread reason).Ready thread := by
  refine ⟨?_, mem_pushRunnableIfAbsent (.inl rfl)⟩
  rw [role_wake, update_self]

section

variable (ready : state.Ready thread)

include ready

theorem Ready.wake (cpu : Cpu) (other : ThreadId)
    (reason : ThreadWakeReason) : (state.wake cpu other reason).Ready thread := by
  by_cases same : thread = other
  · subst same
    exact ready_wake state cpu thread reason
  refine ⟨?_, mem_pushRunnableIfAbsent (.inr ready.2)⟩
  rw [role_wake, update_of_ne same]
  exact ready.1

theorem Ready.wakeAll
    (cpu : Cpu) (threads : List ThreadId) : (state.wakeAll cpu threads).2.Ready thread := by
  induction threads generalizing state with
  | nil => exact ready
  | cons other threads induction =>
    rw [SchedulerState.wakeAll]
    split
    · exact induction (ready.wake cpu other .objectReady)
    · exact ready

variable (cpu : Cpu) (trigger : ScheduleTrigger)

include cpu trigger

/-- The thread that is taken from the queues is the one, or is another. -/
theorem Ready.scheduleNext (previous : Option ThreadId) :
    (state.scheduleNextLocked cpu trigger previous).2.Ready thread ∨
      ((state.scheduleNextLocked cpu trigger previous).2.role thread = .running ∧
        (state.scheduleNextLocked cpu trigger previous).2.current = some thread) := by
  rcases call : state.scheduleNextLocked cpu trigger previous with ⟨answer, next⟩
  rcases scheduleNextLocked_cases call with ⟨-, rfl⟩ | ⟨taken, middle, takes, either⟩
  · exact .inl ready
  have split := mem_cons.mp (takes.split.mem_iff.mp ready.2)
  rcases either with ⟨unknown, rfl⟩ | ⟨-, -, rfl⟩
  · refine .inl ⟨by rw [takes.role]; exact ready.1, split.resolve_left ?_⟩
    rintro rfl
    exact unknown (mem_threads_of_role (by rw [ready.1]; nofun))
  by_cases same : thread = taken
  · subst same
    exact .inr ⟨by rw [role_dispatch, update_self], rfl⟩
  refine .inl ⟨?_, split.resolve_left same⟩
  rw [role_dispatch, update_of_ne same, takes.role]
  exact ready.1

theorem Ready.afterWake (previous : Option ThreadId) :
    Served previous (state.afterWake cpu trigger previous).2 thread := by
  unfold SchedulerState.afterWake
  split
  next vacant =>
    exact (ready.scheduleNext cpu trigger previous).imp_right
      (And.intro (Option.isNone_iff_eq_none.mp vacant))
  · exact .inl ready

theorem Ready.notifyObjects (object : ObjectId) (previous : Option ThreadId) (woke : Bool) :
    Served previous (state.notifyObjects cpu trigger object previous woke).2 thread := by
  have served : (state.wakeObjectWaitersLocked cpu object).2.Ready thread := by
    unfold wakeObjectWaitersLocked
    split
    · exact ready
    rename_i waiters found
    have removed : (state.removeWaiters .objects object).Ready thread := ready
    have woken := removed.wakeAll cpu waiters
    split
    next all =>
      rw [all] at woken
      exact woken
    rename_i all
    rw [all] at woken
    exact woken
  unfold SchedulerState.notifyObjects
  split
  next call =>
    rw [call] at served
    exact .inl served
  rename_i call
  rw [call] at served
  split
  · exact .inl served
  · exact served.afterWake cpu trigger previous

end

/-- The notification reaches one of the threads that wait for a message. -/
theorem ReceiversFound.notifyChannelReady (found : state.ReceiversFound)
    (waiting : state.role thread = .waiting (.channelReceive endpoint)) (cpu : Cpu) :
    ∃ woken, state.role woken = .waiting (.channelReceive endpoint) ∧
      Served state.current (state.notifyChannelReady cpu endpoint).2 woken := by
  rcases served : state.wakeReceiver cpu endpoint with ⟨woke, after⟩
  rcases wakeReceiver_cases served with
    ⟨passed, receiver, rest, left, -, split, skipped, blocked, ended, -, rfl, -⟩
  cases receiver with
  | none =>
    have member := found.listed endpoint thread waiting
    rw [split, ended rfl] at member
    simp only [Option.toList_none, append_nil] at member
    exact absurd (isBlocked_of_waiting waiting) (skipped thread member)
  | some receiver =>
    have member : receiver ∈ state.waiters .receivers endpoint := by
      rw [split]
      simp
    rcases found.targeted receiver (blocked receiver rfl) with ⟨target, here⟩
    have receives := found.receiving endpoint receiver member target here
    have ready : ((state.wakeForMessage cpu (some receiver)).setWaiting .receivers
        left).Ready receiver := ready_wake state cpu receiver .channelMessage
    refine ⟨receiver, by rw [here, receives], ?_⟩
    rw [SchedulerState.notifyChannelReady, served]
    exact ready.notifyObjects cpu .ipcWake endpoint state.current woke

theorem ReceiversFound.waits (found : state.ReceiversFound)
    (waits : Waits state next alarm) (clear : ReceiversClear state next) : next.ReceiversFound := by
  cases waits with
  | none calm => exact found.calm calm
  | @begins middle thread target cpu start dispatched =>
    have calm : StartsNoWait middle next :=
      dispatched ▸ middle.scheduleNextLocked_startsNoWait cpu .blocked (some thread)
    refine found.begins start calm fun blocked endpoint member => ?_
    have own : next.role thread = .waiting target := by
      rw [calm.role_eq blocked, start.role, update_self]
    exact clear thread start.current target (Role.mem_target?.mpr own) endpoint
      (mem_receiving.mpr member)

end SchedulerState

namespace TaskSystem

open SchedulerState

/-- No wait begins while an entry of an earlier timed receive is in the way. -/
def KeepsReceiversClear (system : TaskSystem) (action : TaskAction) : Prop :=
  ReceiversClear system.scheduler (system.perform action.cpu action.operation).scheduler
deriving Decidable

theorem ReceiversFound.step {system next : TaskSystem} (taken : system.step action = some next)
    (clear : system.KeepsReceiversClear action) (found : system.scheduler.ReceiversFound) :
    next.scheduler.ReceiversFound := by
  cases taken
  exact found.waits (perform_waits system action.cpu action.operation) clear

/-- In every reachable state in which a thread waits for a message on an
endpoint, a notification about it makes one such thread runnable and queues it;
an idle CPU then may run it at once. -/
theorem channel_notification_wakes_receiver {bootstrap : ThreadId} {actions : List TaskAction}
    {system : TaskSystem} (execution : run step (boot bootstrap) actions = some system)
    (clear : EveryStep step KeepsReceiversClear (boot bootstrap) actions) {thread : ThreadId}
    {endpoint : ObjectId}
    (waiting : system.scheduler.role thread = .waiting (.channelReceive endpoint)) (cpu : Cpu) :
    ∃ woken, system.scheduler.role woken = .waiting (.channelReceive endpoint) ∧
      Served system.scheduler.current (system.scheduler.notifyChannelReady cpu endpoint).2
        woken := by
  have found : system.scheduler.ReceiversFound :=
    everyStep_preserves (fun system => system.scheduler.ReceiversFound)
      KeepsReceiversClear ReceiversFound.step execution clear (new_receiversFound bootstrap)
  exact found.notifyChannelReady waiting cpu

/-- The first thread's timed receive runs out, and it receives again on the same
endpoint, behind the second thread. -/
def receiveAgain : List TaskAction :=
  [.initializeTime, .registerThread 1, .makeRunnable 1 .explicit,
    .blockCurrentOnReceiveUntil 7 1, .tickTime, .takeWakeup,
    .handleTimeWakeup ⟨1, .deadlineExpired⟩, .blockCurrentOnReceive 7,
    .blockCurrentOnReceive 7].map (⟨bootCpu, ·⟩)

theorem channel_notification_wakes_receiver_after_timeout :
    ∃ system, run step (boot 0) receiveAgain = some system ∧
      system.scheduler.waiters .receivers 7 = [0, 1, 0] ∧
      ∃ woken, system.scheduler.role woken = .waiting (.channelReceive 7) ∧
        Served system.scheduler.current (system.scheduler.notifyChannelReady bootCpu 7).2 woken :=
  ⟨_, rfl, by decide +kernel,
    @channel_notification_wakes_receiver 0 receiveAgain _ rfl (by decide +kernel) 1 7
      (by decide +kernel) bootCpu⟩

/-- The first thread's timed receive runs out, and it goes on to wait for an
object; the second thread receives on the endpoint. -/
def waitElsewhere : List TaskAction :=
  [.initializeTime, .registerThread 1, .makeRunnable 1 .explicit,
    .blockCurrentOnReceiveUntil 7 1, .tickTime, .takeWakeup,
    .handleTimeWakeup ⟨1, .deadlineExpired⟩, .blockCurrentOnReceive 7,
    .blockCurrentOnObject 9].map (⟨bootCpu, ·⟩)

/-- The entry the first thread left behind takes the notification, and the only
receiver goes on waiting. -/
theorem stale_receiver_takes_notification :
    ∃ system, run step (boot 0) waitElsewhere = some system ∧
      system.scheduler.threads.keys = [0, 1] ∧
      system.scheduler.role 0 = .waiting (.object 9) ∧
      system.scheduler.role 1 = .waiting (.channelReceive 7) ∧
      (system.scheduler.notifyChannelReady bootCpu 7).2.role 0 = .running ∧
      (system.scheduler.notifyChannelReady bootCpu 7).2.role 1 = .waiting (.channelReceive 7) :=
  ⟨_, rfl, by decide +kernel, by decide +kernel, by decide +kernel, by decide +kernel,
    by decide +kernel⟩

end TaskSystem
end ServiceOS.Task
