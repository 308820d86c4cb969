import ServiceOS.Task.Edits

/-! # Threads that an operation touches

An operation leaves every thread alone that it does not come upon: on the CPU,
in a queue, blocked where a timer or a message finds it, or named by the caller. -/

namespace ServiceOS.Task.SchedulerState

open Buckets List
open Std (ExtTreeMap)
open Time

/-- The other threads keep their records and are only where they were before. -/
structure Touches (Touched : ThreadId → Prop) (state next : SchedulerState) : Prop where
  records : ∀ thread, ¬Touched thread → next.threads[thread]? = state.threads[thread]?
  kept : ∀ thread ∈ state.threads, thread ∈ next.threads
  current : ∀ thread, next.current = some thread → state.current = some thread ∨ Touched thread
  queued : ∀ thread ∈ all next.runnableQueues, thread ∈ all state.runnableQueues ∨ Touched thread
  waiting : ∀ queue object, ∀ thread ∈ next.waiters queue object,
    thread ∈ state.waiters queue object ∨ Touched thread
  timers : ∀ (token : WakeToken) (thread : ThreadId), next.waitingTimers[token]? = some thread →
    state.waitingTimers[token]? = some thread ∨ Touched thread

theorem mem_threads_of_isBlocked {state : SchedulerState}
    (blocked : state.isBlocked thread = true) : thread ∈ state.threads := by
  rcases isBlocked_iff.mp blocked with ⟨record, found, -⟩
  rw [ExtTreeMap.mem_iff_isSome_getElem?, found]
  rfl

theorem waiting_setWaiting_of_ne (state : SchedulerState) (different : other ≠ queue)
    (waiting : ExtTreeMap ObjectId (List ThreadId)) :
    (state.setWaiting queue waiting).waiting other = state.waiting other :=
  Function.update_of_ne different _ _

namespace Touches

variable {Touched : ThreadId → Prop} {state middle next : SchedulerState}

theorem of_fewer (threads : next.threads = state.threads)
    (current : ∀ thread, next.current = some thread → state.current = some thread)
    (queued : ∀ thread ∈ all next.runnableQueues, thread ∈ all state.runnableQueues)
    (waiting : ∀ queue object, ∀ thread ∈ next.waiters queue object,
      thread ∈ state.waiters queue object)
    (timers : ∀ (token : WakeToken) (thread : ThreadId),
      next.waitingTimers[token]? = some thread → state.waitingTimers[token]? = some thread) :
    Touches Touched state next := by
  refine ⟨fun thread _ => by rw [threads], fun thread member => ?_,
    fun thread here => .inl (current thread here), fun thread member => .inl (queued thread member),
    fun queue object thread member => .inl (waiting queue object thread member),
    fun token thread found => .inl (timers token thread found)⟩
  rw [threads]
  exact member

theorem refl (state : SchedulerState) : Touches Touched state state :=
  of_fewer rfl (fun _ => id) (fun _ => id) (fun _ _ _ => id) fun _ _ => id

theorem trans (one : Touches Touched state middle) (other : Touches Touched middle next) :
    Touches Touched state next where
  records thread left := (other.records thread left).trans (one.records thread left)
  kept thread member := other.kept thread (one.kept thread member)
  current thread here := (other.current thread here).elim (one.current thread) .inr
  queued thread member := (other.queued thread member).elim (one.queued thread) .inr
  waiting queue object thread member :=
    (other.waiting queue object thread member).elim (one.waiting queue object thread) .inr
  timers token thread found := (other.timers token thread found).elim (one.timers token thread) .inr

/-- Threads get no records where only registered threads are touched. -/
theorem known (touches : Touches Touched state next)
    (registered : ∀ thread, Touched thread → thread ∈ state.threads)
    (member : thread ∈ next.threads) : thread ∈ state.threads := by
  by_cases touched : Touched thread
  · exact registered thread touched
  rw [ExtTreeMap.mem_iff_isSome_getElem?] at member ⊢
  rw [← touches.records thread touched]
  exact member

/-! ## Threads that are placed -/

section

variable (touched : Touched thread)

include touched

theorem transitionTo (executionState : ExecutionState)
    (waitTarget : Option WaitTarget) (wakeReason : Option ThreadWakeReason) :
    Touches Touched state (state.transitionTo thread executionState waitTarget wakeReason) := by
  refine ⟨fun other left => ?_, fun other member => ExtTreeMap.mem_insert.mpr (.inr member),
    fun _ => .inl, fun _ => .inl, fun _ _ _ => .inl, fun _ _ => .inl⟩
  rw [SchedulerState.transitionTo, ExtTreeMap.getElem?_insert, if_neg]
  rw [compare_eq_iff_eq]
  rintro rfl
  exact left touched

theorem pushRunnableOnCurrentCpu (cpu : Cpu) :
    Touches Touched state (state.pushRunnableOnCurrentCpu cpu thread) := by
  refine ⟨fun _ _ => rfl, fun _ => id, fun _ => .inl, fun other member => ?_, fun _ _ _ => .inl,
    fun _ _ => .inl⟩
  have pushed := (all_pushBack state.runnableQueues cpu thread).mem_iff.mp member
  rcases mem_cons.mp pushed with rfl | before
  · exact .inr touched
  · exact .inl before

theorem pushRunnableIfAbsent (cpu : Cpu) :
    Touches Touched state (state.pushRunnableIfAbsent cpu thread) := by
  unfold SchedulerState.pushRunnableIfAbsent
  split
  · exact refl _
  · exact pushRunnableOnCurrentCpu touched cpu

theorem wake (cpu : Cpu) (reason : ThreadWakeReason) :
    Touches Touched state (state.wake cpu thread reason) :=
  (pushRunnableIfAbsent touched cpu).trans (transitionTo touched _ _ _)

theorem pushWaiter (queue : WaitQueue) (object : ObjectId) :
    Touches Touched state (state.pushWaiter queue object thread) := by
  refine ⟨fun _ _ => rfl, fun _ => id, fun _ => .inl, fun _ => .inl,
    fun other position waiter member => ?_, fun _ _ => .inl⟩
  rw [SchedulerState.pushWaiter, waiters_setWaiting_insert] at member
  split at member
  next same =>
    rcases same with ⟨rfl, rfl⟩
    rcases mem_append.mp member with before | new
    · exact .inl before
    · exact .inr (mem_singleton.mp new ▸ touched)
  · exact .inl member

theorem insertTimer (token : WakeToken) :
    Touches Touched state (state.insertTimer token thread) := by
  refine ⟨fun _ _ => rfl, fun _ => id, fun _ => .inl, fun _ => .inl, fun _ _ _ => .inl,
    fun other waiter found => ?_⟩
  rw [timers_insertTimer] at found
  split at found
  · cases found
    exact .inr touched
  · exact .inl found

end

/-! ## Threads that leave -/

section

variable (state : SchedulerState)

theorem clearCurrent : Touches Touched state { state with current := none } :=
  of_fewer rfl nofun (fun _ => id) (fun _ _ _ => id) fun _ _ => id

theorem removeFromWaitQueues (thread : ThreadId) :
    Touches Touched state (state.removeFromWaitQueues thread) := by
  refine of_fewer rfl (fun _ => id) (fun _ => id) (fun queue object other member => ?_)
    fun token other found => (timers_removeFromWaitQueues.mp found).1
  rw [waiters_removeFromWaitQueues] at member
  exact (mem_filter.mp member).1

theorem takeToken : Touches Touched state state.takeToken :=
  of_fewer rfl (fun _ => id) (fun _ => id) (fun _ _ _ => id) fun _ _ => id

theorem eraseTimer (token : WakeToken) :
    Touches Touched state { state with waitingTimers := state.waitingTimers.erase token } :=
  of_fewer rfl (fun _ => id) (fun _ => id) (fun _ _ _ => id)
    (state.eraseTimer_startsNoWait token).timers

theorem removeWaiters (queue : WaitQueue) (object : ObjectId) :
    Touches Touched state (state.removeWaiters queue object) := by
  refine of_fewer rfl (fun _ => id) (fun _ => id) (fun other position thread member => ?_)
    fun _ _ => id
  rw [waiters_removeWaiters] at member
  split at member
  · cases member
  · exact member

end

theorem popWaiter (first : state.waiters queue object = thread :: rest) :
    Touches Touched state (state.setWaiting queue ((state.waiting queue).insert object rest)) := by
  refine of_fewer rfl (fun _ => id) (fun _ => id) (fun other position waiter member => ?_)
    fun _ _ => id
  rw [waiters_setWaiting_insert] at member
  split at member
  next same =>
    rw [same.1, same.2, first]
    exact mem_cons_of_mem _ member
  · exact member

theorem of_reshuffles (moved : Reshuffles state next) : Touches Touched state next := by
  refine of_fewer moved.threads (fun thread => by rw [moved.current]; exact id)
    (fun thread member => moved.queued.mem_iff.mp member) (fun queue object thread => ?_)
    fun token thread => by rw [moved.timers]; exact id
  rw [waiters, moved.waiting]
  exact id

theorem of_takes (takes : Takes state next thread) : Touches Touched state next := by
  refine of_fewer takes.threads (fun thread => by rw [takes.current]; exact id)
    (fun thread member => takes.split.mem_iff.mpr (mem_cons_of_mem _ member))
    (fun queue object thread => ?_) fun token thread => by rw [takes.timers]; exact id
  rw [waiters, takes.waiting]
  exact id

/-! ## Compound changes -/

theorem scheduleNextLocked
    (touched : ∀ thread ∈ all state.runnableQueues, thread ∈ state.threads → Touched thread)
    (cpu : Cpu) (trigger : ScheduleTrigger) (previous : Option ThreadId) :
    Touches Touched state (state.scheduleNextLocked cpu trigger previous).2 := by
  rcases call : state.scheduleNextLocked cpu trigger previous with ⟨answer, next⟩
  rcases scheduleNextLocked_cases call with
    ⟨-, rfl⟩ | ⟨thread, middle, takes, ⟨-, rfl⟩ | ⟨known, -, rfl⟩⟩
  · exact refl _
  · exact of_takes takes
  have here := touched thread takes.member known
  have running := (of_takes takes).trans
    (transitionTo here .running none (some trigger.toWakeReason))
  refine running.trans ⟨fun _ _ => rfl, fun _ => id, ?_, fun _ => .inl, fun _ _ _ => .inl,
    fun _ _ => .inl⟩
  rintro _ ⟨⟩
  exact .inr here

section

variable (touched : Touched thread)

include touched

theorem blockCurrent (target : WaitTarget) :
    Touches Touched state (state.blockCurrent thread target) :=
  (transitionTo touched .blocked (some target) none).trans (clearCurrent _)

theorem requeueCurrent (cpu : Cpu) (reason : ThreadWakeReason) :
    Touches Touched state (state.requeueCurrent cpu thread reason) :=
  ((transitionTo touched .runnable none (some reason)).trans
    (pushRunnableOnCurrentCpu touched cpu)).trans (clearCurrent _)

theorem rouse (cpu : Cpu) (reason : ThreadWakeReason) :
    Touches Touched state ((state.removeFromWaitQueues thread).wake cpu thread reason) :=
  (removeFromWaitQueues state thread).trans (wake touched cpu reason)

theorem race (cpu : Cpu) :
    Touches Touched state ((state.transitionTo thread .runnable none
      (some .inputReady)).pushRunnableIfAbsent cpu thread) :=
  (transitionTo touched _ _ _).trans (pushRunnableIfAbsent touched cpu)

end

theorem wakeAll {threads : List ThreadId}
    (touched : ∀ thread ∈ threads, thread ∈ state.threads → Touched thread)
    (registered : ∀ thread, Touched thread → thread ∈ state.threads) (cpu : Cpu) :
    Touches Touched state (state.wakeAll cpu threads).2 := by
  induction threads generalizing state with
  | nil => exact refl _
  | cons thread threads induction =>
    rw [SchedulerState.wakeAll]
    split
    next here =>
      have woken : Touches Touched state (state.wake cpu thread .objectReady) :=
        wake (touched thread mem_cons_self here) cpu .objectReady
      exact woken.trans (induction
        (fun other member after =>
          touched other (mem_cons_of_mem _ member) (woken.known registered after))
        fun other touched => woken.kept other (registered other touched))
    · exact refl _

theorem wakeReceiver (touched : ∀ thread, state.isBlocked thread = true → Touched thread)
    (cpu : Cpu) (endpoint : ObjectId) :
    Touches Touched state (state.wakeReceiver cpu endpoint).2 := by
  rcases call : state.wakeReceiver cpu endpoint with ⟨woke, next⟩
  rcases wakeReceiver_cases call with
    ⟨passed, receiver, rest, waiting, -, split, -, blocked, -, -, rfl, held⟩
  have woken : Touches Touched state (state.wakeForMessage cpu receiver) := by
    cases receiver with
    | none => exact refl _
    | some thread => exact wake (touched thread (blocked thread rfl)) cpu .channelMessage
  refine woken.trans (of_fewer rfl (fun _ => id) (fun _ => id)
    (fun queue object thread member => ?_) fun _ _ => id)
  rw [waiters, wakeForMessage_waiting]
  by_cases receivers : queue = .receivers
  · subst receivers
    rw [held] at member
    split at member
    next same =>
      rw [← waiters, same, split]
      exact mem_append_right _ (mem_append_right _ member)
    · exact member
  · rw [waiters, waiting_setWaiting_of_ne _ receivers, wakeForMessage_waiting] at member
    exact member

theorem of_registers (touched : Touched thread)
    (registers : Registers state thread target alarm next) : Touches Touched state next := by
  cases registers with
  | queue queue object => exact (blockCurrent touched _).trans (pushWaiter touched queue object)
  | receiver endpoint =>
    have blocked := (takeToken state).trans (blockCurrent touched (.channelReceive endpoint))
    exact (blocked.trans (insertTimer touched _)).trans (pushWaiter touched _ _)
  | timer =>
    exact ((takeToken state).trans (blockCurrent touched _)).trans (insertTimer touched _)

end Touches

/-! ## Every edit -/

/-- Where an edit comes upon a thread. -/
inductive Reaches (operation : TaskOperation) (state : SchedulerState) (thread : ThreadId) : Prop
  | current (here : state.current = some thread)
  | queued (member : thread ∈ all state.runnableQueues)
  | waiting {queue : WaitQueue} {object : ObjectId} (exact : queue ≠ .receivers)
      (member : thread ∈ state.waiters queue object)
  | blocked (blocked : state.isBlocked thread = true)
  | asked {reason : ThreadWakeReason} (asked : operation = .makeRunnable thread reason)

def Reached (operation : TaskOperation) (state : SchedulerState) (thread : ThreadId) : Prop :=
  thread ∈ state.threads ∧ Reaches operation state thread

variable {initial state next : SchedulerState}

/-- A thread is registered, the current thread ends, or registered threads that
are come upon are moved about. -/
theorem Edit.touches (edit : Edit initial operation state next) :
    (∃ thread, next = state.transitionTo thread .suspended none none) ∨
      (∃ thread, state.current = some thread ∧ next = state.endCurrent thread) ∨
      Touches (Reached operation state) state next := by
  cases edit with
  | @register thread => exact .inl ⟨thread, rfl⟩
  | @finish thread here => exact .inr (.inl ⟨thread, here, rfl⟩)
  | reshuffle moved => exact .inr (.inr (.of_reshuffles moved))
  | takeToken => exact .inr (.inr (.takeToken state))
  | schedule =>
    exact .inr (.inr (.scheduleNextLocked (fun _ member known => ⟨known, .queued member⟩) _ _ _))
  | resume here known =>
    exact .inr (.inr (.transitionTo ⟨known, .current here⟩ _ _ _))
  | rouse asked elsewhere known cpu => exact .inr (.inr (.rouse ⟨known, .asked asked⟩ cpu _))
  | requeue here known cpu reason =>
    exact .inr (.inr (.requeueCurrent ⟨known, .current here⟩ cpu reason))
  | @race current here known cpu =>
    have touched : Reached operation state current := ⟨known, .current here⟩
    have raced : Touches _ state _ := .race touched cpu
    refine .inr (.inr (raced.trans (.scheduleNextLocked (fun thread member known => ?_) _ _ _)))
    rcases raced.queued thread member with before | touched
    · exact ⟨raced.known (fun _ => And.left) known, .queued before⟩
    · exact touched
  | expire token => exact .inr (.inr (.eraseTimer state token))
  | timeOut first found blocked wakes cpu reason =>
    exact .inr (.inr ((Touches.eraseTimer state _).trans
      (.wake ⟨mem_threads_of_isBlocked blocked, .blocked blocked⟩ cpu reason)))
  | wakeReceiver first cpu endpoint =>
    exact .inr (.inr (.wakeReceiver
      (fun _ blocked => ⟨mem_threads_of_isBlocked blocked, .blocked blocked⟩) cpu endpoint))
  | @wakeObjects object waiters found wakes cpu =>
    have held : state.waiters .objects object = waiters := by
      rw [SchedulerState.waiters, found, Option.getD_some]
    have touched : ∀ thread ∈ waiters, thread ∈ state.threads → Reached operation state thread :=
      fun thread member known => ⟨known, .waiting (by decide) (held ▸ member)⟩
    refine .inr (.inr ((Touches.removeWaiters state _ _).trans (.wakeAll ?_ ?_ cpu)))
    · exact touched
    · exact fun _ => And.left
  | wakeFirst exact first known wakes cpu reason =>
    have member := first ▸ mem_cons_self
    exact .inr (.inr ((Touches.popWaiter first).trans
      (.wake ⟨known, .waiting exact member⟩ cpu reason)))
  | dropFirst exact first => exact .inr (.inr (.popWaiter first))
  | dropQueue exact => exact .inr (.inr (.removeWaiters _ _ _))

end ServiceOS.Task.SchedulerState
