import ServiceOS.Task.ChannelWakeups

/-! # Wakeups match what their threads wait for

Here wake events come from the time manager: an event is taken there, by some
CPU, before the scheduler handles it. The system also remembers what was armed
for the latest wait of each thread. -/

namespace ServiceOS.Task

open Execution Time SchedulerState TaskSystem Function List

/-! ## The time manager's part -/

structure Punctual (time : TimeState) (taken : List WakeEvent) (alarm : Alarm) : Prop where
  timers : ∀ timer ∈ time.timers.values, timer.token = alarm.token →
    timer.request.deadline = alarm.deadline
  events : ∀ event ∈ time.ready.values ++ taken, event.token = alarm.token →
    alarm.deadline ≤ time.now

/-- Timers are one-shot, tokens are those given out so far, and the alarms that
threads wait for are punctual. -/
structure Timekeeping (tokens : Nat) (time : Option TimeState) (taken : List WakeEvent)
    (Pending : Alarm → Prop) : Prop where
  unset : time = none → taken = []
  bounded : ∀ clock ∈ time, clock.now ≤ 2 ^ 64 - 1
  oneShot : ∀ clock ∈ time, ∀ timer ∈ clock.timers.values, timer.request.intervalTicks = none
  timers : ∀ clock ∈ time, ∀ timer ∈ clock.timers.values, timer.token < tokens
  events : ∀ clock ∈ time, ∀ event ∈ clock.ready.values ++ taken, event.token < tokens
  pending : ∀ alarm, Pending alarm → alarm.token < tokens ∧
    ∃ clock ∈ time, Punctual clock taken alarm

namespace Timekeeping

variable {clock after : TimeState} {time : Option TimeState}

theorem mono (kept : Timekeeping tokens time taken Pending) (given : tokens ≤ later)
    (handled : ∀ event ∈ left, event ∈ taken) (ended : ∀ alarm, Still alarm → Pending alarm) :
    Timekeeping later time left Still := by
  have fewer : ∀ {clock : TimeState} {event}, event ∈ clock.ready.values ++ left →
      event ∈ clock.ready.values ++ taken := fun member =>
    mem_append.mpr ((mem_append.mp member).imp_right (handled _))
  refine ⟨fun vacant => eq_nil_iff_forall_not_mem.mpr fun event member => ?_, kept.bounded,
    kept.oneShot, fun clock here timer armed => ?_, fun clock here event member => ?_,
    fun alarm still => ?_⟩
  · have before := handled event member
    rw [kept.unset vacant] at before
    cases before
  · exact Nat.lt_of_lt_of_le (kept.timers clock here timer armed) given
  · exact Nat.lt_of_lt_of_le (kept.events clock here event (fewer member)) given
  · rcases kept.pending alarm (ended alarm still) with ⟨known, clock, here, punctual⟩
    exact ⟨Nat.lt_of_lt_of_le known given, clock, here, punctual.timers,
      fun event member => punctual.events event (fewer member)⟩

theorem setUp (kept : Timekeeping tokens time taken Pending) :
    Timekeeping tokens (some (time.getD .new)) taken Pending := by
  cases time with
  | some => exact kept
  | none =>
    cases kept.unset rfl
    refine ⟨nofun, ?_, ?_, ?_, ?_, fun alarm pending => ?_⟩
    · rintro _ ⟨⟩
      exact Nat.zero_le _
    · rintro _ ⟨⟩ timer armed
      cases armed
    · rintro _ ⟨⟩ timer armed
      cases armed
    · rintro _ ⟨⟩ event member
      cases member
    · rcases kept.pending alarm pending with ⟨-, _, ⟨⟩, -⟩

section

variable (kept : Timekeeping tokens (some clock) taken Pending)

include kept

theorem tick (call : clock.handleTick = (outcome, after)) :
    Timekeeping tokens (some after) taken Pending := by
  rcases TimeState.handleTick_fired call with ⟨now, fired⟩
  have advanced : clock.now ≤ after.now := by
    rw [now]
    exact Nat.le_min.mpr ⟨Nat.le_add_right _ _, kept.bounded clock rfl⟩
  have earlier : ∀ timer ∈ after.timers.values, timer ∈ clock.timers.values := by
    intro timer member
    rcases fired.timers timer member with same | ⟨periodic, armed, -, repeated⟩
    · exact same
    · rw [kept.oneShot clock rfl periodic armed] at repeated
      cases repeated
  have origin : ∀ event ∈ after.ready.values ++ taken,
      event ∈ clock.ready.values ++ taken ∨
        ∃ timer ∈ clock.timers.values, timer.token = event.token ∧
          timer.request.deadline ≤ after.now := by
    intro event member
    rcases mem_append.mp member with ready | out
    · rcases fired.wakeups event ready with old | new
      · exact .inl (mem_append_left _ old)
      · exact .inr new
    · exact .inl (mem_append_right _ out)
  refine ⟨nofun, ?_, ?_, ?_, ?_, fun alarm pending => ?_⟩
  · rintro _ ⟨⟩
    rw [now]
    exact Nat.min_le_right _ _
  · rintro _ ⟨⟩ timer member
    exact kept.oneShot clock rfl timer (earlier timer member)
  · rintro _ ⟨⟩ timer member
    exact kept.timers clock rfl timer (earlier timer member)
  · rintro _ ⟨⟩ event member
    rcases origin event member with old | ⟨timer, armed, same, -⟩
    · exact kept.events clock rfl event old
    · rw [← same]
      exact kept.timers clock rfl timer armed
  · rcases kept.pending alarm pending with ⟨known, _, ⟨⟩, punctual⟩
    refine ⟨known, after, rfl, fun timer member => punctual.timers timer (earlier timer member),
      fun event member token => ?_⟩
    rcases origin event member with old | ⟨timer, armed, same, due⟩
    · exact Nat.le_trans (punctual.events event old token) advanced
    · rw [← punctual.timers timer armed (same.trans token)]
      exact due

theorem take (call : clock.takeWakeup = (event, after)) :
    Timekeeping tokens (some after) (taken ++ event.toList) Pending := by
  rcases TimeState.takeWakeup_cases call with ⟨now, timers, ready⟩
  have same : ∀ {other}, other ∈ after.ready.values ++ (taken ++ event.toList) →
      other ∈ clock.ready.values ++ taken := by
    intro other member
    rw [ready]
    simp only [mem_append] at member ⊢
    tauto
  refine ⟨nofun, ?_, ?_, ?_, ?_, fun alarm pending => ?_⟩
  · rintro _ ⟨⟩
    rw [now]
    exact kept.bounded clock rfl
  · rintro _ ⟨⟩
    rw [timers]
    exact kept.oneShot clock rfl
  · rintro _ ⟨⟩
    rw [timers]
    exact kept.timers clock rfl
  · rintro _ ⟨⟩ other member
    exact kept.events clock rfl other (same member)
  · rcases kept.pending alarm pending with ⟨known, _, ⟨⟩, punctual⟩
    refine ⟨known, after, rfl, ?_, fun other member token => ?_⟩
    · rw [timers]
      exact punctual.timers
    · rw [now]
      exact punctual.events other (same member) token

end

/-- The same for a time manager that may not have been set up yet. -/
theorem tickTime (kept : Timekeeping tokens time taken Pending) :
    Timekeeping tokens (time.map fun clock => clock.handleTick.2) taken Pending := by
  cases time with
  | none => exact kept
  | some => exact kept.tick rfl

theorem takeWakeup (kept : Timekeeping tokens time taken Pending) :
    Timekeeping tokens (time.map fun clock => clock.takeWakeup.2)
      (taken ++ (time.bind fun clock => clock.takeWakeup.1).toList) Pending := by
  cases time with
  | none => exact kept.mono le_rfl (by simp) fun _ => id
  | some => exact kept.take rfl

/-- A new token is armed, or its event is ready because the deadline has passed;
if the manager has no room, nothing carries the token. -/
theorem arm (kept : Timekeeping tokens (some clock) taken Pending) (given : tokens < later)
    (call : clock.armWakeup tokens (.oneShot deadline) = (answer, after))
    (ended : ∀ alarm, Still alarm → Pending alarm ∨ alarm = ⟨tokens, deadline⟩) :
    Timekeeping later (some after) taken Still := by
  rcases TimeState.armWakeup_cases call with ⟨now, cases⟩
  have timers : ∀ timer ∈ after.timers.values, timer ∈ clock.timers.values ∨
      (timer.token = tokens ∧ timer.request = .oneShot deadline) := by
    intro timer member
    rcases cases with ⟨-, -, same, -⟩ | ⟨-, -, same, -⟩ | ⟨-, -, id, pushed⟩
    · exact .inl (same ▸ member)
    · exact .inl (same ▸ member)
    rcases mem_cons.mp (pushed.mem_iff.mp member) with rfl | old
    · exact .inr ⟨rfl, rfl⟩
    · exact .inl old
  have events : ∀ event ∈ after.ready.values ++ taken, event ∈ clock.ready.values ++ taken ∨
      (event.token = tokens ∧ deadline ≤ clock.now) := by
    intro event member
    rcases mem_append.mp member with ready | out
    · rcases cases with ⟨-, -, -, same⟩ | ⟨-, due, -, pushed⟩ | ⟨-, same, -⟩
      · exact .inl (mem_append_left _ (same ▸ ready))
      · rcases mem_cons.mp (pushed.mem_iff.mp ready) with rfl | old
        · exact .inr ⟨rfl, due⟩
        · exact .inl (mem_append_left _ old)
      · exact .inl (mem_append_left _ (same ▸ ready))
    · exact .inl (mem_append_right _ out)
  refine ⟨nofun, ?_, ?_, ?_, ?_, fun alarm still => ?_⟩
  · rintro _ ⟨⟩
    rw [now]
    exact kept.bounded clock rfl
  · rintro _ ⟨⟩ timer member
    rcases timers timer member with old | ⟨-, new⟩
    · exact kept.oneShot clock rfl timer old
    · rw [new]
      rfl
  · rintro _ ⟨⟩ timer member
    rcases timers timer member with old | ⟨new, -⟩
    · exact Nat.lt_trans (kept.timers clock rfl timer old) given
    · rw [new]
      exact given
  · rintro _ ⟨⟩ event member
    rcases events event member with old | ⟨new, -⟩
    · exact Nat.lt_trans (kept.events clock rfl event old) given
    · rw [new]
      exact given
  · rcases ended alarm still with pending | rfl
    · -- Tokens given out before differ from the new one.
      rcases kept.pending alarm pending with ⟨known, _, ⟨⟩, punctual⟩
      refine ⟨Nat.lt_trans known given, after, rfl, fun timer member token => ?_,
        fun event member token => ?_⟩
      · rcases timers timer member with old | ⟨new, -⟩
        · exact punctual.timers timer old token
        · exact absurd (new.symm.trans token) (Nat.ne_of_gt known)
      rcases events event member with old | ⟨new, -⟩
      · rw [now]
        exact punctual.events event old token
      · exact absurd (new.symm.trans token) (Nat.ne_of_gt known)
    · refine ⟨given, after, rfl, fun timer member token => ?_, fun event member token => ?_⟩
      · rcases timers timer member with old | ⟨-, new⟩
        · exact absurd token (Nat.ne_of_lt (kept.timers clock rfl timer old))
        · rw [new]
          rfl
      rcases events event member with old | ⟨-, due⟩
      · exact absurd token (Nat.ne_of_lt (kept.events clock rfl event old))
      · rw [now]
        exact due

end Timekeeping

/-! ## The system -/

structure KernelSystem where
  tasks : TaskSystem
  /-- Events taken from the time manager that the scheduler has yet to handle. -/
  taken : List WakeEvent
  /-- What was armed for the latest wait of each thread. -/
  alarms : ThreadId → Option Alarm

namespace KernelSystem

def boot (bootstrap : ThreadId) : KernelSystem := ⟨.boot bootstrap, [], fun _ => none⟩

/-- When the operation has made the current thread wait, its alarm is noted. -/
def noteAlarm (system : KernelSystem) (operation : TaskOperation) (next : TaskSystem) :
    ThreadId → Option Alarm :=
  match system.tasks.scheduler.current with
  | some thread =>
    if (next.scheduler.role thread).target?.isSome then
      update system.alarms thread (system.tasks.alarm operation)
    else
      system.alarms
  | none => system.alarms

/-- Events the scheduler has yet to handle; the operation must not handle any
other. -/
def handOver (system : KernelSystem) : TaskOperation → Option (List WakeEvent)
  | .handleTimeWakeup event =>
    if event ∈ system.taken then some (system.taken.erase event) else none
  | .takeWakeup =>
    some (system.taken ++ (system.tasks.time.bind fun time => time.takeWakeup.1).toList)
  | _ => some system.taken

def step (system : KernelSystem) (action : TaskAction) : Option KernelSystem :=
  (system.handOver action.operation).map fun taken =>
    let tasks := system.tasks.perform action.cpu action.operation
    ⟨tasks, taken, system.noteAlarm action.operation tasks⟩

/-- Some thread waits, and this is what was armed for it. -/
def Pending (system : KernelSystem) (alarm : Alarm) : Prop :=
  ∃ thread target, system.tasks.scheduler.role thread = .waiting target ∧
    system.alarms thread = some alarm

/-- The entries of waiting threads belong to their waits. -/
structure Accurate (system : KernelSystem) : Prop where
  consistent : system.tasks.scheduler.Consistent
  found : system.tasks.scheduler.ReceiversFound
  timers : ∀ (token : WakeToken) (thread : ThreadId),
    system.tasks.scheduler.waitingTimers[token]? = some thread →
    ∀ target, system.tasks.scheduler.role thread = .waiting target →
      ∃ deadline, system.alarms thread = some ⟨token, deadline⟩ ∧
        (target = .timer token deadline ∨ ∃ endpoint, target = .channelReceive endpoint)
  time : Timekeeping system.tasks.scheduler.nextWakeToken system.tasks.time system.taken
    system.Pending

theorem boot_accurate (bootstrap : ThreadId) : (boot bootstrap).Accurate := by
  refine ⟨new_consistent bootstrap, new_receiversFound bootstrap, fun token thread found => ?_,
    fun _ => rfl, nofun, nofun, nofun, nofun, ?_⟩
  · simp [boot, TaskSystem.boot, new] at found
  · rintro alarm ⟨thread, target, -, armed⟩
    cases armed

variable {system : KernelSystem} {left : List WakeEvent}

theorem Accurate.matched (accurate : system.Accurate) : system.tasks.scheduler.Matched := by
  refine ⟨accurate.found.receiving, fun token thread found target waiting => ?_⟩
  rcases accurate.timers token thread found target waiting with ⟨deadline, -, either⟩
  exact either.imp_left (Exists.intro deadline)

/-- Threads are made runnable explicitly only when they do not wait. -/
def ExplicitWhenAwake (state : SchedulerState) : TaskOperation → Prop
  | .makeRunnable thread _ => ¬state.isBlocked thread = true
  | _ => True

instance decidableExplicitWhenAwake (state : SchedulerState) (operation : TaskOperation) :
    Decidable (ExplicitWhenAwake state operation) := by
  apply @operation.casesOn (fun operation => Decidable (ExplicitWhenAwake state operation)) <;>
    intros <;> first | exact .isTrue trivial | exact instDecidableNot

/-- A thread that goes to wait has no timer pending and is in no receiver queue
but that of the endpoint it waits for. -/
structure NothingLeft (system : KernelSystem) (action : TaskAction) : Prop where
  receivers : ReceiversClear system.tasks.scheduler
    (system.tasks.perform action.cpu action.operation).scheduler
  timers : ∀ thread ∈ system.tasks.scheduler.current,
    ((system.tasks.perform action.cpu action.operation).scheduler.role thread).target?.isSome →
      system.tasks.scheduler.pendingTokens thread = []
  explicit : ExplicitWhenAwake system.tasks.scheduler action.operation

instance decidableNothingLeft (system : KernelSystem) (action : TaskAction) :
    Decidable (NothingLeft system action) :=
  decidable_of_iff (ReceiversClear system.tasks.scheduler
      (system.tasks.perform action.cpu action.operation).scheduler ∧
    (∀ thread ∈ system.tasks.scheduler.current,
      ((system.tasks.perform action.cpu action.operation).scheduler.role thread).target?.isSome →
        system.tasks.scheduler.pendingTokens thread = []) ∧
    ExplicitWhenAwake system.tasks.scheduler action.operation)
    ⟨fun ⟨receivers, timers, explicit⟩ => ⟨receivers, timers, explicit⟩,
      fun left => ⟨left.receivers, left.timers, left.explicit⟩⟩

/-! ## What a wait that begins changes -/

section

variable {next : TaskSystem} {taken : List WakeEvent} {alarm : Alarm}

theorem noteAlarm_calm (consistent : system.tasks.scheduler.Consistent)
    (calm : StartsNoWait system.tasks.scheduler next.scheduler) :
    system.noteAlarm operation next = system.alarms := by
  unfold noteAlarm
  split
  next thread current =>
    rw [if_neg]
    intro waits
    rcases Option.isSome_iff_exists.mp waits with ⟨target, here⟩
    have before := calm.waiting (Role.mem_target?.mp here)
    cases before.symm.trans ((consistent.current thread).mp current)
  · rfl

theorem noteAlarm_begins
    (start : StartsWait system.tasks.scheduler middle thread target (system.tasks.alarm operation))
    (waits : next.scheduler.role thread = .waiting target) :
    system.noteAlarm operation next =
      update system.alarms thread (system.tasks.alarm operation) := by
  simp only [noteAlarm, start.current, waits]
  rfl

theorem waits_after_dispatch {alarm : Option Alarm} (consistent : state.Consistent)
    (start : StartsWait state middle thread target alarm) (cpu : Cpu) :
    (middle.scheduleNextLocked cpu .blocked (some thread)).2.role thread = .waiting target := by
  have own : middle.role thread = .waiting target := by rw [start.role, update_self]
  exact (start.keeps consistent cpu .blocked (some thread) thread target own).resolve_right id

section

variable (consistent : system.tasks.scheduler.Consistent)
  (pending : Pending ⟨system.tasks.perform cpu operation, taken,
    system.noteAlarm operation (system.tasks.perform cpu operation)⟩ alarm)

include consistent pending

theorem pending_of_calm
    (calm : StartsNoWait system.tasks.scheduler (system.tasks.perform cpu operation).scheduler) :
    system.Pending alarm := by
  rcases pending with ⟨thread, target, waiting, armed⟩
  rw [noteAlarm_calm consistent calm] at armed
  exact ⟨thread, target, calm.waiting waiting, armed⟩

/-- What threads wait for was pending before, or is the alarm of the new wait. -/
theorem pending_cases : system.Pending alarm ∨ system.tasks.alarm operation = some alarm := by
  cases perform_waits system.tasks cpu operation with
  | none calm => exact .inl (pending_of_calm consistent pending calm)
  | @begins middle waiter wanted other start dispatched =>
    rcases pending with ⟨thread, target, waiting, armed⟩
    dsimp only at waiting armed
    have own := dispatched ▸ waits_after_dispatch consistent start other
    rw [noteAlarm_begins start own] at armed
    by_cases same : thread = waiter
    · subst same
      rw [update_self] at armed
      exact .inr armed
    rw [update_of_ne same] at armed
    have calm := dispatched ▸ middle.scheduleNextLocked_startsNoWait other .blocked
      (some waiter)
    have before := calm.waiting waiting
    rw [start.role, update_of_ne same] at before
    exact .inl ⟨thread, target, before, armed⟩

end

/-- The timer entries of waiting threads are those of their waits. -/
theorem Accurate.timers_step (accurate : system.Accurate)
    (clear : NothingLeft system ⟨cpu, operation⟩)
    (found : (system.tasks.perform cpu operation).scheduler.waitingTimers[token]? = some thread)
    (waiting : (system.tasks.perform cpu operation).scheduler.role thread = .waiting target) :
    ∃ deadline, system.noteAlarm operation (system.tasks.perform cpu operation) thread =
        some ⟨token, deadline⟩ ∧
      (target = .timer token deadline ∨ ∃ endpoint, target = .channelReceive endpoint) := by
  cases perform_waits system.tasks cpu operation with
  | none calm =>
    rw [noteAlarm_calm accurate.consistent calm]
    exact accurate.timers token thread (calm.timers token thread found) target
      (calm.waiting waiting)
  | @begins middle waiter wanted other start dispatched =>
    have calm := dispatched ▸ middle.scheduleNextLocked_startsNoWait other .blocked
      (some waiter)
    have own := dispatched ▸ waits_after_dispatch accurate.consistent start other
    have before := calm.waiting waiting
    have entry := calm.timers token thread found
    rw [noteAlarm_begins start own]
    rw [start.timers] at entry
    split at entry
    next here =>
      cases entry
      rcases Option.map_eq_some_iff.mp here with ⟨set, member, rfl⟩
      rw [start.role, update_self] at before
      cases before
      refine ⟨set.deadline, ?_, start.timed set member⟩
      rw [update_self]
      exact member
    · have different : thread ≠ waiter := by
        rintro rfl
        have listed := mem_pendingTokens.mpr entry
        rw [clear.timers thread start.current (by rw [own]; rfl)] at listed
        cases listed
      rw [update_of_ne different]
      rw [start.role, update_of_ne different] at before
      exact accurate.timers token thread entry target before

end

/-! ## What an operation does to the time manager -/

theorem tokens_perform (system : TaskSystem) (cpu : Cpu) (operation : TaskOperation) :
    system.scheduler.nextWakeToken ≤ (system.perform cpu operation).scheduler.nextWakeToken := by
  cases perform_waits system cpu operation with
  | none calm => exact calm.tokens
  | @begins middle thread target other start dispatched =>
    have calm := dispatched ▸ middle.scheduleNextLocked_startsNoWait other .blocked
      (some thread)
    exact Nat.le_trans start.tokens calm.tokens

def SchedulerOnly : TaskOperation → Prop
  | .initializeTime | .tickTime | .takeWakeup => False
  | _ => True

/-- A timed wait that gets as far as the time manager uses up its token. -/
theorem blockUntil_time {current : ThreadId}
    (start : StartsWait state (register state.takeToken state.nextWakeToken) current target
      (some ⟨state.nextWakeToken, deadline⟩))
    (clock : TimeState) (cpu : Cpu) :
    ((state.blockUntil clock cpu current deadline register).2.1 = state ∧
      (state.blockUntil clock cpu current deadline register).2.2 = clock) ∨
      ∃ answer, clock.armWakeup state.nextWakeToken (.oneShot deadline) =
          (answer, (state.blockUntil clock cpu current deadline register).2.2) ∧
        state.nextWakeToken <
          (state.blockUntil clock cpu current deadline register).2.1.nextWakeToken := by
  rcases call : state.blockUntil clock cpu current deadline register with ⟨result, next, after⟩
  rcases blockUntil_cases call with ⟨rfl, rfl⟩ | ⟨answer, armed, rfl | ⟨-, rfl⟩⟩
  · exact .inl ⟨rfl, rfl⟩
  · exact .inr ⟨answer, armed, Nat.lt_succ_self _⟩
  have calm := scheduleNextLocked_startsNoWait
    (register state.takeToken state.nextWakeToken) cpu .blocked (some current)
  exact .inr ⟨answer, armed, Nat.lt_of_lt_of_le (start.fresh _ rfl).2 calm.tokens⟩

/-- The time manager is left alone unless a new token is armed there; then the
token is used up. -/
theorem perform_time (system : TaskSystem) (cpu : Cpu) (own : SchedulerOnly operation) :
    ((system.perform cpu operation).time = system.time ∧
      (system.alarm operation = none ∨
        StartsNoWait system.scheduler (system.perform cpu operation).scheduler)) ∨
      ∃ clock after answer deadline, system.time = some clock ∧
        system.alarm operation = some ⟨system.scheduler.nextWakeToken, deadline⟩ ∧
        clock.armWakeup system.scheduler.nextWakeToken (.oneShot deadline) = (answer, after) ∧
        (system.perform cpu operation).time = some after ∧
        system.scheduler.nextWakeToken <
          (system.perform cpu operation).scheduler.nextWakeToken := by
  cases operation with
  | blockCurrentOnReceiveUntil endpoint deadlineTicks =>
    simp only [perform, alarm, receiveAlarm, SchedulerState.blockCurrentOnReceiveUntil]
    split
    · exact .inl ⟨rfl, .inl rfl⟩
    rcases current : system.scheduler.current with _ | thread
    · exact .inl ⟨rfl, .inr (.refl _)⟩
    rcases present : system.time with _ | clock
    · exact .inl ⟨rfl, .inl rfl⟩
    rcases blockUntil_time (registerReceiver_startsWait current endpoint
      (clock.now.saturatingAdd deadlineTicks)) clock cpu with
      ⟨same, unchanged⟩ | ⟨answer, armed, used⟩
    · refine .inl ⟨congrArg some unchanged, .inr ?_⟩
      rw [same]
      exact .refl _
    · exact .inr ⟨clock, _, answer, _, rfl, rfl, armed, rfl, used⟩
  | blockCurrentUntil deadline =>
    simp only [perform, alarm, SchedulerState.blockCurrentUntil]
    rcases present : system.time with _ | clock
    · exact .inl ⟨rfl, .inr (.refl _)⟩
    rcases current : system.scheduler.current with _ | thread
    · exact .inl ⟨rfl, .inr (.refl _)⟩
    rcases blockUntil_time (registerTimer_startsWait current deadline) clock cpu with
      ⟨same, unchanged⟩ | ⟨answer, armed, used⟩
    · refine .inl ⟨congrArg some unchanged, .inr ?_⟩
      rw [same]
      exact .refl _
    · exact .inr ⟨clock, _, answer, _, rfl, rfl, armed, rfl, used⟩
  | initializeTime | tickTime | takeWakeup => exact own.elim
  | _ => exact .inl ⟨by simp only [perform], .inl rfl⟩

/-! ## Whole runs -/

theorem Accurate.time_step (accurate : system.Accurate) (cpu : Cpu) (own : SchedulerOnly operation)
    (handled : ∀ event ∈ left, event ∈ system.taken) :
    Timekeeping (system.tasks.perform cpu operation).scheduler.nextWakeToken
      (system.tasks.perform cpu operation).time left
      (Pending ⟨system.tasks.perform cpu operation, left,
        system.noteAlarm operation (system.tasks.perform cpu operation)⟩) := by
  rcases perform_time system.tasks cpu own with
    ⟨same, quiet⟩ | ⟨clock, after, answer, deadline, present, alarm, armed, result, used⟩
  · rw [same]
    refine accurate.time.mono (tokens_perform system.tasks cpu operation) handled
      fun alarm pending => ?_
    rcases quiet with untimed | calm
    · refine (pending_cases accurate.consistent pending).resolve_right fun set => ?_
      cases untimed.symm.trans set
    · exact pending_of_calm accurate.consistent pending calm
  · have kept := accurate.time.mono le_rfl handled fun _ => id
    rw [present] at kept
    rw [result]
    refine kept.arm used armed fun set pending => ?_
    refine (pending_cases accurate.consistent pending).imp_right fun here => ?_
    exact Option.some.inj (here.symm.trans alarm)

theorem Accurate.step {next : KernelSystem} (taken : system.step action = some next)
    (clear : system.NothingLeft action) (accurate : system.Accurate) : next.Accurate := by
  rcases Option.map_eq_some_iff.mp taken with ⟨left, handed, rfl⟩
  rcases action with ⟨cpu, operation⟩
  dsimp only at handed ⊢
  refine ⟨(accurate.consistent.perform accurate.matched cpu operation).1,
    accurate.found.waits (perform_waits system.tasks cpu operation) clear.receivers,
    fun token thread found target waiting => accurate.timers_step clear found waiting, ?_⟩
  have still : ∀ {operation : TaskOperation} {left alarm},
      (system.tasks.perform cpu operation).scheduler = system.tasks.scheduler →
      Pending ⟨system.tasks.perform cpu operation, left,
        system.noteAlarm operation (system.tasks.perform cpu operation)⟩ alarm →
      system.Pending alarm := by
    intro operation left alarm same pending
    refine pending_of_calm accurate.consistent pending ?_
    rw [same]
    exact .refl _
  have scheduled (left) := @Accurate.time_step system left operation accurate cpu
  cases operation with
  | handleTimeWakeup =>
    rw [handOver] at handed
    split at handed
    · cases handed
      exact scheduled _ trivial fun _ => mem_of_mem_erase
    · cases handed
  | initializeTime =>
    cases handed
    exact accurate.time.setUp.mono le_rfl (fun _ => id) fun _ => still rfl
  | tickTime =>
    cases handed
    exact accurate.time.tickTime.mono le_rfl (fun _ => id) fun _ => still rfl
  | takeWakeup =>
    cases handed
    exact accurate.time.takeWakeup.mono le_rfl (fun _ => id) fun _ => still rfl
  | _ =>
    cases handed
    exact scheduled _ trivial fun _ => id

/-- The operation is what the thread waits for: a notification about the same
resource, or the event of the token that was armed for this wait, once the
deadline has come. -/
def Answers (system : KernelSystem) (thread : ThreadId) : WaitTarget → TaskOperation → Prop
  | .timer token deadline, .handleTimeWakeup event => event.token = token ∧
      system.alarms thread = some ⟨token, deadline⟩ ∧
      ∃ clock, system.tasks.time = some clock ∧ deadline ≤ clock.now
  | .channelReceive _, .handleTimeWakeup event =>
    ∃ deadline clock, system.alarms thread = some ⟨event.token, deadline⟩ ∧
      system.tasks.time = some clock ∧ deadline ≤ clock.now
  | .channelReceive endpoint, .notifyChannelReady notified => notified = endpoint
  | .packetReceive interface, .notifyPacketReady notified => notified = interface
  | .inputReceive source, .notifyInputReady notified => notified = source
  | .object object, .notifyChannelReady notified => notified = object
  | .object object, .notifyPacketReady notified => notified = object
  | .object object, .notifyInputReady notified => notified = object
  | .object object, .notifyObjectReady notified => notified = object
  | _, _ => False

theorem Accurate.answers_timer (accurate : system.Accurate) (out : event ∈ system.taken)
    (found : system.tasks.scheduler.waitingTimers[event.token]? = some thread)
    (waiting : system.tasks.scheduler.role thread = .waiting target) :
    system.Answers thread target (.handleTimeWakeup event) := by
  rcases accurate.timers event.token thread found target waiting with ⟨deadline, armed, either⟩
  rcases accurate.time.pending _ ⟨thread, target, waiting, armed⟩ with
    ⟨-, clock, present, punctual⟩
  have due := punctual.events event (mem_append_right _ out) rfl
  rcases either with rfl | ⟨endpoint, rfl⟩
  · exact ⟨rfl, armed, clock, present, due⟩
  · exact ⟨deadline, clock, armed, present, due⟩

theorem Accurate.answers (accurate : system.Accurate)
    (handed : system.handOver operation = some left)
    (awake : ExplicitWhenAwake system.tasks.scheduler operation)
    (waiting : system.tasks.scheduler.role thread = .waiting target)
    (woken : system.tasks.scheduler.Wakes operation thread target) :
    system.Answers thread target operation := by
  cases operation with
  | makeRunnable =>
    cases woken
    exact absurd (isBlocked_of_waiting waiting) awake
  | handleTimeWakeup =>
    rw [handOver] at handed
    split at handed
    next out => exact accurate.answers_timer out woken waiting
    · cases handed
  | notifyChannelReady endpoint =>
    rcases woken with receiver | rfl
    · rcases call : system.tasks.scheduler.nextReceiver
        (system.tasks.scheduler.waiters .receivers endpoint) with ⟨found, rest⟩
      rw [call] at receiver
      rcases nextReceiver_split call with ⟨passed, split, -⟩
      have member : thread ∈ system.tasks.scheduler.waiters .receivers endpoint := by
        rw [split, show found = some thread from receiver]
        simp
      rw [accurate.found.receiving endpoint thread member target waiting]
      rfl
    · rfl
  | notifyPacketReady interface | notifyInputReady source => rcases woken with rfl | rfl <;> rfl
  | notifyObjectReady =>
    cases woken
    rfl
  | _ => exact woken.elim

/-- Whenever an operation takes a thread out of its wait, in any reachable
state, it is what that thread waits for at that moment. -/
theorem wakeups_answer_waits {bootstrap : ThreadId} {actions : List TaskAction}
    {system next : KernelSystem} {action : TaskAction}
    (execution : run step (boot bootstrap) actions = some system)
    (clear : EveryStep step NothingLeft (boot bootstrap) actions)
    (taken : system.step action = some next) (cleared : system.NothingLeft action)
    {thread : ThreadId} {target : WaitTarget}
    (waiting : system.tasks.scheduler.role thread = .waiting target)
    (woken : next.tasks.scheduler.role thread ≠ .waiting target) :
    system.Answers thread target action.operation := by
  have accurate : system.Accurate :=
    everyStep_preserves Accurate NothingLeft Accurate.step execution clear
      (boot_accurate bootstrap)
  rcases Option.map_eq_some_iff.mp taken with ⟨left, handed, rfl⟩
  have kept := (accurate.consistent.perform accurate.matched action.cpu action.operation).2
  exact accurate.answers handed cleared.explicit waiting
    ((kept thread target waiting).resolve_left woken)

/-- Thread 0 receives with a deadline and gets its message; its timer goes off
while it runs. Then it sleeps until another deadline. -/
def receiveThenSleep : List TaskAction :=
  [.initializeTime, .blockCurrentOnReceiveUntil 7 1, .notifyChannelReady 7, .tickTime,
    .takeWakeup, .handleTimeWakeup ⟨1, .deadlineExpired⟩, .blockCurrentUntil 2, .tickTime,
    .takeWakeup].map (⟨bootCpu, ·⟩)

theorem wakeups_answer_waits_of_sleeper :
    ∃ system next, run step (boot 0) receiveThenSleep = some system ∧
      system.step ⟨bootCpu, .handleTimeWakeup ⟨2, .deadlineExpired⟩⟩ = some next ∧
      next.tasks.scheduler.role 0 = .running ∧
      system.Answers 0 (.timer 2 2) (.handleTimeWakeup ⟨2, .deadlineExpired⟩) :=
  ⟨_, _, rfl, rfl, by decide +kernel,
    @wakeups_answer_waits 0 receiveThenSleep _ _
      ⟨bootCpu, .handleTimeWakeup ⟨2, .deadlineExpired⟩⟩ rfl (by decide +kernel) rfl
      (by decide +kernel) 0 (.timer 2 2) (by decide +kernel) (by decide +kernel)⟩

/-- Thread 0 receives with a deadline and gets its message, and then waits for
an object while its timer is still pending. -/
def receiveThenWait : List TaskAction :=
  [.initializeTime, .blockCurrentOnReceiveUntil 7 1, .notifyChannelReady 7,
    .blockCurrentOnObject 9, .tickTime, .takeWakeup].map (⟨bootCpu, ·⟩)

/-- The token of the receive wakes the thread out of its wait for the object. -/
theorem stale_token_wakes :
    ∃ system next, run step (boot 0) receiveThenWait = some system ∧
      system.tasks.scheduler.role 0 = .waiting (.object 9) ∧
      system.step ⟨bootCpu, .handleTimeWakeup ⟨1, .deadlineExpired⟩⟩ = some next ∧
      next.tasks.scheduler.role 0 = .running ∧
      ¬system.Answers 0 (.object 9) (.handleTimeWakeup ⟨1, .deadlineExpired⟩) :=
  ⟨_, _, rfl, by decide +kernel, rfl, by decide +kernel, id⟩

end KernelSystem
end ServiceOS.Task
