import ServiceOS.Foundation.Execution
import ServiceOS.Manager.Slot

/-! # Supervision of one service

The life of a service slot: starts, readiness, exits that the supervision loop observes, and
restart requests of an operator. A slot that is activated again begins a new life. -/

namespace ServiceOS.Manager

open Execution

/-! ## The decision after an exit -/

inductive ExitKind
  | cleanExit
  | failure (userFault : Bool)
deriving DecidableEq

inductive RecoveryDecision
  | restart (backoffBase : Nat)
  | supervisorCall (supervisor : ServiceId) (backoffBase : Nat)
  | failStop
deriving DecidableEq

/-- The tag of a user fault is in the upper sixteen bits. -/
def isUserFault (exitCode : Nat) : Bool := exitCode / 2 ^ 48 = 0xf100

def maxRestartsOf : RestartPolicy → Nat
  | .failStop => 0
  | .onFailure maxRestarts _ | .supervisorRestart _ maxRestarts _ => maxRestarts

def baseBackoff : RestartPolicy → Nat
  | .failStop => 0
  | .onFailure _ backoffTicks | .supervisorRestart _ _ backoffTicks => backoffTicks

def decideRecovery (policy : RestartPolicy) (kind : ExitKind) (escalated : Bool) (failures : Nat)
    (requestedRestart : Bool) : RecoveryDecision :=
  if escalated then
    .failStop
  else
    let budgetExhausted :=
      kind ≠ .cleanExit && !requestedRestart && maxRestartsOf policy ≤ failures
    match policy with
    | .failStop => .failStop
    | .onFailure _ backoffTicks =>
      if budgetExhausted then .failStop else .restart backoffTicks
    | .supervisorRestart supervisor _ backoffTicks =>
      if budgetExhausted then .failStop else .supervisorCall supervisor backoffTicks

theorem decideRecovery_eq_failStop :
    decideRecovery policy (.failure userFault) false failures requestedRestart = .failStop ↔
      policy = .failStop ∨ (requestedRestart = false ∧ maxRestartsOf policy ≤ failures) := by
  cases policy <;> simp [decideRecovery, maxRestartsOf]
  all_goals exact fun _ => decide_eq_true_iff

namespace ServiceSlot

variable (slot : ServiceSlot)

def escalates (now : Nat) : Bool := (slot.crashWindow.record now).shouldEscalate now

def recovery (now exitCode : Nat) : RecoveryDecision :=
  decideRecovery slot.manifest.restart (.failure (isUserFault exitCode)) (slot.escalates now)
    (slot.attempts - 1) slot.restartRequested

def restartDelay : Nat :=
  let base := baseBackoff slot.manifest.restart
  if base ≠ 0 ∧ 1 < slot.consecutiveFailures then
    min (base * 2 ^ min (slot.consecutiveFailures - 1) 6) (Word.limit - 1)
  else
    base

/-- The restart after a failure; one without delay is made at once. -/
def scheduleRestart (now : Nat) (outcome : StartOutcome) : ServiceSlot :=
  let delay := slot.restartDelay
  let scheduled := { slot with
    phase := if delay = 0 then .dormant else .backoff
    nextRestartTick := Word.saturatingAdd now delay
    restartRequested := false }
  if delay ≠ 0 then
    scheduled
  else if outcome.succeeds then
    scheduled.startService outcome
  else
    (scheduled.startService outcome).markServiceDegraded

def observeExit (now exitCode : Nat) (outcome : StartOutcome) : ServiceSlot :=
  let closed := { slot.closeSlotHandles with lastExitCode := exitCode }
  if exitCode = 0 then
    let phase := if slot.manifest.startup = .onDemand then .dormant else .exited
    { closed with phase, restartRequested := false }
  else
    let failed := { closed with
      consecutiveFailures := countUp slot.consecutiveFailures
      crashWindow := slot.crashWindow.record now }
    match slot.recovery now exitCode with
    | .failStop => failed.markServiceDegraded
    | .supervisorCall _ _ | .restart _ => failed.scheduleRestart now outcome

def register (handle now : Nat) : ServiceSlot :=
  { slot with
    publicHandle := some handle
    phase := .ready
    consecutiveFailures := 0
    blockedDependency := .rootManager
    nextRestartTick := 0
    lastReadyTick := now }

def stopServiceSlot (exitCode : Option Nat) : ServiceSlot :=
  { slot.closeSlotHandles with
    lastExitCode := exitCode.getD slot.lastExitCode
    phase := .exited
    blockedDependency := .rootManager
    nextRestartTick := 0
    restartRequested := false }

/-- An operator's request to restart the service was answered with `Ok`. The service is told
before the request is noted, which is not done if telling it fails. -/
def requestRestart (delivered : Bool) : ServiceSlot :=
  if slot.controlHandle.isSome ∧ ¬delivered then
    slot
  else
    { slot with restartRequested := true, nextRestartTick := 0 }

end ServiceSlot

/-! ## The life of a slot -/

inductive SlotEvent
  | start (outcome : StartOutcome)
  | waitDependency (blocked : ServiceId)
  | register (handle now : Nat)
  | degrade
  | requestRestart (delivered : Bool)
  | exit (now exitCode : Nat) (outcome : StartOutcome)
  | stop (exitCode : Option Nat)

def ServicePhase.startable : ServicePhase → Bool
  | .dormant | .waitingDependencies | .backoff => true
  | .starting | .ready | .degraded | .exited => false

namespace SlotEvent

def enabled (slot : ServiceSlot) : SlotEvent → Bool
  | .start _ | .waitDependency _ => slot.phase.startable
  | .register _ _ => slot.controlHandle.isSome
  | .degrade => true
  -- Otherwise the request is answered with `Busy`.
  | .requestRestart _ => !slot.restartRequested && slot.phase ≠ .starting
  | .exit _ _ _ => slot.taskHandle.isSome
  | .stop _ => slot.dynamic

def effect (slot : ServiceSlot) : SlotEvent → ServiceSlot
  | .start outcome => slot.startService outcome
  | .waitDependency blocked => slot.markWaitingDependency blocked
  | .register handle now => slot.register handle now
  | .degrade => slot.markServiceDegraded
  | .requestRestart delivered => slot.requestRestart delivered
  | .exit now exitCode outcome => slot.observeExit now exitCode outcome
  | .stop exitCode => slot.stopServiceSlot exitCode

end SlotEvent

def slotStep (slot : ServiceSlot) (event : SlotEvent) : Option ServiceSlot :=
  if event.enabled slot then some (event.effect slot) else none

variable {event : SlotEvent}

variable {slot : ServiceSlot}

theorem slotStep_eq_some :
    slotStep slot event = some after ↔ event.enabled slot ∧ event.effect slot = after := by
  rw [slotStep, Option.ite_none_right_eq_some, Option.some.injEq]

/-! ## Idle slots -/

/-- A slot that can be started has no task. -/
def ServiceSlot.Idle (slot : ServiceSlot) : Prop :=
  slot.phase.startable → slot.taskHandle = none

theorem idle_startService (free : slot.taskHandle = none)
    (outcome : StartOutcome) : (slot.startService outcome).Idle := by
  cases outcome with
  | busy => exact fun _ => free
  | notSpawned => exact fun _ => rfl
  | spawned => exact nofun

theorem idle_scheduleRestart (free : slot.taskHandle = none) :
    (slot.scheduleRestart now outcome).Idle := by
  rw [ServiceSlot.scheduleRestart]
  split
  · exact fun _ => free
  split
  · apply idle_startService
    exact free
  · exact nofun

theorem idle_observeExit : (slot.observeExit now exitCode outcome).Idle := by
  rw [ServiceSlot.observeExit]
  split
  · exact fun _ => rfl
  split
  · exact nofun
  all_goals exact idle_scheduleRestart rfl

theorem idle_effect (enabled : event.enabled slot)
    (idle : slot.Idle) : (event.effect slot).Idle := by
  cases event with
  | start outcome => exact idle_startService (idle enabled) outcome
  | waitDependency => exact fun _ => idle enabled
  | register handle now | degrade | stop exitCode => exact nofun
  | requestRestart delivered =>
    change (slot.requestRestart delivered).Idle
    rw [ServiceSlot.requestRestart]
    split
    · exact idle
    · exact idle
  | exit now exitCode outcome => exact idle_observeExit

/-! ## The restart budget -/

def SlotEvent.isFailure : SlotEvent → Bool
  | .exit _ exitCode _ => exitCode ≠ 0
  | _ => false

def failures (events : List SlotEvent) : Nat := events.countP SlotEvent.isFailure

theorem failures_of_failure (failure : exitCode ≠ 0) : failures [.exit now exitCode outcome] = 1 :=
  List.countP_cons_of_pos (p := SlotEvent.isFailure) (decide_eq_true failure)

/-- A start is the first one or follows a failure, and a failure finds no restart request that
would lift a budget it has used up. The counter of 32 bits does not limit the budget. -/
def Budgeted (slot : ServiceSlot) : SlotEvent → Prop
  | .start _ => slot.attempts = 0 ∨ slot.lastExitCode ≠ 0
  | .exit _ exitCode _ =>
    exitCode ≠ 0 →
      (slot.restartRequested → slot.manifest.restart = .failStop ∨
        slot.attempts - 1 < maxRestartsOf slot.manifest.restart) ∧
      (slot.attempts < 2 ^ 32 - 1 ∨ maxRestartsOf slot.manifest.restart < 2 ^ 32 - 1)
  | _ => True

instance decidableBudgeted (slot : ServiceSlot) (event : SlotEvent) :
    Decidable (Budgeted slot event) := by
  cases event <;> (unfold Budgeted; infer_instance)

/-- The attempts are one more than the failures while a task runs, and as many after a
failure. -/
structure Counts (failed : Nat) (slot : ServiceSlot) : Prop where
  idle : slot.Idle
  running : slot.taskHandle.isSome → slot.attempts = min (failed + 1) (2 ^ 32 - 1)
  new : slot.phase.startable → slot.attempts = 0 → failed = 0
  failed : slot.phase.startable → slot.lastExitCode ≠ 0 → slot.attempts = min failed (2 ^ 32 - 1)

variable {failed : Nat}

section

theorem Counts.startService (counts : Counts failed slot) (startable : slot.phase.startable)
    (due : slot.attempts = 0 ∨ slot.lastExitCode ≠ 0) (outcome : StartOutcome) :
    Counts failed (slot.startService outcome) := by
  have idle := idle_startService (counts.idle startable) outcome
  cases outcome with
  | busy => exact counts
  | notSpawned => exact ⟨idle, nofun, counts.new, counts.failed⟩
  | spawned =>
    refine ⟨idle, fun _ => ?_, nofun, nofun⟩
    change countUp slot.attempts = _
    rw [countUp]
    rcases due with new | failure
    · have none := counts.new startable new
      omega
    · have same := counts.failed startable failure
      omega

theorem Counts.markServiceDegraded (counts : Counts failed slot) :
    Counts failed slot.markServiceDegraded :=
  ⟨nofun, counts.running, nofun, nofun⟩

theorem counts_scheduleRestart (free : slot.taskHandle = none) (failure : slot.lastExitCode ≠ 0)
    (attempts : slot.attempts = min (failed + 1) (2 ^ 32 - 1)) (now : Nat)
    (outcome : StartOutcome) : Counts (failed + 1) (slot.scheduleRestart now outcome) := by
  have scheduled : ∀ {phase tick}, Counts (failed + 1)
      { slot with phase := phase, nextRestartTick := tick, restartRequested := false } := by
    refine fun {phase tick} => ⟨fun _ => free, fun running => ?_, fun _ none => ?_,
      fun _ _ => attempts⟩
    · rw [free] at running
      cases running
    · rw [attempts] at none
      omega
  rw [ServiceSlot.scheduleRestart]
  split
  · exact scheduled
  rename_i immediate
  rw [if_pos (not_not.mp immediate)]
  split
  · exact scheduled.startService rfl (.inr failure) outcome
  · exact (scheduled.startService rfl (.inr failure) outcome).markServiceDegraded

theorem Counts.observeExit (counts : Counts failed slot) (running : slot.taskHandle.isSome)
    (now exitCode : Nat) (outcome : StartOutcome) :
    Counts (failed + failures [.exit now exitCode outcome])
      (slot.observeExit now exitCode outcome) := by
  have attempts := counts.running running
  rw [ServiceSlot.observeExit]
  split
  next clean =>
    subst clean
    refine ⟨fun _ => rfl, nofun, fun _ none => ?_, fun _ failure => absurd rfl failure⟩
    have none : slot.attempts = 0 := none
    omega
  rename_i failure
  rw [failures_of_failure failure]
  split
  · exact ⟨nofun, nofun, nofun, nofun⟩
  all_goals
    refine counts_scheduleRestart ?_ ?_ ?_ now outcome
    · rfl
    · exact failure
    · exact attempts

theorem Counts.effect (counts : Counts failed slot) (enabled : event.enabled slot)
    (budgeted : Budgeted slot event) : Counts (failed + failures [event]) (event.effect slot) := by
  cases event with
  | start outcome => exact counts.startService enabled budgeted outcome
  | waitDependency =>
    exact ⟨fun _ => counts.idle enabled, counts.running, fun _ => counts.new enabled,
      fun _ => counts.failed enabled⟩
  | register => exact ⟨nofun, counts.running, nofun, nofun⟩
  | degrade => exact counts.markServiceDegraded
  | requestRestart delivered =>
    change Counts failed (slot.requestRestart delivered)
    rw [ServiceSlot.requestRestart]
    split
    · exact counts
    · exact ⟨counts.idle, counts.running, counts.new, counts.failed⟩
  | exit now exitCode outcome => exact counts.observeExit enabled now exitCode outcome
  | stop => exact ⟨nofun, nofun, nofun, nofun⟩

end

variable (manifest : ServiceManifest)

theorem counts_load : Counts 0 (.load manifest dynamic) :=
  ⟨fun _ => rfl, fun running => absurd running Bool.false_ne_true, fun _ _ => rfl,
    fun _ failure => absurd rfl failure⟩

theorem counts_run (counts : Counts failed start)
    (execution : run slotStep start events = some slot)
    (budgeted : EveryStep slotStep Budgeted start events) :
    Counts (failed + failures events) slot := by
  induction events generalizing start failed with
  | nil =>
    cases execution
    exact counts
  | cons event events induction =>
    rcases run_cons_eq_some.mp execution with ⟨next, taken, rest⟩
    have later := budgeted.2 next taken
    rcases slotStep_eq_some.mp taken with ⟨enabled, rfl⟩
    have after := induction (counts.effect enabled budgeted.1) rest later
    rwa [Nat.add_assoc, failures, failures, ← List.countP_append] at after

variable {slot : ServiceSlot}

/-- In a life whose starts after the first all follow failures, a service that fails outside a
crash loop is given up exactly when its earlier failures have used up the budget. -/
theorem gives_up_iff_budget_used (dynamic : Bool) (events : List SlotEvent)
    (execution : run slotStep (.load manifest dynamic) events = some slot)
    (budgeted : EveryStep slotStep Budgeted (.load manifest dynamic) events) (now exitCode : Nat)
    (outcome : StartOutcome) (running : slot.taskHandle.isSome) (failure : exitCode ≠ 0)
    (last : Budgeted slot (.exit now exitCode outcome)) (calm : slot.escalates now = false) :
    slot.recovery now exitCode = .failStop ↔
      maxRestartsOf slot.manifest.restart ≤ failures events := by
  have counts := counts_run (counts_load manifest) execution budgeted
  have attempts := counts.running running
  rcases last failure with ⟨unrequested, wide⟩
  rw [ServiceSlot.recovery, calm, decideRecovery_eq_failStop]
  constructor
  · rintro (stops | ⟨-, used⟩)
    · rw [stops]
      exact Nat.zero_le _
    · omega
  intro used
  by_cases stops : slot.manifest.restart = .failStop
  · exact .inl stops
  refine .inr ⟨Bool.eq_false_iff.mpr fun requested => ?_, by omega⟩
  have below := (unrequested requested).resolve_left stops
  omega

namespace Sample

def service (startup : ServiceStartupMode) (restart : RestartPolicy) : ServiceManifest :=
  ⟨.network, startup, restart, []⟩

def startOnce : List SlotEvent := [.start (.spawned 1 2 0 true), .register 3 1]

def failOnce : List SlotEvent := startOnce ++ [.exit 2 1 (.spawned 4 5 3 true)]

def leaveOnce : List SlotEvent := startOnce ++ [.exit 2 0 .busy, .start (.spawned 4 5 3 true)]

end Sample

theorem gives_up_iff_budget_used_second_failure :
    ∃ slot, run slotStep (.load (Sample.service .eager (.onFailure 1 0)) false)
        Sample.failOnce = some slot ∧
      (slot.recovery 9 1 = .failStop ↔
        maxRestartsOf slot.manifest.restart ≤ failures Sample.failOnce) :=
  ⟨_, rfl, gives_up_iff_budget_used (Sample.service .eager (.onFailure 1 0)) false
    Sample.failOnce rfl (by decide +kernel) 9 1 .busy rfl (by decide) (by decide +kernel)
    (by decide +kernel)⟩

/-- The first failure of a service that had left once and was started again: it is given up
with no restart, though its policy allows one. -/
theorem gives_up_at_first_failure :
    ∃ slot, run slotStep (.load (Sample.service .onDemand (.onFailure 1 0)) false)
        Sample.leaveOnce = some slot ∧
      slot.taskHandle.isSome ∧ slot.escalates 9 = false ∧ slot.restartRequested = false ∧
      maxRestartsOf slot.manifest.restart = 1 ∧ failures Sample.leaveOnce = 0 ∧
      slot.recovery 9 1 = .failStop := by
  refine ⟨_, rfl, ?_, ?_, ?_, ?_, ?_, ?_⟩ <;> decide +kernel

/-! ## Restart requests -/

/-- A request is for a slot with a task, which can be told about it. While it is pending the task
does not leave with success, its policy allows restarts and the service is not stopped. -/
def Restartable (slot : ServiceSlot) : SlotEvent → Prop
  | .requestRestart delivered =>
    slot.taskHandle.isSome ∧ (slot.controlHandle.isSome → delivered)
  | .exit _ exitCode _ =>
    slot.restartRequested → exitCode ≠ 0 ∧ slot.manifest.restart ≠ .failStop
  | .stop _ => slot.restartRequested = false
  | _ => True

instance decidableRestartable (slot : ServiceSlot) (event : SlotEvent) :
    Decidable (Restartable slot event) := by
  cases event <;> (unfold Restartable; infer_instance)

/-- A start or the wait after it has failed, or the service is in a crash loop. -/
def FailsToStart (slot : ServiceSlot) : SlotEvent → Prop
  | .degrade => True
  | .exit now _ outcome => slot.escalates now ∨ outcome.succeeds = false
  | _ => False

def Restarts (slot : ServiceSlot) (event : SlotEvent) (after : ServiceSlot) : Prop :=
  after.phase = .backoff ∨ after.phase = .starting ∨
    (after.phase = .degraded ∧ FailsToStart slot event)

section

theorem phase_startService (succeeds : outcome.succeeds) :
    (slot.startService outcome).phase = .starting := by
  cases outcome with
  | busy => cases succeeds
  | notSpawned => cases succeeds
  | spawned => rfl

theorem phase_scheduleRestart (slot : ServiceSlot) :
    (slot.scheduleRestart now outcome).phase = .backoff ∨
      (slot.scheduleRestart now outcome).phase = .starting ∨
      ((slot.scheduleRestart now outcome).phase = .degraded ∧ outcome.succeeds = false) := by
  rw [ServiceSlot.scheduleRestart]
  split
  · exact .inl rfl
  split
  next succeeds => exact .inr (.inl (phase_startService succeeds))
  next fails => exact .inr (.inr ⟨rfl, Bool.eq_false_iff.mpr fails⟩)

theorem restarts_observeExit (requested : slot.restartRequested) (failure : exitCode ≠ 0)
    (restartable : slot.manifest.restart ≠ .failStop) :
    Restarts slot (.exit now exitCode outcome) (slot.observeExit now exitCode outcome) := by
  rw [ServiceSlot.observeExit, if_neg failure]
  have decision : slot.escalates now = false → slot.recovery now exitCode ≠ .failStop := by
    intro calm stops
    rw [ServiceSlot.recovery, calm, decideRecovery_eq_failStop] at stops
    rcases stops with policy | ⟨unrequested, -⟩
    · exact restartable policy
    · cases requested.symm.trans unrequested
  split
  next stops =>
    refine .inr (.inr ⟨rfl, .inl ?_⟩)
    exact Bool.eq_true_of_not_eq_false fun calm => decision calm stops
  all_goals
    exact (phase_scheduleRestart _).imp_right (Or.imp_right (And.imp_right .inr))

theorem pending_requestRestart (restartable : Restartable slot (.requestRestart delivered)) :
    (slot.requestRestart delivered).restartRequested ∧
      (slot.requestRestart delivered).taskHandle.isSome := by
  rcases restartable with ⟨busy, told⟩
  rw [ServiceSlot.requestRestart, if_neg fun untold => untold.2 (told untold.1)]
  exact ⟨rfl, busy⟩

/-- A request that is pending stays so until the service is on its way back. -/
theorem restarts_of_pending (idle : slot.Idle)
    (busy : slot.taskHandle.isSome) (requested : slot.restartRequested)
    (enabled : event.enabled slot) (restartable : Restartable slot event) :
    ((event.effect slot).restartRequested ∧ (event.effect slot).taskHandle.isSome) ∨
      Restarts slot event (event.effect slot) := by
  have unstartable : ¬ slot.phase.startable := by
    intro startable
    rw [idle startable] at busy
    cases busy
  cases event with
  | start outcome | waitDependency blocked => exact absurd enabled unstartable
  | register => exact .inl ⟨requested, busy⟩
  | degrade => exact .inr (.inr (.inr ⟨rfl, trivial⟩))
  | requestRestart => exact .inl (pending_requestRestart restartable)
  | exit =>
    rcases restartable requested with ⟨failure, policy⟩
    exact .inr (restarts_observeExit requested failure policy)
  | stop => cases requested.symm.trans restartable

/-- Only a slot with a task has a request pending. -/
structure Requests (slot : ServiceSlot) : Prop where
  idle : slot.Idle
  task : slot.restartRequested → slot.taskHandle.isSome

theorem unrequested_startService (unrequested : slot.restartRequested = false) :
    (slot.startService outcome).restartRequested = false := by
  cases outcome with
  | busy => exact unrequested
  | notSpawned => exact unrequested
  | spawned => rfl

theorem unrequested_observeExit :
    (slot.observeExit now exitCode outcome).restartRequested = false := by
  rw [ServiceSlot.observeExit]
  split
  · rfl
  split
  · rfl
  all_goals
    rw [ServiceSlot.scheduleRestart]
    split
    · rfl
    split
    · exact unrequested_startService rfl
    · rfl

theorem requests_effect (requests : Requests slot) (enabled : event.enabled slot)
    (restartable : Restartable slot event) : Requests (event.effect slot) := by
  have never : ∀ {flag : Bool} {claim : Prop}, flag = false → flag → claim :=
    fun unset set => absurd (unset.symm.trans set) Bool.false_ne_true
  refine ⟨idle_effect enabled requests.idle, ?_⟩
  cases event with
  | start =>
    refine never (unrequested_startService (Bool.eq_false_iff.mpr fun requested => ?_))
    have busy := requests.task requested
    rw [requests.idle enabled] at busy
    cases busy
  | waitDependency blocked | register handle now => exact requests.task
  | degrade => exact never rfl
  | requestRestart => exact fun _ => (pending_requestRestart restartable).2
  | exit now exitCode outcome => exact never unrequested_observeExit
  | stop => exact never rfl

end

/-- In a life that keeps to the condition, an accepted restart request is pending, it is so only
while the service has a task, and it ends with the service on its way back unless that could not
be started. -/
theorem restart_request_takes_effect (dynamic : Bool) (events : List SlotEvent)
    (execution : run slotStep (.load manifest dynamic) events = some slot)
    (restartable : EveryStep slotStep Restartable (.load manifest dynamic) events) :
    (slot.restartRequested → slot.taskHandle.isSome) ∧
      (∀ delivered after, Restartable slot (.requestRestart delivered) →
        slotStep slot (.requestRestart delivered) = some after → after.restartRequested) ∧
      ∀ event after, slot.restartRequested → Restartable slot event →
        slotStep slot event = some after →
        (after.restartRequested ∧ after.taskHandle.isSome) ∨ Restarts slot event after := by
  have requests : Requests slot := by
    refine everyStep_preserves Requests Restartable ?_ execution restartable
      ⟨fun _ => rfl, fun requested => absurd requested Bool.false_ne_true⟩
    intro state next event taken allowed holds
    rcases slotStep_eq_some.mp taken with ⟨enabled, rfl⟩
    exact requests_effect holds enabled allowed
  refine ⟨requests.task, fun delivered after allowed taken => ?_,
    fun event after requested allowed taken => ?_⟩
  · rcases slotStep_eq_some.mp taken with ⟨enabled, rfl⟩
    exact (pending_requestRestart allowed).1
  rcases slotStep_eq_some.mp taken with ⟨enabled, rfl⟩
  exact restarts_of_pending requests.idle (requests.task requested) requested enabled allowed

namespace Sample

def request (delivered : Bool) : List SlotEvent := startOnce ++ [.requestRestart delivered]

end Sample

theorem restart_request_takes_effect_after_failure :
    ∃ slot after, run slotStep (.load (Sample.service .eager (.onFailure 1 0)) false)
        (Sample.request true) = some slot ∧
      slotStep slot (.exit 9 1 (.spawned 4 5 9 true)) = some after ∧
      Restarts slot (.exit 9 1 (.spawned 4 5 9 true)) after :=
  ⟨_, _, rfl, rfl, ((restart_request_takes_effect (Sample.service .eager (.onFailure 1 0)) false
    (Sample.request true) rfl (by decide +kernel)).2.2 _ _ rfl (by decide +kernel) rfl).resolve_left
    (by decide +kernel)⟩

/-- A request for a service that has left stays with a slot without a task; a task that leaves
because of the request is not started again; nor is one whose policy is to stop; nor one that
could not be told and fails without a budget. -/
theorem restart_request_without_restart :
    (∃ slot, run slotStep (.load (Sample.service .eager (.onFailure 1 0)) false)
        (Sample.startOnce ++ [.exit 9 0 .busy, .requestRestart true]) = some slot ∧
      slot.restartRequested ∧ slot.taskHandle = none) ∧
    (∃ slot, run slotStep (.load (Sample.service .eager (.onFailure 1 0)) false)
        (Sample.request true ++ [.exit 9 0 .busy]) = some slot ∧
      slot.restartRequested = false ∧ slot.phase = .exited) ∧
    (∃ slot, run slotStep (.load (Sample.service .eager .failStop) false)
        (Sample.request true ++ [.exit 9 1 .busy]) = some slot ∧
      slot.crashWindow.shouldEscalate 9 = false ∧ slot.phase = .degraded) ∧
    ∃ slot, run slotStep (.load (Sample.service .eager (.onFailure 0 0)) false)
        (Sample.request false ++ [.exit 9 1 .busy]) = some slot ∧
      slot.crashWindow.shouldEscalate 9 = false ∧ slot.phase = .degraded := by
  refine ⟨⟨_, rfl, ?_, ?_⟩, ⟨_, rfl, ?_, ?_⟩, ⟨_, rfl, ?_, ?_⟩, ⟨_, rfl, ?_, ?_⟩⟩ <;>
    decide +kernel

end ServiceOS.Manager
