import ServiceOS.Foundation.Word

/-! # Service slots

What the service manager keeps for each service, and the changes its functions make to one
slot. A handle is `none` where the source has the invalid handle. -/

namespace ServiceOS.Manager

inductive ServiceId
  | rootManager | storage | console | config | log | status | shell | package | announce
  | network | graphics | session | desktopShell | terminal | audio | runtime | developer
  | clipboard | security | setupWizard | backup
deriving DecidableEq

inductive ServicePhase
  | dormant
  | waitingDependencies
  | starting
  | ready
  | backoff
  | degraded
  | exited
deriving DecidableEq

inductive ServiceStartupMode
  | eager
  | onDemand
deriving DecidableEq

inductive RestartPolicy
  | failStop
  | onFailure (maxRestarts backoffTicks : Nat)
  | supervisorRestart (supervisor : ServiceId) (maxRestarts backoffTicks : Nat)
deriving DecidableEq

structure ServiceManifest where
  serviceId : ServiceId
  startup : ServiceStartupMode
  restart : RestartPolicy
  dependencies : List ServiceId

/-! ## Crash loops -/

def crashWindowTicks : Nat := 1000

def crashLoopLimit : Nat := 3

/-- Ring of the most recent crash ticks. -/
structure CrashWindow where
  ticks : List Nat
  cursor : Nat
  filled : Nat

namespace CrashWindow

def new : CrashWindow := ⟨List.replicate crashLoopLimit 0, 0, 0⟩

def record (window : CrashWindow) (now : Nat) : CrashWindow where
  ticks := window.ticks.set window.cursor now
  cursor := (window.cursor + 1) % crashLoopLimit
  filled := min (window.filled + 1) crashLoopLimit

def shouldEscalate (window : CrashWindow) (now : Nat) : Bool :=
  let oldest := window.ticks.foldl min (Word.limit - 1)
  crashLoopLimit ≤ window.filled && now - oldest ≤ crashWindowTicks

end CrashWindow

/-! ## One slot -/

structure ServiceSlot where
  manifest : ServiceManifest
  taskHandle : Option Nat
  controlHandle : Option Nat
  publicHandle : Option Nat
  attempts : Nat
  consecutiveFailures : Nat
  crashWindow : CrashWindow
  phase : ServicePhase
  lastExitCode : Nat
  lastStartTick : Nat
  lastReadyTick : Nat
  nextRestartTick : Nat
  blockedDependency : ServiceId
  restartRequested : Bool
  occupied : Bool
  dynamic : Bool

/-- `saturating_add(1)` of a counter of 32 bits. -/
def countUp (counter : Nat) : Nat := min (counter + 1) (2 ^ 32 - 1)

inductive StartOutcome
  /-- A dependency is not ready and no boot resource stands in for it. -/
  | busy
  /-- There is no channel or no task. -/
  | notSpawned
  /-- The task runs; it may not have been sent its startup message. -/
  | spawned (task control now : Nat) (sent : Bool)

def StartOutcome.succeeds : StartOutcome → Bool
  | .spawned _ _ _ sent => sent
  | _ => false

namespace ServiceSlot

def load (manifest : ServiceManifest) (dynamic : Bool) : ServiceSlot where
  manifest := manifest
  taskHandle := none
  controlHandle := none
  publicHandle := none
  attempts := 0
  consecutiveFailures := 0
  crashWindow := .new
  phase := .dormant
  lastExitCode := 0
  lastStartTick := 0
  lastReadyTick := 0
  nextRestartTick := 0
  blockedDependency := .rootManager
  restartRequested := false
  occupied := true
  dynamic := dynamic

variable (slot : ServiceSlot)

def closeSlotHandles : ServiceSlot :=
  { slot with taskHandle := none, controlHandle := none, publicHandle := none }

def startService : StartOutcome → ServiceSlot
  | .busy => slot
  | .notSpawned => slot.closeSlotHandles
  | .spawned task control now _ =>
    { slot.closeSlotHandles with
      taskHandle := some task
      controlHandle := some control
      attempts := countUp slot.attempts
      phase := .starting
      lastExitCode := 0
      blockedDependency := .rootManager
      restartRequested := false
      nextRestartTick := 0
      lastStartTick := now }

def markWaitingDependency (blocked : ServiceId) : ServiceSlot :=
  { slot with phase := .waitingDependencies, blockedDependency := blocked }

def markServiceDegraded : ServiceSlot :=
  { slot with phase := .degraded, restartRequested := false, nextRestartTick := 0 }

end ServiceSlot

end ServiceOS.Manager
