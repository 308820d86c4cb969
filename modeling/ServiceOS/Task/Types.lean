import ServiceOS.Object.Types
import ServiceOS.Time.Manager

/-! # Threads as the scheduler sees them -/

namespace ServiceOS.Task

open Time (MonotonicInstant WakeToken TimerError)

abbrev ThreadId := Nat

inductive ExecutionState
  | constructing
  | runnable
  | running
  | blocked
  | suspended
  | dying
deriving DecidableEq

inductive ThreadWakeReason
  | bootstrap
  | yielded
  | timerExpired
  | channelMessage
  | packetReady
  | inputReady
  | objectReady
  | explicit
deriving DecidableEq

inductive WaitTarget
  | channelReceive (endpoint : ObjectId)
  | channelSend (endpoint : ObjectId)
  | reply (endpoint : ObjectId)
  | packetReceive (interface : ObjectId)
  | inputReceive (source : ObjectId)
  | timer (token : WakeToken) (deadline : MonotonicInstant)
  | object (object : ObjectId)
deriving DecidableEq

/-- The part of `ThreadState` that `transition_to` sets. -/
structure ThreadState where
  executionState : ExecutionState
  waitTarget : Option WaitTarget
  lastWakeReason : Option ThreadWakeReason
deriving DecidableEq

inductive ScheduleTrigger
  | bootstrap
  | yielded
  | blocked
  | timeWake
  | ipcWake
  | networkWake
  | inputWake
  | objectWake
  | explicit

def ScheduleTrigger.toWakeReason : ScheduleTrigger → ThreadWakeReason
  | .bootstrap => .bootstrap
  | .yielded => .yielded
  | .blocked => .explicit
  | .timeWake => .timerExpired
  | .ipcWake => .channelMessage
  | .networkWake => .packetReady
  | .inputWake => .inputReady
  | .objectWake => .objectReady
  | .explicit => .explicit

structure ScheduleDecision where
  trigger : ScheduleTrigger
  previous : Option ThreadId
  next : Option ThreadId
  runnableThreads : Nat
  blockedThreads : Nat

inductive SchedulerError
  | invalidThread
  | threadAlreadyRegistered
  | timeUnavailable
  | wakeTokenExhausted
  | timer (error : TimerError)

/-- The four wait maps of the scheduler, by what their threads wait for. -/
inductive WaitQueue
  | receivers
  | packets
  | inputs
  | objects
deriving DecidableEq

def WaitQueue.target : WaitQueue → ObjectId → WaitTarget
  | .receivers => .channelReceive
  | .packets => .packetReceive
  | .inputs => .inputReceive
  | .objects => .object

theorem WaitQueue.target_inj {second : WaitQueue} :
    first.target object = second.target other ↔ first = second ∧ object = other := by
  cases first <;> cases second <;> simp [target]

end ServiceOS.Task
