import Mathlib

/-! # Kernel object identities -/

namespace ServiceOS

/-- `ObjectId(u64)`. The registry never hands one number to two objects, so a
reference to an object is modelled by its number. -/
abbrev ObjectId := Nat

/-- The kinds of `KernelObject` other than a channel endpoint carry no state
the capability and message paths read. -/
inductive ObjectKind
  | task
  | thread
  | channelEndpoint
  | memoryObject
  | timer
  | event
  | pipe
  | bootstrapCapability
  | packetInterface
  | displayOutput
  | inputSource
  | audioEndpoint
  | blockDevice
deriving DecidableEq

end ServiceOS
