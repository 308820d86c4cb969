import ServiceOS.Foundation.Ring
import ServiceOS.Capability.Types

/-! # Messages and channel endpoints

The types of `ipc/types.rs` and `ipc/endpoint.rs`. A fixed array with a count
is a list whose length the array bounds. -/

namespace ServiceOS.Ipc

open Capability
open Std (ExtTreeMap)

def maxMessageWords : Nat := 16
def maxMessageCapabilities : Nat := 8
def maxQueuedMessagesPerEndpoint : Nat := 64

abbrev MessageTag := UInt32

structure MessageBufferDescriptor where
  wordCount : Nat
  transfersCapability : Bool

structure SharedMemoryHint where
  offsetBytes : Nat
  lengthBytes : Nat
  writable : Bool
deriving DecidableEq

structure MessageReceipt where
  peer : ObjectId
  descriptor : MessageBufferDescriptor

inductive IpcError
  | endpointNotReady
  | bufferShapeInvalid
  | capability (error : CapabilityError)
  | objectKindMismatch
  | endpointClosed
  | invalidReplyEndpoint
  | queueEmpty
  | queueFull (queuedMessages maxMessages : Nat)
  | messageTooLarge (wordCount maxWords : Nat)
  | tooManyTransfers (transferCount maxTransfers : Nat)

structure MessageEnvelope where
  tag : MessageTag
  words : List UInt64
  capabilities : List PreparedTransfer
  replyEndpoint : Option PreparedTransfer
  sharedMemoryHint : Option SharedMemoryHint
  words_le : words.length ≤ maxMessageWords
  capabilities_le : capabilities.length ≤ maxMessageCapabilities
deriving DecidableEq

/-- Everything the envelope carries, in the order it is installed. -/
def MessageEnvelope.transfers (envelope : MessageEnvelope) : List PreparedTransfer :=
  envelope.capabilities ++ envelope.replyEndpoint.toList

structure OutgoingMessage extends MessageEnvelope

namespace OutgoingMessage

variable (message : OutgoingMessage)

def descriptor : MessageBufferDescriptor :=
  ⟨message.words.length, message.capabilities.length != 0 || message.replyEndpoint.isSome⟩

end OutgoingMessage

structure ReceivedMessage where
  tag : MessageTag
  words : List UInt64
  transferredCapabilities : List CapabilityHandle
  replyEndpoint : Option CapabilityHandle
  sharedMemoryHint : Option SharedMemoryHint

abbrev MessageQueue := Ring MessageEnvelope maxQueuedMessagesPerEndpoint

def MessageQueue.new : MessageQueue := Ring.empty (by decide)

/-- The queue of an endpoint answers every sequence of calls as a list of bounded length does. -/
theorem messageQueue_is_deque (calls : List (Ring.Call MessageEnvelope)) :
    Ring.answers (Ring.listCall maxQueuedMessagesPerEndpoint) [] calls =
        ((Ring.answers Ring.call MessageQueue.new calls).1,
          (Ring.answers Ring.call MessageQueue.new calls).2.toList) ∧
      (Ring.answers Ring.call MessageQueue.new calls).2.Vacant :=
  @Ring.answers_toList _ _ MessageQueue.new (fun _ _ => rfl) calls

structure ChannelEndpointState where
  /-- A weak reference: the peer may be gone from the object table. -/
  peer : Option ObjectId
  queue : MessageQueue

/-- Message passing looks into channel endpoints only. -/
inductive KernelObject
  | channelEndpoint (state : ChannelEndpointState)
  | other (kind : ObjectKind)

abbrev ObjectTable := ExtTreeMap ObjectId KernelObject

def ObjectTable.channelEndpoint (objects : ObjectTable) (object : ObjectId) :
    Option ChannelEndpointState :=
  match objects[object]? with
  | some (.channelEndpoint state) => some state
  | _ => none

def ObjectTable.setQueue (objects : ObjectTable) (object : ObjectId)
    (channel : ChannelEndpointState) (queue : MessageQueue) : ObjectTable :=
  objects.insert object (.channelEndpoint { channel with queue := queue })

variable {objects : ObjectTable}

theorem ObjectTable.channelEndpoint_eq_some :
    objects.channelEndpoint object = some channel ↔
      objects[object]? = some (.channelEndpoint channel) := by
  unfold ObjectTable.channelEndpoint
  split <;> simp_all

theorem ObjectTable.channelEndpoint_setQueue (objects : ObjectTable) (object other : ObjectId)
    (channel : ChannelEndpointState) (queue : MessageQueue) :
    (objects.setQueue object channel queue).channelEndpoint other =
      if object = other then some { channel with queue := queue }
      else objects.channelEndpoint other := by
  by_cases same : object = other <;>
    simp [ObjectTable.channelEndpoint, setQueue, ExtTreeMap.getElem?_insert, same]

theorem ObjectTable.setQueue_same (found : objects.channelEndpoint object = some channel) :
    objects.setQueue object channel channel.queue = objects := by
  refine ExtTreeMap.ext_getElem? fun other => ?_
  rw [setQueue, ExtTreeMap.getElem?_insert]
  split
  next same =>
    simp only [compare_eq_iff_eq] at same
    rw [← same, channelEndpoint_eq_some.mp found]
  · rfl

theorem ObjectTable.setQueue_setQueue (objects : ObjectTable) (object : ObjectId)
    (firstChannel secondChannel : ChannelEndpointState) (first second : MessageQueue) :
    (objects.setQueue object firstChannel first).setQueue object secondChannel second =
      objects.setQueue object secondChannel second := by
  refine ExtTreeMap.ext_getElem? fun other => ?_
  simp only [setQueue, ExtTreeMap.getElem?_insert]
  split <;> rfl

end ServiceOS.Ipc
