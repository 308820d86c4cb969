import ServiceOS.Capability.HandleHistory
import ServiceOS.Ipc.Kernel

/-! # Capability spaces joined by channels

The whole message-passing system: any number of capability spaces, a table of
kernel objects, and every operation that touches either. The logs record what
the kernel installed and what was sent and received; no operation reads them. -/

namespace ServiceOS.Ipc

open Capability Execution Function

/-- A message as it was handed to a receiver, with what its handles named in
the receiver's space. -/
structure Reception where
  message : ReceivedMessage
  capabilities : List (Option CapabilityEntry)
  replyEndpoint : Option (Option CapabilityEntry)

def Reception.observe (space : CapabilitySpace) (message : ReceivedMessage) : Reception :=
  ⟨message, message.transferredCapabilities.map (space.entries[·]?),
    message.replyEndpoint.map (space.entries[·]?)⟩

structure System where
  spaces : Nat → CapabilitySpace
  objects : ObjectTable
  nextObject : ObjectId
  /-- Prepared transfers can be cloned, so none ever leaves the list. -/
  prepared : List PreparedTransfer
  installed : List CapabilityEntry
  /-- Envelopes accepted for an endpoint, oldest first. -/
  sent : ObjectId → List MessageEnvelope
  /-- Messages received from an endpoint, oldest first. -/
  received : ObjectId → List Reception

inductive Action
  | capability (space : Nat) (operation : Operation)
  | createChannelPair
  | createObject (kind : ObjectKind)
  | dropObject (object : ObjectId)
  | send (space : Nat) (endpoint : CapabilityHandle) (message : OutgoingMessage)
  | receive (space : Nat) (endpoint : CapabilityHandle)

namespace System

def new : System where
  spaces _ := .new
  objects := ∅
  nextObject := 1
  prepared := []
  installed := []
  sent _ := []
  received _ := []

variable (system : System)

def setSpace (space : Nat) (after : CapabilitySpace) : System :=
  { system with spaces := update system.spaces space after }

def installedBy : Operation → Answer → List CapabilityEntry
  | .install object rights badge, .handle (.ok _) => [⟨object, rights, badge⟩]
  | _, _ => []

def transfersOf : Operation → List PreparedTransfer
  | .rollbackMoved transfer | .acceptTransfer transfer => [transfer]
  | _ => []

def capability (space : Nat) (operation : Operation) : System :=
  match (system.spaces space).perform operation with
  | (answer, after) =>
    { system.setSpace space after with
      prepared := History.preparedBy answer ++ system.prepared
      installed := installedBy operation answer ++ system.installed }

def createObject (object : KernelObject) : System :=
  { system with
    objects := system.objects.insert system.nextObject object
    nextObject := system.nextObject + 1 }

/-- Two endpoints with empty queues, each the other's peer. -/
def createChannelPair : System :=
  let first := system.nextObject
  let second := system.nextObject + 1
  (system.createObject (.channelEndpoint ⟨some second, .new⟩)).createObject
    (.channelEndpoint ⟨some first, .new⟩)

def dropObject (object : ObjectId) : System :=
  { system with objects := system.objects.erase object }

def send (system : System) (space : Nat) (endpoint : CapabilityHandle)
    (message : OutgoingMessage) : System :=
  match Ipc.send system.objects (system.spaces space) endpoint message with
  | (.ok receipt, objects, after) =>
    { system.setSpace space after with
      objects := objects
      sent := update system.sent receipt.peer
        (system.sent receipt.peer ++ [message.toMessageEnvelope]) }
  | (.error _, objects, after) => { system.setSpace space after with objects := objects }

def receive (system : System) (space : Nat) (endpoint : CapabilityHandle) : System :=
  match Ipc.receive system.objects (system.spaces space) endpoint,
      (system.spaces space).entries[endpoint]? with
  | (.ok message, objects, after), some entry =>
    { system.setSpace space after with
      objects := objects
      received := update system.received entry.object
        (system.received entry.object ++ [.observe after message]) }
  | (_, objects, after), _ => { system.setSpace space after with objects := objects }

/-- Attached, accepted and rolled back transfers are ones some space prepared. -/
def step : Action → Option System
  | .capability space operation =>
    if ∀ transfer ∈ transfersOf operation, transfer ∈ system.prepared then
      some (system.capability space operation)
    else none
  | .createChannelPair => some system.createChannelPair
  | .createObject kind => some (system.createObject (.other kind))
  | .dropObject object => some (system.dropObject object)
  | .send space endpoint message =>
    if ∀ transfer ∈ message.transfers, transfer ∈ system.prepared then
      some (system.send space endpoint message)
    else none
  | .receive space endpoint => some (system.receive space endpoint)

/-! ## The two message actions -/

theorem send_cases (system : System) (space : Nat) (endpoint : CapabilityHandle)
    (message : OutgoingMessage) :
    (∃ peer peerChannel queue, system.objects.channelEndpoint peer = some peerChannel ∧
        queue.toList = peerChannel.queue.toList ++ [message.toMessageEnvelope] ∧
        system.send space endpoint message =
          { system.setSpace space (system.spaces space) with
            objects := system.objects.setQueue peer peerChannel queue
            sent := update system.sent peer
              (system.sent peer ++ [message.toMessageEnvelope]) }) ∨
      system.send space endpoint message =
        system.setSpace space (rollbackAll (system.spaces space) message.movedTransfers) := by
  rcases call : Ipc.send system.objects (system.spaces space) endpoint message with
    ⟨answer, objects, after⟩
  rcases Ipc.send_cases call with
    ⟨peer, peerChannel, queue, found, pushed, rfl, rfl, rfl⟩ | ⟨⟨error, rfl⟩, rfl, rfl⟩
  · rcases Ring.pushBack_cases pushed with ⟨-, full⟩ | ⟨-, _, same, held⟩
    · cases full
    cases same
    exact .inl ⟨peer, peerChannel, queue, found, held, by rw [send, call]⟩
  · exact .inr (by rw [send, call]; rfl)

theorem receive_cases (system : System) (space : Nat) (endpoint : CapabilityHandle) :
    (∃ object channel envelope queue,
        system.objects.channelEndpoint object = some channel ∧
        channel.queue.toList = envelope :: queue.toList ∧
        system.receive space endpoint =
          let after := (system.spaces space).issueAll
            (envelope.transfers.map PreparedTransfer.entry)
          { system.setSpace space after with
            objects := system.objects.setQueue object channel queue
            received := update system.received object
              (system.received object ++
                [.observe after (envelope.receivedIn (system.spaces space))]) }) ∨
      (∃ accepted, system.receive space endpoint =
          system.setSpace space (partialInstall (system.spaces space) accepted) ∧
        ∀ transfer ∈ accepted, ∃ object channel envelope,
          system.objects.channelEndpoint object = some channel ∧
          envelope ∈ channel.queue.toList ∧ transfer ∈ envelope.transfers) := by
  rcases call : Ipc.receive system.objects (system.spaces space) endpoint with
    ⟨answer, objects, after⟩
  rcases Ipc.receive_cases call with
    ⟨entry, channel, envelope, queue, present, found, held, rfl, rfl, rfl⟩ |
    ⟨error, accepted, rfl, rfl, rfl, queued⟩
  · exact .inl ⟨entry.object, channel, envelope, queue, found, held,
      by simp only [receive, call, present]⟩
  · exact .inr ⟨accepted, by rw [receive, call]; rfl, queued⟩

end System

end ServiceOS.Ipc
