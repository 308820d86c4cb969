import ServiceOS.Capability.HandleHistory
import ServiceOS.Ipc.Kernel

/-! # Receives that race with sends

The queue of one endpoint as several threads see it. A receive pops under the
endpoint's lock, installs the capabilities under the locks of its space, and
only when that fails takes the endpoint's lock again to put the envelope back.
Anything may happen between these sections. -/

namespace ServiceOS.Ipc

open Capability Execution CapabilitySpace List

/-- An accepted envelope. Envelopes may be equal, so each has a ticket. -/
structure Accepted where
  ticket : Nat
  envelope : MessageEnvelope
deriving DecidableEq

/-- A receive between its `pop_front` and its return. -/
structure InProgress where
  thread : Nat
  space : Nat
  message : Accepted
  /-- The install has failed and the envelope is to be put back. -/
  refused : Bool
deriving DecidableEq

structure ConcurrentChannel where
  queue : Ring Accepted maxQueuedMessagesPerEndpoint
  hands : List InProgress
  delivered : List Accepted
  accepted : List Accepted
  spaces : Nat → CapabilitySpace

inductive Section
  | send (envelope : MessageEnvelope)
  | pop (thread space : Nat)
  | install (thread : Nat)
  | putBack (thread : Nat)
  | capability (space : Nat) (operation : Operation)

namespace ConcurrentChannel

theorem capacity_pos : 0 < maxQueuedMessagesPerEndpoint := by decide

def start (spaces : Nat → CapabilitySpace) : ConcurrentChannel where
  queue := Ring.empty capacity_pos
  hands := []
  delivered := []
  accepted := []
  spaces := spaces

variable (channel : ConcurrentChannel)

def hand (thread : Nat) : Option InProgress :=
  channel.hands.find? (·.thread = thread)

def setSpace (space : Nat) (after : CapabilitySpace) : ConcurrentChannel :=
  { channel with spaces := Function.update channel.spaces space after }

/-- The locked section of `enqueue`; a full queue refuses the message. -/
def send (envelope : MessageEnvelope) : ConcurrentChannel :=
  let message := ⟨channel.accepted.length, envelope⟩
  match channel.queue.pushBack message with
  | .ok queue => { channel with queue := queue, accepted := message :: channel.accepted }
  | .error _ => channel

def pop (thread space : Nat) : ConcurrentChannel :=
  match channel.queue.popFront with
  | (none, _) => channel
  | (some message, queue) =>
    { channel with queue := queue, hands := ⟨thread, space, message, false⟩ :: channel.hands }

def install (hand : InProgress) : ConcurrentChannel :=
  match installTransferredCapabilities (channel.spaces hand.space) hand.message.envelope with
  | (.ok _, after) =>
    { channel.setSpace hand.space after with
      hands := channel.hands.erase hand
      delivered := hand.message :: channel.delivered }
  | (.error _, after) =>
    { channel.setSpace hand.space after with
      hands := { hand with refused := true } :: channel.hands.erase hand }

/-- `push_front(message).ok()`: what a full queue hands back is dropped. -/
def putBack (hand : InProgress) : ConcurrentChannel :=
  match channel.queue.pushFront hand.message with
  | .ok queue => { channel with queue := queue, hands := channel.hands.erase hand }
  | .error _ => { channel with hands := channel.hands.erase hand }

/-- A thread has at most one receive in progress. -/
def step : Section → Option ConcurrentChannel
  | .send envelope => some (channel.send envelope)
  | .pop thread space =>
    if (channel.hand thread).isNone then some (channel.pop thread space) else none
  | .install thread =>
    match channel.hand thread with
    | some hand => if hand.refused then none else some (channel.install hand)
    | none => none
  | .putBack thread =>
    match channel.hand thread with
    | some hand => if hand.refused then some (channel.putBack hand) else none
    | none => none
  | .capability space operation =>
    some (channel.setSpace space ((channel.spaces space).perform operation).2)

def places : List Accepted :=
  channel.queue.toList ++ channel.hands.map InProgress.message ++ channel.delivered

/-- Every accepted envelope is in exactly one place, and nothing else is. -/
structure Conserved (channel : ConcurrentChannel) : Prop where
  kept : channel.places.Perm channel.accepted
  tickets : channel.accepted.map Accepted.ticket = (range channel.accepted.length).reverse

/-- A put-back finds room. Senders may have used the slot its pop made free. -/
def PutBackFits : Section → Prop
  | .putBack _ => channel.queue.len < maxQueuedMessagesPerEndpoint
  | _ => True

instance (channel : ConcurrentChannel) (action : Section) :
    Decidable (channel.PutBackFits action) :=
  match action with
  | .putBack _ => inferInstanceAs (Decidable (_ < _))
  | .send _ | .pop _ _ | .install _ | .capability _ _ => .isTrue trivial

variable {channel next : ConcurrentChannel} {hand : InProgress}

theorem mem_of_hand (found : channel.hand thread = some hand) : hand ∈ channel.hands :=
  mem_of_find?_eq_some found

theorem map_message_perm (member : hand ∈ channel.hands) :
    (channel.hands.map InProgress.message).Perm
      (hand.message :: (channel.hands.erase hand).map InProgress.message) :=
  (perm_cons_erase member).map _

namespace Conserved

theorem start (spaces : Nat → CapabilitySpace) : (start spaces).Conserved :=
  ⟨.nil, rfl⟩

section

variable (conserved : channel.Conserved)

include conserved

theorem send (envelope : MessageEnvelope) : (channel.send envelope).Conserved := by
  rcases call : channel.queue.pushBack ⟨channel.accepted.length, envelope⟩ with _ | queue
  · simpa only [ConcurrentChannel.send, call] using conserved
  rcases Ring.pushBack_cases call with ⟨-, full⟩ | ⟨-, _, same, held⟩
  · cases full
  cases same
  simp only [ConcurrentChannel.send, call]
  refine ⟨?_, ?_⟩
  · simp only [places, held, append_assoc, singleton_append]
    refine perm_middle.trans (.cons _ ?_)
    simpa [places] using conserved.kept
  · simp [conserved.tickets, range_succ]

theorem pop (thread space : Nat) : (channel.pop thread space).Conserved := by
  rcases call : channel.queue.popFront with ⟨_ | message, queue⟩
  · simpa only [ConcurrentChannel.pop, call] using conserved
  rcases Ring.popFront_cases call with ⟨-, absent, -⟩ | ⟨_, same, held, -⟩
  · cases absent
  cases same
  simp only [ConcurrentChannel.pop, call]
  refine ⟨.trans ?_ conserved.kept, conserved.tickets⟩
  simp only [places, held, map_cons, cons_append, append_assoc]
  exact perm_middle

theorem install (member : hand ∈ channel.hands) : (channel.install hand).Conserved := by
  have split := map_message_perm member
  rcases call : installTransferredCapabilities (channel.spaces hand.space)
    hand.message.envelope with ⟨_ | _, after⟩
  · simp only [ConcurrentChannel.install, call]
    refine ⟨.trans ?_ conserved.kept, conserved.tickets⟩
    exact (split.symm.append_left _).append_right _
  simp only [ConcurrentChannel.install, call]
  refine ⟨.trans ?_ conserved.kept, conserved.tickets⟩
  refine .trans ?_ ((split.symm.append_left _).append_right _)
  simp only [places, setSpace, append_assoc, cons_append]
  exact perm_middle.append_left _

theorem putBack (member : hand ∈ channel.hands)
    (room : channel.queue.len < maxQueuedMessagesPerEndpoint) :
    (channel.putBack hand).Conserved ∧
      (channel.putBack hand).queue.toList = hand.message :: channel.queue.toList := by
  rcases Ring.pushFront_cases (rfl : channel.queue.pushFront hand.message = _) with
    ⟨full, -⟩ | ⟨-, queue, call, held⟩
  · exact absurd full (Nat.ne_of_lt room)
  simp only [ConcurrentChannel.putBack, call]
  refine ⟨⟨.trans ?_ conserved.kept, conserved.tickets⟩, held⟩
  refine .trans ?_ (((map_message_perm member).symm.append_left _).append_right _)
  simp only [places, held, append_assoc, cons_append]
  exact perm_middle.symm

end

theorem step (taken : channel.step action = some next) (fits : channel.PutBackFits action)
    (conserved : channel.Conserved) : next.Conserved := by
  cases action with
  | send envelope =>
    cases taken
    exact conserved.send envelope
  | pop thread space =>
    rcases Option.ite_none_right_eq_some.mp taken with ⟨-, taken⟩
    cases taken
    exact conserved.pop thread space
  | install =>
    simp only [ConcurrentChannel.step] at taken
    split at taken
    next found =>
      rcases Option.ite_none_left_eq_some.mp taken with ⟨-, taken⟩
      cases taken
      exact conserved.install (mem_of_hand found)
    · cases taken
  | putBack =>
    simp only [ConcurrentChannel.step] at taken
    split at taken
    next found =>
      rcases Option.ite_none_right_eq_some.mp taken with ⟨-, taken⟩
      cases taken
      exact (conserved.putBack (mem_of_hand found) fits).1
    · cases taken
  | capability =>
    cases taken
    exact ⟨conserved.kept, conserved.tickets⟩

end Conserved

/-- In every run whose put-backs all find room, the accepted envelopes are, each
once, in the queue, in the hands of a receive or delivered; and a put-back
leaves the envelope at the front of the queue. -/
theorem accepted_messages_kept {spaces : Nat → CapabilitySpace} {sections : List Section}
    (execution : run step (start spaces) sections = some channel)
    (fits : EveryStep step PutBackFits (start spaces) sections) :
    channel.places.Perm channel.accepted ∧ (channel.places.map Accepted.ticket).Nodup ∧
      ∀ thread hand, channel.hand thread = some hand → hand.refused = true →
        channel.PutBackFits (.putBack thread) →
        ∃ after, channel.step (.putBack thread) = some after ∧
          after.queue.toList = hand.message :: channel.queue.toList := by
  have conserved : channel.Conserved :=
    everyStep_preserves Conserved PutBackFits Conserved.step execution fits
      (Conserved.start spaces)
  refine ⟨conserved.kept, ?_, fun thread hand found refused room => ?_⟩
  · rw [(conserved.kept.map Accepted.ticket).nodup_iff, conserved.tickets]
    exact nodup_reverse.mpr nodup_range
  · refine ⟨channel.putBack hand, ?_, (conserved.putBack (mem_of_hand found) room).2⟩
    simp only [step, found, refused, if_true]

def carrying : MessageEnvelope :=
  ⟨1, [], [copiedTransfer ⟨7, .memoryObject, none⟩ .read], none, none, by decide, by decide⟩

def exhausted : CapabilitySpace := ⟨4294967294 + 1, ∅⟩

def plain : MessageEnvelope := ⟨2, [], [], none, none, by decide, by decide⟩

/-- A receive that fails and puts its envelope back in time. -/
def putBackInTime : List Section :=
  [.send carrying, .pop 0 0, .send plain, .install 0, .putBack 0]

theorem accepted_messages_kept_when_put_back :
    ∃ channel, run step (start fun _ => exhausted) putBackInTime = some channel ∧
      channel.hands = [] ∧ channel.queue.toList = [⟨0, carrying⟩, ⟨1, plain⟩] ∧
      channel.places.Perm channel.accepted :=
  ⟨_, rfl, by decide +kernel, by decide +kernel,
    (accepted_messages_kept
      (rfl : run step (start fun _ => exhausted) putBackInTime = some _) (by decide +kernel)).1⟩

/-! ## A slot taken between pop and put-back -/

/-- Installing and closing again moves the counter of an empty space on. -/
theorem exists_empty_space (count : Nat) (bound : count + 1 < 2 ^ 32) :
    ∃ operations history, run History.step History.new operations = some history ∧
      history.space = ⟨count + 1, ∅⟩ := by
  induction count with
  | zero => exact ⟨[], History.new, rfl, rfl⟩
  | succ count induction =>
    rcases induction (by omega) with ⟨operations, history, reached, space⟩
    have possible : history.space.CanIssue := by rw [space]; exact bound
    refine ⟨operations ++ [.install 1 .none none, .close (count + 1)], _,
      by rw [run_append, reached]; rfl, ?_⟩
    change ((history.space.install 1 .none none).2.close (count + 1)).2 = _
    rw [install_of_canIssue possible, space]
    simp [issue, close, removeEntry, Std.ExtTreeMap.size_insert]

/-- A full queue, a pop, a send that takes the free slot, and the put-back. -/
def overtakenPutBack : List Section :=
  .send carrying :: replicate 63 (.send plain) ++ [.pop 0 0, .send plain, .install 0, .putBack 0]

/-- The receiver's handle counter is used up, so its receive fails; the sender
in between has filled the queue, and the first envelope is nowhere. -/
theorem accepted_message_lost :
    ∃ operations history channel, run History.step History.new operations = some history ∧
      run step (start fun _ => history.space) overtakenPutBack = some channel ∧
      ⟨0, carrying⟩ ∈ channel.accepted ∧ ⟨0, carrying⟩ ∉ channel.places := by
  rcases exists_empty_space 4294967294 (by decide) with ⟨operations, history, reached, space⟩
  have lost : (run step (start fun _ => exhausted) overtakenPutBack).any
      (fun channel => ⟨0, carrying⟩ ∈ channel.accepted ∧ ⟨0, carrying⟩ ∉ channel.places) =
        true := by
    decide +kernel
  rcases (Option.any_eq_true _ _).mp lost with ⟨channel, execution, found⟩
  refine ⟨operations, history, channel, reached, ?_, of_decide_eq_true found⟩
  rw [space]
  exact execution

end ConcurrentChannel

end ServiceOS.Ipc
