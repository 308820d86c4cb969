import ServiceOS.Foundation.Loop
import ServiceOS.Network.Ring

/-! # Draining the shared transmit ring

`SharedTxRing::flush` of `network/backend.rs`. The producer of the ring has its pages
mapped, so the counters and slots are whatever it last wrote. -/

namespace ServiceOS.Network

open Loop List PacketRing

inductive PacketInterfaceError
  | queueEmpty
  | bufferTooSmall
  | busy
  | unsupported

/-- A frame on its way to the device, with the slot it was read from as it was then. -/
structure Handover where
  slot : RingSlot
  frame : Octets

/-- A flush under way. `consumed` counts the slots it has retired, and `handed`
records what it gave to the device. -/
structure Flush (slotCount : Nat) (Device : Type) where
  ring : PacketRing slotCount
  device : Device
  transmitted : Nat
  consumed : Nat
  handed : List Handover

variable {slotCount : Nat} [NeZero slotCount]

section

variable (transmit : Device → Octets → Except PacketInterfaceError Unit × Device)
  (produce : Nat → PacketRing slotCount → PacketRing slotCount)

/-- One round of the loop. The producer may write to the ring before the round
reads it and again before the round commits: `produce` has its writes in order. -/
def flushRound (flush : Flush slotCount Device) :
    Flush slotCount Device ⊕ Flush slotCount Device :=
  let ring := produce (2 * flush.consumed) flush.ring
  let later := produce (2 * flush.consumed + 1) ring
  if ring.head ≤ ring.tail then
    .inl { flush with ring := ring }
  else
    match ring.frameLenAt ring.tail with
    | none =>
      .inr { flush with
        ring := later.commitConsumed ring.tail 0
        consumed := flush.consumed + 1 }
    | some length =>
      let frame := ring.copyOut ring.tail length
      let handed := flush.handed ++ [⟨ring.slots (slotOf ring.tail), frame⟩]
      match transmit flush.device frame with
      | (.ok (), device) =>
        .inr { flush with
          ring := later.commitConsumed ring.tail length
          device := device
          transmitted := flush.transmitted + 1
          consumed := flush.consumed + 1
          handed := handed }
      | (.error .bufferTooSmall, device) =>
        .inr { flush with
          ring := later.commitConsumed ring.tail 0
          device := device
          consumed := flush.consumed + 1
          handed := handed }
      | (.error _, device) =>
        .inl { flush with ring := later, device := device, handed := handed }

def beginFlush (ring : PacketRing slotCount) (device : Device) : Flush slotCount Device :=
  ⟨ring, device, 0, 0, []⟩

/-- A call of `flush`, for `fuel` rounds of its loop at most. -/
def flushRing (fuel : Nat) (ring : PacketRing slotCount) (device : Device) :
    Option (Flush slotCount Device) :=
  iterate (flushRound transmit produce) fuel (beginFlush ring device)

end

/-! ## What goes to the device -/

/-- The frame is made of the first bytes of its slot, of one at least and no more than a slot
has. -/
def Handover.FromSlot (handover : Handover) : Prop :=
  ∃ length, 0 < length ∧ length ≤ ringSlotDataBytes ∧
    handover.frame = handover.slot.data.take length

def AllFromSlots (flush : Flush slotCount Device) : Prop :=
  ∀ handover ∈ flush.handed, handover.FromSlot

theorem fromSlot_of_frameLenAt {ring : PacketRing slotCount} {sequence length : Nat}
    (found : ring.frameLenAt sequence = some length) :
    Handover.FromSlot ⟨ring.slots (slotOf sequence), ring.copyOut sequence length⟩ := by
  simp only [frameLenAt, Option.ite_none_left_eq_some, Option.ite_none_right_eq_some,
    Option.some.injEq] at found
  rcases found with ⟨-, ⟨positive, fits⟩, rfl⟩
  exact ⟨_, positive, fits, rfl⟩

section

variable {transmit : Device → Octets → Except PacketInterfaceError Unit × Device}
  {flush : Flush slotCount Device}

theorem allFromSlots_round (all : AllFromSlots flush) :
    AllFromSlots ((flushRound transmit produce flush).elim id id) := by
  rw [flushRound]
  dsimp only
  split
  · exact all
  split
  · exact all
  rename_i found
  have handed := forall_mem_append.mpr
    ⟨all, forall_mem_singleton.mpr (fromSlot_of_frameLenAt found)⟩
  split <;> exact handed

/-! ## A ring that is left alone -/

/-- The slots that a flush has read: those it has retired, and one that the device did not take. -/
def Flush.slotsRead (flush : Flush slotCount Device) : Nat :=
  flush.consumed + if flush.ring.tail < flush.ring.head then 1 else 0

/-- The frames in the slots from a number on. Slots that are not valid are passed over. -/
def PacketRing.frames (ring : PacketRing slotCount) (sequence count : Nat) : List Octets :=
  (range' sequence count).filterMap fun sequence =>
    (ring.frameLenAt sequence).map (ring.copyOut sequence)

theorem frames_succ (ring : PacketRing slotCount) (sequence count : Nat) :
    ring.frames sequence (count + 1) =
      match ring.frameLenAt sequence with
      | none => ring.frames (sequence + 1) count
      | some length => ring.copyOut sequence length :: ring.frames (sequence + 1) count := by
  rw [PacketRing.frames, range'_succ, filterMap_cons]
  cases ring.frameLenAt sequence <;> rfl

/-- The device refuses one of the frames for a reason other than its size. -/
def deviceStops (transmit : Device → Octets → Except PacketInterfaceError Unit × Device) :
    Device → List Octets → Prop
  | _, [] => False
  | device, frame :: frames =>
    match transmit device frame with
    | (.ok (), device) => deviceStops transmit device frames
    | (.error .bufferTooSmall, device) => deviceStops transmit device frames
    | (.error _, _) => True

theorem drained (empty : flush.ring.head ≤ flush.ring.tail) (count : Nat) :
    ∃ final, Loop.iterate (flushRound transmit fun _ ring => ring) (count + 1) flush = some final ∧
      final.slotsRead ≤ flush.consumed + count := by
  have returns : flushRound transmit (fun _ ring => ring) flush = .inl flush := if_pos empty
  refine ⟨flush, by rw [Loop.iterate, returns], ?_⟩
  rw [Flush.slotsRead, if_neg empty.not_gt]
  omega

/-- A round on a slot that is pending retires it, or the device stops the flush there. -/
theorem flushRound_alone (pending : flush.ring.tail < flush.ring.head) :
    (∃ next length, flushRound transmit (fun _ ring => ring) flush = .inr next ∧
        next.consumed = flush.consumed + 1 ∧
        next.ring = flush.ring.commitConsumed flush.ring.tail length ∧ ∀ count,
          deviceStops transmit flush.device (flush.ring.frames flush.ring.tail (count + 1)) ↔
            deviceStops transmit next.device (flush.ring.frames (flush.ring.tail + 1) count)) ∨
      ∃ final, flushRound transmit (fun _ ring => ring) flush = .inl final ∧
        final.slotsRead = flush.consumed + 1 ∧ ∀ count,
          deviceStops transmit flush.device (flush.ring.frames flush.ring.tail (count + 1)) := by
  simp only [flushRound, if_neg pending.not_ge, frames_succ]
  split
  · exact .inl ⟨_, _, rfl, rfl, rfl, fun _ => .rfl⟩
  simp only [deviceStops]
  split
  · exact .inl ⟨_, _, rfl, rfl, rfl, fun _ => .rfl⟩
  · exact .inl ⟨_, _, rfl, rfl, rfl, fun _ => .rfl⟩
  · exact .inr ⟨_, rfl, congrArg _ (if_pos pending), fun _ => trivial⟩

/-- A flush of a ring that is left alone returns after at most `count` more slots if and only if
so many bring the tail up to the head, or the device stops it at one of their frames. -/
theorem drains_iff (count : Nat) (bounded : flush.ring.head < 2 ^ 64) :
    (∃ final, Loop.iterate (flushRound transmit fun _ ring => ring) (count + 1) flush =
        some final ∧ final.slotsRead ≤ flush.consumed + count) ↔
      flush.ring.head ≤ flush.ring.tail + count ∨
        deviceStops transmit flush.device (flush.ring.frames flush.ring.tail count) := by
  induction count generalizing flush with
  | zero =>
    rcases Nat.lt_or_ge flush.ring.tail flush.ring.head with pending | empty
    · apply iff_of_false
      · rintro ⟨final, finished, few⟩
        rcases flushRound_alone pending with ⟨next, length, round, -⟩ | ⟨last, round, reads, -⟩ <;>
          rw [Loop.iterate, round] at finished <;> cases finished
        omega
      · exact not_or.mpr ⟨pending.not_ge, id⟩
    · exact iff_of_true (drained empty 0) (.inl empty)
  | succ count induction =>
    rcases Nat.lt_or_ge flush.ring.tail flush.ring.head with pending | empty
    · rcases flushRound_alone pending with
        ⟨next, length, round, consumed, ring, stops⟩ | ⟨last, round, reads, stops⟩
      · have head : next.ring.head = flush.ring.head := by rw [ring]; rfl
        have tail : next.ring.tail = flush.ring.tail + 1 := by
          rw [ring]
          exact Nat.mod_eq_of_lt (by omega)
        have frames : next.ring.frames = flush.ring.frames := by rw [ring]; rfl
        have rest := @induction next (head ▸ bounded)
        rw [consumed, head, tail, frames, Nat.add_assoc, Nat.add_assoc, Nat.add_comm 1] at rest
        rw [Loop.iterate, round, stops]
        exact rest
      · exact iff_of_true ⟨last, by rw [Loop.iterate, round], by omega⟩ (.inr (stops count))
    · exact iff_of_true (drained empty _) (.inl (by omega))

end

end ServiceOS.Network
