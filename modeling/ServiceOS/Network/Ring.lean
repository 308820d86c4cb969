import ServiceOS.Foundation.ByteString

/-! # The shared packet ring

The ring of `network/ring.rs`: a header with free-running counters and one page
per slot. A frame has a sequence number and lives in the slot of that number
modulo the slot count. Counters are 64-bit and wrap. -/

namespace ServiceOS.Network

def ringSlotDataBytes : Nat := 1536

def ringDefaultSlots : Nat := 16

instance ringDefaultSlots_neZero : NeZero ringDefaultSlots := ⟨by decide⟩

structure RingSlot where
  length : Nat
  data : Octets

/-- The words of the header that change, and the slots. -/
structure PacketRing (slotCount : Nat) where
  head : Nat
  tail : Nat
  framesPushed : Nat
  copiesAvoided : Nat
  bytesSaved : Nat
  dropped : Nat
  slots : Fin slotCount → RingSlot

inductive PushError
  | frameTooLarge

def wrappingAdd (value amount : Nat) : Nat := (value + amount) % 2 ^ 64

/-- Number of frames that are published and not consumed: `head.wrapping_sub(tail)`. -/
def pending (head tail : Nat) : Nat := (head + (2 ^ 64 - tail)) % 2 ^ 64

theorem pending_eq (ordered : tail ≤ head) (bounded : head < 2 ^ 64) :
    pending head tail = head - tail := by
  unfold pending
  omega

variable {slotCount : Nat}

section

variable [NeZero slotCount]

def slotOf (sequence : Nat) : Fin slotCount := Fin.ofNat slotCount sequence

theorem slotOf_ne (before : first < second) (near : second < first + slotCount) :
    (slotOf first : Fin slotCount) ≠ slotOf second := by
  intro same
  have congruent : Nat.ModEq slotCount first second := congrArg Fin.val same
  have divides := (Nat.modEq_iff_dvd' (Nat.le_of_lt before)).mp congruent
  have lap := Nat.le_of_dvd (by omega) divides
  omega

end

namespace PacketRing

variable [NeZero slotCount]

def init : PacketRing slotCount where
  head := 0
  tail := 0
  framesPushed := 0
  copiesAvoided := 0
  bytesSaved := 0
  dropped := 0
  slots _ := ⟨0, List.replicate ringSlotDataBytes 0⟩

/-! ## The consumer's side -/

variable (ring : PacketRing slotCount)

def frameLenAt (sequence : Nat) : Option Nat :=
  if ring.head ≤ sequence then
    none
  else
    let length := (ring.slots (slotOf sequence)).length
    if 0 < length ∧ length ≤ ringSlotDataBytes then some length else none

def copyOut (sequence length : Nat) : Octets :=
  (ring.slots (slotOf sequence)).data.take length

def commitConsumed (sequence length : Nat) : PacketRing slotCount :=
  { ring with
    tail := wrappingAdd sequence 1
    copiesAvoided := wrappingAdd ring.copiesAvoided 1
    bytesSaved := wrappingAdd ring.bytesSaved length }

/-! ## The producer's side -/

def retireOldest : PacketRing slotCount :=
  if slotCount ≤ pending ring.head ring.tail then
    { ring with
      tail := wrappingAdd ring.tail 1
      dropped := wrappingAdd ring.dropped 1 }
  else
    ring

def setSlot (sequence : Nat) (slot : RingSlot) : PacketRing slotCount :=
  { ring with slots := Function.update ring.slots (slotOf sequence) slot }

/-- The closure fills the data of the next slot and reports the length of the
frame. When it fails, the frame that had to make room is gone all the same. -/
def pushFill {ε : Type} (ring : PacketRing slotCount)
    (fill : Octets → Except ε Nat × Octets) :
    Except ε (Option Nat) × PacketRing slotCount :=
  let head := ring.head
  let ring := ring.retireOldest
  let slot := ring.slots (slotOf head)
  match fill slot.data with
  | (.error error, data) => (.error error, ring.setSlot head { slot with data := data })
  | (.ok length, data) =>
    (.ok (some head), { ring.setSlot head ⟨length, data⟩ with
      head := wrappingAdd head 1
      framesPushed := wrappingAdd ring.framesPushed 1 })

def overwrite (written data : Octets) : Octets :=
  written.take data.length ++ data.drop written.length

/-- The answer always has a number, which the source unwraps. -/
def push (frame : Octets) : Except PushError (Option Nat) × PacketRing slotCount :=
  if ringSlotDataBytes < frame.length then
    (.error .frameTooLarge, ring)
  else
    ring.pushFill fun data => (.ok frame.length, overwrite frame data)

/-! ## What retiring does -/

/-- The tail moves past the oldest frame if the ring is full, and there is room
for one more afterwards. -/
theorem retireOldest_cases {ring : PacketRing slotCount} (ordered : ring.tail ≤ ring.head)
    (bounded : ring.head < 2 ^ 64) (near : ring.head ≤ ring.tail + slotCount) :
    (ring.retireOldest = ring ∧ ring.head < ring.tail + slotCount) ∨
      (slotCount ≤ pending ring.head ring.tail ∧ ring.head = ring.tail + slotCount ∧
        ring.retireOldest = { ring with
          tail := ring.tail + 1
          dropped := wrappingAdd ring.dropped 1 }) := by
  have positive := Nat.pos_of_ne_zero (NeZero.ne slotCount)
  have distance := pending_eq ordered bounded
  unfold retireOldest
  split
  next full =>
    have next : wrappingAdd ring.tail 1 = ring.tail + 1 := Nat.mod_eq_of_lt (by omega)
    exact .inr ⟨full, by omega, by rw [next]⟩
  · exact .inl ⟨rfl, by omega⟩

/-! ## A fill that fails -/

/-- When the fill fails, what is published stays as it was if and only if a slot was free. -/
theorem failed_fill_keeps_frames {ε : Type} {ring after : PacketRing slotCount} {error : ε}
    {fill : Octets → Except ε Nat × Octets} (bounded : ring.head < 2 ^ 64)
    (failed : ring.pushFill fill = (.error error, after)) :
    (after.head = ring.head ∧ after.tail = ring.tail ∧
      ∀ sequence, ring.tail ≤ sequence → sequence < ring.head →
        after.slots (slotOf sequence) = ring.slots (slotOf sequence)) ↔
      pending ring.head ring.tail < slotCount := by
  rw [pushFill, retireOldest] at failed
  by_cases full : slotCount ≤ pending ring.head ring.tail
  · rw [if_pos full] at failed
    split at failed <;> cases failed
    refine iff_of_false (fun ⟨_, same, _⟩ => ?_) (Nat.not_lt.mpr full)
    simp only [setSlot, wrappingAdd] at same
    omega
  rw [if_neg full] at failed
  split at failed <;> cases failed
  have room := Nat.lt_of_not_le full
  refine iff_of_true ?_ room
  refine ⟨rfl, rfl, fun sequence above below => Function.update_of_ne ?_ _ _⟩
  have distance := pending_eq (above.trans below.le) bounded
  exact slotOf_ne below (by omega)

theorem failed_fill_keeps_frames_of_one :
    ∃ ring after : PacketRing ringDefaultSlots,
      ring = (init.push [7]).2 ∧
      ring.pushFill (fun data => (.error (), data)) = (.error (), after) ∧
      after.tail = ring.tail ∧ after.slots (slotOf 0) = ring.slots (slotOf 0) := by
  refine ⟨_, _, rfl, rfl, ?_⟩
  have kept := @failed_fill_keeps_frames ringDefaultSlots _ Unit (init.push [7]).2 _ ()
    (fun data => (.error (), data)) (by decide +kernel) rfl
  have kept := kept.mpr (by decide +kernel)
  exact ⟨kept.2.1, kept.2.2 0 (by decide +kernel) (by decide +kernel)⟩

/-- The driver has nothing to receive, and the full ring loses its oldest frame. -/
theorem failed_fill_retires_frame :
    ∃ ring after : PacketRing ringDefaultSlots,
      ring = (List.range ringDefaultSlots).foldl (fun ring n => (ring.push [.ofNat n]).2) init ∧
      ring.pushFill (fun data => (.error (), data)) = (.error (), after) ∧
      ring.tail < ring.head ∧ after.tail = ring.tail + 1 :=
  ⟨_, _, rfl, rfl, by decide +kernel, by decide +kernel⟩

end PacketRing
end ServiceOS.Network
