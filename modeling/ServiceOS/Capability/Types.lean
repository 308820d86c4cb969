import ServiceOS.Object.Types

/-! # Capability values

Rights words, prepared transfers and errors of `capability/types.rs`. -/

namespace ServiceOS.Capability

/-- `CapabilityHandle(u32)`; the width is enforced where handles are allocated. -/
abbrev CapabilityHandle := Nat

/-- `CapabilityRights(u64)`, one bit a right. -/
structure CapabilityRights where
  bits : UInt64
deriving DecidableEq

namespace CapabilityRights

def none : CapabilityRights := ⟨0⟩
def read : CapabilityRights := ⟨(1 : UInt64) <<< 0⟩
def write : CapabilityRights := ⟨(1 : UInt64) <<< 1⟩
def map : CapabilityRights := ⟨(1 : UInt64) <<< 2⟩
def wait : CapabilityRights := ⟨(1 : UInt64) <<< 4⟩
def send : CapabilityRights := ⟨(1 : UInt64) <<< 5⟩
def receive : CapabilityRights := ⟨(1 : UInt64) <<< 6⟩
def duplicate : CapabilityRights := ⟨(1 : UInt64) <<< 7⟩
def transfer : CapabilityRights := ⟨(1 : UInt64) <<< 8⟩
def manage : CapabilityRights := ⟨(1 : UInt64) <<< 9⟩

variable (self other : CapabilityRights)

def union : CapabilityRights := ⟨self.bits ||| other.bits⟩

def contains : Bool := (self.bits &&& other.bits) == other.bits

def task : CapabilityRights :=
  read.union write |>.union wait |>.union manage |>.union duplicate |>.union transfer

def bootstrap : CapabilityRights := manage

def channelEndpoint : CapabilityRights :=
  read.union write |>.union wait |>.union send |>.union receive |>.union duplicate
    |>.union transfer

def memoryObject : CapabilityRights :=
  read.union write |>.union map |>.union duplicate |>.union transfer

/-! Containment is the order authority can only descend in. -/

theorem contains_iff : self.contains other = true ↔ self.bits &&& other.bits = other.bits := by
  simp [contains]

@[simp] theorem contains_self (rights : CapabilityRights) : rights.contains rights = true := by
  simp [contains_iff]

theorem contains_trans {first : CapabilityRights}
    (outer : first.contains second = true) (inner : second.contains third = true) :
    first.contains third = true := by
  rw [contains_iff] at outer inner ⊢
  rw [← inner, ← UInt64.and_assoc, outer]

end CapabilityRights

inductive CapabilityError
  | invalidHandle
  | handleSpaceExhausted
  | rightsViolation (required actual : CapabilityRights)
  | requestedRightsExceedSource
  | duplicateForbidden
  | transferForbidden

inductive TransferMode
  | move
  | copy
deriving DecidableEq

abbrev Badge := Option UInt64

structure CapabilityDescriptor where
  handle : CapabilityHandle
  object : ObjectId
  rights : CapabilityRights
  badge : Badge

structure CapabilityView where
  handle : CapabilityHandle
  object : ObjectId
  rights : CapabilityRights
  badge : Badge

/-- A capability on its way between spaces. A `move` also records the handle it
removed from the sender and what that handle carried, so that a failed
operation can put it back. -/
structure PreparedTransfer where
  object : ObjectId
  rights : CapabilityRights
  badge : Badge
  movedSource : Option CapabilityHandle
  movedSourceRights : Option CapabilityRights
  movedSourceBadge : Option Badge
deriving DecidableEq

end ServiceOS.Capability
