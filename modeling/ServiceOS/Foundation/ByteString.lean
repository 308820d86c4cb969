import Mathlib

/-! # Byte strings

Ranges of a byte string, the numbers stored in it, byte strings of a fixed length
and keystreams. -/

abbrev ServiceOS.Octets : Type := List UInt8

namespace ServiceOS.ByteString

open List

/-- The bytes from `start` on, when there are `length` of them. -/
def slice (bytes : Octets) (start length : Nat) : Option Octets :=
  if start + length ≤ bytes.length then some ((bytes.drop start).take length) else none

def fromLittleEndian : Octets → Nat
  | [] => 0
  | byte :: rest => byte.toNat + 256 * fromLittleEndian rest

def toLittleEndian : (width value : Nat) → Octets
  | 0, _ => []
  | width + 1, value => .ofNat value :: toLittleEndian width (value / 256)

theorem length_toLittleEndian (width value : Nat) :
    (toLittleEndian width value).length = width := by
  induction width generalizing value with
  | zero => rfl
  | succ width induction => rw [toLittleEndian, length_cons, induction]

variable {value width length base : Nat}

theorem fromLittleEndian_toLittleEndian (fits : value < 256 ^ width) :
    fromLittleEndian (toLittleEndian width value) = value := by
  induction width generalizing value with
  | zero => exact (Nat.lt_one_iff.mp fits).symm
  | succ width induction =>
    have rest : value / 256 < 256 ^ width := by
      omega
    rw [toLittleEndian, fromLittleEndian, induction rest, UInt8.toNat_ofNat']
    omega

def fromBigEndian (bytes : Octets) : Nat := fromLittleEndian bytes.reverse

def toBigEndian (width value : Nat) : Octets := (toLittleEndian width value).reverse

@[simp] theorem length_toBigEndian (width value : Nat) :
    (toBigEndian width value).length = width := by
  rw [toBigEndian, length_reverse, length_toLittleEndian]

theorem fromBigEndian_toBigEndian (fits : value < 256 ^ width) :
    fromBigEndian (toBigEndian width value) = value := by
  rw [fromBigEndian, toBigEndian, reverse_reverse, fromLittleEndian_toLittleEndian fits]

def ascii (text : String) : Octets := text.toList.map fun character => .ofNat character.toNat

/-! ## Fixed lengths -/

abbrev Bytes (length : Nat) : Type := { bytes : Octets // bytes.length = length }

namespace Bytes

def zero (length : Nat) : Bytes length := ⟨replicate length 0, length_replicate⟩

def ofList (length : Nat) (bytes : Octets) : Option (Bytes length) :=
  if exact : bytes.length = length then some ⟨bytes, exact⟩ else none

def append {first second : Nat} (front : Bytes first) (back : Bytes second) :
    Bytes (first + second) :=
  ⟨front.val ++ back.val, by rw [length_append, front.property, back.property]⟩

def takeFirst (first second : Nat) (bytes : Bytes (first + second)) : Bytes first :=
  ⟨bytes.val.take first, by rw [length_take, bytes.property]; omega⟩

def dropFirst (first second : Nat) (bytes : Bytes (first + second)) : Bytes second :=
  ⟨bytes.val.drop first, by rw [length_drop, bytes.property]; omega⟩

end Bytes

/-! ## Bounded lengths -/

abbrev AtMost (capacity : Nat) : Type := { bytes : Octets // bytes.length ≤ capacity }

def AtMost.ofList? (capacity : Nat) (bytes : Octets) : Option (AtMost capacity) :=
  if fits : bytes.length ≤ capacity then some ⟨bytes, fits⟩ else none

theorem AtMost.ofList?_eq_some : ofList? capacity bytes = some buffer ↔ buffer.val = bytes := by
  rw [ofList?]
  constructor
  · intro made
    split at made <;> cases made
    rfl
  intro same
  cases same
  exact dif_pos buffer.property

/-! ## Keystreams -/

/-- Bytes combined with a keystream, from a position of it on. -/
def mask (keystream : Nat → UInt8) : (position : Nat) → Octets → Octets
  | _, [] => []
  | position, byte :: rest => (byte ^^^ keystream position) :: mask keystream (position + 1) rest

@[simp] theorem length_mask (keystream : Nat → UInt8) (position : Nat) (bytes : Octets) :
    (mask keystream position bytes).length = bytes.length := by
  induction bytes generalizing position with
  | nil => rfl
  | cons byte rest induction => rw [mask, length_cons, induction, length_cons]

@[simp] theorem mask_mask (keystream : Nat → UInt8) (position : Nat) (bytes : Octets) :
    mask keystream position (mask keystream position bytes) = bytes := by
  induction bytes generalizing position with
  | nil => rfl
  | cons byte rest induction =>
    rw [mask, mask, induction, UInt8.xor_assoc, UInt8.xor_self, UInt8.xor_zero]

/-! ## Memories -/

def load (memory : Nat → UInt8) (base length : Nat) : Octets :=
  (range length).map fun offset => memory (base + offset)

section

variable (memory : Nat → UInt8)

@[simp] theorem length_load (base length : Nat) : (load memory base length).length = length := by
  rw [load, length_map, length_range]

/-- A memory after `bytes` were written from `base` on. -/
def store (memory : Nat → UInt8) (base : Nat) (bytes : Octets) : Nat → UInt8 := fun address =>
  if base ≤ address then bytes[address - base]?.getD (memory address) else memory address

theorem store_outside (outside : address < base ∨ base + bytes.length ≤ address) :
    store memory base bytes address = memory address := by
  rcases outside with below | above
  · exact if_neg (Nat.not_le.mpr below)
  · have beyond : bytes.length ≤ address - base := by omega
    rw [store, getElem?_eq_none beyond, Option.getD_none, ite_self]

theorem store_inside (inside : offset < bytes.length) :
    store memory base bytes (base + offset) = bytes[offset] := by
  rw [store, if_pos (Nat.le_add_right base offset), Nat.add_sub_cancel_left,
    getElem?_eq_getElem inside, Option.getD_some]

end

end ServiceOS.ByteString
