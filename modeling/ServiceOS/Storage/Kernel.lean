import ServiceOS.Foundation.Word
import ServiceOS.Storage.Types

/-! # What the kernel keeps for the service

Memory objects and the block device, as the system calls of the service use them.
A request for memory or for a channel is granted; a device may stop taking
writes. -/

namespace ServiceOS.Storage

open List

/-! ## Memory objects -/

/-- `next` is above every handle given out. `requested` records the sizes asked for. -/
structure Memory where
  objects : Handle → Option Octets
  next : Handle
  requested : List Nat
  positive : 0 < next
  unused : ∀ handle, next ≤ handle → objects handle = none

namespace Memory

def overwrite (bytes : Octets) (offset : Nat) (source : Octets) : Octets :=
  bytes.take offset ++ source.take (bytes.length - offset) ++ bytes.drop (offset + source.length)

variable (memory : Memory)

def takeHandle : Handle × Memory :=
  (memory.next, { memory with
    next := memory.next + 1
    positive := Nat.succ_pos _
    unused := fun handle above => memory.unused handle (Nat.le_of_succ_le above) })

def create (size : Nat) : Handle × Memory :=
  (memory.next, { memory with
    objects := fun handle =>
      if handle = memory.next then some (replicate size 0) else memory.objects handle
    next := memory.next + 1
    requested := memory.requested ++ [size]
    positive := Nat.succ_pos _
    unused := fun handle above => by
      rw [if_neg (Nat.ne_of_gt above)]
      exact memory.unused handle (Nat.le_of_succ_le above) })

def read (handle : Handle) (offset length : Nat) : Option Octets :=
  (memory.objects handle).map fun bytes => (bytes.drop offset).take length

def write (handle : Handle) (offset : Nat) (source : Octets) : Memory :=
  { memory with
    objects := fun other =>
      if other = handle then (memory.objects handle).map (overwrite · offset source)
      else memory.objects other
    unused := fun other above => by
      split
      next same =>
        rw [← same, memory.unused other above]
        rfl
      · exact memory.unused other above }

def close (handle : Handle) : Memory :=
  { memory with
    objects := fun other => if other = handle then none else memory.objects other
    unused := fun other above => by
      split
      · rfl
      · exact memory.unused other above }

theorem objects_create_self (memory : Memory) (size : Nat) :
    (memory.create size).2.objects memory.next = some (replicate size 0) := if_pos rfl

theorem objects_write_self (memory : Memory) (handle : Handle) (offset : Nat)
    (source : Octets) : (memory.write handle offset source).objects handle =
      (memory.objects handle).map (overwrite · offset source) := if_pos rfl

theorem objects_write_ne (memory : Memory) (different : other ≠ handle) (offset : Nat)
    (source : Octets) :
    (memory.write handle offset source).objects other = memory.objects other := if_neg different

theorem objects_close_ne (memory : Memory) (different : other ≠ handle) :
    (memory.close handle).objects other = memory.objects other := if_neg different

theorem length_overwrite (bytes : Octets) (offset : Nat) (source : Octets) :
    (overwrite bytes offset source).length = bytes.length := by
  rw [overwrite, length_append, length_append, length_take, length_take, length_drop]
  omega

end Memory

/-! ## The block device -/

/-- `writesLeft` says how many blocks the device still takes if it is about to fail.
`blocksRead` records the blocks that were read. -/
structure Device where
  virtioPci : Bool
  writable : Bool
  blockSize : Nat
  blockCount : Nat
  blocks : Nat → Octets
  writesLeft : Option Nat
  blocksRead : List Nat
  sized : ∀ index, (blocks index).length = blockSize

namespace Device

/-- Read a block into a buffer of `length` bytes. The service only asks for whole
single blocks. -/
def readBlock (device : Device) (index length : Nat) : Except Error Octets × Device :=
  if length = 0 ∨ length ≠ device.blockSize then
    (.error .bufferTooSmall, device)
  else if device.blockCount ≤ index then
    (.error .invalidArgument, device)
  else
    (.ok (device.blocks index), { device with blocksRead := device.blocksRead ++ [index] })

def writeBlock (device : Device) (index : Nat) (bytes : Octets) : Except Error Unit × Device :=
  if !device.writable then
    (.error .permissionDenied, device)
  else if whole : bytes ≠ [] ∧ bytes.length = device.blockSize then
    if device.blockCount ≤ index then
      (.error .invalidArgument, device)
    else if device.writesLeft = some 0 then
      (.error .busy, device)
    else
      (.ok (), { device with
        blocks := fun other => if other = index then bytes else device.blocks other
        writesLeft := device.writesLeft.map (· - 1)
        sized := fun other => by
          split
          · exact whole.2
          · exact device.sized other })
  else
    (.error .bufferTooSmall, device)

end Device

end ServiceOS.Storage
