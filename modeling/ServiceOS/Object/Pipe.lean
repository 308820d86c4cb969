import ServiceOS.Foundation.ByteString
import ServiceOS.Foundation.Execution

/-! # Pipes

The bounded byte stream of `object/objects.rs`: a circular buffer, and how many
readers and writers there are. -/

namespace ServiceOS.Object

open ByteString Execution List

def pipeBufferBytes : Nat := 64 * 1024

/-- What a read copies out comes with the answer. -/
inductive PipeReadOutcome
  | bytes (copied : Octets)
  | endOfStream

inductive PipeWriteOutcome
  | bytes (count : Nat)
  | wouldBlock
  | brokenPipe

def PipeReadOutcome.copied : PipeReadOutcome → Octets
  | .bytes copied => copied
  | .endOfStream => []

def PipeWriteOutcome.count : PipeWriteOutcome → Nat
  | .bytes count => count
  | .wouldBlock | .brokenPipe => 0

structure Pipe where
  buf : Nat → UInt8
  head : Nat
  len : Nat
  readers : Nat
  writers : Nat
  head_lt : head < pipeBufferBytes
  len_le : len ≤ pipeBufferBytes

namespace Pipe

def new : Pipe := ⟨fun _ => 0, 0, 0, 1, 1, by decide, by decide⟩

variable (pipe : Pipe)

def read (room : Nat) : PipeReadOutcome × Pipe :=
  if pipe.len = 0 then
    (if pipe.writers = 0 then .endOfStream else .bytes [], pipe)
  else if room = 0 then
    (.bytes [], pipe)
  else
    let tail := (pipe.head + pipeBufferBytes - pipe.len) % pipeBufferBytes
    let count := min (min room pipe.len) (pipeBufferBytes - tail)
    (.bytes (load pipe.buf tail count), { pipe with
      len := pipe.len - count
      len_le := Nat.le_trans (Nat.sub_le _ _) pipe.len_le })

/-- The bytes go behind the head, and those that do not fit there to the front. -/
def place (bytes : Octets) : Nat → UInt8 :=
  let first := min bytes.length (pipeBufferBytes - pipe.head)
  let buf := store pipe.buf pipe.head (bytes.take first)
  if first < bytes.length then store buf 0 (bytes.drop first) else buf

def write (bytes : Octets) : PipeWriteOutcome × Pipe :=
  if bytes = [] then
    (.bytes 0, pipe)
  else if pipe.readers = 0 then
    (.brokenPipe, pipe)
  else if pipeBufferBytes - pipe.len = 0 then
    (.wouldBlock, pipe)
  else
    let count := min (pipeBufferBytes - pipe.len) bytes.length
    (.bytes count, { pipe with
      buf := pipe.place (bytes.take count)
      head := (pipe.head + count) % pipeBufferBytes
      len := pipe.len + count
      head_lt := Nat.mod_lt _ (by decide)
      len_le := by
        have fits := pipe.len_le
        omega })

def closeReader : Pipe := { pipe with readers := pipe.readers - 1 }

def closeWriter : Pipe := { pipe with writers := pipe.writers - 1 }

/-! ## A pipe is a bounded list -/

/-- The buffered bytes, oldest first. -/
def contents : Octets :=
  (range pipe.len).map fun offset =>
    pipe.buf ((pipe.head + pipeBufferBytes - pipe.len + offset) % pipeBufferBytes)

theorem length_contents : pipe.contents.length = pipe.len := by
  rw [contents, length_map, length_range]

theorem read_spec :
    (pipe.read room).1.copied ++ (pipe.read room).2.contents = pipe.contents ∧
      (pipe.len ≠ 0 → room ≠ 0 → (pipe.read room).1.copied ≠ []) ∧
      ((pipe.read room).1 = .endOfStream → pipe.len = 0 ∧ pipe.writers = 0) := by
  unfold read
  split
  next empty =>
    split
    next closed => exact ⟨rfl, fun held => absurd empty held, fun _ => ⟨empty, closed⟩⟩
    · exact ⟨rfl, fun held => absurd empty held, nofun⟩
  split
  next none => exact ⟨rfl, fun _ wanted => absurd none wanted, nofun⟩
  dsimp only [PipeReadOutcome.copied, contents]
  generalize tailed : (pipe.head + pipeBufferBytes - pipe.len) % pipeBufferBytes = tail
  generalize counted : min (min room pipe.len) (pipeBufferBytes - tail) = count
  have parts : pipe.len = count + (pipe.len - count) := by omega
  have fits := pipe.len_le
  unfold pipeBufferBytes at *
  refine ⟨?_, fun _ _ => ne_nil_of_length_pos (by rw [length_load]; omega), nofun⟩
  rw [congrArg range parts, range_add, map_append, map_map]
  congr 1
  · refine map_congr_left fun offset inside => congrArg pipe.buf ?_
    have below := mem_range.mp inside
    omega
  refine map_congr_left fun offset _ => congrArg pipe.buf ?_
  dsimp only [Function.comp]
  omega

variable {pipe}

theorem place_apply (fits : bytes.length ≤ pipeBufferBytes) {address : Nat}
    (inside : address < pipeBufferBytes) :
    pipe.place bytes address =
      bytes[(address + pipeBufferBytes - pipe.head) % pipeBufferBytes]?.getD
        (pipe.buf address) := by
  have bound := pipe.head_lt
  unfold place
  generalize index : (address + pipeBufferBytes - pipe.head) % pipeBufferBytes = place
  generalize parted : min bytes.length (pipeBufferBytes - pipe.head) = first
  unfold pipeBufferBytes at *
  rcases Nat.lt_or_ge address pipe.head with before | behind
  · have untouched : store pipe.buf pipe.head (bytes.take first) address = pipe.buf address :=
      store_outside pipe.buf (.inl before)
    split
    · have same : first + (address - 0) = place := by omega
      rw [store, if_pos (Nat.zero_le _), getElem?_drop, untouched, same]
    · rw [untouched, getElem?_eq_none (by omega), Option.getD_none]
  have same : address - pipe.head = place := by omega
  have here : store pipe.buf pipe.head (bytes.take first) address =
      bytes[place]?.getD (pipe.buf address) := by
    rw [store, if_pos behind, same, getElem?_take]
    split
    · rfl
    · rw [getElem?_eq_none (by omega)]
  split
  · rw [store_outside _ (.inr (by rw [length_drop]; omega)), here]
  · exact here

theorem write_spec :
    (pipe.write bytes).2.contents = pipe.contents ++ bytes.take (pipe.write bytes).1.count ∧
      (pipe.readers ≠ 0 →
        (pipe.write bytes).1.count = min bytes.length (pipeBufferBytes - pipe.len)) := by
  unfold write
  split
  next none => simp [PipeWriteOutcome.count, none]
  split
  next closed => simp [PipeWriteOutcome.count, closed]
  split
  next full => simp [PipeWriteOutcome.count, full]
  refine ⟨?_, fun _ => Nat.min_comm _ _⟩
  dsimp only [PipeWriteOutcome.count, contents]
  generalize counted : min (pipeBufferBytes - pipe.len) bytes.length = count
  have length : (bytes.take count).length = count := by
    rw [length_take]
    omega
  have bound := pipe.head_lt
  have placed := @place_apply pipe (bytes.take count) (by omega)
  unfold pipeBufferBytes at *
  rw [range_add, map_append, map_map]
  congr 1
  · refine map_congr_left fun offset inside => ?_
    have below := mem_range.mp inside
    rw [placed (Nat.mod_lt _ (by decide)), getElem?_eq_none (by omega), Option.getD_none]
    exact congrArg pipe.buf (by omega)
  refine ext_getElem (by simp [length]) fun offset inside _ => ?_
  simp only [getElem_map, getElem_range, Function.comp]
  rw [placed (Nat.mod_lt _ (by decide)), getElem?_eq_getElem (by omega), Option.getD_some]
  congr 1
  omega

end Pipe

/-! ## Runs -/

inductive PipeAction
  | read (room : Nat)
  | write (bytes : Octets)
  | closeReader
  | closeWriter

/-- A pipe with the bytes that were read from it and those it has accepted. -/
structure PipeLog where
  pipe : Pipe
  received : Octets
  accepted : Octets

namespace PipeLog

def new : PipeLog := ⟨.new, [], []⟩

variable (log : PipeLog)

def step : PipeAction → Option PipeLog
  | .read room =>
    let read := log.pipe.read room
    some ⟨read.2, log.received ++ read.1.copied, log.accepted⟩
  | .write bytes =>
    let written := log.pipe.write bytes
    some ⟨written.2, log.received, log.accepted ++ bytes.take written.1.count⟩
  | .closeReader => some { log with pipe := log.pipe.closeReader }
  | .closeWriter => some { log with pipe := log.pipe.closeWriter }

def InOrder : Prop := log.received ++ log.pipe.contents = log.accepted

variable {log}

theorem InOrder.step {next : PipeLog} (taken : log.step action = some next)
    (ordered : log.InOrder) :
    next.InOrder := by
  unfold InOrder at ordered ⊢
  cases action with
  | read room =>
    cases taken
    rw [append_assoc, log.pipe.read_spec.1, ordered]
  | write bytes =>
    cases taken
    rw [Pipe.write_spec.1, ← append_assoc, ordered]
  | closeReader | closeWriter =>
    cases taken
    exact ordered

/-- Bytes come out in the order in which they were accepted. With a reader a write
takes what there is room for, and without one it takes nothing. A read of a pipe that
holds bytes gives some, and the end is told only to a reader of an empty pipe without
writers. -/
theorem pipe_is_fifo {actions : List PipeAction} (ran : run step new actions = some log) :
    log.received ++ log.pipe.contents = log.accepted ∧
      (∀ bytes, log.pipe.readers ≠ 0 → (log.pipe.write bytes).1.count =
        min bytes.length (pipeBufferBytes - log.pipe.contents.length)) ∧
      (∀ bytes, bytes ≠ [] → log.pipe.readers = 0 →
        log.pipe.write bytes = (.brokenPipe, log.pipe)) ∧
      ∀ room, (log.pipe.contents.length ≠ 0 → room ≠ 0 → (log.pipe.read room).1.copied ≠ []) ∧
        ((log.pipe.read room).1 = .endOfStream →
          log.pipe.contents.length = 0 ∧ log.pipe.writers = 0) := by
  rw [Pipe.length_contents]
  exact ⟨run_preserves InOrder InOrder.step ran rfl, fun bytes => Pipe.write_spec.2,
    fun bytes some unread => by rw [Pipe.write, if_neg some, if_pos unread], fun room => log.pipe.read_spec.2⟩

theorem pipe_is_fifo_of_three :
    ∃ log, run step new [.write [1, 2, 3], .read 2] = some log ∧ log.received = [1, 2] ∧
      log.received ++ log.pipe.contents = log.accepted :=
  ⟨_, rfl, by decide +kernel, (@pipe_is_fifo _ [.write [1, 2, 3], .read 2] rfl).1⟩

/-- Nobody reads, and the write takes nothing although there is room. -/
theorem write_without_reader :
    ∃ log, run step new [.closeReader] = some log ∧ (log.pipe.write [7]).1 = .brokenPipe ∧
      log.pipe.contents = [] :=
  ⟨_, rfl, rfl, rfl⟩

end PipeLog
end ServiceOS.Object
