import ServiceOS.Ssh.Types

/-! # Wire fields

`wire.rs`: reading and writing the fields of a message. A reader keeps the bytes
it has not read, also when it fails, and a writer what it has written. -/

namespace ServiceOS.Ssh

open ByteString Fallible List

inductive WireErr
  | truncated
  | overflow

/-! ## Reading -/

abbrev Reader (Answer : Type) : Type := Fallible Octets WireErr Answer

namespace Reader

def remaining : Reader Nat := gets length

def u8 : Reader UInt8
  | [] => (.error (.error .truncated), [])
  | byte :: rest => (.ok byte, rest)

def take (count : Nat) : Reader Octets := fun bytes =>
  if bytes.length < count then
    (.error (.error .truncated), bytes)
  else
    (.ok (bytes.take count), bytes.drop count)

def u32 : Reader Nat := do
  let bytes ← take 4
  return fromBigEndian bytes

def string : Reader Octets := do
  let length ← u32
  take length

theorem take_answers {count : Nat} (answers : take count bytes = (.ok value, rest)) :
    count ≤ bytes.length ∧ value = bytes.take count ∧ rest = bytes.drop count := by
  rw [take] at answers
  split at answers
  · cases answers
  rename_i enough
  cases answers
  exact ⟨Nat.le_of_not_lt enough, rfl, rfl⟩

theorem u32_answers {value : Nat} (answers : u32 bytes = (.ok value, rest)) :
    4 ≤ bytes.length ∧ value = fromBigEndian (bytes.take 4) ∧ rest = bytes.drop 4 := by
  rcases bind_answers answers with ⟨digits, after, taken, rfl, rfl⟩
  rcases take_answers taken with ⟨enough, rfl, rfl⟩
  exact ⟨enough, rfl, rfl⟩

theorem string_answers (answers : string bytes = (.ok value, rest)) :
    4 + value.length ≤ bytes.length ∧ rest = bytes.drop (4 + value.length) := by
  rcases bind_answers answers with ⟨length, after, counted, taken⟩
  rcases u32_answers counted with ⟨enough, -, rfl⟩
  rcases take_answers taken with ⟨inside, rfl, rfl⟩
  rw [length_drop] at inside
  have exact : ((bytes.drop 4).take length).length = length := by
    rw [length_take, length_drop]
    omega
  rw [exact, drop_drop]
  exact ⟨by omega, rfl⟩

end Reader

/-! ## Writing -/

structure Buffer where
  capacity : Nat
  written : Octets

abbrev Writer : Type := Fallible Buffer WireErr Unit

namespace Writer

variable (bytes : Octets)

def raw : Writer := fun buffer =>
  if buffer.capacity < buffer.written.length + bytes.length then
    (.error (.error .overflow), buffer)
  else
    (.ok (), { buffer with written := buffer.written ++ bytes })

def u8 (value : UInt8) : Writer := raw [value]

def u32 (value : Nat) : Writer := raw (toBigEndian 4 value)

def string : Writer := do
  u32 bytes.length
  raw bytes

/-- A non-negative number from its bytes, most significant first. -/
def mpintBe (magnitude : Octets) : Writer :=
  match magnitude.dropWhile (· == 0) with
  | [] => u32 0
  | first :: rest =>
    if first &&& 0x80 ≠ 0 then do
      u32 (rest.length + 2)
      u8 0
      raw (first :: rest)
    else do
      u32 (rest.length + 1)
      raw (first :: rest)

/-- Everything a writer writes to an empty buffer, or its error. -/
def build (capacity : Nat) (writer : Writer) : Except (Stop WireErr) Octets :=
  match writer ⟨capacity, []⟩ with
  | (.error stop, _) => .error stop
  | (.ok _, buffer) => .ok buffer.written

structure Written (before after : Buffer) : Prop where
  capacity : after.capacity = before.capacity
  fits : before.written.length ≤ before.capacity → after.written.length ≤ after.capacity
  grows : before.written <+: after.written

instance : IsPreorder Buffer Written where
  refl _ := ⟨rfl, id, prefix_rfl⟩
  trans _ _ _ one two :=
    ⟨two.capacity.trans one.capacity, two.fits ∘ one.fits, one.grows.trans two.grows⟩

theorem raw_respects : (raw bytes).Respects Written := by
  intro buffer
  by_cases full : buffer.capacity < buffer.written.length + bytes.length
  · rw [raw, if_pos full]
    exact refl_of Written buffer
  rw [raw, if_neg full]
  refine ⟨rfl, fun _ => ?_, prefix_append _ _⟩
  rw [length_append]
  exact Nat.le_of_not_lt full

theorem string_respects : (string bytes).Respects Written :=
  respects_bind (raw_respects _) fun _ => raw_respects bytes

variable {bytes : Octets}

theorem raw_answers {after : Buffer} (answers : raw bytes buffer = (.ok (), after)) :
    buffer.written.length + bytes.length ≤ buffer.capacity ∧
      after = { buffer with written := buffer.written ++ bytes } := by
  rw [raw] at answers
  split at answers
  · cases answers
  rename_i room
  cases answers
  exact ⟨Nat.le_of_not_lt room, rfl⟩

theorem build_message (respects : ∀ done, (rest done).Respects Written)
    (built : build capacity (u8 kind >>= rest) = .ok bytes) :
    bytes.head? = some kind ∧ bytes.length ≤ capacity := by
  rcases call : (u8 kind >>= rest) ⟨capacity, []⟩ with ⟨_ | _, after⟩ <;> rw [build, call] at built <;>
    cases built
  rcases bind_answers call with ⟨_, between, first, later⟩
  rcases raw_answers first with ⟨room, rfl⟩
  have written := respects () ⟨capacity, [] ++ [kind]⟩
  rw [later] at written
  refine ⟨?_, Nat.le_trans (written.fits room) (Nat.le_of_eq written.capacity)⟩
  rcases written.grows with ⟨rest, whole⟩
  rw [← whole]
  rfl

def twoStrings (first second : Octets) : Writer := do
  withDefault (string first) ()
  withDefault (string second) ()

theorem length_twoStrings (first second : Octets) (capacity : Nat) :
    (twoStrings first second ⟨capacity, []⟩).2.written.length ≤ capacity := by
  have written : Written ⟨capacity, []⟩ (twoStrings first second ⟨capacity, []⟩).2 :=
    respects_bind ((string_respects first).withDefault ())
      (fun _ => (string_respects second).withDefault ()) _
  exact Nat.le_trans (written.fits (Nat.zero_le capacity)) (Nat.le_of_eq written.capacity)

end Writer

/-! ## Name lists -/

/-- The names in a comma-separated list, without empty ones. -/
def nameList (body : Octets) : List Octets :=
  (body.splitOn 44).filter (· ≠ [])

end ServiceOS.Ssh
