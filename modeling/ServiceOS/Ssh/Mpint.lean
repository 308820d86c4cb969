import ServiceOS.Ssh.Wire

/-! # Numbers on the wire

The encoding of a number is the shortest one, and so there is one for each number. -/

namespace ServiceOS.Ssh

open ByteString List Writer Fallible

/-- The bytes after the length. -/
def mpintBody (magnitude : Octets) : Octets :=
  match magnitude.dropWhile (· == 0) with
  | [] => []
  | first :: rest => if first &&& 0x80 ≠ 0 then 0 :: first :: rest else first :: rest

def twosComplement (bytes : Octets) : Int :=
  fromBigEndian bytes - if 128 ≤ (bytes.headD 0).toNat then 256 ^ bytes.length else 0

/-- A zero byte comes first only if the number would be negative without it. -/
def Minimal (bytes : Octets) : Prop := ∀ rest, bytes = 0 :: rest → 128 ≤ (rest.headD 0).toNat

variable {magnitude : Octets}

theorem fromBigEndian_eq (bytes : Octets) :
    fromBigEndian bytes = Nat.ofDigits 256 (bytes.reverse.map UInt8.toNat) := by
  rw [fromBigEndian]
  induction bytes.reverse with
  | nil => rfl
  | cons byte bytes induction =>
    rw [fromLittleEndian, induction, map_cons, Nat.ofDigits_cons]

theorem fromBigEndian_zero_cons (bytes : Octets) :
    fromBigEndian (0 :: bytes) = fromBigEndian bytes := by
  simp [fromBigEndian_eq, Nat.ofDigits_append]

theorem fromBigEndian_dropWhile (magnitude : Octets) :
    fromBigEndian (magnitude.dropWhile (· == 0)) = fromBigEndian magnitude := by
  induction magnitude with
  | nil => rfl
  | cons byte magnitude induction =>
    rw [dropWhile_cons]
    split
    next zero => rw [induction, eq_of_beq zero, fromBigEndian_zero_cons]
    · rfl

theorem first_ne_zero (stripped : magnitude.dropWhile (· == 0) = first :: rest) : first ≠ 0 := by
  have kept := head?_dropWhile_not (· == 0) magnitude
  rw [stripped] at kept
  exact ne_of_beq_false kept

/-- A number determines its bytes without the leading zeros. -/
theorem digits_fromBigEndian (magnitude : Octets) :
    Nat.digits 256 (fromBigEndian magnitude) =
      (magnitude.dropWhile (· == 0)).reverse.map UInt8.toNat := by
  rw [← fromBigEndian_dropWhile, fromBigEndian_eq]
  rcases stripped : magnitude.dropWhile (· == 0) with _ | ⟨first, rest⟩
  · simp
  apply Nat.digits_ofDigits 256 (by decide)
  · simp only [mem_map]
    rintro _ ⟨byte, -, rfl⟩
    exact byte.toNat_lt
  · intro nonempty
    have last := mt UInt8.toNat_inj.mp (first_ne_zero stripped)
    simpa using last

theorem sign_iff (byte : UInt8) : byte &&& 0x80 ≠ 0 ↔ 128 ≤ byte.toNat := by
  have all : ∀ byte : BitVec 8, byte &&& 0x80 ≠ 0 ↔ 128 ≤ byte.toNat := by decide
  exact (not_congr UInt8.toBitVec_inj.symm).trans (all byte.toBitVec)

theorem mpintBody_spec (magnitude : Octets) :
    twosComplement (mpintBody magnitude) = fromBigEndian magnitude ∧
      Minimal (mpintBody magnitude) := by
  rw [← fromBigEndian_dropWhile magnitude, mpintBody]
  split
  next none =>
    rw [none]
    exact ⟨rfl, nofun⟩
  next first rest some =>
    rw [some]
    split
    next negative =>
      rw [twosComplement, fromBigEndian_zero_cons]
      refine ⟨by simp, ?_⟩
      rintro _ ⟨⟩
      exact (sign_iff first).mp negative
    next positive =>
      rw [sign_iff] at positive
      refine ⟨by simp [twosComplement, positive], ?_⟩
      rintro _ ⟨⟩
      exact absurd rfl (first_ne_zero some)

theorem raw_of_room (room : buffer.written.length + bytes.length ≤ buffer.capacity) :
    raw bytes buffer = (.ok (), { buffer with written := buffer.written ++ bytes }) :=
  if_neg (Nat.not_lt.mpr room)

def mpint (magnitude : Octets) : Octets :=
  toBigEndian 4 (mpintBody magnitude).length ++ mpintBody magnitude

theorem mpintBe_eq_raw (room : buffer.written.length + (mpint magnitude).length ≤ buffer.capacity) :
    mpintBe magnitude buffer = raw (mpint magnitude) buffer := by
  rw [raw_of_room room, mpintBe]
  rw [mpint, length_append, length_toBigEndian, mpintBody] at *
  split at room
  next none =>
    simp only [none, u32]
    rw [raw_of_room] <;> simp
    exact room
  next first rest some =>
    by_cases negative : first &&& 0x80 ≠ 0
    · simp only [some, if_pos negative, u32, u8] at room ⊢
      rw [bind_of_answer (raw_of_room _), bind_of_answer (raw_of_room _), raw_of_room] <;>
        simp at * <;> omega
    · simp only [some, if_neg negative, u32] at room ⊢
      rw [bind_of_answer (raw_of_room _), raw_of_room] <;> simp at * <;> omega

theorem fromBigEndian_lt (bytes : Octets) : fromBigEndian bytes < 256 ^ bytes.length := by
  rw [fromBigEndian_eq, ← length_reverse, ← length_map UInt8.toNat]
  apply Nat.ofDigits_lt_base_pow_length (by decide)
  simp only [mem_map]
  rintro _ ⟨byte, -, rfl⟩
  exact byte.toNat_lt

/-- The encoding of a number is its length and the shortest body there is, and no two numbers
share one, if and only if the length of the body fits its field. -/
theorem mpintBe_canonical
    (room : buffer.written.length + (mpint magnitude).length ≤ buffer.capacity) :
    (∃ length body, length.length = 4 ∧ fromBigEndian length = body.length ∧
      mpintBe magnitude buffer =
        (.ok (), { buffer with written := buffer.written ++ (length ++ body) }) ∧
      twosComplement body = fromBigEndian magnitude ∧ Minimal body ∧
      ∀ other, buffer.written.length + (mpint other).length ≤ buffer.capacity →
        (mpintBe other buffer = mpintBe magnitude buffer ↔
          fromBigEndian other = fromBigEndian magnitude)) ↔
      (mpintBody magnitude).length < 2 ^ 32 := by
  constructor
  · rintro ⟨length, body, four, same, written, -⟩
    rw [mpintBe_eq_raw room, raw_of_room room] at written
    injection written with _ written
    have encoding := append_cancel_left (congrArg Buffer.written written)
    have bodies := (append_inj encoding (by rw [length_toBigEndian, four])).2
    rw [bodies, ← same]
    have bound := fromBigEndian_lt length
    rw [four] at bound
    omega
  intro short
  rcases mpintBody_spec magnitude with ⟨value, minimal⟩
  refine ⟨_, _, length_toBigEndian 4 _, fromBigEndian_toBigEndian short,
    (mpintBe_eq_raw room).trans (raw_of_room room), value, minimal, fun other roomToo => ?_⟩
  rw [mpintBe_eq_raw room, mpintBe_eq_raw roomToo, raw_of_room room, raw_of_room roomToo]
  constructor
  · intro same
    injection same with _ same
    have encodings := append_cancel_left (congrArg Buffer.written same)
    have bodies := (append_inj encodings (by simp)).2
    rw [← Int.natCast_inj, ← value, ← bodies, (mpintBody_spec other).1]
  · intro same
    have digits := digits_fromBigEndian other
    rw [same, digits_fromBigEndian] at digits
    have stripped := reverse_injective (map_injective_iff.mpr (fun _ _ => UInt8.toNat.inj) digits)
    simp only [mpint, mpintBody, stripped]

theorem mpintBe_canonical_sign : ∃ length body,
    mpintBe [0, 128] ⟨6, []⟩ = (.ok (), ⟨6, length ++ body⟩) ∧ twosComplement body = 128 ∧
      Minimal body := by
  rcases (@mpintBe_canonical [0, 128] ⟨6, []⟩ (by decide)).mpr (by decide) with
    ⟨length, body, -, -, written, value, minimal, -⟩
  exact ⟨length, body, written, value, minimal⟩

/-- The length is cut to 32 bits. -/
theorem mpintBe_cuts_length : ∃ magnitude buffer, magnitude.length = 2 ^ 32 ∧
    mpintBe magnitude buffer = (.ok (), ⟨buffer.capacity, toBigEndian 4 0 ++ magnitude⟩) := by
  obtain ⟨count, large⟩ : ∃ count, count + 1 = 2 ^ 32 := ⟨2 ^ 32 - 1, rfl⟩
  have cut : mpint (1 :: replicate count 1) = toBigEndian 4 0 ++ 1 :: replicate count 1 := by
    change toBigEndian 4 (1 :: replicate count (1 : UInt8)).length ++ _ = _
    rw [length_cons, length_replicate, large]
    rfl
  refine ⟨1 :: replicate count 1, ⟨2 ^ 32 + 4, []⟩, by simp [large], ?_⟩
  rw [mpintBe_eq_raw, raw_of_room, cut]
  · rfl
  all_goals simp [cut, large, Nat.add_comm]

end ServiceOS.Ssh
