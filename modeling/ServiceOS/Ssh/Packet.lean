import ServiceOS.Ssh.Wire

/-! # The binary packet protocol

`packet.rs`: the plain framing used before keys are exchanged, and the framing of
`chacha20-poly1305@openssh.com` used afterwards. -/

namespace ServiceOS.Ssh

open ByteString Crypto Checked List

def packetBlockSize : Nat := 8

def minPadding : Nat := 4

def maxPacketLen : Nat := 35000

def maxPayloadLen : Nat := 32768

def maxWireLen : Nat := 4 + maxPacketLen + 16

structure CipherKeys where
  main : Bytes 32
  header : Bytes 32

def CipherKeys.fromMaterial (material : Bytes 64) : CipherKeys where
  main := Bytes.takeFirst 32 32 material
  header := Bytes.dropFirst 32 32 material

def nonceForSeqno (seqno : Nat) : Bytes 12 :=
  ⟨[0, 0, 0, 0] ++ toBigEndian 8 seqno, by simp⟩

/-! ## Authenticated encryption -/

section

variable [Crypto]

/-- The one-time key is the first half of block 0, and nothing separates the
encrypted length from the ciphertext. -/
def chachapolyTag (mainKey : Bytes 32) (nonce : Bytes 12) (aad ciphertext : Octets) :
    Bytes 16 :=
  poly1305 (Bytes.takeFirst 32 32 (block mainKey 0 nonce)) (aad ++ ciphertext)

def chachapolyEncrypt (mainKey : Bytes 32) (nonce : Bytes 12) (aad plaintext : Octets) :
    Octets × Bytes 16 :=
  let ciphertext := chacha20 mainKey 1 nonce plaintext
  (ciphertext, chachapolyTag mainKey nonce aad ciphertext)

def chachapolyDecrypt (mainKey : Bytes 32) (nonce : Bytes 12) (aad ciphertext : Octets)
    (tag : Octets) : Option Octets :=
  if (chachapolyTag mainKey nonce aad ciphertext).val = tag then
    some (chacha20 mainKey 1 nonce ciphertext)
  else
    none

end

/-! ## Encoding -/

/-- Padding that brings `covered` bytes to a multiple of the block size. -/
def paddingTo (covered blockSize : Nat) : Nat :=
  let pad := blockSize - covered % blockSize
  if pad < minPadding then pad + blockSize else pad

/-- The length prefix counts towards the block. -/
def paddingLen (payloadLen blockSize : Nat) : Nat := paddingTo (4 + 1 + payloadLen) blockSize

/-- The length prefix does not count towards the block. -/
def paddingLenAead (payloadLen blockSize : Nat) : Nat := paddingTo (1 + payloadLen) blockSize

def paddedMessage (payload : Octets) (pad : Nat) : Octets :=
  .ofNat pad :: payload ++ replicate pad 0

/-- The bytes written to the front of a buffer with `room` bytes. -/
def encodePlain (payload : Octets) (room : Nat) : Except WireErr Octets :=
  if maxPayloadLen < payload.length then
    .error .overflow
  else
    let pad := paddingLen payload.length packetBlockSize
    let packetLength := 1 + payload.length + pad
    if room < 4 + packetLength then
      .error .overflow
    else
      .ok (toBigEndian 4 packetLength ++ paddedMessage payload pad)

section

variable [Crypto]

/-- A padded message under the keys: encrypted length, ciphertext, tag. -/
def sealMessage (message : Octets) (keys : CipherKeys) (seqno : Nat) : Octets :=
  let nonce := nonceForSeqno seqno
  let head := chacha20 keys.header 0 nonce (toBigEndian 4 message.length)
  let (ciphertext, tag) := chachapolyEncrypt keys.main nonce head message
  head ++ ciphertext ++ tag.val

def encodeAeadMsg (msg : Octets) (keys : CipherKeys) (seqno room : Nat) :
    Except WireErr Octets :=
  if msg = [] ∨ maxPacketLen < msg.length then
    .error .overflow
  else if room < 4 + msg.length + 16 then
    .error .overflow
  else
    .ok (sealMessage msg keys seqno)

/-- `scratch` is the size of the buffer in which the message is put together. -/
def encodeAead (payload : Octets) (keys : CipherKeys) (seqno scratch room : Nat) :
    Except WireErr Octets :=
  if maxPayloadLen < payload.length then
    .error .overflow
  else
    let pad := paddingLenAead payload.length packetBlockSize
    let msgLen := 1 + payload.length + pad
    if scratch < msgLen then
      .error .overflow
    else if room < 4 + msgLen + 16 then
      .error .overflow
    else
      .ok (sealMessage (paddedMessage payload pad) keys seqno)

end

/-! ## Decoding -/

structure FrameInfo where
  consumed : Nat
  staged : Nat
  payloadStart : Nat
  payloadLen : Nat

def FrameInfo.payload {Error : Type} (info : FrameInfo) (staging : Octets) :
    Except (Fault Error) Octets :=
  range staging info.payloadStart (info.payloadStart + info.payloadLen)

/-- Where the payload is in a decrypted message. -/
def validateStaged (staged : Octets) (packetLength : Nat) (aead : Bool) :
    Except (Fault DisconnectReason) (Nat × Nat) := do
  if packetLength = 0 ∨ staged.length < packetLength then
    .error (.error .protocolError)
  else if (if aead then packetLength else 4 + packetLength) % packetBlockSize ≠ 0 then
    .error (.error .protocolError)
  else
    let first ← index staged 0
    let pad := first.toNat
    if pad < minPadding ∨ packetLength < 1 + pad then
      .error (.error .protocolError)
    else
      let payloadLen := packetLength - 1 - pad
      if maxPayloadLen < payloadLen then
        .error (.error .protocolError)
      else
        .ok (1, payloadLen)

/-- The frame at the front of `buf` and the message in it, or `none` when more
bytes are needed. `staging` is the size of the buffer for the message. -/
def decodePlain (buf : Octets) (staging : Nat) :
    Except (Fault DisconnectReason) (Option (FrameInfo × Octets)) := do
  if buf.length < 4 then
    return none
  else
    let packetLength := fromBigEndian (buf.take 4)
    if packetLength = 0 ∨ maxPacketLen < packetLength then
      .error (.error .protocolError)
    else
      let needed := 4 + packetLength
      if buf.length < needed then
        return none
      else
        let body ← range buf 4 needed
        let message ← copyInto staging body
        let (start, payloadLen) ← validateStaged message packetLength false
        return some (⟨needed, packetLength, start, payloadLen⟩, message)

def decodeAead [Crypto] (buf : Octets) (staging : Nat) (keys : CipherKeys) (seqno : Nat) :
    Except (Fault DisconnectReason) (Option (FrameInfo × Octets)) := do
  if buf.length < 4 then
    return none
  else
    let nonce := nonceForSeqno seqno
    let aad := buf.take 4
    let packetLength := fromBigEndian (chacha20 keys.header 0 nonce aad)
    if packetLength = 0 ∨ maxPacketLen < packetLength ∨ packetLength % packetBlockSize ≠ 0 then
      .error (.error .protocolError)
    else
      let needed := 4 + packetLength + 16
      if buf.length < needed then
        return none
      else
        let ciphertext ← range buf 4 (4 + packetLength)
        let tag ← range buf (4 + packetLength) needed
        match chachapolyDecrypt keys.main nonce aad ciphertext tag with
        | none => .error (.error .macError)
        | some plaintext =>
          let message ← copyInto staging plaintext
          let (start, payloadLen) ← validateStaged message packetLength true
          return some (⟨needed, packetLength, start, payloadLen⟩, message)

/-! ## What the padding does -/

theorem paddingTo_bounds (covered : Nat) :
    minPadding ≤ paddingTo covered packetBlockSize ∧ paddingTo covered packetBlockSize ≤ 11 := by
  by_cases short : 8 - covered % 8 < 4
  all_goals
    simp only [paddingTo, minPadding, packetBlockSize, short, if_true, if_false]
    omega

theorem paddingTo_aligned (covered : Nat) :
    (covered + paddingTo covered packetBlockSize) % packetBlockSize = 0 := by
  by_cases short : 8 - covered % 8 < 4
  all_goals
    simp only [paddingTo, minPadding, packetBlockSize, short, if_true, if_false]
    omega

@[simp] theorem length_paddedMessage (payload : Octets) (pad : Nat) :
    (paddedMessage payload pad).length = 1 + payload.length + pad := by
  simp only [paddedMessage, cons_append, length_cons, length_append, length_replicate]
  omega

theorem paddedMessage_ne_nil (payload : Octets) (pad : Nat) : paddedMessage payload pad ≠ [] :=
  cons_ne_nil _ _

variable {payload buf front : Octets}

/-- The message put together for a payload is accepted, and its payload is found. -/
theorem validateStaged_paddedMessage {aead : Bool}
    (large : minPadding ≤ pad) (small : pad ≤ 11) (fits : payload.length ≤ maxPayloadLen)
    (aligned : (if aead then 1 + payload.length + pad else 4 + (1 + payload.length + pad)) %
      packetBlockSize = 0) :
    validateStaged (paddedMessage payload pad) (1 + payload.length + pad) aead =
      .ok (1, payload.length) := by
  have byte : (UInt8.ofNat pad).toNat = pad := by
    rw [UInt8.toNat_ofNat']
    omega
  have first : (index (paddedMessage payload pad) 0 : Except (Fault DisconnectReason) _) =
      .ok (.ofNat pad) := rfl
  rw [validateStaged, if_neg (by rw [length_paddedMessage]; omega), 
    if_neg (fun misaligned => misaligned aligned), first]
  simp only [bind, Except.bind, byte]
  rw [if_neg (by omega), if_neg (by omega), show 1 + payload.length + pad - 1 - pad =
    payload.length by omega]

theorem payload_paddedMessage (payload : Octets) (pad consumed staged : Nat) :
    (FrameInfo.payload ⟨consumed, staged, 1, payload.length⟩ (paddedMessage payload pad) :
      Except (Fault Error) _) = .ok payload := by
  rw [FrameInfo.payload, range_ok (Nat.le_add_right _ _)
    (by simp only [length_paddedMessage]; omega)]
  simp [paddedMessage, Nat.add_comm 1]

/-! ## When a frame is complete -/

def plainLength (buf : Octets) : Nat := fromBigEndian (buf.take 4)

theorem decodePlain_complete (positive : 0 < plainLength buf)
    (bounded : plainLength buf ≤ maxPacketLen) (complete : 4 + plainLength buf ≤ buf.length)
    (holds : plainLength buf ≤ staging) :
    decodePlain buf staging = let message := (buf.take (4 + plainLength buf)).drop 4
      (validateStaged message (plainLength buf) false).map fun found =>
        some (⟨4 + plainLength buf, plainLength buf, found.1, found.2⟩, message) := by
  have header : fromBigEndian (buf.take 4) = plainLength buf := rfl
  have body : ((buf.take (4 + plainLength buf)).drop 4).length = plainLength buf := by
    rw [length_drop, length_take]
    omega
  rw [decodePlain, if_neg (by omega), header]
  rw [if_neg (by omega), if_neg (by omega), range_ok (by omega) complete]
  simp only [bind, Except.bind]
  rw [copyInto_ok (by rwa [body])]
  simp only
  cases validateStaged ((buf.take (4 + plainLength buf)).drop 4) (plainLength buf) false <;> rfl

theorem decodePlain_incomplete (staging : Nat)
    (valid : 4 ≤ buf.length → 0 < plainLength buf ∧ plainLength buf ≤ maxPacketLen)
    (incomplete : buf.length < 4 + plainLength buf) : decodePlain buf staging = .ok none := by
  have header : fromBigEndian (buf.take 4) = plainLength buf := rfl
  rw [decodePlain]
  by_cases short : buf.length < 4
  · rw [if_pos short]
    rfl
  rw [if_neg short, header]
  rw [if_neg (by omega), if_pos incomplete]
  rfl

variable {keys : CipherKeys}

section

variable [Crypto]

def aeadLength (keys : CipherKeys) (seqno : Nat) (buf : Octets) : Nat :=
  fromBigEndian (chacha20 keys.header 0 (nonceForSeqno seqno) (buf.take 4))

theorem length_of_chachapolyDecrypt
    (decrypted : chachapolyDecrypt mainKey nonce aad ciphertext tag = some message) :
    message.length = ciphertext.length := by
  rw [chachapolyDecrypt, Option.ite_none_right_eq_some] at decrypted
  cases decrypted.2
  exact length_chacha20 _ _ _ _

theorem decodeAead_complete
    (positive : 0 < aeadLength keys seqno buf) (bounded : aeadLength keys seqno buf ≤ maxPacketLen)
    (aligned : aeadLength keys seqno buf % packetBlockSize = 0)
    (complete : 4 + aeadLength keys seqno buf + 16 ≤ buf.length)
    (holds : aeadLength keys seqno buf ≤ staging) :
    decodeAead buf staging keys seqno = let packetLength := aeadLength keys seqno buf
      match chachapolyDecrypt keys.main (nonceForSeqno seqno) (buf.take 4)
          ((buf.take (4 + packetLength)).drop 4)
          ((buf.take (4 + packetLength + 16)).drop (4 + packetLength)) with
      | none => .error (.error .macError)
      | some message =>
        (validateStaged message packetLength true).map fun found =>
          some (⟨4 + packetLength + 16, packetLength, found.1, found.2⟩, message) := by
  have header : fromBigEndian (chacha20 keys.header 0 (nonceForSeqno seqno) (buf.take 4)) =
      aeadLength keys seqno buf := rfl
  rw [decodeAead, if_neg (by omega)]
  simp only [header]
  rw [if_neg (by omega), if_neg (by omega), range_ok (by omega) (by omega),
    range_ok (by omega) complete]
  simp only [bind, Except.bind]
  split
  · rfl
  rename_i message decrypted
  have body : message.length = aeadLength keys seqno buf := by
    rw [length_of_chachapolyDecrypt decrypted, length_drop, length_take]
    omega
  rw [copyInto_ok (by rwa [body])]
  simp only
  cases validateStaged message (aeadLength keys seqno buf) true <;> rfl

theorem decodeAead_incomplete (staging : Nat)
    (valid : 4 ≤ buf.length → 0 < aeadLength keys seqno buf ∧
      aeadLength keys seqno buf ≤ maxPacketLen ∧ aeadLength keys seqno buf % packetBlockSize = 0)
    (incomplete : buf.length < 4 + aeadLength keys seqno buf + 16) :
    decodeAead buf staging keys seqno = .ok none := by
  have header : fromBigEndian (chacha20 keys.header 0 (nonceForSeqno seqno) (buf.take 4)) =
      aeadLength keys seqno buf := rfl
  rw [decodeAead]
  by_cases short : buf.length < 4
  · rw [if_pos short]
    rfl
  rw [if_neg short]
  simp only [header]
  rw [if_neg (by omega), if_pos incomplete]
  rfl

end

/-! ## Round trips -/

def plainFrame (payload : Octets) : Octets :=
  let pad := paddingLen payload.length packetBlockSize
  toBigEndian 4 (1 + payload.length + pad) ++ paddedMessage payload pad

theorem length_plainFrame (payload : Octets) :
    (plainFrame payload).length =
      4 + (1 + payload.length + paddingLen payload.length packetBlockSize) := by
  rw [plainFrame, length_append, length_toBigEndian, length_paddedMessage]

section

variable (fits : payload.length ≤ maxPayloadLen)

include fits

theorem encodePlain_eq (roomy : (plainFrame payload).length ≤ room) :
    encodePlain payload room = .ok (plainFrame payload) := by
  rw [length_plainFrame] at roomy
  rw [encodePlain, if_neg (Nat.not_lt.mpr fits)]
  exact if_neg (Nat.not_lt.mpr roomy)

theorem paddedLength_bounds :
    1 + payload.length + paddingTo covered packetBlockSize ≤ maxPacketLen ∧
      1 + payload.length + paddingTo covered packetBlockSize < 256 ^ 4 := by
  have padding := paddingTo_bounds covered
  simp only [maxPayloadLen, maxPacketLen] at *
  omega

theorem plainLength_of_plainFrame_prefix
    (four : 4 ≤ front.length) (cut : front <+: plainFrame payload ++ rest) :
    plainLength front = 1 + payload.length + paddingLen payload.length packetBlockSize := by
  rcases cut with ⟨missing, whole⟩
  have header : front.take 4 = toBigEndian 4 (1 + payload.length +
      paddingLen payload.length packetBlockSize) := by
    have longer := congrArg (take 4) whole
    rwa [take_append_of_le_length four, plainFrame, append_assoc,
      take_left' (length_toBigEndian _ _)] at longer
  rw [plainLength, header]
  exact fromBigEndian_toBigEndian (paddedLength_bounds fits).2

theorem decodePlain_plainFrame
    (holds : 1 + payload.length + paddingLen payload.length packetBlockSize ≤ staging)
    (rest : Octets) :
    decodePlain (plainFrame payload ++ rest) staging =
      .ok (some (⟨(plainFrame payload).length,
          1 + payload.length + paddingLen payload.length packetBlockSize, 1, payload.length⟩,
        paddedMessage payload (paddingLen payload.length packetBlockSize))) := by
  have padding := paddingTo_bounds (4 + 1 + payload.length)
  have aligned := paddingTo_aligned (4 + 1 + payload.length)
  have bounds := @paddedLength_bounds payload fits (4 + 1 + payload.length)
  rw [← paddingLen] at padding aligned bounds
  have whole : 4 + (1 + payload.length + paddingLen payload.length packetBlockSize) ≤
      (plainFrame payload ++ rest).length := by
    rw [length_append, length_plainFrame]
    omega
  have declared := plainLength_of_plainFrame_prefix fits (by omega)
    (prefix_refl (plainFrame payload ++ rest))
  have message : ((plainFrame payload ++ rest).take (plainFrame payload).length).drop 4 =
      paddedMessage payload (paddingLen payload.length packetBlockSize) := by
    rw [take_left, plainFrame, drop_left' (length_toBigEndian _ _)]
  rw [decodePlain_complete] <;> rw [declared]
  · simp only [← length_plainFrame, message]
    rw [validateStaged_paddedMessage padding.1 padding.2 fits]
    · rfl
    rw [← aligned]
    congr 1
    simp only [Bool.false_eq_true, if_false]
    omega
  · omega
  · exact bounds.1
  · exact whole
  · exact holds

end

theorem length_lt_of_cut (cut : front <+: whole) (proper : front ≠ whole) :
    front.length < whole.length :=
  Nat.lt_of_le_of_ne cut.length_le fun same => proper (cut.eq_of_length same)

theorem decodePlain_cut_plainFrame (staging : Nat)
    (fits : payload.length ≤ maxPayloadLen) (cut : front <+: plainFrame payload)
    (proper : front ≠ plainFrame payload) : decodePlain front staging = .ok none := by
  have bounds := @paddedLength_bounds payload fits (4 + 1 + payload.length)
  rw [← paddingLen] at bounds
  have shorter := length_lt_of_cut cut proper
  rw [length_plainFrame] at shorter
  have cut' : front <+: plainFrame payload ++ [] := by rwa [append_nil]
  by_cases four : 4 ≤ front.length
  · have declared := plainLength_of_plainFrame_prefix fits four cut'
    exact decodePlain_incomplete staging (fun _ => by rw [declared]; omega) (by rwa [declared])
  · exact decodePlain_incomplete staging (fun enough => absurd enough four) (by omega)

section

variable [Crypto]

theorem length_sealMessage (message : Octets) (keys : CipherKeys) (seqno : Nat) :
    (sealMessage message keys seqno).length = 4 + message.length + 16 := by
  simp only [sealMessage, chachapolyEncrypt, length_append, length_chacha20,
    length_toBigEndian, (chachapolyTag _ _ _ _).property]

theorem encodeAeadMsg_eq (keys : CipherKeys) (seqno : Nat)
    (nonempty : message ≠ []) (fits : message.length ≤ maxPacketLen)
    (roomy : (sealMessage message keys seqno).length ≤ room) :
    encodeAeadMsg message keys seqno room = .ok (sealMessage message keys seqno) := by
  rw [length_sealMessage] at roomy
  rw [encodeAeadMsg, if_neg (by simp [nonempty, fits]), if_neg (Nat.not_lt.mpr roomy)]

def aeadFrame (payload : Octets) (keys : CipherKeys) (seqno : Nat) : Octets :=
  sealMessage (paddedMessage payload (paddingLenAead payload.length packetBlockSize)) keys seqno

theorem length_aeadFrame (payload : Octets) (keys : CipherKeys) (seqno : Nat) :
    (aeadFrame payload keys seqno).length =
      4 + (1 + payload.length + paddingLenAead payload.length packetBlockSize) + 16 := by
  rw [aeadFrame, length_sealMessage, length_paddedMessage]

theorem aeadLength_of_sealMessage_prefix (small : message.length < 256 ^ 4)
    (four : 4 ≤ front.length) (cut : front <+: sealMessage message keys seqno ++ rest) :
    aeadLength keys seqno front = message.length := by
  rcases cut with ⟨missing, whole⟩
  have header : front.take 4 =
      chacha20 keys.header 0 (nonceForSeqno seqno) (toBigEndian 4 message.length) := by
    have longer := congrArg (take 4) whole
    simp only [sealMessage, append_assoc] at longer
    rwa [take_append_of_le_length four,
      take_left' (by rw [length_chacha20, length_toBigEndian])] at longer
  rw [aeadLength, header, chacha20_chacha20]
  exact fromBigEndian_toBigEndian small

/-- The three parts of a sealed message are where the decoder looks for them, and
the tag is the one it computes. -/
theorem decrypt_sealMessage (message : Octets) (keys : CipherKeys) (seqno : Nat)
    (rest : Octets) :
    chachapolyDecrypt keys.main (nonceForSeqno seqno)
      ((sealMessage message keys seqno ++ rest).take 4)
      (((sealMessage message keys seqno ++ rest).take (4 + message.length)).drop 4)
      (((sealMessage message keys seqno ++ rest).take (4 + message.length + 16)).drop
        (4 + message.length)) = some message := by
  simp only [sealMessage, chachapolyEncrypt]
  generalize sealed : chacha20 keys.header 0 (nonceForSeqno seqno)
    (toBigEndian 4 message.length) = head
  generalize encrypted : chacha20 keys.main 1 (nonceForSeqno seqno) message = ciphertext
  have headLength : head.length = 4 := by
    rw [← sealed, length_chacha20, length_toBigEndian]
  have bodyLength : (head ++ ciphertext).length = 4 + message.length := by
    rw [length_append, headLength, ← encrypted, length_chacha20]
  generalize marked : chachapolyTag keys.main (nonceForSeqno seqno) head ciphertext = tag
  have wholeLength : (head ++ ciphertext ++ tag.val).length = 4 + message.length + 16 := by
    rw [length_append, bodyLength, tag.property]
  rw [take_left' wholeLength, drop_left' bodyLength, append_assoc,
    append_assoc, ← append_assoc head, take_left' bodyLength,
    drop_left' headLength, append_assoc, take_left' headLength, chachapolyDecrypt,
    if_pos (congrArg Subtype.val marked), ← encrypted, chacha20_chacha20]

/-- The message of a sealed packet is found again, and checked as it was sealed. -/
theorem decodeAead_sealMessage (positive : 0 < message.length)
    (bounded : message.length ≤ maxPacketLen) (aligned : message.length % packetBlockSize = 0)
    (holds : message.length ≤ staging) (rest : Octets) :
    decodeAead (sealMessage message keys seqno ++ rest) staging keys seqno =
      (validateStaged message message.length true).map fun found =>
        some (⟨(sealMessage message keys seqno).length, message.length, found.1, found.2⟩,
          message) := by
  have small : message.length < 256 ^ 4 := by
    rw [maxPacketLen] at bounded
    omega
  have whole : 4 + message.length + 16 ≤ (sealMessage message keys seqno ++ rest).length := by
    rw [length_append, length_sealMessage]
    omega
  have declared := aeadLength_of_sealMessage_prefix small (by omega)
    (prefix_refl (sealMessage message keys seqno ++ rest))
  rw [decodeAead_complete] <;> rw [declared]
  · simp only [decrypt_sealMessage, length_sealMessage]
  · exact positive
  · exact bounded
  · exact aligned
  · exact whole
  · exact holds

theorem decodeAead_aeadFrame (keys : CipherKeys) (seqno : Nat)
    (fits : payload.length ≤ maxPayloadLen)
    (holds : 1 + payload.length + paddingLenAead payload.length packetBlockSize ≤ staging)
    (rest : Octets) :
    decodeAead (aeadFrame payload keys seqno ++ rest) staging keys seqno =
      .ok (some (⟨(aeadFrame payload keys seqno).length,
          1 + payload.length + paddingLenAead payload.length packetBlockSize, 1, payload.length⟩,
        paddedMessage payload (paddingLenAead payload.length packetBlockSize))) := by
  have padding := paddingTo_bounds (1 + payload.length)
  have aligned := paddingTo_aligned (1 + payload.length)
  have bounds := @paddedLength_bounds payload fits (1 + payload.length)
  rw [← paddingLenAead] at padding aligned bounds
  rw [aeadFrame, decodeAead_sealMessage] <;> rw [length_paddedMessage]
  · rw [@validateStaged_paddedMessage payload _ true padding.1 padding.2 fits aligned]
    rfl
  · omega
  · exact bounds.1
  · exact aligned
  · exact holds

theorem decodeAead_cut_aeadFrame (staging : Nat) (fits : payload.length ≤ maxPayloadLen)
    (cut : front <+: aeadFrame payload keys seqno) (proper : front ≠ aeadFrame payload keys seqno) :
    decodeAead front staging keys seqno = .ok none := by
  have aligned := paddingTo_aligned (1 + payload.length)
  have bounds := @paddedLength_bounds payload fits (1 + payload.length)
  have shorter := length_lt_of_cut cut proper
  rw [length_aeadFrame] at shorter
  have cut' : front <+: aeadFrame payload keys seqno ++ [] := by rwa [append_nil]
  by_cases four : 4 ≤ front.length
  · have declared := aeadLength_of_sealMessage_prefix
      (by rw [length_paddedMessage]; exact bounds.2) four cut'
    rw [length_paddedMessage] at declared
    exact decodeAead_incomplete staging
      (fun _ => by rw [declared]; exact ⟨by omega, bounds.1, aligned⟩) (by rwa [declared])
  · exact decodeAead_incomplete staging (fun enough => absurd enough four) (by omega)

end
end ServiceOS.Ssh
