import ServiceOS.Ssh.Feed

/-! # What the decoders find

On any input a decoder waits for more bytes, rejects what it has, or finds a
frame; it never reads outside of the input. More bytes behind a frame or behind
something it rejects make no difference. -/

namespace ServiceOS.Ssh

open ByteString List

inductive Decoded (buf : Octets) :
    Except (Fault DisconnectReason) (Option (FrameInfo × Octets)) → Prop
  | incomplete : Decoded buf (.ok none)
  | rejected (reason : DisconnectReason) : Decoded buf (.error (.error reason))
  | framed (consumed staged : Nat) (first : UInt8) (payload padding : Octets)
      (positive : 0 < consumed) (inside : consumed ≤ buf.length)
      (fits : payload.length ≤ maxPayloadLen) (padded : padding ≠ []) :
      Decoded buf
        (.ok (some (⟨consumed, staged, 1, payload.length⟩, first :: (payload ++ padding))))

/-! ## Nothing is out of range -/

theorem validateStaged_cases (aead : Bool) (whole : message.length = packetLength) :
    (∃ reason, validateStaged message packetLength aead = .error (.error reason)) ∨
      ∃ first payload padding, message = first :: (payload ++ padding) ∧ padding ≠ [] ∧
        payload.length ≤ maxPayloadLen ∧
        validateStaged message packetLength aead = .ok (1, payload.length) := by
  cases message with
  | nil =>
    refine .inl ⟨.protocolError, ?_⟩
    rw [validateStaged, if_pos (.inl whole.symm)]
  | cons first rest =>
    have read : (Checked.index (first :: rest) 0 : Except (Fault DisconnectReason) _) =
        .ok first := rfl
    have length : rest.length + 1 = packetLength := whole
    rw [validateStaged, if_neg (by omega)]
    by_cases misaligned : (if aead then packetLength else 4 + packetLength) % packetBlockSize ≠ 0
    · exact .inl ⟨.protocolError, if_pos misaligned⟩
    rw [if_neg misaligned, read]
    simp only [bind, Except.bind]
    by_cases badPadding : first.toNat < minPadding ∨ packetLength < 1 + first.toNat
    · exact .inl ⟨.protocolError, if_pos badPadding⟩
    rw [if_neg badPadding]
    by_cases large : maxPayloadLen < packetLength - 1 - first.toNat
    · exact .inl ⟨.protocolError, if_pos large⟩
    have taken : (rest.take (packetLength - 1 - first.toNat)).length =
        packetLength - 1 - first.toNat := by
      rw [length_take]
      omega
    refine .inr ⟨first, rest.take (packetLength - 1 - first.toNat),
      rest.drop (packetLength - 1 - first.toNat), ?_, ?_, ?_, ?_⟩
    · rw [take_append_drop]
    · apply ne_nil_of_length_pos
      rw [length_drop]
      rw [minPadding] at badPadding
      omega
    · rw [taken]
      exact Nat.le_of_not_lt large
    · rw [taken, if_neg large]

theorem decoded_of_message (aead : Bool) (whole : message.length = packetLength)
    (positive : 0 < consumed) (inside : consumed ≤ buf.length) :
    Decoded buf ((validateStaged message packetLength aead).map fun found =>
      some (⟨consumed, packetLength, found.1, found.2⟩, message)) := by
  rcases validateStaged_cases aead whole with
    ⟨reason, rejected⟩ | ⟨first, payload, padding, rfl, padded, fits, accepted⟩
  · rw [rejected]
    exact .rejected reason
  · rw [accepted]
    exact .framed consumed packetLength first payload padding positive inside fits padded

theorem decodePlain_decoded : Decoded buf (decodePlain buf stageCap) := by
  by_cases wrong : 4 ≤ buf.length ∧ (plainLength buf = 0 ∨ maxPacketLen < plainLength buf)
  · have header : fromBigEndian (buf.take 4) = plainLength buf := rfl
    rw [decodePlain, if_neg (Nat.not_lt.mpr wrong.1), header, if_pos wrong.2]
    exact .rejected _
  by_cases complete : 4 ≤ buf.length ∧ 4 + plainLength buf ≤ buf.length
  · have valid : 0 < plainLength buf ∧ plainLength buf ≤ maxPacketLen := by omega
    have holds : plainLength buf ≤ stageCap := valid.2
    rw [decodePlain_complete valid.1 valid.2 complete.2 holds]
    apply decoded_of_message
    · rw [length_drop, length_take]
      omega
    · omega
    · exact complete.2
  · rw [decodePlain_incomplete stageCap (by omega) (by omega)]
    exact .incomplete

section

variable [Crypto]

theorem decodeAead_rejected {keys : CipherKeys} (four : 4 ≤ buf.length)
    (wrong : aeadLength keys seqno buf = 0 ∨ maxPacketLen < aeadLength keys seqno buf ∨
      aeadLength keys seqno buf % packetBlockSize ≠ 0) :
    decodeAead buf staging keys seqno = .error (.error .protocolError) := by
  have header : fromBigEndian (Crypto.chacha20 keys.header 0 (nonceForSeqno seqno) (buf.take 4)) =
      aeadLength keys seqno buf := rfl
  rw [decodeAead, if_neg (by omega)]
  simp only [header]
  rw [if_pos wrong]

theorem decodeAead_decoded {keys : CipherKeys} :
    Decoded buf (decodeAead buf stageCap keys seqno) := by
  by_cases wrong : 4 ≤ buf.length ∧ (aeadLength keys seqno buf = 0 ∨
      maxPacketLen < aeadLength keys seqno buf ∨ aeadLength keys seqno buf % packetBlockSize ≠ 0)
  · rw [decodeAead_rejected wrong.1 wrong.2]
    exact .rejected _
  by_cases complete : 4 ≤ buf.length ∧ 4 + aeadLength keys seqno buf + 16 ≤ buf.length
  · have valid : 0 < aeadLength keys seqno buf ∧ aeadLength keys seqno buf ≤ maxPacketLen ∧
        aeadLength keys seqno buf % packetBlockSize = 0 := by omega
    have holds : aeadLength keys seqno buf ≤ stageCap := valid.2.1
    rw [decodeAead_complete valid.1 valid.2.1 valid.2.2 complete.2 holds]
    simp only
    split
    · exact .rejected _
    rename_i decrypted
    apply decoded_of_message
    · rw [length_of_chachapolyDecrypt decrypted, length_drop, length_take]
      omega
    · omega
    · exact complete.2
  · rw [decodeAead_incomplete stageCap (by omega) (by omega)]
    exact .incomplete

theorem decodeNext_decoded (connection : Connection) (inbuf : Octets) :
    Decoded inbuf (decodeNext connection inbuf) := by
  rw [decodeNext]
  cases connection.rxKeys with
  | none => exact decodePlain_decoded
  | some keys => exact decodeAead_decoded

end
end ServiceOS.Ssh
