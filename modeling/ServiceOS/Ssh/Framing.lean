import ServiceOS.Ssh.Feed

/-! # Round trips of the framings

A packet that was encoded is decoded to its payload, whatever follows it, and is
incomplete as long as a byte of it is missing. -/

namespace ServiceOS.Ssh

open ByteString

/-- A decoder finds a payload in front of other bytes, and nothing in a part of the
packet. `staging` is the size of the buffer for the message. -/
structure Recovers (decode : Octets → Nat →
      Except (Fault DisconnectReason) (Option (FrameInfo × Octets)))
    (wire payload : Octets) : Prop where
  whole : ∀ rest staging, wire.length ≤ staging → ∃ info message,
    decode (wire ++ rest) staging = .ok (some (info, message)) ∧ info.consumed = wire.length ∧
      (info.payload message : Except (Fault Fail) _) = .ok payload
  part : ∀ front staging, front <+: wire → front ≠ wire → decode front staging = .ok none

theorem decodePlain_recovers (fits : payload.length ≤ maxPayloadLen) :
    Recovers decodePlain (plainFrame payload) payload where
  whole rest staging holds := by
    rw [length_plainFrame] at holds
    exact ⟨_, _, decodePlain_plainFrame fits (by omega) rest, rfl, payload_paddedMessage _ _ _ _⟩
  part front staging cut proper := decodePlain_cut_plainFrame staging fits cut proper

theorem decodeAead_recovers [Crypto] (fits : payload.length ≤ maxPayloadLen) :
    Recovers (decodeAead · · keys seqno) (aeadFrame payload keys seqno) payload where
  whole rest staging holds := by
    rw [length_aeadFrame] at holds
    exact ⟨_, _, decodeAead_aeadFrame keys seqno fits (by omega) rest, rfl,
      payload_paddedMessage _ _ _ _⟩
  part front staging cut proper := decodeAead_cut_aeadFrame staging fits cut proper

theorem emitPacket_aeadFrame [Crypto] (fits : payload.length ≤ maxPayloadLen)
    (keyed : connection.txKeys = some keys)
    (roomy : connection.out.length + (aeadFrame payload keys connection.txSeq).length ≤ outCap) :
    (emitPacket payload connection).1 = .ok () ∧
      (emitPacket payload connection).2.out =
        connection.out ++ aeadFrame payload keys connection.txSeq := by
  have frame : packetFrame connection.txKeys connection.txSeq payload =
      aeadFrame payload keys connection.txSeq := by
    rw [keyed, packetFrame]
  have room : connection.Roomy payload := by
    rwa [Connection.Roomy, ← length_packetFrame connection.txKeys connection.txSeq, frame]
  rw [emitPacket_eq fits, if_pos room, Connection.emit, if_pos room]
  exact ⟨rfl, congrArg (connection.out ++ ·) frame⟩

/-- Both framings give back every payload that may be sent, and the three ways to
write a packet under the keys agree. -/
theorem packet_round_trip [Crypto] (payload : Octets) (keys : CipherKeys) (seqno : Nat)
    (fits : payload.length ≤ maxPayloadLen) :
    (∃ wire, (∀ room, wire.length ≤ room → encodePlain payload room = .ok wire) ∧
      Recovers decodePlain wire payload) ∧
    ∃ wire, (∀ scratch room, wire.length ≤ scratch → wire.length ≤ room →
        encodeAead payload keys seqno scratch room = .ok wire) ∧
      Recovers (decodeAead · · keys seqno) wire payload ∧
      (∀ room, wire.length ≤ room →
        encodeAeadMsg (paddedMessage payload (paddingLenAead payload.length packetBlockSize)) keys
          seqno room = .ok wire) ∧
      ∀ connection : Connection, connection.txKeys = some keys → connection.txSeq = seqno →
        connection.out.length + wire.length ≤ outCap →
        (emitPacket payload connection).1 = .ok () ∧
          (emitPacket payload connection).2.out = connection.out ++ wire := by
  refine ⟨⟨plainFrame payload, fun room => encodePlain_eq fits, decodePlain_recovers fits⟩,
    aeadFrame payload keys seqno, ?_, decodeAead_recovers fits, ?_, ?_⟩
  · intro scratch room holds roomy
    rw [length_aeadFrame] at holds roomy
    rw [encodeAead, if_neg (Nat.not_lt.mpr fits), if_neg (by omega), if_neg (Nat.not_lt.mpr roomy),
      aeadFrame]
  · intro room roomy
    apply encodeAeadMsg_eq keys seqno (paddedMessage_ne_nil _ _) _ roomy
    rw [length_paddedMessage]
    exact (paddedLength_bounds fits).1
  intro connection keyed counted roomy
  subst counted
  exact emitPacket_aeadFrame fits keyed roomy

open Sample in
theorem packet_round_trip_of_one_byte :
    ([7] : Octets).length ≤ maxPayloadLen ∧
      ∃ wire, (∀ room, wire.length ≤ room → encodePlain [7] room = .ok wire) ∧
        Recovers decodePlain wire [7] :=
  ⟨by decide, (packet_round_trip [7] ⟨filled 32 1, filled 32 2⟩ 0 (by decide)).1⟩

end ServiceOS.Ssh
