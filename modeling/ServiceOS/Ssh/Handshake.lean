import ServiceOS.Ssh.Transport

/-! # The handshake

The handlers of `transport.rs` for the identification lines and for the messages
that come before the transport is established. -/

namespace ServiceOS.Ssh

open ByteString Fallible

inductive Dispatch
  | handled
  | passthrough
  | auth
  | deliverData (length : Nat)

/-- An operation that only fails if a buffer is too small stops with `notReady`. -/
def builtOr {Answer : Type} (built : Except (Stop WireErr) Answer) : Handler Answer :=
  match built with
  | .error _ => fail (.error .notReady)
  | .ok value => return value

section

variable [Crypto]

def emitMyKexinit : Handler Unit := do
  let cookie ← gets (·.cookie)
  let message ← builtOr (buildKexinit cookie 1024)
  modify fun connection => { connection with myKexinit := message }
  emitPacket message

/-! ## Identification -/

def acceptIdent (consumed : Nat) (ident : Octets) : Receiver Unit := do
  let ident ← liftM (Checked.copyInto identMax ident : Except (Fault Fail) _)
  modify fun transport => { transport with
    inbuf := transport.inbuf.drop consumed
    connection := { transport.connection with peerIdent := ident, state := .kexInit } }

def tryVersionServer : Receiver Bool := do
  let inbuf ← gets (·.inbuf)
  match lineFeed inbuf with
  | none =>
    if lineCap ≤ inbuf.length then
      within (failDisconnect .protocolError "identification line too long")
    else
      return false
  | some lf =>
    let line := trimLine (inbuf.take lf)
    match parseIdentification line with
    | .ok ident => do
      acceptIdent (lf + 1) ident
      within emitMyKexinit
      return true
    | .error error =>
      if error = .badPrefix ∧ (ascii "SSH-").isPrefixOf line then
        within (failDisconnect .protocolVersionNotSupported "unsupported SSH protocol version")
      else
        within (failDisconnect .protocolError "malformed identification line")

def tryVersionClient : Receiver Bool := do
  let inbuf ← gets (·.inbuf)
  match parseServerIdentification inbuf preLinesMax with
  | .ok none => return false
  | .ok (some (consumed, ident)) => do
    acceptIdent consumed ident
    return true
  | .error .tooLong => within (failDisconnect .protocolError "identification line too long")
  | .error .badPrefix => within (failDisconnect .protocolError "too many pre-identification lines")
  | .error _ => within (failDisconnect .protocolError "malformed identification line")

def tryVersion : Receiver Bool := do
  let role ← gets (·.connection.role)
  match role with
  | .server => tryVersionServer
  | .client => tryVersionClient

/-! ## Messages that may come in any state -/

def takePeerDisconnect {Answer : Type} (info : FrameInfo) : Handler Answer := do
  let fields ← staged (info.payloadStart + 1) (info.payloadStart + info.payloadLen)
  let (reason, afterReason) :=
    (withDefault Reader.u32 DisconnectReason.byApplication.code) fields
  let reason := match reason with
    | .error _ => DisconnectReason.byApplication.code
    | .ok code => code
  let desc := ((Reader.string.result? afterReason).getD []).take peerDescCap
  modify fun connection => { connection with
    peerDesc := desc
    peerReason := some reason
    state := .closed }
  fail (.error (.peerDisconnect reason))

def replyUnimplemented (offenderSeq : Nat) : Handler Unit :=
  emitPacket (3 :: toBigEndian 4 offenderSeq)

/-- The sequence number before the next one: the number of the packet at hand. -/
def lastSeq : Handler Nat := gets fun connection => (connection.rxSeq + (2 ^ 32 - 1)) % 2 ^ 32

variable (msg : UInt8)

/-- `none` for a message that is left to the state. -/
def dispatchPreEstablished (info : FrameInfo) : Handler (Option Dispatch) :=
  if msg = 1 then
    takePeerDisconnect info
  else if msg = 2 ∨ msg = 3 ∨ msg = 4 then
    return some .handled
  else if msg = 5 then
    failDisconnect .serviceNotAvailable
      "service requests not implemented (no authentication this wave)"
  else
    return none

def unexpectedKexMessage : Bool := msg == 20 || msg == 21 || msg == 30 || msg == 31

def dispatchUnexpected : Handler Dispatch := do
  if unexpectedKexMessage msg then
    failDisconnect .protocolError "key exchange message out of order"
  else
    let seq ← lastSeq
    replyUnimplemented seq
    return .handled

/-! ## KEXINIT -/

def negotiateWith (payload : Octets) (parsed : KexInitRef) :
    Except (Fault Fail) (Except String Negotiated) := do
  let kex ← listAt payload parsed.kex
  let hostkey ← listAt payload parsed.hostkey
  let encC2s ← listAt payload parsed.encC2s
  let encS2c ← listAt payload parsed.encS2c
  let macC2s ← listAt payload parsed.macC2s
  let macS2c ← listAt payload parsed.macS2c
  let compC2s ← listAt payload parsed.compC2s
  let compS2c ← listAt payload parsed.compS2c
  return negotiate kex hostkey encC2s encS2c macC2s macS2c compC2s compS2c

def enterKexReply : Handler Unit := do
  let role ← gets (·.role)
  match role with
  | .server => modify fun connection => { connection with state := .kexReply }
  | .client => do
    let seed ← gets (·.x25519Seed)
    let message ← builtOr (buildEcdhInit (Crypto.x25519Public seed) 64)
    emitPacket message
    modify fun connection => { connection with state := .kexReply }

def handleKexinit (info : FrameInfo) : Handler Dispatch := do
  let peerKexinit ← gets (·.peerKexinit)
  if peerKexinit ≠ [] then
    failDisconnect .protocolError "duplicate KEXINIT"
  else if kexinitCap < info.payloadLen then
    failDisconnect .protocolError "KEXINIT payload too large"
  else
    let payload ← staged info.payloadStart (info.payloadStart + info.payloadLen)
    let payload ← liftM (Checked.copyInto kexinitCap payload : Except (Fault Fail) _)
    modify fun connection => { connection with peerKexinit := payload }
    match parseKexinit payload with
    | none => failDisconnect .protocolError "malformed KEXINIT"
    | some parsed =>
      let chosen ← liftM (negotiateWith payload parsed)
      match chosen with
      | .error failure => failDisconnect .keyExchangeFailed failure
      | .ok negotiated => do
        modify fun connection => { connection with negotiated := some negotiated }
        enterKexReply
        return .handled

def dispatchKexinit (info : FrameInfo) : Handler Dispatch := do
  let common ← dispatchPreEstablished msg info
  match common with
  | some dispatch => return dispatch
  | none => if msg = sshMsgKexinit then handleKexinit info else dispatchUnexpected msg

/-! ## The exchange -/

/-- The encoding of the shared secret, in a buffer of 40 bytes. -/
def secretMpint (secret : Bytes 32) : Except (Stop WireErr) Octets :=
  Writer.build 40 (Writer.mpintBe secret.val)

/-- The server's half of the exchange, once the secret is known. -/
def answerEcdhInit (e : Bytes 32) (secret : Bytes 32) : Handler Dispatch := do
  let seed ← gets (·.x25519Seed)
  modify fun connection => { connection with
    eClient := e
    fServer := Crypto.x25519Public seed }
  let kMpint ← builtOr (secretMpint secret)
  modify fun connection => { connection with kMpint := kMpint }
  let connection ← gets id
  let kS ← builtOr (hostKeyBlob connection.hostPub 96)
  let h := exchangeHash connection.peerIdent serverBannerText connection.peerKexinit
    connection.myKexinit (stringField kS) connection.eClient connection.fServer connection.kMpint
  modify fun connection => { connection with exchangeH := h }
  let signature ← builtOr (signatureBlob (Crypto.sign connection.hostSeed h.val) 96)
  let reply ← builtOr (buildEcdhReply kS connection.fServer signature 320)
  emitPacket reply
  emitPacket [sshMsgNewkeys]
  let (c2s, s2c) := deriveSessionKeys connection.kMpint h
  modify fun connection => { connection with
    pendingRx := some c2s
    txKeys := some s2c
    sessionId := some h
    state := .newKeys }
  return .handled

def handleEcdhInit (info : FrameInfo) : Handler Dispatch := do
  let payload ← staged info.payloadStart (info.payloadStart + info.payloadLen)
  match parseEcdhInit payload with
  | none => failDisconnect .keyExchangeFailed "invalid client ephemeral public key"
  | some e =>
    let seed ← gets (·.x25519Seed)
    match sharedSecret seed e with
    | none => failDisconnect .keyExchangeFailed "all-zero X25519 shared secret"
    | some secret => answerEcdhInit e secret

/-- The client's half of the exchange, once the secret is known. -/
def finishEcdhReply (hostPub : Bytes 32) (kS sigBlob : Octets) (f secret : Bytes 32) :
    Handler Dispatch := do
  let kMpint ← builtOr (secretMpint secret)
  let connection ← gets id
  let h := exchangeHash serverBannerText connection.peerIdent connection.myKexinit
    connection.peerKexinit kS (Crypto.x25519Public connection.x25519Seed) f kMpint
  if !verifyExchangeSignature hostPub h sigBlob then
    failDisconnect .hostKeyNotVerifiable "host key signature verification failed"
  else
    let (c2s, s2c) := deriveSessionKeys kMpint h
    emitPacket [sshMsgNewkeys]
    modify fun connection => { connection with
      txKeys := some c2s
      pendingRx := some s2c
      exchangeH := h
      sessionId := some h
      state := .newKeys }
    return .handled

def handleEcdhReply (info : FrameInfo) : Handler Dispatch := do
  let start := info.payloadStart
  let payload ← staged start (start + info.payloadLen)
  match parseEcdhReply payload with
  | none => failDisconnect .protocolError "malformed ECDH_REPLY"
  | some parsed =>
    let keyBlob ← staged (start + parsed.hostKey.1 + 4) (start + parsed.hostKey.2)
    match parseHostKeyBlob keyBlob with
    | none =>
      failDisconnect .hostKeyNotVerifiable "unsupported or malformed host key blob"
    | some hostPub =>
      let seed ← gets (·.x25519Seed)
      match sharedSecret seed parsed.f with
      | none => failDisconnect .keyExchangeFailed "all-zero X25519 shared secret"
      | some secret =>
        let kS ← staged (start + parsed.hostKey.1) (start + parsed.hostKey.2)
        let sigBlob ← staged (start + parsed.sig.1 + 4) (start + parsed.sig.2)
        finishEcdhReply hostPub kS sigBlob parsed.f secret

def dispatchKexreply (info : FrameInfo) : Handler Dispatch := do
  let common ← dispatchPreEstablished msg info
  match common with
  | some dispatch => return dispatch
  | none =>
    let role ← gets (·.role)
    if role = .server ∧ msg = sshMsgKexEcdhInit then
      handleEcdhInit info
    else if role = .client ∧ msg = sshMsgKexEcdhReply then
      handleEcdhReply info
    else
      dispatchUnexpected msg

/-! ## NEWKEYS -/

def dispatchNewkeys (info : FrameInfo) : Handler Dispatch := do
  let common ← dispatchPreEstablished msg info
  match common with
  | some dispatch => return dispatch
  | none =>
    if msg = sshMsgNewkeys then
      let pendingRx ← gets (·.pendingRx)
      match pendingRx with
      | none => failDisconnect .protocolError "NEWKEYS without pending keys"
      | some keys => do
        modify fun connection => { connection with
          pendingRx := none
          rxKeys := some keys
          state := .established }
        return .handled
    else
      dispatchUnexpected msg

end
end ServiceOS.Ssh
