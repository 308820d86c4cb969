import ServiceOS.Foundation.Loop
import ServiceOS.Ssh.Channel
import ServiceOS.Ssh.Handshake

/-! # Feeding the transport

The packet loop of `transport.rs`: bytes are collected, packets are decoded one
at a time and dispatched by the state of the connection. -/

namespace ServiceOS.Ssh

open ByteString Fallible

inductive Feed
  | progress
  | packet (msgType : UInt8) (payload : Octets)
  | authQuery
  | channelData (data : Octets)
deriving DecidableEq

section

variable [Crypto]

/-! ## Dispatch -/

def passSimple (outcome : ChanSimple) : Dispatch :=
  match outcome with
  | .handled => .handled
  | .passthrough => .passthrough

def dispatchEstablished (msg : UInt8) (info : FrameInfo) (seq : Nat) : Handler Dispatch := do
  let start := info.payloadStart
  let len := info.payloadLen
  if msg = 1 then
    takePeerDisconnect info
  else if msg = 2 ∨ msg = 3 ∨ msg = 4 then
    return .handled
  else if msg = 5 then
    handleServiceRequest start len
    return .handled
  else if msg = sshMsgUserauthRequest then
    handleUserauthRequest start len
    let phase ← gets (·.auth.phase)
    return if phase = .pending then .auth else .handled
  else if msg = sshMsgGlobalRequest then
    handleGlobalRequest start len
    return .handled
  else if msg = sshMsgChannelOpen then
    handleChannelOpen start len
    return .handled
  else if msg = sshMsgChannelWindowAdjust then
    let outcome ← handleWindowAdjust start len
    return passSimple outcome
  else if msg = sshMsgChannelEof then
    let outcome ← handleChannelEof start len
    return passSimple outcome
  else if msg = sshMsgChannelClose then
    let outcome ← handleChannelClose start len
    return passSimple outcome
  else if msg = sshMsgChannelRequest then
    handleChannelRequest start len
    return .handled
  else if msg = sshMsgChannelData then
    let outcome ← tryChannelData start len
    match outcome with
    | .data length => return .deliverData length
    | .passthrough => return .passthrough
    | .handled => return .handled
  else if msg = 20 then
    failDisconnect .protocolError "rekeying not supported"
  else if msg = 21 ∨ msg = 30 ∨ msg = 31 then
    failDisconnect .protocolError "key exchange message outside key exchange"
  else
    replyUnimplemented seq
    return .passthrough

def dispatch (info : FrameInfo) (seq : Nat) : Handler Dispatch := do
  let proc ← gets (·.proc)
  let msg ← liftM (Checked.index proc info.payloadStart : Except (Fault Fail) _)
  let state ← gets (·.state)
  match state with
  | .kexInit => dispatchKexinit msg info
  | .kexReply => dispatchKexreply msg info
  | .newKeys => dispatchNewkeys msg info
  | .established => dispatchEstablished msg info seq
  | .versionExchange | .closed => fail (.error .closed)

/-! ## One packet -/

def decodeNext (connection : Connection) (inbuf : Octets) :
    Except (Fault DisconnectReason) (Option (FrameInfo × Octets)) :=
  match connection.rxKeys with
  | none => decodePlain inbuf stageCap
  | some keys => decodeAead inbuf stageCap keys connection.rxSeq

def describeDecodeFailure : DisconnectReason → String
  | .macError => "packet authentication failure"
  | _ => "malformed binary packet"

def tryPacket : Receiver (Option (FrameInfo × Nat)) := do
  let transport ← gets id
  let seq := transport.connection.rxSeq
  match decodeNext transport.connection transport.inbuf with
  | .error .panicked => fail .panicked
  | .error (.error reason) => within (failDisconnect reason (describeDecodeFailure reason))
  | .ok none => return none
  | .ok (some (info, message)) => do
    let payload ← liftM (info.payload message : Except (Fault Fail) _)
    modify fun transport => { transport with
      inbuf := transport.inbuf.drop info.consumed
      connection := record (.received payload) { transport.connection with
        proc := message
        rxSeq := (transport.connection.rxSeq + 1) % 2 ^ 32 } }
    return some (info, seq)

/-- What `feed` reports for a dispatched packet, or `none` to go on. -/
def report (info : FrameInfo) : Dispatch → Handler (Option Feed)
  | .handled => return none
  | .passthrough => do
    let proc ← gets (·.proc)
    let msg ← liftM (Checked.index proc info.payloadStart : Except (Fault Fail) _)
    let payload ← staged info.payloadStart (info.payloadStart + info.payloadLen)
    return some (.packet msg payload)
  | .auth => return some .authQuery
  | .deliverData length => do
    let start := info.payloadStart + dataHeader
    let data ← staged start (start + length)
    modify (record (.delivered data))
    return some (.channelData data)

def handlePacket (info : FrameInfo) (seq : Nat) : Handler (Option Feed) := do
  let outcome ← dispatch info seq
  report info outcome

/-! ## The loop -/

/-- One round of the loop of `feed`: what it reports, or `none` to go on. A parked
request holds everything up. -/
def feedRound : Receiver (Option Feed) := do
  let phase ← gets (·.connection.auth.phase)
  let state ← gets (·.connection.state)
  if phase = .pending then
    return some .progress
  else if state = .versionExchange then
    let identified ← tryVersion
    return if identified then none else some .progress
  else
    let next ← tryPacket
    match next with
    | none => return some .progress
    | some (info, seq) => within (handlePacket info seq)

def feedBody (transport : SshTransport) :
    (Except (Stop (Fault Fail)) Feed × SshTransport) ⊕ SshTransport :=
  match feedRound transport with
  | (.ok none, transport) => .inr transport
  | (.ok (some feed), transport) => .inl (.ok feed, transport)
  | (.error stop, transport) => .inl (.error stop, transport)

/-- Each round takes bytes off the input, so it needs no more rounds than that. -/
def feedLoop : Receiver Feed := fun transport =>
  (Loop.iterate feedBody (transport.inbuf.length + 1) transport).getD
    (.error .outOfFuel, transport)

def feed (bytes : Octets) : Receiver Feed := do
  let state ← gets (·.connection.state)
  if state = .closed then
    fail (.error .closed)
  else
    pushIn bytes
    feedLoop

/-! ## Construction -/

/-- `setup` on a placeholder. -/
def newConnection (role : Role) (hostSeed x25519Seed : Bytes 32) (cookie : Bytes 16) :
    Connection where
  role := role
  state := .versionExchange
  out := []
  proc := []
  hostSeed := hostSeed
  hostPub := Crypto.publicKey hostSeed
  x25519Seed := x25519Seed
  cookie := cookie
  peerIdent := []
  myKexinit := []
  peerKexinit := []
  negotiated := none
  eClient := Bytes.zero 32
  fServer := Bytes.zero 32
  kMpint := []
  exchangeH := Bytes.zero 32
  sessionId := none
  txKeys := none
  rxKeys := none
  pendingRx := none
  rxSeq := 0
  txSeq := 0
  peerDesc := []
  peerReason := none
  auth := .new
  chan := .new
  history := []

def server (hostSeed x25519Seed : Bytes 32) (cookie : Bytes 16) : SshTransport where
  connection := (emitRaw serverBanner (newConnection .server hostSeed x25519Seed cookie)).2
  inbuf := []

def client (x25519Seed : Bytes 32) (cookie : Bytes 16) : SshTransport where
  connection := (emitMyKexinit (emitRaw serverBanner
    (newConnection .client (Bytes.zero 32) x25519Seed cookie)).2).2
  inbuf := []

end

/-! ## A sample peer

Cryptography that runs are computed with, the keystream and the tags being zero and
every signature valid, and what a client sends under it. -/

namespace Sample

open Bytes

def filled (length : Nat) (byte : UInt8) : Bytes length :=
  ⟨List.replicate length byte, List.length_replicate⟩

scoped instance crypto : Crypto where
  block _ _ _ := zero 64
  poly1305 _ _ := zero 16
  sha256 _ := zero 32
  x25519 _ _ := filled 32 1
  x25519Public _ := filled 32 1
  publicKey seed := seed
  sign _ _ := zero 64
  verify _ _ _ := true

def server : SshTransport := Ssh.server (zero 32) (zero 32) (zero 16)

def line : Octets := ascii "SSH-2.0-client" ++ [13, 10]

def built (message : Except (Stop WireErr) Octets) : Octets :=
  match message with
  | .error _ => []
  | .ok bytes => bytes

/-- All a client sends before the connection is established. -/
def handshake : Octets :=
  line ++ plainFrame (built (buildKexinit (zero 16) 1024)) ++
    plainFrame (built (buildEcdhInit (filled 32 1) 64)) ++ plainFrame [sshMsgNewkeys]

def packets (first : Nat) (payloads : List Octets) : Octets :=
  (payloads.zipIdx first).flatMap fun payload =>
    aeadFrame payload.1 ⟨zero 32, zero 32⟩ payload.2

def serviceRequest : Octets := 5 :: stringField (ascii "ssh-userauth")

def passwordRequest : Octets :=
  sshMsgUserauthRequest :: stringField (ascii "user") ++ stringField (ascii "ssh-connection") ++
    stringField passwordMethod ++ 0 :: stringField (ascii "secret")

def channelOpen (window : Nat) : Octets :=
  sshMsgChannelOpen :: stringField (ascii "session") ++ u32Field 7 ++ u32Field window ++
    u32Field 32768

end Sample

end ServiceOS.Ssh
