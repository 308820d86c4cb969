import ServiceOS.Ssh.Kex
import ServiceOS.Ssh.Version

/-! # The transport

The data of `SshTransport` and the operations on its buffers. Every field but the
input buffer is in `Connection`: what a message does depends on nothing that has
not been taken off the input yet. -/

namespace ServiceOS.Ssh

open ByteString Fallible

def outCap : Nat := 34816

def inCap : Nat := maxWireLen + 512

def stageCap : Nat := maxPacketLen

def msgScratchCap : Nat := maxPayloadLen + packetBlockSize + 8

def lineCap : Nat := identMax + 1

def preLinesMax : Nat := 16

def peerDescCap : Nat := 128

def kexinitCap : Nat := kexinitMax

/-! ## Authentication and channel data -/

inductive AuthPhase
  | idle
  | serviceAccepted
  | pending
  | authenticated
deriving DecidableEq

structure AuthState where
  phase : AuthPhase
  fails : Nat
  user : Octets
  password : Octets

def AuthState.new : AuthState := ⟨.idle, 0, [], []⟩

/-- The session channel. `opened` is the source's `open`. -/
structure ChannelState where
  opened : Bool
  remoteId : Nat
  remoteWindow : Nat
  pty : Bool
  ptyWidth : Nat
  ptyHeight : Nat
  shell : Bool
  eofIn : Bool
  eofOut : Bool
  closeIn : Bool
  closeOut : Bool
  pendingOut : Octets

def ChannelState.new : ChannelState where
  opened := false
  remoteId := 0
  remoteWindow := 0
  pty := false
  ptyWidth := 0
  ptyHeight := 0
  shell := false
  eofIn := false
  eofOut := false
  closeIn := false
  closeOut := false
  pendingOut := []

/-! ## The connection -/

inductive Event
  | received (payload : Octets)
  | sent (payload : Octets)
  /-- A packet with this payload found no room in the output. -/
  | refused (payload : Octets)
  | serviceAccepted
  | parked
  | verdict (accepted : Bool)
  | opened (initialWindow : Nat)
  | adjusted (bytes : Nat)
  | delivered (data : Octets)
deriving DecidableEq

structure Connection where
  role : Role
  state : State
  out : Octets
  /-- The message decoded last. -/
  proc : Octets
  hostSeed : Bytes 32
  hostPub : Bytes 32
  x25519Seed : Bytes 32
  cookie : Bytes 16
  peerIdent : Octets
  myKexinit : Octets
  peerKexinit : Octets
  negotiated : Option Negotiated
  eClient : Bytes 32
  fServer : Bytes 32
  kMpint : Octets
  exchangeH : Bytes 32
  sessionId : Option (Bytes 32)
  txKeys : Option CipherKeys
  rxKeys : Option CipherKeys
  pendingRx : Option CipherKeys
  rxSeq : Nat
  txSeq : Nat
  peerDesc : Octets
  peerReason : Option Nat
  auth : AuthState
  chan : ChannelState
  /-- What the connection did, oldest first. The code keeps no such record. -/
  history : List Event

structure SshTransport where
  connection : Connection
  inbuf : Octets

abbrev Handler (Answer : Type) : Type := Fallible Connection (Fault Fail) Answer

abbrev Receiver (Answer : Type) : Type := Fallible SshTransport (Fault Fail) Answer

def within {Answer : Type} (code : Handler Answer) : Receiver Answer := fun transport =>
  let (outcome, connection) := code transport.connection
  (outcome, { transport with connection := connection })

def record (event : Event) (connection : Connection) : Connection :=
  { connection with history := connection.history ++ [event] }

def staged (start stop : Nat) : Handler Octets := do
  let proc ← gets (·.proc)
  liftM (Checked.range proc start stop : Except (Fault Fail) _)

/-! ## Output -/

def emitRaw (bytes : Octets) : Handler Unit := do
  let out ← gets (·.out)
  if outCap < out.length + bytes.length then
    fail (.error .outOfCapacity)
  else
    modify fun connection => { connection with out := connection.out ++ bytes }

section

variable [Crypto]

variable (txKeys : Option CipherKeys)

def encodePacket (txSeq : Nat) (payload : Octets) (room : Nat) :
    Except (Fault Fail) Octets :=
  match txKeys with
  | none => (encodePlain payload room).mapError fun _ => .error .outOfCapacity
  | some keys => do
    let pad := paddingLenAead payload.length packetBlockSize
    let message ← Checked.copyInto msgScratchCap (paddedMessage payload pad)
    (encodeAeadMsg message keys txSeq room).mapError fun _ => .error .outOfCapacity

def wireLength (payload : Octets) : Nat :=
  match txKeys with
  | none => 4 + 1 + payload.length + paddingLen payload.length packetBlockSize
  | some _ => 4 + 1 + payload.length + paddingLenAead payload.length packetBlockSize + 16

def emitPacket (payload : Octets) : Handler Unit := do
  let txKeys ← gets (·.txKeys)
  let txSeq ← gets (·.txSeq)
  let out ← gets (·.out)
  if outCap < out.length + wireLength txKeys payload then
    modify (record (.refused payload))
    fail (.error .outOfCapacity)
  else
    let wire ← encodePacket txKeys txSeq payload (outCap - out.length)
    modify fun connection => record (.sent payload) { connection with
      out := connection.out ++ wire
      txSeq := (connection.txSeq + 1) % 2 ^ 32 }

variable (reason : DisconnectReason)

variable (description : String)

/-- A DISCONNECT payload. The buffer behind the reason takes any description in use. -/
def disconnectPayload : Octets :=
  1 :: toBigEndian 4 reason.code ++
    (Writer.twoStrings (ascii description) [] ⟨4 + peerDescCap + 4, []⟩).2.written

/-- Go on where an operation is refused, but not where it is out of range. -/
def ignoreFail (code : Handler Unit) : Handler Unit := fun connection =>
  match code connection with
  | (.error (.error (.error _)), connection) => (.ok (), connection)
  | other => other

/-- Queue a DISCONNECT, if there is room for it, and close. -/
def failDisconnect {Answer : Type} (reason : DisconnectReason) (description : String) :
    Handler Answer := do
  ignoreFail (emitPacket (disconnectPayload reason description))
  modify fun connection => { connection with state := .closed }
  fail (.error (.localDisconnect reason description))

/-! ## Host operations on the buffers -/

def pushIn (bytes : Octets) : Receiver Unit := fun transport =>
  if bytes = [] then
    (.ok (), transport)
  else if inCap < transport.inbuf.length + bytes.length then
    (.error (.error (.error .outOfCapacity)), transport)
  else
    (.ok (), { transport with inbuf := transport.inbuf ++ bytes })

def consumeOutput (n : Nat) (transport : SshTransport) : SshTransport :=
  { transport with connection := { transport.connection with
      out := transport.connection.out.drop n } }

/-! ## What an emission does -/

def packetFrame (txSeq : Nat) (payload : Octets) : Octets :=
  match txKeys with
  | none => plainFrame payload
  | some keys => aeadFrame payload keys txSeq

theorem length_packetFrame (txSeq : Nat) (payload : Octets) :
    (packetFrame txKeys txSeq payload).length = wireLength txKeys payload := by
  cases txKeys with
  | none =>
    rw [packetFrame, wireLength, length_plainFrame]
    omega
  | some =>
    rw [packetFrame, wireLength, length_aeadFrame]
    omega

theorem encodePacket_eq {txKeys : Option CipherKeys} (txSeq : Nat)
    (fits : payload.length ≤ maxPayloadLen) (roomy : wireLength txKeys payload ≤ room) :
    encodePacket txKeys txSeq payload room = .ok (packetFrame txKeys txSeq payload) := by
  rw [← length_packetFrame txKeys txSeq] at roomy
  cases txKeys with
  | none => rw [encodePacket, encodePlain_eq fits roomy]; rfl
  | some keys =>
    have padding := paddingTo_bounds (1 + payload.length)
    have bounds := @paddedLength_bounds payload fits (1 + payload.length)
    rw [← paddingLenAead] at padding bounds
    have staged : (paddedMessage payload (paddingLenAead payload.length packetBlockSize)).length ≤
        msgScratchCap := by
      rw [length_paddedMessage, msgScratchCap, packetBlockSize]
      rw [packetBlockSize] at padding
      omega
    rw [encodePacket, Checked.copyInto_ok staged]
    simp only [bind, Except.bind]
    rw [encodeAeadMsg_eq keys txSeq (paddedMessage_ne_nil _ _)
      (by rw [length_paddedMessage]; exact bounds.1) roomy]
    rfl

variable (connection : Connection)

def Connection.queue (payload : Octets) : Connection :=
  record (.sent payload) { connection with
    out := connection.out ++ packetFrame connection.txKeys connection.txSeq payload
    txSeq := (connection.txSeq + 1) % 2 ^ 32 }

def Connection.Roomy (payload : Octets) : Prop :=
  connection.out.length + wireLength connection.txKeys payload ≤ outCap
deriving Decidable

def Connection.emit (payload : Octets) : Connection :=
  if connection.Roomy payload then connection.queue payload
  else record (.refused payload) connection

theorem emitPacket_eq (fits : payload.length ≤ maxPayloadLen) (connection : Connection) :
    emitPacket payload connection =
      (if connection.Roomy payload then .ok () else .error (.error (.error .outOfCapacity)),
        connection.emit payload) := by
  simp only [emitPacket, bind, Fallible.sequence, gets]
  by_cases roomy : connection.Roomy payload
  · rw [if_pos roomy, if_neg (Nat.not_lt.mpr roomy), Connection.emit, if_pos roomy]
    have room : wireLength connection.txKeys payload ≤ outCap - connection.out.length :=
      Nat.le_sub_of_add_le' roomy
    simp only [encodePacket_eq connection.txSeq fits room]
    rfl
  · rw [if_neg roomy, if_pos (Nat.lt_of_not_le roomy), Connection.emit, if_neg roomy]
    rfl

omit [Crypto] in
theorem length_disconnectPayload :
    (disconnectPayload reason description).length ≤ maxPayloadLen := by
  have body := Writer.length_twoStrings (ascii description) [] (4 + peerDescCap + 4)
  rw [disconnectPayload, List.length_append, List.length_cons, length_toBigEndian]
  simp only [peerDescCap, maxPayloadLen] at *
  omega

def Connection.disconnect (reason : DisconnectReason) (description : String) : Connection :=
  { connection.emit (disconnectPayload reason description) with state := .closed }

/-- A disconnect closes the connection whether or not its packet was queued. -/
theorem failDisconnect_eq (connection : Connection) :
    (failDisconnect reason description : Handler Answer) connection =
      (.error (.error (.error (.localDisconnect reason description))),
        connection.disconnect reason description) := by
  have ignored : ignoreFail (emitPacket (disconnectPayload reason description)) connection =
      (.ok (), connection.emit (disconnectPayload reason description)) := by
    rw [ignoreFail, emitPacket_eq (length_disconnectPayload reason description)]
    by_cases roomy : connection.Roomy (disconnectPayload reason description)
    · rw [if_pos roomy]
    · rw [if_neg roomy]
  rw [failDisconnect, bind_of_answer ignored]
  rfl

theorem ensures_emitPacket {connection : Connection} (fits : payload.length ≤ maxPayloadLen)
    (accepted : connection.Roomy payload → answered () (connection.queue payload))
    (refused : ¬connection.Roomy payload →
      stopped (.error (.error .outOfCapacity)) (record (.refused payload) connection)) :
    (emitPacket payload).Ensures connection answered stopped := by
  rw [Ensures, emitPacket_eq fits]
  by_cases roomy : connection.Roomy payload
  · rw [if_pos roomy, Connection.emit, if_pos roomy]
    exact accepted roomy
  · rw [if_neg roomy, Connection.emit, if_neg roomy]
    exact refused roomy

end
end ServiceOS.Ssh
