import ServiceOS.Ssh.Auth

/-! # The session channel

`channel.rs`: one channel, opened by the peer. What the host sends waits in a
buffer until the window of the peer lets it go. -/

namespace ServiceOS.Ssh

open ByteString Fallible Reader

def sshMsgGlobalRequest : UInt8 := 80

def sshMsgRequestFailure : UInt8 := 82

def sshMsgChannelOpen : UInt8 := 90

def sshMsgChannelOpenConfirmation : UInt8 := 91

def sshMsgChannelOpenFailure : UInt8 := 92

def sshMsgChannelWindowAdjust : UInt8 := 93

def sshMsgChannelData : UInt8 := 94

def sshMsgChannelEof : UInt8 := 96

def sshMsgChannelClose : UInt8 := 97

def sshMsgChannelRequest : UInt8 := 98

def sshMsgChannelSuccess : UInt8 := 99

def sshMsgChannelFailure : UInt8 := 100

def localRecvWindow : Nat := 16384

def pendingOutCap : Nat := 4096

def chunkMax : Nat := 1024

def localId : Nat := 0

def openAdminProhibited : Nat := 1

def dataHeader : Nat := 9

def maxInboundBatch : Nat := 4096

def u32Max : Nat := 2 ^ 32 - 1

/-! ## Reading messages -/

structure ParsedOpen where
  sender : Nat
  initialWindow : Nat

inductive ParsedRequest
  | pty (width height : Nat)
  | shell
  | refused

def readFields {Answer : Type} (reader : Reader Answer) (payload : Octets) :
    Except (Fault Fail) (Option Answer) := do
  let fields ← fieldsOf payload
  return reader.result? fields

def readOpen : Reader ParsedOpen := do
  let kind ← string
  let sender ← u32
  let initialWindow ← u32
  if kind ≠ ascii "session" then fail .truncated else return ⟨sender, initialWindow⟩

def parseOpen : Octets → Except (Fault Fail) (Option ParsedOpen) := readFields readOpen

def readOpenSender : Reader Nat := do
  let _kind ← string
  u32

def parseOpenSender : Octets → Except (Fault Fail) (Option Nat) := readFields readOpenSender

def readRequest : Reader ParsedRequest := do
  let _recipient ← u32
  let name ← string
  let _wantReply ← u8
  if name = ascii "pty-req" then
    let _term ← string
    let width ← u32
    let height ← u32
    let _xpixels ← u32
    let _ypixels ← u32
    let _modes ← string
    return .pty width height
  else if name = ascii "shell" then
    return .shell
  else
    return .refused

def parseRequest : Octets → Except (Fault Fail) (Option ParsedRequest) := readFields readRequest

def readWantReply : Reader UInt8 := do
  let _recipient ← u32
  let _name ← string
  u8

def requestWantReply : Octets → Except (Fault Fail) (Option UInt8) := readFields readWantReply

def readRecipientU32 : Reader (Nat × Nat) := do
  let recipient ← u32
  let extra ← withDefault u32 0
  return (recipient, extra)

def parseRecipientU32 : Octets → Except (Fault Fail) (Option (Nat × Nat)) :=
  readFields readRecipientU32

def readDataHeader : Reader (Nat × Nat) := do
  let recipient ← u32
  let data ← string
  return (recipient, data.length)

def parseDataHeader : Octets → Except (Fault Fail) (Option (Nat × Nat)) :=
  readFields readDataHeader

def readGlobalRequest : Reader Bool := do
  let _name ← string
  let wantReply ← u8
  return wantReply != 0

def parseGlobalRequest : Octets → Except (Fault Fail) (Option Bool) :=
  readFields readGlobalRequest

/-! ## Messages to the peer -/

def u32Field (value : Nat) : Octets := toBigEndian 4 value

def openConfirmation (sender : Nat) : Octets :=
  sshMsgChannelOpenConfirmation :: u32Field sender ++ u32Field localId ++
    u32Field localRecvWindow ++ u32Field maxPayloadLen

/-- The buffer behind the reason takes the description. -/
def openFailure (sender : Nat) : Octets :=
  sshMsgChannelOpenFailure :: u32Field sender ++ u32Field openAdminProhibited ++
    (Writer.twoStrings (ascii "only session channels are supported") [] ⟨51, []⟩).2.written

/-- A message that only names the channel of the peer. -/
def channelMessage (kind : UInt8) (remoteId : Nat) : Octets := kind :: u32Field remoteId

def windowAdjust (remoteId n : Nat) : Octets :=
  channelMessage sshMsgChannelWindowAdjust remoteId ++ u32Field n

def channelData (remoteId : Nat) (data : Octets) : Octets :=
  channelMessage sshMsgChannelData remoteId ++ stringField data

/-! ## Handlers -/

inductive ChanSimple
  | handled
  | passthrough

inductive ChannelOutcome
  | handled
  | data (length : Nat)
  | passthrough

def changeChannel (change : ChannelState → ChannelState) : Handler Unit :=
  modify fun connection => { connection with chan := change connection.chan }

section

variable [Crypto]

variable (start len : Nat)

def handleChannelOpen : Handler Unit := do
  let body ← staged start (start + len)
  let parsed ← liftM (parseOpen body)
  match parsed with
  | some request =>
    let opened ← gets (·.chan.opened)
    if opened then
      failDisconnect .protocolError "duplicate session channel (single-session v0)"
    else
      modify (record (.opened request.initialWindow))
      changeChannel fun chan => { chan with
        opened := true
        remoteId := request.sender
        remoteWindow := request.initialWindow }
      emitPacket (openConfirmation request.sender)
  | none =>
    let sender ← liftM (parseOpenSender body)
    match sender with
    | none => failDisconnect .protocolError "malformed CHANNEL_OPEN"
    | some sender => emitPacket (openFailure sender)

def applyRequest : ParsedRequest → Handler Bool
  | .pty width height => do
    changeChannel fun chan => { chan with pty := true, ptyWidth := width, ptyHeight := height }
    return true
  | .shell => do
    changeChannel fun chan => { chan with shell := true }
    return true
  | .refused => return false

def handleChannelRequest : Handler Unit := do
  let fields ← staged (start + 1) (start + len)
  match u32.result? fields with
  | none => failDisconnect .protocolError "malformed CHANNEL_REQUEST"
  | some recipient =>
    if recipient ≠ localId then
      failDisconnect .protocolError "channel request for unknown channel"
    else
      let body ← staged start (start + len)
      let parsed ← liftM (parseRequest body)
      match parsed with
      | none => failDisconnect .protocolError "malformed CHANNEL_REQUEST"
      | some request =>
        let wantReply ← liftM (requestWantReply body)
        let success ← applyRequest request
        if wantReply.getD 0 = 0 then
          return ()
        else
          let remoteId ← gets (·.chan.remoteId)
          emitPacket (channelMessage
            (if success then sshMsgChannelSuccess else sshMsgChannelFailure) remoteId)

def tryChannelData : Handler ChannelOutcome := do
  let body ← staged start (start + len)
  let parsed ← liftM (parseDataHeader body)
  match parsed with
  | none => failDisconnect .protocolError "malformed CHANNEL_DATA"
  | some (recipient, dataLen) =>
    let role ← gets (·.role)
    let chan ← gets (·.chan)
    if recipient ≠ localId then
      return if role = .client then .passthrough else .handled
    else if !chan.opened || chan.closeIn then
      return .handled
    else if maxInboundBatch < dataLen then
      failDisconnect .protocolError "oversized CHANNEL_DATA"
    else
      return .data dataLen

def clientPassthrough : Handler ChanSimple := do
  let role ← gets (·.role)
  return if role = .client then .passthrough else .handled

/-- At most one packet goes out, and the buffer keeps the rest. -/
def flushPendingOut : Handler Unit := do
  let chan ← gets (·.chan)
  if chan.pendingOut = [] ∨ chan.remoteWindow = 0 then
    return ()
  else
    let chunk := min (min chan.pendingOut.length chunkMax) chan.remoteWindow
    let data ← liftM (Checked.range chan.pendingOut 0 chunk : Except (Fault Fail) _)
    let data ← liftM (Checked.copyInto chunkMax data : Except (Fault Fail) _)
    emitPacket (channelData chan.remoteId data)
    changeChannel fun chan => { chan with
      remoteWindow := chan.remoteWindow - chunk
      pendingOut := chan.pendingOut.drop chunk }

def handleWindowAdjust : Handler ChanSimple := do
  let body ← staged start (start + len)
  let parsed ← liftM (parseRecipientU32 body)
  match parsed with
  | none => failDisconnect .protocolError "malformed WINDOW_ADJUST"
  | some (recipient, bytes) =>
    if recipient ≠ localId then
      clientPassthrough
    else
      modify (record (.adjusted bytes))
      changeChannel fun chan => { chan with
        remoteWindow := min (chan.remoteWindow + bytes) u32Max }
      flushPendingOut
      return .handled

def handleChannelEof : Handler ChanSimple := do
  let body ← staged start (start + len)
  let parsed ← liftM (parseRecipientU32 body)
  match parsed with
  | none => failDisconnect .protocolError "malformed CHANNEL_EOF"
  | some (recipient, _) =>
    let opened ← gets (·.chan.opened)
    if recipient = localId ∧ opened then
      changeChannel fun chan => { chan with eofIn := true }
      return .handled
    else
      clientPassthrough

def handleChannelClose : Handler ChanSimple := do
  let body ← staged start (start + len)
  let parsed ← liftM (parseRecipientU32 body)
  match parsed with
  | none => failDisconnect .protocolError "malformed CHANNEL_CLOSE"
  | some (recipient, _) =>
    if recipient ≠ localId then
      clientPassthrough
    else
      changeChannel fun chan => { chan with closeIn := true }
      let chan ← gets (·.chan)
      if chan.closeOut then
        return .handled
      else
        changeChannel fun chan => { chan with closeOut := true }
        emitPacket (channelMessage sshMsgChannelClose chan.remoteId)
        return .handled

def handleGlobalRequest : Handler Unit := do
  let body ← staged start (start + len)
  let parsed ← liftM (parseGlobalRequest body)
  match parsed with
  | none => failDisconnect .protocolError "malformed GLOBAL_REQUEST"
  | some wantReply => if wantReply then emitPacket [sshMsgRequestFailure] else return ()

/-! ## Host operations -/

def ackChannelData (n : Nat) : Handler Unit := do
  let chan ← gets (·.chan)
  if n = 0 ∨ !chan.opened ∨ chan.closeOut then
    return ()
  else
    emitPacket (windowAdjust chan.remoteId n)

def sendChannelData (data : Octets) : Handler Nat := do
  let chan ← gets (·.chan)
  if !chan.opened || chan.closeOut then
    fail (.error .notReady)
  else
    let accepted := min data.length (pendingOutCap - chan.pendingOut.length)
    let pending ← liftM (Checked.copyInto pendingOutCap (chan.pendingOut ++ data.take accepted) :
      Except (Fault Fail) _)
    changeChannel fun chan => { chan with pendingOut := pending }
    flushPendingOut
    return accepted

def sendChannelEof : Handler Unit := do
  let chan ← gets (·.chan)
  if !chan.opened || chan.eofOut then
    return ()
  else
    changeChannel fun chan => { chan with eofOut := true }
    emitPacket (channelMessage sshMsgChannelEof chan.remoteId)

def sendChannelClose : Handler Unit := do
  let chan ← gets (·.chan)
  if !chan.opened || chan.closeOut then
    return ()
  else
    changeChannel fun chan => { chan with closeOut := true }
    emitPacket (channelMessage sshMsgChannelClose chan.remoteId)

end
end ServiceOS.Ssh
