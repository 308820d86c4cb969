import ServiceOS.Ssh.Quiet

/-! # What a packet can do

Everything a packet can do to the authentication and to the channel, and the
events that go with it. The properties of runs are derived from this list. -/

namespace ServiceOS.Ssh

open ByteString Fallible Checked List

/-! ## The moves -/

def ChannelState.chunk (chan : ChannelState) : Nat :=
  min (min chan.pendingOut.length chunkMax) chan.remoteWindow

def Emitted (message : Octets) (events : List Event) : Prop :=
  events = [.sent message] ∨ events = [.refused message]

theorem emitted_disconnect [Crypto] (connection : Connection) (reason : DisconnectReason)
    (description : String) :
    ∃ events, Emitted (disconnectPayload reason description) events ∧
      (connection.disconnect reason description).history = connection.history ++ events := by
  rw [Connection.disconnect, Connection.emit]
  split
  · exact ⟨[.sent _], .inl rfl, rfl⟩
  · exact ⟨[.refused _], .inr rfl, rfl⟩

inductive Flushed (chan : ChannelState) : ChannelState → List Event → Prop
  | idle (nothing : chan.pendingOut = [] ∨ chan.remoteWindow = 0) : Flushed chan chan []
  | sent (waiting : chan.pendingOut ≠ []) (window : chan.remoteWindow ≠ 0) :
      Flushed chan
        { chan with
          remoteWindow := chan.remoteWindow - chan.chunk
          pendingOut := chan.pendingOut.drop chan.chunk }
        [.sent (channelData chan.remoteId (chan.pendingOut.take chan.chunk))]
  | refused (waiting : chan.pendingOut ≠ []) (window : chan.remoteWindow ≠ 0) :
      Flushed chan chan
        [.refused (channelData chan.remoteId (chan.pendingOut.take chan.chunk))]

def ParsedRequest.noted (chan : ChannelState) : ParsedRequest → ChannelState
  | .pty width height => { chan with pty := true, ptyWidth := width, ptyHeight := height }
  | .shell => { chan with shell := true }
  | .refused => chan

/-- What a packet with this payload makes of authentication and channel. -/
inductive Move (payload : Octets) (auth : AuthState) (chan : ChannelState) :
    AuthState → ChannelState → List Event → Prop
  | quiet (ordinary : ∀ event ∈ events, event.Ordinary) :
      Move payload auth chan auth chan events
  | acceptService {message : Octets} {events : List Event} (plain : Plain message)
      (emitted : Emitted message events) (idle : auth.phase = .idle) :
      Move payload auth chan { auth with phase := .serviceAccepted } chan
        (.serviceAccepted :: events)
  | acceptServiceAgain {message : Octets} {events : List Event} (plain : Plain message)
      (emitted : Emitted message events) (authenticated : auth.phase = .authenticated) :
      Move payload auth chan auth chan (.serviceAccepted :: events)
  | park {lengths : Nat × Nat} (user password : Octets)
      (typed : payload.head? = some sshMsgUserauthRequest)
      (shaped : parseUserauthShape payload = .ok (.ok lengths)) :
      Move payload auth chan
        { auth with phase := .pending, user := user, password := password } chan [.parked]
  | openChannel {events : List Event} (typed : payload.head? = some sshMsgChannelOpen)
      (parsed : parseOpen payload = .ok (some request)) (first : chan.opened = false)
      (emitted : Emitted (openConfirmation request.sender) events) :
      Move payload auth chan auth
        { chan with
          opened := true
          remoteId := request.sender
          remoteWindow := request.initialWindow }
        (.opened request.initialWindow :: events)
  | request {events : List Event} (typed : payload.head? = some sshMsgChannelRequest)
      (parsed : parseRequest payload = .ok (some granted))
      (ordinary : ∀ event ∈ events, event.Ordinary) :
      Move payload auth chan auth (granted.noted chan) events
  | adjust {after : ChannelState} (typed : payload.head? = some sshMsgChannelWindowAdjust)
      (parsed : parseRecipientU32 payload = .ok (some (localId, bytes)))
      (flushed : Flushed { chan with remoteWindow := min (chan.remoteWindow + bytes) u32Max }
        after events) :
      Move payload auth chan auth after (.adjusted bytes :: events)
  | eofIn (opened : chan.opened = true) :
      Move payload auth chan auth { chan with eofIn := true } []
  | closeIn (typed : payload.head? = some sshMsgChannelClose)
      (parsed : parseRecipientU32 payload = .ok (some (localId, extra)))
      (closed : chan.closeOut = true) :
      Move payload auth chan auth { chan with closeIn := true } []
  | answerClose {events : List Event} (typed : payload.head? = some sshMsgChannelClose)
      (parsed : parseRecipientU32 payload = .ok (some (localId, extra)))
      (unclosed : chan.closeOut = false)
      (emitted : Emitted (channelMessage sshMsgChannelClose chan.remoteId) events) :
      Move payload auth chan auth { chan with closeIn := true, closeOut := true } events
  | deliver (typed : payload.head? = some sshMsgChannelData)
      (opened : chan.opened = true) (unclosed : chan.closeIn = false) :
      Move payload auth chan auth chan [.delivered data]

structure Moved (payload : Octets) (before after : Connection) (events : List Event) :
    Prop where
  role : after.role = before.role
  proc : after.proc = before.proc
  history : after.history = before.history ++ events
  move : Move payload before.auth before.chan after.auth after.chan events

/-- That is what came of the packet, and at most the connection is closed. -/
def Kept (payload : Octets) (before after : Connection) : Prop :=
  Settled before after ∧ ∃ events, Moved payload before after events

/-- Code for this packet that makes one move and stops cleanly. -/
def Moves {Answer : Type} (risk : Prop) (info : FrameInfo) (payload : Octets)
    (code : Handler Answer) : Prop :=
  Serves (fun _ => Kept payload) (Kept payload) risk info payload code

variable {payload : Octets}

theorem Calm.kept {after : Connection} (calm : Calm before after) : Kept payload before after := by
  rcases calm with ⟨quiet, settled⟩
  rcases quiet.history with ⟨events, history, ordinary⟩
  refine ⟨settled, events, quiet.role, quiet.proc, history, ?_⟩
  rw [quiet.auth, quiet.chan]
  exact .quiet ordinary

instance : Std.Refl (Kept payload) := ⟨fun connection => Calm.kept (refl_of Calm connection)⟩

section

theorem Serves.moves (calm : Serves (fun _ => Calm) Calm risk info payload code) :
    Moves risk info payload code :=
  calm.mono Calm.kept Calm.kept

theorem moves_pure : Moves risk info payload (pure value) :=
  fun connection _ => refl_of (Kept payload) connection

theorem moves_failDisconnect [Crypto] :
    Serves answered (Kept payload) risk info payload (failDisconnect reason description) :=
  (calm_failDisconnect reason description).mono id Calm.kept

end

/-! ## Reading fields -/

theorem fieldsOf_eq (nonempty : payload ≠ []) : fieldsOf payload = .ok payload.tail := by
  rw [fieldsOf, range_ok (length_pos_of_ne_nil nonempty) le_rfl, take_length, drop_one]

theorem empty_of_fieldsOf_panics {next : Octets → Except (Fault Fail) Answer}
    (safe : next payload.tail ≠ .error .panicked)
    (panics : fieldsOf payload >>= next = .error .panicked) : payload = [] := by
  rcases Classical.em (payload = []) with empty | nonempty
  · exact empty
  · rw [fieldsOf_eq nonempty] at panics
    exact absurd panics safe

theorem readFields_panics
    (panics : readFields reader payload = .error .panicked) : payload = [] := by
  refine empty_of_fieldsOf_panics ?_ panics
  exact nofun

theorem readFields_answers (answers : readFields reader payload = .ok (some value)) :
    payload ≠ [] ∧ reader.result? payload.tail = some value := by
  have nonempty : payload ≠ [] := by
    rintro rfl
    cases answers
  rw [readFields, fieldsOf_eq nonempty] at answers
  exact ⟨nonempty, Except.ok.inj answers⟩

/-! ## Handlers of requests -/

section

variable [Crypto]

/-- A change followed by a packet is a move if it is one for both fates of the packet. -/
theorem ensures_emit_after (fits : message.length ≤ maxPayloadLen) (early : List Event)
    (role : changed.role = before.role) (state : changed.state = before.state)
    (proc : changed.proc = before.proc) (history : changed.history = before.history ++ early)
    (move : ∀ events, Emitted message events →
      Move payload before.auth before.chan changed.auth changed.chan (early ++ events)) :
    (emitPacket message).Ensures changed (fun _ after => Kept payload before after)
      fun stop after => Kept payload before after ∧ Clean risk stop := by
  apply ensures_emitPacket fits
  · intro _
    refine ⟨.inl state, early ++ [.sent message], role, proc, ?_, move _ (.inl rfl)⟩
    rw [Connection.queue, record, history, append_assoc]
  intro _
  refine ⟨⟨.inl state, early ++ [.refused message], role, proc, ?_, move _ (.inr rfl)⟩,
    clean_fail risk _⟩
  rw [record, history, append_assoc]

theorem ensures_acceptService {next : AuthPhase} (holds : Holds info payload connection)
    (built : Writer.build 20 (Writer.string accepted) = .ok name) (short : name.length ≤ 20)
    (move : ∀ events, Emitted (sshMsgServiceAccept :: name) events →
      Move payload connection.auth connection.chan { connection.auth with phase := next }
        connection.chan (.serviceAccepted :: events)) :
    (acceptService nameLen accepted next).Ensures connection
      (fun _ after => Kept payload connection after)
      fun stop after => Kept payload connection after ∧ Clean risk stop := by
  rw [acceptService]
  split
  · exact moves_failDisconnect connection holds
  rw [built]
  have fits : (sshMsgServiceAccept :: name).length ≤ maxPayloadLen := by
    rw [length_cons, maxPayloadLen]
    omega
  exact ensures_emit_after fits [.serviceAccepted] rfl rfl rfl rfl move

theorem moves_handleServiceRequest (risky : payload = [] → risk) :
    Moves risk info payload (handleServiceRequest info.payloadStart info.payloadLen) := by
  refine serves_staged_payload (serves_lift_bind ?_ fun parsed _ => ?_)
  · intro panics
    refine risky (empty_of_fieldsOf_panics ?_ panics)
    exact nofun
  cases parsed with
  | none => exact moves_failDisconnect
  | some nameLen =>
    intro connection holds
    rw [ensures_gets_iff]
    rcases phase : connection.auth.phase with _ | _ | _ | _
    · refine ensures_acceptService holds rfl (by decide) fun events emitted => ?_
      exact .acceptService (plain_of_head rfl (by decide)) emitted phase
    · exact moves_failDisconnect connection holds
    · exact moves_failDisconnect connection holds
    · refine ensures_acceptService holds rfl (by decide) fun events emitted => ?_
      have same : { connection.auth with phase := .authenticated } = connection.auth := by
        rw [← phase]
      rw [same]
      exact .acceptServiceAgain (plain_of_head rfl (by decide)) emitted phase

omit [Crypto] in
theorem copyCredentials_eq (shaped : parseUserauthShape payload = .ok (.ok lengths)) :
    payload ≠ [] ∧ ∃ user password, copyCredentials payload = .ok (some (user, password)) := by
  have nonempty : payload ≠ [] := by
    rintro rfl
    cases shaped
  rw [parseUserauthShape, fieldsOf_eq nonempty] at shaped
  rcases read : readUserauthShape payload.tail with ⟨outcome, rest⟩
  have answered : outcome = .ok lengths := by
    have first := Except.ok.inj shaped
    rwa [read] at first
  rw [answered] at read
  rcases readUserauthShape_answers read with ⟨user, password, found, userFits, passwordFits⟩
  refine ⟨nonempty, user, password, ?_⟩
  rw [copyCredentials, fieldsOf_eq nonempty]
  simp only [bind, Except.bind, found, copyInto_ok userFits, copyInto_ok passwordFits]
  rfl

theorem moves_handleUserauthRequest (risky : payload = [] → risk)
    (typed : payload ≠ [] → payload.head? = some sshMsgUserauthRequest) :
    Moves risk info payload (handleUserauthRequest info.payloadStart info.payloadLen) := by
  refine serves_staged_payload (serves_lift_bind ?_ fun shape shaped => ?_)
  · intro panics
    refine risky (empty_of_fieldsOf_panics ?_ panics)
    exact nofun
  rcases shape with ((_ | _) | _) | ⟨userLen, passwordLen⟩
  · exact moves_failDisconnect
  · exact (calm_emitPacket (by decide) (plain_of_head rfl (by decide))).moves
  · exact moves_failDisconnect
  · rcases copyCredentials_eq shaped with ⟨nonempty, user, password, copied⟩
    refine serves_lift_bind (fun panics => absurd (copied.symm.trans panics) nofun)
      fun value same => ?_
    cases copied.symm.trans same
    intro connection _
    exact ⟨.inl rfl, [.parked], rfl, rfl, rfl, .park _ _ (typed nonempty) shaped⟩

/-! ## Handlers of the channel -/

omit [Crypto] in
theorem usable_of_not (usable : ¬(!opened || closed) = true) : opened = true ∧ closed = false := by
  simpa using usable

omit [Crypto] in
theorem length_openFailure : (openFailure sender).length ≤ maxPayloadLen := by
  have body := Writer.length_twoStrings (ascii "only session channels are supported") [] 51
  simp only [openFailure, cons_append, length_cons, length_append, u32Field,
    length_toBigEndian, maxPayloadLen]
  omega

omit [Crypto] in
theorem length_channelMessage (kind : UInt8) (remoteId : Nat) :
    (channelMessage kind remoteId).length = 5 := by
  rw [channelMessage, length_cons, u32Field, length_toBigEndian]

omit [Crypto] in
theorem moves_clientPassthrough : Moves risk info payload clientPassthrough :=
  serves_gets_bind fun _ => moves_pure

theorem moves_handleChannelOpen (risky : payload = [] → risk)
    (typed : payload ≠ [] → payload.head? = some sshMsgChannelOpen) :
    Moves risk info payload (handleChannelOpen info.payloadStart info.payloadLen) := by
  refine serves_staged_payload (serves_lift_bind (risky ∘ readFields_panics) fun parsed read => ?_)
  cases parsed with
  | some request =>
    intro connection holds
    rw [ensures_gets_iff]
    split
    · exact moves_failDisconnect connection holds
    rename_i unopened
    refine ensures_emit_after (by simp [openConfirmation, u32Field, maxPayloadLen])
      [.opened request.initialWindow] rfl rfl rfl rfl fun events emitted => ?_
    exact .openChannel (typed (readFields_answers read).1) read
      (Bool.eq_false_iff.mpr unopened) emitted
  | none =>
    refine serves_lift_bind (risky ∘ readFields_panics) fun sender _ => ?_
    cases sender with
    | none => exact moves_failDisconnect
    | some sender =>
      exact (calm_emitPacket length_openFailure (plain_of_head rfl (by decide))).moves

omit [Crypto] in
theorem applyRequest_eq :
    ∃ success, applyRequest granted connection =
      (.ok success, { connection with chan := granted.noted connection.chan }) := by
  cases granted with
  | pty width height | shell => exact ⟨true, rfl⟩
  | refused => exact ⟨false, rfl⟩

theorem moves_handleChannelRequest (risky : payload = [] → risk)
    (typed : payload ≠ [] → payload.head? = some sshMsgChannelRequest) :
    Moves risk info payload (handleChannelRequest info.payloadStart info.payloadLen) := by
  refine serves_staged_fields risky fun nonempty => ?_
  rcases Reader.u32.result? payload.tail with _ | recipient
  · exact moves_failDisconnect
  simp only
  split
  · exact moves_failDisconnect
  refine serves_staged_payload
    (serves_lift_bind (risky ∘ readFields_panics) fun parsed read => ?_)
  cases parsed with
  | none => exact moves_failDisconnect
  | some granted =>
    refine serves_lift_bind (risky ∘ readFields_panics) fun wantReply _ => ?_
    intro connection _
    rcases applyRequest_eq with ⟨success, applied⟩
    apply ensures_bind_of_answer applied
    have noted : ∀ {events : List Event}, (∀ event ∈ events, event.Ordinary) →
        Move payload connection.auth connection.chan connection.auth
          (granted.noted connection.chan) events :=
      fun ordinary => .request (typed nonempty) read ordinary
    split
    · exact ⟨.inl rfl, [], rfl, rfl, (append_nil _).symm, noted nofun⟩
    refine ensures_emit_after (by rw [length_channelMessage]; decide) [] rfl rfl rfl
      (append_nil _).symm fun events emitted => noted fun event member => ?_
    rcases emitted with rfl | rfl <;> cases mem_singleton.mp member
    · split <;> exact plain_of_head rfl (by decide)
    · trivial

theorem moves_handleChannelEof (risky : payload = [] → risk) :
    Moves risk info payload (handleChannelEof info.payloadStart info.payloadLen) := by
  refine serves_staged_payload (serves_lift_bind (risky ∘ readFields_panics) fun parsed read => ?_)
  cases parsed with
  | none => exact moves_failDisconnect
  | some =>
    intro connection holds
    rw [ensures_gets_iff]
    split
    next ours =>
      exact ⟨.inl rfl, [], rfl, rfl, (append_nil _).symm, .eofIn ours.2⟩
    · exact moves_clientPassthrough connection holds

omit [Crypto] in
theorem ChannelState.chunk_le (chan : ChannelState) :
    chan.chunk ≤ chan.pendingOut.length ∧ chan.chunk ≤ chunkMax ∧
      chan.chunk ≤ chan.remoteWindow := by
  rw [ChannelState.chunk]
  omega

/-- Only the channel has changed, and these events were recorded. -/
structure OnlyChannel (before after : Connection) (events : List Event) : Prop where
  role : after.role = before.role
  state : after.state = before.state
  proc : after.proc = before.proc
  auth : after.auth = before.auth
  history : after.history = before.history ++ events

omit [Crypto] in
/-- The next packet of data finds no room in the output. -/
def Connection.Blocked (connection : Connection) : Prop :=
  connection.chan.pendingOut ≠ [] ∧ connection.chan.remoteWindow ≠ 0 ∧
    ¬connection.Roomy (channelData connection.chan.remoteId
      (connection.chan.pendingOut.take connection.chan.chunk))

theorem flushPendingOut_flushes (connection : Connection) :
    flushPendingOut.Ensures connection
      (fun _ after => (∃ events, Flushed connection.chan after.chan events ∧
        (∀ message, .refused message ∉ events) ∧ OnlyChannel connection after events) ∧
        ¬connection.Blocked)
      fun stop after => (∃ message, Flushed connection.chan connection.chan [.refused message] ∧
        after = record (.refused message) connection) ∧
        stop = .error (.error .outOfCapacity) ∧ connection.Blocked := by
  rw [flushPendingOut, ensures_gets_iff]
  split
  next nothing =>
    refine ⟨⟨[], .idle nothing, fun _ => not_mem_nil, rfl, rfl, rfl, rfl, (append_nil _).symm⟩, ?_⟩
    exact fun blocked => nothing.elim blocked.1 blocked.2.1
  rename_i waiting
  rcases not_or.mp waiting with ⟨pending, window⟩
  rcases connection.chan.chunk_le with ⟨inside, small, -⟩
  have taken : (connection.chan.pendingOut.take connection.chan.chunk).length =
      connection.chan.chunk := length_take_of_le inside
  have read : (range connection.chan.pendingOut 0 connection.chan.chunk :
      Except (Fault Fail) _) = .ok (connection.chan.pendingOut.take connection.chan.chunk) :=
    range_ok (Nat.zero_le _) inside
  have copied : (copyInto chunkMax
      (connection.chan.pendingOut.take connection.chan.chunk) : Except (Fault Fail) _) =
      .ok (connection.chan.pendingOut.take connection.chan.chunk) :=
    copyInto_ok (by rwa [taken])
  apply ensures_bind_of_answer (lift_of_ok read connection)
  apply ensures_bind_of_answer (lift_of_ok copied connection)
  have fits : (channelData connection.chan.remoteId
      (connection.chan.pendingOut.take connection.chan.chunk)).length ≤ maxPayloadLen := by
    simp only [channelData, length_append, length_channelMessage, stringField, length_toBigEndian,
      taken, maxPayloadLen]
    rw [chunkMax] at small
    omega
  apply ensures_bind
  apply ensures_emitPacket fits
  · exact fun roomy => ⟨⟨_, .sent pending window, by simp, rfl, rfl, rfl, rfl, rfl⟩,
      fun blocked => blocked.2.2 roomy⟩
  · exact fun full => ⟨⟨_, .refused pending window, rfl⟩, rfl, pending, window, full⟩

section

variable (risky : payload = [] → risk)

include risky

theorem moves_handleWindowAdjust
    (typed : payload ≠ [] → payload.head? = some sshMsgChannelWindowAdjust) :
    Moves risk info payload (handleWindowAdjust info.payloadStart info.payloadLen) := by
  refine serves_staged_payload (serves_lift_bind (risky ∘ readFields_panics) fun parsed read => ?_)
  rcases parsed with _ | ⟨recipient, bytes⟩
  · exact moves_failDisconnect
  simp only
  split
  · exact moves_clientPassthrough
  rename_i ours
  have toUs : recipient = localId := Classical.not_not.mp ours
  subst toUs
  have nonempty := (readFields_answers read).1
  intro connection _
  simp only [changeChannel, ensures_modify_iff]
  apply ensures_bind
  refine (flushPendingOut_flushes _).mono ?_ ?_
  · rintro _ after ⟨⟨events, flushed, -, only⟩, -⟩
    refine ⟨.inl only.state, .adjusted bytes :: events, only.role, only.proc, ?_, ?_⟩
    · rw [only.history, record, append_assoc]
      rfl
    · rw [only.auth]
      exact .adjust (typed nonempty) read flushed
  rintro _ _ ⟨⟨message, flushed, rfl⟩, rfl, -⟩
  refine ⟨⟨.inl rfl, [.adjusted bytes, .refused message], rfl, rfl, ?_, ?_⟩, clean_fail risk _⟩
  · rw [record, record, append_assoc]
    rfl
  · exact .adjust (typed nonempty) read flushed

theorem moves_handleChannelClose (typed : payload ≠ [] → payload.head? = some sshMsgChannelClose) :
    Moves risk info payload (handleChannelClose info.payloadStart info.payloadLen) := by
  refine serves_staged_payload (serves_lift_bind (risky ∘ readFields_panics) fun parsed read => ?_)
  rcases parsed with _ | ⟨recipient, extra⟩
  · exact moves_failDisconnect
  simp only
  split
  · exact moves_clientPassthrough
  rename_i ours
  have toUs : recipient = localId := Classical.not_not.mp ours
  subst toUs
  have nonempty := (readFields_answers read).1
  intro connection _
  simp only [changeChannel, ensures_modify_iff, ensures_gets_iff]
  split
  next closed =>
    exact ⟨.inl rfl, [], rfl, rfl, (append_nil _).symm, .closeIn (typed nonempty) read closed⟩
  rename_i unclosed
  rw [ensures_modify_iff]
  apply ensures_bind
  refine (ensures_emit_after (by rw [length_channelMessage]; decide) [] rfl rfl rfl
    (append_nil _).symm fun events emitted => ?_)
  exact .answerClose (typed nonempty) read (Bool.eq_false_iff.mpr unclosed) emitted

theorem moves_handleGlobalRequest :
    Moves risk info payload (handleGlobalRequest info.payloadStart info.payloadLen) := by
  refine serves_staged_payload (serves_lift_bind (risky ∘ readFields_panics) fun parsed _ => ?_)
  cases parsed with
  | none => exact moves_failDisconnect
  | some wantReply =>
    cases wantReply with
    | false => exact moves_pure
    | true => exact (calm_emitPacket (by decide) (plain_of_head rfl (by decide))).moves

end

end
end ServiceOS.Ssh
