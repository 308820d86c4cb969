import ServiceOS.Ssh.Feed

/-! # Code that leaves authentication and channel alone

The messages of the handshake, disconnects and refusals change neither the
authentication nor the channel, and send nothing that belongs to the channel.
None of them reads outside the packet it was called for, unless that packet is
empty and is taken for a DISCONNECT. -/

namespace ServiceOS.Ssh

open ByteString Fallible List Checked

/-! ## The packet at hand -/

/-- The staging buffer holds a message with this payload. -/
structure Holds (info : FrameInfo) (payload : Octets) (connection : Connection) : Prop where
  start : info.payloadStart = 1
  length : info.payloadLen = payload.length
  message : ∃ first padding, connection.proc = first :: (payload ++ padding) ∧ padding ≠ []

variable {stop start : Nat}

variable {payload : Octets}

section

section

variable (holds : Holds info payload connection)

include holds

theorem Holds.staged_part (ordered : start ≤ stop) (inside : stop ≤ payload.length) :
    staged (1 + start) (1 + stop) connection =
      (.ok ((payload.take stop).drop start), connection) := by
  rcases holds.message with ⟨first, padding, message, _⟩
  refine (bind_of_answer rfl).trans (lift_of_ok ?_ connection)
  dsimp only
  rw [message, range_ok (by omega) (by
    rw [length_cons, length_append]
    omega)]
  rw [Nat.add_comm 1 stop, Nat.add_comm 1 start, take_succ_cons, drop_succ_cons,
    take_append_of_le_length inside]

theorem Holds.staged_payload :
    staged info.payloadStart (info.payloadStart + info.payloadLen) connection =
      (.ok payload, connection) := by
  have part := holds.staged_part (Nat.zero_le payload.length) le_rfl
  rw [take_length, drop_zero] at part
  rw [holds.start, holds.length]
  exact part

theorem Holds.staged_fields (nonempty : payload ≠ []) :
    staged (info.payloadStart + 1) (info.payloadStart + info.payloadLen) connection =
      (.ok payload.tail, connection) := by
  have part := holds.staged_part (length_pos_of_ne_nil nonempty) le_rfl
  rw [take_length, drop_one] at part
  rw [holds.start, holds.length]
  exact part

end

theorem Holds.staged_fields_empty (holds : Holds info [] connection) :
    staged (info.payloadStart + 1) (info.payloadStart + info.payloadLen) connection =
      (.error (.error .panicked), connection) := by
  rw [holds.start, holds.length]
  apply (bind_of_answer rfl).trans
  rfl

/-- The byte taken for the type of the message is there even if the payload is empty. -/
theorem Holds.index_type (holds : Holds info payload connection) :
    ∃ msg, connection.proc[1]? = some msg ∧
      (index connection.proc info.payloadStart : Except (Fault Fail) _) = .ok msg ∧
      (payload ≠ [] → payload.head? = some msg) := by
  rcases holds.message with ⟨first, padding, message, padded⟩
  rw [holds.start, message]
  cases payload with
  | nil =>
    cases padding with
    | nil => exact absurd rfl padded
    | cons byte => exact ⟨byte, rfl, rfl, fun nonempty => absurd rfl nonempty⟩
  | cons byte => exact ⟨byte, rfl, rfl, fun _ => rfl⟩

end

/-! ## Quiet changes -/

/-- Messages about the channel that a side sends of its own accord, and the
confirmation that there is one. -/
def channelKinds : Octets :=
  [sshMsgChannelOpenConfirmation, sshMsgChannelWindowAdjust, sshMsgChannelData, sshMsgChannelEof,
    sshMsgChannelClose]

def Plain (payload : Octets) : Prop := ∀ kind, payload.head? = some kind → kind ∉ channelKinds

theorem plain_of_head (head : message.head? = some kind)
    (other : kind ∉ channelKinds) : Plain message := by
  intro other' same
  cases head.symm.trans same
  exact other

/-- Events that tell nothing about authentication and channel. -/
def Event.Ordinary : Event → Prop
  | .received _ | .refused _ => True
  | .sent payload => Plain payload
  | _ => False

/-- Authentication and channel are as before, and so is the packet at hand. -/
structure Quiet (before after : Connection) : Prop where
  role : after.role = before.role
  proc : after.proc = before.proc
  auth : after.auth = before.auth
  chan : after.chan = before.chan
  history : ∃ events, after.history = before.history ++ events ∧ ∀ event ∈ events, event.Ordinary

theorem Quiet.refl (connection : Connection) : Quiet connection connection :=
  ⟨rfl, rfl, rfl, rfl, [], (append_nil _).symm, nofun⟩

theorem Quiet.trans (one : Quiet first second) (two : Quiet second third) : Quiet first third := by
  rcases one.history with ⟨early, began, earlyOrdinary⟩
  rcases two.history with ⟨late, ended, lateOrdinary⟩
  refine ⟨two.role.trans one.role, two.proc.trans one.proc, two.auth.trans one.auth,
    two.chan.trans one.chan, early ++ late, by rw [ended, began, append_assoc], ?_⟩
  intro event member
  rcases mem_append.mp member with inEarly | inLate
  · exact earlyOrdinary event inEarly
  · exact lateOrdinary event inLate

variable {after before : Connection}

theorem Quiet.holds
    (quiet : Quiet before after) (holds : Holds info payload before) : Holds info payload after :=
  ⟨holds.start, holds.length, quiet.proc ▸ holds.message⟩

theorem quiet_of_eq (role : after.role = before.role := by rfl)
    (proc : after.proc = before.proc := by rfl) (auth : after.auth = before.auth := by rfl)
    (chan : after.chan = before.chan := by rfl)
    (history : after.history = before.history := by rfl) : Quiet before after :=
  ⟨role, proc, auth, chan, [], by rw [history, append_nil], nofun⟩

theorem quiet_record (ordinary : event.Ordinary) : Quiet connection (record event connection) :=
  ⟨rfl, rfl, rfl, rfl, [event], rfl, fun _ member => mem_singleton.mp member ▸ ordinary⟩

theorem quiet_queue [Crypto] (plain : Plain payload) :
    Quiet connection (connection.queue payload) :=
  ⟨rfl, rfl, rfl, rfl, [.sent payload], rfl, fun _ member => mem_singleton.mp member ▸ plain⟩

/-- The state is the same, or the connection is closed. -/
def Settled (before after : Connection) : Prop :=
  after.state = before.state ∨ after.state = .closed

/-- A quiet change that at most closes the connection. -/
def Calm (before after : Connection) : Prop := Quiet before after ∧ Settled before after

instance : Std.Refl Calm := ⟨fun connection => ⟨Quiet.refl connection, .inl rfl⟩⟩

/-! ## Tame code -/

/-- A stop that is not for want of fuel, and a panic only at this risk. -/
def Clean (risk : Prop) (stop : Stop (Fault Fail)) : Prop :=
  stop ≠ .outOfFuel ∧ (stop = .error .panicked → risk)

theorem clean_fail (risk : Prop) (error : Fail) : Clean risk (.error (.error error)) :=
  ⟨nofun, nofun⟩

/-- Code for this packet whose changes are quiet and whose stops are clean. -/
def Tame {Answer : Type} (risk : Prop) (info : FrameInfo) (payload : Octets)
    (code : Handler Answer) : Prop :=
  ∀ connection, Holds info payload connection →
    code.Ensures connection (fun _ after => Quiet connection after)
      fun stop after => Quiet connection after ∧ Clean risk stop

/-- Code for this packet that answers and stops as told, and stops cleanly. -/
def Serves {Answer : Type} (answered : Answer → Connection → Connection → Prop)
    (stopped : Connection → Connection → Prop) (risk : Prop) (info : FrameInfo)
    (payload : Octets) (code : Handler Answer) : Prop :=
  ∀ connection, Holds info payload connection →
    code.Ensures connection (fun value after => answered value connection after)
      fun stop after => stopped connection after ∧ Clean risk stop

variable {next : Answer → Handler Result}

section

variable {stopped : Connection → Connection → Prop}

theorem Serves.mono (serves : Serves answered stopped risk info payload code)
    (answers : ∀ {value before after}, answered value before after → answered' value before after)
    (stops : ∀ {before after}, stopped before after → stopped' before after) :
    Serves answered' stopped' risk info payload code := fun connection holds =>
  (serves connection holds).mono (fun _ _ => answers) fun _ _ => And.imp_left stops

theorem serves_staged_payload {next : Octets → Handler Result}
    (later : Serves answered stopped risk info payload (next payload)) :
    Serves answered stopped risk info payload
      (staged info.payloadStart (info.payloadStart + info.payloadLen) >>= next) := by
  intro connection holds
  exact ensures_bind_of_answer holds.staged_payload <| later connection holds

theorem serves_staged_part {next : Octets → Handler Result}
    (ordered : start ≤ stop) (inside : stop ≤ payload.length)
    (later : Serves answered stopped risk info payload (next ((payload.take stop).drop start))) :
    Serves answered stopped risk info payload (staged (1 + start) (1 + stop) >>= next) := by
  intro connection holds
  exact ensures_bind_of_answer (holds.staged_part ordered inside) <| later connection holds

theorem serves_of_length (serves : info.payloadStart = 1 → info.payloadLen = payload.length →
      Serves answered stopped risk info payload code) :
    Serves answered stopped risk info payload code := fun connection holds =>
  serves holds.start holds.length connection holds

theorem serves_gets_bind (later : ∀ value, Serves answered stopped risk info payload (next value)) :
    Serves answered stopped risk info payload (gets part >>= next) := fun connection =>
  later (part connection) connection

theorem Serves.bind_never (never : Serves (fun _ _ _ => False) stopped risk info payload code) :
    Serves answered stopped risk info payload (code >>= next) := fun connection holds =>
  ensures_bind <| (never connection holds).mono (fun _ _ => False.elim) fun _ _ stopped => stopped

variable [Std.Refl stopped]

theorem serves_fail (error : Fail) :
    Serves answered stopped risk info payload (fail (.error error)) :=
  fun connection _ => ⟨refl_of stopped connection, clean_fail risk error⟩

theorem serves_staged_fields {next : Octets → Handler Result} (risky : payload = [] → risk)
    (later : payload ≠ [] → Serves answered stopped risk info payload (next payload.tail)) :
    Serves answered stopped risk info payload
      (staged (info.payloadStart + 1) (info.payloadStart + info.payloadLen) >>= next) := by
  intro connection holds
  by_cases nonempty : payload = []
  · subst nonempty
    rw [Ensures, bind_of_stop holds.staged_fields_empty]
    exact ⟨refl_of stopped connection, nofun, fun _ => risky rfl⟩
  · exact ensures_bind_of_answer (holds.staged_fields nonempty) <| later nonempty connection holds

theorem serves_builtOr_bind
    (later : ∀ value, built = .ok value → Serves answered stopped risk info payload (next value)) :
    Serves answered stopped risk info payload (builtOr built >>= next) := by
  cases built with
  | error => exact serves_fail .notReady
  | ok value => exact later value rfl

theorem serves_lift_bind {computed : Except (Fault Fail) Answer}
    (safe : computed = .error .panicked → risk)
    (later : ∀ value, computed = .ok value →
      Serves answered stopped risk info payload (next value)) :
    Serves answered stopped risk info payload ((liftM computed : Handler Answer) >>= next) := by
  rcases computed with (error | _) | value
  · exact serves_fail error
  · exact fun connection _ => ⟨refl_of stopped connection, nofun, fun _ => safe rfl⟩
  · exact later value rfl

end

def Handled (outcome : Dispatch) (before after : Connection) : Prop :=
  outcome = .handled ∧ Quiet before after

instance : Std.Refl Quiet := ⟨Quiet.refl⟩

section

variable {code : Handler Answer}

theorem tame_modify (quiet : ∀ connection, Quiet connection (change connection)) :
    Tame risk info payload (modify change) :=
  fun connection _ => quiet connection

theorem handles_pure : Serves Handled Quiet risk info payload (pure .handled) :=
  fun connection _ => ⟨rfl, Quiet.refl connection⟩

section

variable (first : Tame risk info payload code)

include first

theorem Tame.bind_serves (absorbs : ∀ {value before between after}, Quiet before between →
      answered value between after → answered value before after)
    (later : ∀ value, Serves answered Quiet risk info payload (next value)) :
    Serves answered Quiet risk info payload (code >>= next) := by
  intro connection holds
  apply ensures_bind
  apply (first connection holds).mono
  · intro value between quiet
    exact (later value between (quiet.holds holds)).mono (fun _ _ => absorbs quiet)
      fun _ _ stopped => ⟨quiet.trans stopped.1, stopped.2⟩
  · exact fun _ _ stopped => stopped

theorem Tame.bind (later : ∀ value, Tame risk info payload (next value)) :
    Tame risk info payload (code >>= next) := first.bind_serves Quiet.trans later

theorem Tame.bind_handles {next : Answer → Handler Dispatch}
    (later : ∀ value, Serves Handled Quiet risk info payload (next value)) :
    Serves Handled Quiet risk info payload (code >>= next) :=
  first.bind_serves (fun quiet => And.imp_right quiet.trans) later

end

theorem handles_modify_bind {next : Unit → Handler Dispatch}
    (quiet : ∀ connection, Quiet connection (change connection))
    (later : Serves Handled Quiet risk info payload (next ())) :
    Serves Handled Quiet risk info payload (modify change >>= next) :=
  (tame_modify quiet).bind_handles fun _ => later

end

/-! ## Replies and disconnects -/

variable {msg : UInt8}

section

variable [Crypto]

theorem quiet_emit (plain : Plain message) : Quiet connection (connection.emit message) := by
  rw [Connection.emit]
  split
  · exact quiet_queue plain
  · exact quiet_record trivial

section

variable (fits : message.length ≤ maxPayloadLen) (plain : Plain message)

include fits plain

theorem calm_emitPacket : Serves (fun _ => Calm) Calm risk info payload (emitPacket message) := by
  intro connection _
  apply ensures_emitPacket fits
  · exact fun _ => ⟨quiet_queue plain, .inl rfl⟩
  · exact fun _ => ⟨⟨quiet_record trivial, .inl rfl⟩, clean_fail risk _⟩

theorem tame_emitPacket : Tame risk info payload (emitPacket message) :=
  (calm_emitPacket fits plain).mono And.left And.left

end

variable (reason : DisconnectReason)

omit [Crypto] in
theorem plain_disconnectPayload (description : String) :
    Plain (disconnectPayload reason description) := plain_of_head rfl (by decide)

theorem quiet_disconnect (connection : Connection) (reason : DisconnectReason)
    (description : String) : Quiet connection (connection.disconnect reason description) :=
  (quiet_emit (plain_disconnectPayload reason description)).trans
    quiet_of_eq

theorem calm_failDisconnect (description : String) :
    Serves answered Calm risk info payload (failDisconnect reason description) := by
  intro connection _
  rw [Ensures, failDisconnect_eq]
  exact ⟨⟨quiet_disconnect connection reason description, .inr rfl⟩, clean_fail risk _⟩

theorem tame_failDisconnect :
    Serves answered Quiet risk info payload (failDisconnect reason description) :=
  (calm_failDisconnect reason description).mono id And.left

omit [Crypto] in
theorem calm_takePeerDisconnect (risky : payload = [] → risk) :
    Serves answered Calm risk info payload (takePeerDisconnect info) := by
  refine serves_staged_fields risky fun _ connection _ => ?_
  exact ⟨⟨quiet_of_eq, .inr rfl⟩, clean_fail risk _⟩

theorem calm_replyUnimplemented (seq : Nat) :
    Serves (fun _ => Calm) Calm risk info payload (replyUnimplemented seq) := by
  apply calm_emitPacket
  · simp [maxPayloadLen]
  · exact plain_of_head rfl (by decide)

/-- A message is left to a handler of the state, unless it may come in any state. -/
theorem handles_preEstablished {next : Option Dispatch → Handler Dispatch}
    (risky : msg = 1 → payload = [] → risk) (common : ∀ outcome, next (some outcome) = pure outcome)
    (later : Serves Handled Quiet risk info payload (next none)) :
    Serves Handled Quiet risk info payload (dispatchPreEstablished msg info >>= next) := by
  rw [dispatchPreEstablished]
  split
  next disconnect =>
    exact ((calm_takePeerDisconnect (risky disconnect)).mono id And.left).bind_never
  split
  · show Serves Handled Quiet risk info payload (next (some .handled))
    rw [common]
    exact handles_pure
  split
  · exact (tame_failDisconnect _).bind_never
  · exact later

theorem handles_dispatchUnexpected :
    Serves Handled Quiet risk info payload (dispatchUnexpected msg) := by
  rw [dispatchUnexpected]
  split
  · exact tame_failDisconnect _
  refine serves_gets_bind fun seq => ?_
  exact Tame.bind_handles ((calm_replyUnimplemented seq).mono And.left And.left)
    fun _ => handles_pure

end

/-! ## The handshake -/

section

variable [Crypto]

theorem tame_emitBuilt (built : message.head? = some kind ∧ message.length ≤ capacity)
    (small : capacity ≤ maxPayloadLen) (other : kind ∉ channelKinds) :
    Tame risk info payload (emitPacket message) :=
  tame_emitPacket (Nat.le_trans built.2 small) (plain_of_head built.1 other)

theorem quiet_emitMyKexinit (connection : Connection) :
    emitMyKexinit.Ensures connection (fun _ after => Quiet connection after)
      fun stop after => Quiet connection after ∧ Clean False stop := by
  rw [emitMyKexinit, ensures_gets_iff]
  rcases built : buildKexinit connection.cookie 1024 with stop | message
  · exact ⟨Quiet.refl connection, clean_fail False _⟩
  rcases buildKexinit_message built with ⟨head, short⟩
  have changed : Quiet connection { connection with myKexinit := message } :=
    quiet_of_eq
  have plain : Plain message := plain_of_head head (by decide)
  refine (ensures_emitPacket (Nat.le_trans short (by decide)) ?_ ?_ :)
  · exact fun _ => changed.trans (quiet_queue plain)
  · exact fun _ => ⟨changed.trans (quiet_record trivial), clean_fail False _⟩

omit [Crypto] in
/-- The lists of an accepted message are read without leaving it. -/
theorem negotiateWith_safe (inside : parsed.Inside message.length) :
    ∃ chosen, negotiateWith message parsed = .ok chosen := by
  have read : ∀ place : Nat × Nat, place.1 + place.2 ≤ message.length →
      ∃ body, (listAt message place : Except (Fault Fail) _) = .ok body := fun place inside =>
    ⟨_, range_ok (Nat.le_add_right _ _) inside⟩
  rcases read _ inside.kex with ⟨_, kex⟩
  rcases read _ inside.hostkey with ⟨_, hostkey⟩
  rcases read _ inside.encC2s with ⟨_, encC2s⟩
  rcases read _ inside.encS2c with ⟨_, encS2c⟩
  rcases read _ inside.macC2s with ⟨_, macC2s⟩
  rcases read _ inside.macS2c with ⟨_, macS2c⟩
  rcases read _ inside.compC2s with ⟨_, compC2s⟩
  rcases read _ inside.compS2c with ⟨_, compS2c⟩
  rw [negotiateWith, kex, hostkey, encC2s, encS2c, macC2s, macS2c, compC2s, compS2c]
  exact ⟨_, rfl⟩

theorem tame_enterKexReply : Tame risk info payload enterKexReply := by
  refine serves_gets_bind fun role => ?_
  cases role with
  | server => exact tame_modify fun _ => quiet_of_eq
  | client =>
    refine serves_gets_bind fun seed => serves_builtOr_bind fun message built => ?_
    have message := Writer.build_message (fun _ => Writer.string_respects _) built
    refine (tame_emitBuilt message (by decide) (by decide)).bind fun _ => ?_
    exact tame_modify fun _ => quiet_of_eq

theorem handles_handleKexinit : Serves Handled Quiet risk info payload (handleKexinit info) := by
  refine serves_gets_bind fun peerKexinit => ?_
  split
  · exact tame_failDisconnect _
  split
  · exact tame_failDisconnect _
  refine serves_of_length fun _ length => serves_staged_payload ?_
  have fits : payload.length ≤ kexinitCap := by omega
  rw [copyInto_ok fits]
  refine serves_lift_bind nofun fun message same => ?_
  cases same
  refine handles_modify_bind (fun _ => quiet_of_eq) ?_
  rcases accepted : parseKexinit payload with _ | parsed
  · exact tame_failDisconnect _
  rcases negotiateWith_safe (parseKexinit_inside accepted) with ⟨chosen, read⟩
  simp only [read]
  refine serves_lift_bind nofun fun value same => ?_
  cases same
  cases chosen with
  | error => exact tame_failDisconnect _
  | ok =>
    refine handles_modify_bind (fun _ => quiet_of_eq) ?_
    exact tame_enterKexReply.bind_handles fun _ => handles_pure

theorem handles_dispatchKexinit (risky : msg = 1 → payload = [] → risk) :
    Serves Handled Quiet risk info payload (dispatchKexinit msg info) := by
  refine handles_preEstablished risky (fun _ => rfl) ?_
  simp only
  split
  · exact handles_handleKexinit
  · exact handles_dispatchUnexpected

theorem handles_answerEcdhInit (e secret : Bytes 32) :
    Serves Handled Quiet risk info payload (answerEcdhInit e secret) := by
  refine serves_gets_bind fun seed => ?_
  refine handles_modify_bind (fun _ => quiet_of_eq) ?_
  refine serves_builtOr_bind fun kMpint _ => ?_
  refine handles_modify_bind (fun _ => quiet_of_eq) ?_
  refine serves_gets_bind fun connection => serves_builtOr_bind fun kS _ => ?_
  refine handles_modify_bind (fun _ => quiet_of_eq) ?_
  refine serves_builtOr_bind fun signature _ => serves_builtOr_bind fun reply built => ?_
  have message := Writer.build_message (fun _ => respects_bind (Writer.string_respects _) fun _ =>
    respects_bind (Writer.string_respects _) fun _ => Writer.string_respects _) built
  refine (tame_emitBuilt message (by decide) (by decide)).bind_handles fun _ => ?_
  refine (tame_emitPacket (by decide) (plain_of_head rfl (by decide))).bind_handles fun _ => ?_
  exact handles_modify_bind (fun _ => quiet_of_eq) handles_pure

theorem handles_handleEcdhInit : Serves Handled Quiet risk info payload (handleEcdhInit info) := by
  apply serves_staged_payload
  rcases parseEcdhInit payload with _ | e
  · exact tame_failDisconnect _
  refine serves_gets_bind fun seed => ?_
  rcases sharedSecret seed e with _ | secret
  · exact tame_failDisconnect _
  · exact handles_answerEcdhInit e secret

theorem handles_finishEcdhReply (hostPub : Bytes 32) (kS sigBlob : Octets)
    (f secret : Bytes 32) :
    Serves Handled Quiet risk info payload (finishEcdhReply hostPub kS sigBlob f secret) := by
  refine serves_builtOr_bind fun kMpint _ => serves_gets_bind fun connection => ?_
  simp only
  split
  · exact tame_failDisconnect _
  · refine (tame_emitPacket (by decide) (plain_of_head rfl (by decide))).bind_handles fun _ => ?_
    exact handles_modify_bind (fun _ => quiet_of_eq) handles_pure

theorem handles_handleEcdhReply :
    Serves Handled Quiet risk info payload (handleEcdhReply info) := by
  apply serves_staged_payload
  rcases accepted : parseEcdhReply payload with _ | parsed
  · exact tame_failDisconnect _
  have inside := parseEcdhReply_inside accepted
  refine serves_of_length fun start _ => ?_
  simp only [start, Nat.add_assoc]
  apply serves_staged_part inside.key inside.keyEnds
  rcases parseHostKeyBlob _ with _ | hostPub
  · exact tame_failDisconnect _
  refine serves_gets_bind fun seed => ?_
  rcases sharedSecret seed parsed.f with _ | secret
  · exact tame_failDisconnect _
  apply serves_staged_part (Nat.le_trans (Nat.le_add_right _ _) inside.key) inside.keyEnds
  apply serves_staged_part inside.sig inside.sigEnds
  exact handles_finishEcdhReply _ _ _ _ _

variable (risky : msg = 1 → payload = [] → risk)

include risky

theorem handles_dispatchKexreply :
    Serves Handled Quiet risk info payload (dispatchKexreply msg info) := by
  refine handles_preEstablished risky (fun _ => rfl) ?_
  refine serves_gets_bind fun role => ?_
  split
  · exact handles_handleEcdhInit
  split
  · exact handles_handleEcdhReply
  · exact handles_dispatchUnexpected

theorem handles_dispatchNewkeys :
    Serves Handled Quiet risk info payload (dispatchNewkeys msg info) := by
  refine handles_preEstablished risky (fun _ => rfl) ?_
  simp only
  split
  · refine serves_gets_bind fun pendingRx => ?_
    cases pendingRx with
    | none => exact tame_failDisconnect _
    | some =>
      exact handles_modify_bind (fun _ => quiet_of_eq) handles_pure
  · exact handles_dispatchUnexpected

end
end ServiceOS.Ssh
