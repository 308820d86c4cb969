import ServiceOS.Ssh.Moves

/-! # Dispatching a packet

A packet makes at most one of the moves, and only on an established connection.
It panics only if it has no payload and its padding is taken for a message with
fields. -/

namespace ServiceOS.Ssh

open ByteString Fallible

section

variable [Crypto]

/-! ## Dispatch -/

/-- Where the host is handed data, the packet has it and nothing has changed yet. -/
def Dispatched (payload : Octets) (before : Connection) (outcome : Dispatch)
    (after : Connection) : Prop :=
  match outcome with
  | .deliverData length =>
    after = before ∧ payload.head? = some sshMsgChannelData ∧ before.chan.opened = true ∧
      before.chan.closeIn = false ∧ dataHeader + length ≤ payload.length
  | _ => ∃ events, Moved payload before after events

omit [Crypto] in
def Dispatches (risk : Prop) (info : FrameInfo) (payload : Octets)
    (code : Handler Dispatch) : Prop :=
  Serves (fun outcome before after =>
      Settled before after ∧ Dispatched payload before outcome after)
    (Kept payload) risk info payload code

omit [Crypto] in
theorem Moves.dispatches (moves : Moves risk info payload code)
    (reads : ∀ value connection, ∃ outcome, next value connection = (.ok outcome, connection) ∧
      ∀ length, outcome ≠ .deliverData length) : Dispatches risk info payload (code >>= next) := by
  intro connection holds
  apply ensures_bind
  refine (moves connection holds).mono (fun value after moved => ?_) fun _ _ stopped => stopped
  rcases reads value after with ⟨outcome, read, other⟩
  rw [Ensures, read]
  refine ⟨moved.1, ?_⟩
  cases outcome with
  | deliverData length => exact absurd rfl (other length)
  | _ => exact moved.2

/-! ## Messages of an established connection -/

omit [Crypto] in
theorem parseDataHeader_inside (parsed : parseDataHeader payload = .ok (some (recipient, length))) :
    payload ≠ [] ∧ dataHeader + length ≤ payload.length := by
  rcases readFields_answers parsed with ⟨nonempty, read⟩
  rcases result?_eq_some.mp read with ⟨rest, answers⟩
  rcases bind_answers answers with ⟨value, afterRecipient, readRecipient, answers⟩
  rcases bind_answers answers with ⟨data, afterData, readData, answers⟩
  cases answers
  rcases Reader.u32_answers readRecipient with ⟨-, -, rfl⟩
  have inside := (Reader.string_answers readData).1
  rw [List.length_drop, List.length_tail] at inside
  refine ⟨nonempty, ?_⟩
  rw [dataHeader]
  omega

/-- Data for the host is inside the packet, and the channel can take it. -/
def Offered (payload : Octets) (outcome : ChannelOutcome) (before after : Connection) : Prop :=
  after = before ∧ ∀ length, outcome = .data length →
    payload.head? = some sshMsgChannelData ∧ before.chan.opened = true ∧
      before.chan.closeIn = false ∧ dataHeader + length ≤ payload.length

section

variable (risky : payload = [] → risk)
  (typed : payload ≠ [] → payload.head? = some sshMsgChannelData)

include risky typed

theorem serves_tryChannelData : Serves (Offered payload) (Kept payload) risk info payload
      (tryChannelData info.payloadStart info.payloadLen) := by
  refine serves_staged_payload (serves_lift_bind (risky ∘ readFields_panics) fun parsed read => ?_)
  rcases parsed with _ | ⟨recipient, length⟩
  · exact moves_failDisconnect
  intro connection holds
  simp only [ensures_gets_iff]
  split
  · split <;> exact ⟨rfl, by simp⟩
  split
  · exact ⟨rfl, by simp⟩
  rename_i usable
  split
  · exact moves_failDisconnect connection holds
  rcases parseDataHeader_inside read with ⟨nonempty, inside⟩
  refine ⟨rfl, fun _ same => ?_⟩
  cases same
  exact ⟨typed nonempty, (usable_of_not usable).1, (usable_of_not usable).2, inside⟩

theorem dispatches_tryChannelData : Dispatches risk info payload (do
      let outcome ← tryChannelData info.payloadStart info.payloadLen
      match outcome with
      | .data length => return .deliverData length
      | .passthrough => return .passthrough
      | .handled => return .handled) := by
  intro connection holds
  apply ensures_bind
  refine (serves_tryChannelData risky typed connection holds).mono
    (fun outcome after answered => ?_)
    fun _ _ stopped => stopped
  rcases answered with ⟨rfl, usable⟩
  cases outcome with
  | data length => exact ⟨.inl rfl, rfl, usable length rfl⟩
  | passthrough | handled => exact refl_of (Kept payload) _

end

def fieldedTypes : State → Octets
  | .kexInit | .kexReply | .newKeys => [1]
  | .established =>
    [1, 5, sshMsgUserauthRequest, sshMsgGlobalRequest, sshMsgChannelOpen,
      sshMsgChannelWindowAdjust, sshMsgChannelData, sshMsgChannelEof, sshMsgChannelClose,
      sshMsgChannelRequest]
  | .versionExchange | .closed => []

omit [Crypto] in
theorem dispatches_ite [Decidable condition]
    (here : condition → Dispatches risk info payload code)
    (later : Dispatches risk info payload rest) :
    Dispatches risk info payload (if condition then code else rest) := by
  split
  next holds => exact here holds
  · exact later

theorem dispatches_dispatchEstablished
    (risky : msg ∈ fieldedTypes .established → payload = [] → risk)
    (typed : payload ≠ [] → payload.head? = some msg) :
    Dispatches risk info payload (dispatchEstablished msg info seq) := by
  have handled : ∀ (_ : Unit) connection, ∃ outcome,
      (pure .handled : Handler Dispatch) connection = (.ok outcome, connection) ∧
        ∀ length, outcome ≠ .deliverData length := fun _ _ => ⟨.handled, rfl, nofun⟩
  have simple : ∀ found connection, ∃ outcome,
      (pure (passSimple found) : Handler Dispatch) connection = (.ok outcome, connection) ∧
        ∀ length, outcome ≠ .deliverData length := fun found _ => by
    cases found <;> exact ⟨_, rfl, nofun⟩
  apply dispatches_ite
  · rintro rfl
    exact (calm_takePeerDisconnect (risky (by decide))).mono id Calm.kept
  apply dispatches_ite
  · exact fun _ connection _ => refl_of (Kept payload) connection
  apply dispatches_ite
  · rintro rfl
    exact (moves_handleServiceRequest (risky (by decide))).dispatches handled
  apply dispatches_ite
  · rintro rfl
    refine (moves_handleUserauthRequest (risky (by decide)) typed).dispatches fun _ connection => ?_
    refine ⟨_, rfl, fun length => ?_⟩
    split <;> exact nofun
  apply dispatches_ite
  · rintro rfl
    exact (moves_handleGlobalRequest (risky (by decide))).dispatches handled
  apply dispatches_ite
  · rintro rfl
    exact (moves_handleChannelOpen (risky (by decide)) typed).dispatches handled
  apply dispatches_ite
  · rintro rfl
    exact (moves_handleWindowAdjust (risky (by decide)) typed).dispatches simple
  apply dispatches_ite
  · rintro rfl
    exact (moves_handleChannelEof (risky (by decide))).dispatches simple
  apply dispatches_ite
  · rintro rfl
    exact (moves_handleChannelClose (risky (by decide)) typed).dispatches simple
  apply dispatches_ite
  · rintro rfl
    exact (moves_handleChannelRequest (risky (by decide)) typed).dispatches handled
  apply dispatches_ite
  · rintro rfl
    exact dispatches_tryChannelData (risky (by decide)) typed
  apply dispatches_ite
  · exact fun _ => moves_failDisconnect
  apply dispatches_ite
  · exact fun _ => moves_failDisconnect
  exact (calm_replyUnimplemented seq).moves.dispatches fun _ _ => ⟨_, rfl, nofun⟩

theorem ensures_dispatch (seq : Nat) (holds : Holds info payload connection)
    (chosen : ∀ msg, connection.proc[1]? = some msg → (payload ≠ [] → payload.head? = some msg) →
      Ensures (match connection.state with
        | .kexInit => dispatchKexinit msg info
        | .kexReply => dispatchKexreply msg info
        | .newKeys => dispatchNewkeys msg info
        | .established => dispatchEstablished msg info seq
        | .versionExchange | .closed => fail (.error .closed)) connection answered stopped) :
    (dispatch info seq).Ensures connection answered stopped := by
  rcases holds.index_type with ⟨msg, found, read, typed⟩
  apply ensures_bind_of_answer (lift_of_ok read connection)
  exact chosen msg found typed

section

variable (seq : Nat) (holds : Holds info payload connection)
  (risky : ∀ msg, connection.proc[1]? = some msg → msg ∈ fieldedTypes connection.state →
    payload = [] → risk)

include holds risky

/-- Unless the connection is established, a packet changes neither authentication
nor channel. -/
theorem ensures_handlePacket_quiet (elsewhere : connection.state ≠ .established) :
    (handlePacket info seq).Ensures connection (fun _ after => Quiet connection after)
      fun stop after => Quiet connection after ∧ Clean risk stop := by
  suffices dispatched : (dispatch info seq).Ensures connection
      (fun outcome after => Handled outcome connection after)
      fun stop after => Quiet connection after ∧ Clean risk stop by
    apply ensures_bind
    refine dispatched.mono (fun outcome after answered => ?_) fun _ _ stopped => stopped
    rcases answered with ⟨rfl, quiet⟩
    exact quiet
  apply ensures_dispatch seq holds
  intro msg found _
  have risky := risky msg found
  cases state : connection.state with
  | kexInit =>
    rw [state] at risky
    apply handles_dispatchKexinit ?_ connection holds
    exact fun disconnect => risky (List.mem_singleton.mpr disconnect)
  | kexReply =>
    rw [state] at risky
    apply handles_dispatchKexreply ?_ connection holds
    exact fun disconnect => risky (List.mem_singleton.mpr disconnect)
  | newKeys =>
    rw [state] at risky
    apply handles_dispatchNewkeys ?_ connection holds
    exact fun disconnect => risky (List.mem_singleton.mpr disconnect)
  | established => exact absurd state elsewhere
  | versionExchange | closed => exact serves_fail .closed connection holds

theorem ensures_handlePacket (established : connection.state = .established) :
    (handlePacket info seq).Ensures connection (fun _ after => Kept payload connection after)
      fun stop after => Kept payload connection after ∧ Clean risk stop := by
  apply ensures_bind
  suffices dispatched : (dispatch info seq).Ensures connection
      (fun outcome after =>
        Settled connection after ∧ Dispatched payload connection outcome after)
      fun stop after => Kept payload connection after ∧ Clean risk stop by
    refine dispatched.mono (fun outcome after dispatched => ?_) fun _ _ stopped => stopped
    cases outcome with
    | handled => exact dispatched
    | auth => exact dispatched
    | passthrough =>
      rcases dispatched with ⟨settled, events, moved⟩
      have stillHolds : Holds info payload after :=
        ⟨holds.start, holds.length, moved.proc ▸ holds.message⟩
      rcases stillHolds.index_type with ⟨msg, _, read, _⟩
      apply ensures_bind_of_answer (lift_of_ok read after)
      apply ensures_bind_of_answer stillHolds.staged_payload
      exact ⟨settled, events, moved⟩
    | deliverData =>
      rcases dispatched with ⟨-, rfl, typed, opened, unclosed, inside⟩
      rw [report]
      simp only [holds.start, Nat.add_assoc]
      apply ensures_bind_of_answer (holds.staged_part (Nat.le_add_right _ _) inside)
      exact ⟨.inl rfl, _, rfl, rfl, rfl, .deliver typed opened unclosed⟩
  apply ensures_dispatch seq holds
  intro msg found typed
  have risky := risky msg found
  rw [established] at risky ⊢
  exact dispatches_dispatchEstablished risky typed connection holds

omit risky in
theorem settled_handlePacket_of_closed (closed : connection.state = .closed) :
    Settled connection (handlePacket info seq connection).2 := by
  apply relation_of_ensures
  apply ensures_bind
  apply ensures_dispatch seq holds
  intro msg _ _
  rw [closed]
  exact .inl rfl

end

end
end ServiceOS.Ssh
