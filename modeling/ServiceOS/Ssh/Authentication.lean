import ServiceOS.Foundation.History
import ServiceOS.Ssh.Calls

/-! # The order of authentication

Credentials are parked after a service was accepted, authentication is not left
before the connection closes, and a few failures close it: as long as requests
come when they should. The handler of requests does not look at the phase. -/

namespace ServiceOS.Ssh

open ByteString Fallible History Session List Execution

def Event.Attempt : Event → Prop
  | .parked | .verdict _ => True
  | _ => False

theorem Event.Ordinary.not_attempt {event : Event} (ordinary : event.Ordinary) :
    ¬event.Attempt := by
  cases event <;> first | exact id | exact absurd ordinary id

theorem Emitted.not_attempt (emitted : Emitted message events) :
    ∀ event ∈ events, ¬event.Attempt := by
  rcases emitted with rfl | rfl
  · exact forall_mem_singleton.mpr id
  · exact forall_mem_singleton.mpr id

theorem Flushed.not_attempt {after : ChannelState}
    (flushed : Flushed chan after events) : ∀ event ∈ events, ¬event.Attempt := by
  cases flushed with
  | idle => exact nofun
  | sent | refused => exact forall_mem_singleton.mpr id

theorem Move.auth_cases {chan' : ChannelState} (move : Move payload auth chan auth' chan' events) :
    (auth' = auth ∧ ∀ event ∈ events, ¬event.Attempt) ∨
      (auth.phase = .idle ∧ auth' = { auth with phase := .serviceAccepted } ∧
        .serviceAccepted ∈ events ∧ ∀ event ∈ events, ¬event.Attempt) ∨
      ∃ lengths, payload.head? = some sshMsgUserauthRequest ∧
        parseUserauthShape payload = .ok (.ok lengths) ∧ auth'.phase = .pending ∧
        auth'.fails = auth.fails ∧ events = [.parked] := by
  cases move with
  | quiet ordinary | request _ _ ordinary =>
    exact .inl ⟨rfl, fun event member => (ordinary event member).not_attempt⟩
  | acceptService _ emitted idle =>
    exact .inr (.inl ⟨idle, rfl, mem_cons_self, forall_mem_cons.mpr ⟨id, emitted.not_attempt⟩⟩)
  | acceptServiceAgain _ emitted _ | openChannel _ _ _ emitted =>
    exact .inl ⟨rfl, forall_mem_cons.mpr ⟨id, emitted.not_attempt⟩⟩
  | park user password typed shaped => exact .inr (.inr ⟨_, typed, shaped, rfl, rfl, rfl⟩)
  | adjust _ _ flushed =>
    exact .inl ⟨rfl, forall_mem_cons.mpr ⟨id, flushed.not_attempt⟩⟩
  | eofIn | closeIn => exact .inl ⟨rfl, nofun⟩
  | answerClose _ _ _ emitted => exact .inl ⟨rfl, emitted.not_attempt⟩
  | deliver => exact .inl ⟨rfl, forall_mem_singleton.mpr id⟩

variable {accepted : Octets}

theorem HostMove.auth_cases (move : HostMove before call accepted auth chan state events) :
    (auth = before.auth ∧ state = before.state ∧ ∀ event ∈ events, ¬event.Attempt) ∨
      (before.auth.phase = .pending ∧ ∃ judged rest, events = .verdict judged :: rest ∧
        (∀ event ∈ rest, ¬event.Attempt) ∧
        (judged = true ∧ auth.phase = .authenticated ∧ state = before.state ∨
          judged = false ∧ auth.fails = min (before.auth.fails + 1) 255 ∧
            (auth.phase = .serviceAccepted ∧ auth.fails < maxAuthFailures ∧
                state = before.state ∨
              auth.phase = .pending ∧ state = .closed))) := by
  cases move with
  | nothing => exact .inl ⟨rfl, rfl, nofun⟩
  | accept parked emitted =>
    exact .inr ⟨parked, true, _, rfl, emitted.not_attempt, .inl ⟨rfl, rfl, rfl⟩⟩
  | reject parked few _ emitted =>
    exact .inr ⟨parked, false, _, rfl, emitted.not_attempt, .inr ⟨rfl, rfl, .inl ⟨rfl, few, rfl⟩⟩⟩
  | giveUp parked _ _ emitted =>
    exact .inr ⟨parked, false, _, rfl, emitted.not_attempt, .inr ⟨rfl, rfl, .inr ⟨parked, rfl⟩⟩⟩
  | acknowledge _ emitted | sendEof _ _ emitted | sendClose _ _ emitted =>
    exact .inl ⟨rfl, rfl, emitted.not_attempt⟩
  | send _ _ _ _ flushed => exact .inl ⟨rfl, rfl, flushed.not_attempt⟩
  | sendRefused => exact .inl ⟨rfl, rfl, forall_mem_singleton.mpr id⟩

/-! ## The invariant -/

def failures (history : List Event) : Nat := history.count (.verdict false)

theorem failures_append (none : .verdict false ∉ events) :
    failures (history ++ events) = failures history := by
  rw [failures, count_append, count_eq_zero_of_not_mem none, Nat.add_zero, failures]

theorem failures_append_of_not_attempt
    (none : ∀ event ∈ events, ¬event.Attempt) : failures (history ++ events) = failures history :=
  failures_append fun member => none _ member trivial

/-- The phase and the failures tell what has happened. -/
structure Guarded (connection : Connection) : Prop where
  late : connection.auth.phase ≠ .idle →
    connection.state = .established ∨ connection.state = .closed
  served : connection.auth.phase ≠ .idle → .serviceAccepted ∈ connection.history
  ordered : PrecededBy (· = .serviceAccepted) (· = .parked) connection.history
  few : connection.state ≠ .closed → failures connection.history < maxAuthFailures
  counted : connection.state ≠ .closed → connection.auth.phase ≠ .authenticated →
    failures connection.history = connection.auth.fails

theorem Guarded.keep {after : Connection} (guarded : Guarded before)
    (auth : after.auth = before.auth)
    (settled : before.state = .established ∨ before.state = .closed → Settled before after)
    (history : after.history = before.history ++ events)
    (none : ∀ event ∈ events, ¬event.Attempt) : Guarded after := by
  have open_of_open : after.state ≠ .closed → before.state ≠ .closed := by
    intro stillOpen closed
    rcases settled (.inr closed) with same | closed'
    · exact stillOpen (same.trans closed)
    · exact stillOpen closed'
  refine ⟨fun begun => ?_, fun begun => ?_, ?_, fun stillOpen => ?_, fun stillOpen other => ?_⟩
  · rw [auth] at begun
    rcases guarded.late begun with established | closed
    · exact (settled (.inl established)).imp_left (·.trans established)
    · exact .inr ((settled (.inr closed)).elim (·.trans closed) id)
  · rw [auth] at begun
    rw [history]
    exact mem_append_left events (guarded.served begun)
  · rw [history]
    refine guarded.ordered.append (.inr fun event member same => ?_)
    exact none event member (same ▸ trivial)
  · rw [history, failures_append_of_not_attempt none]
    exact guarded.few (open_of_open stillOpen)
  · rw [auth] at other ⊢
    rw [history, failures_append_of_not_attempt none]
    exact guarded.counted (open_of_open stillOpen) other

section

variable [Crypto]

/-- A round does not meet a password request outside the phase for it, nor another
request once the user is authenticated. -/
def orderlyRequest (round : SshTransport) : Bool :=
  match nextPayload round with
  | none => true
  | some payload =>
    if round.connection.state = .established ∧
        payload.head? = some sshMsgUserauthRequest then
      match parseUserauthShape payload with
      | .ok (.ok _) => round.connection.auth.phase = .serviceAccepted
      | .ok (.error (.error .notAPassword)) => round.connection.auth.phase ≠ .authenticated
      | _ => true
    else
      true

variable {before connection : Connection}

theorem phase_of_orderlyRequest {round : SshTransport} (orderly : orderlyRequest round = true)
    (next : nextPayload round = some payload)
    (established : round.connection.state = .established)
    (typed : payload.head? = some sshMsgUserauthRequest)
    (shaped : parseUserauthShape payload = .ok (.ok lengths)) :
    round.connection.auth.phase = .serviceAccepted := by
  rw [orderlyRequest, next] at orderly
  simp only [established, typed, shaped, and_self, if_true] at orderly
  exact of_decide_eq_true orderly

variable {after : SshTransport}

theorem Guarded.round {round : SshTransport} (guarded : Guarded round.connection)
    (orderly : orderlyRequest round = true) (rounded : Rounded round after) :
    Guarded after.connection := by
  rcases rounded.moved with ⟨events, history, moved⟩
  cases moved with
  | quiet auth _ ordinary =>
    exact guarded.keep auth rounded.settled history fun event member =>
      (ordinary event member).not_attempt
  | packet established next move =>
    rename_i payload events
    have late : after.connection.state = .established ∨ after.connection.state = .closed :=
      (rounded.settled (.inl established)).imp_left (·.trans established)
    have begun : round.connection.state ≠ .closed := by
      rw [established]
      exact nofun
    rcases move.auth_cases with ⟨auth, none⟩ | ⟨idle, auth, accepted, none⟩ |
      ⟨lengths, typed, shaped, phase, fails, rfl⟩
    · exact guarded.keep auth rounded.settled history (forall_mem_cons.mpr ⟨id, none⟩)
    · have none : ∀ event ∈ Event.received payload :: events, ¬event.Attempt :=
        forall_mem_cons.mpr ⟨id, none⟩
      refine ⟨fun _ => late, fun _ => ?_, ?_, fun _ => ?_, fun _ _ => ?_⟩
      · rw [history]
        exact mem_append_right _ (mem_cons_of_mem _ accepted)
      · rw [history]
        exact guarded.ordered.append (.inr fun event member same =>
          none event member (same ▸ trivial))
      · rw [history, failures_append_of_not_attempt none]
        exact guarded.few begun
      · rw [history, failures_append_of_not_attempt none, auth]
        exact guarded.counted begun (by rw [idle]; exact nofun)
    · have served := phase_of_orderlyRequest orderly next established typed shaped
      have accepted := guarded.served (by rw [served]; exact nofun)
      have none : .verdict false ∉ [Event.received payload, .parked] := by simp
      refine ⟨fun _ => late, fun _ => ?_, ?_, fun _ => ?_, fun _ _ => ?_⟩
      · rw [history]
        exact mem_append_left _ accepted
      · rw [history]
        exact guarded.ordered.append (.inl ⟨_, accepted, rfl⟩)
      · rw [history, failures_append none]
        exact guarded.few begun
      · rw [history, failures_append none, fails]
        exact guarded.counted begun (by rw [served]; exact nofun)

omit [Crypto] in
theorem Guarded.host {after : Connection}
    (guarded : Guarded before) (hosted : Hosted call accepted before after) : Guarded after := by
  rcases hosted.moved with ⟨events, history, moved⟩
  rcases moved.auth_cases with ⟨auth, state, none⟩ |
    ⟨parked, judged, rest, rfl, none, outcome⟩
  · exact guarded.keep auth (fun _ => .inl state) history none
  have begun : before.auth.phase ≠ .idle := by
    rw [parked]
    exact nofun
  have unanswered : before.auth.phase ≠ .authenticated := by
    rw [parked]
    exact nofun
  have accepted := guarded.served begun
  have served : .serviceAccepted ∈ after.history := by
    rw [history]
    exact mem_append_left _ accepted
  have ordered : PrecededBy (· = .serviceAccepted) (· = .parked) after.history := by
    rw [history]
    exact guarded.ordered.append (.inl ⟨_, accepted, rfl⟩)
  rcases outcome with ⟨rfl, phase, state⟩ | ⟨rfl, fails, ⟨phase, few, state⟩ | ⟨phase, closed⟩⟩
  · have counted : failures after.history = failures before.history := by
      rw [history]
      refine failures_append fun member => ?_
      rcases mem_cons.mp member with same | member
      · cases same
      · exact none _ member trivial
    refine ⟨fun _ => ?_, fun _ => served, ordered, fun stillOpen => ?_, fun _ other => ?_⟩
    · rw [state]
      exact guarded.late begun
    · rw [state] at stillOpen
      rw [counted]
      exact guarded.few stillOpen
    · exact absurd phase other
  · have counted : failures after.history = failures before.history + 1 := by
      rw [history, append_cons, failures_append_of_not_attempt none, failures,
        count_append, count_singleton_self, failures]
    rw [maxAuthFailures] at few
    refine ⟨fun _ => ?_, fun _ => served, ordered, fun stillOpen => ?_, fun stillOpen _ => ?_⟩
    · rw [state]
      exact guarded.late begun
    · rw [state] at stillOpen
      rw [counted, guarded.counted stillOpen unanswered, maxAuthFailures]
      omega
    rw [state] at stillOpen
    rw [counted, guarded.counted stillOpen unanswered]
    omega
  · exact ⟨fun _ => .inr closed, fun _ => served, ordered, fun stillOpen =>
      absurd closed stillOpen,
      fun stillOpen => absurd closed stillOpen⟩

/-! ## No way back -/

/-- The user is authenticated, or the connection is over. -/
def PastTheDoor (connection : Connection) : Prop :=
  connection.auth.phase = .authenticated ∨ connection.state = .closed

theorem PastTheDoor.round {round : SshTransport} (past : PastTheDoor round.connection)
    (orderly : orderlyRequest round = true) (rounded : Rounded round after) :
    PastTheDoor after.connection := by
  rcases past with authenticated | closed
  · rcases rounded.moved with ⟨events, -, moved⟩
    cases moved with
    | quiet auth => exact .inl (auth ▸ authenticated)
    | packet established next move =>
      rcases move.auth_cases with ⟨auth, -⟩ | ⟨idle, -⟩ | ⟨lengths, typed, shaped, -⟩
      · exact .inl (auth ▸ authenticated)
      · rw [authenticated] at idle
        cases idle
      have served := phase_of_orderlyRequest orderly next established typed shaped
      rw [authenticated] at served
      cases served
  · exact .inr ((rounded.settled (.inr closed)).elim (·.trans closed) id)

omit [Crypto] in
theorem PastTheDoor.host {after : Connection} (past : PastTheDoor before)
    (hosted : Hosted call accepted before after) : PastTheDoor after := by
  rcases hosted.moved with ⟨events, -, moved⟩
  rcases moved.auth_cases with ⟨auth, state, -⟩ | ⟨parked, judged, rest, -, -, outcome⟩
  · rw [PastTheDoor, auth, state]
    exact past
  rcases past with authenticated | closed
  · rw [authenticated] at parked
    cases parked
  rcases outcome with ⟨-, -, state⟩ | ⟨-, -, ⟨-, -, state⟩ | ⟨-, state⟩⟩
  · exact .inr (state.trans closed)
  · exact .inr (state.trans closed)
  · exact .inr state

/-! ## Requests that close the connection -/

/-- A request that is neither well shaped nor merely of another kind. -/
def Malformed (payload : Octets) : Prop :=
  ∃ stop, parseUserauthShape payload = .ok (.error stop) ∧ stop ≠ .error .notAPassword

theorem malformed_of_orderlyRequest {round : SshTransport} (orderly : orderlyRequest round = true)
    (next : nextPayload round = some payload)
    (established : round.connection.state = .established)
    (typed : payload.head? = some sshMsgUserauthRequest)
    (authenticated : round.connection.auth.phase = .authenticated) : Malformed payload := by
  have nonempty : payload ≠ [] := by
    rintro rfl
    cases typed
  rw [orderlyRequest, next] at orderly
  simp only [established, typed, authenticated, and_self, if_true] at orderly
  rcases shape : (readUserauthShape payload.tail).1 with stop | lengths
  all_goals
    have parsed : parseUserauthShape payload = .ok (readUserauthShape payload.tail).1 := by
      rw [parseUserauthShape, fieldsOf_eq nonempty]
      rfl
    rw [shape] at parsed
  · refine ⟨stop, parsed, ?_⟩
    rintro rfl
    rw [parsed] at orderly
    simp at orderly
  · rw [parsed] at orderly
    simp at orderly

theorem ensures_handleUserauthRequest_malformed
    (holds : Holds info payload connection) (malformed : Malformed payload) :
    (handleUserauthRequest info.payloadStart info.payloadLen).Ensures connection
      (fun _ _ => False) fun _ after => after.state = .closed := by
  rcases malformed with ⟨stop, parsed, other⟩
  apply ensures_bind_of_answer holds.staged_payload
  apply ensures_bind_of_answer (lift_of_ok parsed connection)
  have closes : (failDisconnect .protocolError "malformed USERAUTH_REQUEST" :
      Handler Unit).Ensures connection (fun _ _ => False) fun _ after => after.state = .closed := by
    rw [Ensures, failDisconnect_eq]
    rfl
  rcases stop with (_ | _) | _
  · exact closes
  · exact absurd rfl other
  · exact closes

/-- A malformed request closes an established connection, and nothing opens a closed
one. -/
theorem ensures_handlePacket_closes (seq : Nat)
    (holds : Holds info payload connection) (typed : payload.head? = some sshMsgUserauthRequest)
    (closing : connection.state = .established ∧ Malformed payload ∨ connection.state = .closed) :
    (handlePacket info seq).Ensures connection (fun _ _ => False)
      fun _ after => after.state = .closed := by
  apply ensures_bind
  suffices dispatched : (dispatch info seq).Ensures connection (fun _ _ => False)
      fun _ after => after.state = .closed from
    dispatched.mono (fun _ _ => False.elim) fun _ _ closed => closed
  apply ensures_dispatch seq holds
  intro msg _ read
  have nonempty : payload ≠ [] := by
    rintro rfl
    cases typed
  cases (read nonempty).symm.trans typed
  rcases closing with ⟨established, malformed⟩ | closed
  · rw [established]
    apply ensures_bind
    exact (ensures_handleUserauthRequest_malformed holds malformed).mono (fun _ _ => False.elim)
      fun _ _ closed => closed
  · rw [closed]
    exact closed

section

variable {round : SshTransport} (next : nextPayload round = some payload)
  (typed : payload.head? = some sshMsgUserauthRequest)
  (closing : round.connection.state = .established ∧ Malformed payload ∨
    round.connection.state = .closed)

include next typed closing

theorem ensures_feedRound_closes :
    feedRound.Ensures round (fun _ _ => False) fun _ after => after.connection.state = .closed := by
  rcases Option.map_eq_some_iff.mp next with ⟨frame, found, read⟩
  rw [nextFrame] at found
  split at found
  · cases found
  rename_i reads
  rw [not_or] at reads
  rw [feedRound, ensures_gets_iff, ensures_gets_iff, if_neg reads.1, if_neg reads.2]
  rcases tryPacket_cases round with ⟨decoded, -⟩ | ⟨reason, decoded, -⟩ |
    ⟨info, first, payload', padding, -, -, decoded, holds, call⟩
  · rw [decoded] at found
    cases found
  · rw [decoded] at found
    cases found
  apply ensures_bind_of_answer call
  have holds := holds (round.connection.receive (first :: (payload' ++ padding)) payload') rfl
  have same : nextPayload round = some payload' :=
    (nextPayload_of_frame reads holds decoded).2
  cases same.symm.trans next
  rw [ensures_within_iff]
  exact ensures_handlePacket_closes _ holds typed closing

/-- The call whose round meets such a request leaves the connection closed. -/
theorem feed_closes {transport : SshTransport} (member : round ∈ roundsOf bytes transport) :
    (feed bytes transport).2.connection.state = .closed := by
  have closes := ensures_feedRound_closes next typed closing
  rcases call : feedRound round with ⟨stop | feed, after⟩
  · have ends : feedBody round = .inl (.error stop, after) := by
      rw [feedBody, call]
    rcases feed_cases bytes transport with ⟨none, -⟩ | ⟨result, rounds, finished, same⟩
    · rw [none] at member
      cases member
    rw [rounds] at member
    cases finished.symm.trans (Loop.iterate_of_visited_end member ends)
    rw [same]
    exact closes.stop call
  · exact (closes.answer call).elim

end

/-! ## Runs -/

theorem guarded_server (hostSeed x25519Seed : Bytes 32) :
    Guarded (serverSession hostSeed x25519Seed cookie).connection := by
  exact ⟨fun begun => absurd rfl begun, fun begun => absurd rfl begun,
    (fun earlier _ _ split => by cases earlier <;> cases split),
    fun _ => Nat.zero_lt_succ _, fun _ _ => rfl⟩

/-- The invariant rule for runs in which requests come when they should. -/
theorem holds_of_run (Invariant : Connection → Prop)
    (rounds : ∀ {round after : SshTransport}, Invariant round.connection →
      orderlyRequest round = true → Rounded round after → Invariant after.connection)
    (hosts : ∀ {call : Call} {accepted : Octets} {before after : Connection},
      Invariant before → Hosted call accepted before after → Invariant after)
    (reached : run step start calls = some final)
    (orderly : Execution.EveryStep step (EveryRound orderlyRequest) start calls)
    (holds : Invariant start.connection) : Invariant final.connection := by
  apply everyStep_preserves (fun session => Invariant session.connection)
    (EveryRound orderlyRequest) ?_ reached orderly holds
  intro session next call taken allowed holds
  apply step_preserves (fun connection _ => Invariant connection) taken ?_ ?_ holds
  · rintro bytes rfl round member holds after rounded
    exact rounds holds (allowed round member) rounded
  · exact fun _ _ hosted => hosts holds hosted

/-- On every run in which requests come when they should, credentials are parked after
a service was accepted, an authenticated connection stays so until it is closed, a
further request closes it, and a connection that is not closed has seen fewer
negative verdicts than close it. -/
theorem authentication_is_guarded (hostSeed x25519Seed : Bytes 32) (cookie : Bytes 16)
    {calls more : List Call} {middle final : Session}
    (reached : run step (serverSession hostSeed x25519Seed cookie) calls = some middle)
    (orderly : Execution.EveryStep step (EveryRound orderlyRequest)
      (serverSession hostSeed x25519Seed cookie) calls)
    (later : run step middle more = some final)
    (stillOrderly : Execution.EveryStep step (EveryRound orderlyRequest) middle more) :
    PrecededBy (· = .serviceAccepted) (· = .parked) final.connection.history ∧
      (middle.connection.auth.phase = .authenticated →
        final.connection.auth.phase = .authenticated ∨ final.connection.state = .closed) ∧
      (∀ bytes, EveryRound orderlyRequest final (.feed bytes) →
        ∀ round ∈ roundsOf bytes final.transport, ∀ payload,
          round.connection.auth.phase = .authenticated → nextPayload round = some payload →
          payload.head? = some sshMsgUserauthRequest →
          (feed bytes final.transport).2.connection.state = .closed) ∧
      (final.connection.state ≠ .closed → failures final.connection.history < maxAuthFailures) := by
  have guarded : Guarded final.connection :=
    holds_of_run Guarded Guarded.round Guarded.host later stillOrderly
      (holds_of_run Guarded Guarded.round Guarded.host reached orderly
        (guarded_server hostSeed x25519Seed))
  refine ⟨guarded.ordered, fun authenticated => ?_, fun bytes allowed => ?_, guarded.few⟩
  · exact holds_of_run PastTheDoor PastTheDoor.round PastTheDoor.host later stillOrderly
      (.inl authenticated)
  intro round member payload authenticated next typed
  have here : Guarded round.connection := by
    refine rounds_preserve Guarded (fun round member guarded after rounded => ?_) guarded
      round member
    exact guarded.round (allowed round member) rounded
  refine feed_closes next typed ?_ member
  rcases here.late (by rw [authenticated]; exact nofun) with established | closed
  · exact .inl ⟨established,
      malformed_of_orderlyRequest (allowed round member) next established typed authenticated⟩
  · exact .inr closed

end

section

open Sample Execution

theorem authentication_is_guarded_of_sample :
    ∃ middle ∈ run step session
        [.feed (handshake ++ packets 3 [serviceRequest, passwordRequest]), .authVerdict true],
      middle.connection.auth.phase = .authenticated ∧
        ∃ final ∈ run step middle [.consumeOutput 100],
          final.connection.auth.phase = .authenticated ∨ final.connection.state = .closed := by
  have accepted : ∃ middle ∈ run step session
      [.feed (handshake ++ packets 3 [serviceRequest, passwordRequest]), .authVerdict true],
      middle.connection.auth.phase = .authenticated := by decide +kernel
  have orderly : EveryStep step (EveryRound orderlyRequest) session
      [.feed (handshake ++ packets 3 [serviceRequest, passwordRequest]), .authVerdict true] := by
    decide +kernel
  rcases accepted with ⟨middle, reached, authenticated⟩
  have guarded := authentication_is_guarded (Bytes.zero 32) (Bytes.zero 32) (Bytes.zero 16) reached
    orderly (rfl : run step middle [.consumeOutput 100] = some _)
    ⟨trivial, fun _ _ => trivial⟩
  exact ⟨middle, reached, authenticated, _, rfl, guarded.2.1 authenticated⟩

/-- Five requests, and no service was ever asked for. The user is authenticated by the
third and thrown out by the fourth, and after four failures the connection is open. -/
theorem authentication_is_left :
    ∃ middle ∈ run step session
        [.feed (handshake ++ packets 3 (replicate 5 passwordRequest)), .authVerdict false,
          .feed [], .authVerdict false, .feed [], .authVerdict true],
      middle.connection.auth.phase = .authenticated ∧
        ∃ final ∈ run step middle
            [.feed [], .authVerdict false, .feed [], .authVerdict false],
          .parked ∈ final.connection.history ∧ .serviceAccepted ∉ final.connection.history ∧
            final.connection.auth.phase = .serviceAccepted ∧
            final.connection.state = .established ∧
            maxAuthFailures < failures final.connection.history := by
  decide +kernel

end
end ServiceOS.Ssh
