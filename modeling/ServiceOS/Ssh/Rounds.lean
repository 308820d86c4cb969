import ServiceOS.Ssh.Decoding
import ServiceOS.Ssh.Dispatching

/-! # The rounds of `feed`

A round reads the identification line of the peer, or takes one packet off the
input and handles it. -/

namespace ServiceOS.Ssh

open ByteString Fallible List Loop

section

variable [Crypto]

/-! ## The packet of a round -/

/-- The frame a round that starts here takes off the input, if there is one. -/
def nextFrame (transport : SshTransport) : Option (FrameInfo × Octets) :=
  if transport.connection.auth.phase = .pending ∨
      transport.connection.state = .versionExchange then
    none
  else
    match decodeNext transport.connection transport.inbuf with
    | .ok found => found
    | .error _ => none

def nextPayload (transport : SshTransport) : Option Octets :=
  (nextFrame transport).map fun frame =>
    (frame.2.take (frame.1.payloadStart + frame.1.payloadLen)).drop frame.1.payloadStart

/-- That frame has no payload, and its padding is taken for a message with fields. -/
def hollow (transport : SshTransport) : Bool :=
  (nextFrame transport).any fun frame =>
    frame.1.payloadLen == 0 &&
      frame.2[1]?.any fun msg => (fieldedTypes transport.connection.state).contains msg

/-! ## What a round does -/

/-- What a round that starts at `transport` makes of the connection. -/
inductive RoundMove (transport : SshTransport) (after : Connection) : List Event → Prop
  | quiet (auth : after.auth = transport.connection.auth)
      (chan : after.chan = transport.connection.chan)
      (ordinary : ∀ event ∈ events, event.Ordinary) : RoundMove transport after events
  | packet (established : transport.connection.state = .established)
      (next : nextPayload transport = some payload)
      (move : Move payload transport.connection.auth transport.connection.chan after.auth
        after.chan events) :
      RoundMove transport after (.received payload :: events)

structure Rounded (transport after : SshTransport) : Prop where
  role : after.connection.role = transport.connection.role
  settled : transport.connection.state = .established ∨ transport.connection.state = .closed →
    Settled transport.connection after.connection
  moved : ∃ events, after.connection.history = transport.connection.history ++ events ∧
    RoundMove transport after.connection events

variable {after : SshTransport}

theorem rounded_of_quiet (quiet : Quiet transport.connection after.connection)
    (settled : transport.connection.state = .established ∨ transport.connection.state = .closed →
      Settled transport.connection after.connection) : Rounded transport after := by
  rcases quiet.history with ⟨events, history, ordinary⟩
  exact ⟨quiet.role, settled, events, history, .quiet quiet.auth quiet.chan ordinary⟩

/-- What a round guarantees: it makes a move, it stops cleanly, and if it goes on it
has taken something off the input. -/
def RoundsOff (code : Receiver (Option Feed)) (transport : SshTransport) : Prop :=
  code.Ensures transport
    (fun feed after => Rounded transport after ∧
      (feed = none → after.inbuf.length < transport.inbuf.length))
    fun stop after => Rounded transport after ∧ Clean (hollow transport = true) stop

omit [Crypto] in
theorem within_of_call {after : Connection} (call : code transport.connection = (outcome, after)) :
    within code transport = (outcome, { transport with connection := after }) := by
  rw [within, call]

omit [Crypto] in
theorem ensures_within_iff :
    (within code).Ensures transport answered stopped ↔
      code.Ensures transport.connection
        (fun value connection => answered value { transport with connection := connection })
        fun stop connection => stopped stop { transport with connection := connection } := by
  rcases call : code transport.connection with ⟨_ | value, connection⟩ <;>
    simp only [Ensures, within, call]

/-! ## Identification -/

/-- Reading the line of the peer is quiet, and takes it off the input if it is there. -/
def Identifies (code : Receiver Bool) (transport : SshTransport) : Prop :=
  code.Ensures transport
    (fun identified after => Quiet transport.connection after.connection ∧
      (identified = true → after.inbuf.length < transport.inbuf.length))
    fun stop after => Quiet transport.connection after.connection ∧ Clean False stop

theorem identifies_failDisconnect :
    Identifies (within (failDisconnect reason description)) transport := by
  rw [Identifies, ensures_within_iff, Ensures, failDisconnect_eq]
  exact ⟨quiet_disconnect transport.connection reason description, clean_fail _ _⟩

def Connection.identify (connection : Connection) (ident : Octets) : Connection :=
  { connection with peerIdent := ident, state := .kexInit }

omit [Crypto] in
theorem quiet_identify (connection : Connection) (ident : Octets) :
    Quiet connection (connection.identify ident) := quiet_of_eq

omit [Crypto] in
theorem acceptIdent_eq (short : ident.length ≤ identMax) :
    acceptIdent consumed ident transport =
      (.ok (), ⟨transport.connection.identify ident, transport.inbuf.drop consumed⟩) := by
  have copied : (Checked.copyInto identMax ident : Except (Fault Fail) _) = .ok ident :=
    Checked.copyInto_ok short
  rw [acceptIdent, bind_of_answer (lift_of_ok copied transport)]
  rfl

theorem identifies_tryVersionServer : Identifies tryVersionServer transport := by
  rw [Identifies, tryVersionServer, ensures_gets_iff]
  rcases found : lineFeed transport.inbuf with _ | lf
  · simp only
    split
    · exact identifies_failDisconnect
    · exact ⟨Quiet.refl _, nofun⟩
  rcases parsed : parseIdentification (trimLine (transport.inbuf.take lf)) with error | ident
  · simp only [parsed]
    split <;> exact identifies_failDisconnect
  simp only [parsed]
  have inside := lineFeed_inside found
  apply ensures_bind_of_answer
    (acceptIdent_eq (parseIdentification_accepts parsed).2)
  apply ensures_bind
  rw [ensures_within_iff]
  have accepted := quiet_identify transport.connection ident
  refine (quiet_emitMyKexinit _).mono (fun _ after quiet => ?_) fun _ _ stopped => ?_
  · refine ⟨accepted.trans quiet, fun _ => ?_⟩
    rw [length_drop]
    omega
  · exact ⟨accepted.trans stopped.1, stopped.2⟩

theorem identifies_tryVersionClient : Identifies tryVersionClient transport := by
  rw [Identifies, tryVersionClient, ensures_gets_iff]
  rcases parsed : parseServerIdentification transport.inbuf preLinesMax with
    error | _ | ⟨consumed, ident⟩
  · cases error <;> exact identifies_failDisconnect
  · exact ⟨Quiet.refl _, nofun⟩
  rcases parseServerIdentification_accepts parsed with ⟨positive, inside, short⟩
  apply ensures_bind_of_answer (acceptIdent_eq short)
  refine ⟨quiet_identify transport.connection ident, fun _ => ?_⟩
  rw [length_drop]
  omega

theorem identifies_tryVersion : Identifies tryVersion transport := by
  rw [Identifies, tryVersion, ensures_gets_iff]
  cases transport.connection.role with
  | server => exact identifies_tryVersionServer
  | client => exact identifies_tryVersionClient

/-! ## Packets -/

def Connection.receive (connection : Connection) (message payload : Octets) : Connection :=
  record (.received payload) { connection with
    proc := message
    rxSeq := (connection.rxSeq + 1) % 2 ^ 32 }

theorem tryPacket_cases (transport : SshTransport) :
    (decodeNext transport.connection transport.inbuf = .ok none ∧
        tryPacket transport = (.ok none, transport)) ∨
      (∃ reason, decodeNext transport.connection transport.inbuf = .error (.error reason) ∧
        tryPacket transport =
          within (failDisconnect reason (describeDecodeFailure reason)) transport) ∨
      ∃ info first payload padding, 0 < info.consumed ∧ info.consumed ≤ transport.inbuf.length ∧
        decodeNext transport.connection transport.inbuf =
          .ok (some (info, first :: (payload ++ padding))) ∧
        (∀ connection : Connection, connection.proc = first :: (payload ++ padding) →
          Holds info payload connection) ∧
        tryPacket transport = (.ok (some (info, transport.connection.rxSeq)),
          { inbuf := transport.inbuf.drop info.consumed
            connection :=
              transport.connection.receive (first :: (payload ++ padding)) payload }) := by
  have decoded := decodeNext_decoded transport.connection transport.inbuf
  rcases found : decodeNext transport.connection transport.inbuf with fault | frame
  all_goals
    rw [found] at decoded
    cases decoded
  case rejected reason =>
    refine .inr (.inl ⟨reason, rfl, ?_⟩)
    rw [tryPacket, gets_bind]
    simp only [id, found]
  case incomplete =>
    refine .inl ⟨rfl, ?_⟩
    rw [tryPacket, gets_bind]
    simp only [id, found]
    rfl
  case framed consumed staged first payload padding positive inside fits padded =>
    refine .inr (.inr ⟨⟨consumed, staged, 1, payload.length⟩, first, payload, padding, positive,
      inside, rfl, fun connection message => ⟨rfl, rfl, first, padding, message, padded⟩, ?_⟩)
    have read : (FrameInfo.payload ⟨consumed, staged, 1, payload.length⟩
        (first :: (payload ++ padding)) : Except (Fault Fail) _) = .ok payload := by
      rw [FrameInfo.payload, Checked.range_ok (Nat.le_add_right _ _) (by simp; omega),
        Nat.add_comm 1, take_succ_cons, take_left, drop_succ_cons, drop_zero]
    rw [tryPacket, gets_bind]
    simp only [id, found]
    rw [bind_of_answer (lift_of_ok read transport)]
    rfl

section

theorem nextPayload_of_frame (reads : transport.connection.auth.phase ≠ .pending ∧
      transport.connection.state ≠ .versionExchange)
    (holds : Holds info payload
      (transport.connection.receive (first :: (payload ++ padding)) payload))
    (found : decodeNext transport.connection transport.inbuf =
      .ok (some (info, first :: (payload ++ padding)))) :
    nextFrame transport = some (info, first :: (payload ++ padding)) ∧
      nextPayload transport = some payload := by
  have frame : nextFrame transport = some (info, first :: (payload ++ padding)) := by
    rw [nextFrame, if_neg (not_or.mpr reads), found]
  refine ⟨frame, ?_⟩
  rw [nextPayload, frame, Option.map_some, holds.start, holds.length, Nat.add_comm 1,
    take_succ_cons, take_left, drop_succ_cons, drop_zero]

/-- What a packet makes of the connection it was received on is a move of the round. -/
theorem rounded_of_received {after : Connection}
    (settled : transport.connection.state = .established ∨ transport.connection.state = .closed →
      Settled transport.connection after)
    (next : nextPayload transport = some payload) (handled :
      Quiet (transport.connection.receive (first :: (payload ++ padding)) payload) after ∨
        transport.connection.state = .established ∧ ∃ events, Moved payload
          (transport.connection.receive (first :: (payload ++ padding)) payload) after events) :
    Rounded transport ⟨after, rest⟩ := by
  have recorded : ∀ events : List Event,
      (transport.connection.receive (first :: (payload ++ padding)) payload).history ++ events =
        transport.connection.history ++ .received payload :: events := by
    intro events
    rw [Connection.receive, record, append_assoc]
    rfl
  rcases handled with quiet | ⟨established, events, moved⟩
  · rcases quiet.history with ⟨events, history, ordinary⟩
    refine ⟨quiet.role, settled, .received payload :: events, history.trans (recorded events), ?_⟩
    exact .quiet quiet.auth quiet.chan (forall_mem_cons.mpr ⟨trivial, ordinary⟩)
  refine ⟨moved.role, settled, .received payload :: events,
    moved.history.trans (recorded events), ?_⟩
  exact .packet established next moved.move

theorem ensures_handleReceived (seq : Nat) (rest : Octets)
    (holds : Holds info payload
      (transport.connection.receive (first :: (payload ++ padding)) payload))
    (frame : nextFrame transport = some (info, first :: (payload ++ padding)))
    (next : nextPayload transport = some payload) :
    (handlePacket info seq).Ensures
      (transport.connection.receive (first :: (payload ++ padding)) payload)
      (fun _ after => Rounded transport ⟨after, rest⟩)
      fun stop after => Rounded transport ⟨after, rest⟩ ∧ Clean (hollow transport = true) stop := by
  have risky : ∀ msg, (first :: (payload ++ padding))[1]? = some msg →
      msg ∈ fieldedTypes transport.connection.state → payload = [] → hollow transport = true :=
    fun msg read fielded empty => by
      rw [hollow, frame, Option.any_some, read, Option.any_some, holds.length, empty]
      simpa using fielded
  by_cases established : transport.connection.state = .established
  · have handled := ensures_handlePacket seq holds risky established
    refine handled.mono (fun _ after kept => ?_) fun _ after stopped => ⟨?_, stopped.2⟩
    · exact rounded_of_received (fun _ => kept.1) next (.inr ⟨established, kept.2⟩)
    · exact rounded_of_received (fun _ => stopped.1.1) next (.inr ⟨established, stopped.1.2⟩)
  have handled := ensures_handlePacket_quiet seq holds risky established
  have settled : ∀ {outcome after}, handlePacket info seq
      (transport.connection.receive (first :: (payload ++ padding)) payload) = (outcome, after) →
      transport.connection.state = .established ∨ transport.connection.state = .closed →
      Settled transport.connection after := by
    intro outcome after call late
    have settled := settled_handlePacket_of_closed seq holds (late.resolve_left established)
    rwa [call] at settled
  apply ensures_of_cases
  · intro _ after call
    exact rounded_of_received (settled call) next (.inl (handled.answer call))
  intro stop after call
  rcases handled.stop call with ⟨quiet, clean⟩
  exact ⟨rounded_of_received (settled call) next (.inl quiet), clean⟩

end

theorem roundsOff_packet (reads : transport.connection.auth.phase ≠ .pending ∧
      transport.connection.state ≠ .versionExchange) :
    RoundsOff (do
      let next ← tryPacket
      match next with
      | none => return some .progress
      | some (info, seq) => within (handlePacket info seq)) transport := by
  rcases tryPacket_cases transport with ⟨-, call⟩ | ⟨reason, -, call⟩ |
    ⟨info, first, payload, padding, positive, inside, found, holds, call⟩
  · apply ensures_bind_of_answer call
    exact ⟨rounded_of_quiet (Quiet.refl _) fun _ => .inl rfl, nofun⟩
  · rw [RoundsOff, Ensures, bind_of_stop (call.trans (within_of_call (failDisconnect_eq _ _ _)))]
    exact ⟨rounded_of_quiet (quiet_disconnect _ _ _) fun _ => .inr rfl, clean_fail _ _⟩
  apply ensures_bind_of_answer call
  have holds := holds (transport.connection.receive (first :: (payload ++ padding)) payload) rfl
  rcases nextPayload_of_frame reads holds found with ⟨frame, next⟩
  rw [ensures_within_iff]
  refine (ensures_handleReceived _ _ holds frame next).mono (fun _ after rounded => ?_)
    fun _ _ stopped => stopped
  refine ⟨rounded, fun _ => ?_⟩
  rw [length_drop]
  omega

theorem roundsOff_feedRound : RoundsOff feedRound transport := by
  rw [RoundsOff, feedRound, ensures_gets_iff, ensures_gets_iff]
  split
  · exact ⟨rounded_of_quiet (Quiet.refl _) fun _ => .inl rfl, nofun⟩
  rename_i unparked
  split
  next identifying =>
    have early : ¬(transport.connection.state = .established ∨
        transport.connection.state = .closed) := by
      rw [identifying]
      exact nofun
    apply ensures_bind
    refine identifies_tryVersion.mono (fun identified after answered => ?_)
      fun _ _ stopped => ?_
    · refine ⟨rounded_of_quiet answered.1 fun late => absurd late early, ?_⟩
      cases identified with
      | false => exact nofun
      | true => exact fun _ => answered.2 rfl
    · exact ⟨rounded_of_quiet stopped.1 fun late => absurd late early, stopped.2.1,
        fun panicked => (stopped.2.2 panicked).elim⟩
  next past => exact roundsOff_packet ⟨unparked, past⟩

/-! ## The loop -/

theorem feedBody_continues {next : SshTransport} (continues : feedBody transport = .inr next) :
    Rounded transport next ∧ next.inbuf.length < transport.inbuf.length := by
  rw [feedBody] at continues
  split at continues
  next call =>
    cases continues
    rcases roundsOff_feedRound.answer call with ⟨rounded, shorter⟩
    exact ⟨rounded, shorter rfl⟩
  · cases continues
  · cases continues

theorem feedBody_ends (ends : feedBody transport = .inl (outcome, after)) :
    Rounded transport after ∧
      ∀ stop, outcome = .error stop → Clean (hollow transport = true) stop := by
  rw [feedBody] at ends
  split at ends
  · cases ends
  next feed _ call =>
    cases ends
    exact ⟨(roundsOff_feedRound.answer call).1, nofun⟩
  rename_i stop _ call
  cases ends
  rcases roundsOff_feedRound.stop call with ⟨rounded, clean⟩
  refine ⟨rounded, fun other same => ?_⟩
  cases same
  exact clean

theorem feedLoop_eq (transport : SshTransport) :
    ∃ result, iterate feedBody (transport.inbuf.length + 1) transport = some result ∧
      feedLoop transport = result := by
  have ends : ∃ result, iterate feedBody (transport.inbuf.length + 1) transport =
    some result := by
    apply iterate_ends_of_measure (fun _ => True) fun transport => transport.inbuf.length
    · exact fun _ continues => ⟨trivial, (feedBody_continues continues).2⟩
    · trivial
    · exact Nat.lt_succ_self _
  rcases ends with ⟨result, finished⟩
  refine ⟨result, finished, ?_⟩
  rw [feedLoop, finished]
  rfl

def roundsOf (bytes : Octets) (transport : SshTransport) : List SshTransport :=
  if transport.connection.state = .closed then
    []
  else
    match pushIn bytes transport with
    | (.ok (), pushed) => visited feedBody (pushed.inbuf.length + 1) pushed
    | (.error _, _) => []

omit [Crypto] in
theorem pushIn_cases :
    (pushIn bytes transport = (.ok (), { transport with inbuf := transport.inbuf ++ bytes })) ∨
      pushIn bytes transport = (.error (.error (.error .outOfCapacity)), transport) := by
  rw [pushIn]
  split
  next empty =>
    rw [empty, append_nil]
    exact .inl rfl
  split
  · exact .inr rfl
  · exact .inl rfl

theorem feed_cases (bytes : Octets) (transport : SshTransport) :
    (roundsOf bytes transport = [] ∧
        ∃ error, feed bytes transport = (.error (.error (.error error)), transport)) ∨
      ∃ result,
        let pushed : SshTransport := { transport with inbuf := transport.inbuf ++ bytes }
        roundsOf bytes transport = visited feedBody (pushed.inbuf.length + 1) pushed ∧
          iterate feedBody (pushed.inbuf.length + 1) pushed = some result ∧
          feed bytes transport = result := by
  by_cases closed : transport.connection.state = .closed
  · refine .inl ⟨if_pos closed, .closed, ?_⟩
    rw [feed, gets_bind, if_pos closed]
    rfl
  rcases pushIn_cases with pushed | refused
  · refine .inr ?_
    rcases feedLoop_eq { transport with inbuf := transport.inbuf ++ bytes } with
      ⟨result, finished, same⟩
    refine ⟨result, ?_, finished, ?_⟩
    · rw [roundsOf, if_neg closed, pushed]
    · rw [feed, gets_bind, if_neg closed, bind_of_answer pushed]
      exact same
  · refine .inl ⟨?_, .outOfCapacity, ?_⟩
    · rw [roundsOf, if_neg closed, refused]
    · rw [feed, gets_bind, if_neg closed, bind_of_stop refused]

variable (Invariant : Connection → Prop)
  (keeps : ∀ round ∈ roundsOf bytes transport, Invariant round.connection →
    ∀ after, Rounded round after → Invariant after.connection)
  (holds : Invariant transport.connection)

include keeps holds

theorem rounds_preserve : ∀ round ∈ roundsOf bytes transport, Invariant round.connection := by
  rcases feed_cases bytes transport with ⟨none, -⟩ | ⟨result, rounds, -⟩
  · rw [none]
    exact fun _ member => nomatch member
  rw [rounds] at keeps ⊢
  refine visited_preserves (fun round : SshTransport => Invariant round.connection) ?_ holds
  intro round member invariant next continues
  exact keeps round member invariant next (feedBody_continues continues).1

theorem feed_preserves : Invariant (feed bytes transport).2.connection := by
  rcases feed_cases bytes transport with ⟨-, error, refused⟩ | ⟨result, rounds, finished, same⟩
  · rw [refused]
    exact holds
  rw [same]
  rw [rounds] at keeps
  apply iterate_preserves_visited (fun round => Invariant round.connection)
    (fun result => Invariant result.2.connection) ?_ ?_ holds finished
  · intro round member invariant next continues
    exact keeps round member invariant next (feedBody_continues continues).1
  · intro round member invariant result ends
    exact keeps round member invariant result.2 (feedBody_ends ends).1

end
end ServiceOS.Ssh
