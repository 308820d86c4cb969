import ServiceOS.Foundation.Execution
import ServiceOS.Ssh.Rounds

/-! # Runs of a transport

A host feeds bytes to its transport and makes the other calls in any order. A
panic ends the run. What the calls can do to the authentication and to the
channel is listed once, and the invariants of runs are derived from the list. -/

namespace ServiceOS.Ssh

open ByteString Fallible List

inductive Call
  | feed (bytes : Octets)
  | authVerdict (accepted : Bool)
  | ackChannelData (n : Nat)
  | sendChannelData (data : Octets)
  | sendChannelEof
  | sendChannelClose
  | consumeOutput (n : Nat)

section

variable [Crypto]

/-- Make a call. The answer is the data the transport has accepted for the channel. -/
def Call.perform : Call → Receiver Octets
  | .feed bytes => do
    let _ ← Ssh.feed bytes
    return []
  | .authVerdict accepted => do
    within (Ssh.authVerdict accepted)
    return []
  | .ackChannelData n => do
    within (Ssh.ackChannelData n)
    return []
  | .sendChannelData data => do
    let count ← within (Ssh.sendChannelData data)
    return data.take count
  | .sendChannelEof => do
    within Ssh.sendChannelEof
    return []
  | .sendChannelClose => do
    within Ssh.sendChannelClose
    return []
  | .consumeOutput n => do
    modify (Ssh.consumeOutput n)
    return []

/-- A transport and the data it has accepted for its channel so far. -/
structure Session where
  transport : SshTransport
  accepted : Octets

def Session.connection (session : Session) : Connection := session.transport.connection

def Session.step (session : Session) (call : Call) : Option Session :=
  match call.perform session.transport with
  | (.ok accepted, after) => some ⟨after, session.accepted ++ accepted⟩
  | (.error (.error (.error _)), after) => some ⟨after, session.accepted⟩
  | (.error (.error .panicked), _) | (.error .outOfFuel, _) => none

/-! ## What the host can do -/

/-- What a call other than `feed` makes of a connection: the data it accepts, the
connection after it and the events of it. -/
inductive HostMove (before : Connection) :
    Call → Octets → AuthState → ChannelState → State → List Event → Prop
  | nothing (call : Call) : HostMove before call [] before.auth before.chan before.state []
  | accept (parked : before.auth.phase = .pending)
      (emitted : Emitted [sshMsgUserauthSuccess] events) :
      HostMove before (.authVerdict true) [] ⟨.authenticated, 0, [], []⟩ before.chan before.state
        (.verdict true :: events)
  | reject (parked : before.auth.phase = .pending)
      (few : min (before.auth.fails + 1) 255 < maxAuthFailures) (plain : Plain message)
      (emitted : Emitted message events) :
      HostMove before (.authVerdict false) []
        ⟨.serviceAccepted, min (before.auth.fails + 1) 255, [], []⟩ before.chan before.state
        (.verdict false :: events)
  | giveUp (parked : before.auth.phase = .pending)
      (many : maxAuthFailures ≤ min (before.auth.fails + 1) 255) (plain : Plain message)
      (emitted : Emitted message events) :
      HostMove before (.authVerdict false) []
        ⟨before.auth.phase, min (before.auth.fails + 1) 255, [], []⟩ before.chan .closed
        (.verdict false :: events)
  | acknowledge (unclosed : before.chan.closeOut = false)
      (emitted : Emitted (windowAdjust before.chan.remoteId n) events) :
      HostMove before (.ackChannelData n) [] before.auth before.chan before.state events
  | send {after : ChannelState}
      (opened : before.chan.opened = true) (unclosed : before.chan.closeOut = false)
      (room : before.chan.pendingOut.length + accepted.length ≤ pendingOutCap)
      (front : accepted <+: data)
      (flushed : Flushed
        { before.chan with pendingOut := before.chan.pendingOut ++ accepted } after events)
      (answered : ∀ message, .refused message ∉ events) :
      HostMove before (.sendChannelData data) accepted before.auth after before.state events
  | sendRefused {message : Octets}
      (opened : before.chan.opened = true) (unclosed : before.chan.closeOut = false)
      (room : before.chan.pendingOut.length + accepted.length ≤ pendingOutCap) :
      HostMove before (.sendChannelData data) [] before.auth
        { before.chan with pendingOut := before.chan.pendingOut ++ accepted } before.state
        [.refused message]
  | sendEof (opened : before.chan.opened = true)
      (first : before.chan.eofOut = false)
      (emitted : Emitted (channelMessage sshMsgChannelEof before.chan.remoteId) events) :
      HostMove before .sendChannelEof [] before.auth { before.chan with eofOut := true }
        before.state events
  | sendClose (opened : before.chan.opened = true)
      (first : before.chan.closeOut = false)
      (emitted : Emitted (channelMessage sshMsgChannelClose before.chan.remoteId) events) :
      HostMove before .sendChannelClose [] before.auth { before.chan with closeOut := true }
        before.state events

structure Hosted (call : Call) (accepted : Octets) (before after : Connection) : Prop where
  role : after.role = before.role
  moved : ∃ events, after.history = before.history ++ events ∧
    HostMove before call accepted after.auth after.chan after.state events

/-- What is known of code that makes a call, with the data it accepts. -/
def Hosts {Answer : Type} (call : Call) (code : Handler Answer) (accepts : Answer → Octets) :
    Prop :=
  ∀ connection, code.Ensures connection
    (fun value after => Hosted call (accepts value) connection after)
    fun _ after => Hosted call [] connection after

omit [Crypto] in
theorem hosted_nothing : Hosted call [] connection connection :=
  ⟨rfl, [], (append_nil _).symm, .nothing call⟩

/-- A change followed by a packet is a move of the host if it is one for both fates of
the packet. -/
theorem hosts_emit_after (fits : message.length ≤ maxPayloadLen) (early : List Event)
    (role : changed.role = before.role) (history : changed.history = before.history ++ early)
    (move : ∀ events, Emitted message events →
      HostMove before call [] changed.auth changed.chan changed.state (early ++ events)) :
    (emitPacket message).Ensures changed (fun _ after => Hosted call [] before after)
      fun _ after => Hosted call [] before after := by
  apply ensures_emitPacket fits
  · intro _
    refine ⟨role, early ++ [.sent message], ?_, move _ (.inl rfl)⟩
    rw [Connection.queue, record, history, append_assoc]
  intro _
  refine ⟨role, early ++ [.refused message], ?_, move _ (.inr rfl)⟩
  rw [record, history, append_assoc]

theorem hosts_disconnect_after (early : List Event) (role : changed.role = before.role)
    (history : changed.history = before.history ++ early)
    (move : ∀ events, Emitted (disconnectPayload reason description) events →
      HostMove before call [] changed.auth changed.chan .closed (early ++ events)) :
    (failDisconnect reason description : Handler Unit).Ensures changed
      (fun _ after => Hosted call [] before after) fun _ after => Hosted call [] before after := by
  rw [Ensures, failDisconnect_eq]
  rcases emitted_disconnect changed reason description with ⟨events, emitted, recorded⟩
  have quiet := quiet_disconnect changed reason description
  refine ⟨quiet.role.trans role, early ++ events, ?_, ?_⟩
  · rw [recorded, history, append_assoc]
  · rw [quiet.auth, quiet.chan]
    exact move events emitted

theorem hosts_authVerdict : Hosts (.authVerdict accepted) (authVerdict accepted) fun _ => [] := by
  intro connection
  rw [authVerdict, ensures_gets_iff]
  split
  · exact hosted_nothing
  rename_i parked
  have parked : connection.auth.phase = .pending := Classical.not_not.mp parked
  cases accepted with
  | true =>
    refine hosts_emit_after (by decide) [.verdict true] rfl rfl fun events emitted => ?_
    exact .accept parked emitted
  | false =>
    simp only [Bool.false_eq_true, if_false, ensures_modify_iff, ensures_gets_iff]
    split
    next many =>
      refine hosts_disconnect_after [.verdict false] rfl rfl fun events emitted => ?_
      exact .giveUp parked many (plain_disconnectPayload _ _) emitted
    rename_i few
    refine hosts_emit_after (by decide) [.verdict false] rfl rfl fun events emitted => ?_
    exact .reject parked (Nat.lt_of_not_le few) (plain_of_head rfl (by decide)) emitted

theorem hosts_ackChannelData (n : Nat) :
    Hosts (.ackChannelData n) (ackChannelData n) fun _ => [] := by
  intro connection
  rw [ackChannelData, ensures_gets_iff]
  split
  · exact hosted_nothing
  rename_i usable
  have unclosed : connection.chan.closeOut = false := by
    rcases closed : connection.chan.closeOut with _ | _
    · rfl
    · exact absurd (.inr (.inr closed)) usable
  have length : (windowAdjust connection.chan.remoteId n).length ≤ maxPayloadLen := by
    rw [windowAdjust, length_append, length_channelMessage, u32Field, length_toBigEndian]
    decide
  refine hosts_emit_after length [] rfl (append_nil _).symm fun events emitted => ?_
  exact .acknowledge unclosed emitted

theorem hosts_sendChannelEof : Hosts .sendChannelEof sendChannelEof fun _ => [] := by
  intro connection
  rw [sendChannelEof, ensures_gets_iff]
  split
  · exact hosted_nothing
  rename_i usable
  have usable := usable_of_not usable
  refine hosts_emit_after (by rw [length_channelMessage]; decide) [] rfl (append_nil _).symm
    fun events emitted => ?_
  exact .sendEof usable.1 usable.2 emitted

theorem hosts_sendChannelClose : Hosts .sendChannelClose sendChannelClose fun _ => [] := by
  intro connection
  rw [sendChannelClose, ensures_gets_iff]
  split
  · exact hosted_nothing
  rename_i usable
  have usable := usable_of_not usable
  refine hosts_emit_after (by rw [length_channelMessage]; decide) [] rfl (append_nil _).symm
    fun events emitted => ?_
  exact .sendClose usable.1 usable.2 emitted

theorem hosts_sendChannelData :
    Hosts (.sendChannelData data) (sendChannelData data) fun count => data.take count := by
  intro connection
  rw [sendChannelData, ensures_gets_iff]
  split
  · exact hosted_nothing
  rename_i usable
  have usable := usable_of_not usable
  apply ensures_bind
  apply ensures_lift
  · intro pending copied
    rw [Checked.copyInto] at copied
    split at copied
    next room =>
      cases copied
      rw [length_append] at room
      simp only [changeChannel, ensures_modify_iff]
      apply ensures_bind
      refine (flushPendingOut_flushes _).mono ?_ ?_
      · rintro _ after ⟨⟨events, flushed, answered, only⟩, -⟩
        refine ⟨only.role, events, only.history, ?_⟩
        rw [only.auth, only.state]
        exact .send usable.1 usable.2 room ( take_prefix _ _) flushed answered
      · rintro _ _ ⟨⟨message, _, rfl⟩, -⟩
        exact ⟨rfl, _, rfl, .sendRefused usable.1 usable.2 room⟩
    · cases copied
  · exact fun _ _ => hosted_nothing

def Event.isRefused : Event → Bool
  | .refused _ => true
  | _ => false

/-! ## Steps -/

section

variable {session next : Session}

theorem step_cases (taken : session.step call = some next) :
    (∃ accepted, call.perform session.transport = (.ok accepted, next.transport) ∧
        next.accepted = session.accepted ++ accepted) ∨
      ∃ error, call.perform session.transport = (.error (.error (.error error)), next.transport) ∧
        next.accepted = session.accepted ++ [] := by
  rw [Session.step] at taken
  split at taken
  next accepted after performed =>
    cases taken
    exact .inl ⟨accepted, performed, rfl⟩
  next error after performed =>
    cases taken
    exact .inr ⟨error, performed, (append_nil _).symm⟩
  · cases taken
  · cases taken

theorem Hosts.step (hosts : Hosts call code accepts)
    (performs : call.perform = within code >>= fun value => pure (accepts value))
    (taken : session.step call = some next) :
    ∃ accepted, Hosted call accepted session.connection next.connection ∧
      next.accepted = session.accepted ++ accepted := by
  rcases next with ⟨reached, all⟩
  rcases step_cases taken with ⟨accepted, performed, grown⟩ | ⟨error, performed, grown⟩
  all_goals
    rw [performs] at performed
    rcases answer : code session.connection with ⟨stop | value, after⟩
  · rw [bind_of_stop (within_of_call answer)] at performed
    cases performed
  · rw [bind_of_answer (within_of_call answer)] at performed
    cases performed
    exact ⟨_, (hosts session.connection).answer answer, grown⟩
  · rw [bind_of_stop (within_of_call answer)] at performed
    cases performed
    exact ⟨[], (hosts session.connection).stop answer, grown⟩
  · rw [bind_of_answer (within_of_call answer)] at performed
    cases performed

theorem step_feed (taken : session.step (.feed bytes) = some next) :
    next.transport = (feed bytes session.transport).2 ∧ next.accepted = session.accepted := by
  rcases step_cases taken with ⟨accepted, performed, grown⟩ | ⟨error, performed, grown⟩
  all_goals
    rw [Call.perform] at performed
    rcases answer : feed bytes session.transport with ⟨stop | value, after⟩
  · rw [bind_of_stop answer] at performed
    cases performed
  · rw [bind_of_answer answer] at performed
    cases performed
    exact ⟨rfl, grown.trans (append_nil _)⟩
  · rw [bind_of_stop answer] at performed
    cases performed
    exact ⟨rfl, grown.trans (append_nil _)⟩
  · rw [bind_of_answer answer] at performed
    cases performed

theorem step_hosts (taken : session.step call = some next) :
    (∃ bytes, call = .feed bytes) ∨
      ∃ accepted, Hosted call accepted session.connection next.connection ∧
        next.accepted = session.accepted ++ accepted := by
  cases call with
  | feed bytes => exact .inl ⟨bytes, rfl⟩
  | authVerdict accepted => exact .inr (hosts_authVerdict.step rfl taken)
  | ackChannelData n => exact .inr ((hosts_ackChannelData n).step rfl taken)
  | sendChannelData data => exact .inr (hosts_sendChannelData.step rfl taken)
  | sendChannelEof => exact .inr (hosts_sendChannelEof.step rfl taken)
  | sendChannelClose => exact .inr (hosts_sendChannelClose.step rfl taken)
  | consumeOutput =>
    cases taken
    exact .inr ⟨[], ⟨rfl, [], (append_nil _).symm, .nothing _⟩, rfl⟩

/-- The invariant rule for a call: every round of `feed` keeps the invariant, and so
does every move of the host. -/
theorem step_preserves (Invariant : Connection → Octets → Prop)
    (taken : session.step call = some next)
    (rounds : ∀ bytes, call = .feed bytes → ∀ round ∈ roundsOf bytes session.transport,
      Invariant round.connection session.accepted → ∀ after, Rounded round after →
        Invariant after.connection session.accepted)
    (hosts : ∀ accepted after, Hosted call accepted session.connection after →
      Invariant after (session.accepted ++ accepted))
    (holds : Invariant session.connection session.accepted) :
    Invariant next.connection next.accepted := by
  rcases step_hosts taken with ⟨bytes, rfl⟩ | ⟨accepted, hosted, grown⟩
  · rcases step_feed taken with ⟨fed, same⟩
    rw [same, Session.connection, fed]
    exact feed_preserves (Invariant · session.accepted) (rounds bytes rfl) holds
  · rw [grown]
    exact hosts accepted next.connection hosted

end

def EveryRound (holds : SshTransport → Bool) (session : Session) (call : Call) : Prop :=
  match call with
  | .feed bytes => ∀ round ∈ roundsOf bytes session.transport, holds round = true
  | _ => True

instance (holds : SshTransport → Bool) (session : Session) (call : Call) :
    Decidable (EveryRound holds session call) :=
  match call with
  | .feed bytes =>
    inferInstanceAs (Decidable (∀ round ∈ roundsOf bytes session.transport, holds round = true))
  | .authVerdict _ | .ackChannelData _ | .sendChannelData _ | .sendChannelEof | .sendChannelClose
  | .consumeOutput _ => .isTrue trivial

def serverSession (hostSeed x25519Seed : Bytes 32) (cookie : Bytes 16) : Session :=
  ⟨server hostSeed x25519Seed cookie, []⟩

def clientSession (x25519Seed : Bytes 32) (cookie : Bytes 16) : Session :=
  ⟨client x25519Seed cookie, []⟩

inductive Fresh : Session → Prop
  | server (hostSeed x25519Seed : Bytes 32) (cookie : Bytes 16) :
      Fresh (serverSession hostSeed x25519Seed cookie)
  | client (x25519Seed : Bytes 32) (cookie : Bytes 16) : Fresh (clientSession x25519Seed cookie)

theorem Fresh.quiet (fresh : Fresh session) :
    session.accepted = [] ∧ ∃ role hostSeed x25519Seed cookie,
      Quiet (newConnection role hostSeed x25519Seed cookie) session.connection := by
  cases fresh with
  | server hostSeed x25519Seed cookie =>
    refine ⟨rfl, .server, hostSeed, x25519Seed, cookie, ?_⟩
    exact quiet_of_eq
  | client x25519Seed cookie =>
    refine ⟨rfl, .client, Bytes.zero 32, x25519Seed, cookie, ?_⟩
    have emits : ∀ connection, Quiet connection (emitMyKexinit connection).2 := fun connection =>
      relation_of_ensures ((quiet_emitMyKexinit connection).mono (fun _ _ quiet => quiet)
        fun _ _ stopped => stopped.1)
    refine Quiet.trans ?_ (emits _)
    exact quiet_of_eq

end

open Sample in
def Sample.session : Session := serverSession (Bytes.zero 32) (Bytes.zero 32) (Bytes.zero 16)

end ServiceOS.Ssh
