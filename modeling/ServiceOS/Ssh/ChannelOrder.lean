import ServiceOS.Ssh.Calls

/-! # The end of the channel

After EOF there is no data, and after CLOSE nothing at all, as long as nothing is
left to flush and EOF does not come after CLOSE: flushing looks at neither flag,
and the EOF of the host not at the one for CLOSE. -/

namespace ServiceOS.Ssh

open ByteString Fallible List Session

/-! ## The order of messages -/

def Event.sentKind : Event → Option UInt8
  | .sent payload => payload.head?
  | _ => none

def closedKinds : Octets :=
  [sshMsgChannelData, sshMsgChannelEof, sshMsgChannelWindowAdjust, sshMsgChannelClose]

/-- The later event is no data after EOF and nothing for the channel after CLOSE. -/
def InOrder (earlier later : Event) : Prop :=
  (earlier.sentKind = some sshMsgChannelEof → later.sentKind ≠ some sshMsgChannelData) ∧
    (earlier.sentKind = some sshMsgChannelClose → ∀ kind ∈ closedKinds, later.sentKind ≠ some kind)
deriving Decidable

def Event.Timeless (event : Event) : Prop := ∀ kind ∈ closedKinds, event.sentKind ≠ some kind

theorem inOrder_timeless (timeless : later.Timeless) : InOrder earlier later :=
  ⟨fun _ => timeless sshMsgChannelData (by decide), fun _ => timeless⟩

variable {event : Event}

theorem timeless_of_none (none : event.sentKind = none) : event.Timeless := by
  intro kind _ sent
  rw [none] at sent
  cases sent

theorem Event.Ordinary.timeless (ordinary : event.Ordinary) : event.Timeless := by
  cases event with
  | sent =>
    intro kind member sent
    have among : closedKinds ⊆ channelKinds := by simp [closedKinds, channelKinds]
    exact ordinary kind sent (among member)
  | received payload | refused payload => exact timeless_of_none rfl
  | _ => exact ordinary.elim

theorem Emitted.timeless (emitted : Emitted message events) (head : message.head? = some kind)
    (other : kind ∉ closedKinds) : ∀ event ∈ events, event.Timeless := by
  rcases emitted with rfl | rfl
  · refine forall_mem_singleton.mpr fun forbidden member sent => ?_
    cases head.symm.trans sent
    exact other member
  · exact forall_mem_singleton.mpr (timeless_of_none rfl)

/-! ## The flags -/

/-- The messages are in order, and a flag that is not set means that its message was
not sent. -/
structure Orderly (eofOut closeOut : Bool) (history : List Event) : Prop where
  ordered : history.Pairwise InOrder
  eof : eofOut = false → ∀ event ∈ history, event.sentKind ≠ some sshMsgChannelEof
  close : closeOut = false → ∀ event ∈ history, event.sentKind ≠ some sshMsgChannelClose

variable {payload : Octets}

section

section

variable (orderly : Orderly eofOut closeOut history)

include orderly

theorem Orderly.append_timeless (timeless : ∀ event ∈ events, event.Timeless) :
    Orderly eofOut closeOut (history ++ events) := by
  refine ⟨?_, fun unset => ?_, fun unset => ?_⟩
  · refine pairwise_append.mpr ⟨orderly.ordered, ?_, ?_⟩
    · exact pairwise_of_forall_mem_list fun _ _ later member =>
        inOrder_timeless (timeless later member)
    · exact fun _ _ event member => inOrder_timeless (timeless event member)
  · refine forall_mem_append.mpr ⟨orderly.eof unset, fun event member => ?_⟩
    exact timeless event member sshMsgChannelEof (by decide)
  · refine forall_mem_append.mpr ⟨orderly.close unset, fun event member => ?_⟩
    exact timeless event member sshMsgChannelClose (by decide)

variable (typed : payload.head? = some kind) (unclosed : closeOut = false)
  (beforeEof : kind = sshMsgChannelData → eofOut = false)
  (eof : eofOut' = false → eofOut = false ∧ kind ≠ sshMsgChannelEof)
  (close : closeOut' = false → kind ≠ sshMsgChannelClose)

include typed unclosed beforeEof eof close

/-- A message that comes before CLOSE, and before EOF if it is data. -/
theorem Orderly.append_sent : Orderly eofOut' closeOut' (history ++ [.sent payload]) := by
  have sent : (Event.sent payload).sentKind = some kind := typed
  refine ⟨?_, fun unset => ?_, fun unset => ?_⟩
  · refine pairwise_append.mpr ⟨orderly.ordered, pairwise_singleton _ _, ?_⟩
    intro earlier member later last
    cases mem_singleton.mp last
    constructor
    · intro isEof isData
      refine orderly.eof (beforeEof ?_) earlier member isEof
      exact Option.some.inj (sent.symm.trans isData)
    · exact fun isClose => absurd isClose (orderly.close unclosed earlier member)
  · refine forall_mem_append.mpr ⟨orderly.eof (eof unset).1, forall_mem_singleton.mpr ?_⟩
    rw [sent]
    exact fun same => (eof unset).2 (Option.some.inj same)
  · refine forall_mem_append.mpr ⟨orderly.close unclosed, forall_mem_singleton.mpr ?_⟩
    rw [sent]
    exact fun same => close unset (Option.some.inj same)

/-- A flag may be set though its message was refused. -/
theorem Orderly.append_emitted (emitted : Emitted payload events) :
    Orderly eofOut' closeOut' (history ++ events) := by
  rcases emitted with rfl | rfl
  · exact orderly.append_sent typed unclosed beforeEof eof close
  have same := orderly.append_timeless
    (forall_mem_singleton.mpr (timeless_of_none (rfl : (Event.refused payload).sentKind = none)))
  exact ⟨same.ordered, fun unset => same.eof (eof unset).1, fun _ => same.close unclosed⟩

end

/-- A flush that is allowed: there is nothing to send, or neither flag is set. -/
def ChannelState.MayFlush (chan : ChannelState) : Prop :=
  chan.pendingOut = [] ∨ chan.remoteWindow = 0 ∨ chan.eofOut = false ∧ chan.closeOut = false
deriving Decidable

theorem Flushed.orderly {after : ChannelState} (flushed : Flushed chan after events)
    (allowed : chan.MayFlush) (orderly : Orderly chan.eofOut chan.closeOut history) :
    Orderly after.eofOut after.closeOut (history ++ events) := by
  cases flushed with
  | idle =>
    rw [append_nil]
    exact orderly
  | refused =>
    exact orderly.append_timeless (forall_mem_singleton.mpr (timeless_of_none rfl))
  | sent waiting window =>
    rcases allowed with empty | none | ⟨noEof, noClose⟩
    · exact absurd empty waiting
    · exact absurd none window
    refine orderly.append_sent rfl noClose (fun _ => noEof)
      (fun unset => ⟨unset, ?_⟩) fun _ => ?_
    · decide
    · decide

/-! ## Moves -/

theorem Move.orderly (move : Move payload auth chan auth' chan' events)
    (allowed : ∀ bytes, payload.head? = some sshMsgChannelWindowAdjust →
      parseRecipientU32 payload = .ok (some (localId, bytes)) →
      ChannelState.MayFlush
        { chan with remoteWindow := min (chan.remoteWindow + bytes) u32Max })
    (orderly : Orderly chan.eofOut chan.closeOut history) :
    Orderly chan'.eofOut chan'.closeOut (history ++ events) := by
  have plainly : ∀ {message : Octets} {events : List Event}, Plain message →
      Emitted message events → ∀ event ∈ events, event.Timeless := by
    rintro message events plain (rfl | rfl)
    · exact forall_mem_singleton.mpr (Event.Ordinary.timeless plain)
    · exact forall_mem_singleton.mpr (timeless_of_none rfl)
  cases move with
  | quiet ordinary =>
    exact orderly.append_timeless fun event member => (ordinary event member).timeless
  | acceptService plain emitted _ | acceptServiceAgain plain emitted _ =>
    exact orderly.append_timeless
      (forall_mem_cons.mpr ⟨timeless_of_none rfl, plainly plain emitted⟩)
  | park | deliver =>
    exact orderly.append_timeless (forall_mem_singleton.mpr (timeless_of_none rfl))
  | openChannel _ _ _ emitted =>
    exact orderly.append_timeless
      (forall_mem_cons.mpr ⟨timeless_of_none rfl, emitted.timeless rfl (by decide)⟩)
  | @request granted _ _ _ ordinary =>
    have same := orderly.append_timeless fun event member => (ordinary event member).timeless
    cases granted with
    | pty | shell | refused => exact same
  | @adjust bytes _ _ typed parsed flushed =>
    have noted := orderly.append_timeless
      (forall_mem_singleton.mpr (timeless_of_none (rfl : (Event.adjusted bytes).sentKind = _)))
    have flushed := flushed.orderly (allowed bytes typed parsed) noted
    rwa [append_assoc] at flushed
  | eofIn | closeIn =>
    rw [append_nil]
    exact orderly
  | answerClose _ _ unclosed emitted =>
    refine orderly.append_emitted rfl unclosed (fun same => ?_) (fun unset => ⟨unset, ?_⟩)
      (fun unset => ?_) emitted
    · exact absurd same (by decide)
    · decide
    · cases unset

/-- What is asked of a call of the host: data is not sent after EOF, nor EOF after
CLOSE. -/
def Connection.Allows (connection : Connection) : Call → Prop
  | .sendChannelData data =>
    connection.chan.opened = true → connection.chan.closeOut = false →
      connection.chan.pendingOut = [] ∧ data = [] ∨ connection.chan.remoteWindow = 0 ∨
        connection.chan.eofOut = false
  | .sendChannelEof =>
    connection.chan.opened = true → connection.chan.eofOut = false →
      connection.chan.closeOut = false
  | _ => True

instance (connection : Connection) (call : Call) : Decidable (connection.Allows call) :=
  match call with
  | .sendChannelData _ | .sendChannelEof => inferInstanceAs (Decidable (_ → _ → _))
  | .feed _ | .authVerdict _ | .ackChannelData _ | .sendChannelClose | .consumeOutput _ =>
    .isTrue trivial

theorem HostMove.orderly {accepted : Octets}
    (move : HostMove before call accepted auth chan state events) (allowed : before.Allows call)
    (orderly : Orderly before.chan.eofOut before.chan.closeOut history) :
    Orderly chan.eofOut chan.closeOut (history ++ events) := by
  have judged : ∀ {message : Octets} {events : List Event} {verdict : Bool}, Plain message →
      Emitted message events → ∀ event ∈ Event.verdict verdict :: events, event.Timeless := by
    rintro message events verdict plain (rfl | rfl)
    all_goals refine forall_mem_cons.mpr ⟨timeless_of_none rfl, ?_⟩
    · exact forall_mem_singleton.mpr (Event.Ordinary.timeless plain)
    · exact forall_mem_singleton.mpr (timeless_of_none rfl)
  cases move with
  | nothing =>
    rw [append_nil]
    exact orderly
  | accept _ emitted =>
    exact orderly.append_timeless (judged (plain_of_head rfl (by decide)) emitted)
  | reject _ _ plain emitted | giveUp _ _ plain emitted =>
    exact orderly.append_timeless (judged plain emitted)
  | acknowledge unclosed emitted =>
    refine orderly.append_emitted rfl unclosed (fun same => ?_) (fun unset => ⟨unset, ?_⟩)
      (fun _ => ?_) emitted
    · exact absurd same (by decide)
    · decide
    · decide
  | send opened unclosed room front flushed =>
    refine flushed.orderly ?_ orderly
    rcases allowed opened unclosed with ⟨empty, rfl⟩ | none | noEof
    · refine .inl ?_
      simp only [empty, nil_append]
      exact prefix_nil.mp front
    · exact .inr (.inl none)
    · exact .inr (.inr ⟨noEof, unclosed⟩)
  | sendRefused =>
    exact orderly.append_timeless (forall_mem_singleton.mpr (timeless_of_none rfl))
  | sendEof opened first emitted =>
    refine orderly.append_emitted rfl (allowed opened first) (fun same => ?_) (fun unset => ?_)
      (fun _ => ?_) emitted
    · exact absurd same (by decide)
    · cases unset
    · decide
  | sendClose opened first emitted =>
    refine orderly.append_emitted rfl first (fun same => ?_) (fun unset => ⟨unset, ?_⟩)
      (fun unset => ?_) emitted
    · exact absurd same (by decide)
    · decide
    · cases unset

end

section

variable [Crypto]

/-- A round does not meet a larger window that would flush data after EOF or CLOSE. -/
def orderlyAdjust (round : SshTransport) : Bool :=
  match nextPayload round with
  | none => true
  | some payload =>
    if round.connection.state = .established ∧
        payload.head? = some sshMsgChannelWindowAdjust then
      match parseRecipientU32 payload with
      | .ok (some (recipient, bytes)) =>
        decide (recipient = localId → ChannelState.MayFlush
          { round.connection.chan with
            remoteWindow := min (round.connection.chan.remoteWindow + bytes) u32Max })
      | _ => true
    else
      true

variable {round : SshTransport}

theorem orderly_round {after : SshTransport} (allowed : orderlyAdjust round = true)
    (orderly : Orderly round.connection.chan.eofOut round.connection.chan.closeOut
      round.connection.history)
    (rounded : Rounded round after) :
    Orderly after.connection.chan.eofOut after.connection.chan.closeOut
      after.connection.history := by
  rcases rounded.moved with ⟨events, history, moved⟩
  rw [history]
  cases moved with
  | quiet _ chan ordinary =>
    rw [chan]
    exact orderly.append_timeless fun event member => (ordinary event member).timeless
  | @packet payload events established next move =>
    have received := orderly.append_timeless (forall_mem_singleton.mpr
      (timeless_of_none (rfl : (Event.received payload).sentKind = none)))
    rw [orderlyAdjust, next] at allowed
    have moved := move.orderly (fun bytes typed parsed => by
      simp only [established, typed, parsed, and_self, if_true] at allowed
      exact of_decide_eq_true allowed trivial) received
    rwa [append_assoc] at moved

/-- The condition on a call: no flush and no EOF out of order. -/
def OrderlyCall (session : Session) (call : Call) : Prop :=
  EveryRound orderlyAdjust session call ∧ session.connection.Allows call
deriving Decidable

/-- In every run whose calls meet the condition, no data follows EOF, and after CLOSE
the channel is silent. -/
theorem channel_ends_in_order {start final : Session} (fresh : Fresh start) {calls : List Call}
    (reached : Execution.run step start calls = some final)
    (allowed : Execution.EveryStep step OrderlyCall start calls) :
    final.connection.history.Pairwise InOrder := by
  suffices orderly : Orderly final.connection.chan.eofOut final.connection.chan.closeOut
      final.connection.history from orderly.ordered
  apply Execution.everyStep_preserves (fun session : Session =>
    Orderly session.connection.chan.eofOut session.connection.chan.closeOut
      session.connection.history) OrderlyCall ?_ reached allowed
  · rcases fresh.quiet with ⟨-, role, hostSeed, x25519Seed, cookie, quiet⟩
    rcases quiet.history with ⟨events, history, ordinary⟩
    rw [history]
    refine Orderly.append_timeless ?_ fun event member => (ordinary event member).timeless
    exact ⟨.nil, fun _ _ member => (nomatch member), fun _ _ member => (nomatch member)⟩
  intro session next call taken allowed orderly
  apply step_preserves (fun connection _ =>
    Orderly connection.chan.eofOut connection.chan.closeOut connection.history)
      taken ?_ ?_ orderly
  · rintro bytes rfl round member orderly after rounded
    exact orderly_round (allowed.1 round member) orderly rounded
  intro accepted after hosted
  rcases hosted.moved with ⟨events, history, moved⟩
  rw [history]
  exact moved.orderly allowed.2 orderly

end

section

open Sample Execution

theorem channel_ends_in_order_of_sample :
    ∃ final ∈ run step session
        [.feed (handshake ++ packets 3 [channelOpen 5]), .sendChannelData [1, 2], .sendChannelEof,
          .sendChannelClose],
      (∃ event ∈ final.connection.history, event.sentKind = some sshMsgChannelClose) ∧
        final.connection.history.Pairwise InOrder := by
  have ran : ∃ final ∈ run step session
      [.feed (handshake ++ packets 3 [channelOpen 5]), .sendChannelData [1, 2], .sendChannelEof,
        .sendChannelClose],
      ∃ event ∈ final.connection.history, event.sentKind = some sshMsgChannelClose := by
    decide +kernel
  have allowed : EveryStep step OrderlyCall session
      [.feed (handshake ++ packets 3 [channelOpen 5]), .sendChannelData [1, 2], .sendChannelEof,
        .sendChannelClose] := by decide +kernel
  rcases ran with ⟨final, reached, closed⟩
  exact ⟨final, reached, closed, channel_ends_in_order (.server _ _ _) reached allowed⟩

/-- The window is empty when the host is done: the peer then asks for more, and the
data comes after EOF and CLOSE. -/
theorem channel_ends_out_of_order :
    ∃ final ∈ run step session
        [.feed (handshake ++ packets 3 [channelOpen 0]), .sendChannelData [1], .sendChannelClose,
          .sendChannelEof, .feed (packets 4 [windowAdjust localId 5])],
      (final.connection.history.filterMap Event.sentKind).drop 4 =
          [sshMsgChannelClose, sshMsgChannelEof, sshMsgChannelData] ∧
        ¬final.connection.history.Pairwise InOrder := by
  decide +kernel

end
end ServiceOS.Ssh
