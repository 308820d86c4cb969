import ServiceOS.Ssh.Calls

/-! # The data of the channel

What the host sends is emitted or waits: nothing is lost, repeated or reordered,
and no more is emitted than the peer has given room for. -/

namespace ServiceOS.Ssh

open ByteString Fallible List

/-! ## Reading a history -/

def Event.data : Event → Octets
  | .sent payload => if payload.head? = some sshMsgChannelData then payload.drop dataHeader else []
  | _ => []

def dataSent (history : List Event) : Octets := history.flatMap Event.data

def Event.credit (credit : Nat) : Event → Nat
  | .opened initialWindow => initialWindow
  | .adjusted bytes => credit + bytes
  | _ => credit

/-- The window the channel was opened with and all that was added to it since. -/
def creditGiven (history : List Event) : Nat := history.foldl Event.credit 0

theorem dataSent_append (history events : List Event) :
    dataSent (history ++ events) = dataSent history ++ dataSent events := flatMap_append

theorem creditGiven_append (history events : List Event) :
    creditGiven (history ++ events) = events.foldl Event.credit (creditGiven history) :=
  foldl_append

def Event.Flowless (event : Event) : Prop :=
  event.data = [] ∧ ∀ credit, event.credit credit = credit

variable {events : List Event}

theorem flowless_sent (other : payload.head? ≠ some sshMsgChannelData) :
    (Event.sent payload).Flowless := ⟨if_neg other, fun _ => rfl⟩

theorem Event.Ordinary.flowless {event : Event} (ordinary : event.Ordinary) : event.Flowless := by
  cases event with
  | sent =>
    apply flowless_sent
    intro data
    exact ordinary _ data (by decide)
  | received payload | refused payload => exact ⟨rfl, fun _ => rfl⟩
  | _ => exact ordinary.elim

theorem Emitted.flowless (emitted : Emitted message events)
    (other : message.head? ≠ some sshMsgChannelData) : ∀ event ∈ events, event.Flowless := by
  rcases emitted with rfl | rfl
  · exact forall_mem_singleton.mpr (flowless_sent other)
  · exact forall_mem_singleton.mpr ⟨rfl, fun _ => rfl⟩

theorem dataSent_of_flowless (none : ∀ event ∈ events, event.Flowless) :
    dataSent events = [] := flatMap_eq_nil_iff.mpr fun event member => (none event member).1

theorem foldl_credit_of_flowless (none : ∀ event ∈ events, event.Flowless)
    (credit : Nat) : events.foldl Event.credit credit = credit := by
  induction events generalizing credit with
  | nil => rfl
  | cons event events induction =>
    rw [forall_mem_cons] at none
    rw [foldl_cons, none.1.2, induction none.2]

/-! ## Flushing -/

theorem data_channelData (remoteId : Nat) (data : Octets) :
    (Event.sent (channelData remoteId data)).data = data := by
  have header : (channelMessage sshMsgChannelData remoteId ++ u32Field data.length).length =
      dataHeader := by
    rfl
  have split : channelData remoteId data =
      (channelMessage sshMsgChannelData remoteId ++ u32Field data.length) ++ data := by
    rfl
  have typed : (channelData remoteId data).head? = some sshMsgChannelData := rfl
  rw [Event.data, if_pos typed, split, ← header, drop_left]

variable {before after : Connection}

/-- What is flushed comes from the front of the buffer and is taken off the window. -/
theorem Flushed.flow {after : ChannelState} (flushed : Flushed chan after events) :
    dataSent events ++ after.pendingOut = chan.pendingOut ∧
      (dataSent events).length + after.remoteWindow = chan.remoteWindow ∧
      (∀ credit, events.foldl Event.credit credit = credit) ∧ after.opened = chan.opened := by
  cases flushed with
  | idle | refused => exact ⟨rfl, Nat.zero_add _, fun _ => rfl, rfl⟩
  | sent =>
    rcases chan.chunk_le with ⟨inside, -, within⟩
    have sent : dataSent [.sent (channelData chan.remoteId (chan.pendingOut.take chan.chunk))] =
        chan.pendingOut.take chan.chunk := by
      rw [dataSent, flatMap_singleton, data_channelData]
    rw [sent]
    refine ⟨take_append_drop _ _, ?_, fun _ => rfl, rfl⟩
    rw [length_take_of_le inside]
    exact Nat.add_sub_cancel' within

/-! ## The invariant -/

/-- Sent and waiting data is what was accepted, and what was sent and may still be
sent is covered by the credit. -/
structure Conserved (connection : Connection) (accepted : Octets) : Prop where
  kept : dataSent connection.history ++ connection.chan.pendingOut = accepted
  covered : (dataSent connection.history).length + connection.chan.remoteWindow ≤
    creditGiven connection.history
  unopened : connection.chan.opened = false →
    connection.chan.pendingOut = [] ∧ dataSent connection.history = []

theorem Conserved.keep (conserved : Conserved before accepted)
    (history : after.history = before.history ++ events) (none : ∀ event ∈ events, event.Flowless)
    (pending : after.chan.pendingOut = before.chan.pendingOut)
    (window : after.chan.remoteWindow = before.chan.remoteWindow)
    (opened : after.chan.opened = before.chan.opened) : Conserved after accepted := by
  have sent : dataSent after.history = dataSent before.history := by
    rw [history, dataSent_append, dataSent_of_flowless none, append_nil]
  have credit : creditGiven after.history = creditGiven before.history := by
    rw [history, creditGiven_append, foldl_credit_of_flowless none]
  constructor
  · rw [sent, pending]
    exact conserved.kept
  · rw [sent, window, credit]
    exact conserved.covered
  · rw [sent, pending, opened]
    exact conserved.unopened

theorem Conserved.flush (conserved : Conserved before accepted)
    (history : after.history = before.history ++ (early ++ events))
    (flushed : Flushed changed after.chan events) (noData : dataSent early = [])
    (pending : changed.pendingOut = before.chan.pendingOut ++ more)
    (room : changed.remoteWindow + creditGiven before.history ≤
      before.chan.remoteWindow + creditGiven (before.history ++ early))
    (opened : changed.opened = before.chan.opened)
    (unopened : before.chan.opened = false → more = []) : Conserved after (accepted ++ more) := by
  rcases flushed.flow with ⟨front, spent, credit, same⟩
  have sent : dataSent after.history = dataSent before.history ++ dataSent events := by
    rw [history, dataSent_append, dataSent_append, noData, nil_append]
  have given : creditGiven after.history = creditGiven (before.history ++ early) := by
    rw [history, ← append_assoc, creditGiven_append, credit]
  constructor
  · rw [sent, append_assoc, front, pending, ← append_assoc, conserved.kept]
  · have covered := conserved.covered
    rw [sent, length_append, given]
    omega
  intro closed
  rw [same, opened] at closed
  rcases conserved.unopened closed with ⟨empty, nothing⟩
  rw [pending, empty, unopened closed] at front
  rcases append_eq_nil_iff.mp front with ⟨noEvents, noPending⟩
  refine ⟨noPending, ?_⟩
  rw [sent, nothing, noEvents, append_nil]

/-! ## Moves -/

theorem Plain.not_data (plain : Plain message) :
    message.head? ≠ some sshMsgChannelData := fun data => plain _ data (by decide)

def Still (chan after : ChannelState) (events : List Event) : Prop :=
  after.pendingOut = chan.pendingOut ∧ after.remoteWindow = chan.remoteWindow ∧
    after.opened = chan.opened ∧ ∀ event ∈ events, event.Flowless

theorem Move.flow_cases {chan' : ChannelState} (move : Move payload auth chan auth' chan' events) :
    Still chan chan' events ∨
      (∃ window rest, events = .opened window :: rest ∧ (∀ event ∈ rest, event.Flowless) ∧
        chan.opened = false ∧ chan'.opened = true ∧ chan'.pendingOut = chan.pendingOut ∧
        chan'.remoteWindow = window) ∨
      ∃ bytes rest, events = .adjusted bytes :: rest ∧
        Flushed { chan with remoteWindow := min (chan.remoteWindow + bytes) u32Max }
          chan' rest := by
  have plainly : ∀ event : Event, event.data = [] → (∀ credit, event.credit credit = credit) →
      ∀ {message : Octets} {events : List Event}, Emitted message events →
        message.head? ≠ some sshMsgChannelData →
        ∀ other ∈ event :: events, other.Flowless := fun event data credit _ _ emitted other =>
    forall_mem_cons.mpr ⟨⟨data, credit⟩, emitted.flowless other⟩
  cases move with
  | quiet ordinary =>
    exact .inl ⟨rfl, rfl, rfl, fun event member => (ordinary event member).flowless⟩
  | acceptService plain emitted _ | acceptServiceAgain plain emitted _ =>
    exact .inl ⟨rfl, rfl, rfl, plainly _ rfl (fun _ => rfl) emitted plain.not_data⟩
  | park | deliver => exact .inl ⟨rfl, rfl, rfl, forall_mem_singleton.mpr ⟨rfl, fun _ => rfl⟩⟩
  | openChannel typed parsed first emitted =>
    exact .inr (.inl ⟨_, _, rfl, emitted.flowless nofun, first, rfl, rfl, rfl⟩)
  | @request granted _ typed parsed ordinary =>
    have flowless : ∀ event ∈ events, event.Flowless := fun event member =>
      (ordinary event member).flowless
    cases granted with
    | pty | shell | refused => exact .inl ⟨rfl, rfl, rfl, flowless⟩
  | adjust typed parsed flushed => exact .inr (.inr ⟨_, _, rfl, flushed⟩)
  | eofIn | closeIn => exact .inl ⟨rfl, rfl, rfl, nofun⟩
  | answerClose typed parsed unclosed emitted =>
    exact .inl ⟨rfl, rfl, rfl, emitted.flowless nofun⟩

/-- What a host can do to the data of the channel. A refused call leaves data behind
that was not accepted. -/
theorem HostMove.flow_cases (move : HostMove before call accepted auth chan state events) :
    (accepted = [] ∧ Still before.chan chan events) ∨
      (before.chan.opened = true ∧
        Flushed { before.chan with pendingOut := before.chan.pendingOut ++ accepted } chan events) ∨
      ∃ message, .refused message ∈ events := by
  have judged : ∀ verdict, ∀ {message : Octets} {events : List Event},
      Emitted message events → message.head? ≠ some sshMsgChannelData →
        ∀ event ∈ Event.verdict verdict :: events, event.Flowless := fun _ _ _ emitted other =>
    forall_mem_cons.mpr ⟨⟨rfl, fun _ => rfl⟩, emitted.flowless other⟩
  cases move with
  | nothing => exact .inl ⟨rfl, rfl, rfl, rfl, nofun⟩
  | accept _ emitted => exact .inl ⟨rfl, rfl, rfl, rfl, judged _ emitted nofun⟩
  | reject _ _ plain emitted | giveUp _ _ plain emitted =>
    exact .inl ⟨rfl, rfl, rfl, rfl, judged _ emitted plain.not_data⟩
  | acknowledge _ emitted | sendEof _ _ emitted | sendClose _ _ emitted =>
    exact .inl ⟨rfl, rfl, rfl, rfl, emitted.flowless nofun⟩
  | send opened _ _ _ flushed => exact .inr (.inl ⟨opened, flushed⟩)
  | sendRefused => exact .inr (.inr ⟨_, mem_cons_self⟩)

section

variable [Crypto]

theorem Conserved.round {round after : SshTransport}
    (conserved : Conserved round.connection accepted) (rounded : Rounded round after) :
    Conserved after.connection accepted := by
  rcases rounded.moved with ⟨events, history, moved⟩
  cases moved with
  | quiet _ chan ordinary =>
    refine conserved.keep history (fun event member => (ordinary event member).flowless) ?_ ?_ ?_
    all_goals rw [chan]
  | @packet payload events established next move =>
    rcases move.flow_cases with ⟨pending, window, opened, none⟩ |
      ⟨window, rest, rfl, none, unopened, opened, pending, remote⟩ | ⟨bytes, rest, rfl, flushed⟩
    · exact conserved.keep history (forall_mem_cons.mpr ⟨⟨rfl, fun _ => rfl⟩, none⟩)
        pending window opened
    · rcases conserved.unopened unopened with ⟨empty, nothing⟩
      have sent : dataSent after.connection.history = [] := by
        rw [history, dataSent_append, nothing]
        exact (dataSent_of_flowless none : dataSent rest = [])
      have given : creditGiven after.connection.history = window := by
        rw [history, creditGiven_append]
        exact foldl_credit_of_flowless none window
      have kept := conserved.kept
      rw [nothing, empty] at kept
      constructor
      · rw [sent, pending, empty]
        exact kept
      · rw [sent, remote, given]
        exact Nat.le_of_eq (Nat.zero_add window)
      intro closed
      rw [opened] at closed
      cases closed
    · have split : after.connection.history = round.connection.history ++
          ([.received payload, .adjusted bytes] ++ rest) := history
      have given : creditGiven
        (round.connection.history ++ [.received payload, .adjusted bytes]) =
          creditGiven round.connection.history + bytes := creditGiven_append _ _
      have flushed : Conserved after.connection (accepted ++ []) := by
        refine conserved.flush split flushed rfl (append_nil _).symm ?_ rfl fun _ => rfl
        simp only
        omega
      rwa [append_nil] at flushed

omit [Crypto] in
theorem Conserved.host {after : Connection} (conserved : Conserved before accepted)
    (hosted : Hosted call more before after)
    (roomy : ∀ event ∈ after.history, event.isRefused = false) :
    Conserved after (accepted ++ more) := by
  rcases hosted.moved with ⟨events, history, moved⟩
  rcases moved.flow_cases with ⟨rfl, pending, window, opened, none⟩ | ⟨opened, flushed⟩ |
    ⟨message, refused⟩
  · rw [append_nil]
    exact conserved.keep history none pending window opened
  · have split : after.history = before.history ++ ([] ++ events) := history
    refine conserved.flush split flushed rfl rfl ?_ rfl ?_
    · exact Nat.le_of_eq (by rw [append_nil])
    intro unopened
    rw [opened] at unopened
    cases unopened
  · have room := roomy (.refused message) (by rw [history]; exact mem_append_right _ refused)
    cases room

/-- In every run in which no packet is refused for want of room, what was emitted and
what waits is what was accepted, and no more is emitted than the peer gave room for. -/
theorem channel_conserves_data {start final : Session} (fresh : Fresh start) {calls : List Call}
    (reached : Execution.run Session.step start calls = some final)
    (roomy : ∀ event ∈ final.connection.history, event.isRefused = false) :
    dataSent final.connection.history ++ final.connection.chan.pendingOut = final.accepted ∧
      (dataSent final.connection.history).length ≤ creditGiven final.connection.history := by
  suffices conserved : (∀ event ∈ final.connection.history, event.isRefused = false) →
      Conserved final.connection final.accepted from
    ⟨(conserved roomy).kept, Nat.le_trans (Nat.le_add_right _ _) (conserved roomy).covered⟩
  apply Execution.run_preserves (fun session : Session =>
    (∀ event ∈ session.connection.history, event.isRefused = false) →
      Conserved session.connection session.accepted) ?_ reached
  · intro _
    rcases fresh.quiet with ⟨nothing, role, hostSeed, x25519Seed, cookie, quiet⟩
    rw [nothing]
    rcases quiet.history with ⟨events, history, ordinary⟩
    refine Conserved.keep ?_ history (fun event member => (ordinary event member).flowless)
      (by rw [quiet.chan]) (by rw [quiet.chan]) (by rw [quiet.chan])
    exact ⟨rfl, Nat.le_refl 0, fun _ => ⟨rfl, rfl⟩⟩
  · intro session next call taken invariant
    apply step_preserves (fun connection accepted =>
      (∀ event ∈ connection.history, event.isRefused = false) → Conserved connection accepted) taken
      ?_ ?_ invariant
    · rintro bytes rfl round _ invariant after rounded roomy
      rcases rounded.moved with ⟨events, history, -⟩
      rw [history] at roomy
      refine (invariant fun event member => ?_).round rounded
      exact roomy event (mem_append_left events member)
    intro accepted after hosted roomy
    rcases hosted.moved with ⟨events, history, -⟩
    refine (invariant fun event member => ?_).host hosted roomy
    apply roomy event
    rw [history]
    exact mem_append_left events member

end

/-! ## Data that is refused -/

/-- The connection once the data is put behind what waits already. -/
def Connection.holding (connection : Connection) (data : Octets) : Connection :=
  { connection with chan := { connection.chan with
      pendingOut := connection.chan.pendingOut ++
        data.take (min data.length (pendingOutCap - connection.chan.pendingOut.length)) } }

/-- A channel that takes data. -/
def Connection.Usable (connection : Connection) : Prop :=
  connection.chan.opened = true ∧ connection.chan.closeOut = false

theorem sendChannelData_ensures [Crypto] (data : Octets) (connection : Connection) :
    (sendChannelData data).Ensures connection
      (fun _ _ => connection.Usable ∧ ¬(connection.holding data).Blocked)
      fun stop after => after = connection ∧
          (connection.Usable → pendingOutCap < connection.chan.pendingOut.length) ∨
        connection.Usable ∧ (connection.holding data).Blocked ∧
          stop = .error (.error .outOfCapacity) ∧
          ∃ message, after = record (.refused message) (connection.holding data) := by
  rw [sendChannelData, ensures_gets_iff]
  split
  next unusable =>
    refine .inl ⟨rfl, fun usable => ?_⟩
    rw [usable.1, usable.2] at unusable
    cases unusable
  rename_i unusable
  have usable : connection.Usable := by simpa [Connection.Usable] using unusable
  apply ensures_bind
  apply ensures_lift
  · intro pending copied
    rw [Checked.copyInto] at copied
    split at copied <;> cases copied
    simp only [changeChannel, ensures_modify_iff]
    apply ensures_bind
    apply (flushPendingOut_flushes (connection.holding data)).mono
    · exact fun _ _ flushed => ⟨usable, flushed.2⟩
    · rintro _ _ ⟨⟨message, -, same⟩, stopped, blocked⟩
      exact .inr ⟨usable, blocked, stopped, message, same⟩
  · intro error panicked
    rw [Checked.copyInto] at panicked
    split at panicked
    · cases panicked
    next large =>
      rw [length_append, length_take] at large
      exact .inl ⟨rfl, fun _ => by omega⟩

/-- An error leaves the connection as it was if and only if no data would be put behind what
waits, the window is closed, or there is room for the packet. -/
theorem sendChannelData_retries_iff [Crypto] (data : Octets) (connection : Connection) :
    (∀ fail after, sendChannelData data connection = (.error (.error (.error fail)), after) →
        { after with history := connection.history } = connection) ↔
      ¬connection.Usable ∨ data = [] ∨ pendingOutCap ≤ connection.chan.pendingOut.length ∨
        ¬(connection.holding data).Blocked := by
  have ensures := sendChannelData_ensures data connection
  constructor
  · intro retries
    by_contra lost
    simp only [not_or, not_not, not_le] at lost
    rcases lost with ⟨usable, some, room, blocked⟩
    rcases sent : sendChannelData data connection with ⟨stop | count, after⟩
    · rcases ensures.stop sent with ⟨-, full⟩ | ⟨-, -, rfl, message, rfl⟩
      · exact absurd (full usable) room.le.not_gt
      have same := congrArg (·.chan.pendingOut) (retries _ _ sent)
      simp only [record, Connection.holding, append_right_eq_self, take_eq_nil_iff] at same
      have longer := length_pos_iff.mpr some
      grind
    · exact (ensures.answer sent).2 blocked
  · intro nothing fail after failed
    rcases ensures.stop failed with ⟨rfl, -⟩ | ⟨usable, blocked, -, message, rfl⟩
    · rfl
    have kept : connection.holding data = connection := by
      rw [Connection.holding, append_right_eq_self.mpr]
      rcases nothing with unusable | rfl | full | roomy
      · exact absurd usable unusable
      · exact take_nil
      · rw [Nat.sub_eq_zero_of_le full, Nat.min_zero, take_zero]
      · exact absurd blocked roomy
    rw [kept]
    rfl

section

open Sample Execution

/-- An open channel with a byte to send, and no room for a packet. -/
def stuck : Connection :=
  { session.connection with
    out := replicate outCap 0
    chan := { session.connection.chan with opened := true, remoteWindow := 5, pendingOut := [1] } }

/-- The byte is queued though the caller is told to try again. -/
theorem sendChannelData_queues_refused :
    (sendChannelData [2] stuck).1 = .error (.error (.error .outOfCapacity)) ∧
      (sendChannelData [2] stuck).2.chan.pendingOut = stuck.chan.pendingOut ++ [2] := by
  decide +kernel

/-- Eight bytes for a window of five, which then grows by two. -/
theorem channel_conserves_data_of_sample :
    ∃ final ∈ run Session.step session
        [.feed (handshake ++ packets 3 [channelOpen 5]),
          .sendChannelData [1, 2, 3, 4, 5, 6, 7, 8], .feed (packets 4 [windowAdjust localId 2])],
      (∀ event ∈ final.connection.history, event.isRefused = false) ∧
        final.connection.chan.pendingOut = [8] ∧
        dataSent final.connection.history ++ final.connection.chan.pendingOut = final.accepted ∧
        (dataSent final.connection.history).length ≤ creditGiven final.connection.history := by
  have ran : ∃ final ∈ run Session.step session
      [.feed (handshake ++ packets 3 [channelOpen 5]), .sendChannelData [1, 2, 3, 4, 5, 6, 7, 8],
        .feed (packets 4 [windowAdjust localId 2])],
      (∀ event ∈ final.connection.history, event.isRefused = false) ∧
        final.connection.chan.pendingOut = [8] := by decide +kernel
  rcases ran with ⟨final, reached, roomy, pending⟩
  exact ⟨final, reached, roomy, pending, channel_conserves_data (.server _ _ _) reached roomy⟩

end
end ServiceOS.Ssh
