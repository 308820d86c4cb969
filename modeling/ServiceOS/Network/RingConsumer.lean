import ServiceOS.Foundation.Execution
import ServiceOS.Network.Ring

/-! # A producer and a consumer on one ring

The producer pushes in one step. The consumer loads the tail, reads the slot
and stores the new tail in three, and the producer may push between them. Both
write the tail. -/

namespace ServiceOS.Network

open Execution PacketRing List

/-- Where the consumer is. It has read the frame of the sequence number it
loaded, or found that the slot holds none. -/
inductive Consumer
  | idle
  | loaded (sequence : Nat)
  | read (sequence : Nat) (frame : Option Octets)

/-- The ring and its two sides. `published` lists the frames by sequence
number, and `committed` what the consumer has taken for them. -/
structure RingSystem (slotCount : Nat) where
  ring : PacketRing slotCount
  consumer : Consumer
  published : List Octets
  committed : List (Nat × Octets)

/-- `pushFill` is a push by a driver that writes some bytes and then reports a
length or an error. -/
inductive RingAction
  | push (frame : Octets)
  | pushFill (written : Octets) (answer : Except Unit Nat)
  | loadTail
  | readSlot
  | commit

namespace RingSystem

variable {slotCount : Nat} [NeZero slotCount]

def boot : RingSystem slotCount := ⟨.init, .idle, [], []⟩

/-- The frame that is in the slot of the number, as long as its length. -/
def frameAt (ring : PacketRing slotCount) (sequence : Nat) : Octets :=
  ring.copyOut sequence (ring.slots (slotOf sequence)).length

variable (system : RingSystem slotCount)

def produce {ε : Type} (system : RingSystem slotCount)
    (result : Except ε (Option Nat) × PacketRing slotCount) : RingSystem slotCount :=
  match result with
  | (.ok (some sequence), ring) =>
    { system with ring := ring, published := system.published ++ [frameAt ring sequence] }
  | (_, ring) => { system with ring := ring }

def step : RingAction → Option (RingSystem slotCount)
  | .push frame => some (system.produce (system.ring.push frame))
  | .pushFill written answer =>
    some (system.produce (system.ring.pushFill fun data =>
      (answer, overwrite written data)))
  | .loadTail =>
    match system.consumer with
    | .idle =>
      if system.ring.head ≤ system.ring.tail then
        some system
      else
        some { system with consumer := .loaded system.ring.tail }
    | _ => none
  | .readSlot =>
    match system.consumer with
    | .loaded sequence =>
      some { system with
        consumer := .read sequence ((system.ring.frameLenAt sequence).map
          (system.ring.copyOut sequence)) }
    | _ => none
  | .commit =>
    match system.consumer with
    | .read sequence frame =>
      some { system with
        ring := system.ring.commitConsumed sequence (frame.elim 0 length)
        consumer := .idle
        committed := system.committed ++ frame.toList.map (sequence, ·) }
    | _ => none

def cursor : Nat :=
  match system.consumer with
  | .idle => system.ring.tail
  | .loaded sequence => sequence
  | .read sequence _ => sequence

/-- The consumer works on the oldest frame, and has what was published. Once it
has read the frame, the frame may be retired. -/
def ConsumerInStep : Prop :=
  match system.consumer with
  | .idle => True
  | .loaded sequence => system.ring.tail = sequence ∧ sequence < system.ring.head
  | .read sequence frame =>
    (system.ring.tail = sequence ∨ system.ring.tail = sequence + 1) ∧
      sequence < system.ring.head ∧ ∀ bytes ∈ frame, system.published[sequence]? = some bytes

structure Coherent : Prop where
  ordered : system.ring.tail ≤ system.ring.head
  near : system.ring.head ≤ system.ring.tail + slotCount
  bounded : system.ring.head < 2 ^ 64
  published : system.published.length = system.ring.head
  slots : ∀ sequence, system.ring.tail ≤ sequence → sequence < system.ring.head →
    system.published[sequence]? = some (frameAt system.ring sequence)
  consumer : system.ConsumerInStep
  behind : ∀ entry ∈ system.committed, entry.1 < system.cursor
  increasing : system.committed.Pairwise (·.1 < ·.1)
  complete : ∀ entry ∈ system.committed, system.published[entry.1]? = some entry.2

theorem coherent_boot : (boot : RingSystem slotCount).Coherent where
  ordered := le_rfl
  near := Nat.zero_le _
  bounded := Nat.two_pow_pos 64
  published := rfl
  slots := nofun
  consumer := trivial
  behind := nofun
  increasing := .nil
  complete := nofun

/-- A push that retires a frame does so while the consumer is idle, or once it
has read that frame; and fewer than 2^64 frames are pushed. -/
def LeavesConsumer : RingAction → Prop
  | .push _ | .pushFill _ _ =>
    system.ring.head + 1 < 2 ^ 64 ∧
      (slotCount ≤ pending system.ring.head system.ring.tail →
        match system.consumer with
        | .idle => True
        | .loaded _ => False
        | .read sequence _ => system.ring.tail = sequence)
  | _ => True

instance decidableLeavesConsumer (system : RingSystem slotCount) (action : RingAction) :
    Decidable (system.LeavesConsumer action) := by
  have clear : Decidable (match system.consumer with
      | .idle => True
      | .loaded _ => False
      | .read sequence _ => system.ring.tail = sequence) := by
    split <;> infer_instance
  unfold LeavesConsumer
  split <;> infer_instance

/-! ## The producer's step -/

variable {system : RingSystem slotCount}

theorem Coherent.retire (coherent : system.Coherent)
    (lap : system.ring.head = system.ring.tail + slotCount)
    (clear : match system.consumer with
      | .idle => True
      | .loaded _ => False
      | .read sequence _ => system.ring.tail = sequence) (dropped : Nat) :
    Coherent { system with
      ring := { system.ring with tail := system.ring.tail + 1, dropped := dropped } } := by
  have positive := Nat.pos_of_ne_zero (NeZero.ne slotCount)
  refine ⟨?_, ?_, coherent.bounded, coherent.published, fun sequence above below => ?_, ?_, ?_,
    coherent.increasing, coherent.complete⟩
  · dsimp only
    omega
  · dsimp only
    omega
  · exact coherent.slots sequence (Nat.le_of_succ_le above) below
  · have before := coherent.consumer
    unfold ConsumerInStep at before ⊢
    split at clear <;> rename_i here
    · simp only [here]
    · cases clear
    · simp only [here] at before ⊢
      exact ⟨.inr (congrArg (· + 1) clear), before.2⟩
  · intro entry member
    apply Nat.lt_of_lt_of_le (coherent.behind entry member)
    unfold cursor
    split <;> simp [*]

theorem frameAt_setSlot {sequence : Nat} {ring : PacketRing slotCount}
    (elsewhere : (slotOf sequence : Fin slotCount) ≠ slotOf other) :
    frameAt (ring.setSlot other slot) sequence = frameAt ring sequence := by
  have same : (ring.setSlot other slot).slots (slotOf sequence) = ring.slots (slotOf sequence) :=
    Function.update_of_ne elsewhere _ _
  rw [frameAt, copyOut, same]
  rfl

section

variable (coherent : system.Coherent)

include coherent

section

variable (room : system.ring.head < system.ring.tail + slotCount)

include room

/-- The next slot may be overwritten: no frame that is pending is in it. -/
theorem Coherent.setSlot (slot : RingSlot) :
    Coherent { system with ring := system.ring.setSlot system.ring.head slot } := by
  refine ⟨coherent.ordered, coherent.near, coherent.bounded, coherent.published,
    fun sequence above below => ?_, coherent.consumer, coherent.behind, coherent.increasing,
    coherent.complete⟩
  have elsewhere : (slotOf sequence : Fin slotCount) ≠ slotOf system.ring.head :=
    slotOf_ne below (by dsimp only [PacketRing.setSlot] at above; omega)
  rw [coherent.slots sequence above below]
  exact congrArg some (frameAt_setSlot elsewhere).symm

theorem Coherent.publish (bounded : system.ring.head + 1 < 2 ^ 64) (framesPushed : Nat) :
    Coherent { system with
      ring := { system.ring with head := system.ring.head + 1, framesPushed := framesPushed }
      published := system.published ++ [frameAt system.ring system.ring.head] } := by
  have kept : ∀ {sequence bytes}, system.published[sequence]? = some bytes →
      (system.published ++ [frameAt system.ring system.ring.head])[sequence]? = some bytes :=
    fun found => (getElem?_append_left (getElem?_eq_some_iff.mp found).1).trans found
  refine ⟨Nat.le_succ_of_le coherent.ordered, room, bounded, ?_, fun sequence above below => ?_,
    ?_, coherent.behind, coherent.increasing,
    fun entry member => kept (coherent.complete entry member)⟩
  · simp [coherent.published]
  · rcases Nat.lt_succ_iff_lt_or_eq.mp below with before | rfl
    · exact kept (coherent.slots sequence above before)
    rw [getElem?_append_right (Nat.le_of_eq coherent.published), coherent.published]
    simp
    rfl
  have before := coherent.consumer
  unfold ConsumerInStep at before ⊢
  dsimp only
  split <;> rename_i here <;> simp only [here] at before
  · trivial
  · exact ⟨before.1, Nat.lt_succ_of_lt before.2⟩
  · exact ⟨before.1, Nat.lt_succ_of_lt before.2.1,
      fun bytes member => kept (before.2.2 bytes member)⟩

end

/-- Every push keeps the ring coherent and its tail where it is or further on. -/
theorem Coherent.pushFill (bounded : system.ring.head + 1 < 2 ^ 64)
    (clear : slotCount ≤ pending system.ring.head system.ring.tail →
      match system.consumer with
      | .idle => True
      | .loaded _ => False
      | .read sequence _ => system.ring.tail = sequence)
    (fill : Octets → Except ε Nat × Octets) :
    (system.produce (system.ring.pushFill fill)).Coherent ∧
      system.ring.tail ≤ (system.produce (system.ring.pushFill fill)).ring.tail := by
  have retired : Coherent { system with ring := system.ring.retireOldest } ∧
      system.ring.head < system.ring.retireOldest.tail + slotCount ∧
      system.ring.retireOldest.head = system.ring.head ∧
      system.ring.tail ≤ system.ring.retireOldest.tail := by
    rcases PacketRing.retireOldest_cases coherent.ordered coherent.bounded coherent.near with
      ⟨same, room⟩ | ⟨full, lap, retired⟩
    · rw [same]
      exact ⟨coherent, room, rfl, le_rfl⟩
    · rw [retired]
      exact ⟨coherent.retire lap (clear full) _, by dsimp only; omega, rfl, Nat.le_succ _⟩
  rcases retired with ⟨middle, room, head, later⟩
  have written := fun slot => middle.setSlot (by dsimp only; rw [head]; exact room) slot
  have next : wrappingAdd system.ring.head 1 = system.ring.head + 1 := Nat.mod_eq_of_lt bounded
  rw [head] at written
  unfold PacketRing.pushFill
  dsimp only
  split
  · exact ⟨written _, later⟩
  rename_i length data filled
  have published := (written ⟨length, data⟩).publish (by dsimp only [PacketRing.setSlot]; omega)
    (by dsimp only [PacketRing.setSlot]; omega)
    (wrappingAdd system.ring.retireOldest.framesPushed 1)
  dsimp only [PacketRing.setSlot] at published
  rw [head] at published
  rw [next]
  exact ⟨published, later⟩

/-! ## The consumer's steps -/

theorem Coherent.loadTail
    (idle : system.consumer = .idle) (waiting : system.ring.tail < system.ring.head) :
    Coherent { system with consumer := .loaded system.ring.tail } := by
  refine ⟨coherent.ordered, coherent.near, coherent.bounded, coherent.published, coherent.slots,
    ⟨rfl, waiting⟩, fun entry member => ?_, coherent.increasing, coherent.complete⟩
  have behind := coherent.behind entry member
  rw [cursor, idle] at behind
  exact behind

variable {sequence : Nat}

theorem Coherent.readSlot (loaded : system.consumer = .loaded sequence) :
    Coherent { system with
      consumer := .read sequence ((system.ring.frameLenAt sequence).map
        (system.ring.copyOut sequence)) } := by
  have here := coherent.consumer
  rw [ConsumerInStep, loaded] at here
  rcases here with ⟨oldest, below⟩
  refine ⟨coherent.ordered, coherent.near, coherent.bounded, coherent.published, coherent.slots,
    ⟨.inl oldest, below, fun bytes found => ?_⟩, fun entry member => ?_, coherent.increasing,
    coherent.complete⟩
  · rw [coherent.slots sequence (Nat.le_of_eq oldest) below]
    rcases Option.map_eq_some_iff.mp found with ⟨length, accepted, rfl⟩
    rw [frameLenAt, if_neg (Nat.not_le_of_lt below)] at accepted
    dsimp only at accepted
    split at accepted
    · cases accepted
      rfl
    · cases accepted
  · have behind := coherent.behind entry member
    rw [cursor, loaded] at behind
    exact behind

theorem Coherent.commit (read : system.consumer = .read sequence frame) (length : Nat) :
    Coherent { system with
        ring := system.ring.commitConsumed sequence length
        consumer := .idle
        committed := system.committed ++ frame.toList.map (sequence, ·) } ∧
      system.ring.tail ≤ (system.ring.commitConsumed sequence length).tail := by
  have here := coherent.consumer
  rw [ConsumerInStep, read] at here
  rcases here with ⟨position, below, held⟩
  have behind : ∀ entry ∈ system.committed, entry.1 < sequence := by
    intro entry member
    have before := coherent.behind entry member
    rw [cursor, read] at before
    exact before
  have bounded := coherent.bounded
  have near := coherent.near
  have next : (system.ring.commitConsumed sequence length).tail = sequence + 1 :=
    Nat.mod_eq_of_lt (by omega)
  have taken : ∀ entry ∈ frame.toList.map (sequence, ·), entry.1 = sequence ∧
      system.published[entry.1]? = some entry.2 := by
    intro entry member
    rcases mem_map.mp member with ⟨bytes, mine, rfl⟩
    exact ⟨rfl, held bytes (Option.mem_toList.mp mine)⟩
  refine ⟨⟨?_, ?_, bounded, coherent.published, fun other above under => ?_, trivial,
    fun entry member => ?_, ?_, fun entry member => ?_⟩, ?_⟩
  · rw [next]
    exact below
  · rw [next]
    exact near.trans (by omega)
  · rw [next] at above
    exact coherent.slots other (by omega) under
  · rw [cursor]
    rw [next]
    rcases mem_append.mp member with before | now
    · exact Nat.lt_succ_of_lt (behind entry before)
    · exact (taken entry now).1 ▸ Nat.lt_succ_self _
  · refine pairwise_append.mpr ⟨coherent.increasing, ?_, fun entry member other now => ?_⟩
    · cases frame <;> simp
    · rw [(taken other now).1]
      exact behind entry member
  · rcases mem_append.mp member with before | now
    · exact coherent.complete entry before
    · exact (taken entry now).2
  · rw [next]
    omega

end

/-! ## Every run -/

theorem Coherent.step {next : RingSystem slotCount} (taken : system.step action = some next)
    (allowed : system.LeavesConsumer action) (coherent : system.Coherent) :
    next.Coherent ∧ system.ring.tail ≤ next.ring.tail := by
  cases action with
  | push =>
    cases taken
    unfold push
    split
    · exact ⟨coherent, le_rfl⟩
    · exact coherent.pushFill allowed.1 allowed.2 _
  | pushFill =>
    cases taken
    exact coherent.pushFill allowed.1 allowed.2 _
  | loadTail =>
    unfold RingSystem.step at taken
    dsimp only at taken
    split at taken
    next idle =>
      split at taken
      · cases taken
        exact ⟨coherent, le_rfl⟩
      rename_i waiting
      cases taken
      exact ⟨coherent.loadTail idle (Nat.lt_of_not_le waiting), le_rfl⟩
    · cases taken
  | readSlot =>
    unfold RingSystem.step at taken
    dsimp only at taken
    split at taken
    next loaded =>
      cases taken
      exact ⟨coherent.readSlot loaded, le_rfl⟩
    · cases taken
  | commit =>
    unfold RingSystem.step at taken
    dsimp only at taken
    split at taken
    next read =>
      cases taken
      exact coherent.commit read _
    · cases taken

/-- In every state that is reached the ring holds at most its slots; the tail
does not go back from there; and what the consumer has committed are the frames
published under their numbers, each once and in order. -/
theorem ring_delivers_published_frames {actions later : List RingAction}
    {final : RingSystem slotCount} (execution : run step boot actions = some system)
    (clear : EveryStep step LeavesConsumer (boot : RingSystem slotCount) actions)
    (more : run step system later = some final)
    (clearLater : EveryStep step LeavesConsumer system later) :
    final.ring.tail ≤ final.ring.head ∧ final.ring.head - final.ring.tail ≤ slotCount ∧
      system.ring.tail ≤ final.ring.tail ∧
      final.committed.Pairwise (·.1 < ·.1) ∧
      ∀ entry ∈ final.committed, final.published[entry.1]? = some entry.2 := by
  have reached : system.Coherent :=
    everyStep_preserves Coherent LeavesConsumer
      (fun taken allowed coherent => (coherent.step taken allowed).1) execution clear
      coherent_boot
  have ended : final.Coherent ∧ system.ring.tail ≤ final.ring.tail := by
    refine everyStep_preserves
      (fun other : RingSystem slotCount => other.Coherent ∧ system.ring.tail ≤ other.ring.tail)
      LeavesConsumer (fun taken allowed holds => ?_) more clearLater ⟨reached, le_rfl⟩
    rcases holds.1.step taken allowed with ⟨coherent, later⟩
    exact ⟨coherent, holds.2.trans later⟩
  rcases ended with ⟨coherent, later⟩
  exact ⟨coherent.ordered, Nat.sub_le_iff_le_add'.mpr coherent.near, later, coherent.increasing,
    coherent.complete⟩

def fillRing : List RingAction := (range ringDefaultSlots).map fun n => .push [.ofNat n]

/-- The producer retires the frame the consumer has just read. -/
def retireWhileRead : List RingAction :=
  [.loadTail, .readSlot, .push [16], .commit, .loadTail, .readSlot, .commit]

theorem retireWhileRead_runs : (run step (boot : RingSystem ringDefaultSlots)
    (fillRing ++ retireWhileRead)).isSome = true := by
  decide +kernel

theorem ring_delivers_published_frames_when_full :
    ∃ final : RingSystem ringDefaultSlots,
      run step boot (fillRing ++ retireWhileRead) = some final ∧
      final.committed = [(0, [0]), (1, [1])] ∧ final.ring.dropped = 1 ∧
      final.ring.head - final.ring.tail ≤ ringDefaultSlots := by
  have reached := (Option.some_get retireWhileRead_runs).symm
  exact ⟨_, reached, by decide +kernel, by decide +kernel,
    (ring_delivers_published_frames reached (by decide +kernel) (run_nil _) trivial).2.1⟩

/-- Two pushes between reading and committing: the commit takes the tail back,
and more frames are pending than there are slots. One push between loading the
tail and reading: the consumer takes the new frame for the old. -/
theorem consumer_undoes_retirement :
    (∃ system final : RingSystem ringDefaultSlots,
      run step boot (fillRing ++ [.loadTail, .readSlot, .push [16], .push [17]]) = some system ∧
      run step system [.commit] = some final ∧
      final.ring.tail < system.ring.tail ∧
      ringDefaultSlots < final.ring.head - final.ring.tail) ∧
    ∃ final : RingSystem ringDefaultSlots,
      run step boot (fillRing ++ [.loadTail, .push [16], .readSlot, .commit]) = some final ∧
      final.committed = [(0, [16])] ∧ final.published[0]? = some [0] :=
  ⟨⟨_, _, rfl, rfl, by decide +kernel, by decide +kernel⟩,
    _, rfl, by decide +kernel, by decide +kernel⟩

end RingSystem
end ServiceOS.Network
