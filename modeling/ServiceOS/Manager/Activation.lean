import ServiceOS.Foundation.Loop
import ServiceOS.Manager.Slot

/-! # Activation of the base service graph

The loop that starts the services of a table in passes until a pass makes no progress. What the
starts and the waits answer is left to an environment; the wait of a start changes nothing but
the slot it waits for. -/

namespace ServiceOS.Manager

open List

/-! ## The table -/

variable (slots : List ServiceSlot)

def findSlot (serviceId : ServiceId) : Option ServiceSlot :=
  slots.find? fun slot => slot.occupied && slot.manifest.serviceId = serviceId

def findSlotIndex (serviceId : ServiceId) : Option Nat :=
  slots.findIdx? fun slot => slot.occupied && slot.manifest.serviceId = serviceId

def dependencyReady (dependency : ServiceId) : Bool :=
  dependency = .rootManager || (findSlot slots dependency).any (·.phase = .ready)

def dependenciesReady (slot : ServiceSlot) : Bool :=
  slot.manifest.dependencies.all (dependencyReady slots)

def firstUnreadyDependency (slot : ServiceSlot) : Option ServiceId :=
  slot.manifest.dependencies.find? (!dependencyReady slots ·)

def occupiedServiceCount : Nat := slots.countP (·.occupied)

def readyServiceCount : Nat :=
  slots.countP fun slot => slot.occupied && slot.phase = .ready

def countPhase (phase : ServicePhase) : Nat :=
  slots.countP fun slot => slot.occupied && slot.phase = phase

structure GraphStatus where
  degradedBoot : Bool
  blockedServices : Nat
  degradedServices : Nat

/-! ## Starting one service -/

/-- The service has been started at some time, and the control messages handled during a wait
do not take it back to where it can be started. -/
def ServicePhase.begun : ServicePhase → Bool
  | .starting | .ready | .degraded | .exited => true
  | .dormant | .waitingDependencies | .backoff => false

/-- A wait that returned: what it has made of the slot it waits for, and whether that service
is ready. -/
structure Wait where
  change : ServiceSlot → ServiceSlot
  succeeds : Bool
  manifest : ∀ slot, (change slot).manifest = slot.manifest
  occupied : ∀ slot, (change slot).occupied = slot.occupied
  begun : ∀ slot, slot.phase.begun → (change slot).phase.begun

/-- The answers to the starts of a run, by the number of starts before. -/
structure Environment where
  start : Nat → StartOutcome
  wait : Nat → Wait

def waitUntilReady (slots : List ServiceSlot) (serviceId : ServiceId) (wait : Wait) :
    List ServiceSlot :=
  match findSlotIndex slots serviceId with
  | none => slots
  | some index => slots.modify index wait.change

/-- A start, the wait after it, and the mark of failure when one of them fails. -/
def activate (slots : List ServiceSlot) (index : Nat) (serviceId : ServiceId)
    (start : StartOutcome) (wait : Wait) : List ServiceSlot × Bool :=
  let started := slots.modify index (·.startService start)
  if start.succeeds then
    let waited := waitUntilReady started serviceId wait
    if wait.succeeds then (waited, true) else (waited.modify index (·.markServiceDegraded), false)
  else
    (started.modify index (·.markServiceDegraded), false)

/-! ## The loop -/

/-- A start that was made: the slot and the table before it. -/
structure Started where
  index : Nat
  slots : List ServiceSlot

structure Activation where
  slots : List ServiceSlot
  status : GraphStatus
  /-- The starts so far, the latest first. The source keeps no such record. -/
  starts : List Started

structure Pass extends Activation where
  progress : Bool
  pendingEager : Bool
  blocked : Nat

def ServicePhase.pending : ServicePhase → Bool
  | .dormant | .waitingDependencies => true
  | .starting | .ready | .backoff | .degraded | .exited => false

def ServiceSlot.wanted (includeOnDemand : Bool) (slot : ServiceSlot) : Bool :=
  slot.occupied && slot.phase.pending && (slot.manifest.startup = .eager || includeOnDemand)

section

variable (environment : Environment) (includeOnDemand : Bool)

def visit (pass : Pass) (index : Nat) : Pass :=
  match pass.slots[index]? with
  | none => pass
  | some slot =>
    if slot.wanted includeOnDemand then
      if dependenciesReady pass.slots slot then
        let number := pass.starts.length
        let (slots, succeeded) := activate pass.slots index slot.manifest.serviceId
          (environment.start number) (environment.wait number)
        { slots
          status := { pass.status with degradedBoot := pass.status.degradedBoot || !succeeded }
          starts := ⟨index, pass.slots⟩ :: pass.starts
          progress := true
          pendingEager := true
          blocked := pass.blocked }
      else
        let blocked := (firstUnreadyDependency pass.slots slot).getD .rootManager
        { pass with
          slots := pass.slots.modify index (·.markWaitingDependency blocked)
          pendingEager := true
          blocked := countUp pass.blocked }
    else
      pass

def runPass (activation : Activation) : Pass :=
  (range activation.slots.length).foldl (visit environment includeOnDemand)
    { activation with progress := false, pendingEager := false, blocked := 0 }

/-- The body of the loop: it returns or goes round again. -/
def round (activation : Activation) : Activation ⊕ Activation :=
  if readyServiceCount activation.slots = occupiedServiceCount activation.slots then
    .inl { activation with
      status := { activation.status with
        blockedServices := 0
        degradedServices := countPhase activation.slots .degraded } }
  else
    let pass := runPass environment includeOnDemand activation
    let status := { pass.status with
      blockedServices := pass.blocked
      degradedServices := countPhase pass.slots .degraded }
    if pass.pendingEager = false then
      .inl ⟨pass.slots, status, pass.starts⟩
    else if pass.progress = false then
      .inl ⟨pass.slots, { status with degradedBoot := true }, pass.starts⟩
    else
      .inr ⟨pass.slots, status, pass.starts⟩

/-- `none` when the loop is still running after so many passes. -/
def activateBaseServiceGraph (passes : Nat) (activation : Activation) : Option Activation :=
  Loop.iterate (round environment includeOnDemand) passes activation

end

/-! ## What a table keeps -/

section

variable {before between after : List ServiceSlot} {index : Nat}

theorem forall₂_modify (reflexive : ∀ slot, Related slot slot)
    (changed : ∀ slot, before[index]? = some slot → Related slot (change slot)) :
    before.Forall₂ Related (before.modify index change) := by
  induction before generalizing index with
  | nil => simp
  | cons slot slots induction =>
    cases index with
    | zero => exact .cons (changed slot rfl) (forall₂_same.mpr fun slot _ => reflexive slot)
    | succ => exact .cons (reflexive slot) (induction changed)

theorem getElem?_of_forall₂ (related : before.Forall₂ Related after)
    (held : before[index]? = some slot) :
    ∃ later, after[index]? = some later ∧ Related slot later := by
  induction related generalizing index with
  | nil => cases held
  | cons head tail induction =>
    cases index with
    | zero =>
      cases held
      exact ⟨_, rfl, head⟩
    | succ => exact induction held

theorem forall₂_trans
    (transitive : ∀ {first second third}, Related first second → Related second third →
      Related first third)
    (first : before.Forall₂ Related between) (second : between.Forall₂ Related after) :
    before.Forall₂ Related after := by
  induction first generalizing after with
  | nil => exact second
  | cons head tail induction =>
    cases second with
    | cons head' tail' => exact .cons (transitive head head') (induction tail')

end

/-- The slot still belongs to the service, and what has begun does not go back. -/
structure Follows (before after : ServiceSlot) : Prop where
  manifest : after.manifest = before.manifest
  occupied : after.occupied = before.occupied
  begun : before.phase.begun → after.phase.begun

namespace Follows

theorem refl (slot : ServiceSlot) : Follows slot slot := ⟨rfl, rfl, id⟩

theorem trans (former : Follows first second) (latter : Follows second third) :
    Follows first third :=
  ⟨latter.manifest.trans former.manifest, latter.occupied.trans former.occupied,
    latter.begun ∘ former.begun⟩

theorem startService (slot : ServiceSlot) (outcome : StartOutcome) :
    Follows slot (slot.startService outcome) := by
  cases outcome with
  | busy => exact refl slot
  | notSpawned => exact ⟨rfl, rfl, id⟩
  | spawned => exact ⟨rfl, rfl, fun _ => rfl⟩

theorem markServiceDegraded (slot : ServiceSlot) : Follows slot slot.markServiceDegraded :=
  ⟨rfl, rfl, fun _ => rfl⟩

theorem wait (wait : Wait) (slot : ServiceSlot) : Follows slot (wait.change slot) :=
  ⟨wait.manifest slot, wait.occupied slot, wait.begun slot⟩

theorem modify (follows : ∀ slot, Follows slot (change slot))
    (slots : List ServiceSlot) (index : Nat) : slots.Forall₂ Follows (slots.modify index change) :=
  forall₂_modify refl fun slot _ => follows slot

theorem waitUntilReady (slots : List ServiceSlot) (serviceId : ServiceId) (answer : Wait) :
    slots.Forall₂ Follows (waitUntilReady slots serviceId answer) := by
  rw [Manager.waitUntilReady]
  split
  · exact forall₂_same.mpr fun slot _ => refl slot
  · exact modify (wait answer) slots _

variable (slots : List ServiceSlot) (index : Nat) (serviceId : ServiceId) (start : StartOutcome)
  (answer : Wait)

theorem activate : slots.Forall₂ Follows (activate slots index serviceId start answer).1 := by
  have started := modify (startService · start) slots index
  have degraded := fun slots => modify markServiceDegraded slots index
  have waited := waitUntilReady (slots.modify index (·.startService start)) serviceId answer
  rw [Manager.activate]
  split
  · split
    · exact forall₂_trans trans started waited
    · exact forall₂_trans trans started (forall₂_trans trans waited (degraded _))
  · exact forall₂_trans trans started (degraded _)

end Follows

variable {slots : List ServiceSlot}

theorem begun_of_activate (held : slots[index]? = some slot) (serviceId : ServiceId)
    (start : StartOutcome) (answer : Wait) :
    ∃ later, (activate slots index serviceId start answer).1[index]? = some later ∧
      Follows slot later ∧ later.phase.begun := by
  rcases getElem?_of_forall₂ (Follows.activate slots index serviceId start answer) held with
    ⟨later, found, follows⟩
  refine ⟨later, found, follows, ?_⟩
  rw [activate] at found
  split at found
  next succeeded =>
    split at found
    · have started : (slots.modify index (·.startService start))[index]? =
          some (slot.startService start) := by simp [held]
      rcases getElem?_of_forall₂ (Follows.waitUntilReady _ serviceId answer) started with
        ⟨waited, same, kept⟩
      cases same.symm.trans found
      cases start with
      | busy | notSpawned => cases succeeded
      | spawned => exact kept.begun rfl
    · rw [getElem?_modify_eq, Option.map_eq_map, Option.map_eq_some_iff] at found
      rcases found with ⟨_, _, rfl⟩
      rfl
  · rw [getElem?_modify_eq, Option.map_eq_map, Option.map_eq_some_iff] at found
    rcases found with ⟨_, _, rfl⟩
    rfl

/-! ## The starts -/

theorem countP_eq_of_follows {after : List ServiceSlot} (follows : before.Forall₂ Follows after) :
    occupiedServiceCount after = occupiedServiceCount before := by
  induction follows with
  | nil => rfl
  | cons head tail induction =>
    rw [occupiedServiceCount, occupiedServiceCount, countP_cons, countP_cons, head.occupied]
    exact congrArg (· + _) induction

/-- No slot was started twice, each had its dependencies ready, and each has begun. -/
structure Activation.Sound (activation : Activation) : Prop where
  nodup : (activation.starts.map (·.index)).Nodup
  ready : ∀ started ∈ activation.starts, ∃ slot,
    started.slots[started.index]? = some slot ∧ dependenciesReady started.slots slot
  begun : ∀ started ∈ activation.starts, ∃ slot,
    activation.slots[started.index]? = some slot ∧ slot.occupied ∧ slot.phase.begun

variable {activation : Activation}

theorem Activation.Sound.starts_le (sound : activation.Sound) :
    activation.starts.length ≤ occupiedServiceCount activation.slots := by
  have places : activation.starts.map (·.index) ⊆
      (List.range activation.slots.length).filter fun index =>
        activation.slots[index]?.any (·.occupied) := by
    intro index member
    rcases List.mem_map.mp member with ⟨started, made, rfl⟩
    rcases sound.begun started made with ⟨slot, held, occupied, -⟩
    rw [List.mem_filter, List.mem_range, held]
    exact ⟨(List.getElem?_eq_some_iff.mp held).1, occupied⟩
  have few := (List.subperm_of_subset sound.nodup places).length_le
  have entries : (List.range activation.slots.length).map (activation.slots[·]?) =
      activation.slots.map some := by
    apply List.ext_getElem <;> simp
  rw [List.length_map, ← List.countP_eq_length_filter] at few
  apply few.trans_eq
  calc
    _ = ((List.range activation.slots.length).map (activation.slots[·]?)).countP
        (Option.any (·.occupied)) := (List.countP_map ..).symm
    _ = (activation.slots.map some).countP (Option.any (·.occupied)) := by rw [entries]
    _ = _ := List.countP_map ..

theorem Activation.Sound.of_follows (sound : activation.Sound)
    (follows : activation.slots.Forall₂ Follows slots)
    (status : GraphStatus) : Activation.Sound ⟨slots, status, activation.starts⟩ := by
  refine ⟨sound.nodup, sound.ready, fun started made => ?_⟩
  rcases sound.begun started made with ⟨slot, held, occupied, begun⟩
  rcases getElem?_of_forall₂ follows held with ⟨later, found, followed⟩
  exact ⟨later, found, followed.occupied.trans occupied, followed.begun begun⟩

/-- What every visit of a pass keeps. -/
structure PassOf (activation : Activation) (pass : Pass) : Prop where
  follows : activation.slots.Forall₂ Follows pass.slots
  sound : pass.Sound
  eager : pass.progress → pass.pendingEager
  fewer : activation.starts.length ≤ pass.starts.length
  more : pass.progress → activation.starts.length < pass.starts.length

variable {pass : Pass}

section

variable {slot : ServiceSlot}

theorem occupied_of_wanted (wanted : slot.wanted includeOnDemand) :
    slot.occupied ∧ slot.phase.pending := by
  rw [ServiceSlot.wanted, Bool.and_eq_true, Bool.and_eq_true] at wanted
  exact wanted.1

theorem not_begun_of_pending (pending : slot.phase.pending) : ¬ slot.phase.begun := by
  revert pending
  cases slot.phase <;> decide

theorem PassOf.visit (kept : PassOf activation pass) (index : Nat) :
    PassOf activation (visit environment includeOnDemand pass index) := by
  rw [Manager.visit]
  split
  · exact kept
  rename_i slot held
  split
  next wanted =>
    rcases occupied_of_wanted wanted with ⟨occupied, pending⟩
    have fresh := not_begun_of_pending pending
    split
    next ready =>
      have follows := Follows.activate pass.slots index slot.manifest.serviceId
        (environment.start pass.starts.length) (environment.wait pass.starts.length)
      rcases begun_of_activate held slot.manifest.serviceId
        (environment.start pass.starts.length) (environment.wait pass.starts.length) with
        ⟨later, found, followed, begun⟩
      have sound := kept.sound.of_follows follows pass.status
      refine ⟨forall₂_trans Follows.trans kept.follows follows, ⟨?_, ?_, ?_⟩, fun _ => rfl, ?_,
        fun _ => Nat.lt_succ_of_le kept.fewer⟩
      · refine nodup_cons.mpr ⟨fun again => ?_, sound.nodup⟩
        rcases mem_map.mp again with ⟨started, made, same⟩
        rcases kept.sound.begun started made with ⟨other, there, -, already⟩
        rw [same, held] at there
        cases there
        exact fresh already
      · exact forall_mem_cons.mpr ⟨⟨slot, held, ready⟩, sound.ready⟩
      · exact forall_mem_cons.mpr
          ⟨⟨later, found, followed.occupied.trans occupied, begun⟩, sound.begun⟩
      · exact Nat.le_succ_of_le kept.fewer
    · have follows : pass.slots.Forall₂ Follows (pass.slots.modify index
          (·.markWaitingDependency
            ((firstUnreadyDependency pass.slots slot).getD .rootManager))) := by
        refine forall₂_modify Follows.refl fun other there => ⟨rfl, rfl, fun begun => ?_⟩
        cases held.symm.trans there
        exact absurd begun fresh
      exact ⟨forall₂_trans Follows.trans kept.follows follows,
        kept.sound.of_follows follows pass.status, fun _ => rfl, kept.fewer, kept.more⟩
  · exact kept

theorem PassOf.runPass (environment : Environment) (includeOnDemand : Bool)
    (sound : activation.Sound) :
    PassOf activation (runPass environment includeOnDemand activation) := by
  apply foldlRecOn (motive := PassOf activation)
  · exact ⟨forall₂_same.mpr fun slot _ => Follows.refl slot, sound, nofun, le_rfl, nofun⟩
  · exact fun pass kept index _ => kept.visit index

end

/-! ## A pass without progress -/

/-- Nothing has changed that a decision of the loop depends on. -/
structure Undisturbed (before after : ServiceSlot) : Prop where
  manifest : after.manifest = before.manifest
  occupied : after.occupied = before.occupied
  pending : after.phase.pending = before.phase.pending
  ready : after.phase = .ready ↔ before.phase = .ready

namespace Undisturbed

theorem refl (slot : ServiceSlot) : Undisturbed slot slot := ⟨rfl, rfl, rfl, .rfl⟩

theorem trans (former : Undisturbed first second) (latter : Undisturbed second third) :
    Undisturbed first third :=
  ⟨latter.manifest.trans former.manifest, latter.occupied.trans former.occupied,
    latter.pending.trans former.pending, latter.ready.trans former.ready⟩

theorem wanted {before after : ServiceSlot} (undisturbed : Undisturbed before after)
    (includeOnDemand : Bool) : after.wanted includeOnDemand = before.wanted includeOnDemand := by
  rw [ServiceSlot.wanted, ServiceSlot.wanted, undisturbed.occupied, undisturbed.pending,
    undisturbed.manifest]

variable {before after : List ServiceSlot} (undisturbed : before.Forall₂ Undisturbed after)

include undisturbed

theorem dependencyReady (dependency : ServiceId) :
    dependencyReady after dependency = dependencyReady before dependency := by
  rw [Manager.dependencyReady]
  congr 1
  induction undisturbed with
  | nil => rfl
  | cons head tail induction =>
    rw [findSlot, findSlot, find?_cons, find?_cons, head.occupied, head.manifest]
    split
    · exact decide_eq_decide.mpr head.ready
    · exact induction

theorem dependenciesReady (same : Undisturbed earlier later) :
    dependenciesReady after later = dependenciesReady before earlier := by
  rw [Manager.dependenciesReady, Manager.dependenciesReady, same.manifest,
    funext (dependencyReady undisturbed)]

end Undisturbed

section

theorem visit_quiet (quiet : (visit environment includeOnDemand pass index).progress = false) :
    pass.progress = false ∧
      pass.slots.Forall₂ Undisturbed (visit environment includeOnDemand pass index).slots ∧
      ∀ slot, pass.slots[index]? = some slot → slot.wanted includeOnDemand →
        dependenciesReady pass.slots slot = false := by
  have same : pass.slots.Forall₂ Undisturbed pass.slots :=
    forall₂_same.mpr fun slot _ => Undisturbed.refl slot
  rw [visit] at quiet ⊢
  split at quiet
  next missing =>
    refine ⟨quiet, same, fun slot held => ?_⟩
    cases missing.symm.trans held
  rename_i held
  split at quiet
  next wanted =>
    split at quiet
    · cases quiet
    rename_i unready
    rw [if_pos wanted, if_neg unready]
    refine ⟨quiet, ?_, fun other there _ => ?_⟩
    · refine forall₂_modify Undisturbed.refl fun other there => ?_
      cases held.symm.trans there
      have pending := (occupied_of_wanted wanted).2
      refine ⟨rfl, rfl, pending.symm, nofun, fun ready => ?_⟩
      rw [ready] at pending
      cases pending
    · cases held.symm.trans there
      exact Bool.eq_false_iff.mpr unready
  next unwanted =>
    rw [if_neg unwanted]
    refine ⟨quiet, same, fun other there wanted => ?_⟩
    cases held.symm.trans there
    exact absurd wanted unwanted

theorem foldl_visit_quiet {indices : List Nat}
    (quiet : (indices.foldl (visit environment includeOnDemand) pass).progress = false) :
    pass.progress = false ∧
      pass.slots.Forall₂ Undisturbed
        (indices.foldl (visit environment includeOnDemand) pass).slots ∧
      ∀ index ∈ indices, ∀ slot, pass.slots[index]? = some slot → slot.wanted includeOnDemand →
        dependenciesReady pass.slots slot = false := by
  induction indices generalizing pass with
  | nil =>
    exact ⟨quiet, forall₂_same.mpr fun slot _ => Undisturbed.refl slot, nofun⟩
  | cons index indices induction =>
    rcases induction quiet with ⟨quietVisit, rest, later⟩
    rcases visit_quiet quietVisit with ⟨quietBefore, first, here⟩
    refine ⟨quietBefore, forall₂_trans Undisturbed.trans first rest,
      forall_mem_cons.mpr ⟨here, fun other member slot held wanted => ?_⟩⟩
    rcases getElem?_of_forall₂ first held with ⟨after, found, same⟩
    rw [← Undisturbed.dependenciesReady first same]
    exact later other member after found ((same.wanted _).trans wanted)

/-- When a pass has made no progress, every service that is still to be started waits for
another one. -/
theorem settled_of_quiet
    (quiet : (runPass environment includeOnDemand activation).progress = false) :
    ∀ slot ∈ (runPass environment includeOnDemand activation).slots,
      slot.wanted includeOnDemand →
      dependenciesReady (runPass environment includeOnDemand activation).slots slot = false := by
  intro later member wanted
  rcases foldl_visit_quiet quiet with ⟨-, undisturbed, unready⟩
  rcases List.mem_iff_getElem?.mp member with ⟨index, found⟩
  have inside : index < activation.slots.length := by
    rw [undisturbed.length_eq]
    exact (List.getElem?_eq_some_iff.mp found).1
  rcases getElem?_of_forall₂ undisturbed (List.getElem?_eq_getElem inside) with
    ⟨other, there, same⟩
  cases there.symm.trans found
  apply (Undisturbed.dependenciesReady undisturbed same).trans
  apply unready index (List.mem_range.mpr inside) _ (List.getElem?_eq_getElem inside)
  exact (same.wanted _).symm.trans wanted

end

/-! ## The whole loop -/

theorem ready_of_counts (counts : readyServiceCount slots = occupiedServiceCount slots)
    (includeOnDemand : Bool) : ∀ slot ∈ slots, ¬ slot.wanted includeOnDemand := by
  intro slot member wanted
  rcases occupied_of_wanted wanted with ⟨occupied, pending⟩
  have ready : readyServiceCount slots =
      (slots.filter (·.occupied)).countP (·.phase = .ready) := by
    simp only [readyServiceCount, countP_filter, Bool.and_comm]
  rw [ready, occupiedServiceCount, countP_eq_length_filter (p := ServiceSlot.occupied),
    countP_eq_length] at counts
  have here := of_decide_eq_true (counts slot (mem_filter.mpr ⟨member, occupied⟩))
  rw [here] at pending
  cases pending

section

theorem round_continues {next : Activation} (sound : activation.Sound)
    (continues : round environment includeOnDemand activation = .inr next) :
    next.Sound ∧ occupiedServiceCount next.slots - next.starts.length <
      occupiedServiceCount activation.slots - activation.starts.length := by
  have kept := PassOf.runPass environment includeOnDemand sound
  rw [round] at continues
  split at continues
  · cases continues
  dsimp only at continues
  split at continues
  · cases continues
  split at continues
  · cases continues
  rename_i progress
  cases continues
  have few := kept.sound.starts_le
  have more := kept.more (Bool.eq_true_of_not_eq_false progress)
  have count := countP_eq_of_follows kept.follows
  refine ⟨⟨kept.sound.nodup, kept.sound.ready, kept.sound.begun⟩, ?_⟩
  dsimp only
  omega

theorem round_returns (sound : activation.Sound)
    (returns : round environment includeOnDemand activation = .inl result) :
    result.Sound ∧ ∀ slot ∈ result.slots, slot.wanted includeOnDemand →
      dependenciesReady result.slots slot = false := by
  have kept := PassOf.runPass environment includeOnDemand sound
  rw [round] at returns
  split at returns
  next counts =>
    cases returns
    refine ⟨⟨sound.nodup, sound.ready, sound.begun⟩, fun slot member wanted => ?_⟩
    exact absurd wanted (ready_of_counts counts includeOnDemand slot member)
  dsimp only at returns
  split at returns
  next lazy =>
    cases returns
    refine ⟨⟨kept.sound.nodup, kept.sound.ready, kept.sound.begun⟩, settled_of_quiet ?_⟩
    apply Bool.eq_false_iff.mpr
    intro progress
    cases lazy.symm.trans (kept.eager progress)
  split at returns
  next quiet =>
    cases returns
    exact ⟨⟨kept.sound.nodup, kept.sound.ready, kept.sound.begun⟩, settled_of_quiet quiet⟩
  · cases returns

end

end ServiceOS.Manager
