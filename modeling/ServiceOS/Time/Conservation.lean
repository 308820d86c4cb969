import ServiceOS.Foundation.Execution
import ServiceOS.Time.Manager

/-! # No wakeup is lost or made up

Every request that is accepted is accounted for: its timer is armed, its wakeup
is ready, or its wakeup was delivered. Wakeups carry only a token, so the
account names the request behind each of them. -/

namespace ServiceOS.Time

open Execution Multiset

/-- A request that was accepted, or one that a periodic timer makes again. -/
structure Arming where
  token : WakeToken
  request : TimerRequest
deriving DecidableEq

namespace Arming

/-- An interval of zero ticks is none. -/
def IsOneShot (arming : Arming) : Prop := arming.request.intervalTicks.filter (0 < ·) = none
deriving Decidable

def wakeup (arming : Arming) : WakeEvent := ⟨arming.token, .deadlineExpired⟩

end Arming

def ArmedTimer.arming (timer : ArmedTimer) : Arming := ⟨timer.token, timer.request⟩

structure Delivery where
  token : WakeToken
  instant : MonotonicInstant

/-- The time manager with the requests it has accepted and the wakeups it has
given out. -/
structure TimeSystem where
  time : TimeState
  accepted : List Arming
  delivered : List Delivery

inductive TimeAction
  | armWakeup (token : WakeToken) (request : TimerRequest)
  | handleTick
  | takeWakeup

namespace TimeSystem

def boot : TimeSystem := ⟨.new, [], []⟩

def step (system : TimeSystem) : TimeAction → Option TimeSystem
  | .armWakeup token request =>
    match system.time.armWakeup token request with
    | (.ok _, time) =>
      some { system with time := time, accepted := system.accepted ++ [⟨token, request⟩] }
    | (.error _, time) => some { system with time := time }
  | .handleTick => some { system with time := system.time.handleTick.2 }
  | .takeWakeup =>
    match system.time.takeWakeup with
    | (some event, time) =>
      some { system with
        time := time
        delivered := system.delivered ++ [⟨event.token, time.now⟩] }
    | (none, time) => some { system with time := time }

end TimeSystem

/-! ## One tick -/

/-- What the timers of a list do at `now`: `fired` have made their wakeups, and
`left` stay armed. A periodic timer does both. -/
structure Firing (now : MonotonicInstant) (armed : Multiset Arming)
    (before : Multiset WakeEvent) (left : Multiset Arming) (after : Multiset WakeEvent)
    (fired : Multiset Arming) : Prop where
  due : ∀ arming ∈ fired, arming.request.deadline ≤ now
  wakeups : after = before + fired.map Arming.wakeup
  oneShots : armed.filter Arming.IsOneShot = (left + fired).filter Arming.IsOneShot
  origin : ∀ arming ∈ left + fired, ∃ earlier ∈ armed,
    earlier.token = arming.token ∧ (earlier.IsOneShot ↔ arming.IsOneShot)

namespace Firing

theorem none (now : MonotonicInstant) (armed : Multiset Arming) (before : Multiset WakeEvent) :
    Firing now armed before armed before 0 := by
  refine ⟨nofun, by simp, by simp, fun arming member => ⟨arming, ?_, rfl, .rfl⟩⟩
  rwa [add_zero] at member

theorem append (one : Firing now armed before left after fired)
    (other : Firing now second after secondLeft last secondFired) :
    Firing now (armed + second) before (left + secondLeft) last (fired + secondFired) := by
  refine ⟨fun arming member => ?_, ?_, ?_, fun arming member => ?_⟩
  · rcases mem_add.mp member with first | later
    · exact one.due arming first
    · exact other.due arming later
  · rw [other.wakeups, one.wakeups, map_add, add_assoc]
  · rw [add_add_add_comm, filter_add, one.oneShots, other.oneShots, ← filter_add]
  · rw [add_add_add_comm] at member
    rcases mem_add.mp member with first | later
    · rcases one.origin arming first with ⟨earlier, held, same⟩
      exact ⟨earlier, mem_add.mpr (.inl held), same⟩
    · rcases other.origin arming later with ⟨earlier, held, same⟩
      exact ⟨earlier, mem_add.mpr (.inr held), same⟩

end Firing

def armings (timers : List ArmedTimer) : Multiset Arming := timers.map ArmedTimer.arming

def readyWakeups (ready : Slots WakeEvent maxReadyWakeups) : Multiset WakeEvent := ready.values

theorem readyWakeups_of_perm (held : next.values.Perm (event :: ready.values)) :
    readyWakeups next = readyWakeups ready + {event} := by
  rw [readyWakeups, coe_eq_coe.mpr held, ← cons_coe, ← singleton_add, add_comm]
  rfl

/-- A timer that has fired is gone, or it is periodic and armed again. -/
theorem rearm_firing (now : MonotonicInstant) (timer : ArmedTimer) :
    (TimeState.rearm now timer = none ∧ timer.arming.IsOneShot) ∨
      ∃ again, TimeState.rearm now timer = some again ∧ again.token = timer.token ∧
        ¬timer.arming.IsOneShot ∧ ¬again.arming.IsOneShot := by
  unfold TimeState.rearm
  split
  next periodic =>
    refine .inr ⟨_, rfl, rfl, ?_, ?_⟩ <;>
      exact fun once => nomatch periodic.symm.trans once
  next once => exact .inl ⟨rfl, once⟩

variable {count : Nat}

theorem fire_firing (call : TimeState.fire now slot before = (left, after, count)) :
    ∃ fired, Firing now (armings slot.toList) (readyWakeups before) (armings left.toList)
      (readyWakeups after) fired := by
  unfold TimeState.fire at call
  split at call
  · cases call
    exact ⟨0, .none _ _ _⟩
  rename_i timer
  split at call
  · cases call
    exact ⟨0, .none _ _ _⟩
  rename_i due
  split at call
  · cases call
    exact ⟨0, .none _ _ _⟩
  rename_i accepted
  cases call
  refine ⟨{timer.arming}, fun arming member => ?_, ?_, ?_, fun arming member => ?_⟩
  · rw [mem_singleton.mp member]
    exact Nat.le_of_not_lt due
  · rw [readyWakeups_of_perm (Slots.values_push accepted)]
    rfl
  · rcases rearm_firing now timer with ⟨gone, once⟩ | ⟨again, back, -, first, second⟩
    · rw [gone]
      simp [armings]
    · rw [back]
      simp [armings, filter_singleton, first, second]
  · refine ⟨timer.arming, by simp [armings], ?_⟩
    rcases rearm_firing now timer with ⟨gone, once⟩ | ⟨again, back, token, first, second⟩
    · rw [gone] at member
      have same : arming = timer.arming := by simpa [armings] using member
      rw [same]
      exact ⟨rfl, .rfl⟩
    rw [back] at member
    have either : arming = again.arming ∨ arming = timer.arming := by
      simpa [armings] using member
    rcases either with rfl | rfl
    · exact ⟨token.symm, iff_of_false first second⟩
    · exact ⟨rfl, .rfl⟩

theorem armings_cons (slot : Option ArmedTimer) (slots : List (Option ArmedTimer)) :
    armings (slot :: slots).reduceOption = armings slot.toList + armings slots.reduceOption := by
  rw [TimeState.reduceOption_cons, armings, List.map_append, ← coe_add]
  rfl

theorem expire_firing (call : TimeState.expire now before slots = (left, after, count)) :
    ∃ fired, Firing now (armings slots.reduceOption) (readyWakeups before)
      (armings left.reduceOption) (readyWakeups after) fired := by
  induction slots generalizing left before count with
  | nil =>
    cases call
    exact ⟨0, .none _ _ _⟩
  | cons slot slots induction =>
    rcases first : TimeState.fire now slot before with ⟨firstLeft, middle, made⟩
    rcases rest : TimeState.expire now middle slots with ⟨restLeft, last, expired⟩
    simp only [TimeState.expire, first, rest] at call
    cases call
    rcases fire_firing first with ⟨fired, one⟩
    rcases induction rest with ⟨others, other⟩
    refine ⟨fired + others, ?_⟩
    rw [armings_cons, armings_cons]
    exact one.append other

/-! ## Every run -/

/-- The requests in the armed timers, behind the ready wakeups and behind the
delivered ones. -/
def TimeState.held (time : TimeState) (ready : Multiset Arming) (taken : List Arming) :
    Multiset Arming :=
  armings time.timers.values + ready + taken

open TimeState (held)

/-- The number of timers, ready wakeups and deliveries with the token. -/
def TimeSystem.places (system : TimeSystem) (token : WakeToken) : Nat × Nat × Nat :=
  (system.time.timers.values.countP (·.token = token),
    system.time.ready.values.countP (·.token = token),
    system.delivered.countP (·.token = token))

/-- The account of a state: `ready` are the requests behind the ready wakeups,
and `taken` those behind the delivered ones, in the order of the deliveries. -/
structure Accounted (system : TimeSystem) (ready : Multiset Arming) (taken : List Arming) :
    Prop where
  now_le : system.time.now ≤ 2 ^ 64 - 1
  wakeups : readyWakeups system.time.ready = ready.map Arming.wakeup
  due : ∀ arming ∈ ready, arming.request.deadline ≤ system.time.now
  deliveries : List.Forall₂ (fun (arming : Arming) (delivery : Delivery) =>
    arming.token = delivery.token ∧ arming.request.deadline ≤ delivery.instant) taken
    system.delivered
  oneShots : filter Arming.IsOneShot system.accepted =
    (system.time.held ready taken).filter Arming.IsOneShot
  origin : ∀ arming ∈ system.time.held ready taken, ∃ earlier ∈ system.accepted,
    earlier.token = arming.token ∧ (earlier.IsOneShot ↔ arming.IsOneShot)

variable {arming : Arming}

namespace Accounted

theorem boot : Accounted .boot 0 [] :=
  ⟨Nat.zero_le _, rfl, nofun, .nil, rfl, nofun⟩

section

variable (account : Accounted system ready taken)

include account

theorem accept (now : Multiset Arming) (instant : time.now = system.time.now)
    (wakeups : readyWakeups time.ready = readyWakeups system.time.ready + now.map Arming.wakeup)
    (due : ∀ arming ∈ now, arming.request.deadline ≤ system.time.now)
    (joined : armings time.timers.values + now = armings system.time.timers.values + {arming}) :
    Accounted { system with time := time, accepted := system.accepted ++ [arming] } (ready + now)
      taken := by
  have grown : time.held (ready + now) taken = system.time.held ready taken + {arming} := by
    rw [held, held, add_comm ready, ← add_assoc, joined,
      add_right_comm _ _ ready, add_right_comm _ _ (taken : Multiset Arming)]
  refine ⟨instant ▸ account.now_le, ?_, fun other member => ?_, account.deliveries, ?_,
    fun other member => ?_⟩
  · rw [wakeups, account.wakeups, map_add]
  · dsimp only
    rw [instant]
    rcases mem_add.mp member with before | new
    · exact account.due other before
    · exact due other new
  · rw [grown, filter_add, ← account.oneShots, ← filter_add]
    rfl
  · rw [grown] at member
    rcases mem_add.mp member with before | new
    · rcases account.origin other before with ⟨earlier, known, same⟩
      exact ⟨earlier, List.mem_append_left _ known, same⟩
    · rw [mem_singleton.mp new]
      exact ⟨arming, List.mem_append_right _ List.mem_cons_self, rfl, .rfl⟩

theorem armWakeup {id : TimerId} (call : system.time.armWakeup token request = (.ok id, time)) :
    ∃ ready, Accounted { system with
      time := time, accepted := system.accepted ++ [⟨token, request⟩] } ready taken := by
  rcases TimeState.armWakeup_cases call with ⟨instant, refused | ⟨-, due, timers, wakeups⟩ |
    ⟨-, wakeups, id, timers⟩⟩
  · rcases refused with ⟨error, other, -⟩
    cases other
  · have now : ∀ arming ∈ ({⟨token, request⟩} : Multiset Arming),
        arming.request.deadline ≤ system.time.now := by
      intro arming member
      rw [mem_singleton.mp member]
      exact due
    have made : readyWakeups time.ready = readyWakeups system.time.ready +
        map Arming.wakeup {⟨token, request⟩} := readyWakeups_of_perm wakeups
    exact ⟨_, account.accept _ instant made now (by rw [timers])⟩
  · refine ⟨_, account.accept 0 instant (by rw [wakeups, map_zero, add_zero]) nofun ?_⟩
    rw [add_zero, armings, coe_eq_coe.mpr (timers.map _), List.map_cons,
      ← cons_coe, ← singleton_add, add_comm]
    rfl

theorem frame (instant : time.now = system.time.now) (timers : time.timers = system.time.timers)
    (wakeups : readyWakeups time.ready = readyWakeups system.time.ready) :
    Accounted { system with time := time } ready taken := by
  have same : time.held ready taken = system.time.held ready taken := by
    rw [held, timers, held]
  refine ⟨instant ▸ account.now_le, wakeups.trans account.wakeups, ?_, account.deliveries, ?_, ?_⟩
  · dsimp only
    rw [instant]
    exact account.due
  · rw [same]
    exact account.oneShots
  · rw [same]
    exact account.origin

/-- What fires leaves the timers for the ready wakeups. -/
theorem handleTick :
    ∃ ready, Accounted { system with time := system.time.handleTick.2 } ready taken := by
  rcases call : system.time.handleTick with ⟨outcome, time⟩
  have later : time.now = system.time.now.saturatingAdd 1 := by
    cases call
    rfl
  have instant : system.time.now ≤ time.now := by
    rw [later]
    exact le_min (Nat.le_succ _) account.now_le
  have firing : ∃ fired, Firing time.now (armings system.time.timers.values)
      (readyWakeups system.time.ready) (armings time.timers.values) (readyWakeups time.ready)
      fired := by
    cases call
    exact expire_firing rfl
  rcases firing with ⟨fired, due, wakeups, oneShots, origin⟩
  have moved : time.held (ready + fired) taken =
      armings time.timers.values + fired + (ready + taken) := by
    rw [held, add_comm ready, ← add_assoc, add_assoc]
  have before : system.time.held ready taken =
      armings system.time.timers.values + (ready + taken) := add_assoc _ _ _
  refine ⟨ready + fired, later ▸ Nat.min_le_right _ _, ?_, fun arming member => ?_,
    account.deliveries, ?_, fun arming member => ?_⟩
  · rw [wakeups, account.wakeups, map_add]
  · rcases mem_add.mp member with earlier | now
    · exact (account.due arming earlier).trans instant
    · exact due arming now
  · rw [moved, filter_add, ← oneShots, ← filter_add, ← before]
    exact account.oneShots
  · rw [moved] at member
    rcases mem_add.mp member with here | elsewhere
    · rcases origin arming here with ⟨timer, armed, token, once⟩
      have known : timer ∈ system.time.held ready taken :=
        before ▸ mem_add.mpr (.inl armed)
      rcases account.origin timer known with ⟨earlier, accepted, same, kind⟩
      exact ⟨earlier, accepted, same.trans token, kind.trans once⟩
    · exact account.origin arming (before ▸ mem_add.mpr (.inr elsewhere))

theorem takeWakeup (call : system.time.takeWakeup = (some event, time)) :
    ∃ ready taken, Accounted { system with
      time := time, delivered := system.delivered ++ [⟨event.token, time.now⟩] } ready taken := by
  rcases TimeState.takeWakeup_cases call with ⟨instant, timers, values⟩
  have split : ready.map Arming.wakeup = event ::ₘ readyWakeups time.ready := by
    rw [← account.wakeups, readyWakeups, values]
    rfl
  rcases (map_eq_cons _ _ _ _).mpr split with ⟨arming, member, rfl, rest⟩
  have same : time.held (ready.erase arming) (taken ++ [arming]) =
      system.time.held ready taken := by
    rw [held, held, timers, ← coe_add, coe_singleton,
      add_comm (taken : Multiset Arming), ← add_assoc, add_assoc (armings _),
      add_comm (ready.erase arming), singleton_add, cons_erase member]
  refine ⟨ready.erase arming, taken ++ [arming], instant ▸ account.now_le, rest.symm,
    fun other held => ?_, ?_, ?_, ?_⟩
  · dsimp only
    rw [instant]
    exact account.due other (mem_of_mem_erase held)
  · refine List.rel_append account.deliveries (.cons ⟨rfl, ?_⟩ .nil)
    rw [instant]
    exact account.due arming member
  · rw [same]
    exact account.oneShots
  · rw [same]
    exact account.origin

end

theorem step (taken : system.step action = some next)
    (account : ∃ ready taken, Accounted system ready taken) :
    ∃ ready taken, Accounted next ready taken := by
  rcases account with ⟨ready, given, account⟩
  cases action with
  | armWakeup =>
    unfold TimeSystem.step at taken
    dsimp only at taken
    split at taken
    next call =>
      cases taken
      rcases account.armWakeup call with ⟨ready, account⟩
      exact ⟨ready, given, account⟩
    rename_i call
    cases taken
    rcases TimeState.armWakeup_cases call with ⟨instant, kept | ⟨done, -⟩ | ⟨done, -⟩⟩
    · rcases kept with ⟨-, -, timers, wakeups⟩
      exact ⟨ready, given, account.frame instant timers (by rw [wakeups])⟩
    · cases done
    · cases done
  | handleTick =>
    cases taken
    rcases account.handleTick with ⟨ready, account⟩
    exact ⟨ready, given, account⟩
  | takeWakeup =>
    unfold TimeSystem.step at taken
    dsimp only at taken
    split at taken
    next call =>
      cases taken
      exact account.takeWakeup call
    rename_i call
    cases taken
    rcases TimeState.takeWakeup_cases call with ⟨instant, timers, values⟩
    refine ⟨ready, given, account.frame instant timers ?_⟩
    rw [readyWakeups, readyWakeups, values]
    rfl

section

variable (account : Accounted system ready taken)

include account

section

variable (once : ∀ other ∈ system.accepted, other.token = arming.token → other.IsOneShot)

include once

variable (held : arming ∈ system.time.held ready taken)

include held

/-- A held request of a token that has only one-shot requests is one of them. -/
theorem isOneShot_of_held : arming.IsOneShot := by
  rcases account.origin arming held with ⟨earlier, known, same, kind⟩
  exact kind.mp (once earlier known same)

theorem accepted_of_held : arming ∈ system.accepted := by
  have kept := mem_filter.mpr ⟨held, account.isOneShot_of_held once held⟩
  rw [← account.oneShots] at kept
  exact (mem_filter.mp kept).1

end

/-- The held requests of a token that has only one-shot requests are as many as
were accepted. -/
theorem count_token (once : ∀ arming ∈ system.accepted, arming.token = token → arming.IsOneShot) :
    system.accepted.countP (·.token = token) =
      (system.time.held ready taken).countP (·.token = token) := by
  have accepted : (system.accepted : Multiset Arming).countP (·.token = token) =
      (filter Arming.IsOneShot system.accepted).countP (·.token = token) := by
    rw [countP_filter]
    exact countP_congr rfl fun arming member =>
      propext ⟨fun same => ⟨same, once arming member same⟩, And.left⟩
  have held : (system.time.held ready taken).countP (·.token = token) =
      ((system.time.held ready taken).filter Arming.IsOneShot).countP (·.token = token) := by
    rw [countP_filter]
    refine countP_congr rfl fun arming member =>
      propext ⟨fun same => ⟨same, ?_⟩, And.left⟩
    exact account.isOneShot_of_held (fun other known here => once other known (here.trans same))
      member
  rw [← coe_countP, accepted, account.oneShots, ← held]

theorem source_of_delivery (member : delivery ∈ system.delivered) :
    ∃ arming ∈ taken, arming.token = delivery.token ∧
      arming.request.deadline ≤ delivery.instant := by
  rcases List.forall₂_iff_get.mp account.deliveries with ⟨length, related⟩
  rcases List.mem_iff_get.mp member with ⟨position, rfl⟩
  have inside : position.val < taken.length := by
    rw [length]
    exact position.isLt
  exact ⟨_, List.get_mem taken ⟨position.val, inside⟩, related position.val inside position.isLt⟩

theorem countP_deliveries (token : WakeToken) :
    taken.countP (·.token = token) = system.delivered.countP (·.token = token) := by
  refine List.Forall₂.rec rfl (fun same _ induction => ?_) account.deliveries
  rw [List.countP_cons, List.countP_cons, induction, same.1]

theorem countP_ready (token : WakeToken) :
    ready.countP (·.token = token) = system.time.ready.values.countP (·.token = token) := by
  have events := congrArg (countP (·.token = token)) account.wakeups
  rw [countP_map, ← countP_eq_card_filter] at events
  exact events.symm

/-- Each accepted request of such a token is in one of the three places. -/
theorem count_places (once : ∀ arming ∈ system.accepted, arming.token = token → arming.IsOneShot) :
    system.accepted.countP (·.token = token) =
      (system.places token).1 + (system.places token).2.1 + (system.places token).2.2 := by
  rw [account.count_token once, held, countP_add, countP_add,
    account.countP_ready, coe_countP, account.countP_deliveries, armings,
    coe_countP, List.countP_map]
  rfl

end

end Accounted

namespace TimeSystem

/-- In every state that is reached each accepted one-shot request is armed, or
its wakeup is ready, or its wakeup was delivered, each as often as it was
accepted; no wakeup was delivered before its deadline. A token that was armed
once is in exactly one place. -/
theorem one_shots_conserved {actions : List TimeAction} {system : TimeSystem}
    (ran : run step boot actions = some system) :
    (∃ ready taken, Accounted system ready taken) ∧
      ∀ arming, system.accepted.filter (·.token = arming.token) = [arming] →
        arming.IsOneShot →
        system.places arming.token ∈ [(1, 0, 0), (0, 1, 0), (0, 0, 1)] ∧
          ∀ delivery ∈ system.delivered, delivery.token = arming.token →
            arming.request.deadline ≤ delivery.instant := by
  have accounted : ∃ ready taken, Accounted system ready taken :=
    run_preserves (fun system => ∃ ready taken, Accounted system ready taken) Accounted.step ran
      ⟨0, [], .boot⟩
  refine ⟨accounted, fun arming alone once => ?_⟩
  rcases accounted with ⟨ready, taken, account⟩
  have only : ∀ other ∈ system.accepted, other.token = arming.token → other = arming := by
    intro other known same
    have kept : other ∈ system.accepted.filter (·.token = arming.token) :=
      List.mem_filter.mpr ⟨known, decide_eq_true same⟩
    rw [alone] at kept
    exact List.mem_singleton.mp kept
  have oneShot : ∀ other ∈ system.accepted, other.token = arming.token → other.IsOneShot :=
    fun other known same => only other known same ▸ once
  constructor
  · have total := account.count_places oneShot
    rw [List.countP_eq_length_filter, alone, List.length_singleton] at total
    rcases places : system.places arming.token with ⟨armed, waiting, given⟩
    rw [places] at total
    dsimp only at total
    simp only [List.mem_cons, Prod.mk.injEq, List.not_mem_nil, or_false]
    omega
  · intro delivery member same
    rcases account.source_of_delivery member with ⟨source, given, token, due⟩
    have held : source ∈ system.time.held ready taken :=
      mem_add.mpr (.inr (mem_coe.mpr given))
    have origin := token.trans same
    rw [← only source (account.accepted_of_held (origin ▸ oneShot) held) origin]
    exact due

/-- The ready wakeups are full when the timer of token 0 is due: it stays armed,
and is delivered once there is room. -/
def crowdedTick : List TimeAction :=
  (List.range 64).map (fun token => .armWakeup (token + 1) (.oneShot 0)) ++
    [.armWakeup 0 (.oneShot 1), .handleTick, .takeWakeup, .handleTick]

theorem one_shots_conserved_when_full :
    ∃ system, run step boot crowdedTick = some system ∧
      system.places 0 = (0, 1, 0) ∧ system.places 1 = (0, 0, 1) ∧
      ∃ ready taken, Accounted system ready taken :=
  ⟨_, rfl, by decide +kernel, by decide +kernel, (@one_shots_conserved crowdedTick _ rfl).1⟩

end TimeSystem
end ServiceOS.Time
