import ServiceOS.Storage.Service

/-! # The firewall of the network service

The rule table of `firewall.rs` and the request that replaces it. A request with a rule that
is malformed or names an undefined address set is refused and leaves no rules at all, so what
a rule denied may then pass. -/

namespace ServiceOS.Network

open Storage (RawMessage)

/-! ## Address sets -/

inductive RemoteAddress
  | v4 (address : BitVec 32)
  | v6 (address : BitVec 128)

/-- A network: one of its addresses and how many bits of it count. -/
inductive Cidr
  | v4 (address : BitVec 32) (bits : Fin 33)
  | v6 (address : BitVec 128) (bits : Fin 129)

def masked {width : Nat} (bits : Nat) (address : BitVec width) : BitVec width :=
  address &&& if bits = 0 then 0 else BitVec.allOnes width <<< (width - bits)

def Cidr.contains : Cidr → RemoteAddress → Bool
  | .v4 base bits, .v4 remote => masked bits remote == masked bits base
  | .v6 base bits, .v6 remote => masked bits remote == masked bits base
  | .v4 _ _, .v6 _ | .v6 _ _, .v4 _ => false

def maxFirewallAddrSets : Nat := 8

structure AddrSet where
  defined : Bool
  entries : List Cidr

def AddrSet.empty : AddrSet := ⟨false, []⟩

def AddrSet.contains (set : AddrSet) (remote : RemoteAddress) : Bool :=
  set.entries.any (·.contains remote)

abbrev AddrSets : Type := Vector AddrSet maxFirewallAddrSets

/-- Sets are numbered from one on. -/
def AddrSets.set? (addrSets : AddrSets) (id : Nat) : Option AddrSet :=
  if id = 0 then none else addrSets[id - 1]?

/-! ## Rules -/

inductive RuleAction
  | allow
  | deny
deriving DecidableEq

def RuleAction.fromWord : UInt64 → Option RuleAction
  | 0 => some .allow
  | 1 => some .deny
  | _ => none

inductive Proto
  | any
  | tcp
  | udp
  | icmp
deriving DecidableEq

def Proto.fromWord : UInt64 → Option Proto
  | 0 => some .any
  | 1 => some .tcp
  | 2 => some .udp
  | 3 => some .icmp
  | _ => none

inductive Direction
  | inbound
  | outbound
deriving DecidableEq

def Direction.fromWord : UInt64 → Option Direction
  | 0 => some .inbound
  | 1 => some .outbound
  | _ => none

/-- What `decide` is told about a packet or a connection. -/
structure Traffic where
  direction : Direction
  proto : Proto
  localPort : UInt16
  remotePort : UInt16
  ifaceIndex : UInt16
  remote : RemoteAddress

structure FirewallRule where
  action : RuleAction
  proto : Proto
  direction : Direction
  /-- Any port if zero. -/
  port : UInt16
  interface : Option UInt16
  addrSet : Option Nat
  enabled : Bool
  hits : Nat

namespace FirewallRule

def matchesTraffic (rule : FirewallRule) (traffic : Traffic) (addrSets : AddrSets) : Bool :=
  rule.enabled && rule.direction == traffic.direction &&
    (rule.proto == .any || rule.proto == traffic.proto) &&
    rule.interface.all (· == traffic.ifaceIndex) &&
    rule.addrSet.all (fun id => (addrSets.set? id).any (·.contains traffic.remote)) &&
    (rule.port == 0 || rule.port == match traffic.direction with
      | .inbound => traffic.localPort
      | .outbound => traffic.remotePort)

/-- The upper sixteen bits say which interface or which address set the rule is for. -/
def unpack (word : UInt64) (enabled : Bool) : Option FirewallRule := do
  let qualifier := (word >>> 48).toNat
  let (interface, addrSet) ←
    if qualifier = 0 then some (none, none)
    else if qualifier ≤ 0xff then some (some (.ofNat (qualifier - 1)), none)
    else if qualifier ≤ 0x1ff then some (none, some (qualifier % 0x100))
    else none
  return {
    action := ← RuleAction.fromWord (word &&& 0xff)
    proto := ← Proto.fromWord ((word >>> 8) &&& 0xff)
    direction := ← Direction.fromWord ((word >>> 16) &&& 0xff)
    port := (word >>> 32).toUInt16
    interface, addrSet, enabled
    hits := 0 }

end FirewallRule

/-! ## The table -/

def maxFirewallRules : Nat := 6

/-- Of the rules, the ones in use: the slots after them hold empty rules. -/
structure FirewallState where
  rules : List FirewallRule
  addrSets : AddrSets
  defaultInboundAllow : Bool
  inboundDeniedTotal : Nat
  outboundDeniedTotal : Nat

/-- The part of `NetworkStatus` that answers a request for new rules. -/
inductive NetworkStatus
  | ok
  | invalidTarget

/-- `saturating_add(1)` of a counter of 64 bits. -/
def countUp (counter : Nat) : Nat := min (counter + 1) (2 ^ 64 - 1)

namespace FirewallState

def new : FirewallState := ⟨[], .replicate _ .empty, true, 0, 0⟩

variable (state : FirewallState)

def addrSetDefined (id : Nat) : Bool := (state.addrSets.set? id).any (·.defined)

def countDenied : Direction → FirewallState
  | .inbound => { state with inboundDeniedTotal := countUp state.inboundDeniedTotal }
  | .outbound => { state with outboundDeniedTotal := countUp state.outboundDeniedTotal }

/-- The first rule that applies decides, or else the default for the direction. -/
def decide (traffic : Traffic) : Bool × FirewallState :=
  match state.rules.findIdx? (·.matchesTraffic traffic state.addrSets) with
  | some index =>
    let counted := { state with
      rules := state.rules.modify index fun rule => { rule with hits := countUp rule.hits } }
    if state.rules[index]?.any (·.action == .allow) then
      (true, counted)
    else
      (false, counted.countDenied traffic.direction)
  | none =>
    if traffic.direction = .outbound ∨ state.defaultInboundAllow then
      (true, state)
    else
      (false, state.countDenied traffic.direction)

/-- A round of the loop in `replace_all`. -/
def readRule (words : List UInt64) (index : Nat) : Option FirewallRule := do
  let flag ← words[index * 2 + 1]?
  let rule ← FirewallRule.unpack (← words[index * 2]?) (flag != 0)
  guard (rule.addrSet.all state.addrSetDefined)
  return rule

def clearRules : FirewallState := { state with rules := [] }

/-- Whether the rules were replaced. -/
def replaceAll (words : List UInt64) (count : Nat) : Bool × FirewallState :=
  if maxFirewallRules < count ∨ words.length < count * 2 then
    (false, state)
  else
    -- The old rules are gone before the first new one is read.
    match (List.range count).mapM (state.readRule words) with
    | none => (false, state.clearRules)
    | some rules => (true, { state with rules })

def setDefaultInboundAllow (allow : Bool) : FirewallState :=
  { state with defaultInboundAllow := allow }

/-- `FIREWALL_RULES_SET_REQUEST`: the status in the reply, if there is one. -/
def rulesSetRequest (request : RawMessage) :
    Except (Fault Unit) (Option NetworkStatus × FirewallState) :=
  if request.handles = [] then
    .ok (none, state)
  else
    match request.word 0 with
    | 0 => do
      let fields ← Checked.range request.words 2 request.words.length
      match state.replaceAll fields (request.word 1).toNat with
      | (true, after) => .ok (some .ok, after)
      | (false, after) => .ok (some .invalidTarget, after)
    | 1 => .ok (some .ok, state.setDefaultInboundAllow (request.word 1 != 0))
    | 2 => .ok (some .ok, state.clearRules)
    | _ => .ok (some .invalidTarget, state)

/-! ## What a refused request leaves -/

variable {state} {after : FirewallState}

/-- A request for new rules with as many rules as it says, and not too many. -/
def ReadsRules (request : RawMessage) : Prop :=
  request.word 0 = 0 ∧ (request.word 1).toNat ≤ maxFirewallRules ∧
    (request.word 1).toNat * 2 ≤ request.words.length - 2

theorem replaceAll_refused (refused : state.replaceAll words count = (false, after)) :
    after = state ∨ after = state.clearRules ∧
      count ≤ maxFirewallRules ∧ count * 2 ≤ words.length := by
  rw [replaceAll] at refused
  split at refused
  case isTrue => exact .inl (Prod.mk.inj refused).2.symm
  case isFalse inRange =>
    split at refused
    · simp only [not_or, not_lt] at inRange
      exact .inr ⟨(Prod.mk.inj refused).2.symm, inRange⟩
    · simp at refused

theorem rulesSetRequest_refused
    (refused : state.rulesSetRequest request = .ok (some .invalidTarget, after)) :
    after = state ∨ after = state.clearRules ∧ ReadsRules request := by
  simp only [rulesSetRequest] at refused
  split at refused
  case isTrue => simp at refused
  case isFalse =>
    split at refused
    case h_1 replaces =>
      by_cases long : 2 ≤ request.words.length
      · rw [Checked.range_ok long le_rfl, List.take_length] at refused
        cases replaced : state.replaceAll (request.words.drop 2) (request.word 1).toNat with
        | mk applied next =>
          cases applied with
          | true => simp [replaced, bind, Except.bind] at refused
          | false =>
            have same : next = after := by
              simpa [replaced, bind, Except.bind] using refused
            have left := replaceAll_refused replaced
            rw [same, List.length_drop] at left
            exact left.imp id fun cleared => ⟨cleared.1, replaces, cleared.2⟩
      · simp [Checked.range, long, bind, Except.bind] at refused
    case h_4 => simp_all
    all_goals simp at refused

/-- A refused request opens nothing if it is refused for its size or its operation, or if the
traffic is inbound and denied by default. -/
theorem refused_rules_stay_denied
    (refused : state.rulesSetRequest request = .ok (some .invalidTarget, after))
    (denied : (state.decide traffic).1 = false)
    (guarded : ¬ReadsRules request ∨
      traffic.direction = .inbound ∧ state.defaultInboundAllow = false) :
    (after.decide traffic).1 = false := by
  cases rulesSetRequest_refused refused with
  | inl same => rw [same, denied]
  | inr cleared =>
    cases guarded with
    | inl unread => exact absurd cleared.2 unread
    | inr closed =>
      rw [cleared.1]
      simp [decide, clearRules, closed]

/-- A request for one rule, which is to be enabled. -/
def oneRule (word : UInt64) : RawMessage :=
  ⟨0x80e, [0, 1, word, 1], [1], by simp [Storage.ipcMaxWords]⟩

def sshTraffic : Traffic := ⟨.inbound, .tcp, 22, 44000, 0, .v4 0x0a000001⟩

/-- The rule that denies everything inbound is lost, and the default denies it still. -/
theorem refused_rules_stay_denied_by_default : ∃ denying,
    (new.setDefaultInboundAllow false).rulesSetRequest (oneRule 1) = .ok (some .ok, denying) ∧
      denying.rules.length = 1 ∧
      denying.rulesSetRequest (oneRule 2) = .ok (some .invalidTarget, denying.clearRules) ∧
      (denying.clearRules.decide sshTraffic).1 = false :=
  ⟨_, rfl, rfl, rfl, @refused_rules_stay_denied _ _ (oneRule 2) sshTraffic rfl rfl
    (.inr ⟨rfl, rfl⟩)⟩

/-- Everything inbound is denied until a rule with an unknown action is asked for. -/
theorem refused_rules_open_firewall : ∃ denying opened,
    new.rulesSetRequest (oneRule 1) = .ok (some .ok, denying) ∧
      (denying.decide sshTraffic).1 = false ∧
      denying.rulesSetRequest (oneRule 2) = .ok (some .invalidTarget, opened) ∧
      (opened.decide sshTraffic).1 = true :=
  ⟨_, _, rfl, rfl, rfl, rfl⟩

end FirewallState
end ServiceOS.Network
