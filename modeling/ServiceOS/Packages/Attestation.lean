import ServiceOS.Packages.Keys

/-! # Attestations

A root signs that a key was enrolled under it. The signed message is the key identifier, the
label of the root, the tick and the identifier of the root, one after the other. -/

namespace ServiceOS.Packages

open ByteString List Text

def maxTrustRoots : Nat := 4

def rootLabelMax : Nat := 24

structure Attestation where
  keyId : Text
  rootLabel : Text
  attestedTick : UInt64
  rootKeyId : Text

def tickBytes (tick : UInt64) : Octets := toLittleEndian 8 tick.toNat

/-- The message has no separators. Empty identifiers and texts that are too long are refused. -/
def attestationMessage (attestation : Attestation) : Option Octets :=
  if attestation.keyId = [] ∨ keyIdMax < attestation.keyId.byteLength then
    none
  else if attestation.rootKeyId = [] ∨ keyIdMax < attestation.rootKeyId.byteLength then
    none
  else if rootLabelMax < attestation.rootLabel.byteLength then
    none
  else
    some (attestation.keyId.toBytes ++ attestation.rootLabel.toBytes ++
      tickBytes attestation.attestedTick ++ attestation.rootKeyId.toBytes)

def signAttestation (scheme : Ed25519) (seed : Bytes 32) (attestation : Attestation) :
    Option Signature :=
  (attestationMessage attestation).map (scheme.sign seed)

def verifyAttestation (scheme : Ed25519) (rootPubkeyHex : Text) (signature : Signature)
    (attestation : Attestation) : Bool :=
  match decodePubkeyHex rootPubkeyHex, attestationMessage attestation with
  | some rootPublic, some message => scheme.verify rootPublic message signature
  | _, _ => false

/-! ## Roots -/

/-- A root key and the label that goes into its attestations. -/
structure TrustRoot where
  keyId : KeyId
  label : Text.Fixed rootLabelMax
deriving DecidableEq

structure TrustRoots where
  roots : List TrustRoot
  fits : roots.length ≤ maxTrustRoots

def TrustRoots.find (roots : TrustRoots) (keyId : Text) : Option TrustRoot :=
  roots.roots.find? (·.keyId.val == keyId)

def TrustedKey.attestation (key : TrustedKey) (root : TrustRoot) : Attestation :=
  ⟨key.keyId.val, root.label.val, key.attestedTick, key.via.val⟩

def attestationChainHolds (scheme : Ed25519) (keystore : Keystore) (roots : TrustRoots)
    (key : TrustedKey) : Bool :=
  if key.alg = .ed25519 ∧ key.isAttested ∧ key.hasAttestedSig ∧ key.via.val ≠ [] then
    match roots.find key.via.val, keystore.findKeyAnywhere key.via.val with
    | some root, some rootKey =>
      rootKey.alg == .ed25519 &&
        verifyAttestation scheme rootKey.keyHex.val key.attestedSig (key.attestation root)
    | _, _ => false
  else
    false

/-- Every key caches whether its chain holds. -/
def refreshChainCache (scheme : Ed25519) (keystore : Keystore) (roots : TrustRoots) : Keystore where
  sources := keystore.sources.map fun entry =>
    { entry with
      keys := entry.keys.map fun key =>
        { key with chainValid := attestationChainHolds scheme keystore roots key }
      fits := by rw [length_map]; exact entry.fits }
  fits := by rw [length_map]; exact keystore.fits

/-! ## Layouts -/

/-- How many bytes the texts of an attestation have. -/
structure Layout where
  keyId : Nat
  rootLabel : Nat
  rootKeyId : Nat
deriving DecidableEq

def Attestation.layout (attestation : Attestation) : Layout :=
  ⟨attestation.keyId.byteLength, attestation.rootLabel.byteLength,
    attestation.rootKeyId.byteLength⟩

namespace Layout

def total (layout : Layout) : Nat := layout.keyId + layout.rootLabel + layout.rootKeyId

/-- The layout of texts that are not refused. -/
structure Accepted (layout : Layout) : Prop where
  keyId : layout.keyId ≠ 0 ∧ layout.keyId ≤ keyIdMax
  rootLabel : layout.rootLabel ≤ rootLabelMax
  rootKeyId : layout.rootKeyId ≠ 0 ∧ layout.rootKeyId ≤ keyIdMax

/-- Layouts of the same length in all are the same. -/
def Alike (first second : Layout) : Prop := first.total = second.total → first = second
deriving Decidable

end Layout

theorem length_tickBytes (tick : UInt64) : (tickBytes tick).length = 8 :=
  length_toLittleEndian 8 tick.toNat

theorem tickBytes_injective : Function.Injective tickBytes := by
  intro first second same
  have read := congrArg fromLittleEndian same
  rw [tickBytes, tickBytes, fromLittleEndian_toLittleEndian first.toNat_lt,
    fromLittleEndian_toLittleEndian second.toNat_lt] at read
  exact UInt64.toNat_inj.mp read

theorem attestationMessage_eq_some (accepted : attestationMessage attestation = some message) :
    message = attestation.keyId.toBytes ++ attestation.rootLabel.toBytes ++
      tickBytes attestation.attestedTick ++ attestation.rootKeyId.toBytes := by
  rw [attestationMessage] at accepted
  split at accepted
  · cases accepted
  split at accepted
  · cases accepted
  split at accepted <;> cases accepted
  rfl

theorem eq_of_attestationMessage (one : attestationMessage first = some message)
    (two : attestationMessage second = some message)
    (alike : first.layout.Alike second.layout) : first = second := by
  have same := (attestationMessage_eq_some one).symm.trans (attestationMessage_eq_some two)
  have lengths := congrArg length same
  simp only [length_append, length_toBytes, length_tickBytes] at lengths
  rcases Layout.mk.inj (alike (by simp only [Layout.total, Attestation.layout]; omega)) with
    ⟨keys, labels, -⟩
  rcases append_inj same (by
    simp only [length_append, length_toBytes, length_tickBytes, keys, labels]) with
    ⟨front, roots⟩
  rcases append_inj front (by
    simp only [length_append, length_toBytes, keys, labels]) with ⟨names, ticks⟩
  rcases append_inj names (by simp only [length_toBytes, keys]) with ⟨ids, words⟩
  cases first
  cases toBytes_injective ids
  cases toBytes_injective words
  cases tickBytes_injective ticks
  cases toBytes_injective roots
  rfl

/-- An attestation whose message is one letter over and over. -/
def Layout.fill (layout : Layout) : Attestation :=
  ⟨replicate layout.keyId 'a', replicate layout.rootLabel 'a', 0x6161616161616161,
    replicate layout.rootKeyId 'a'⟩

theorem byteLength_replicate (count : Nat) : byteLength (replicate count 'a') = count := by
  rw [byteLength, map_replicate, sum_replicate_nat]
  exact Nat.mul_one count

theorem layout_fill (layout : Layout) : layout.fill.layout = layout := by
  simp only [Layout.fill, Attestation.layout, byteLength_replicate]

theorem attestationMessage_fill {layout : Layout} (accepted : layout.Accepted) :
    attestationMessage layout.fill = some (replicate (layout.total + 8) 97) := by
  have letters : ∀ count, toBytes (replicate count 'a') = replicate count 97 := by
    intro count
    induction count with
    | zero => rfl
    | succ count induction => exact congrArg (97 :: ·) induction
  have tick : tickBytes 0x6161616161616161 = replicate 8 97 := by decide
  rcases accepted with ⟨⟨key, short⟩, label, root, shortRoot⟩
  simp only [attestationMessage, Layout.fill, byteLength_replicate, replicate_eq_nil_iff, key, root,
    not_lt.mpr short, not_lt.mpr label, not_lt.mpr shortRoot, or_self, if_false, letters, tick,
    replicate_append_replicate, Layout.total]
  congr 2
  omega

theorem layouts_collide {one : Layout} (accepted : one.Accepted)
    (acceptedToo : other.Accepted) (differ : ¬one.Alike other) :
    ∃ first second message, first.layout = one ∧ second.layout = other ∧ first ≠ second ∧
      attestationMessage first = some message ∧ attestationMessage second = some message := by
  rcases Classical.not_imp.mp differ with ⟨same, different⟩
  refine ⟨one.fill, other.fill, _, layout_fill one, layout_fill other, fun equal => ?_,
    attestationMessage_fill accepted, same ▸ attestationMessage_fill acceptedToo⟩
  rw [← layout_fill one, equal, layout_fill] at different
  exact different rfl

/-! ## Chains -/

theorem attestationChainHolds_eq_true
    (holds : attestationChainHolds scheme keystore roots key = true) :
    ∃ root rootKey, roots.find key.via.val = some root ∧
      keystore.findKeyAnywhere key.via.val = some rootKey ∧
      verifyAttestation scheme rootKey.keyHex.val key.attestedSig
      (key.attestation root) = true := by
  rw [attestationChainHolds] at holds
  split at holds
  · split at holds
    next root rootKey listed enrolled =>
      rw [Bool.and_eq_true] at holds
      exact ⟨root, rootKey, listed, enrolled, holds.2⟩
    · cases holds
  · cases holds

namespace Sample

def fixed (capacity : Nat) (text : String) : Text.Fixed capacity :=
  Text.Fixed.empty.set text.toList

def signedFor (keyId label : String) : Attestation := ⟨keyId.toList, label.toList, 7, "r".toList⟩

/-- A scheme under which the root `r`, labelled `c`, has signed for the key `ab` and nothing
else. -/
def signedOnce : Ed25519 where
  sign _ _ := ⟨replicate 64 1, length_replicate⟩
  verify _ message _ := attestationMessage (signedFor "ab" "c") == some message

def attested (keyId : String) : Keystore where
  sources := [{
    keys := [
      { TrustedKey.empty with
        keyId := fixed _ "r"
        keyHex := ⟨replicate 64 '0', by decide⟩
        alg := .ed25519 },
      { TrustedKey.empty with
        keyId := fixed _ keyId
        alg := .ed25519
        attestedTick := 7
        via := fixed _ "r"
        attestedSig := (signAttestation signedOnce (Bytes.zero 32) (signedFor "ab" "c")).getD
          (Bytes.zero 64) }]
    fits := by simp [maxKeysPerSource] }]
  fits := by simp [maxSignedSources]

def attestedKey (keyId : String) : TrustedKey :=
  ((attested keyId).findKeyAnywhere keyId.toList).getD .empty

def rootLabelled (label : String) : TrustRoot := ⟨fixed _ "r", fixed _ label⟩

def rootsLabelled (label : String) : TrustRoots := ⟨[rootLabelled label], by simp [maxTrustRoots]⟩

end Sample

end ServiceOS.Packages
