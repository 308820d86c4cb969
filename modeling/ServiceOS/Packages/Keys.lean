import ServiceOS.Foundation.ByteString
import ServiceOS.Foundation.Text

/-! # Keys of repositories

The keys that are pinned for the sources of packages, as far as attestations read
them: `TrustedKey`, `SourceKeys` and `Keystore` of `signing.rs`. -/

namespace ServiceOS.Packages

open ByteString

def keyIdMax : Nat := 24

def keyHexMax : Nat := 64

def maxKeysPerSource : Nat := 4

def maxSignedSources : Nat := 4

inductive KeyAlg
  | fnv
  | ed25519
deriving DecidableEq

abbrev KeyId : Type := Text.Fixed keyIdMax

abbrev Signature : Type := Bytes 64

structure Ed25519 where
  sign : Bytes 32 → Octets → Signature
  verify : Bytes 32 → Octets → Signature → Bool

structure TrustedKey where
  keyId : KeyId
  keyHex : Text.Fixed keyHexMax
  alg : KeyAlg
  attestedTick : UInt64
  via : KeyId
  attestedSig : Signature
  chainValid : Bool

namespace TrustedKey

def empty : TrustedKey := ⟨.empty, .empty, .fnv, 0, .empty, Bytes.zero 64, false⟩

def isAttested (key : TrustedKey) : Bool := key.attestedTick != 0

def hasAttestedSig (key : TrustedKey) : Bool := key.attestedSig != Bytes.zero 64

end TrustedKey

/-! ## Key material -/

def parseHexNibble (character : Char) : Option Nat :=
  let code := character.toNat
  if 48 ≤ code ∧ code ≤ 57 then some (code - 48)
  else if 97 ≤ code ∧ code ≤ 102 then some (code - 97 + 10)
  else if 65 ≤ code ∧ code ≤ 70 then some (code - 65 + 10)
  else none

def decodeHexPairs : Text → Option Octets
  | [] => some []
  | [_] => none
  | high :: low :: rest => do
    let hi ← parseHexNibble high
    let lo ← parseHexNibble low
    let bytes ← decodeHexPairs rest
    return UInt8.ofNat (hi * 16 + lo) :: bytes

def decodeHexBytes (count : Nat) (value : Text) : Option (Bytes count) :=
  (decodeHexPairs value).bind (Bytes.ofList count)

def decodePubkeyHex : Text → Option (Bytes 32) := decodeHexBytes 32

/-! ## The key store -/

structure SourceKeys where
  keys : List TrustedKey
  fits : keys.length ≤ maxKeysPerSource

structure Keystore where
  sources : List SourceKeys
  fits : sources.length ≤ maxSignedSources

namespace Keystore

def allKeys (keystore : Keystore) : List TrustedKey := keystore.sources.flatMap SourceKeys.keys

def findKeyAnywhere (keystore : Keystore) (keyId : Text) : Option TrustedKey :=
  keystore.allKeys.find? (·.keyId.val == keyId)

end Keystore

end ServiceOS.Packages
