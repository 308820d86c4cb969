import ServiceOS.Ssh.Packet

/-! # Key exchange

`negotiate.rs`, `kex.rs` and `hostkey.rs`: the choice of algorithms, the messages
of the exchange, the exchange hash and the keys derived from it. -/

namespace ServiceOS.Ssh

open ByteString Fallible Writer Reader Bytes List Crypto

/-! ## Negotiation -/

def kexAlgs : List String := ["curve25519-sha256", "curve25519-sha256@libssh.org"]

def hostkeyAlgs : List String := ["ssh-ed25519"]

def cipherAlgs : List String := ["chacha20-poly1305@openssh.com"]

def macAlgs : List String := ["hmac-sha2-256"]

def compressionAlgs : List String := ["none"]

structure Negotiated where
  kex : String
  hostKey : String
  cipherC2s : String
  cipherS2c : String
  macC2s : String
  macS2c : String
  compressionC2s : String
  compressionS2c : String

def pick (clientList : Octets) (server : List String) : Option String :=
  (nameList clientList).findSome? fun name => server.find? fun known => name == ascii known

/-- A class without a common name fails with the text of the disconnect. -/
def pickOr (clientList : Octets) (server : List String) (failure : String) :
    Except String String :=
  match pick clientList server with
  | none => .error failure
  | some name => .ok name

def negotiate (kexClient hostkeyClient cipherC2sClient cipherS2cClient macC2sClient macS2cClient
    compC2sClient compS2cClient : Octets) : Except String Negotiated := do
  let kex ← pickOr kexClient kexAlgs "no common kex algorithm"
  let hostKey ← pickOr hostkeyClient hostkeyAlgs "no common host key algorithm"
  let cipherC2s ← pickOr cipherC2sClient cipherAlgs "no common client-to-server cipher"
  let cipherS2c ← pickOr cipherS2cClient cipherAlgs "no common server-to-client cipher"
  let macC2s := (pick macC2sClient macAlgs).getD "hmac-sha2-256"
  let macS2c := (pick macS2cClient macAlgs).getD "hmac-sha2-256"
  let compressionC2s ←
    pickOr compC2sClient compressionAlgs "no common client-to-server compression"
  let compressionS2c ←
    pickOr compS2cClient compressionAlgs "no common server-to-client compression"
  return ⟨kex, hostKey, cipherC2s, cipherS2c, macC2s, macS2c, compressionC2s, compressionS2c⟩

/-! ## KEXINIT -/

def sshMsgKexinit : UInt8 := 20

def sshMsgNewkeys : UInt8 := 21

def sshMsgKexEcdhInit : UInt8 := 30

def sshMsgKexEcdhReply : UInt8 := 31

def kexinitMax : Nat := 8192

def joinNames (names : List String) : Octets := intercalate [44] (names.map ascii)

/-- The message for a cookie, in a buffer of `capacity` bytes. -/
def buildKexinit (cookie : Bytes 16) (capacity : Nat) : Except (Stop WireErr) Octets :=
  build capacity do
    u8 sshMsgKexinit
    raw cookie.val
    string (joinNames kexAlgs)
    string (joinNames hostkeyAlgs)
    string (joinNames cipherAlgs)
    string (joinNames cipherAlgs)
    string (joinNames macAlgs)
    string (joinNames macAlgs)
    string (joinNames compressionAlgs)
    string (joinNames compressionAlgs)
    u32 0
    u32 0
    u8 0
    u32 0

/-- Where each of the ten lists of a message starts, and its length. -/
structure KexInitRef where
  kex : Nat × Nat
  hostkey : Nat × Nat
  encC2s : Nat × Nat
  encS2c : Nat × Nat
  macC2s : Nat × Nat
  macS2c : Nat × Nat
  compC2s : Nat × Nat
  compS2c : Nat × Nat
  langC2s : Nat × Nat
  langS2c : Nat × Nat
  firstKexPacketFollows : Bool

variable (payload : Octets)

def listAt {Error : Type} (payload : Octets) (place : Nat × Nat) :
    Except (Fault Error) Octets :=
  Checked.range payload place.1 (place.1 + place.2)

/-- Read a list of a message of `total` bytes, for its place. -/
def readListPlace (total : Nat) : Reader (Nat × Nat) := do
  let length ← u32
  let remaining ← remaining
  let body ← take length
  return (total - remaining, body.length)

def readKexinit (total : Nat) : Reader KexInitRef := do
  let kind ← u8
  if kind ≠ sshMsgKexinit then
    fail .truncated
  else
    let _cookie ← take 16
    let kex ← readListPlace total
    let hostkey ← readListPlace total
    let encC2s ← readListPlace total
    let encS2c ← readListPlace total
    let macC2s ← readListPlace total
    let macS2c ← readListPlace total
    let compC2s ← readListPlace total
    let compS2c ← readListPlace total
    let langC2s ← readListPlace total
    let langS2c ← readListPlace total
    let follows ← u8
    let _reserved ← u32
    let remaining ← remaining
    if remaining ≠ 0 then
      fail .truncated
    else
      return ⟨kex, hostkey, encC2s, encS2c, macC2s, macS2c, compC2s, compS2c, langC2s, langS2c,
        follows != 0⟩

def parseKexinit : Option KexInitRef :=
  if payload = [] ∨ kexinitMax < payload.length then
    none
  else
    (readKexinit payload.length).result? payload

/-! ## The shared secret and what is derived from it -/

section

variable [Crypto]

/-- Neither the peer's key nor the secret may be all zero. -/
def sharedSecret (ourSeed peerPublic : Bytes 32) : Option (Bytes 32) :=
  if peerPublic = zero 32 then
    none
  else
    let secret := x25519 ourSeed peerPublic
    if secret = zero 32 then none else some secret

def stringField (bytes : Octets) : Octets := toBigEndian 4 bytes.length ++ bytes

/-- The key blob `kS` comes with its length prefix, and `kMpint` is encoded already. -/
def exchangeHash (vC vS iC iS kS : Octets) (e f : Bytes 32) (kMpint : Octets) : Bytes 32 :=
  sha256 (stringField vC ++ stringField vS ++ stringField iC ++ stringField iS ++ kS ++
    stringField e.val ++ stringField f.val ++ kMpint)

def deriveDirectionKeys (kMpint : Octets) (h sessionId : Bytes 32) (x : UInt8) : Bytes 64 :=
  let k1 := sha256 (kMpint ++ h.val ++ [x] ++ sessionId.val)
  let k2 := sha256 (kMpint ++ h.val ++ k1.val)
  append k1 k2

def deriveSessionKeys (kMpint : Octets) (h : Bytes 32) : CipherKeys × CipherKeys :=
  (.fromMaterial (deriveDirectionKeys kMpint h h 67),
    .fromMaterial (deriveDirectionKeys kMpint h h 68))

end

/-! ## Host keys -/

/-- An algorithm name and a value, in a buffer of `capacity` bytes. -/
def ed25519Blob (value : Octets) (capacity : Nat) : Except (Stop WireErr) Octets :=
  build capacity do
    string (ascii "ssh-ed25519")
    string value

def hostKeyBlob (publicKey : Bytes 32) (capacity : Nat) : Except (Stop WireErr) Octets :=
  ed25519Blob publicKey.val capacity

def signatureBlob (signature : Bytes 64) (capacity : Nat) : Except (Stop WireErr) Octets :=
  ed25519Blob signature.val capacity

def readEd25519Blob (length : Nat) : Reader (Bytes length) := do
  let alg ← string
  if alg ≠ ascii "ssh-ed25519" then
    fail .truncated
  else
    let value ← string
    let remaining ← remaining
    match ofList length value with
    | none => fail .truncated
    | some exact => if remaining ≠ 0 then fail .truncated else return exact

def parseHostKeyBlob (blob : Octets) : Option (Bytes 32) := (readEd25519Blob 32).result? blob

def parseSignatureBlob (blob : Octets) : Option (Bytes 64) := (readEd25519Blob 64).result? blob

/-- A blob that is no signature does not verify. -/
def verifyExchangeSignature [Crypto] (publicKey exchangeHash : Bytes 32) (sigBlob : Octets) :
    Bool :=
  match parseSignatureBlob sigBlob with
  | none => false
  | some signature => verify publicKey exchangeHash.val signature

/-! ## The messages of the exchange -/

def buildEcdhInit (e : Bytes 32) (capacity : Nat) : Except (Stop WireErr) Octets :=
  build capacity do
    u8 sshMsgKexEcdhInit
    string e.val

def readEcdhInit : Reader (Bytes 32) := do
  let kind ← u8
  if kind ≠ sshMsgKexEcdhInit then
    fail .truncated
  else
    let e ← string
    let remaining ← remaining
    match ofList 32 e with
    | none => fail .truncated
    | some exact =>
      if remaining ≠ 0 then
        fail .truncated
      else if exact = zero 32 then
        fail .truncated
      else
        return exact

def parseEcdhInit : Option (Bytes 32) := readEcdhInit.result? payload

def buildEcdhReply (hostKeyBlob : Octets) (f : Bytes 32) (signatureBlob : Octets)
    (capacity : Nat) : Except (Stop WireErr) Octets :=
  build capacity do
    u8 sshMsgKexEcdhReply
    string hostKeyBlob
    string f.val
    string signatureBlob

/-- Where the host key and the signature are, their length prefixes included. -/
structure EcdhReplyRef where
  hostKey : Nat × Nat
  f : Bytes 32
  sig : Nat × Nat

def readEcdhReply (total : Nat) : Reader EcdhReplyRef := do
  let kind ← u8
  if kind ≠ sshMsgKexEcdhReply then
    fail .truncated
  else
    let _kS ← string
    let afterKey ← remaining
    let fRaw ← string
    match ofList 32 fRaw with
    | none => fail .truncated
    | some f =>
      let beforeSig ← remaining
      let sig ← string
      let remaining ← remaining
      if remaining ≠ 0 then
        fail .truncated
      else
        let sigStart := total - beforeSig
        return ⟨(1, total - afterKey), f, (sigStart, sigStart + 4 + sig.length)⟩

def parseEcdhReply : Option EcdhReplyRef :=
  (readEcdhReply payload.length).result? payload

/-! ## What is built and what is accepted -/

variable {message rest payload : Octets}

theorem buildKexinit_message (built : buildKexinit cookie capacity = .ok message) :
    message.head? = some sshMsgKexinit ∧ message.length ≤ capacity := by
  refine build_message (fun _ => ?_) built
  refine respects_bind (raw_respects _) fun _ => ?_
  iterate 8 refine respects_bind (string_respects _) fun _ => ?_
  iterate 3 refine respects_bind (raw_respects _) fun _ => ?_
  exact raw_respects _

/-- The lists that are negotiated lie inside a message of `total` bytes. -/
structure KexInitRef.Inside (parsed : KexInitRef) (total : Nat) : Prop where
  kex : parsed.kex.1 + parsed.kex.2 ≤ total
  hostkey : parsed.hostkey.1 + parsed.hostkey.2 ≤ total
  encC2s : parsed.encC2s.1 + parsed.encC2s.2 ≤ total
  encS2c : parsed.encS2c.1 + parsed.encS2c.2 ≤ total
  macC2s : parsed.macC2s.1 + parsed.macC2s.2 ≤ total
  macS2c : parsed.macS2c.1 + parsed.macS2c.2 ≤ total
  compC2s : parsed.compC2s.1 + parsed.compC2s.2 ≤ total
  compS2c : parsed.compS2c.1 + parsed.compS2c.2 ≤ total

theorem readListPlace_bind {next : Nat × Nat → Reader KexInitRef} (bounded : bytes.length ≤ total)
    (answers : (readListPlace total >>= next) bytes = (.ok parsed, rest)) :
    ∃ place after, place.1 + place.2 ≤ total ∧ after.length ≤ total ∧
      next place after = (.ok parsed, rest) := by
  rcases bind_answers answers with ⟨place, after, answers, follows⟩
  rcases bind_answers answers with ⟨length, _, counted, answers⟩
  rcases u32_answers counted with ⟨enough, -, rfl⟩
  rcases bind_answers answers with ⟨remaining, _, measured, answers⟩
  cases measured
  rcases bind_answers answers with ⟨body, _, taken, answers⟩
  rcases take_answers taken with ⟨inside, rfl, rfl⟩
  cases answers
  simp only [length_take, length_drop] at *
  exact ⟨_, _, by omega, by simp only [length_drop]; omega, follows⟩

theorem readKexinit_answers (bounded : payload.length ≤ total)
    (answers : readKexinit total payload = (.ok parsed, rest)) : parsed.Inside total := by
  rcases bind_answers answers with ⟨kind, afterKind, typed, answers⟩
  have afterKindBounded : afterKind.length ≤ total := by
    cases payload with
    | nil => cases typed
    | cons =>
      cases typed
      exact Nat.le_trans (Nat.le_succ _) bounded
  split at answers
  · cases answers
  rcases bind_answers answers with ⟨cookie, afterCookie, taken, answers⟩
  rcases take_answers taken with ⟨-, -, rfl⟩
  have bounded : (afterKind.drop 16).length ≤ total := by
    rw [length_drop]
    omega
  rcases readListPlace_bind bounded answers with ⟨kex, _, kexInside, bounded, answers⟩
  rcases readListPlace_bind bounded answers with ⟨hostkey, _, hostkeyInside, bounded, answers⟩
  rcases readListPlace_bind bounded answers with ⟨encC2s, _, encC2sInside, bounded, answers⟩
  rcases readListPlace_bind bounded answers with ⟨encS2c, _, encS2cInside, bounded, answers⟩
  rcases readListPlace_bind bounded answers with ⟨macC2s, _, macC2sInside, bounded, answers⟩
  rcases readListPlace_bind bounded answers with ⟨macS2c, _, macS2cInside, bounded, answers⟩
  rcases readListPlace_bind bounded answers with ⟨compC2s, _, compC2sInside, bounded, answers⟩
  rcases readListPlace_bind bounded answers with ⟨compS2c, _, compS2cInside, bounded, answers⟩
  rcases bind_answers answers with ⟨langC2s, _, -, answers⟩
  rcases bind_answers answers with ⟨langS2c, _, -, answers⟩
  rcases bind_answers answers with ⟨follows, _, -, answers⟩
  rcases bind_answers answers with ⟨reserved, _, -, answers⟩
  rcases bind_answers answers with ⟨remaining, _, -, answers⟩
  split at answers
  · cases answers
  cases answers
  exact ⟨kexInside, hostkeyInside, encC2sInside, encS2cInside, macC2sInside, macS2cInside,
    compC2sInside, compS2cInside⟩

theorem parseKexinit_inside
    (accepted : parseKexinit payload = some parsed) : parsed.Inside payload.length := by
  rw [parseKexinit, Option.ite_none_left_eq_some] at accepted
  rcases result?_eq_some.mp accepted.2 with ⟨rest, answers⟩
  exact readKexinit_answers le_rfl answers

/-- The key and the signature of a reply lie inside it, and are longer than their
length prefixes. -/
structure EcdhReplyRef.Inside (parsed : EcdhReplyRef) (total : Nat) : Prop where
  keyBegins : parsed.hostKey.1 = 1
  key : parsed.hostKey.1 + 4 ≤ parsed.hostKey.2
  keyEnds : parsed.hostKey.2 ≤ total
  sig : parsed.sig.1 + 4 ≤ parsed.sig.2
  sigEnds : parsed.sig.2 ≤ total

theorem parseEcdhReply_inside
    (accepted : parseEcdhReply payload = some parsed) : parsed.Inside payload.length := by
  rcases result?_eq_some.mp accepted with ⟨rest, answers⟩
  rcases bind_answers answers with ⟨kind, afterKind, typed, answers⟩
  cases payload with
  | nil => cases typed
  | cons =>
    cases typed
    split at answers
    · cases answers
    rcases bind_answers answers with ⟨kS, _, read, answers⟩
    rcases string_answers read with ⟨keyInside, rfl⟩
    rcases bind_answers answers with ⟨_, _, measured, answers⟩
    cases measured
    rcases bind_answers answers with ⟨fRaw, _, read, answers⟩
    rcases string_answers read with ⟨fInside, rfl⟩
    rcases exact : ofList 32 fRaw with _ | f <;> rw [exact] at answers
    · cases answers
    rcases bind_answers answers with ⟨_, _, measured, answers⟩
    cases measured
    rcases bind_answers answers with ⟨sig, _, read, answers⟩
    rcases string_answers read with ⟨sigInside, rfl⟩
    rcases bind_answers answers with ⟨_, _, measured, answers⟩
    split at answers
    · cases answers
    cases answers
    simp only [length_drop, length_cons] at *
    constructor <;> simp only <;> omega

end ServiceOS.Ssh
