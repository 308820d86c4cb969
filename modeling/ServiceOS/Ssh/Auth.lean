import ServiceOS.Ssh.Transport

/-! # User authentication

`auth.rs`: password requests are parked for the host, which answers with a
verdict. -/

namespace ServiceOS.Ssh

open ByteString Fallible Reader

def sshMsgServiceAccept : UInt8 := 6

def sshMsgUserauthRequest : UInt8 := 50

def sshMsgUserauthFailure : UInt8 := 51

def sshMsgUserauthSuccess : UInt8 := 52

def maxAuthFailures : Nat := 3

def maxUser : Nat := 32

def maxPassword : Nat := 64

def passwordMethod : Octets := ascii "password"

variable (payload : Octets)

def fieldsOf : Except (Fault Fail) Octets :=
  Checked.range payload 1 payload.length

/-! ## Reading requests -/

def parseServiceRequest : Except (Fault Fail) (Option Nat) := do
  let fields ← fieldsOf payload
  return (string.result? fields).map List.length

inductive ShapeError
  | malformed
  | notAPassword

/-- The lengths of user name and password in a well-shaped password request. -/
def readUserauthShape : Fallible Octets ShapeError (Nat × Nat) := do
  let user ← mapError (fun _ => .malformed) string
  let service ← mapError (fun _ => .malformed) string
  let method ← mapError (fun _ => .malformed) string
  if method ≠ passwordMethod ∨ service ≠ ascii "ssh-connection" then
    fail .notAPassword
  else
    let change ← mapError (fun _ => .malformed) u8
    if change ≠ 0 then
      fail .notAPassword
    else
      let password ← mapError (fun _ => .malformed) string
      let remaining ← mapError (fun _ => .malformed) remaining
      if remaining ≠ 0 then
        fail .notAPassword
      else if user = [] ∨ maxUser < user.length ∨ maxPassword < password.length then
        fail .notAPassword
      else
        return (user.length, password.length)

def parseUserauthShape : Except (Fault Fail) (Except (Stop ShapeError) (Nat × Nat)) := do
  let fields ← fieldsOf payload
  return (readUserauthShape fields).1

def readCredentials : Reader (Octets × Octets) := do
  let user ← string
  let _service ← string
  let _method ← string
  let change ← withDefault u8 1
  if change ≠ 0 then
    fail .truncated
  else
    let password ← string
    return (user, password)

/-- The second pass over a request, which copies the fields into fixed buffers. -/
def copyCredentials : Except (Fault Fail) (Option (Octets × Octets)) := do
  let fields ← fieldsOf payload
  match readCredentials.result? fields with
  | none => return none
  | some (user, password) =>
    let user ← Checked.copyInto maxUser user
    let password ← Checked.copyInto maxPassword password
    return some (user, password)

theorem readUserauthShape_answers (answers : readUserauthShape fields = (.ok lengths, rest)) :
    ∃ user password, readCredentials.result? fields = some (user, password) ∧
      user.length ≤ maxUser ∧ password.length ≤ maxPassword := by
  rcases bind_answers answers with ⟨user, _, readUser, answers⟩
  rcases bind_answers answers with ⟨service, _, readService, answers⟩
  rcases bind_answers answers with ⟨method, _, readMethod, answers⟩
  split at answers
  · cases answers
  rcases bind_answers answers with ⟨change, _, readChange, answers⟩
  split at answers
  · cases answers
  rename_i unchanged
  rcases bind_answers answers with ⟨password, afterPassword, readPassword, answers⟩
  rcases bind_answers answers with ⟨remaining, _, _, answers⟩
  split at answers
  · cases answers
  split at answers
  · cases answers
  refine ⟨user, password, result?_eq_some.mpr ⟨afterPassword, ?_⟩, by omega, by omega⟩
  rw [readCredentials, bind_of_answer (mapError_answers readUser),
    bind_of_answer (mapError_answers readService),
    bind_of_answer (mapError_answers readMethod),
    bind_of_answer (withDefault_of_answer 1 (mapError_answers readChange)),
    if_neg unchanged, bind_of_answer (mapError_answers readPassword)]
  rfl

/-! ## Handlers -/

section

variable [Crypto]

/-- Accept a service by a name of the right length, and enter the phase `next`. -/
def acceptService (nameLen : Nat) (accepted : Octets) (next : AuthPhase) : Handler Unit :=
  if nameLen ≠ accepted.length then
    failDisconnect .serviceNotAvailable "service request rejected (only ssh-userauth pre-auth)"
  else
    match Writer.build 20 (Writer.string accepted) with
    | .error _ => fail .panicked
    | .ok name => do
      modify fun connection => record .serviceAccepted { connection with
        auth := { connection.auth with phase := next } }
      emitPacket (sshMsgServiceAccept :: name)

def handleServiceRequest (start len : Nat) : Handler Unit := do
  let payload ← staged start (start + len)
  let parsed ← liftM (parseServiceRequest payload)
  match parsed with
  | none => failDisconnect .protocolError "malformed SERVICE_REQUEST"
  | some nameLen =>
    let phase ← gets (·.auth.phase)
    match phase with
    | .idle => acceptService nameLen (ascii "ssh-userauth") .serviceAccepted
    | .authenticated => acceptService nameLen (ascii "ssh-connection") .authenticated
    | .serviceAccepted | .pending => failDisconnect .protocolError "duplicate service request"

/-- The failure names the one method on offer. -/
def replyAuthFailure : Handler Unit :=
  emitPacket (sshMsgUserauthFailure :: stringField passwordMethod ++ [0])

def handleUserauthRequest (start len : Nat) : Handler Unit := do
  let payload ← staged start (start + len)
  let shape ← liftM (parseUserauthShape payload)
  match shape with
  | .error (.error .notAPassword) => replyAuthFailure
  | .error _ => failDisconnect .protocolError "malformed USERAUTH_REQUEST"
  | .ok (userLen, passwordLen) =>
    let copied ← liftM (copyCredentials payload)
    match copied with
    | none => replyAuthFailure
    | some (user, password) =>
      modify fun connection => record .parked { connection with
        auth := { connection.auth with
          phase := .pending
          user := user.take userLen
          password := password.take passwordLen } }

/-! ## Host operations -/

def authVerdict (accepted : Bool) : Handler Unit := do
  let phase ← gets (·.auth.phase)
  if phase ≠ .pending then
    fail (.error .notReady)
  else
    modify fun connection => record (.verdict accepted) { connection with
      auth := { connection.auth with user := [], password := [] } }
    if accepted then
      modify fun connection => { connection with
        auth := { connection.auth with fails := 0, phase := .authenticated } }
      emitPacket [sshMsgUserauthSuccess]
    else
      modify fun connection => { connection with
        auth := { connection.auth with fails := min (connection.auth.fails + 1) 255 } }
      let fails ← gets (·.auth.fails)
      if maxAuthFailures ≤ fails then
        failDisconnect .byApplication "too many authentication failures"
      else
        modify fun connection => { connection with
          auth := { connection.auth with phase := .serviceAccepted } }
        replyAuthFailure

end
end ServiceOS.Ssh
