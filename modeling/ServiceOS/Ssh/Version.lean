import ServiceOS.Ssh.Types

/-! # Identification lines

`version.rs`: the line each side sends before anything else. -/

namespace ServiceOS.Ssh

open ByteString

def identMax : Nat := 255

def serverBannerText : Octets := ascii "SSH-2.0-ServiceOS_0.1.0"

def serverBanner : Octets := serverBannerText ++ [13, 10]

inductive IdentErr
  | tooLong
  | badPrefix
  | notPrintable
  | empty
deriving DecidableEq

def speaksVersionTwo (line : Octets) : Bool :=
  (ascii "SSH-2.0-").isPrefixOf line || (ascii "SSH-1.99-").isPrefixOf line

def parseIdentification (line : Octets) : Except IdentErr Octets :=
  if line = [] then
    .error .empty
  else if identMax - 2 < line.length then
    .error .tooLong
  else if !speaksVersionTwo line then
    .error .badPrefix
  else if line.any fun byte => byte < 0x20 || 0x7f ≤ byte then
    .error .notPrintable
  else
    .ok line

def lineFeed (buf : Octets) : Option Nat := buf.findIdx? (· == 10)

def trimLine (line : Octets) : Octets :=
  if line.getLast? = some 13 then line.dropLast else line

/-- The search of `parse_server_identification` from the position `scan` on.
Each round passes a line, so it needs no more rounds than there are bytes. -/
def scanIdentification (buf : Octets) (maxPreLines : Nat) :
    (fuel preLines scan : Nat) → Except IdentErr (Option (Nat × Octets))
  | 0, _, _ => .ok none
  | fuel + 1, preLines, scan =>
    match lineFeed (buf.drop scan) with
    | none => if identMax < buf.length then .error .tooLong else .ok none
    | some lf =>
      let line := trimLine ((buf.drop scan).take lf)
      let consumed := scan + lf + 1
      if speaksVersionTwo line then
        (parseIdentification line).map fun ident => some (consumed, ident)
      else if maxPreLines < preLines + 1 then
        .error .badPrefix
      else if buf.length ≤ consumed then
        .ok none
      else
        scanIdentification buf maxPreLines fuel (preLines + 1) consumed

def parseServerIdentification (buf : Octets) (maxPreLines : Nat) :
    Except IdentErr (Option (Nat × Octets)) :=
  scanIdentification buf maxPreLines (buf.length + 1) 0 0

/-! ## What is accepted -/

theorem parseIdentification_accepts (accepted : parseIdentification line = .ok ident) :
    ident = line ∧ ident.length ≤ identMax := by
  rw [parseIdentification] at accepted
  split at accepted
  · cases accepted
  split at accepted
  · cases accepted
  split at accepted
  · cases accepted
  split at accepted
  · cases accepted
  · cases accepted
    exact ⟨rfl, by omega⟩

theorem lineFeed_inside (found : lineFeed buf = some lf) : lf < buf.length := by
  rw [lineFeed, List.findIdx?_eq_some_iff_getElem] at found
  exact found.1

theorem parseServerIdentification_accepts
    (accepted : parseServerIdentification buf maxPreLines = .ok (some (consumed, ident))) :
    0 < consumed ∧ consumed ≤ buf.length ∧ ident.length ≤ identMax := by
  suffices scanned : ∀ fuel preLines scan, scanIdentification buf maxPreLines fuel preLines scan =
      .ok (some (consumed, ident)) → 0 < consumed ∧ consumed ≤ buf.length ∧
        ident.length ≤ identMax from
    scanned _ _ _ accepted
  intro fuel
  induction fuel with
  | zero => exact nofun
  | succ fuel induction =>
    intro preLines scan accepted
    rw [scanIdentification] at accepted
    split at accepted
    · split at accepted <;> cases accepted
    rename_i lf found
    have inside := lineFeed_inside found
    rw [List.length_drop] at inside
    simp only at accepted
    split at accepted
    · rcases parsed : parseIdentification (trimLine ((buf.drop scan).take lf)) with _ | line
      · rw [parsed] at accepted
        cases accepted
      rw [parsed] at accepted
      cases accepted
      exact ⟨Nat.succ_pos _, by omega, (parseIdentification_accepts parsed).2⟩
    split at accepted
    · cases accepted
    split at accepted
    · cases accepted
    · exact induction _ _ accepted

end ServiceOS.Ssh
