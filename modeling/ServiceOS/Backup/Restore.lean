import ServiceOS.Backup.Blob

/-! # Where a restore writes

The name of a record is appended to the directory of its scope. It may not be absolute, but its
components are not looked at. -/

namespace ServiceOS.Backup

open BlobView BlobWriter

def configDir : Text := "state/config/".toList

def accountDir : Text := "state/account/".toList

def packagesDir : Text := "state/packages/".toList

def signingConfigPath : Text := "state/backup/signing.cfg".toList

/-- `room` is the length of the buffer for the path. -/
def copyPath (directory name : Text) (room : Nat) : Except BackupError Text :=
  if room < directory.byteLength + name.byteLength then .error .capacityExceeded
  else .ok (directory ++ name)

def scopeDir? (scope : UInt32) : Option Text :=
  if scope = 1 then some configDir
  else if scope = 2 then some accountDir
  else if scope = 4 then some packagesDir
  else none

def recordStoragePath (record : Record) (room : Nat) : Except BackupError Text :=
  if record.name = [] ∨ maxRecordName < record.name.byteLength ∨ record.name.head? = some '/' then
    .error .invalidArgument
  else
    match scopeDir? record.scope with
    | some directory => copyPath directory record.name room
    | none => .error .unknownScope

/-- No component is empty or leads to the same or an upper directory. -/
def Plain (name : Text) : Prop :=
  ∀ component ∈ name.splitOn '/', component ∉ [[], ['.'], ['.', '.']]
deriving Decidable

/-- The path is in the directory of the scope and is not that of the signing key. -/
structure InScope (scope : UInt32) (path : Text) : Prop where
  relative : ∃ directory name, scopeDir? scope = some directory ∧ path = directory ++ name ∧
    name ≠ [] ∧ Plain name
  unsigned : path ≠ signingConfigPath

theorem not_prefix_of_scopeDir? (found : scopeDir? scope = some directory) :
    ¬directory <+: signingConfigPath := by
  rw [scopeDir?] at found
  split at found
  · cases found
    decide
  split at found
  · cases found
    decide
  · rcases Option.ite_none_right_eq_some.mp found with ⟨-, ⟨⟩⟩
    decide

/-- The path of a record stays in its scope if and only if the name has plain components. -/
theorem restore_stays_in_scope {record : Record} {room : Nat} {path : Text}
    (accepted : recordStoragePath record room = .ok path) :
    InScope record.scope path ↔ Plain record.name := by
  rw [recordStoragePath] at accepted
  split at accepted
  · cases accepted
  rename_i valid
  split at accepted
  next directory found =>
    rw [copyPath] at accepted
    split at accepted
    · cases accepted
    cases accepted
    constructor
    · rintro ⟨⟨other, name, named, split, -, plain⟩, -⟩
      cases found.symm.trans named
      exact List.append_cancel_left split ▸ plain
    · intro plain
      refine ⟨⟨directory, record.name, found, rfl, (not_or.mp valid).1, plain⟩, ?_⟩
      exact fun same => not_prefix_of_scopeDir? found ⟨record.name, same⟩
  · cases accepted

theorem restore_stays_in_scope_of_nested : InScope 1 "state/config/net/eth0.cfg".toList :=
  (@restore_stays_in_scope ⟨1, "net/eth0.cfg".toList, []⟩ 128 _ rfl).mpr (by decide)

def escaping : Record := ⟨1, "../backup/signing.cfg".toList, []⟩

/-- The writer accepts a name that leads out of the scope's directory, to the signing key. -/
theorem restore_leaves_scope :
    ∃ blob view, (new.pushAll [escaping]).1.finish = .ok blob ∧
      openBlob blob = .ok view ∧ view.Enumerates 0 [escaping] ∧
      recordStoragePath escaping 128 = .ok (configDir ++ escaping.name) ∧
      ¬Plain escaping.name := by
  have holds := new_holds.pushAll [escaping]
  exact ⟨_, _, finish_eq (by decide +kernel), holds.openBlob, holds.enumerates _ _,
    rfl, by decide⟩

end ServiceOS.Backup
