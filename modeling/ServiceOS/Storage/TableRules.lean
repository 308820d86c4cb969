import ServiceOS.Storage.Moves
import ServiceOS.Storage.WellFormed

/-! # Requests keep the entry table well formed -/

namespace ServiceOS.Storage

open ByteString Fallible Service Execution Slots List

/-- Entries, directory sessions and boot files have well-formed paths. -/
structure Orderly (service : Service) : Prop where
  entries : ∀ {index entry}, service.mutableEntries.get? index = some entry →
    WellFormed entry.path.val entry.kind
  sessions : ∀ {index session}, service.directorySessions.get? index = some session →
    DirectoryFormed session.path.val
  boot : ∀ entry ∈ service.entries, WellFormed entry.path.val .file

def lastComponent (path : Octets) : Octets :=
  (pathCore path (pathKind path)).rtakeWhile (· ≠ slash)

/-- The path a request is about to give to an entry: that of a new one, or the destination of a
rename. -/
def newPath? (service : Service) : Event → Option StoragePath
  | .root message now =>
    if message.tag = StorageTag.renameRequest.code then
      (acceptedRename? service message now).map Prod.snd
    else
      none
  | .directory sessionIndex message _ =>
    (entryMade? service sessionIndex message).map Prod.snd
  | _ => none

/-- What no request checks: that the name it makes up is not `.` or `..` nor, for a rename,
empty. -/
def NamesAllowed (service : Service) (event : Event) : Prop :=
  ∀ path ∈ newPath? service event, validComponent (lastComponent path.val) = true
deriving Decidable

/-! ## Last components -/

variable {kind : StorageEntryKind} {name : Octets}

section

theorem parentPath_append_lastComponent (path : Octets) :
    parentPath path ++ (lastComponent path ++ kindEnding (pathKind path)) = path := by
  rw [← append_assoc, parentPath, lastComponent, pathKind]
  by_cases ends : endsWithSlash path = true
  · rw [if_pos ends, if_pos ends]
    apply Eq.trans (congrArg (· ++ [slash]) rdropWhile_append_rtakeWhile)
    rcases endsWithSlash_iff.mp ends with ⟨core, rfl⟩
    exact congrArg (· ++ [slash]) dropLast_concat
  · rw [if_neg ends, if_neg ends]
    exact (append_nil _).trans rdropWhile_append_rtakeWhile

theorem validDirectoryPath_parentPath (path : Octets) :
    validDirectoryPath (parentPath path) = true := by
  rw [validDirectoryPath, Bool.or_eq_true, List.isEmpty_iff, or_iff_not_imp_left]
  intro nonempty
  have last := List.rdropWhile_last_not (· ≠ slash) _ nonempty
  rw [decide_eq_true_eq, not_not] at last
  rw [endsWithSlash, List.getLast?_eq_getLast_of_ne_nil nonempty]
  exact beq_iff_eq.mpr (congrArg some last)

theorem lastComponent_append (kind : StorageEntryKind) (shape : validDirectoryPath parent = true)
    (nonempty : name ≠ []) (plain : slash ∉ name) :
    lastComponent (parent ++ name ++ kindEnding kind) = name := by
  have core : pathCore (parent ++ name ++ kindEnding kind)
      (pathKind (parent ++ name ++ kindEnding kind)) = parent ++ name := by
    cases kind with
    | directory =>
      have ends : endsWithSlash (parent ++ name ++ [slash]) = true :=
        endsWithSlash_iff.mpr ⟨parent ++ name, rfl⟩
      rw [kindEnding, pathKind, if_pos ends, pathCore, List.dropLast_concat]
    | file =>
      have open_ : endsWithSlash (parent ++ name) = false := by
        rw [endsWithSlash_append nonempty, endsWithSlash_of_not_mem plain]
      rw [kindEnding, List.append_nil, pathKind, open_]
      rfl
  have front : parent.rtakeWhile (· ≠ slash) = [] := by
    rw [List.rtakeWhile_eq_nil_iff]
    intro filled
    rw [validDirectoryPath, Bool.or_eq_true, List.isEmpty_iff] at shape
    rcases endsWithSlash_iff.mp (shape.resolve_left filled) with ⟨start, rfl⟩
    simp
  rw [lastComponent, core, List.rtakeWhile, List.reverse_append, List.takeWhile_append_of_pos]
  · rw [List.reverse_append, List.reverse_reverse]
    exact congrArg (· ++ name) front
  intro byte member
  rw [decide_eq_true_eq]
  rintro rfl
  exact plain (List.mem_reverse.mp member)

theorem DirectoryFormed.shape (formed : DirectoryFormed path) : validDirectoryPath path = true := by
  rw [validDirectoryPath, Bool.or_eq_true, List.isEmpty_iff]
  exact formed.imp id fun formed => formed.endsWithSlash

theorem WellFormed.pathKind (formed : WellFormed path kind) : pathKind path = kind := by
  rw [Storage.pathKind, formed.endsWithSlash]
  cases kind <;> rfl

end

variable {path : StoragePath} {after : Service} {slot now : Nat}

section

section

variable (orderly : Orderly service)

include orderly

theorem Orderly.of_subtable
    (entries : ∀ {index entry}, after.mutableEntries.get? index = some entry →
      service.mutableEntries.get? index = some entry)
    (sessions : ∀ {index session}, after.directorySessions.get? index = some session →
      service.directorySessions.get? index = some session)
    (boot : after.entries = service.entries) : Orderly after where
  entries held := orderly.entries (entries held)
  sessions held := orderly.sessions (sessions held)
  boot := boot ▸ orderly.boot

theorem Orderly.of_same (entries : after.mutableEntries = service.mutableEntries)
    (sessions : after.directorySessions = service.directorySessions)
    (boot : after.entries = service.entries) : Orderly after :=
  orderly.of_subtable (fun held => entries ▸ held) (fun held => sessions ▸ held) boot

theorem Orderly.facing (outside : Outside) : Orderly (service.facing outside) :=
  orderly.of_same rfl rfl rfl

theorem Orderly.withEntry (formed : WellFormed path.val kind) :
    Orderly (service.withEntry now slot kind path) where
  entries held := by
    rcases get?_set_cases held with ⟨-, made⟩ | ⟨-, before⟩
    · cases made
      cases kind <;> exact formed
    · exact orderly.entries before
  sessions := orderly.sessions
  boot := orderly.boot

theorem Orderly.withDirectory (formed : DirectoryFormed path.val) :
    Orderly (service.withDirectory slot path writable) where
  entries := orderly.entries
  sessions held := by
    rcases get?_set_cases held with ⟨-, made⟩ | ⟨-, before⟩
    · cases made
      exact formed
    · exact orderly.sessions before
  boot := orderly.boot

theorem Orderly.openable {path : Octets}
    (shape : validDirectoryPath path = true)
    (openable : directoryOpenable service.mounts service.entries service.mutableEntries
      path = true) :
    DirectoryFormed path := by
  simp only [directoryOpenable, directoryExists, Bool.or_eq_true, List.isEmpty_iff] at openable
  rcases openable with (empty | root) | (empty | boot) | directory
  · exact .inl empty
  · rcases mem_of_isMountRoot root with ⟨mount, -, rfl⟩
    exact directoryFormed_mountPath mount
  · exact .inl empty
  · exact directoryFormed_bootDirectory orderly.boot shape boot
  · rcases findMutableDirectory_isSome directory with ⟨index, entry, held, rfl, kind⟩
    exact .inr (kind ▸ orderly.entries held)

end

end

/-! ## Renaming -/

section

theorem Orderly.destFormed (orderly : Orderly service)
    (planned : RenamePlanned service.mounts service.entries service.mutableEntries source dest)
    (valid : validComponent (lastComponent dest) = true) : WellFormed dest (pathKind dest) := by
  have parent := orderly.openable (validDirectoryPath_parentPath dest) planned.parentOpenable
  have named : WellFormed (lastComponent dest ++ kindEnding (pathKind dest)) (pathKind dest) :=
    wellFormed_name (fun member => by simpa using mem_rtakeWhile_imp member) valid
  have formed := parent.append named
  rwa [parentPath_append_lastComponent] at formed

/-- A renamed path is as well formed as it was if the destination is. -/
theorem wellFormed_renamed {path : Octets}
    (formed : WellFormed path kind) (destFormed : WellFormed dest (pathKind source))
    (renamed : Renamed source path) : WellFormed (dest ++ path.drop source.length) kind := by
  rcases renamed with rfl | ⟨directory, below⟩
  · rw [drop_length, append_nil, ← formed.pathKind]
    exact destFormed
  rcases isBelow_iff.mp below with ⟨longer, rest, rfl⟩
  have nonempty : rest ≠ [] := by
    rintro rfl
    rw [append_nil] at longer
    exact Nat.lt_irrefl _ longer
  rw [pathKind, if_pos directory] at destFormed
  rcases endsWithSlash_iff.mp directory with ⟨core, rfl⟩
  rw [drop_left]
  exact DirectoryFormed.append (.inr destFormed) ((wellFormed_below nonempty).mp formed).2

theorem Orderly.renamed {mutableEntries : EntryTable}
    {searchIndex : SearchIndex} (orderly : Orderly service)
    (done : RenameDone service source dest now mutableEntries searchIndex)
    (named : validComponent (lastComponent dest.val) = true) :
    Orderly { service with mutableEntries := mutableEntries, searchIndex := searchIndex } := by
  have planned := done.planned
  have formed := orderly.destFormed planned named
  have kinds : pathKind dest.val = pathKind source.val := by rw [pathKind, pathKind, done.ends]
  rw [kinds] at formed
  rw [done.entries]
  refine ⟨?_, orderly.sessions, orderly.boot⟩
  intro index entry held
  rw [get?_update] at held
  rcases Option.bind_eq_some_iff.mp held with ⟨before, there, moved⟩
  by_cases renamed : Renamed source.val before.path.val
  · rw [moveEntry_of_renamed renamed (planned.lands dest.property there renamed).1] at moved
    cases moved
    exact wellFormed_renamed (orderly.entries there) formed renamed
  rw [moveEntry_of_not renamed] at moved
  cases moved
  exact orderly.entries there

end

/-! ## Every request -/

section

theorem Orderly.created (orderly : Orderly service)
    (held : service.directorySessions.get? sessionIndex = some session)
    (composed : composeChildPath session.path.val name kind = some path)
    (valid : validComponent (lastComponent path.val) = true) :
    Orderly (service.withEntry now slot kind path) := by
  have formed := orderly.sessions held
  rcases composeChildPath_eq_some composed with ⟨nonempty, plain, made⟩
  rw [made, lastComponent_append kind formed.shape nonempty plain] at valid
  refine orderly.withEntry ?_
  rw [made, append_assoc]
  exact formed.append (wellFormed_name plain valid)

theorem orderly_of_moves (moves : Moves service event after) (allowed : NamesAllowed service event)
    (orderly : Orderly service) : Orderly after := by
  cases moves with
  | directoryOpened gates outside =>
    have planned := directoryOpenGates_eq_ok gates
    exact (orderly.withDirectory (orderly.openable planned.shape planned.openable)).facing outside
  | unmounted =>
    rw [withoutMount_frame]
    exact orderly.of_subtable held_of_withoutMount id rfl
  | @renamed source message now dest status mutableEntries searchIndex tag operands done outside =>
    rcases renameRequest_cases operands done with ⟨rfl, rfl⟩ | ⟨accepted, renamed⟩
    · exact orderly.of_same rfl rfl rfl
    refine (orderly.renamed renamed (allowed dest ?_)).facing outside
    rw [newPath?, if_pos tag, accepted]
    rfl
  | repaired =>
    rw [releaseAll_frame]
    exact orderly.of_subtable held_of_releaseAll id rfl
  | directoryReleased =>
    exact orderly.of_subtable id held_of_set_none rfl
  | @created slot sessionIndex now message session kind path serving tag gates outside =>
    have planned := createGates_eq_ok gates
    rcases planned.composed with ⟨name, -, composed⟩
    refine (orderly.created serving.held composed (allowed path ?_)).facing outside
    rw [newPath?, entryMade?_of_created serving.held tag gates]
    rfl
  | removed =>
    rw [Service.withoutEntry, release_frame]
    exact orderly.of_subtable held_of_set_none id rfl
  | @fileCreated blobSlot sessionIndex now slot message session path serving tag gates =>
    rcases openFileGates_eq_ok gates with ⟨planned, -⟩
    rcases planned.composed with ⟨name, -, composed⟩
    have made : Orderly (service.withEntry now slot .file path) := by
      refine orderly.created serving.held composed (allowed path ?_)
      rw [newPath?, entryMade?_of_fileCreated serving.held tag gates]
      rfl
    exact made.of_same rfl rfl rfl
  | directoryTraversed serving tag gates outside =>
    rcases traverseGates_eq_ok gates with ⟨planned, -⟩
    rcases planned.composed with ⟨relative, composed⟩
    rcases composeRelativePath_eq_some composed with ⟨valid, made⟩
    have formed := @DirectoryFormed.append _ _ .directory (orderly.sessions serving.held)
      ⟨relative, rfl, relativeComponentsValid_iff.mp valid⟩
    rw [← append_assoc] at formed
    have formed : WellFormed _ .directory := made ▸ formed
    exact (orderly.withDirectory (.inr formed)).facing outside
  | wrote held gates grows =>
    have planned := writeGates_eq_ok gates
    rcases ensureMutableCapacity_answers grows with ⟨handle, capacity, memory, rfl, rfl⟩
    refine ⟨?_, orderly.sessions, orderly.boot⟩
    intro index entry held
    rcases get?_set_cases held with ⟨-, made⟩ | ⟨-, before⟩
    · cases made
      have formed := orderly.entries planned.held
      exact formed
    · exact orderly.entries before
  | _ => exact orderly.of_same rfl rfl rfl

end

/-! ## Runs -/

section

variable (orderly : Orderly service) (distinct : DistinctPaths service.mutableEntries)
  (root : HasBootRoot service.mounts)

include orderly distinct root

theorem judgeEntry_clean (held : service.mutableEntries.get? index = some entry) :
    judgeEntry service.mounts service.mutableEntries index entry = ⟨none, false, false⟩ := by
  have formed := entryPathViolation_eq_none.mpr (orderly.entries held)
  have owned : (storageResolveMount service.mounts entry.path.val).isNone = false := by
    rcases root with ⟨place, mount, there, named⟩
    have within : mount.path.val <+: entry.path.val := named ▸ nil_prefix
    rcases resolveMount_isSome (mem_values.mpr ⟨place, there⟩) within with ⟨owner, resolved⟩
    rw [resolved]
    rfl
  have alone : ((service.mutableEntries.entries.take index).any fun other =>
      other.any fun other => other.path == entry.path) = false := by
    rw [← Bool.not_eq_true, any_take]
    rintro ⟨place, other, before, there, same⟩
    exact Nat.ne_of_lt before (distinct there held (eq_of_beq same))
  rw [judgeEntry, formed, owned, alone]
  rfl

end

/-- A service that has not served a request: no entries, no sessions, a mount for the root, and
boot files whose paths are well formed. -/
structure Started (service : Service) : Prop where
  entries : service.mutableEntries = .empty _
  sessions : service.directorySessions = .empty _
  boot : ∀ entry ∈ service.entries, entryPathViolation entry.path.val .file = none
  root : (storageFindMountByPath service.mounts []).isSome = true

theorem Started.orderly (started : Started service) : Orderly service where
  entries held := by
    rw [started.entries, get?_empty] at held
    cases held
  sessions held := by
    rw [started.sessions, get?_empty] at held
    cases held
  boot entry member := entryPathViolation_eq_none.mp (started.boot entry member)

/-- Requests keep the entry table well formed. -/
theorem requests_keep_table_rules (start : Service) (events : List Event) (final : Service)
    (started : Started start) (execution : run step start events = some final)
    (allowed : EveryStep step NamesAllowed start events) :
    DistinctPaths final.mutableEntries ∧
      (∀ index entry, final.mutableEntries.get? index = some entry →
        entryPathViolation entry.path.val entry.kind = none) ∧
      ∀ report, scanMemory final.mounts final.mutableEntries report = report := by
  have orderly : Orderly final :=
    everyStep_preserves Orderly NamesAllowed
      (fun stepped names => orderly_of_moves (step_moves stepped) names) execution allowed
      started.orderly
  have distinct : DistinctPaths final.mutableEntries :=
    run_preserves (fun service => DistinctPaths service.mutableEntries)
      (fun stepped => distinctPaths_of_moves (step_moves stepped)) execution
      (started.entries ▸ distinctPaths_empty)
  have root : HasBootRoot final.mounts :=
    run_preserves (fun service => HasBootRoot service.mounts)
      (fun stepped => hasBootRoot_of_moves (step_moves stepped)) execution
      (hasBootRoot_of_found started.root)
  refine ⟨distinct, ?_, fun report =>
    scanMemory_clean fun _ _ held => judgeEntry_clean orderly distinct root held⟩
  exact fun index entry held => entryPathViolation_eq_none.mpr (orderly.entries held)

namespace Sample

def busyRun : List Event :=
  [mount "usb/" .ephemeral 1, openDirectory "usb/" true, create 0 .directory "d",
    openFile 0 "a" true true, write 0 0 3 "abc", rename "usb/a" "usb/d/b", remove 0 "a",
    closeBlob 0, closeDirectory 0, unmount "usb/"]

def nameRun : List Event :=
  [openDirectory "home/" true, create 0 .file "..", create 0 .directory "d",
    rename "home/d/" "home//"]

end Sample

open Sample in
theorem requests_keep_table_rules_of_sample :
    ∃ final, run step service busyRun = some final ∧ DistinctPaths final.mutableEntries := by
  have execution : run step service busyRun = some (serve service busyRun) :=
    run_serve (by decide +kernel)
  have allowed : EveryStep step NamesAllowed service busyRun := by decide +kernel
  have started : Started service := ⟨rfl, rfl, nofun, by decide +kernel⟩
  exact ⟨_, execution, (requests_keep_table_rules service busyRun _ started execution allowed).1⟩

open Sample in
/-- The names `..` and the empty one break the rules. -/
theorem requests_break_table_rules :
    (run step service nameRun).map (fun final =>
      (final.mutableEntries.values.map fun entry =>
        (entry.path.val, entryPathViolation entry.path.val entry.kind),
        (scanMemory final.mounts final.mutableEntries .new).errors)) =
      some ([(ascii "home/..", some .invalidPath), (ascii "home//", some .invalidPath)], 2) := by
  decide +kernel

end ServiceOS.Storage
