import ServiceOS.Storage.Moves

/-! # Directory sessions confine their holder

A name or relative path only adds to the path of the session it is used on. -/

namespace ServiceOS.Storage

open ByteString Fallible Service Slots List

/-- Longer than a directory's path and beginning with it. -/
def Below (directory path : Octets) : Prop := ∃ rest, rest ≠ [] ∧ path = directory ++ rest

theorem Below.of_stem (stem : start <+: directory) (below : Below directory path) :
    Below start path := by
  rcases stem with ⟨front, rfl⟩
  rcases below with ⟨rest, nonempty, rfl⟩
  exact ⟨front ++ rest, append_ne_nil_of_right_ne_nil front nonempty, append_assoc _ _ _⟩

theorem Below.stem (below : Below directory path) : directory <+: path := by
  rcases below with ⟨rest, -, rfl⟩
  exact prefix_append directory rest

theorem below_composeChildPath (composed : composeChildPath parent name kind = some path) :
    Below parent path.val := by
  rcases composeChildPath_eq_some composed with ⟨nonempty, -, made⟩
  exact ⟨name ++ kindEnding kind, append_ne_nil_of_left_ne_nil nonempty _,
    made.trans (append_assoc _ _ _)⟩

theorem below_composeRelativePath
    (composed : composeRelativePath parent relative kind = some path) : Below parent path.val := by
  rcases composeRelativePath_eq_some composed with ⟨valid, made⟩
  have nonempty : relative ≠ [] := by
    rintro rfl
    cases valid
  exact ⟨relative ++ kindEnding kind, append_ne_nil_of_left_ne_nil nonempty _,
    made.trans (append_assoc _ _ _)⟩

/-! ## One request -/

def OnItsFile (service : Service) (session : BlobSession) : Prop :=
  match session.source with
  | .mutable => ∃ entry, service.mutableEntries.get? session.entryIndex = some entry ∧
      entry.path = session.path
  | .bootStore => ∃ entry ∈ service.entries, entry.path = session.path

/-- All that is opened, made or removed is below the directory of a session. -/
structure Confined (session : DirectorySession) (service after : Service) : Prop where
  directories : ∀ {slot opened}, after.directorySessions.get? slot = some opened →
    service.directorySessions.get? slot = some opened ∨
      (Below session.path.val opened.path.val ∧ validDirectoryPath opened.path.val = true)
  blobs : ∀ {slot opened}, after.blobSessions.get? slot = some opened →
    service.blobSessions.get? slot = some opened ∨
      (Below session.path.val opened.path.val ∧ OnItsFile after opened)
  removed : ∀ {index entry}, service.mutableEntries.get? index = some entry →
    after.mutableEntries.get? index = some entry ∨ Below session.path.val entry.path.val
  made : ∀ {index entry}, after.mutableEntries.get? index = some entry →
    service.mutableEntries.get? index = some entry ∨ Below session.path.val entry.path.val

section

variable {service after : Service} {session : DirectorySession}

/-- One change after another, when the first opens no blob session. -/
theorem Confined.trans (first : Confined session service between)
    (second : Confined session between after) (same : between.blobSessions = service.blobSessions) :
    Confined session service after where
  directories opens := by
    rcases second.directories opens with before | new
    · exact first.directories before
    · exact .inr new
  blobs opens := (second.blobs opens).imp_left fun before => same ▸ before
  removed held := by
    rcases first.removed held with kept | below
    · exact second.removed kept
    · exact .inr below
  made held := by
    rcases second.made held with before | below
    · exact first.made before
    · exact .inr below

section

variable {path : StoragePath} (below : Below session.path.val path.val)

include below

theorem confined_withBlob (openable : Openable service path.val target) :
    Confined session service ((service.withBlob slot path target writable).facing outside) where
  directories opens := .inl opens
  blobs opens := by
    rcases get?_set_cases opens with ⟨-, stamped⟩ | ⟨-, before⟩
    · cases stamped
      refine .inr ?_
      cases target with
      | mutable _ entry | boot entry => exact ⟨below, entry, openable.1, Subtype.ext openable.2.1⟩
    · exact .inl before
  removed held := .inl held
  made held := .inl held

theorem confined_withEntry (free : service.mutableEntries.firstFree = some slot) :
    Confined session service ((service.withEntry now slot kind path).facing outside) where
  directories opens := .inl opens
  blobs opens := .inl opens
  removed {index entry} held := by
    refine .inl (Eq.trans (get?_set_ne _ ?_ _) held)
    rintro rfl
    exact nomatch held.symm.trans (firstFree_eq_some free).2
  made held := by
    rcases get?_set_cases held with ⟨-, stamped⟩ | ⟨-, before⟩
    · cases stamped
      cases kind <;> exact .inr below
    · exact .inl before

theorem confined_withoutEntry
    (found : findMutableEntry service.mutableEntries path.val = some index) :
    Confined session service ((service.withoutEntry index path).facing outside) := by
  rw [Service.withoutEntry, release_frame]
  refine ⟨fun opens => .inl opens, fun opens => .inl opens, ?_, ?_⟩
  · intro place entry held
    by_cases here : place = index
    · rcases findMutableEntry_eq_some found with ⟨same, there, named⟩
      rw [here, there] at held
      cases held
      exact .inr (named ▸ below)
    · exact .inl (Eq.trans (get?_set_ne _ (Ne.symm here) _) held)
  · intro place entry held
    rcases get?_set_cases held with ⟨-, wrong⟩ | ⟨-, before⟩
    · cases wrong
    · exact .inl before

theorem confined_withDirectory (shape : validDirectoryPath path.val = true) :
    Confined session service ((service.withDirectory slot path writable).facing outside) where
  directories opens := by
    rcases get?_set_cases opens with ⟨-, stamped⟩ | ⟨-, before⟩
    · cases stamped
      exact .inr ⟨below, shape⟩
    · exact .inl before
  blobs opens := .inl opens
  removed held := .inl held
  made held := .inl held

end

/-- Whatever a request on a directory session does is below the session's path. -/
theorem confined_of_moves (held : service.directorySessions.get? sessionIndex = some session)
    (moves : Moves service (.directory sessionIndex message now) after) :
    Confined session service after := by
  have same {other : DirectorySession} (serving : Serving service sessionIndex other) :
      other = session := Option.some.inj (serving.held.symm.trans held)
  cases moves with
  | quiet => exact ⟨.inl, .inl, .inl, .inl⟩
  | blobReleased =>
    refine ⟨fun opens => .inl opens, fun opens => ?_, fun held => .inl held, fun held =>
      .inl held⟩
    exact .inl (held_of_set_none opens)
  | directoryReleased =>
    refine ⟨fun opens => ?_, fun opens => .inl opens, fun held => .inl held, fun held =>
      .inl held⟩
    exact .inl (held_of_set_none opens)
  | created serving _ gates =>
    cases same serving
    have planned := createGates_eq_ok gates
    rcases planned.composed with ⟨name, -, composed⟩
    exact confined_withEntry (below_composeChildPath composed) planned.free
  | removed serving _ gates =>
    cases same serving
    have planned := removeGates_eq_ok gates
    rcases planned.composed with ⟨name, kind, composed, -⟩
    exact confined_withoutEntry (below_composeChildPath composed) planned.found
  | fileOpened serving _ gates =>
    cases same serving
    rcases openFileGates_eq_ok gates with ⟨planned, openable⟩
    rcases planned.composed with ⟨name, -, composed⟩
    exact confined_withBlob (below_composeChildPath composed) openable
  | @fileCreated blobSlot _ _ slot _ _ path serving _ gates outside =>
    cases same serving
    rcases openFileGates_eq_ok gates with ⟨planned, -, -, -, free⟩
    rcases planned.composed with ⟨name, -, composed⟩
    have below := below_composeChildPath composed
    have made : Confined session service
      ((service.withEntry now slot .file path).facing outside) :=
      confined_withEntry below free
    exact made.trans (confined_withBlob below (openable_withEntry now path free)) rfl
  | directoryTraversed serving _ gates =>
    cases same serving
    rcases traverseGates_eq_ok gates with ⟨planned, -⟩
    rcases planned.composed with ⟨relative, composed⟩
    apply confined_withDirectory (below_composeRelativePath composed)
    rw [(composeRelativePath_eq_some composed).2]
    change validDirectoryPath (_ ++ [slash]) = true
    rw [validDirectoryPath, endsWithSlash_append (cons_ne_nil slash [])]
    exact Bool.or_true _
  | fileTraversed serving _ gates =>
    cases same serving
    rcases traverseGates_eq_ok gates with ⟨planned, openable, -⟩
    rcases planned.composed with ⟨relative, composed⟩
    exact confined_withBlob (below_composeRelativePath composed) openable

end

/-! ## Chains of requests -/

/-- The sessions reached from one by traversals, each requested on the one before. -/
inductive Reaches (start : DirectorySession) : DirectorySession → Prop
  | start : Reaches start start
  | traverse {opened : DirectorySession} {after : Service} (reached : Reaches start session)
      (held : service.directorySessions.get? sessionIndex = some session)
      (stepped : step service (.directory sessionIndex message now) = some after)
      (opens : after.directorySessions.get? slot = some opened)
      (fresh : service.directorySessions.get? slot ≠ some opened) : Reaches start opened

theorem Reaches.stem {start : DirectorySession} (reached : Reaches start session)
    (shape : validDirectoryPath start.path.val = true) :
    start.path.val <+: session.path.val ∧ validDirectoryPath session.path.val = true := by
  induction reached with
  | start => exact ⟨prefix_rfl, shape⟩
  | traverse reached held stepped opens fresh induction =>
    have confined := confined_of_moves held (step_moves stepped)
    rcases confined.directories opens with before | ⟨below, valid⟩
    · exact absurd before fresh
    · exact ⟨induction.1.trans below.stem, valid⟩

/-- Directory capabilities confine their holder. -/
theorem directorySession_confines (start : DirectorySession)
    (shape : validDirectoryPath start.path.val = true) :
    (∀ name kind path, composeChildPath start.path.val name kind = some path →
      path.val = start.path.val ++ name ++ kindEnding kind) ∧
    (∀ relative kind path, composeRelativePath start.path.val relative kind = some path →
      path.val = start.path.val ++ relative ++ kindEnding kind ∧
        ∀ component ∈ relative.splitOn slash, validComponent component = true) ∧
    ∀ session, Reaches start session →
      start.path.val <+: session.path.val ∧ validDirectoryPath session.path.val = true ∧
      ∀ service after sessionIndex message now,
        service.directorySessions.get? sessionIndex = some session →
        step service (.directory sessionIndex message now) = some after →
        Confined start service after := by
  refine ⟨?_, ?_, ?_⟩
  · exact fun name kind path composed => (composeChildPath_eq_some composed).2.2
  · intro relative kind path composed
    rcases composeRelativePath_eq_some composed with ⟨valid, made⟩
    rw [storageRelativeComponentsValid, Bool.and_eq_true, all_eq_true] at valid
    exact ⟨made, valid.2⟩
  intro session reached
  rcases reached.stem shape with ⟨stem, valid⟩
  refine ⟨stem, valid, fun service after sessionIndex message now held stepped => ?_⟩
  have confined := confined_of_moves held (step_moves stepped)
  exact {
    directories := fun opens => (confined.directories opens).imp_right
      fun new => ⟨new.1.of_stem stem, new.2⟩
    blobs := fun opens => (confined.blobs opens).imp_right fun new => ⟨new.1.of_stem stem, new.2⟩
    removed := fun held => (confined.removed held).imp_right (·.of_stem stem)
    made := fun held => (confined.made held).imp_right (·.of_stem stem) }

namespace Sample

/-- A service with a session on `home/` and a directory below it. -/
def homely : Service := serve service [openDirectory "home/" true, create 0 .directory "d"]

def homeSession : DirectorySession :=
  ⟨1, path "home/", ownerPath service.mounts (ascii "home/"), true⟩

end Sample

open Sample in
theorem directorySession_confines_of_sample :
    validDirectoryPath homeSession.path.val = true ∧
      Confined homeSession homely (next homely (traverse 0 "d" true true)) := by
  have shape : validDirectoryPath homeSession.path.val = true := by decide +kernel
  have stepped : step homely (traverse 0 "d" true true) =
      some (next homely (traverse 0 "d" true true)) := step_next (by decide +kernel)
  exact ⟨shape, ((directorySession_confines homeSession shape).2.2 homeSession .start).2.2 homely _
    0 _ 1 (by decide +kernel) stepped⟩

/-! ## Sessions for reading -/

/-- The sessions that were opened are not for writing. -/
def OpensForReading (writable : Session → Bool) (before after : Slots Session capacity) : Prop :=
  ∀ {slot opened}, after.get? slot = some opened →
    before.get? slot = some opened ∨ writable opened = false

theorem opensForReading_set (reads : writable session = false) :
    OpensForReading writable before (before.set slot (some session)) := by
  intro place opened opens
  rcases get?_set_cases opens with ⟨-, stamped⟩ | ⟨-, held⟩
  · cases stamped
    exact .inr reads
  · exact .inl held

/-- No entry changes, and nothing is opened for writing. -/
structure OnlyReads (service after : Service) : Prop where
  entries : after.mutableEntries = service.mutableEntries
  directories : OpensForReading (·.writable) service.directorySessions after.directorySessions
  blobs : OpensForReading (·.writable) service.blobSessions after.blobSessions

theorem onlyReads_of_moves {after : Service} (reads : session.writable = false)
    (held : service.directorySessions.get? sessionIndex = some session)
    (moves : Moves service (.directory sessionIndex message now) after) :
    OnlyReads service after := by
  have denied {other : DirectorySession} (serving : Serving service sessionIndex other) :
      ¬other.writable = true := by
    cases serving.held.symm.trans held
    simp [reads]
  have stamped {mounts endpoint path writable} (target : BlobTarget) (none : ¬writable = true) :
      (stampTarget mounts endpoint path writable target).writable = false := by
    cases target with
    | mutable => exact Bool.eq_false_iff.mpr none
    | boot => rfl
  cases moves with
  | quiet => exact ⟨rfl, .inl, .inl⟩
  | blobReleased => exact ⟨rfl, .inl, fun opens => .inl (held_of_set_none opens)⟩
  | directoryReleased => exact ⟨rfl, fun opens => .inl (held_of_set_none opens), .inl⟩
  | created serving _ gates => exact absurd (createGates_eq_ok gates).writable (denied serving)
  | removed serving _ gates => exact absurd (removeGates_eq_ok gates).writable (denied serving)
  | fileCreated serving _ gates => exact absurd (openFileGates_eq_ok gates).2.1 (denied serving)
  | fileOpened serving _ gates =>
    have planned := (openFileGates_eq_ok gates).1
    exact ⟨rfl, .inl, opensForReading_set (stamped _ (denied serving ∘ planned.writable))⟩
  | fileTraversed serving _ gates | directoryTraversed serving _ gates =>
    have asked := fun wanted => denied serving ((traverseGates_eq_ok gates).1.writable wanted).1
    first
    | exact ⟨rfl, .inl, opensForReading_set (stamped _ asked)⟩
    | exact ⟨rfl, opensForReading_set (by simpa using asked), .inl⟩

/-- Whatever is reached from a directory that was opened for reading is for reading only. -/
theorem reading_session_never_writes {start session : DirectorySession}
    (reached : Reaches start session) (reads : start.writable = false) :
    session.writable = false ∧ ∀ service after sessionIndex message now,
      service.directorySessions.get? sessionIndex = some session →
      step service (.directory sessionIndex message now) = some after →
      OnlyReads service after := by
  have closed : session.writable = false := by
    induction reached with
    | start => exact reads
    | traverse _ held stepped opens fresh induction =>
      exact ((onlyReads_of_moves induction held (step_moves stepped)).directories
        opens).resolve_left fresh
  exact ⟨closed, fun _ _ _ _ _ held stepped => onlyReads_of_moves closed held (step_moves stepped)⟩

namespace Sample

def reading : Service := next homely (openDirectory "home/" false)

/-- A session for reading on `home/` has opened one on the directory below it. -/
def deeper : Service := next reading (traverse 1 "d" true false)

end Sample

open Sample in
theorem reading_session_never_writes_home :
    OnlyReads deeper (next deeper (create 2 .directory "e")) := by
  have reached : Reaches ⟨3, path "home/", homeSession.mountPath, false⟩
      ⟨5, path "home/d/", homeSession.mountPath, false⟩ :=
    .traverse .start (by decide +kernel : reading.directorySessions.get? 1 = _)
      (step_next (by decide +kernel) : step reading (traverse 1 "d" true false) = some deeper)
      (by decide +kernel : deeper.directorySessions.get? 2 = _) (by decide +kernel)
  exact (reading_session_never_writes reached rfl).2 deeper _ 2 _ 1 (by decide +kernel)
    (step_next (by decide +kernel))

end ServiceOS.Storage
