import ServiceOS.Storage.FileMemory

/-! # Read-only mounts

The owner of a path is looked up when an entry is created and at the two ends of a rename.
A removal or a write trusts the session, which was judged when it was opened. -/

namespace ServiceOS.Storage

open ByteString Fallible Service Execution Slots List StorageTag

/-! ## Paths below a path that can be written -/

section

variable {mounts : MountTable}

/-- A path can be written if one it extends can be, and no read-only mount is between. -/
theorem isMutablePath_below (writable : isMutablePath mounts stem = true) (within : stem <+: path)
    (clear : ∀ mount ∈ mounts.values, mount.writable = false → isBelow mount.path.val stem = true →
      ¬mount.path.val <+: path) : isMutablePath mounts path = true := by
  rw [isMutablePath, mountAllowsWrite, Option.any_eq_true] at writable
  rcases writable with ⟨mount, resolved, writable⟩
  rcases resolveMount_mem resolved with ⟨member, ownsStem⟩
  rcases resolveMount_isSome member (ownsStem.trans within) with ⟨owner, owns⟩
  rcases resolveMount_mem owns with ⟨ownerMember, ownsPath⟩
  rw [isMutablePath, mountAllowsWrite, owns]
  by_cases below : isBelow owner.path.val stem = true
  · by_contra readOnly
    exact clear owner ownerMember (Bool.not_eq_true _ ▸ readOnly) below ownsPath
  -- The owner of the longer path is the owner of the stem.
  have ownerOwnsStem : owner.path.val <+: stem := by
    apply prefix_of_prefix_length_le ownsPath within
    by_contra longer
    refine below (isBelow_iff.mpr ⟨Nat.lt_of_not_le longer, ?_⟩)
    exact prefix_of_prefix_length_le within ownsPath (Nat.le_of_not_le longer)
  have shorter := resolveMount_longest resolved ownerMember ownerOwnsStem
  have longer := resolveMount_longest owns member (ownsStem.trans within)
  have same : owner.path = mount.path := Subtype.ext (shorter.eq_of_length_le longer.length_le)
  rw [eq_of_path_eq ownerMember member same]
  exact writable

theorem endsWithSlash_mountPath (mount : StorageMount) (nonempty : mount.path.val ≠ []) :
    endsWithSlash mount.path.val = true := by
  have valid := mount.valid
  rw [storageValidateMountPath, if_neg nonempty] at valid
  split at valid
  · cases valid
  rename_i shape
  rw [Bool.or_eq_true, not_or, Bool.not_eq_true', Bool.not_eq_false] at shape
  exact shape.1

theorem eq_of_mount_below {mount : StorageMount}
    (plain : slash ∉ name) (below : isBelow mount.path.val stem = true)
    (within : mount.path.val <+: stem ++ name ++ kindEnding kind) :
    mount.path.val = stem ++ name ++ kindEnding kind ∧ kind = .directory := by
  rcases isBelow_iff.mp below with ⟨longer, rest, made⟩
  have filled : rest ≠ [] := by
    rintro rfl
    rw [← made, append_nil] at longer
    exact Nat.lt_irrefl _ longer
  have ends := endsWithSlash_mountPath mount (by
    rw [← made]
    exact append_ne_nil_of_right_ne_nil stem filled)
  rw [← made, endsWithSlash_append filled] at ends
  rw [← made, append_assoc, prefix_append_right_inj] at within
  rw [← made, append_assoc, append_right_inj]
  have notInName : ¬rest <+: name := by
    intro inside
    rw [endsWithSlash_of_not_mem fun member => plain (inside.subset member)] at ends
    cases ends
  cases kind with
  | file =>
    rw [kindEnding, append_nil] at within
    exact absurd within notInName
  | directory =>
    rcases prefix_concat_iff.mp within with whole | inside
    · exact ⟨whole, rfl⟩
    · exact absurd inside notInName

theorem isMutablePath_child (writable : isMutablePath mounts stem = true) (plain : slash ∉ name)
    (clear : kind = .directory → ∀ mount ∈ mounts.values,
      mount.path.val = stem ++ name ++ kindEnding kind → mount.writable = true) :
    isMutablePath mounts (stem ++ name ++ kindEnding kind) = true := by
  apply isMutablePath_below writable
  · rw [append_assoc]
    exact prefix_append stem _
  intro mount member readOnly below within
  rcases eq_of_mount_below plain below within with ⟨same, directory⟩
  exact nomatch readOnly.symm.trans (clear directory mount member same)

end

/-! ## The condition -/

def SessionsWritable (service : Service) : Prop :=
  (∀ session ∈ service.directorySessions.values, session.writable = true →
    isMutablePath service.mounts session.path.val = true) ∧
  ∀ session ∈ service.blobSessions.values, session.writable = true →
    ∀ entry ∈ service.mutableEntries.get? session.entryIndex,
      isMutablePath service.mounts entry.path.val = true
deriving Decidable

/-- No entry below the source of a rename is on a read-only mount within the source, or is
moved to one within the destination. -/
def TreeWritable (service : Service) (source dest : Octets) : Prop :=
  ∀ mount ∈ service.mounts.values, mount.writable = false →
    ∀ entry ∈ service.mutableEntries.values, isBelow entry.path.val source = true →
      (isBelow mount.path.val source = true → mount.matchesPrefix entry.path.val = false) ∧
      (isBelow mount.path.val dest = true →
        mount.matchesPrefix (dest ++ entry.path.val.drop source.length) = false)
deriving Decidable

/-- What the requests do not check. A mount or unmount leaves no session that may write on a
read-only mount, no read-only mount is within a directory that is renamed where it has entries,
and none is at a directory that is removed. -/
def MountsRespected (service : Service) : Event → Prop
  | .root message now =>
    (message.tag = mountRequest.code →
      ∀ planned ∈ (mountGates service message).toOption,
        SessionsWritable { service with mounts := planned.2 }) ∧
    (message.tag = unmountRequest.code →
      ∀ stem ∈ (unmountOperand message).toOption,
        ∀ planned ∈ (unmountGates service stem.val (message.word 1)).toOption,
          SessionsWritable (service.withoutMount stem.val planned.1 planned.2)) ∧
    (message.tag = renameRequest.code →
      ∀ renamed ∈ acceptedRename? service message now,
        TreeWritable service renamed.1.val renamed.2.val)
  | .directory sessionIndex message _ =>
    message.tag = directoryRemoveRequest.code →
      ∀ session ∈ service.directorySessions.get? sessionIndex,
        ∀ planned ∈ (removeGates service session message).toOption,
          ∀ mount ∈ service.mounts.values, mount.path.val = planned.2.val → mount.writable = true
  | _ => True

instance decidableMountsRespected (service : Service) :
    ∀ event, Decidable (MountsRespected service event)
  | .root _ _ => inferInstanceAs (Decidable (_ ∧ _ ∧ _))
  | .directory _ _ _ => inferInstanceAs (Decidable (_ → _))
  | .blob _ _ _ => .isTrue trivial
  | .blobClosed _ => .isTrue trivial
  | .directoryClosed _ => .isTrue trivial

/-! ## Sessions stay on writable mounts -/

variable {searchIndex : SearchIndex} {mutableEntries : EntryTable} {after : Service}

section

theorem SessionsWritable.directory (writable : SessionsWritable service)
    (held : service.directorySessions.get? place = some session)
    (writes : session.writable = true) : isMutablePath service.mounts session.path.val = true :=
  writable.1 session (mem_values.mpr ⟨place, held⟩) writes

theorem SessionsWritable.blob (writable : SessionsWritable service)
    (held : service.blobSessions.get? place = some session) (writes : session.writable = true)
    (there : service.mutableEntries.get? session.entryIndex = some entry) :
    isMutablePath service.mounts entry.path.val = true :=
  writable.2 session (mem_values.mpr ⟨place, held⟩) writes entry there

theorem sessionsWritable_of
    (directories : ∀ place session, after.directorySessions.get? place = some session →
      session.writable = true → isMutablePath after.mounts session.path.val = true)
    (blobs : ∀ place session, after.blobSessions.get? place = some session →
      session.writable = true → ∀ entry, after.mutableEntries.get? session.entryIndex = some entry →
      isMutablePath after.mounts entry.path.val = true) : SessionsWritable after :=
  ⟨forall_values.mpr directories, forall_values.mpr blobs⟩

section

variable (writable : SessionsWritable service)

include writable

theorem SessionsWritable.of_subtable (mounts : after.mounts = service.mounts)
    (directories : ∀ {place session}, after.directorySessions.get? place = some session →
      service.directorySessions.get? place = some session)
    (blobs : ∀ {place session}, after.blobSessions.get? place = some session →
      service.blobSessions.get? place = some session)
    (entries : ∀ {place entry}, after.mutableEntries.get? place = some entry →
      service.mutableEntries.get? place = some entry) : SessionsWritable after := by
  apply sessionsWritable_of
  · intro place session held writes
    rw [mounts]
    exact writable.directory (directories held) writes
  intro place session held writes entry there
  rw [mounts]
  exact writable.blob (blobs held) writes (entries there)

theorem SessionsWritable.facing (outside : Outside) : SessionsWritable (service.facing outside) :=
  writable.of_subtable rfl id id id

theorem SessionsWritable.withDirectory
    (judged : writes = true → isMutablePath service.mounts path.val = true) :
    SessionsWritable (service.withDirectory slot path writes) := by
  refine sessionsWritable_of ?_ fun place session held writes entry => writable.blob held writes
  intro place session held sessionWrites
  rcases get?_set_cases held with ⟨-, made⟩ | ⟨-, before⟩
  · cases made
    exact judged sessionWrites
  · exact writable.directory before sessionWrites

theorem SessionsWritable.withBlob (openable : Openable service path.val target)
    (judged : writes = true → isMutablePath service.mounts path.val = true) :
    SessionsWritable (service.withBlob slot path target writes) := by
  refine sessionsWritable_of (fun place session held => writable.directory held) ?_
  intro place session held sessionWrites entry there
  rcases get?_set_cases held with ⟨-, made⟩ | ⟨-, before⟩
  · cases made
    cases target with
    | mutable index opened =>
      have same : opened = entry := Option.some.inj (openable.1.symm.trans there)
      rw [← same, openable.2.1]
      exact judged sessionWrites
    | boot => cases sessionWrites
  · exact writable.blob before sessionWrites there

theorem SessionsWritable.withEntry (judged : isMutablePath service.mounts path.val = true) :
    SessionsWritable (service.withEntry now slot kind path) := by
  refine sessionsWritable_of (fun place session held => writable.directory held) ?_
  intro place session held writes entry there
  rcases get?_set_cases there with ⟨-, made⟩ | ⟨-, before⟩
  · cases made
    cases kind <;> exact judged
  · exact writable.blob held writes before

end

theorem renamed_writable (done : RenameDone service source dest now mutableEntries searchIndex)
    (tree : TreeWritable service source.val dest.val)
    (held : service.mutableEntries.get? place = some entry)
    (renamed : Renamed source.val entry.path.val) :
    isMutablePath service.mounts entry.path.val = true ∧
      isMutablePath service.mounts (dest.val ++ entry.path.val.drop source.val.length) = true := by
  rcases renamed with self | ⟨-, below⟩
  · rw [self, drop_length, append_nil]
    exact ⟨done.planned.sourceMutable, done.planned.destMutable⟩
  have clear (mount : StorageMount) (member : mount ∈ service.mounts.values)
      (readOnly : mount.writable = false) :=
    tree mount member readOnly entry (mem_values.mpr ⟨place, held⟩) below
  constructor
  · apply isMutablePath_below done.planned.sourceMutable (isBelow_iff.mp below).2
    intro mount member readOnly nested within
    have other := (clear mount member readOnly).1 nested
    rw [matchesPrefix_iff.mpr within] at other
    cases other
  apply isMutablePath_below done.planned.destMutable (prefix_append _ _)
  intro mount member readOnly nested within
  have other := (clear mount member readOnly).2 nested
  rw [matchesPrefix_iff.mpr within] at other
  cases other

structure Guarded (service : Service) : Prop where
  sessions : SessionsWritable service
  root : HasBootRoot service.mounts
  kept : Kept service.mutableEntries service.memory

theorem SessionsWritable.child (writable : SessionsWritable service)
    (held : service.directorySessions.get? place = some session) (writes : session.writable = true)
    (composed : composeChildPath session.path.val name .file = some path) :
    isMutablePath service.mounts path.val = true := by
  rcases composeChildPath_eq_some composed with ⟨-, plain, made⟩
  rw [made]
  exact isMutablePath_child (writable.directory held writes) plain nofun

theorem sessionsWritable_of_moves (moves : Moves service event after)
    (allowed : MountsRespected service event) (writable : SessionsWritable service)
    (root : HasBootRoot service.mounts) : SessionsWritable after := by
  cases moves with
  | quiet _ outside => exact writable.facing outside
  | indexed => exact writable.of_subtable rfl id id id
  | opened gates =>
    apply SessionsWritable.facing (writable.withBlob (openGates_eq_ok gates).target _)
    exact fun wrong => nomatch wrong
  | directoryOpened gates outside =>
    exact (writable.withDirectory (directoryOpenGates_eq_ok gates).mutablePath).facing outside
  | mounted tag gates outside =>
    have writable := allowed.1 tag _ (by rw [gates]; rfl)
    exact writable.facing outside
  | mountUndone tag gates =>
    rcases mountGates_eq_ok gates with ⟨mount, planned, -⟩
    exact writable.of_subtable (planned.undone root) id id id
  | unmounted tag operand gates outside =>
    have writable := allowed.2.1 tag _ (by rw [operand]; rfl) _ (by rw [gates]; rfl)
    exact writable.facing outside
  | @renamed source message now dest status mutableEntries searchIndex tag operands done =>
    rcases renameRequest_cases operands done with ⟨rfl, -⟩ | ⟨accepted, renamed⟩
    · exact writable.of_subtable rfl id id id
    have tree := allowed.2.2 tag (source, dest) accepted
    refine sessionsWritable_of (fun place session held => writable.directory held) ?_
    intro place session held writes moved there
    rcases renamed.before there with ⟨entry, before, ⟨rfl, -⟩ | ⟨within, named, -⟩⟩
    · exact writable.blob held writes before
    · rw [named]
      exact (renamed_writable renamed tree before within).2
  | repaired =>
    rw [releaseAll_frame]
    exact writable.of_subtable rfl id id held_of_releaseAll
  | blobReleased => exact writable.of_subtable rfl id held_of_set_none id
  | directoryReleased => exact writable.of_subtable rfl held_of_set_none id id
  | created serving tag gates outside =>
    exact (writable.withEntry (createGates_eq_ok gates).mutablePath).facing outside
  | removed =>
    rw [Service.withoutEntry, release_frame]
    exact writable.of_subtable rfl id id held_of_set_none
  | fileOpened serving tag gates outside =>
    rcases openFileGates_eq_ok gates with ⟨planned, openable⟩
    rcases planned.composed with ⟨name, -, composed⟩
    apply (writable.withBlob openable _).facing outside
    exact fun writes => writable.child serving.held (planned.writable writes) composed
  | @fileCreated blobSlot sessionIndex now slot message session path serving tag gates outside =>
    rcases openFileGates_eq_ok gates with ⟨planned, -, judged, -, free⟩
    have made : SessionsWritable (service.withEntry now slot .file path) :=
      writable.withEntry judged
    exact (made.withBlob (openable_withEntry now path free) fun _ => judged).facing outside
  | directoryTraversed serving tag gates outside =>
    rcases traverseGates_eq_ok gates with ⟨planned, -⟩
    exact (writable.withDirectory fun writes => (planned.writable writes).2).facing outside
  | fileTraversed serving tag gates outside =>
    rcases traverseGates_eq_ok gates with ⟨planned, openable, -⟩
    exact (writable.withBlob openable fun writes => (planned.writable writes).2).facing outside
  | @wrote sessionIndex message bytes now session entry grown between held gates grows accepted
      outside =>
    have planned := writeGates_eq_ok gates
    rcases ensureMutableCapacity_answers grows with ⟨handle, capacity, memory, rfl, rfl⟩
    refine sessionsWritable_of (fun place session held => writable.directory held) ?_
    intro place other heldNow writes written there
    have opened : ∃ same, service.blobSessions.get? place = some same ∧
        same.writable = true ∧ same.entryIndex = other.entryIndex := by
      rcases get?_set_cases heldNow with ⟨rfl, made⟩ | ⟨-, before⟩
      · cases made
        exact ⟨session, held, writes, rfl⟩
      · exact ⟨other, before, writes, rfl⟩
    rcases opened with ⟨same, before, writes, index⟩
    rcases get?_set_cases there with ⟨here, made⟩ | ⟨-, thereBefore⟩
    · cases made
      have judged := writable.blob before writes (index ▸ here ▸ planned.held)
      exact judged
    · exact writable.blob before writes (index ▸ thereBefore)

end

/-! ## What changes -/

/-- All entries that change belong to writable mounts, by their paths before and after. -/
def OnlyWritable (service after : Service) : Prop :=
  ∀ place, slotState after place ≠ slotState service place →
    (∀ entry, service.mutableEntries.get? place = some entry →
      isMutablePath service.mounts entry.path.val = true) ∧
    ∀ entry, after.mutableEntries.get? place = some entry →
      isMutablePath service.mounts entry.path.val = true

/-- The requests that drop entries because of their mounts or of damage. -/
def dropsEntries : Event → Bool
  | .root message _ =>
    message.tag == unmountRequest.code || message.tag == fsckRequestTag
  | _ => false

section

theorem onlyWritable_of_same (entries : after.mutableEntries = service.mutableEntries)
    (objects : ∀ handle, after.memory.objects handle = service.memory.objects handle) :
    OnlyWritable service after := by
  intro place changed
  exact absurd (slotState_eq (congrArg (get? · place) entries) fun _ _ => objects _) changed

theorem onlyWritable_of_slot
    (entries : after.mutableEntries = service.mutableEntries.set slot value)
    (objects : ∀ place entry, service.mutableEntries.get? place = some entry → place ≠ slot →
      after.memory.objects entry.dataHandle = service.memory.objects entry.dataHandle)
    (before : ∀ entry, service.mutableEntries.get? slot = some entry →
      isMutablePath service.mounts entry.path.val = true)
    (later : ∀ entry, value = some entry → isMutablePath service.mounts entry.path.val = true) :
    OnlyWritable service after := by
  intro place changed
  by_cases here : place = slot
  · refine ⟨here ▸ before, fun entry held => ?_⟩
    rw [entries] at held
    rcases get?_set_cases held with ⟨-, made⟩ | ⟨other, -⟩
    · exact later entry made
    · exact absurd here other
  · refine absurd (slotState_eq ?_ fun entry held => objects place entry held here) changed
    rw [entries, get?_set_ne _ (Ne.symm here)]

theorem onlyWritable_withEntry (now : Nat) (kept : Kept service.mutableEntries service.memory)
    (free : service.mutableEntries.firstFree = some slot)
    (judged : isMutablePath service.mounts path.val = true)
    (entries : after.mutableEntries = (service.withEntry now slot kind path).mutableEntries)
    (objects : after.memory.objects = (service.withEntry now slot kind path).memory.objects) :
    OnlyWritable service after := by
  apply onlyWritable_of_slot entries
  · intro place entry held _
    rw [objects]
    cases kind with
    | directory => rfl
    | file => exact if_neg (kept.ne_next held)
  · intro entry held
    exact nomatch held.symm.trans (firstFree_eq_some free).2
  intro entry made
  cases made
  cases kind <;> exact judged

theorem onlyWritable_renamed (done : RenameDone service source dest now mutableEntries searchIndex)
    (tree : TreeWritable service source.val dest.val) (outside : Outside) :
    OnlyWritable service ({ service with
      mutableEntries := mutableEntries
      searchIndex := searchIndex }.facing outside) := by
  intro place changed
  refine ⟨fun entry held => ?_, fun moved held => ?_⟩
  · rcases done.later held with ⟨moved, there, ⟨rfl, -⟩ | ⟨renamed, -⟩⟩
    · exact (changed (slotState_eq (there.trans held.symm) fun _ _ => rfl)).elim
    · exact (renamed_writable done tree held renamed).1
  rcases done.before held with ⟨entry, there, ⟨rfl, -⟩ | ⟨renamed, named, -⟩⟩
  · exact (changed (slotState_eq (Eq.trans held there.symm) fun _ _ => rfl)).elim
  · rw [named]
    exact (renamed_writable done tree there renamed).2

theorem onlyWritable_of_moves (moves : Moves service event after)
    (allowed : MountsRespected service event) (guarded : Guarded service)
    (other : dropsEntries event = false) : OnlyWritable service after := by
  have kept := guarded.kept
  cases moves with
  | unmounted tag =>
    rw [dropsEntries, tag] at other
    cases other
  | @renamed source message now dest status mutableEntries searchIndex tag operands done outside =>
    rcases renameRequest_cases operands done with ⟨rfl, -⟩ | ⟨accepted, renamed⟩
    · exact onlyWritable_of_same rfl fun _ => rfl
    · exact onlyWritable_renamed renamed (allowed.2.2 tag (source, dest) accepted) outside
  | repaired tag =>
    rw [dropsEntries, tag] at other
    cases other
  | @created slot sessionIndex now message session kind path serving tag gates =>
    have planned := createGates_eq_ok gates
    exact onlyWritable_withEntry now kept planned.free planned.mutablePath rfl rfl
  | @removed index sessionIndex now message session path serving tag gates =>
    have planned := removeGates_eq_ok gates
    rcases planned.composed with ⟨name, kind, composed, -⟩
    rcases composeChildPath_eq_some composed with ⟨-, plain, made⟩
    have clear := allowed tag session serving.held (index, path) (by rw [gates]; rfl)
    have judged : isMutablePath service.mounts path.val = true := by
      rw [made]
      apply isMutablePath_child (guarded.sessions.directory serving.held planned.writable) plain
      exact fun _ mount member same => clear mount member (same.trans made.symm)
    apply onlyWritable_of_slot (congrArg Service.mutableEntries (release_frame service index))
    · exact fun place entry held different => objects_release kept held different
    · intro entry held
      rcases findMutableEntry_eq_some planned.found with ⟨same, there, named⟩
      cases held.symm.trans there
      rw [named]
      exact judged
    · exact fun _ wrong => nomatch wrong
  | @fileCreated blobSlot sessionIndex now slot message session path serving tag gates =>
    rcases openFileGates_eq_ok gates with ⟨planned, -, judged, -, free⟩
    exact onlyWritable_withEntry now kept free judged rfl rfl
  | @wrote sessionIndex message bytes now session entry grown between held gates grows accepted
      outside =>
    have planned := writeGates_eq_ok gates
    rcases write_grows kept planned grows with ⟨frame, grown⟩
    have judged := guarded.sessions.blob held planned.writable planned.held
    rw [frame]
    apply onlyWritable_of_slot rfl
    · exact fun place other => grown.objects kept planned.held _ _
    · intro same there
      cases planned.held.symm.trans there
      exact judged
    intro same made
    cases made
    rw [grown.same]
    exact judged
  | _ => exact onlyWritable_of_same rfl fun _ => rfl

end

/-! ## Runs -/

theorem guarded_of_moves (moves : Moves service event after)
    (allowed : MountsRespected service event) (guarded : Guarded service) : Guarded after where
  sessions := sessionsWritable_of_moves moves allowed guarded.sessions guarded.root
  root := hasBootRoot_of_moves moves guarded.root
  kept := kept_of_moves moves guarded.kept

/-- Read-only mounts are never modified. -/
theorem requests_change_only_writable (start : Service) (events : List Event) (service : Service)
    (event : Event) (after : Service) (noDirectories : start.directorySessions = .empty _)
    (noBlobs : start.blobSessions = .empty _) (root : HasBootRoot start.mounts)
    (kept : Kept start.mutableEntries start.memory)
    (execution : run step start events = some service) (stepped : step service event = some after)
    (allowed : EveryStep step MountsRespected start (events ++ [event]))
    (other : dropsEntries event = false) : OnlyWritable service after := by
  have started : Guarded start := by
    refine ⟨⟨?_, ?_⟩, root, kept⟩
    · rw [noDirectories]
      exact nofun
    · rw [noBlobs]
      exact nofun
  rcases allowed.of_append execution with ⟨before, now⟩
  have guarded : Guarded service :=
    everyStep_preserves Guarded MountsRespected
      (fun stepped respected => guarded_of_moves (step_moves stepped) respected) execution before
      started
  exact onlyWritable_of_moves (step_moves stepped) now.1 guarded other

namespace Sample

/-- A mount comes while sessions are open elsewhere, and entries are made, written, moved and
removed. -/
def guardedRun : List Event :=
  [openDirectory "home/" true, mount "usb/" .ephemeral 0, openFile 0 "a" true true,
    write 0 0 3 "abc", create 0 .directory "d", rename "home/a" "home/d/b"]

/-- A directory becomes a read-only mount while sessions for writing are open in it. -/
def shadowed : Service :=
  serve service [openDirectory "home/" true, create 0 .directory "d", openDirectory "home/d/" true,
    openFile 1 "a" true true, mount "home/d/" .ephemeral 0]

def nestedTree : Service :=
  serve service [openDirectory "home/" true, create 0 .directory "d", openDirectory "home/d/" true,
    create 1 .directory "e", openDirectory "home/d/e/" true, create 2 .file "a",
    closeDirectory 2, mount "home/d/e/" .ephemeral 0]

/-- An entry of a slot changes although its owner is read-only. -/
def changesReadOnly (service after : Service) (place : Nat) : Bool :=
  slotState after place != slotState service place &&
    (service.mutableEntries.get? place).any fun entry =>
      !isMutablePath service.mounts entry.path.val

theorem not_onlyWritable {service : Service} (place : Nat)
    (changes : changesReadOnly service after place = true) : ¬OnlyWritable service after := by
  intro only
  rw [changesReadOnly, Bool.and_eq_true, bne_iff_ne, Option.any_eq_true] at changes
  rcases changes with ⟨changed, entry, held, readOnly⟩
  rw [(only place changed).1 entry held] at readOnly
  cases readOnly

end Sample

open Sample in
theorem requests_change_only_writable_of_sample :
    ∃ after, step (serve service guardedRun) (rename "home/d/" "home/e/") = some after ∧
      OnlyWritable (serve service guardedRun) after := by
  have kept : Kept service.mutableEntries service.memory := kept_empty rfl
  have root : HasBootRoot service.mounts := hasBootRoot_of_found (by decide +kernel)
  have stepped : step (serve service guardedRun) (rename "home/d/" "home/e/") =
      some (next (serve service guardedRun) (rename "home/d/" "home/e/")) :=
    step_next (by decide +kernel)
  refine ⟨_, stepped, requests_change_only_writable service guardedRun _ _ _ rfl rfl root kept
    (run_serve (by decide +kernel)) stepped (by decide +kernel) rfl⟩

open Sample in
/-- Sessions that were opened before a read-only mount write and remove its entries, and a
rename moves them. -/
theorem requests_change_read_only :
    (step shadowed (remove 1 "a")).isSome = true ∧
      ¬OnlyWritable shadowed (next shadowed (remove 1 "a")) ∧
    (step shadowed (write 0 0 1 "x")).isSome = true ∧
      ¬OnlyWritable shadowed (next shadowed (write 0 0 1 "x")) ∧
    (step nestedTree (rename "home/d/" "home/f/")).isSome = true ∧
      ¬OnlyWritable nestedTree (next nestedTree (rename "home/d/" "home/f/")) :=
  ⟨by decide +kernel, not_onlyWritable 1 (by decide +kernel), by decide +kernel,
    not_onlyWritable 1 (by decide +kernel), by decide +kernel,
    not_onlyWritable 2 (by decide +kernel)⟩

end ServiceOS.Storage
