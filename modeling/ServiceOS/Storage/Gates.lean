import ServiceOS.Storage.Frame

/-! # What the gates of a request ensure -/

namespace ServiceOS.Storage

open ByteString Fallible Service StorageTag Slots List

variable {service : Service}

section

theorem lookup_eq_some (found : (findMutableEntry service.mutableEntries path).bind (fun index =>
      (service.mutableEntries.get? index).map (index, ·)) = some (index, entry)) :
    service.mutableEntries.get? index = some entry ∧ entry.path.val = path := by
  rcases Option.bind_eq_some_iff.mp found with ⟨place, position, held⟩
  rcases Option.map_eq_some_iff.mp held with ⟨other, there, pair⟩
  cases pair
  rcases findMutableEntry_eq_some position with ⟨same, heldToo, named⟩
  cases Option.some.inj (there.symm.trans heldToo)
  exact ⟨there, named⟩

theorem lookup_eq_none (missing : (findMutableEntry service.mutableEntries path).bind (fun index =>
      (service.mutableEntries.get? index).map (index, ·)) = none) :
    findMutableEntry service.mutableEntries path = none := by
  rcases found : findMutableEntry service.mutableEntries path with _ | index
  · rfl
  rcases findMutableEntry_eq_some found with ⟨entry, held, -⟩
  rw [found, Option.bind_some, held] at missing
  cases missing

end

/-- A file a session can be opened on: an entry, or a boot file no entry hides. -/
def Openable (service : Service) (path : Octets) : BlobTarget → Prop
  | .mutable index entry => service.mutableEntries.get? index = some entry ∧
      entry.path.val = path ∧ entry.kind = .file
  | .boot entry => entry ∈ service.entries ∧ entry.path.val = path ∧
      findMutableEntry service.mutableEntries path = none

theorem openable_boot (found : service.entries.find? (·.matches path) = some entry)
    (absent : findMutableEntry service.mutableEntries path = none) :
    Openable service path (.boot entry) :=
  have named := find?_some found
  ⟨mem_of_find?_eq_some found, eq_of_beq named, absent⟩

theorem bootDataFile_eq_ok (found : bootDataFile service path = .ok entry) :
    service.entries.find? (·.matches path) = some entry := by
  rw [bootDataFile] at found
  split at found
  · cases found
  · split at found <;> cases found
    assumption

/-! ## On the root channel -/

variable {searchIndex : SearchIndex} {mutableEntries : EntryTable}

section

structure OpenPlanned (service : Service) (path : Octets) (slot : Nat) (target : BlobTarget) :
    Prop where
  target : Openable service path target
  free : service.blobSessions.firstFree = some slot

variable {mounts : MountTable}

theorem openGates_eq_ok (gates : openGates service path = .ok (slot, target)) :
    OpenPlanned service path slot target := by
  rw [openGates] at gates
  split at gates
  next found =>
    split at gates
    · cases gates
    rename_i file
    split at gates <;> cases gates
    rcases lookup_eq_some found with ⟨held, named⟩
    exact ⟨⟨held, named, not_not.mp file⟩, by assumption⟩
  next missing =>
    split at gates
    · cases gates
    rename_i found
    split at gates
    · cases gates
    · split at gates <;> cases gates
      exact ⟨openable_boot found (lookup_eq_none missing), by assumption⟩

structure DirectoryOpenPlanned (service : Service) (path : Octets) (writable : Bool)
    (slot : Nat) : Prop where
  shape : validDirectoryPath path = true
  openable : directoryOpenable service.mounts service.entries service.mutableEntries path = true
  mutablePath : writable = true → isMutablePath service.mounts path = true
  free : service.directorySessions.firstFree = some slot

theorem directoryOpenGates_eq_ok (gates : directoryOpenGates service path writable = .ok slot) :
    DirectoryOpenPlanned service path writable slot := by
  rw [directoryOpenGates] at gates
  iterate 3 (split at gates; · cases gates)
  rename_i shape openable mutablePath
  split at gates <;> cases gates
  rw [Bool.not_eq_true', Bool.not_eq_false] at shape openable
  refine ⟨shape, openable, fun writable => ?_, by assumption⟩
  rw [writable, Bool.true_and, Bool.not_eq_true', Bool.not_eq_false] at mutablePath
  exact mutablePath

/-- A mount is added to a free slot, and no mount had its path. -/
structure MountPlanned (service : Service) (slot : Nat) (mounts : MountTable)
    (mount : StorageMount) : Prop where
  notBoot : mount.kind ≠ .boot
  fits : mount.path.val.length ≤ maxStoragePath
  absent : storageFindMountByPath service.mounts mount.path.val = none
  free : service.mounts.slots.firstFree = some slot
  slots : mounts.slots = service.mounts.slots.set slot (some mount)

theorem storageMountAdd_eq_ok {after : MountTable}
    (added : storageMountAdd mounts path kind flags authority = .ok (slot, after)) :
    ∃ mount : StorageMount, mount.path.val = path ∧ mount.kind = kind ∧ mount.flags = flags ∧
      storageFindMountByPath mounts path = none ∧ mounts.slots.firstFree = some slot ∧
      after.slots = mounts.slots.set slot (some mount) := by
  rw [storageMountAdd] at added
  split at added
  · split at added
    · cases added
    split at added
    · cases added
    rename_i absent
    split at added
    · cases added
    rename_i free
    split at added <;> cases added
    next mount made =>
      rcases path_slotInstall made with ⟨named, kinded, flagged⟩
      exact ⟨mount, named, kinded, flagged, absent, free, rfl⟩
  · cases added

theorem mountGates_eq_ok (gates : mountGates service message = .ok (slot, mounts)) :
    ∃ mount, MountPlanned service slot mounts mount ∧ mount.flags = message.word 2 := by
  rw [mountGates] at gates
  split at gates
  · cases gates
  rename_i path _
  dsimp only at gates
  split at gates
  · cases gates
  rename_i notBoot
  rcases storageMountAdd_eq_ok gates with ⟨mount, named, kinded, flagged, absent, free, slots⟩
  refine ⟨mount, ⟨kinded ▸ notBoot, ?_, named ▸ absent, free, slots⟩, flagged⟩
  rw [named]
  exact path.property

def HasBootRoot (mounts : MountTable) : Prop :=
  ∃ index mount, mounts.slots.get? index = some mount ∧ mount.path.val = []

theorem hasBootRoot_of_found
    (found : (storageFindMountByPath mounts []).isSome = true) : HasBootRoot mounts := by
  rcases Option.isSome_iff_exists.mp found with ⟨index, position⟩
  rcases storageFindMountByPath_eq_some position with ⟨mount, held, named⟩
  exact ⟨index, mount, held, named⟩

theorem ensureBootRoot_of_hasBootRoot (root : HasBootRoot mounts) :
    ensureBootRoot mounts = mounts := by
  rcases root with ⟨index, mount, held, named⟩
  rw [ensureBootRoot, if_neg]
  intro missing
  have differs := position_eq_none.mp (Option.isNone_iff_eq_none.mp missing) index mount held
  rw [named, beq_self_eq_true] at differs
  cases differs

section

variable (planned : MountPlanned service slot mounts mount)

include planned

theorem MountPlanned.get? (place : Nat) :
    mounts.slots.get? place = if place = slot then some mount
      else service.mounts.slots.get? place := by
  rw [planned.slots]
  split
  next here =>
    rw [here, get?_set_self _ (firstFree_eq_some planned.free).1]
  next other => exact get?_set_ne _ (Ne.symm other) _

theorem MountPlanned.hasBootRoot (root : HasBootRoot service.mounts) : HasBootRoot mounts := by
  rcases root with ⟨place, boot, held, named⟩
  refine ⟨place, boot, ?_, named⟩
  rw [planned.get?, if_neg]
  · exact held
  · rintro rfl
    exact nomatch held.symm.trans (firstFree_eq_some planned.free).2

/-- Taking the mount out again leaves the table as it was. -/
theorem MountPlanned.undone
    (root : HasBootRoot service.mounts) : ensureBootRoot (mounts.clear slot) = service.mounts := by
  have back : mounts.clear slot = service.mounts := by
    apply MountTable.ext
    apply ext_get?
    intro place
    rw [MountTable.clear, get?_set_none]
    split
    next here => rw [here, (firstFree_eq_some planned.free).2]
    next other => rw [planned.get?, if_neg other]
  rw [back, ensureBootRoot_of_hasBootRoot root]

end

structure UnmountPlanned (service : Service) (stem : Octets) (index : Nat)
    (mount : StorageMount) : Prop where
  held : service.mounts.slots.get? index = some mount
  named : mount.path.val = stem
  nonempty : stem ≠ []
  idle : storageUnmountBusy (openSessionPaths service) stem = false

theorem unmountGates_eq_ok (gates : unmountGates service stem authority = .ok (index, mount)) :
    UnmountPlanned service stem index mount := by
  rw [unmountGates] at gates
  split at gates
  · cases gates
  rename_i found
  rcases storageFindMountByPath_eq_some found with ⟨other, held, named⟩
  rw [held] at gates
  dsimp only at gates
  iterate 3 (split at gates; · cases gates)
  rename_i nonempty busy
  cases gates
  exact ⟨held, named, nonempty, by simpa using busy⟩

theorem UnmountPlanned.hasBootRoot (planned : UnmountPlanned service stem index mount)
    (root : HasBootRoot service.mounts) : HasBootRoot (service.mounts.clear index) := by
  rcases root with ⟨place, boot, held, named⟩
  refine ⟨place, boot, ?_, named⟩
  rw [MountTable.clear, get?_set_none, if_neg]
  · exact held
  rintro rfl
  cases Option.some.inj (held.symm.trans planned.held)
  exact planned.nonempty (planned.named.symm.trans named)

/-- The source and destination of a rename that is carried out. -/
def acceptedRename? (service : Service) (message : RawMessage) (now : Nat) :
    Option (StoragePath × StoragePath) :=
  match renameOperands message with
  | .error _ => none
  | .ok (source, dest) =>
    match tryRenameEntry service.mounts service.entries service.mutableEntries
      service.searchIndex source.val dest.val now with
    | .ok (.ok, _) => if source = dest then none else some (source, dest)
    | _ => none

/-- What a rename makes of the tables if it is carried out. -/
structure RenameDone (service : Service) (source dest : StoragePath) (now : Nat)
    (mutableEntries : EntryTable) (searchIndex : SearchIndex) : Prop where
  nonempty : source.val ≠ []
  ends : endsWithSlash dest.val = endsWithSlash source.val
  planned : RenamePlanned service.mounts service.entries service.mutableEntries source.val dest.val
  entries : mutableEntries = service.mutableEntries.update (moveEntry source.val dest.val
    ((storageResolveMount service.mounts dest.val).any StorageMount.persistent))
  index : searchIndex = reindex service.searchIndex source.val dest now

def Moved (source dest : Octets) (entry moved : MutableEntry) : Prop :=
  (moved = entry ∧ ¬Renamed source entry.path.val) ∨
    (Renamed source entry.path.val ∧ moved.path.val = dest ++ entry.path.val.drop source.length ∧
      moved = { entry with path := moved.path, persistent := moved.persistent })

section

variable {entry moved : MutableEntry}

section

variable (done : RenameDone service source dest now mutableEntries searchIndex)

include done

theorem RenameDone.later (held : service.mutableEntries.get? place = some entry) :
    ∃ moved, mutableEntries.get? place = some moved ∧ Moved source.val dest.val entry moved := by
  rw [done.entries, get?_update, held, Option.bind_some]
  by_cases renamed : Renamed source.val entry.path.val
  · rw [moveEntry_of_renamed renamed (done.planned.lands dest.property held renamed).1]
    exact ⟨_, rfl, .inr ⟨renamed, rfl, rfl⟩⟩
  · rw [moveEntry_of_not renamed]
    exact ⟨_, rfl, .inl ⟨rfl, renamed⟩⟩

theorem RenameDone.before (held : mutableEntries.get? place = some moved) :
    ∃ entry, service.mutableEntries.get? place = some entry ∧
      Moved source.val dest.val entry moved := by
  have there := held
  rw [done.entries, get?_update] at there
  rcases Option.bind_eq_some_iff.mp there with ⟨entry, there, -⟩
  rcases done.later there with ⟨same, heldToo, moves⟩
  cases held.symm.trans heldToo
  exact ⟨entry, there, moves⟩

end

end

theorem renameRequest_cases (operands : renameOperands message = .ok (source, dest))
    (done : tryRenameEntry service.mounts service.entries service.mutableEntries
      service.searchIndex source.val dest.val now = .ok (status, mutableEntries, searchIndex)) :
    (mutableEntries = service.mutableEntries ∧ searchIndex = service.searchIndex) ∨
      (acceptedRename? service message now = some (source, dest) ∧
        RenameDone service source dest now mutableEntries searchIndex) := by
  rcases tryRenameEntry_cases done with
    ⟨entries, index, -⟩ | ⟨fine, different, nonempty, ends, planned, applied⟩
  · exact .inl ⟨entries, index⟩
  rcases applyRename_eq_ok applied with ⟨fits, entries, index⟩
  refine .inr ⟨?_, nonempty, ends, planned, entries, index⟩
  have apart : source ≠ dest := fun same => different (congrArg _ same)
  rw [fine] at done
  rw [acceptedRename?, operands]
  dsimp only
  rw [done, if_neg apart]

end

/-! ## On a directory session -/

section

variable {path : StoragePath}

structure CreatePlanned (service : Service) (session : DirectorySession) (message : RawMessage)
    (slot : Nat) (kind : StorageEntryKind) (path : StoragePath) : Prop where
  writable : session.writable = true
  composed : ∃ name, unpackBytes (message.payload 2) (message.word 1).toNat maxStoragePath =
    .ok name ∧ composeChildPath session.path.val name.val kind = some path
  mutablePath : isMutablePath service.mounts path.val = true
  absent : findMutableEntry service.mutableEntries path.val = none
  free : service.mutableEntries.firstFree = some slot

theorem createTarget_eq_some (target : createTarget session message = some (kind, path)) :
    ∃ name, unpackBytes (message.payload 2) (message.word 1).toNat maxStoragePath = .ok name ∧
      composeChildPath session.path.val name.val kind = some path := by
  rcases Option.bind_eq_some_iff.mp target with ⟨named, -, target⟩
  split at target
  · cases target
  rename_i name unpacked
  rcases Option.map_eq_some_iff.mp target with ⟨made, composed, pair⟩
  cases pair
  exact ⟨name, unpacked, composed⟩

theorem createGates_eq_ok (gates : createGates service session message = .ok (slot, kind, path)) :
    CreatePlanned service session message slot kind path := by
  rw [createGates] at gates
  split at gates
  · cases gates
  rename_i writable
  split at gates
  · cases gates
  rename_i target
  iterate 2 (split at gates; · cases gates)
  rename_i mutablePath absent
  split at gates <;> cases gates
  rw [Bool.not_eq_true', Bool.not_eq_false] at writable mutablePath
  exact ⟨writable, createTarget_eq_some target, mutablePath,
    Option.not_isSome_iff_eq_none.mp absent, by assumption⟩

structure RemovePlanned (service : Service) (session : DirectorySession) (index : Nat)
    (path : StoragePath) : Prop where
  writable : session.writable = true
  composed : ∃ name kind, composeChildPath session.path.val name kind = some path ∧
    (kind = .directory → mutableDirectoryHasChildren service.mutableEntries path.val = false)
  found : findMutableEntry service.mutableEntries path.val = some index

theorem removalOf_eq_ok (removal : removalOf service parent name kind = some (.ok (index, path))) :
    composeChildPath parent name kind = some path ∧
      (kind = .directory → mutableDirectoryHasChildren service.mutableEntries path.val = false) ∧
      findMutableEntry service.mutableEntries path.val = some index := by
  rcases Option.bind_eq_some_iff.mp removal with ⟨made, composed, removal⟩
  split at removal
  next found =>
    split at removal <;> cases removal
    next empty =>
      refine ⟨composed, fun directory => ?_, found⟩
      rw [not_and, Bool.not_eq_true] at empty
      exact empty directory
  · split at removal <;> cases removal

theorem removeGates_eq_ok (gates : removeGates service session message = .ok (index, path)) :
    RemovePlanned service session index path := by
  rw [removeGates] at gates
  split at gates
  · cases gates
  rename_i writable
  rw [Bool.not_eq_true', Bool.not_eq_false] at writable
  split at gates
  · cases gates
  rename_i name _
  rcases first : removalOf service session.path.val name.val .file with _ | outcome <;>
    rw [first] at gates
  · rcases second : removalOf service session.path.val name.val .directory with _ | outcome <;>
      rw [second] at gates
    · cases gates
    cases gates
    rcases removalOf_eq_ok second with ⟨composed, empty, found⟩
    exact ⟨writable, ⟨name.val, .directory, composed, empty⟩, found⟩
  cases gates
  rcases removalOf_eq_ok first with ⟨composed, empty, found⟩
  exact ⟨writable, ⟨name.val, .file, composed, empty⟩, found⟩

structure OpenFilePlanned (service : Service) (session : DirectorySession) (message : RawMessage)
    (slot : Nat) (path : StoragePath) : Prop where
  composed : ∃ name, unpackBytes (message.payload 3) (message.word 0).toNat maxStoragePath =
    .ok name ∧ composeChildPath session.path.val name.val .file = some path
  writable : (message.word 2 != 0) = true → session.writable = true
  free : service.blobSessions.firstFree = some slot

/-- What is opened: a file that is there, or one made in a free slot. -/
def FileOpening.Planned (service : Service) (session : DirectorySession) (path : Octets) :
    FileOpening → Prop
  | .existing target => Openable service path target
  | .created place => session.writable = true ∧ isMutablePath service.mounts path = true ∧
      findMutableEntry service.mutableEntries path = none ∧
      service.mutableEntries.firstFree = some place

theorem openFileGates_eq_ok
    (gates : openFileGates service session message = .ok (slot, path, opening)) :
    OpenFilePlanned service session message slot path ∧
      opening.Planned service session path.val := by
  rw [openFileGates] at gates
  dsimp only at gates
  split at gates
  · cases gates
  rename_i name unpacked
  split at gates
  · cases gates
  rename_i made composed
  split at gates
  · cases gates
  rename_i allowed
  split at gates
  · cases gates
  rename_i blobSlot free
  have planned (same : made = path) (here : blobSlot = slot) :
      OpenFilePlanned service session message slot path := by
    refine ⟨⟨name, unpacked, same ▸ composed⟩, fun writable => ?_, here ▸ free⟩
    rw [writable] at allowed
    simpa using allowed
  split at gates
  next found =>
    split at gates
    · cases gates
    rename_i file
    cases gates
    rcases lookup_eq_some found with ⟨held, named⟩
    exact ⟨planned rfl rfl, held, named, not_not.mp file⟩
  next missing =>
    have absent := lookup_eq_none missing
    split at gates
    next wanted =>
      split at gates
      · cases gates
      rename_i mutablePath
      split at gates <;> cases gates
      next freeEntry =>
        rw [Bool.not_eq_true', Bool.not_eq_false] at mutablePath
        rw [Bool.or_comm] at wanted
        rw [wanted] at allowed
        exact ⟨planned rfl rfl, by simpa using allowed, mutablePath, absent, freeEntry⟩
    · rcases found : bootDataFile service made.val with _ | entry
      all_goals
        rw [found] at gates
        cases gates
      exact ⟨planned rfl rfl, openable_boot (bootDataFile_eq_ok found) absent⟩

structure TraversePlanned (service : Service) (session : DirectorySession) (message : RawMessage)
    (path : StoragePath) (kind : StorageEntryKind) : Prop where
  composed : ∃ relative, composeRelativePath session.path.val relative kind = some path
  writable : (message.word 2 != 0) = true →
    session.writable = true ∧ isMutablePath service.mounts path.val = true

/-- What a traversal opens, and the session slot for it. -/
def Traversal.Planned (service : Service) (path : Octets) : Traversal → Prop
  | .directory slot => directoryExists service.entries service.mutableEntries path = true ∧
      service.directorySessions.firstFree = some slot
  | .file slot target => Openable service path target ∧ service.blobSessions.firstFree = some slot

def Traversal.kind : Traversal → StorageEntryKind
  | .directory _ => .directory
  | .file _ _ => .file

theorem openFileSessionGates_eq_ok
    (gates : openFileSessionGates service path writable = .ok (slot, target)) :
    Openable service path target ∧ service.blobSessions.firstFree = some slot := by
  rw [openFileSessionGates] at gates
  split at gates
  next found =>
    split at gates
    · cases gates
    rename_i file
    split at gates <;> cases gates
    rcases lookup_eq_some found with ⟨held, named⟩
    exact ⟨⟨held, named, not_not.mp file⟩, by assumption⟩
  next missing =>
    split at gates
    · cases gates
    split at gates
    · cases gates
    rename_i found
    split at gates <;> cases gates
    exact ⟨openable_boot (bootDataFile_eq_ok found) (lookup_eq_none missing), by assumption⟩

theorem traverseGates_eq_ok
    (gates : traverseGates service session message = .ok (path, traversal)) :
    TraversePlanned service session message path traversal.kind ∧
      traversal.Planned service path.val := by
  rw [traverseGates] at gates
  split at gates
  · cases gates
  rename_i relative _
  split at gates
  · cases gates
  rename_i made composed
  split at gates
  · cases gates
  rename_i allowed
  have planned (same : made = path) {kind : StorageEntryKind}
      (kinded : traverseKind message = kind) :
      TraversePlanned service session message path kind := by
    refine ⟨⟨relative.val, same ▸ kinded ▸ composed⟩, fun writable => ?_⟩
    rw [writable] at allowed
    simpa [same] using allowed
  split at gates
  next directory =>
    split at gates
    · cases gates
    rename_i there
    split at gates <;> cases gates
    rw [Bool.not_eq_true', Bool.not_eq_false] at there
    exact ⟨planned rfl directory, there, by assumption⟩
  next file =>
    split at gates
    · cases gates
    rename_i opened
    cases gates
    exact ⟨planned rfl file, openFileSessionGates_eq_ok opened⟩

/-- The slot and the path of the entry a request on a directory session makes. -/
def entryMade? (service : Service) (sessionIndex : Nat) (message : RawMessage) :
    Option (Nat × StoragePath) :=
  (service.directorySessions.get? sessionIndex).bind fun session =>
    if message.tag = directoryCreateRequest.code then
      match createGates service session message with
      | .ok (slot, _, path) => some (slot, path)
      | .error _ => none
    else if message.tag = directoryOpenFileRequest.code then
      match openFileGates service session message with
      | .ok (_, path, .created slot) => some (slot, path)
      | _ => none
    else
      none

section

variable (held : service.directorySessions.get? sessionIndex = some session)

include held

theorem entryMade?_of_created (tag : message.tag = directoryCreateRequest.code)
    (gates : createGates service session message = .ok (slot, kind, path)) :
    entryMade? service sessionIndex message = some (slot, path) := by
  rw [entryMade?, held, Option.bind_some, if_pos tag, gates]

theorem entryMade?_of_fileCreated (tag : message.tag = directoryOpenFileRequest.code)
    (gates : openFileGates service session message = .ok (blobSlot, path, .created slot)) :
    entryMade? service sessionIndex message = some (slot, path) := by
  have other : message.tag ≠ directoryCreateRequest.code := by
    rw [tag]
    decide
  rw [entryMade?, held, Option.bind_some, if_neg other, if_pos tag, gates]

end

end

/-! ## On a blob session -/

structure WritePlanned (service : Service) (session : BlobSession) (operands : WriteOperands)
    (entry : MutableEntry) : Prop where
  writable : session.writable = true
  source : session.source = .mutable
  within : Word.saturatingAdd operands.offset operands.writeLen ≤ operands.totalLen
  held : service.mutableEntries.get? session.entryIndex = some entry

theorem writeGates_eq_ok (gates : writeGates service session operands = .ok entry) :
    WritePlanned service session operands entry := by
  rw [writeGates] at gates
  iterate 2 (split at gates; · cases gates)
  rename_i allowed within
  rw [not_or, not_not, Bool.not_eq_true', Bool.not_eq_false] at allowed
  split at gates <;> cases gates
  exact ⟨allowed.1, allowed.2, Nat.le_of_not_lt within, by assumption⟩

def acceptedWrite? (service : Service) (sessionIndex : Nat) (message : RawMessage) :
    Option (AtMost payloadCapacity) :=
  if message.tag = writeRequest.code ∧ 3 ≤ message.words.length ∧
      message.handles ≠ [] then
    (service.blobSessions.get? sessionIndex).bind fun session =>
      match writeGates service session (writeOperands message) with
      | .error _ => none
      | .ok _ =>
        (unpackBytes (message.payload 3) (writeOperands message).writeLen payloadCapacity).toOption
  else
    none

theorem length_unpackBytes
    (unpacked : unpackBytes words len capacity = .ok bytes) : bytes.val.length = len := by
  rw [unpackBytes] at unpacked
  split at unpacked <;> cases unpacked
  next fits =>
    rw [length_take_of_le]
    simp only [length_flatMap, length_toLittleEndian, map_const', sum_replicate_nat]
    exact fits.2

theorem acceptedWrite?_eq_some
    (accepted : acceptedWrite? service sessionIndex message = some bytes) :
    message.tag = writeRequest.code ∧
      (∃ session, service.blobSessions.get? sessionIndex = some session) ∧
      bytes.val.length = (writeOperands message).writeLen := by
  rw [acceptedWrite?] at accepted
  split at accepted
  next answered =>
    rcases Option.bind_eq_some_iff.mp accepted with ⟨session, held, accepted⟩
    refine ⟨answered.1, ⟨session, held⟩, ?_⟩
    split at accepted
    · cases accepted
    rcases unpacked : unpackBytes (message.payload 3) (writeOperands message).writeLen
      payloadCapacity with _ | same <;> rw [unpacked] at accepted <;> cases accepted
    exact length_unpackBytes unpacked
  · cases accepted

end ServiceOS.Storage
