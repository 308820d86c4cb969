import ServiceOS.Storage.Gates

/-! # What a request can do

One relation lists every change a request can make to the files, mounts, sessions and the
index. Everything later on that holds along runs is shown for its cases. -/

namespace ServiceOS.Storage

open ByteString Fallible Service StorageTag Service Slots Respects

/-! ## The changes -/

namespace Service

variable (service : Service)

def withBlob (slot : Nat) (path : StoragePath) (target : BlobTarget) (writable : Bool) : Service :=
  { service with
    blobSessions := service.blobSessions.set slot
      (some (stampTarget service.mounts service.memory.next path writable target))
    memory := service.memory.takeHandle.2.takeHandle.2 }

def withDirectory (slot : Nat) (path : StoragePath) (writable : Bool) : Service :=
  { service with
    directorySessions := service.directorySessions.set slot
      (some ⟨service.memory.next, path, ownerPath service.mounts path.val, writable⟩)
    memory := service.memory.takeHandle.2.takeHandle.2 }

def madeEntry (kind : StorageEntryKind) (path : StoragePath) : MutableEntry :=
  let persistent := (storageResolveMount service.mounts path.val).any StorageMount.persistent
  match kind with
  | .directory => ⟨.directory, path, invalidHandle, 0, 0, persistent⟩
  | .file => ⟨.file, path, service.memory.next, 0, initialFileCapacity, persistent⟩

def withEntry (now slot : Nat) (kind : StorageEntryKind) (path : StoragePath) : Service :=
  { service with
    mutableEntries := service.mutableEntries.set slot (some (service.madeEntry kind path))
    searchIndex := service.searchIndex.upsert path kind 0 now .mutable
    memory := match kind with
      | .directory => service.memory
      | .file => (service.memory.create initialFileCapacity).2 }

def release (index : Nat) : Service := (releaseMutableEntry index service).2

def releaseAll (indices : List Nat) : Service := indices.foldl release service

def withoutEntry (index : Nat) (path : StoragePath) : Service :=
  { service.release index with searchIndex := service.searchIndex.removePath path.val }

/-- The state after the gates of an unmount have passed, whatever becomes of persisting it. -/
def withoutMount (stem : Octets) (index : Nat) (mount : StorageMount) : Service :=
  let cleared := { service with mounts := service.mounts.clear index }
  let released := cleared.releaseAll
    (if mount.kind = .persistent then [] else droppedSlots service.mutableEntries stem)
  { released with mounts := ensureBootRoot released.mounts }

/-- The state after a write through a session, once the entry has room for it. -/
def withWrite (now sessionIndex : Nat) (session : BlobSession)
    (entry : MutableEntry) (operands : WriteOperands) (bytes : Octets) : Service :=
  { service with
    mutableEntries := service.mutableEntries.set session.entryIndex
      (some { entry with dataLen := operands.totalLen })
    blobSessions := service.blobSessions.set sessionIndex
      (some { session with dataLen := operands.totalLen })
    searchIndex := service.searchIndex.upsert entry.path .file operands.totalLen now .mutable
    memory := service.memory.write entry.dataHandle operands.offset bytes }

end Service

/-! ### Releasing -/

variable {entries : EntryTable}

section

variable (service : Service)

theorem release_frame (index : Nat) :
    service.release index = { service with
      mutableEntries := service.mutableEntries.set index none
      memory := (service.release index).memory } := by
  rw [release, releaseMutableEntry]
  split
  next absent =>
    have same : service.mutableEntries.set index none = service.mutableEntries := by
      apply ext_get?
      intro place
      rw [get?_set_none]
      split
      next here => rw [here, absent]
      · rfl
    rw [same]
  · rfl

theorem releaseAll_cons (index : Nat) (indices : List Nat) :
    service.releaseAll (index :: indices) = (service.release index).releaseAll indices := rfl

theorem releaseAll_frame (indices : List Nat) :
    service.releaseAll indices = { service with
      mutableEntries := (service.releaseAll indices).mutableEntries
      memory := (service.releaseAll indices).memory } := by
  induction indices generalizing service with
  | nil => rfl
  | cons index indices induction =>
    rw [releaseAll_cons, induction, release_frame]

theorem get?_releaseAll (indices : List Nat) (place : Nat) :
    (service.releaseAll indices).mutableEntries.get? place =
      if place ∈ indices then none else service.mutableEntries.get? place := by
  induction indices generalizing service with
  | nil => rfl
  | cons index indices induction =>
    rw [releaseAll_cons, induction, release_frame, get?_set_none]
    by_cases here : place = index <;> by_cases later : place ∈ indices <;> simp [here, later]

theorem withoutMount_frame (stem : Octets) (index : Nat) (mount : StorageMount) :
    service.withoutMount stem index mount = { service with
      mounts := ensureBootRoot (service.mounts.clear index)
      mutableEntries := (service.withoutMount stem index mount).mutableEntries
      memory := (service.withoutMount stem index mount).memory } := by
  rw [withoutMount]
  rw [releaseAll_frame]

theorem mutableEntries_withoutMount (place : Nat) :
    (service.withoutMount stem index mount).mutableEntries.get? place =
      if mount.kind ≠ .persistent ∧ place ∈ droppedSlots service.mutableEntries stem then none
      else service.mutableEntries.get? place := by
  rw [withoutMount]
  rw [get?_releaseAll]
  by_cases persistent : mount.kind = .persistent
  · rw [if_pos persistent, if_neg (List.not_mem_nil), if_neg (fun wrong => wrong.1 persistent)]
  · rw [if_neg persistent]
    simp [persistent]

theorem mem_droppedSlots :
    place ∈ droppedSlots entries stem ↔ ∃ entry, entries.get? place = some entry ∧
      entry.persistent = false ∧ stem <+: entry.path.val := by
  rw [droppedSlots, List.mem_filter, List.mem_range, Option.any_eq_true]
  simp only [Bool.and_eq_true, Bool.not_eq_true', List.isPrefixOf_iff_prefix]
  constructor
  · exact fun ⟨_, found⟩ => found
  · rintro ⟨entry, held, rest⟩
    exact ⟨lt_of_get?_eq_some held, entry, held, rest⟩

theorem releaseMutableEntries_eq (indices : List Nat) :
    releaseMutableEntries indices service = (.ok (), service.releaseAll indices) := by
  induction indices generalizing service with
  | nil => rfl
  | cons index indices induction =>
    have first : releaseMutableEntry index service = (.ok (), service.release index) := by
      rw [release, releaseMutableEntry]
      split <;> rfl
    rw [releaseMutableEntries, List.foldr_cons, bind_of_answer first]
    exact induction (service.release index)

theorem releaseAll_facing (outside : Outside) (indices : List Nat) :
    (service.facing outside).releaseAll indices = (service.releaseAll indices).facing outside := by
  induction indices generalizing service with
  | nil => rfl
  | cons index indices induction =>
    have first : (service.facing outside).release index =
        (service.release index).facing outside := by
      rw [release, release, releaseMutableEntry, releaseMutableEntry]
      rcases held : service.mutableEntries.get? index with _ | entry <;>
        simp only [Service.facing, held]
    rw [releaseAll_cons, releaseAll_cons, first, induction]

variable {service}

theorem held_of_releaseAll
    (held : (service.releaseAll indices).mutableEntries.get? place = some entry) :
    service.mutableEntries.get? place = some entry := by
  rw [get?_releaseAll] at held
  split at held
  · cases held
  · exact held

theorem held_of_withoutMount
    (held : (service.withoutMount stem index mount).mutableEntries.get? place = some entry) :
    service.mutableEntries.get? place = some entry := by
  rw [mutableEntries_withoutMount] at held
  split at held
  · cases held
  · exact held

end

theorem openable_withEntry {service : Service} (now : Nat) (path : StoragePath)
    (free : service.mutableEntries.firstFree = some slot) :
    Openable (service.withEntry now slot .file path) path.val
      (.mutable slot (service.madeEntry .file path)) :=
  ⟨get?_set_self _ (firstFree_eq_some free).1 _, rfl, rfl⟩

/-! ## The relation -/

/-- A directory session that is open and whose mount is there. -/
structure Serving (service : Service) (sessionIndex : Nat) (session : DirectorySession) : Prop where
  held : service.directorySessions.get? sessionIndex = some session
  mounted : (storageFindMountByPath service.mounts session.mountPath.val).isSome = true

inductive Moves (service : Service) : Event → Service → Prop
  | quiet (event : Event) (outside : Outside) : Moves service event (service.facing outside)
  | indexed (message : RawMessage) (now : Nat) (outside : Outside) :
      Moves service (.root message now)
        ({ service with searchIndex := (service.searchIndex.ensureBuilt service.entries
            service.mutableEntries now).1 }.facing outside)
  | opened {message : RawMessage} {now : Nat}
      (gates : openGates service path.val = .ok (slot, target)) (outside : Outside) :
      Moves service (.root message now) ((service.withBlob slot path target false).facing outside)
  | directoryOpened {message : RawMessage} {now : Nat}
      (gates : directoryOpenGates service path.val writable = .ok slot) (outside : Outside) :
      Moves service (.root message now) ((service.withDirectory slot path writable).facing outside)
  | mounted {message : RawMessage} {now : Nat} {mounts : MountTable}
      (tag : message.tag = mountRequest.code)
      (gates : mountGates service message = .ok (slot, mounts)) (outside : Outside) :
      Moves service (.root message now) ({ service with mounts := mounts }.facing outside)
  | mountUndone {message : RawMessage} {now : Nat} {mounts : MountTable}
      (tag : message.tag = mountRequest.code)
      (gates : mountGates service message = .ok (slot, mounts)) (outside : Outside) :
      Moves service (.root message now)
        ({ service with mounts := ensureBootRoot (mounts.clear slot) }.facing outside)
  | unmounted {stem : StoragePath} {mount : StorageMount} (tag : message.tag = unmountRequest.code)
      (operand : unmountOperand message = .ok stem)
      (gates : unmountGates service stem.val (message.word 1) = .ok (index, mount))
      (outside : Outside) :
      Moves service (.root message now)
        ((service.withoutMount stem.val index mount).facing outside)
  | renamed {message : RawMessage} {now : Nat} {dest : StoragePath}
      {status : StorageStatus} {mutableEntries : EntryTable} {searchIndex : SearchIndex}
      (tag : message.tag = renameRequest.code)
      (operands : renameOperands message = .ok (source, dest))
      (done : tryRenameEntry service.mounts service.entries service.mutableEntries
        service.searchIndex source.val dest.val now = .ok (status, mutableEntries, searchIndex))
      (outside : Outside) :
      Moves service (.root message now) ({ service with
        mutableEntries := mutableEntries
        searchIndex := searchIndex }.facing outside)
  | repaired (tag : message.tag = fsckRequestTag)
      (outside : Outside) :
      Moves service (.root message now)
        ({ service.releaseAll (collectDropPlan service.mounts service.mutableEntries) with
          searchIndex := service.searchIndex.markDirty }.facing outside)
  | blobReleased (event : Event) (sessionIndex : Nat) (outside : Outside) :
      Moves service event ({ service with
        blobSessions := service.blobSessions.set sessionIndex none }.facing outside)
  | directoryReleased (event : Event) (sessionIndex : Nat) (outside : Outside) :
      Moves service event ({ service with
        directorySessions := service.directorySessions.set sessionIndex none }.facing outside)
  | created {sessionIndex now : Nat} {message : RawMessage} {session : DirectorySession}
      {kind : StorageEntryKind} {path : StoragePath}
      (serving : Serving service sessionIndex session)
      (tag : message.tag = directoryCreateRequest.code)
      (gates : createGates service session message = .ok (slot, kind, path)) (outside : Outside) :
      Moves service (.directory sessionIndex message now)
        ((service.withEntry now slot kind path).facing outside)
  | removed {sessionIndex now : Nat} {message : RawMessage} {session : DirectorySession}
      {path : StoragePath} (serving : Serving service sessionIndex session)
      (tag : message.tag = directoryRemoveRequest.code)
      (gates : removeGates service session message = .ok (index, path)) (outside : Outside) :
      Moves service (.directory sessionIndex message now)
        ((service.withoutEntry index path).facing outside)
  | fileOpened {sessionIndex now : Nat} (serving : Serving service sessionIndex session)
      (tag : message.tag = directoryOpenFileRequest.code)
      (gates : openFileGates service session message = .ok (slot, path, .existing target))
      (outside : Outside) :
      Moves service (.directory sessionIndex message now)
        ((service.withBlob slot path target (message.word 2 != 0)).facing outside)
  | fileCreated {sessionIndex now slot : Nat} {message : RawMessage}
      {session : DirectorySession} {path : StoragePath}
      (serving : Serving service sessionIndex session)
      (tag : message.tag = directoryOpenFileRequest.code)
      (gates : openFileGates service session message = .ok (blobSlot, path, .created slot))
      (outside : Outside) :
      Moves service (.directory sessionIndex message now)
        (((service.withEntry now slot .file path).withBlob blobSlot path
          (.mutable slot (service.madeEntry .file path)) (message.word 2 != 0)).facing outside)
  | directoryTraversed {sessionIndex now : Nat} (serving : Serving service sessionIndex session)
      (tag : message.tag = directoryTraverseRequest.code)
      (gates : traverseGates service session message = .ok (path, .directory slot))
      (outside : Outside) :
      Moves service (.directory sessionIndex message now)
        ((service.withDirectory slot path (message.word 2 != 0)).facing outside)
  | fileTraversed {sessionIndex now : Nat} (serving : Serving service sessionIndex session)
      (tag : message.tag = directoryTraverseRequest.code)
      (gates : traverseGates service session message = .ok (path, .file slot target))
      (outside : Outside) :
      Moves service (.directory sessionIndex message now)
        ((service.withBlob slot path target (message.word 2 != 0)).facing outside)
  | wrote {session : BlobSession}
      {entry grown : MutableEntry} {between : Service}
      (held : service.blobSessions.get? sessionIndex = some session)
      (gates : writeGates service session (writeOperands message) = .ok entry)
      (grows : ensureMutableCapacity entry (writeOperands message).totalLen service =
        (.ok grown, between))
      (accepted : acceptedWrite? service sessionIndex message = some bytes) (outside : Outside) :
      Moves service (.blob sessionIndex message now)
        ((between.withWrite now sessionIndex session grown (writeOperands message)
          bytes.val).facing outside)

/-! ## Every request is one of them -/

variable {between after : Service}

section

theorem moves_of_quiet (quiet : Quiet service after) : Moves service event after := by
  rcases quiet with ⟨outside, rfl⟩
  exact .quiet event outside

theorem moves_refl : Moves service event service := moves_of_quiet (refl_of Quiet _)

section

variable (moved : ∀ outside, Moves service event (between.facing outside))

include moved

theorem moves_of_tail (tail : Quiet between after) : Moves service event after := by
  rcases tail with ⟨outside, rfl⟩
  exact moved outside

theorem moves_after_send (quiet : Quiet between last)
    (call : channelSend handle reply last = (.ok (), after)) : Moves service event after :=
  moves_of_tail moved (.trans quiet (quiet_channelSend.of_call call))

end

/-- Code that, if it answers, does what the event can do. -/
def Does (service : Service) (event : Event) (code : Code Unit) : Prop :=
  ∀ ⦃after⦄, code service = (.ok (), after) → Moves service event after

theorem does_nothing : Does service event (pure ()) := by
  intro after call
  cases call
  exact moves_refl

variable {code : Code Unit}

theorem does_of_respects (quiet : code.Respects Quiet) : Does service event code :=
  fun _ call => moves_of_quiet (quiet.of_call call)

theorem does_send : Does service event (channelSend handle reply) :=
  does_of_respects quiet_channelSend

theorem does_answering {handle : Handle → Code Unit}
    (handled : ∀ replyHandle, Does service event (handle replyHandle)) :
    Does service event (answering message wordCount handle) := by
  intro after call
  rcases answering_cases call with ⟨-, rfl⟩ | ⟨-, replyHandle, -, -, call⟩
  · exact moves_refl
  · exact handled replyHandle call

theorem does_gets {Part : Type} {part : Service → Part} {next : Part → Code Unit}
    (rest : Does service event (next (part service))) : Does service event (gets part >>= next) :=
  rest

theorem does_ite [Decidable condition] (here : condition → Does service event code)
    (later : Does service event rest) : Does service event (if condition then code else rest) := by
  split
  next holds => exact here holds
  · exact later

theorem does_handleOpenRequest : Does service (.root message now) (handleOpenRequest message) := by
  apply does_answering
  intro replyHandle
  split
  · exact does_nothing
  apply does_gets
  split
  · exact does_send
  next gates => exact fun _ => moves_after_send (.opened gates) (refl_of Quiet _)

theorem does_handleDirectoryOpenRequest :
    Does service (.root message now) (handleDirectoryOpenRequest message) := by
  apply does_answering
  intro replyHandle
  split
  · exact does_nothing
  apply does_gets
  split
  · exact does_send
  next gates => exact fun _ => moves_after_send (.directoryOpened gates) (refl_of Quiet _)

theorem does_handleMountRequest (tag : message.tag = mountRequest.code) :
    Does service (.root message now) (handleMountRequest message) := by
  apply does_answering
  intro replyHandle
  apply does_gets
  split
  · exact does_send
  rename_i gates
  intro after call
  rcases bind_answers call with ⟨_, _, changed, call⟩
  cases changed
  rcases bind_answers call with ⟨kept, between, persisted, call⟩
  rcases (quiet_recovered quiet_persistState).of_call persisted with ⟨outside, rfl⟩
  cases kept with
  | none =>
    rcases bind_answers call with ⟨_, _, undone, call⟩
    cases undone
    exact moves_after_send (.mountUndone tag gates) ⟨outside, rfl⟩ call
  | some =>
    exact moves_after_send (.mounted tag gates) ⟨outside, rfl⟩ call

theorem tryUnmount_of_gates (gates : unmountGates service stem authority = .ok (index, mount)) :
    tryUnmount stem authority service =
      (do
        match ← recovered persistState with
        | none => pure StorageStatus.busy
        | some () => pure StorageStatus.ok : Code StorageStatus)
        (service.withoutMount stem index mount) := by
  rw [tryUnmount, gets_bind, gates]
  exact bind_of_answer (releaseMutableEntries_eq _ _)

theorem does_handleUnmountRequest (tag : message.tag = unmountRequest.code) :
    Does service (.root message now) (handleUnmountRequest message) := by
  apply does_answering
  intro replyHandle
  split
  · exact does_send
  rename_i stem operand
  intro after call
  rcases bind_answers call with ⟨status, between, unmounted, call⟩
  rcases gates : unmountGates service stem.val (message.word 1) with refused | ⟨index, mount⟩
  · rw [tryUnmount, gets_bind, gates] at unmounted
    cases unmounted
    exact does_send call
  rw [tryUnmount_of_gates gates] at unmounted
  apply moves_of_tail (.unmounted tag operand gates)
  apply Quiet.trans _ (quiet_channelSend.of_call call)
  refine of_call (respects_bind (quiet_recovered quiet_persistState) ?_) unmounted
  rintro (_ | _) <;> exact respects_pure

theorem does_handleRenameRequest (tag : message.tag = renameRequest.code) :
    Does service (.root message now) (handleRenameRequest now message) := by
  apply does_answering
  intro replyHandle
  split
  · exact does_send
  rename_i source dest operands
  apply does_gets
  intro after call
  rcases bind_answers call with ⟨⟨status, mutableEntries, searchIndex⟩, _, done, call⟩
  rcases renamed : tryRenameEntry service.mounts service.entries service.mutableEntries
    service.searchIndex source.val dest.val now with _ | result
  · rw [id, renamed] at done
    cases done
  rw [id, renamed] at done
  cases done
  rcases bind_answers call with ⟨_, _, changed, call⟩
  cases changed
  apply moves_of_tail (.renamed tag operands renamed)
  exact of_call (respects_bind (quiet_onlyIf quiet_persistState) fun _ => quiet_channelSend) call

theorem does_handleSearchRequest :
    Does service (.root message now) (handleSearchRequest now message) := by
  apply does_answering
  intro replyHandle
  split
  · exact does_nothing
  intro after call
  apply moves_of_tail (.indexed message now)
  rcases bind_answers call with ⟨_, _, indexed, call⟩
  cases indexed
  refine of_call (quiet_gets_bind fun snapshot => ?_) call
  dsimp only
  split
  · exact quiet_channelSend
  · exact quiet_sendPathReply

theorem does_handleGrepRequest :
    Does service (.root message now) (handleGrepRequest now message) := by
  apply does_answering
  intro replyHandle
  split
  · exact does_nothing
  split
  · exact does_nothing
  intro after call
  apply moves_of_tail (.indexed message now)
  rcases bind_answers call with ⟨_, _, indexed, call⟩
  cases indexed
  refine of_call (quiet_gets_bind fun service => ?_) call
  dsimp only
  split
  · exact quiet_sendPathReply
  · exact quiet_channelSend

theorem fullScan_answers (call : fullScan apply service = (.ok report, after)) :
    (apply = false ∧ Quiet service after) ∨
      (apply = true ∧ report.rebuiltIndex = true ∧
        Quiet (service.releaseAll (collectDropPlan service.mounts service.mutableEntries))
          after) := by
  rw [fullScan, gets_bind] at call
  rcases bind_answers call with ⟨scanned, between, scan, call⟩
  rcases (quiet_scanStore _).of_call scan with ⟨outside, rfl⟩
  cases apply with
  | false =>
    cases call
    exact .inl ⟨rfl, outside, rfl⟩
  | true =>
    rcases bind_answers call with ⟨repaired, _, repairs, call⟩
    rw [applyRepairs, gets_bind] at repairs
    rcases bind_answers repairs with ⟨_, released, releases, repairs⟩
    rw [releaseMutableEntries_eq, releaseAll_facing] at releases
    cases releases
    cases repairs
    rcases bind_answers call with ⟨kept, between, persisted, call⟩
    have quiet := (quiet_recovered quiet_persistState).of_call persisted
    cases kept with
    | none =>
      cases call
      exact .inr ⟨rfl, FsckReport.rebuiltIndex_error _ _ _ _, .trans ⟨outside, rfl⟩ quiet⟩
    | some =>
      cases call
      exact .inr ⟨rfl, rfl, .trans ⟨outside, rfl⟩ quiet⟩

theorem does_handleFsckRequest (tag : message.tag = fsckRequestTag) :
    Does service (.root message now) (handleFsckRequest message) := by
  apply does_answering
  intro replyHandle
  apply does_ite
  · exact fun _ => does_send
  intro after call
  rcases bind_answers call with ⟨report, between, scan, call⟩
  rcases bind_answers call with ⟨_, marked, marks, call⟩
  have sent := quiet_channelSend.of_call call
  rcases fullScan_answers scan with ⟨apply, quiet⟩ | ⟨apply, rebuilt, quiet⟩
  · rw [apply] at marks
    cases marks
    exact moves_of_quiet (.trans quiet sent)
  rcases quiet with ⟨outside, rfl⟩
  rw [apply, rebuilt] at marks
  cases marks
  refine moves_of_tail (.repaired tag) (.trans ⟨outside, ?_⟩ sent)
  rw [releaseAll_frame]
  rfl

theorem does_handleRootRequest :
    Does service (.root message now) (handleRootRequest now message) := by
  apply does_ite fun _ => does_handleOpenRequest
  apply does_ite fun _ => does_of_respects (quiet_handleListRequest message)
  apply does_ite fun _ => does_of_respects (quiet_handleDirectoryListRequest message)
  apply does_ite fun _ => does_handleDirectoryOpenRequest
  apply does_ite fun _ => does_of_respects (quiet_handleMountListRequest message)
  apply does_ite does_handleMountRequest
  apply does_ite does_handleUnmountRequest
  apply does_ite fun _ => does_of_respects (quiet_handleStatRequest message)
  apply does_ite fun _ => does_of_respects (quiet_handleFindRequest message)
  apply does_ite fun _ => does_handleSearchRequest
  apply does_ite fun _ => does_handleGrepRequest
  apply does_ite does_handleFsckRequest
  apply does_ite does_handleRenameRequest
  exact does_nothing

end

/-! ### On directory sessions -/

section

theorem quiet_createEntry (call : createEntry now slot kind path service = (.ok (), after)) :
    Quiet (service.withEntry now slot kind path) after := by
  cases kind <;> exact quiet_persistState.of_call call

theorem quiet_removeEntry (call : removeEntry index path service = (.ok (), after)) :
    Quiet (service.withoutEntry index path) after := by
  rcases bind_answers call with ⟨_, between, released, call⟩
  rcases bind_answers call with ⟨_, indexed, indexes, call⟩
  cases indexes
  have same : between = service.release index := (congrArg Prod.snd released).symm
  rw [same] at call
  have tail := quiet_persistState.of_call call
  rw [withoutEntry]
  rw [release_frame] at tail ⊢
  exact tail

section

variable (serving : Serving service sessionIndex session)

include serving

theorem does_handleDirectoryCreateRequest (tag : message.tag = directoryCreateRequest.code) :
    Does service (.directory sessionIndex message now)
      (handleDirectoryCreateRequest now session message) := by
  apply does_answering
  intro replyHandle
  apply does_gets
  split
  · exact does_send
  rename_i gates
  intro after call
  rcases bind_answers call with ⟨_, between, creates, call⟩
  exact moves_after_send (.created serving tag gates) (quiet_createEntry creates) call

theorem does_handleDirectoryRemoveRequest (tag : message.tag = directoryRemoveRequest.code) :
    Does service (.directory sessionIndex message now)
      (handleDirectoryRemoveRequest session message) := by
  apply does_answering
  intro replyHandle
  apply does_gets
  split
  · exact does_send
  rename_i gates
  intro after call
  rcases bind_answers call with ⟨_, between, removes, call⟩
  exact moves_after_send (.removed serving tag gates) (quiet_removeEntry removes) call

theorem does_handleDirectoryOpenFileRequest (tag : message.tag = directoryOpenFileRequest.code) :
    Does service (.directory sessionIndex message now)
      (handleDirectoryOpenFileRequest now session message) := by
  apply does_answering
  intro replyHandle
  apply does_gets
  split
  · exact does_send
  next gates => exact fun _ => moves_after_send (.fileOpened serving tag gates) (refl_of Quiet _)
  rename_i slot path entrySlot gates
  intro after call
  rcases bind_answers call with ⟨_, between, creates, call⟩
  rcases quiet_createEntry creates with ⟨outside, rfl⟩
  rw [gets_bind] at call
  have held : ((service.withEntry now entrySlot .file path).facing outside).mutableEntries.get?
      entrySlot = some (service.madeEntry .file path) :=
    get?_set_self _ (firstFree_eq_some (openFileGates_eq_ok gates).2.2.2.2).1 _
  rw [held] at call
  exact moves_after_send (.fileCreated serving tag gates) ⟨outside, rfl⟩ call

theorem does_handleDirectoryTraverseRequest (tag : message.tag = directoryTraverseRequest.code) :
    Does service (.directory sessionIndex message now)
      (handleDirectoryTraverseRequest session message) := by
  apply does_answering
  intro replyHandle
  apply does_gets
  split
  · exact does_send
  next gates =>
    exact fun _ => moves_after_send (.directoryTraversed serving tag gates) (refl_of Quiet _)
  next gates => exact fun _ => moves_after_send (.fileTraversed serving tag gates) (refl_of Quiet _)

end

theorem does_handleDirectoryRequest
    (held : service.directorySessions.get? sessionIndex = some session) :
    Does service (.directory sessionIndex message now)
      (handleDirectoryRequest now sessionIndex session message) := by
  apply does_ite
  · intro _ after call
    cases call
    exact moves_of_tail (.directoryReleased _ sessionIndex) (refl_of Quiet _)
  apply does_gets
  split
  · intro after call
    rcases bind_answers call with ⟨_, between, told, call⟩
    rcases (quiet_onlyIf quiet_channelSend).of_call told with ⟨outside, rfl⟩
    cases call
    exact .directoryReleased _ sessionIndex outside
  rename_i mount
  have serving : Serving service sessionIndex session := ⟨held, by rw [mount]; rfl⟩
  apply does_ite fun _ => does_of_respects (quiet_handleDirectoryReadRequest session message)
  apply does_ite (does_handleDirectoryCreateRequest serving)
  apply does_ite (does_handleDirectoryRemoveRequest serving)
  apply does_ite (does_handleDirectoryOpenFileRequest serving)
  apply does_ite (does_handleDirectoryTraverseRequest serving)
  exact does_nothing

end

/-! ### On blob sessions -/

section

variable {service : Service}

def OnMemory (before after : Service) : Prop := ∃ memory, after = { before with memory := memory }

instance : IsPreorder Service OnMemory where
  refl service := ⟨service.memory, rfl⟩
  trans := by
    rintro first _ _ ⟨memory, rfl⟩ ⟨later, rfl⟩
    exact ⟨later, rfl⟩

theorem onMemory_memoryRead (handle : Handle) (offset length : Nat) :
    (memoryRead handle offset length).Respects OnMemory := by
  intro service
  rw [memoryRead]
  split <;> exact refl_of OnMemory _

theorem onMemory_memoryWrite (handle : Handle) (offset : Nat) (source : Octets) :
    (memoryWrite handle offset source).Respects OnMemory := by
  intro service
  rw [memoryWrite]
  split
  · exact refl_of OnMemory _
  · exact ⟨_, rfl⟩

theorem onMemory_copyData (source target : Handle) (dataLen fuel copied : Nat) :
    (copyData source target dataLen fuel copied).Respects OnMemory := by
  induction fuel generalizing copied with
  | zero => exact fun service => refl_of OnMemory service
  | succ fuel induction =>
    apply respects_ite
    · exact fun _ => respects_pure
    intro _
    apply respects_bind (onMemory_memoryRead _ _ _)
    intro read
    apply respects_ite
    · exact fun _ => respects_pure
    · exact fun _ => respects_bind (onMemory_memoryWrite _ _ _) fun _ => induction _

theorem onMemory_ensureMutableCapacity (entry : MutableEntry) (totalLen : Nat) :
    (ensureMutableCapacity entry totalLen).Respects OnMemory := by
  apply respects_ite
  · exact fun _ => respects_pure
  intro _
  split
  · exact fun service => refl_of OnMemory service
  refine respects_bind (fun _ => ⟨_, rfl⟩) fun newHandle => ?_
  apply respects_bind (onMemory_copyData _ _ _ _ _)
  intro _
  exact respects_bind (respects_ite (fun _ _ => ⟨_, rfl⟩) fun _ => respects_pure)
    fun _ => respects_pure

/-- An entry that grows keeps all but its handle and capacity. -/
theorem answers_ensureMutableCapacity (entry : MutableEntry) (totalLen : Nat) :
    (ensureMutableCapacity entry totalLen).Answers fun grown =>
      grown = { entry with
        dataHandle := grown.dataHandle
        dataCapacity := grown.dataCapacity } := by
  rw [ensureMutableCapacity]
  split
  · exact answers_pure rfl
  split
  · exact fun _ _ _ call => nomatch call
  apply answers_bind
  intro newHandle
  apply answers_bind
  intro _
  apply answers_bind
  exact fun _ => answers_pure rfl

theorem ensureMutableCapacity_answers
    (call : ensureMutableCapacity entry totalLen service = (.ok grown, after)) :
    ∃ handle capacity memory,
      grown = { entry with dataHandle := handle, dataCapacity := capacity } ∧
      after = { service with memory := memory } := by
  rcases (onMemory_ensureMutableCapacity entry totalLen).of_call call with ⟨memory, changed⟩
  exact ⟨grown.dataHandle, grown.dataCapacity, memory,
    answers_ensureMutableCapacity entry totalLen _ _ _ call, changed⟩

section

variable (held : service.blobSessions.get? sessionIndex = some session)

include held

/-- A write is not accepted and changes nothing, or it is carried out. -/
theorem handleWriteRequest_cases (tag : message.tag = writeRequest.code)
    (call : handleWriteRequest now sessionIndex session message service = (.ok (), after)) :
    (acceptedWrite? service sessionIndex message = none ∧ Quiet service after) ∨
      ∃ entry grown between bytes outside,
        writeGates service session (writeOperands message) = .ok entry ∧
        ensureMutableCapacity entry (writeOperands message).totalLen service =
          (.ok grown, between) ∧
        acceptedWrite? service sessionIndex message = some bytes ∧
        after = (between.withWrite now sessionIndex session grown (writeOperands message)
          bytes.val).facing outside := by
  rcases answering_cases call with ⟨dropped, rfl⟩ | ⟨long, replyHandle, rest, handles, call⟩
  · refine .inl ⟨?_, refl_of Quiet _⟩
    rw [acceptedWrite?, if_neg fun wrong => dropped wrong.2]
  have answered : message.tag = writeRequest.code ∧ 3 ≤ message.words.length ∧
      message.handles ≠ [] := ⟨tag, long, by rw [handles]; exact List.cons_ne_nil _ _⟩
  rw [acceptedWrite?, if_pos answered, held, Option.bind_some]
  rw [gets_bind] at call
  rcases gates : writeGates service session (writeOperands message) with _ | entry <;>
    rw [gates] at call
  · exact .inl ⟨rfl, quiet_channelSend.of_call call⟩
  rcases bind_answers call with ⟨_, written, writes, call⟩
  have sent := quiet_channelSend.of_call call
  rcases bind_answers writes with ⟨grown, between, grows, writes⟩
  rcases bind_answers writes with ⟨_, _, stored, writes⟩
  cases stored
  rcases bind_answers writes with ⟨bytes, _, unpacked, writes⟩
  rcases carried : unpackBytes (message.payload 3) (writeOperands message).writeLen
    payloadCapacity with _ | carriedBytes <;> rw [carried] at unpacked <;> cases unpacked
  rcases bind_answers writes with ⟨_, afterWrite, wrote, writes⟩
  rcases bind_answers writes with ⟨_, _, stored, writes⟩
  cases stored
  rcases bind_answers writes with ⟨_, _, indexed, writes⟩
  cases indexed
  rw [memoryWrite] at wrote
  split at wrote <;> cases wrote
  have persisted := quiet_persistState.of_call writes
  dsimp only at persisted
  rw [set_set] at persisted
  rcases Quiet.trans persisted sent with ⟨outside, changed⟩
  exact .inr ⟨entry, grown, between, bytes, outside, rfl, grows, rfl, changed⟩

theorem does_handleWriteRequest (tag : message.tag = writeRequest.code) :
    Does service (.blob sessionIndex message now)
      (handleWriteRequest now sessionIndex session message) := by
  intro after call
  rcases handleWriteRequest_cases held tag call with
    ⟨-, quiet⟩ | ⟨entry, grown, between, bytes, outside, gates, grows, accepted, rfl⟩
  · exact moves_of_quiet quiet
  · exact .wrote held gates grows accepted outside

theorem does_handleBlobRequest :
    Does service (.blob sessionIndex message now)
      (handleBlobRequest now sessionIndex session message) := by
  apply does_ite
  · intro _ after call
    cases call
    exact moves_of_tail (.blobReleased _ sessionIndex) (refl_of Quiet _)
  apply does_ite fun _ => does_of_respects (quiet_handleReadRequest session message)
  apply does_ite (does_handleWriteRequest held)
  exact does_nothing

end

end

variable {service : Service}

theorem step_moves (stepped : step service event = some after) : Moves service event after := by
  rw [step] at stepped
  rcases call : handleEvent event service with ⟨_ | _, final⟩ <;> rw [call] at stepped <;>
    cases stepped
  cases event with
  | root => exact does_handleRootRequest call
  | blob sessionIndex =>
    rw [handleEvent] at call
    rcases held : service.blobSessions.get? sessionIndex with _ | session <;> rw [held] at call
    · cases call
      exact moves_refl
    · exact does_handleBlobRequest held call
  | directory sessionIndex =>
    rw [handleEvent] at call
    rcases held : service.directorySessions.get? sessionIndex with _ | session <;>
      rw [held] at call
    · cases call
      exact moves_refl
    · exact does_handleDirectoryRequest held call
  | blobClosed sessionIndex =>
    cases call
    exact moves_of_tail (.blobReleased _ sessionIndex) (refl_of Quiet _)
  | directoryClosed sessionIndex =>
    cases call
    exact moves_of_tail (.directoryReleased _ sessionIndex) (refl_of Quiet _)

theorem step_acceptedWrite (stepped : step service (.blob sessionIndex message now) = some after)
    (accepted : acceptedWrite? service sessionIndex message = some bytes) :
    ∃ session entry grown between outside,
      service.blobSessions.get? sessionIndex = some session ∧
      writeGates service session (writeOperands message) = .ok entry ∧
      ensureMutableCapacity entry (writeOperands message).totalLen service = (.ok grown, between) ∧
      after = (between.withWrite now sessionIndex session grown (writeOperands message)
        bytes.val).facing outside := by
  rcases acceptedWrite?_eq_some accepted with ⟨tag, ⟨session, held⟩, -⟩
  rw [step] at stepped
  rcases call : handleEvent (.blob sessionIndex message now) service with ⟨_ | _, final⟩ <;>
    rw [call] at stepped <;> cases stepped
  rw [handleEvent, held] at call
  dsimp only at call
  rw [handleBlobRequest, if_neg (by rw [tag]; decide), if_neg (by rw [tag]; decide),
    if_pos tag] at call
  rcases handleWriteRequest_cases held tag call with
    ⟨refused, -⟩ | ⟨entry, grown, between, same, outside, gates, grows, acceptedToo, changed⟩
  · exact nomatch refused.symm.trans accepted
  · cases accepted.symm.trans acceptedToo
    exact ⟨session, entry, grown, between, outside, held, gates, grows, changed⟩

theorem hasBootRoot_of_moves (moves : Moves service event after)
    (root : HasBootRoot service.mounts) : HasBootRoot after.mounts := by
  cases moves with
  | mounted tag gates =>
    rcases mountGates_eq_ok gates with ⟨mount, planned, -⟩
    exact planned.hasBootRoot root
  | mountUndone tag gates =>
    rcases mountGates_eq_ok gates with ⟨mount, planned, -⟩
    rwa [planned.undone root]
  | unmounted tag operand gates =>
    have cleared := (unmountGates_eq_ok gates).hasBootRoot root
    rw [withoutMount_frame, ensureBootRoot_of_hasBootRoot cleared]
    exact cleared
  | repaired =>
    rw [releaseAll_frame]
    exact root
  | removed =>
    rw [withoutEntry, release_frame]
    exact root
  | wrote held gates grows =>
    rcases ensureMutableCapacity_answers grows with ⟨handle, capacity, memory, rfl, rfl⟩
    exact root
  | _ => exact root

theorem distinctPaths_withEntry (distinct : DistinctPaths service.mutableEntries)
    (absent : findMutableEntry service.mutableEntries path.val = none) :
    DistinctPaths (service.mutableEntries.set slot (some (service.madeEntry kind path))) := by
  apply distinct.set_some
  intro place other held same
  refine absurd ?_ (findMutableEntry_eq_none.mp absent place other held)
  rw [same]
  cases kind <;> rfl

theorem DistinctPaths.of_subtable {after : EntryTable} (distinct : DistinctPaths entries)
    (within : ∀ {index entry}, after.get? index = some entry → entries.get? index = some entry) :
    DistinctPaths after :=
  fun _ _ _ _ held heldToo same => distinct (within held) (within heldToo) same

theorem distinctPaths_of_moves (moves : Moves service event after)
    (distinct : DistinctPaths service.mutableEntries) : DistinctPaths after.mutableEntries := by
  cases moves with
  | unmounted => exact distinct.of_subtable held_of_withoutMount
  | @renamed source message now dest status mutableEntries searchIndex tag operands done =>
    rcases renameRequest_cases operands done with ⟨rfl, -⟩ | ⟨-, renamed⟩
    · exact distinct
    · rw [renamed.entries]
      exact distinctPaths_update distinct renamed.planned dest.property
  | repaired => exact distinct.of_subtable held_of_releaseAll
  | created serving tag gates =>
    exact distinctPaths_withEntry distinct (createGates_eq_ok gates).absent
  | removed =>
    rw [withoutEntry, release_frame]
    exact distinct.of_subtable held_of_set_none
  | fileCreated serving tag gates =>
    rcases openFileGates_eq_ok gates with ⟨-, -, -, absent, -⟩
    exact distinctPaths_withEntry distinct absent
  | wrote held gates grows =>
    have planned := writeGates_eq_ok gates
    rcases ensureMutableCapacity_answers grows with ⟨handle, capacity, memory, rfl, rfl⟩
    apply distinct.set_some
    intro place other there same
    exact distinct there planned.held same
  | _ => exact distinct

end ServiceOS.Storage
