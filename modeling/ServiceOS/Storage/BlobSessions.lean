import ServiceOS.Storage.Files

/-! # Blob sessions and their files

A session names its file by a slot and remembers its length. Both go out of date. -/

namespace ServiceOS.Storage

open ByteString Fallible Service Execution StorageTag Slots StorageStatus List

def readLength (session : BlobSession) (message : RawMessage) : Nat :=
  min (min (session.dataLen - (message.word 0).toNat) (message.word 1).toNat) payloadCapacity

/-- What the requests do not check. A new entry is not put into a slot that an open session
names, a read ends where the file does, and a write beyond the end of the file shows no
bytes that were there before. -/
def FilesRespected (service : Service) : Event → Prop
  | .directory sessionIndex message _ =>
    ∀ made ∈ entryMade? service sessionIndex message, ∀ session ∈ service.blobSessions.values,
      session.source = .mutable → session.entryIndex ≠ made.1
  | .blob place message _ =>
    ∀ session ∈ service.blobSessions.get? place, session.source = .mutable →
      ∀ entry ∈ service.mutableEntries.get? session.entryIndex,
        (message.tag = readRequest.code → readLength session message ≠ 0 →
          (message.word 0).toNat + readLength session message ≤ entry.dataLen) ∧
        ((acceptedWrite? service place message).isSome = true →
          GapBlank service.memory entry (writeOperands message))
  | _ => True

instance decidableFilesRespected (service : Service) :
    ∀ event, Decidable (FilesRespected service event)
  | .directory _ _ _ => inferInstanceAs (Decidable (∀ _ ∈ _, _))
  | .blob _ _ _ => inferInstanceAs (Decidable (∀ _ ∈ _, _))
  | .root _ _ => .isTrue trivial
  | .blobClosed _ => .isTrue trivial
  | .directoryClosed _ => .isTrue trivial

/-! ## Requests that write nothing -/

variable {after : Service}

section

variable {service : Service}

/-- A session that was open, on the same slot, or one that is new on a slot that is filled. -/
def SessionKept (service after : Service) (place : Nat) (session : BlobSession) : Prop :=
  (∃ old, service.blobSessions.get? place = some old ∧ old.source = .mutable ∧
    old.entryIndex = session.entryIndex) ∨
  (service.blobSessions.get? place = none ∧ after.mutableEntries.get? session.entryIndex ≠ none)

def SessionsKept (service after : Service) : Prop :=
  ∀ place session, after.blobSessions.get? place = some session → session.source = .mutable →
    SessionKept service after place session

theorem sessionKept_withBlob (openable : Openable made path.val target)
    (sessions : made.blobSessions = service.blobSessions)
    (free : service.blobSessions.firstFree = some slot) {session : BlobSession}
    (held : (made.withBlob slot path target writable).blobSessions.get? place = some session)
    (source : session.source = .mutable) :
    SessionKept service (made.withBlob slot path target writable) place session := by
  rcases get?_set_cases held with ⟨rfl, stamped⟩ | ⟨-, before⟩
  · cases stamped
    refine .inr ⟨(firstFree_eq_some free).2, ?_⟩
    cases target with
    | mutable =>
      have there := openable.1
      exact fun missing => nomatch there.symm.trans missing
    | boot => cases source
  · exact .inl ⟨session, sessions ▸ before, source, rfl⟩

theorem contents_releaseAll (kept : Kept service.mutableEntries service.memory)
    (held : (service.releaseAll indices).mutableEntries.get? place = some entry) :
    contents (service.releaseAll indices).memory entry = contents service.memory entry := by
  induction indices generalizing service with
  | nil => rfl
  | cons index indices induction =>
    rw [releaseAll_cons] at held ⊢
    rw [induction (kept_release kept index) held]
    have between := held_of_releaseAll held
    rw [release_frame, get?_set_none] at between
    split at between
    · cases between
    next other => rw [contents, bytesOf_congr (objects_release kept between other), contents]

variable (tracks : Tracks files service) (quiet : writeOf? service event = none)

include tracks quiet

theorem contentsAfter_of_none (holds : files.inSlot slot = some file) :
    files.contentsAfter service event file = files.contents file := by
  rw [Files.contentsAfter, if_neg (Nat.ne_of_lt (tracks.older holds)), quiet]

/-- A change that makes no entry and leaves the contents of those that stay. -/
theorem follows_of_subtable (kept : Kept after.mutableEntries after.memory)
    (entries : ∀ slot entry, after.mutableEntries.get? slot = some entry →
      ∃ old, service.mutableEntries.get? slot = some old ∧
        contents after.memory entry = contents service.memory old)
    (sessions : SessionsKept service after) :
    Follows files service event after := by
  have unfilled (slot : Nat) : ¬Filled service after slot := by
    rintro ⟨free, filled⟩
    rcases Option.ne_none_iff_exists'.mp filled with ⟨entry, held⟩
    rcases entries slot entry held with ⟨old, there, -⟩
    exact nomatch free.symm.trans there
  refine ⟨kept, fun filled => absurd filled (unfilled _), ?_, ?_, ?_⟩
  · intro slot entry held free
    exact absurd ⟨free, by rw [held]; exact Option.some_ne_none entry⟩ (unfilled slot)
  · intro slot entry old file held there holds
    rcases entries slot entry held with ⟨same, thereToo, alike⟩
    cases there.symm.trans thereToo
    rw [alike, tracks.current there holds, contentsAfter_of_none tracks quiet holds]
  intro place session held source
  rcases sessions place session held source with ⟨old, before, wasMutable, index⟩ | new
  · exact .inl ⟨old, before, wasMutable, index, unfilled _⟩
  · exact .inr new

theorem follows_of_same (entries : after.mutableEntries = service.mutableEntries)
    (objects : ∀ handle, after.memory.objects handle = service.memory.objects handle)
    (sessions : SessionsKept service after) : Follows files service event after := by
  apply follows_of_subtable tracks quiet (entries ▸ tracks.kept.congr objects) _ sessions
  intro slot entry held
  refine ⟨entry, entries ▸ held, ?_⟩
  rw [contents, contents, bytesOf_congr (objects _)]

theorem follows_withBlob (openable : Openable service path.val target)
    (free : service.blobSessions.firstFree = some slot) :
    Follows files service event ((service.withBlob slot path target writable).facing outside) := by
  refine follows_of_same tracks quiet rfl (fun _ => rfl) ?_
  exact fun place session held source => sessionKept_withBlob openable rfl free held source

theorem follows_withEntry (now : Nat) (free : service.mutableEntries.firstFree = some slot)
    (clear : ∀ session ∈ service.blobSessions.values, session.source = .mutable →
      session.entryIndex ≠ slot)
    (entries : after.mutableEntries = (service.withEntry now slot kind path).mutableEntries)
    (objects : after.memory.objects = (service.withEntry now slot kind path).memory.objects)
    (sessions : SessionsKept service after) : Follows files service event after := by
  have kept : Kept after.mutableEntries after.memory :=
    entries ▸ (kept_withEntry tracks.kept now slot kind path).congr fun handle =>
      congrFun objects handle
  have filled {place : Nat} (fills : Filled service after place) : place = slot := by
    by_contra other
    apply fills.2
    rw [entries]
    exact (get?_set_ne _ (Ne.symm other) _).trans fills.1
  refine ⟨kept, fun first second => (filled first).trans (filled second).symm, ?_, ?_, ?_⟩
  · intro place entry held unheld
    rw [entries] at held
    rcases get?_set_cases held with ⟨-, made⟩ | ⟨-, before⟩
    · cases made
      cases kind <;> exact take_zero
    · exact nomatch unheld.symm.trans before
  · intro place entry old file held there holds
    rw [entries] at held
    rcases get?_set_cases held with ⟨rfl, made⟩ | ⟨-, before⟩
    · exact nomatch (firstFree_eq_some free).2.symm.trans there
    cases there.symm.trans before
    have same : after.memory.objects entry.dataHandle =
        service.memory.objects entry.dataHandle := by
      rw [objects]
      cases kind with
      | directory => rfl
      | file => exact if_neg (tracks.kept.ne_next there)
    rw [contents, bytesOf_congr same, contentsAfter_of_none tracks quiet holds]
    exact tracks.current there holds
  · intro place session held source
    rcases sessions place session held source with ⟨old, before, wasMutable, index⟩ | new
    · refine .inl ⟨old, before, wasMutable, index, fun fills => ?_⟩
      exact clear old (mem_values.mpr ⟨place, before⟩) wasMutable (index.trans (filled fills))
    · exact .inr new

theorem follows_of_moves (moves : Moves service event after)
    (allowed : FilesRespected service event) : Follows files service event after := by
  have kept := kept_of_moves moves tracks.kept
  have stays (place : Nat) (session : BlobSession)
      (held : service.blobSessions.get? place = some session) (source : session.source = .mutable) :
      SessionKept service after place session := .inl ⟨session, held, source, rfl⟩
  cases moves with
  | opened gates outside =>
    have planned := openGates_eq_ok gates
    exact follows_withBlob tracks quiet planned.target planned.free
  | @unmounted message index =>
    rw [withoutMount_frame] at kept ⊢
    refine follows_of_subtable tracks quiet kept (fun slot entry held => ?_) stays
    have cleared : Kept { service with mounts := service.mounts.clear index }.mutableEntries
        service.memory := tracks.kept
    exact ⟨entry, held_of_withoutMount held, contents_releaseAll cleared held⟩
  | renamed tag operands done =>
    rcases renameRequest_cases operands done with ⟨rfl, -⟩ | ⟨-, renamed⟩
    · exact follows_of_same tracks quiet rfl (fun _ => rfl) stays
    refine follows_of_subtable tracks quiet kept (fun slot moved held => ?_) stays
    rcases renamed.before held with ⟨entry, there, ⟨rfl, -⟩ | ⟨-, -, same⟩⟩
    · exact ⟨_, there, rfl⟩
    refine ⟨entry, there, ?_⟩
    rw [same]
    rfl
  | repaired =>
    rw [releaseAll_frame] at kept ⊢
    refine follows_of_subtable tracks quiet kept (fun slot entry held => ?_) stays
    exact ⟨entry, held_of_releaseAll held, contents_releaseAll tracks.kept held⟩
  | blobReleased =>
    refine follows_of_same tracks quiet rfl (fun _ => rfl) fun other session held source => ?_
    exact stays other session (held_of_set_none held) source
  | @created slot sessionIndex now message session kind path serving tag gates =>
    have clear := allowed _ (entryMade?_of_created serving.held tag gates)
    exact follows_withEntry tracks quiet now (createGates_eq_ok gates).free clear rfl rfl stays
  | @removed =>
    rw [Service.withoutEntry, show service.release _ = service.releaseAll [_] from rfl,
      releaseAll_frame] at kept ⊢
    refine follows_of_subtable tracks quiet kept (fun slot entry held => ?_) stays
    exact ⟨entry, held_of_releaseAll held, contents_releaseAll tracks.kept held⟩
  | fileOpened serving tag gates outside =>
    rcases openFileGates_eq_ok gates with ⟨planned, openable⟩
    exact follows_withBlob tracks quiet openable planned.free
  | @fileCreated blobSlot sessionIndex now slot message session path serving tag gates =>
    have clear := allowed _ (entryMade?_of_fileCreated serving.held tag gates)
    rcases openFileGates_eq_ok gates with ⟨planned, -, -, -, free⟩
    refine follows_withEntry tracks quiet now free clear rfl rfl fun place opened held
      source => ?_
    exact sessionKept_withBlob (openable_withEntry now path free) rfl planned.free held source
  | fileTraversed serving tag gates outside =>
    rcases traverseGates_eq_ok gates with ⟨-, openable, free⟩
    exact follows_withBlob tracks quiet openable free
  | wrote held gates grows accepted =>
    rw [writeOf?, accepted] at quiet
    cases quiet
  | _ => exact follows_of_same tracks quiet rfl (fun _ => rfl) stays

end

/-! ## Writes -/

section

variable {memory : Memory}

section

variable (tracks : Tracks files service) (held : service.blobSessions.get? place = some session)
  (source : session.source = .mutable)

include tracks held source

/-- The file of a slot a session writes to is the file of the session. -/
theorem Tracks.openOn_eq (holds : files.inSlot session.entryIndex = some file) :
    files.openOn place = some file := by
  rcases tracks.sessions held source with ⟨same, opened, only⟩
  rw [opened, only file holds]

theorem Tracks.openOn_ne (there : service.mutableEntries.get? session.entryIndex = some entry)
    (holds : files.inSlot slot = some file) (other : slot ≠ session.entryIndex) :
    files.openOn place ≠ some file := by
  intro opened
  rcases target : files.inSlot session.entryIndex with _ | own
  · exact nomatch ((tracks.filled _).mp target).symm.trans there
  · cases opened.symm.trans (tracks.openOn_eq held source target)
    exact other (tracks.apart holds target)

end

theorem follows_of_write (tracks : Tracks files service)
    (kept : Kept after.mutableEntries after.memory)
    (blank : GapBlank service.memory entry (writeOperands message))
    (wrote : writeOf? service (.blob place message now) = some (place, message, bytes))
    (write : WriteStep service place session (writeOperands message) bytes entry grown memory
      after) :
    Follows files service (.blob place message now) after := by
  have planned := write.planned
  have unfilled (slot : Nat) : ¬Filled service after slot := by
    rintro ⟨free, filled⟩
    rw [write.entries, get?_set_ne] at filled
    · exact filled free
    · rintro rfl
      exact nomatch free.symm.trans planned.held
  refine ⟨kept, fun filled => absurd filled (unfilled _), ?_, ?_, ?_⟩
  · intro slot new there free
    refine absurd ⟨free, ?_⟩ (unfilled slot)
    rw [there]
    exact Option.some_ne_none new
  · intro slot new old file there before holds
    rw [Files.contentsAfter, if_neg (Nat.ne_of_lt (tracks.older holds)), wrote, write.memory]
    rw [write.entries] at there
    dsimp only
    rcases get?_set_cases there with ⟨rfl, made⟩ | ⟨other, same⟩
    · cases made
      cases before.symm.trans planned.held
      rw [if_pos (tracks.openOn_eq write.held planned.source holds), ← tracks.current before holds]
      exact contents_write write.grows (tracks.kept.held planned.held) blank write.length
    cases same.symm.trans before
    rw [if_neg (tracks.openOn_ne write.held planned.source planned.held holds other),
      ← tracks.current before holds]
    exact congrArg (take _)
      (bytesOf_congr (write.grows.objects tracks.kept planned.held _ _ before other))
  · intro other opened there source
    rw [write.sessions] at there
    rcases get?_set_cases there with ⟨rfl, made⟩ | ⟨-, before⟩
    · cases made
      exact .inl ⟨session, write.held, source, rfl, unfilled _⟩
    · exact .inl ⟨opened, before, source, rfl, unfilled _⟩

theorem tracks_of_step (stepped : step service event = some after)
    (allowed : FilesRespected service event) (tracks : Tracks files service) :
    Tracks (files.follow service event after) after := by
  apply tracks_follow tracks
  rcases quiet : writeOf? service event with _ | ⟨place, message, bytes⟩
  · exact follows_of_moves tracks quiet (step_moves stepped) allowed
  cases event with
  | blob =>
    rcases Option.map_eq_some_iff.mp quiet with ⟨carried, accepted, same⟩
    cases same
    rcases writeStep_of_accepted tracks.kept stepped accepted with
      ⟨session, entry, grown, memory, write⟩
    have blank := (allowed session write.held write.planned.source entry write.planned.held).2
      (by rw [accepted]; rfl)
    exact follows_of_write tracks (kept_of_moves (step_moves stepped) tracks.kept) blank quiet
      write
  | root received now | directory index received now | blobClosed index | directoryClosed index =>
    cases quiet

end

/-! ## Reads -/

section

/-- What becomes of a read through a session on an entry: it is dropped, refused, or answered
with bytes of the entry. -/
inductive ReadOutcome (service : Service) (session : BlobSession) (message : RawMessage)
    (after : Service) : Prop
  | dropped (same : after = service)
  | refused {status : StorageStatus} {offset : UInt64} (bad : status ≠ .ok)
      (sent : after.sent = service.sent ++
        [(replyHandle, ⟨readReply.code, [status.word, offset, 0], []⟩)])
  | answered {entry : MutableEntry} {bytes : Octets}
      {packed : List UInt64}
      (held : service.mutableEntries.get? session.entryIndex = some entry)
      (read : bytes = ((bytesOf service.memory entry).drop (message.word 0).toNat).take
        (readLength session message))
      (packs : packBytes bytes (ipcMaxWords - 3) = .ok packed)
      (sent : after.sent = service.sent ++ [(replyHandle, ⟨readReply.code,
        [ok.word, .ofNat (message.word 0).toNat, .ofNat bytes.length] ++ packed,
        []⟩)])

theorem memoryRead_answers {length : Nat}
    (call : memoryRead handle offset length service = (.ok bytes, after)) :
    after = service ∧
      bytes = (((service.memory.objects handle).getD []).drop offset).take length := by
  rw [memoryRead, Memory.read] at call
  rcases live : service.memory.objects handle with _ | object <;> rw [live] at call <;> cases call
  exact ⟨rfl, rfl⟩

theorem handleReadRequest_outcome (source : session.source = .mutable)
    (call : handleReadRequest session message service = (.ok (), after)) :
    ReadOutcome service session message after := by
  rcases answering_cases call with ⟨-, same⟩ | ⟨-, replyHandle, rest, -, call⟩
  · exact .dropped same
  dsimp only at call
  split at call
  · cases call
    exact .refused (by decide) rfl
  rw [source] at call
  dsimp only at call
  rw [gets_bind] at call
  rcases held : service.mutableEntries.get? session.entryIndex with _ | entry <;>
    rw [held] at call
  · cases call
    exact .refused (by decide) rfl
  rcases bind_answers call with ⟨bytes, between, read, replies⟩
  rcases memoryRead_answers read with ⟨same, made⟩
  rw [same] at replies
  rcases bind_answers replies with ⟨packed, _, packs, sends⟩
  change checked (packBytes bytes (ipcMaxWords - 3)) _ = _ at packs
  rcases packing : packBytes bytes (ipcMaxWords - 3) with _ | words <;> rw [packing] at packs <;>
    cases packs
  cases sends
  exact .answered held made packing rfl

end

/-! ## Runs -/

def Current (files : Files) (service : Service) : Prop :=
  ∀ slot entry file, service.mutableEntries.get? slot = some entry →
    files.inSlot slot = some file → contents service.memory entry = files.contents file

/-- A request on a session changes no other file. -/
def ChangesOnly (files : Files) (file : Nat) (service after : Service) : Prop :=
  ∀ slot, files.inSlot slot ≠ some file → slotState after slot = slotState service slot

/-- A read is dropped, refused, or answered with bytes of the contents of a file that is
there. -/
inductive ReadsFile (files : Files) (file : Nat) (service : Service) (session : BlobSession)
    (message : RawMessage) (after : Service) : Prop
  | dropped (same : after = service)
  | refused {status : StorageStatus} {offset : UInt64} (bad : status ≠ .ok)
      (sent : after.sent = service.sent ++
        [(replyHandle, ⟨readReply.code, [status.word, offset, 0], []⟩)])
  | answered {bytes : Octets} {packed : List UInt64}
      (there : files.inSlot session.entryIndex = some file)
      (read : bytes <+: (files.contents file).drop (message.word 0).toNat)
      (packs : packBytes bytes (ipcMaxWords - 3) = .ok packed)
      (sent : after.sent = service.sent ++ [(replyHandle, ⟨readReply.code,
        [ok.word, .ofNat (message.word 0).toNat, .ofNat bytes.length] ++ packed,
        []⟩)])

section

theorem step_read (tag : message.tag = readRequest.code)
    (held : service.blobSessions.get? place = some session)
    (stepped : step service (.blob place message now) = some after) :
    handleReadRequest session message service = (.ok (), after) := by
  rw [step] at stepped
  rcases call : handleEvent (.blob place message now) service with ⟨_ | _, final⟩ <;>
    rw [call] at stepped <;> cases stepped
  rw [handleEvent, held] at call
  dsimp only at call
  rwa [handleBlobRequest, if_neg (by rw [tag]; decide), if_pos tag] at call

variable (tracks : Tracks files service)
  (held : service.blobSessions.get? place = some session) (source : session.source = .mutable)
  (opened : files.openOn place = some file)
  (stepped : step service (.blob place message now) = some after)

include tracks held source opened stepped

theorem changesOnly_of_step : ChangesOnly files file service after := by
  intro slot other
  rcases accepted : acceptedWrite? service place message with _ | bytes
  · have moves := step_moves stepped
    cases moves with
    | quiet => rfl
    | blobReleased => rfl
    | directoryReleased => rfl
    | wrote _ _ _ wrote => exact nomatch accepted.symm.trans wrote
  rcases writeStep_of_accepted tracks.kept stepped accepted with
    ⟨same, entry, grown, memory, write⟩
  cases held.symm.trans write.held
  have elsewhere : slot ≠ session.entryIndex := by
    rintro rfl
    rcases target : files.inSlot session.entryIndex with _ | own
    · exact nomatch ((tracks.filled _).mp target).symm.trans write.planned.held
    · cases opened.symm.trans (tracks.openOn_eq held source target)
      exact other target
  apply slotState_eq
  · rw [write.entries, get?_set_ne _ elsewhere.symm]
  intro old there
  rw [write.memory]
  exact write.grows.objects tracks.kept write.planned.held _ _ there elsewhere

theorem readsFile_of_step (allowed : FilesRespected service (.blob place message now))
    (tag : message.tag = readRequest.code) :
    ReadsFile files file service session message after := by
  cases handleReadRequest_outcome source (step_read tag held stepped) with
  | dropped same => exact .dropped same
  | refused bad sent => exact .refused bad sent
  | @answered replyHandle entry bytes packed there read packs sent =>
    rcases target : files.inSlot session.entryIndex with _ | own
    · exact nomatch ((tracks.filled _).mp target).symm.trans there
    cases opened.symm.trans (tracks.openOn_eq held source target)
    refine .answered target ?_ packs sent
    rw [read, ← tracks.current there target, contents, drop_take]
    have ends := (allowed session held source entry there).1 tag
    by_cases nothing : readLength session message = 0
    · rw [nothing, take_zero]
      exact nil_prefix
    · exact take_prefix_take_left (by have := ends nothing; omega)

end

/-- A blob session stays on its file. -/
theorem blobSession_stays_on_file (start : Service) (events : List Event) (files : Files)
    (service : Service) (place : Nat) (message : RawMessage) (now : Nat) (session : BlobSession)
    (after : Service) (noBlobs : start.blobSessions = .empty _)
    (kept : Kept start.mutableEntries start.memory)
    (execution : run trackedStep (.initial start, start) events = some (files, service))
    (allowed : EveryStep trackedStep (fun state event => FilesRespected state.2 event)
      (.initial start, start) (events ++ [.blob place message now]))
    (held : service.blobSessions.get? place = some session) (source : session.source = .mutable)
    (stepped : step service (.blob place message now) = some after) :
    Current files service ∧
      Current (files.follow service (.blob place message now) after) after ∧
      ∃ file, files.openOn place = some file ∧ ChangesOnly files file service after ∧
        (message.tag = readRequest.code → ReadsFile files file service session message after) := by
  rcases allowed.of_append execution with ⟨before, now⟩
  have tracks : Tracks files service := by
    refine everyStep_preserves (fun state => Tracks state.1 state.2)
      (fun state event => FilesRespected state.2 event) ?_ execution before
      (tracks_initial noBlobs kept)
    rintro ⟨oldFiles, old⟩ next event taken respected holds
    rcases Option.map_eq_some_iff.mp taken with ⟨new, made, rfl⟩
    exact tracks_of_step made respected holds
  rcases tracks.sessions held source with ⟨file, opened, -⟩
  refine ⟨fun _ _ _ => tracks.current, fun _ _ _ => (tracks_of_step stepped now.1 tracks).current,
    file, opened, changesOnly_of_step tracks held source opened stepped, fun tag => ?_⟩
  exact readsFile_of_step tracks held source opened stepped now.1 tag

namespace Sample

def tracked (events : List Event) : Files × Service :=
  (run trackedStep (.initial service, service) events).getD (.initial service, service)

def writeRun : List Event :=
  [openDirectory "home/" true, openFile 0 "a" true true, write 0 0 3 "abc"]

/-- The file is removed and its slot taken by another one. -/
def reuseRun : List Event :=
  writeRun ++ [remove 0 "a", openFile 0 "b" true true, write 1 0 3 "xyz"]

def truncateRun : List Event := writeRun ++ [openFile 0 "a" false true, write 1 0 0 ""]

def extendRun : List Event := writeRun ++ [write 0 0 0 "", write 0 0 3 ""]

def threeBytes (service : Service) : Option (List UInt64) :=
  (next service (read 0 0 3)).sent.getLast?.map fun sent => sent.2.words

def answerOf (text : String) : List UInt64 :=
  [ok.word, 0, 3, .ofNat (fromLittleEndian (ascii text))]

/-- The file of the first session, the file in its slot, the contents of the former, and what
a read answers. -/
def firstSession (events : List Event) :
    Option Nat × Option Nat × Option Octets × Option (List UInt64) :=
  let (files, service) := tracked events
  (files.openOn 0, files.inSlot 0, (files.openOn 0).map files.contents, threeBytes service)

end Sample

open Sample in
theorem blobSession_stays_on_file_of_sample :
    ∃ session after, step (tracked writeRun).2 (read 0 1 2) = some after ∧
      ∃ file, (tracked writeRun).1.openOn 0 = some file ∧
        ReadsFile (tracked writeRun).1 file (tracked writeRun).2 session
          (message .readRequest [1, 2] []) after := by
  have execution : run trackedStep (.initial service, service) writeRun = some (tracked writeRun) :=
    run_eq_getD (by decide +kernel)
  have allowed : EveryStep trackedStep (fun state event => FilesRespected state.2 event)
      (.initial service, service) (writeRun ++ [read 0 1 2]) := by decide +kernel
  have opened : ((tracked writeRun).2.blobSessions.get? 0).isSome = true := by decide +kernel
  rcases Option.isSome_iff_exists.mp opened with ⟨session, held⟩
  have source : (((tracked writeRun).2.blobSessions.get? 0).map BlobSession.source) =
      some .mutable := by decide +kernel
  rw [held] at source
  have stepped : step (tracked writeRun).2 (read 0 1 2) =
      some (next (tracked writeRun).2 (read 0 1 2)) := step_next (by decide +kernel)
  rcases (blobSession_stays_on_file service writeRun _ _ 0 _ 1 session _ rfl (kept_empty rfl)
    execution allowed held (Option.some.inj source) stepped).2.2 with ⟨file, on, -, reads⟩
  exact ⟨session, _, stepped, file, on, reads rfl⟩

open Sample in
/-- A session reads a file made later in its slot, bytes beyond the end of its file, and bytes
that were cut off. -/
theorem blobSession_leaves_its_file :
    firstSession reuseRun = (some 129, some 132, some (ascii "abc"), some (answerOf "xyz")) ∧
      firstSession truncateRun = (some 129, some 129, some [], some (answerOf "abc")) ∧
      firstSession extendRun = (some 129, some 129, some [0, 0, 0], some (answerOf "abc")) := by
  refine ⟨?_, ?_, ?_⟩ <;> decide +kernel

end ServiceOS.Storage
