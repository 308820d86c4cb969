import ServiceOS.Storage.Moves

/-! # The search index mirrors the files

The index is told of each change by path. A path may be both of a boot file and of an entry,
and not every change is told. -/

namespace ServiceOS.Storage

open ByteString Fallible Service Execution Slots List

/-- What the index knows of a file or directory, the time of its last change apart. -/
abbrev Record : Type := StoragePath × StorageEntryKind × Nat × Origin

def IndexEntry.record (entry : IndexEntry) : Record :=
  (entry.path, entry.kind, entry.size, entry.origin)

def EntrySlot.record (entry : EntrySlot) : Record := (entry.path, .file, entry.dataLen, .boot)

def MutableEntry.record (entry : MutableEntry) : Record :=
  (entry.path, entry.kind, entry.dataLen, .mutable)

def SearchIndex.live (index : SearchIndex) : Bool := index.built && !index.dirty

def SearchIndex.records (index : SearchIndex) : List Record := index.entries.map IndexEntry.record

def fileRecords (service : Service) : List Record :=
  service.entries.map EntrySlot.record ++ service.mutableEntries.values.map MutableEntry.record

/-- The index has just these records, whenever it is relied on. -/
def Mirrors (service : Service) : Prop :=
  service.searchIndex.live = true → service.searchIndex.records.Perm (fileRecords service)

/-! ## The events of the index -/

variable {index : SearchIndex} {record : Record}

section

variable {rest : List Record}

theorem SearchIndex.live_iff : index.live = true ↔ index.built = true ∧ index.dirty = false := by
  rw [live, Bool.and_eq_true, Bool.not_eq_true']

theorem SearchIndex.find_record (same : index.records.Perm (record :: rest))
    (named : record.1.val = path) (others : ∀ other ∈ rest, other.1.val ≠ path) :
    ∃ position, index.find path = some position ∧ ∃ inside : position < index.entries.length,
      index.entries[position].record = record ∧
        ((index.entries.eraseIdx position).map IndexEntry.record).Perm rest := by
  rcases found : index.find path with _ | position
  · have member := same.mem_iff.mpr mem_cons_self
    rcases mem_map.mp member with ⟨entry, there, made⟩
    have missing := findIdx?_eq_none_iff.mp found entry there
    rw [beq_eq_false_iff_ne] at missing
    exact absurd (by rw [← named, ← made]; rfl) missing
  rcases findIdx?_eq_some_iff_getElem.mp found with ⟨inside, here, -⟩
  refine ⟨position, rfl, inside, ?_⟩
  have split := (getElem_cons_eraseIdx_perm inside).map IndexEntry.record
  rw [map_cons] at split
  have both := split.trans same
  have first : index.entries[position].record = record := by
    rcases mem_cons.mp (both.mem_iff.mp mem_cons_self) with this | later
    · exact this
    · exact absurd (eq_of_beq here) (others _ later)
  rw [first] at both
  exact ⟨first, both.cons_inv⟩

theorem SearchIndex.find_eq_none (others : ∀ other ∈ index.records, other.1.val ≠ path) :
    index.find path = none := by
  rw [find, findIdx?_eq_none_iff]
  intro entry member
  rw [beq_eq_false_iff_ne]
  exact others _ (mem_map_of_mem member)

variable {tick size : Nat}

theorem SearchIndex.records_upsert_new (built : index.built = true)
    (others : ∀ other ∈ index.records, other.1.val ≠ path.val)
    (live : (index.upsert path kind size tick .mutable).live = true) :
    (index.upsert path kind size tick .mutable).records.Perm
      ((path, kind, size, .mutable) :: index.records) := by
  rw [upsert, built, if_neg (by decide), find_eq_none others] at live ⊢
  dsimp only at live ⊢
  split
  · rw [records, push, map_append]
    exact perm_append_singleton _ _
  rename_i full
  rw [dif_neg full] at live
  exact nomatch (live_iff.mp live).2

theorem SearchIndex.records_upsert_old
    (built : index.built = true) (same : index.records.Perm (record :: rest))
    (named : record.1.val = path.val) (others : ∀ other ∈ rest, other.1.val ≠ path.val) :
    (index.upsert path kind size tick .mutable).records.Perm
      ((record.1, kind, size, record.2.2.2) :: rest) := by
  rcases find_record same named others with ⟨position, found, inside, here, erased⟩
  rw [upsert, built, if_neg (by decide), found]
  rw [records]
  dsimp only
  rw [modify_eq_set_get _ inside]
  apply ((set_perm_cons_eraseIdx inside _).map IndexEntry.record).trans
  rw [← here]
  exact erased.cons _

theorem SearchIndex.swapRemove_perm {entries : List IndexEntry} {position : Nat}
    (inside : position < entries.length) :
    (swapRemove entries position).Perm (entries.eraseIdx position) := by
  rcases eq_nil_or_concat entries with rfl | ⟨front, last, rfl⟩
  · cases inside
  rw [concat_eq_append] at inside ⊢
  rw [swapRemove, getLast?_concat]
  dsimp only
  by_cases before : position < front.length
  · rw [set_append_left position last before, dropLast_concat,
      eraseIdx_append_of_lt_length before]
    apply (set_perm_cons_eraseIdx before last).trans
    exact (perm_append_singleton last _).symm
  have atEnd : position = front.length := by
    rw [length_append, length_singleton] at inside
    omega
  rw [atEnd, set_append_right front.length last le_rfl, Nat.sub_self,
    set_cons_zero, dropLast_concat, eraseIdx_append_of_length_le le_rfl,
    Nat.sub_self, eraseIdx_cons_zero, append_nil]

theorem SearchIndex.records_removePath (built : index.built = true)
    (same : index.records.Perm (record :: rest)) (named : record.1.val = path)
    (others : ∀ other ∈ rest, other.1.val ≠ path) : (index.removePath path).records.Perm rest := by
  rcases find_record same named others with ⟨position, found, inside, here, erased⟩
  rw [removePath, built, if_neg (by decide), found]
  exact ((swapRemove_perm inside).map IndexEntry.record).trans erased

variable {new : StoragePath}

theorem SearchIndex.records_rename (built : index.built = true)
    (same : index.records.Perm (record :: rest)) (named : record.1.val = path)
    (others : ∀ other ∈ rest, other.1.val ≠ path) :
    (index.rename path new tick).records.Perm ((new, record.2) :: rest) := by
  have removed := records_removePath built same named others
  have sizes := same.length_eq
  have smaller := removed.length_eq
  have fits := index.fits
  rw [records, length_map, length_cons] at sizes
  rw [records, length_map] at smaller
  rcases find_record same named others with ⟨position, first, inside, rfl, -⟩
  have found : index.entries.find? (fun entry => entry.path.val == path) =
      some index.entries[position] := by
    rw [find?_eq_bind_findIdx?_getElem?]
    exact (congrArg (Option.bind · _) first).trans (getElem?_eq_getElem inside)
  have room : index.built = true ∧ (index.removePath path).entries.length < indexCapacity :=
    ⟨built, by omega⟩
  rw [rename, found]
  dsimp only
  rw [dif_pos room, records, push, map_append]
  exact (perm_append_singleton _ _).trans (removed.cons _)

def renameRecord (old new : Octets) (record : Record) : Record :=
  match SearchIndex.renamedPath old new record.1 with
  | some (some path) => (path, record.2)
  | _ => record

theorem SearchIndex.records_renameTree (live : (index.renameTree old new tick).1.live = true) :
    (index.renameTree old new tick).1.records = index.records.map (renameRecord old new) := by
  rcases live_iff.mp live with ⟨built, clean⟩
  rw [renameTree] at built clean ⊢
  split
  next unbuilt =>
    rw [if_pos unbuilt] at clean
    cases clean
  rename_i isBuilt
  rw [if_neg isBuilt] at clean
  rw [Bool.or_eq_false_iff, any_eq_false] at clean
  rw [records, records, map_map, map_map]
  apply map_congr_left
  intro entry member
  have fits := clean.2 entry member
  have same : entry.record.1 = entry.path := rfl
  rw [Function.comp_apply, Function.comp_apply, renameEntry, renameRecord, same]
  rcases renamed : renamedPath old new entry.path with _ | _ | path
  · rfl
  · rw [renamed] at fits
    exact absurd rfl fits
  · rfl

/-! An index that is relied on after an event was relied on before it. -/

theorem SearchIndex.live_of_upsert
    (live : (index.upsert path kind size tick origin).live = true) : index.live = true := by
  rw [upsert] at live
  split at live
  · exact nomatch (live_iff.mp live).2
  split at live
  · exact live
  split at live
  · exact live
  · exact nomatch (live_iff.mp live).2

theorem SearchIndex.live_of_removePath (live : (index.removePath path).live = true) :
    index.live = true := by
  rw [removePath] at live
  split at live
  · exact nomatch (live_iff.mp live).2
  · split at live <;> exact live

theorem SearchIndex.live_of_rename
    (live : (index.rename path new tick).live = true) : index.live = true := by
  rw [rename] at live
  split at live
  · exact live
  · dsimp only at live
    split at live <;> exact live_of_removePath live

theorem SearchIndex.live_of_renameTree
    (live : (index.renameTree old new tick).1.live = true) : index.live = true := by
  rw [renameTree] at live
  split at live
  · exact nomatch (live_iff.mp live).2
  · rcases live_iff.mp live with ⟨built, clean⟩
    exact live_iff.mpr ⟨built, (Bool.or_eq_false_iff.mp clean).1⟩

end

/-! ## The records of the files -/

section

variable {service after : Service}

def otherRecords (service : Service) (slot : Nat) : List Record :=
  fileRecords { service with mutableEntries := service.mutableEntries.set slot none }

def NotBoot (service : Service) (path : Octets) : Prop :=
  ∀ entry ∈ service.entries, entry.path.val ≠ path
deriving Decidable

theorem fileRecords_set (inside : slot < maxMutableEntries) (entry : MutableEntry) :
    (fileRecords { service with
      mutableEntries := service.mutableEntries.set slot (some entry) }).Perm
      (entry.record :: otherRecords service slot) := by
  have values := (values_set service.mutableEntries inside (some entry)).map
    MutableEntry.record
  exact (values.append_left _).trans perm_middle

theorem fileRecords_of_held (held : service.mutableEntries.get? slot = some entry) :
    (fileRecords service).Perm (entry.record :: otherRecords service slot) := by
  have inside := lt_of_get?_eq_some held
  have same := @fileRecords_set service slot inside entry
  rwa [← held, set_get? _ inside] at same

theorem fileRecords_of_free (inside : slot < maxMutableEntries)
    (free : service.mutableEntries.get? slot = none) :
    otherRecords service slot = fileRecords service := by
  rw [otherRecords, ← free, set_get? _ inside]

theorem otherRecords_ne (notBoot : NotBoot service path)
    (others : ∀ place other, service.mutableEntries.get? place = some other → place ≠ slot →
      other.path.val ≠ path) :
    ∀ record ∈ otherRecords service slot, record.1.val ≠ path := by
  intro record member
  rcases mem_append.mp member with boot | mutables
  · rcases mem_map.mp boot with ⟨entry, there, rfl⟩
    exact notBoot entry there
  rcases mem_map.mp mutables with ⟨entry, there, rfl⟩
  rcases mem_values.mp there with ⟨place, held⟩
  rw [get?_set_none] at held
  split at held
  · cases held
  next different => exact others place entry held different

theorem otherRecords_ne_of_held (distinct : DistinctPaths service.mutableEntries)
    (held : service.mutableEntries.get? slot = some entry)
    (notBoot : NotBoot service entry.path.val) :
    ∀ record ∈ otherRecords service slot, record.1.val ≠ entry.path.val :=
  otherRecords_ne notBoot fun _ _ there different same =>
    different (distinct there held (Subtype.ext same))

end

/-! ## Requests -/

/-- What the requests do not check while the index is relied on. An unmount drops no entry, as
the index is not told of it; and a path the index is told of names one record only, that of an
entry that is what the index takes it to be. -/
def IndexRespected (service : Service) : Event → Prop
  | .root message now =>
    service.searchIndex.live = true →
      (message.tag = StorageTag.unmountRequest.code →
        ∀ stem ∈ (unmountOperand message).toOption,
          ∀ planned ∈ (unmountGates service stem.val (message.word 1)).toOption,
            planned.2.kind ≠ .persistent → droppedSlots service.mutableEntries stem.val = []) ∧
      (message.tag = StorageTag.renameRequest.code →
        ∀ renamed ∈ acceptedRename? service message now,
          ∀ entry ∈ service.entries, ¬Renamed renamed.1.val entry.path.val)
  | .directory sessionIndex message _ =>
    service.searchIndex.live = true →
      (∀ made ∈ entryMade? service sessionIndex message, NotBoot service made.2.val) ∧
      (message.tag = StorageTag.directoryRemoveRequest.code →
        ∀ session ∈ service.directorySessions.get? sessionIndex,
          ∀ planned ∈ (removeGates service session message).toOption, NotBoot service planned.2.val)
  | .blob sessionIndex message _ =>
    service.searchIndex.live = true →
      (acceptedWrite? service sessionIndex message).isSome = true →
        ∀ session ∈ service.blobSessions.get? sessionIndex,
          ∀ entry ∈ service.mutableEntries.get? session.entryIndex,
            entry.kind = .file ∧ NotBoot service entry.path.val
  | _ => True

instance decidableIndexRespected (service : Service) :
    ∀ event, Decidable (IndexRespected service event)
  | .root _ _ => inferInstanceAs (Decidable (_ → _ ∧ _))
  | .directory _ _ _ => inferInstanceAs (Decidable (_ → _ ∧ _))
  | .blob _ _ _ => inferInstanceAs (Decidable (_ → _ → _))
  | .blobClosed _ => .isTrue trivial
  | .directoryClosed _ => .isTrue trivial

section

variable {service after : Service}

theorem Mirrors.of_same (mirrors : Mirrors service)
    (index : after.searchIndex = service.searchIndex) (boot : after.entries = service.entries)
    (entries : after.mutableEntries = service.mutableEntries) : Mirrors after := by
  intro live
  rw [index] at live ⊢
  have same := mirrors live
  rwa [fileRecords, ← boot, ← entries] at same

variable {path dest : StoragePath} {mutableEntries : EntryTable}

theorem mirrors_withEntry (mirrors : Mirrors service)
    (absent : findMutableEntry service.mutableEntries path.val = none)
    (free : service.mutableEntries.firstFree = some slot)
    (notBoot : service.searchIndex.live = true → NotBoot service path.val) :
    Mirrors (service.withEntry now slot kind path) := by
  intro live
  have liveBefore := SearchIndex.live_of_upsert live
  rcases firstFree_eq_some free with ⟨inside, empty⟩
  have before := mirrors liveBefore
  have others : ∀ other ∈ service.searchIndex.records, other.1.val ≠ path.val := by
    intro other member
    have there := before.mem_iff.mp member
    rw [← fileRecords_of_free inside empty] at there
    exact otherRecords_ne (notBoot liveBefore)
      (fun place entry held _ => findMutableEntry_eq_none.mp absent place entry held) other there
  have added := SearchIndex.records_upsert_new (SearchIndex.live_iff.mp liveBefore).1 others live
  apply (added.trans (before.cons _)).trans
  rw [← fileRecords_of_free inside empty]
  have record : (service.madeEntry kind path).record = (path, kind, 0, .mutable) := by
    cases kind <;> rfl
  rw [← record]
  exact (fileRecords_set inside _).symm

theorem mirrors_withoutEntry (mirrors : Mirrors service)
    (distinct : DistinctPaths service.mutableEntries) {index : Nat}
    (held : service.mutableEntries.get? index = some entry) (named : entry.path.val = path.val)
    (notBoot : service.searchIndex.live = true → NotBoot service path.val) :
    Mirrors (service.withoutEntry index path) := by
  intro live
  rw [Service.withoutEntry] at live ⊢
  have liveBefore := SearchIndex.live_of_removePath live
  rw [← named] at notBoot ⊢
  have removed := SearchIndex.records_removePath (SearchIndex.live_iff.mp liveBefore).1
    ((mirrors liveBefore).trans (fileRecords_of_held held)) rfl
    (otherRecords_ne_of_held distinct held (notBoot liveBefore))
  rw [release_frame]
  exact removed

/-- Every entry is moved to where the index has its record moved. -/
theorem record_moveEntry (moves : moveEntry source dest persistentNow entry = some moved) :
    moved.record = renameRecord source dest entry.record := by
  rw [moveEntry] at moves
  have same : entry.record.1 = entry.path := rfl
  rw [renameRecord, same]
  split at moves <;> cases moves
  next stays => rw [stays]
  next renamed => rw [renamed]; rfl

variable {searchIndex : SearchIndex}

theorem renameRecord_of_not
    (stays : ¬Renamed source record.1.val) : renameRecord source dest record = record := by
  rw [renameRecord, renamedPath_of_not stays]

theorem renameRecord_of_source
    (named : record.1.val = source) : renameRecord source dest.val record = (dest, record.2) := by
  have fits : AtMost.ofList? maxStoragePath (dest.val ++ record.1.val.drop source.length) =
      some dest := by
    rw [named, drop_length, append_nil]
    exact AtMost.ofList?_eq_some.mpr rfl
  rw [renameRecord, renamedPath_of_renamed (.inl named), fits]

variable {source : StoragePath}

/-- The records after a rename of files of which none is a boot file. -/
theorem fileRecords_renamed (done : RenameDone service source dest now mutableEntries searchIndex)
    (notBoot : ∀ entry ∈ service.entries, ¬Renamed source.val entry.path.val) :
    (fileRecords service).map (renameRecord source.val dest.val) =
      fileRecords { service with mutableEntries := mutableEntries } := by
  rw [fileRecords, fileRecords, map_append, done.entries, values_update]
  congr 1
  · rw [map_map]
    apply map_congr_left
    intro entry member
    exact renameRecord_of_not (notBoot entry member)
  rw [map_filterMap, map_map, ← filterMap_eq_map]
  apply filterMap_congr
  intro entry member
  rcases mem_values.mp member with ⟨place, held⟩
  rcases done.later held with ⟨moved, there, -⟩
  rw [done.entries, get?_update, held, Option.bind_some] at there
  rw [there, Option.map_some, record_moveEntry there]
  rfl

theorem SearchIndex.live_of_reindex
    (live : (reindex index source dest now).live = true) : index.live = true := by
  rw [reindex] at live
  split at live
  · exact live_of_renameTree live
  · exact live_of_rename live

theorem mirrors_renamed (mirrors : Mirrors service)
    (distinct : DistinctPaths service.mutableEntries)
    (done : RenameDone service source dest now mutableEntries searchIndex)
    (notBoot : service.searchIndex.live = true →
      ∀ entry ∈ service.entries, ¬Renamed source.val entry.path.val) :
    Mirrors { service with mutableEntries := mutableEntries, searchIndex := searchIndex } := by
  intro live
  change searchIndex.records.Perm (fileRecords { service with mutableEntries := mutableEntries })
  rw [done.index] at live ⊢
  have liveBefore := SearchIndex.live_of_reindex live
  have before := mirrors liveBefore
  rw [← fileRecords_renamed done (notBoot liveBefore)]
  rw [reindex] at live ⊢
  split
  next directory =>
    rw [if_pos directory] at live
    rw [SearchIndex.records_renameTree live]
    exact before.map _
  rename_i file
  rcases done.planned.sourceHeld with ⟨index, entry, held, named, -⟩
  have only := otherRecords_ne_of_held distinct held fun boot member same =>
    notBoot liveBefore boot member (.inl (same.trans named))
  rw [named] at only
  have split := fileRecords_of_held held
  refine (SearchIndex.records_rename (SearchIndex.live_iff.mp liveBefore).1
    (before.trans split) named only).trans ?_
  refine List.Perm.trans ?_ (split.map _).symm
  rw [map_cons, renameRecord_of_source named]
  have stay : ∀ record ∈ otherRecords service index,
      renameRecord source.val dest.val record = id record := by
    intro record member
    apply renameRecord_of_not
    rintro (same | ⟨slashed, -⟩)
    · exact only record member same
    · exact file slashed
  rw [map_congr_left stay, map_id]

theorem mirrors_withWrite (mirrors : Mirrors service)
    (distinct : DistinctPaths service.mutableEntries)
    (held : service.mutableEntries.get? session.entryIndex = some entry) (handle : Handle)
    (memory : Memory)
    (file : service.searchIndex.live = true → entry.kind = .file ∧ NotBoot service entry.path.val) :
    Mirrors ({ service with memory := memory }.withWrite now sessionIndex session
      { entry with dataHandle := handle, dataCapacity := capacity } operands bytes) := by
  intro live
  have liveBefore := SearchIndex.live_of_upsert live
  rcases file liveBefore with ⟨kind, notBoot⟩
  have updated := @SearchIndex.records_upsert_old service.searchIndex _ _ now
    operands.totalLen entry.path .file (SearchIndex.live_iff.mp liveBefore).1
    ((mirrors liveBefore).trans (fileRecords_of_held held)) rfl
    (otherRecords_ne_of_held distinct held notBoot)
  apply updated.trans
  rw [← kind]
  exact (fileRecords_set (lt_of_get?_eq_some held)
    { entry with
      dataHandle := handle, dataCapacity := capacity, dataLen := operands.totalLen }).symm

/-- The index built anew has every record, as there is room for all. -/
theorem mirrors_ensureBuilt (mirrors : Mirrors service)
    (fits : service.entries.length ≤ maxBootstoreEntries) :
    Mirrors { service with searchIndex := (service.searchIndex.ensureBuilt service.entries
      service.mutableEntries now).1 } := by
  intro live
  have room : (fileRecords service).length ≤ indexCapacity := by
    have values : service.mutableEntries.values.length ≤ maxMutableEntries :=
      (length_filterMap_le _ _).trans_eq service.mutableEntries.length_eq
    rw [fileRecords, length_append, length_map, length_map]
    exact Nat.add_le_add fits values
  rw [SearchIndex.ensureBuilt] at live ⊢
  split
  next relied =>
    rw [if_pos relied] at live
    exact mirrors live
  apply List.Perm.of_eq
  rw [SearchIndex.records, map_take, map_append, map_map, map_map]
  exact take_of_length_le room

theorem mirrors_of_moves (moves : Moves service event after)
    (respected : IndexRespected service event) (mirrors : Mirrors service)
    (distinct : DistinctPaths service.mutableEntries)
    (fits : service.entries.length ≤ maxBootstoreEntries) : Mirrors after := by
  cases moves with
  | indexed =>
    exact (mirrors_ensureBuilt mirrors fits).of_same rfl rfl rfl
  | @unmounted message index now stem mount tag operand gates =>
    have frame := withoutMount_frame service stem.val index mount
    have sameIndex : (service.withoutMount stem.val index mount).searchIndex =
        service.searchIndex := by rw [frame]
    have sameBoot : (service.withoutMount stem.val index mount).entries = service.entries := by
      rw [frame]
    intro live
    have liveBefore : service.searchIndex.live = true := sameIndex ▸ live
    have silent := (respected liveBefore).1 tag stem (by rw [operand]; rfl) (index, mount)
      (by rw [gates]; rfl)
    refine mirrors.of_same sameIndex sameBoot ?_ live
    apply ext_get?
    intro place
    refine (mutableEntries_withoutMount service place).trans (if_neg ?_)
    rintro ⟨kind, dropped⟩
    rw [silent kind] at dropped
    cases dropped
  | @renamed source message now dest status mutableEntries searchIndex tag operands done =>
    rcases renameRequest_cases operands done with ⟨rfl, rfl⟩ | ⟨accepted, renamed⟩
    · exact mirrors.of_same rfl rfl rfl
    · refine (mirrors_renamed mirrors distinct renamed fun live => ?_).of_same rfl rfl rfl
      exact (respected live).2 tag (source, dest) accepted
  | repaired =>
    intro live
    exact nomatch (SearchIndex.live_iff.mp live).2
  | @created slot sessionIndex now message session kind path serving tag gates =>
    have planned := createGates_eq_ok gates
    refine (mirrors_withEntry mirrors planned.absent planned.free fun live => ?_).of_same
      rfl rfl rfl
    exact (respected live).1 (slot, path) (entryMade?_of_created serving.held tag gates)
  | @removed index sessionIndex now message session path serving tag gates =>
    rcases findMutableEntry_eq_some (removeGates_eq_ok gates).found with ⟨entry, held, named⟩
    refine (mirrors_withoutEntry mirrors distinct held named fun live => ?_).of_same rfl rfl rfl
    exact (respected live).2 tag session serving.held (index, path) (by rw [gates]; rfl)
  | @fileCreated blobSlot sessionIndex now slot message session path serving tag gates =>
    rcases openFileGates_eq_ok gates with ⟨-, -, -, absent, free⟩
    refine (mirrors_withEntry mirrors absent free fun live => ?_).of_same rfl rfl rfl
    exact (respected live).1 (slot, path) (entryMade?_of_fileCreated serving.held tag gates)
  | @wrote sessionIndex message bytes now session entry grown between held gates grows accepted
      outside =>
    have planned := writeGates_eq_ok gates
    rcases ensureMutableCapacity_answers grows with ⟨handle, capacity, memory, rfl, rfl⟩
    have file (live : service.searchIndex.live = true) :=
      respected live (by rw [accepted]; rfl) session held entry planned.held
    have written : Mirrors ({ service with memory := memory }.withWrite now sessionIndex session
        { entry with dataHandle := handle, dataCapacity := capacity } (writeOperands message)
        bytes.val) :=
      mirrors_withWrite mirrors distinct planned.held handle memory file
    exact written.of_same rfl rfl rfl
  | _ => exact mirrors.of_same rfl rfl rfl

theorem entries_of_moves (moves : Moves service event after) : after.entries = service.entries := by
  cases moves with
  | unmounted => rw [withoutMount_frame]; rfl
  | repaired => rw [releaseAll_frame]; rfl
  | removed => rw [Service.withoutEntry, release_frame]; rfl
  | wrote held gates grows =>
    rcases ensureMutableCapacity_answers grows with ⟨handle, capacity, memory, rfl, rfl⟩
    rfl
  | _ => rfl

end

/-! ## Runs -/

/-- A service that has not served a request: its index is new, its entries have distinct paths,
and it has no more boot files than there are slots for them. -/
structure Unindexed (service : Service) : Prop where
  index : service.searchIndex = .new
  distinct : DistinctPaths service.mutableEntries
  fits : service.entries.length ≤ maxBootstoreEntries

/-- Whenever the index is relied on, it has the records of the files there are. -/
theorem index_mirrors_files (start : Service) (events : List Event) (final : Service)
    (unindexed : Unindexed start) (execution : run step start events = some final)
    (respected : EveryStep step IndexRespected start events)
    (live : final.searchIndex.live = true) :
    final.searchIndex.records.Perm (fileRecords final) := by
  have kept : Mirrors final ∧ DistinctPaths final.mutableEntries ∧
      final.entries.length ≤ maxBootstoreEntries := by
    refine everyStep_preserves
      (fun service => Mirrors service ∧ DistinctPaths service.mutableEntries ∧
        service.entries.length ≤ maxBootstoreEntries)
      IndexRespected ?_ execution respected ⟨?_, unindexed.distinct, unindexed.fits⟩
    · rintro service event after stepped respects ⟨mirrors, distinct, fits⟩
      have moves := step_moves stepped
      refine ⟨mirrors_of_moves moves respects mirrors distinct fits,
        distinctPaths_of_moves moves distinct, ?_⟩
      rwa [entries_of_moves moves]
    intro live
    rw [unindexed.index] at live
    cases live
  exact kept.1 live

namespace Sample

def search (query : String) : Event :=
  .root { message .findRequest [0, 0, 0, 0, 0, size query] [query] with tag := searchRequestTag } 1

def bootFile (text : String) : EntrySlot := ⟨.data, 0, 0, path text⟩

/-- Entries are made, written, moved and removed after the index was built. -/
def indexedRun : List Event :=
  [openDirectory "home/" true, search "a", create 0 .directory "d", openFile 0 "a" true true,
    write 0 0 3 "abc", rename "home/a" "home/d/b", rename "home/d/" "home/e/",
    create 0 .file "c", remove 0 "c"]

/-- The records of the index and of the files, by path, size and origin, if the index is
relied on. -/
def compared (service : Service) : Option (List (Octets × Nat × Origin) ×
    List (Octets × Nat × Origin)) :=
  if service.searchIndex.live then
    some (service.searchIndex.records.map fun record => (record.1.val, record.2.2),
      (fileRecords service).map fun record => (record.1.val, record.2.2))
  else
    none

end Sample

open Sample in
theorem index_mirrors_files_of_sample :
    ∃ final, run step (serving [bootFile "bin/sh"]) indexedRun = some final ∧
      final.searchIndex.live = true ∧ final.searchIndex.records.Perm (fileRecords final) := by
  have execution : run step (serving [bootFile "bin/sh"]) indexedRun =
      some (serve (serving [bootFile "bin/sh"]) indexedRun) := run_serve (by decide +kernel)
  have respected : EveryStep step IndexRespected (serving [bootFile "bin/sh"]) indexedRun := by
    decide +kernel
  have live : (serve (serving [bootFile "bin/sh"]) indexedRun).searchIndex.live = true := by
    decide +kernel
  have unindexed : Unindexed (serving [bootFile "bin/sh"]) :=
    ⟨rfl, distinctPaths_empty, by decide +kernel⟩
  exact ⟨_, execution, live, index_mirrors_files _ indexedRun _ unindexed execution respected live⟩

open Sample in
/-- Three runs after which the index is relied on and wrong: an unmount drops a file, a file is
made at the path of a boot file, and a rename moves the record of a boot file. -/
theorem index_leaves_files :
    (run step service [openDirectory "tmp/" true, create 0 .file "a", search "a",
      closeDirectory 0, unmount "tmp/"]).bind compared = some ([(ascii "tmp/a", 0, .mutable)], []) ∧
    (run step (serving [bootFile "home/a"]) [openDirectory "home/" true, search "a",
      create 0 .file "a"]).bind compared =
        some ([(ascii "home/a", 0, .boot)],
          [(ascii "home/a", 0, .boot), (ascii "home/a", 0, .mutable)]) ∧
    (run step (serving [bootFile "home/d/a"]) [openDirectory "home/" true,
      create 0 .directory "d", search "a", rename "home/d/" "home/e/"]).bind compared =
        some ([(ascii "home/e/a", 0, .boot), (ascii "home/e/", 0, .mutable)],
          [(ascii "home/d/a", 0, .boot), (ascii "home/e/", 0, .mutable)]) := by
  refine ⟨?_, ?_, ?_⟩ <;> decide +kernel

end ServiceOS.Storage
