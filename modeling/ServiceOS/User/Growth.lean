import ServiceOS.User.Loader

/-! # What loading does step by step

Loading fills fresh frames, maps pages and stores relocated words. A relation
between states that each of these respects is respected by every load. -/

namespace ServiceOS.User

open Memory Word ByteString Fallible List

variable (mapper : UserPageMapper Space)

structure Admits (allowed : Nat → Prop)
    (relation : LoadState Space → LoadState Space → Prop) : Prop
    extends IsPreorder (LoadState Space) relation where
  load : ∀ {page}, allowed page → ∀ payload index flags,
    (loadPage mapper page payload index flags).Respects relation

variable {mapper} {relation : LoadState Space → LoadState Space → Prop}

/-- It is enough to look at filling a frame and at mapping a page. -/
theorem Admits.of_steps [IsPreorder (LoadState Space) relation]
    (fill : ∀ payload index, (fillPage payload index).Respects relation)
    (map : ∀ {page}, allowed page → ∀ frame flags,
      (mapPage mapper page frame flags).Respects relation) : Admits mapper allowed relation where
  toIsPreorder := inferInstance
  load permitted payload index flags :=
    respects_bind (fill payload index) fun frame =>
      respects_bind (map permitted frame flags) fun _ => respects_pure

/-! ## Relocation -/

def relocationTargets (relaTable : Octets) (loadBase : Nat) : List Nat :=
  (range (relaTable.length / elfRelaEntryLen)).filterMap fun entryIndex =>
    (readU64Le relaTable (entryIndex * elfRelaEntryLen)).toOption.map (wrappingAdd · loadBase)

def LinkedImage.tableTargets (linked : LinkedImage) (table : Nat × Nat) : List Nat :=
  (locateFileRange linked.image linked.loads table.1 table.2).elim [] fun bytes =>
    relocationTargets bytes linked.loadBase

def LinkedImage.targets (linked : LinkedImage) : List Nat :=
  linked.info.relocationTables.flatMap linked.tableTargets

theorem decodeRelocation_target
    (decoded : decodeRelocation relaTable loadBase consumer space entryIndex = .ok relocation) :
    ∃ offset, readU64Le relaTable (entryIndex * elfRelaEntryLen) = .ok offset ∧
      relocation.target = wrappingAdd offset loadBase := by
  simp only [decodeRelocation, bind_eq_ok] at decoded
  rcases decoded with ⟨offset, read, info, -, addend, -, rest⟩
  refine ⟨offset, read, ?_⟩
  split at rest
  · cases rest
    rfl
  split at rest
  · rcases bind_eq_ok.mp rest with ⟨table, -, rest⟩
    rcases bind_eq_ok.mp rest with ⟨value, -, rest⟩
    cases rest
    rfl
  · cases rest

/-- A way to store relocated words at the given addresses that respects the
relation. -/
def WriteRespects (write : Nat → Nat → Load Space Unit) (targets : List Nat)
    (relation : LoadState Space → LoadState Space → Prop) : Prop :=
  ∀ target ∈ targets, ∀ value, (write target value).Respects relation

section

variable [IsPreorder (LoadState Space) relation]

theorem applyEntries_respects
    (writes : ∀ entryIndex ∈ entries, ∀ relocation, decode entryIndex = .ok relocation →
      (write relocation.target relocation.value).Respects relation) :
    (applyEntries write decode entries).Respects relation := by
  induction entries with
  | nil => exact respects_pure
  | cons entryIndex rest induction =>
    rcases forall_mem_cons.mp writes with ⟨here, later⟩
    refine respects_lift_bind fun relocation decoded => ?_
    refine respects_bind (here relocation decoded) fun _ => ?_
    exact respects_bind (induction later) fun latched => respects_pure

theorem relocateTables_respects
    (writes : WriteRespects write (tables.flatMap linked.tableTargets) relation)
    (space : SymbolNamespace) : (relocateTables write linked space tables).Respects relation := by
  induction tables with
  | nil => exact respects_pure
  | cons table rest induction =>
    rcases forall_mem_append.mp writes with ⟨here, later⟩
    refine respects_lift_bind fun bytes located => ?_
    refine respects_bind ?_ fun _ => induction later
    refine respects_bind respects_lift fun _ => ?_
    refine applyEntries_respects fun entryIndex member relocation decoded => here _ ?_ _
    rw [LinkedImage.tableTargets, okOr_eq_ok.mp located]
    rcases decodeRelocation_target decoded with ⟨offset, read, named⟩
    refine mem_filterMap.mpr ⟨entryIndex, member, ?_⟩
    rw [read, named]
    rfl

theorem applyRelocations_respects (writes : WriteRespects write linked.targets relation)
    (space : SymbolNamespace) : (applyRelocations write linked space).Respects relation :=
  relocateTables_respects writes space

theorem writeMappedWord_respects
    (stores : ∀ target value address, (storeWord target value address).Respects relation)
    (mapped : List MappedLoadSegment) (targets : List Nat) :
    WriteRespects (writeMappedWord mapped) targets relation := by
  intro target _ value
  unfold writeMappedWord
  split
  · exact stores _ _ _
  · exact refl_of relation

theorem relocateModules_respects (writes : ∀ module ∈ modules,
      WriteRespects (writeMappedWord module.mapped) module.linked.targets relation)
    (space : SymbolNamespace) : (relocateModules space modules).Respects relation := by
  induction modules with
  | nil => exact respects_pure
  | cons module rest induction =>
    rcases forall_mem_cons.mp writes with ⟨here, later⟩
    exact respects_bind (applyRelocations_respects here _) fun _ => induction later

theorem exportInto_respects :
    (exportInto fuel tables loadBase space : Load Space SymbolNamespace).Respects relation :=
  refl_of relation

theorem linkImage_respects (writes : ∀ info tables,
      readDynamic image plan.headers.loads plan.headers.dynamicRange = .ok (info, tables) →
      WriteRespects (writeMappedWord mapped)
        (LinkedImage.targets ⟨image, plan.headers.loads, plan.loadBase, info, tables⟩) relation) :
    (linkImage fuel image plan mapped).Respects relation := by
  unfold linkImage
  split
  · exact respects_pure
  rename_i declared
  refine respects_lift_bind fun ⟨info, tables⟩ read => ?_
  refine respects_bind exportInto_respects fun _ => ?_
  exact applyRelocations_respects (writes info tables (by rw [declared]; exact read)) _

end

section

variable (admits : Admits mapper allowed relation)

include admits

theorem loadPages_respects {count : Nat} (pages : ∀ place, index ≤ place → place < index + count →
      allowed (wrappingAdd start (place * pageSizeBytes))) :
    (loadPages mapper start payload flags index count).Respects relation := by
  have := admits.toIsPreorder
  induction count generalizing index with
  | zero => exact respects_pure
  | succ count induction =>
    have permitted := pages index le_rfl (by omega)
    refine respects_bind (admits.load permitted payload index _) fun frame => ?_
    refine respects_bind (induction fun place low high => ?_) fun _ => respects_pure
    exact pages place (by omega) (by omega)

def SegmentPage (base : Nat) (segment : ElfLoadSegment) (page : Nat) : Prop :=
  ∃ virtualStart index, checkedAdd base segment.virtualAddress = some virtualStart ∧
    index < segment.pages ∧ page = wrappingAdd virtualStart (index * pageSizeBytes)

theorem mapDependencySegments_respects
    (pages : ∀ segment ∈ loads, ∀ page, SegmentPage base segment page → allowed page) :
    (mapDependencySegments mapper bytes base loads).Respects relation := by
  have := admits.toIsPreorder
  induction loads with
  | nil => exact respects_pure
  | cons segment rest induction =>
    rcases forall_mem_cons.mp pages with ⟨here, later⟩
    refine respects_lift_bind fun virtualStart computed => ?_
    refine respects_bind respects_lift fun payload => ?_
    refine respects_bind (loadPages_respects admits fun place _ below => ?_) fun frames => ?_
    · exact here _ ⟨virtualStart, place, okOr_eq_ok.mp computed, by omega, rfl⟩
    · exact respects_bind (induction later) fun _ => respects_pure

theorem mapElfDependency_respects
    (pages : ∀ segment ∈ plan.loads, ∀ page, SegmentPage base segment page → allowed page) :
    (mapElfDependency mapper fuel bytes plan base space).Respects relation := by
  have := admits.toIsPreorder
  refine respects_bind (mapDependencySegments_respects admits pages) fun mapped => ?_
  refine respects_bind respects_lift fun _ => ?_
  exact respects_bind exportInto_respects fun _ => respects_pure

end

section

section

variable (admits : Admits mapper (fun _ => True) relation)

include admits

theorem loadCompanion_respects :
    (loadCompanion mapper fuel machine header base bytes space).Respects relation := by
  have := admits.toIsPreorder
  unfold loadCompanion
  split
  · refine respects_bind respects_lift fun plan => ?_
    refine respects_bind respects_lift fun _ => ?_
    refine respects_bind (mapElfDependency_respects admits ?_) fun _ => respects_pure
    exact fun _ _ _ _ => trivial
  refine respects_bind ?_ fun _ => respects_pure
  refine respects_bind respects_lift fun companion => ?_
  refine respects_bind respects_lift fun _ => ?_
  exact respects_bind (loadPages_respects admits fun _ _ _ => trivial) fun _ => respects_pure

theorem loadCompanions_respects :
    (loadCompanions mapper fuel machine resolve header dependencies cursor loaded).Respects
      relation := by
  have := admits.toIsPreorder
  induction dependencies generalizing cursor loaded with
  | nil => exact respects_pure
  | cons dependency rest induction =>
    refine respects_bind respects_lift fun bytes => ?_
    exact respects_bind (loadCompanion_respects admits) fun _ => induction

theorem loadDependencies_respects :
    (loadDependencies mapper fuel machine resolver header).Respects relation := by
  have := admits.toIsPreorder
  unfold loadDependencies
  split
  · exact respects_pure
  · exact respects_bind respects_lift fun resolve => loadCompanions_respects admits

theorem loadStack_respects : (loadStack mapper bottom).Respects relation :=
  loadPages_respects admits fun _ _ _ => trivial

theorem mapImageSegments_respects {stackBottom : Nat} :
    (mapImageSegments mapper image plan stackBottom loads).Respects relation := by
  have := admits.toIsPreorder
  induction loads with
  | nil => exact respects_pure
  | cons segment rest induction =>
    refine respects_bind respects_lift fun virtualStart => ?_
    refine respects_bind respects_lift fun payload => ?_
    refine respects_bind (loadPages_respects admits fun _ _ _ => trivial) fun frames => ?_
    exact respects_bind induction fun _ => respects_pure

section

variable (stores : ∀ target value address, (storeWord target value address).Respects relation)

include stores

theorem loadFlatImage_respects :
    (loadFlatImage mapper fuel machine resolver image).Respects relation := by
  have := admits.toIsPreorder
  refine respects_bind respects_lift fun header => ?_
  refine respects_bind (loadPages_respects admits fun _ _ _ => trivial) fun _ => ?_
  refine respects_bind (loadDependencies_respects admits) fun companions => ?_
  refine respects_bind (relocateModules_respects ?_ _) fun _ => ?_
  · exact fun _ _ => writeMappedWord_respects stores _ _
  exact respects_bind (loadStack_respects admits) fun _ => respects_pure

theorem loadElf64Image_respects :
    (loadElf64Image mapper fuel machine stackTop image).Respects relation := by
  have := admits.toIsPreorder
  refine respects_bind respects_lift fun plan => ?_
  refine respects_bind (mapImageSegments_respects admits) fun mapped => ?_
  refine respects_bind (linkImage_respects fun _ _ _ => writeMappedWord_respects stores _ _)
    fun _ => ?_
  refine respects_bind respects_lift fun entryPoint => ?_
  exact respects_bind (loadStack_respects admits) fun _ => respects_pure

theorem loadImage_respects :
    (loadImage mapper fuel machine resolver stackTop image).Respects relation := by
  have := admits.toIsPreorder
  unfold loadImage
  split
  · exact loadFlatImage_respects admits stores
  split
  · exact loadElf64Image_respects admits stores
  · exact respects_lift

end

end

theorem preparing_respects (respects : code.Respects relation) :
    (preparing code).Respects relation := by
  intro state
  have related := respects state
  rcases call : code state with ⟨(error | _) | answer, after⟩ <;>
  · rw [call] at related
    simp only [preparing, call]
    exact related

/-- Either there is no frame for the root table, or the image is loaded with the
root's frame taken. -/
theorem prepareAddressSpace_cases [IsPreorder (LoadState Space) relation]
    {after : LoadState Space}
    (respects : (loadImage mapper fuel .x86_64 resolver userStackTop image).Respects relation)
    (call : prepareAddressSpace mapper fuel resolver (some kernel) image state = (outcome, after)) :
    (∃ stop, outcome = .error stop ∧ state.frames.allocate = (none, after.frames)) ∨
      ∃ root granted, state.frames.allocate = (some root, granted) ∧
        relation { state with frames := granted, space := kernel } after := by
  rcases granting : state.frames.allocate with ⟨_ | root, granted⟩
  · have failed : newUserSpace kernel state = (.error (.error (.mapping .frameAllocationFailed)),
        { state with frames := granted }) := by
      simp only [newUserSpace, granting]
    rw [prepareAddressSpace, bind_of_stop failed] at call
    cases call
    exact .inl ⟨_, rfl, rfl⟩
  have made : newUserSpace kernel state =
      (.ok root.base, { state with frames := granted, space := kernel }) := by
    simp only [newUserSpace, granting]
  rw [prepareAddressSpace, bind_of_answer made] at call
  have loading : (preparing (loadImage mapper fuel .x86_64 resolver userStackTop image) >>=
      fun loaded => pure (PreparedUserAddressSpace.mk root.base loaded)).Respects relation :=
    respects_bind (preparing_respects respects) fun _ => respects_pure
  exact .inr ⟨root, granted, rfl, loading.of_call call⟩

end

/-! ## Mappings -/

variable (mapper)

/-- A page that is mapped stays mapped, to the same frame with the same
permissions. -/
def KeepsMappings (before after : LoadState Space) : Prop :=
  ∀ page entry, mapper.lookup before.space page = some entry →
    mapper.lookup after.space page = some entry

def MapsOnly (allowed : Nat → Prop) (before after : LoadState Space) : Prop :=
  ∀ page, mapper.lookup after.space page ≠ mapper.lookup before.space page → allowed page

section

variable {mapper} {before after : LoadState Space}

instance : IsPreorder (LoadState Space) (KeepsMappings mapper) where
  refl _ _ _ mapped := mapped
  trans _ _ _ first second page entry mapped := second page entry (first page entry mapped)

instance : IsPreorder (LoadState Space) (MapsOnly mapper allowed) where
  refl _ _ changed := absurd rfl changed
  trans start middle stop first second page changed := by
    by_cases early : mapper.lookup middle.space page = mapper.lookup start.space page
    · rw [← early] at changed
      exact second page changed
    · exact first page early

theorem KeepsMappings.trans
    (first : KeepsMappings mapper before between) (second : KeepsMappings mapper between after) :
    KeepsMappings mapper before after := trans_of (KeepsMappings mapper) first second

theorem MapsOnly.trans (first : MapsOnly mapper allowed before between)
    (second : MapsOnly mapper allowed between after) : MapsOnly mapper allowed before after :=
  trans_of (MapsOnly mapper allowed) first second

theorem KeepsMappings.of_space (same : after.space = before.space) :
    KeepsMappings mapper before after := by
  intro page entry mapped
  rwa [same]

theorem MapsOnly.of_space (same : after.space = before.space) :
    MapsOnly mapper allowed before after := by
  intro page changed
  rw [same] at changed
  exact absurd rfl changed

theorem KeepsMappings.eq_none (keeps : KeepsMappings mapper before after)
    (free : mapper.lookup after.space page = none) : mapper.lookup before.space page = none := by
  rcases mapped : mapper.lookup before.space page with _ | entry
  · rfl
  · rw [keeps page entry mapped] at free
    cases free

theorem KeepsMappings.free_of_changed (keeps : KeepsMappings mapper before after)
    (changed : mapper.lookup after.space page ≠ mapper.lookup before.space page) :
    mapper.lookup before.space page = none := by
  rcases mapped : mapper.lookup before.space page with _ | entry
  · rfl
  · rw [keeps page entry mapped, mapped] at changed
    exact absurd rfl changed

theorem fillPage_of_refused
    (refused : before.frames.allocate = (none, frames)) (payload : Octets) (index : Nat) :
    fillPage payload index before =
      (.error (.error .frameExhausted), { before with frames := frames }) := by
  have zeroed : allocateZeroedFrame before =
      (.error (.error .frameExhausted), { before with frames := frames }) := by
    simp only [allocateZeroedFrame, refused]
  rw [fillPage, bind_of_stop zeroed]

theorem fillPage_of_granted (granted : before.frames.allocate = (some frame, frames))
    (payload : Octets) (index : Nat) :
    fillPage payload index before = (.ok frame.base, { before with
      frames := frames
      memory := store (store before.memory frame.base (replicate pageSizeBytes 0)) frame.base
        (pageOf payload index) }) := by
  have zeroed : allocateZeroedFrame before = (.ok frame.base, { before with
      frames := frames
      memory := store before.memory frame.base (replicate pageSizeBytes 0) }) := by
    simp only [allocateZeroedFrame, granted]
  rw [fillPage, bind_of_answer zeroed]
  rfl

theorem fillPage_space (payload : Octets) (index : Nat) (state : LoadState Space) :
    (fillPage payload index state).2.space = state.space := by
  rcases granting : state.frames.allocate with ⟨_ | frame, frames⟩
  · rw [fillPage_of_refused granting]
  · rw [fillPage_of_granted granting]

theorem mapPage_cases (call : mapPage mapper page frame flags before = (outcome, after)) :
    (∃ stop, outcome = .error stop ∧
        ∀ other, mapper.lookup after.space other = mapper.lookup before.space other) ∨
      (outcome = .ok () ∧ page % pageSizeBytes = 0 ∧ mapper.lookup before.space page = none ∧
        ∀ other, mapper.lookup after.space other =
          if other = page then some (frame, flags) else mapper.lookup before.space other) := by
  unfold mapPage at call
  split at call
  next mapping =>
    cases call
    exact .inl ⟨_, rfl, mapper.mapPage_error mapping⟩
  rename_i mapping
  cases call
  exact .inr ⟨rfl, mapper.mapPage_ok mapping⟩

theorem mapPage_keepsMappings (page frame : Nat) (flags : MappingFlags) :
    (mapPage mapper page frame flags).Respects (KeepsMappings mapper) := by
  intro state other entry mapped
  rcases call : mapPage mapper page frame flags state with ⟨outcome, after⟩
  rcases mapPage_cases call with ⟨_, -, same⟩ | ⟨-, -, free, result⟩
  · rw [same]
    exact mapped
  have different : other ≠ page := by
    rintro rfl
    rw [free] at mapped
    cases mapped
  rw [result, if_neg different]
  exact mapped

theorem mapPage_mapsOnly (permitted : allowed page) (frame : Nat) (flags : MappingFlags) :
    (mapPage mapper page frame flags).Respects (MapsOnly mapper allowed) := by
  intro state other changed
  rcases call : mapPage mapper page frame flags state with ⟨outcome, after⟩
  rw [call] at changed
  rcases mapPage_cases call with ⟨_, -, same⟩ | ⟨-, -, free, result⟩
  · exact absurd (same other) changed
  by_cases same : other = page
  · rwa [same]
  · rw [result, if_neg same] at changed
    exact absurd rfl changed

theorem keepsMappings_admits : Admits mapper (fun _ => True) (KeepsMappings mapper) :=
  .of_steps (fun payload index state => .of_space (fillPage_space payload index state))
    fun _ => mapPage_keepsMappings _

theorem mapsOnly_admits : Admits mapper allowed (MapsOnly mapper allowed) :=
  .of_steps (fun payload index state => .of_space (fillPage_space payload index state))
    mapPage_mapsOnly

end

end ServiceOS.User
