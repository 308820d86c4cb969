import ServiceOS.User.Growth
import ServiceOS.User.Runtime

/-! # What the calls of a running task do to its mappings

Loading a library changes no page that was mapped before, also when it fails
half way and undoes what it did. -/

namespace ServiceOS.User

open Memory Word ByteString Fallible List

def RangePage (start index count page : Nat) : Prop :=
  ∃ place, index ≤ place ∧ place < index + count ∧ page = wrappingAdd start (place * pageSizeBytes)

theorem RangePage.first (start index count : Nat) :
    RangePage start index (count + 1) (wrappingAdd start (index * pageSizeBytes)) :=
  ⟨index, le_rfl, by omega, rfl⟩

variable {count index start page base : Nat}

theorem RangePage.later
    (range : RangePage start (index + 1) count page) : RangePage start index (count + 1) page := by
  rcases range with ⟨place, low, high, rfl⟩
  exact ⟨place, by omega, by omega, rfl⟩

theorem RangePage.cases (range : RangePage start index (count + 1) page) :
    page = wrappingAdd start (index * pageSizeBytes) ∨ RangePage start (index + 1) count page := by
  rcases range with ⟨place, low, high, rfl⟩
  by_cases same : place = index
  · exact .inl (by rw [same])
  · exact .inr ⟨place, by omega, by omega, rfl⟩

variable {mapper : UserPageMapper Space}
  {relation : LoadState Space → LoadState Space → Prop}
  [IsPreorder (LoadState Space) relation] {after before : LoadState Space}

theorem mapFrameRange_respects
    (maps : ∀ page, RangePage start index frames.length page → ∀ frame flags,
      (mapPage mapper page frame flags).Respects relation) :
    (mapFrameRange mapper start writable index frames).Respects relation := by
  induction frames generalizing index with
  | nil => exact respects_pure
  | cons frame rest induction =>
    refine respects_bind (maps _ (.first _ _ _) _ _) fun _ => ?_
    exact induction fun page range => maps page range.later

theorem unmapMemoryRange_respects (unmaps : ∀ page, RangePage start index count page →
      (unmapPage mapper page).Respects relation) :
    (unmapMemoryRange mapper start index count).Respects relation := by
  induction count generalizing index with
  | zero => exact respects_pure
  | succ count induction =>
    refine respects_bind (unmaps _ (.first _ _ _)) fun _ => ?_
    exact induction fun page range => unmaps page range.later

theorem updateMemoryProtection_respects
    (protects : ∀ page, RangePage start index count page → ∀ flags,
      (protectPage mapper page flags).Respects relation) :
    (updateMemoryProtection mapper start flags index count).Respects relation := by
  induction count generalizing index with
  | zero => exact respects_pure
  | succ count induction =>
    refine respects_bind (protects _ (.first _ _ _) _) fun _ => ?_
    exact induction fun page range => protects page range.later

theorem mapFrameRange_keepsMappings :
    (mapFrameRange mapper start writable index frames).Respects (KeepsMappings mapper) :=
  mapFrameRange_respects fun _ _ => mapPage_keepsMappings _

theorem mapFrameRange_free
    (call : mapFrameRange mapper start writable index frames before = (.ok (), after))
    (range : RangePage start index frames.length page) :
    mapper.lookup before.space page = none := by
  induction frames generalizing index before with
  | nil =>
    rcases range with ⟨place, low, high, -⟩
    exact absurd high (by simpa using low)
  | cons frame rest induction =>
    rcases first : mapPage mapper (wrappingAdd start (index * pageSizeBytes)) frame
      ⟨writable, false, true⟩ before with ⟨_ | answer, between⟩
    · rw [mapFrameRange, bind_of_stop first] at call
      cases call
    rw [mapFrameRange, bind_of_answer first] at call
    have keeps := (mapPage_keepsMappings _ _ _).of_call first
    rcases range.cases with rfl | later
    · rcases mapPage_cases first with ⟨_, failed, -⟩ | ⟨-, -, free, -⟩
      · cases failed
      · exact free
    · exact keeps.eq_none (induction call later)

theorem unmapPage_mapsOnly (permitted : allowed page) :
    (unmapPage mapper page).Respects (MapsOnly mapper allowed) := by
  intro state other changed
  by_cases same : other = page
  · rwa [same]
  rcases call : mapper.unmapPage state.space page with ⟨_ | answer, space⟩ <;>
  · simp only [unmapPage, call] at changed
    exact absurd (mapper.unmapPage_other call other same) changed

theorem protectPage_mapsOnly (permitted : allowed page) (flags : MappingFlags) :
    (protectPage mapper page flags).Respects (MapsOnly mapper allowed) := by
  intro state other changed
  by_cases same : other = page
  · rwa [same]
  rcases call : mapper.updateProtection state.space page flags with ⟨_ | answer, space⟩ <;>
  · simp only [protectPage, call] at changed
    exact absurd (mapper.updateProtection_other call other same) changed

/-- Pages that were free may change; the mapped ones then stay as they are. -/
theorem KeepsMappings.of_mapsOnly (keeps : KeepsMappings mapper before between)
    (changes : MapsOnly mapper (fun page => mapper.lookup before.space page = none) between after) :
    KeepsMappings mapper before after := by
  intro page entry mapped
  by_cases changed : mapper.lookup after.space page = mapper.lookup between.space page
  · rw [changed]
    exact keeps page entry mapped
  · rw [changes page changed] at mapped
    cases mapped

/-! ## Mapping a staged library -/

def RuntimeSegmentFrames.Page (segment : RuntimeSegmentFrames) (page : Nat) : Prop :=
  RangePage segment.virtualStart 0 segment.pages.length page

variable {answer : Except (Stop LoadError) Unit}

section

variable {segment : RuntimeSegmentFrames}

theorem protectSegment_respects (protects : ∀ page, segment.Page page → ∀ flags,
      (protectPage mapper page flags).Respects relation) :
    (protectSegment mapper segment).Respects relation := by
  unfold protectSegment
  split
  · exact updateMemoryProtection_respects protects
  · exact respects_pure

theorem mapStagedSegments_cases
    (call : mapStagedSegments mapper (segment :: rest) before = (answer, mapped, after)) :
    (∃ stop, mapFrameRange mapper segment.virtualStart segment.writable 0 segment.pages before =
        (.error stop, after) ∧ answer = .error stop ∧ mapped = []) ∨
      ∃ between, mapFrameRange mapper segment.virtualStart segment.writable 0 segment.pages before =
        (.ok (), between) ∧
        ((∃ stop, protectSegment mapper segment between = (.error stop, after) ∧
            answer = .error stop ∧ mapped = [segment]) ∨
          ∃ ready later, protectSegment mapper segment between = (.ok (), ready) ∧
            mapStagedSegments mapper rest ready = (answer, later, after) ∧
            mapped = segment :: later) := by
  rw [mapStagedSegments] at call
  split at call
  next stop stopped mapping =>
    cases call
    exact .inl ⟨stop, mapping, rfl, rfl⟩
  rename_i between mapping
  refine .inr ⟨between, mapping, ?_⟩
  split at call
  next stop stopped protection =>
    cases call
    exact .inl ⟨stop, protection, rfl, rfl⟩
  rename_i ready protection
  rcases later : mapStagedSegments mapper rest ready with ⟨answer', mapped', after'⟩
  rw [later] at call
  cases call
  exact .inr ⟨ready, mapped', protection, later, rfl⟩

section

variable (call : mapStagedSegments mapper segments before = (answer, mapped, after))

include call

/-- Segments are only mapped where nothing was, and nothing else changes. -/
theorem mapStagedSegments_keeps {start : LoadState Space}
    (keeps : KeepsMappings mapper start before) :
    KeepsMappings mapper start after ∧
      ∀ segment ∈ mapped, ∀ page, segment.Page page → mapper.lookup start.space page = none := by
  induction segments generalizing before mapped with
  | nil =>
    cases call
    exact ⟨keeps, nofun⟩
  | cons segment rest induction =>
    rcases mapStagedSegments_cases call with ⟨stop, mapping, -, rfl⟩ | ⟨between, mapping, more⟩
    · exact ⟨keeps.trans (mapFrameRange_keepsMappings.of_call mapping), nofun⟩
    have free : ∀ page, segment.Page page → mapper.lookup start.space page = none :=
      fun page range => keeps.eq_none (mapFrameRange_free mapping range)
    have mappedKeeps := keeps.trans (mapFrameRange_keepsMappings.of_call mapping)
    rcases more with ⟨stop, protection, -, rfl⟩ | ⟨ready, later, protection, rest, rfl⟩
    · have protects :=
        (protectSegment_respects fun page range => protectPage_mapsOnly (free page range)).of_call
        protection
      exact ⟨mappedKeeps.of_mapsOnly protects, forall_mem_singleton.mpr free⟩
    have protects :=
      (protectSegment_respects fun page range => protectPage_mapsOnly (free page range)).of_call
      protection
    rcases induction rest (mappedKeeps.of_mapsOnly protects) with ⟨result, others⟩
    exact ⟨result, forall_mem_cons.mpr ⟨free, others⟩⟩

theorem mapStagedSegments_respects
    (maps : ∀ segment ∈ segments, ∀ page, segment.Page page → ∀ frame flags,
      (mapPage mapper page frame flags).Respects relation)
    (protects : ∀ segment ∈ segments, ∀ page, segment.Page page → ∀ flags,
      (protectPage mapper page flags).Respects relation) :
    relation before after := by
  induction segments generalizing before mapped with
  | nil =>
    cases call
    exact refl_of relation _
  | cons segment rest induction =>
    rcases forall_mem_cons.mp maps with ⟨mapsHere, mapsLater⟩
    rcases forall_mem_cons.mp protects with ⟨protectsHere, protectsLater⟩
    rcases mapStagedSegments_cases call with ⟨stop, mapping, -, rfl⟩ | ⟨between, mapping, more⟩
    · exact (mapFrameRange_respects mapsHere).of_call mapping
    have first := (mapFrameRange_respects mapsHere).of_call mapping
    rcases more with ⟨stop, protection, -, rfl⟩ | ⟨ready, later, protection, rest, rfl⟩
    · exact trans_of relation first ((protectSegment_respects protectsHere).of_call protection)
    have second := (protectSegment_respects protectsHere).of_call protection
    have third := induction rest mapsLater protectsLater
    exact trans_of relation (trans_of relation first second) third

theorem mapStagedSegments_subset : mapped ⊆ segments := by
  induction segments generalizing before mapped with
  | nil =>
    cases call
    exact nil_subset _
  | cons segment rest induction =>
    rcases mapStagedSegments_cases call with
      ⟨stop, -, -, rfl⟩ | ⟨between, -, ⟨stop, -, -, rfl⟩ | ⟨ready, later, -, rest, rfl⟩⟩
    · exact nil_subset _
    · exact cons_subset_cons _ (nil_subset _)
    · exact cons_subset_cons _ (induction rest)

end

theorem unmapSegments_respects (unmaps : ∀ segment ∈ segments, ∀ page, segment.Page page →
      (unmapPage mapper page).Respects relation)
    (state : LoadState Space) : relation state (unmapSegments mapper segments state) := by
  induction segments generalizing state with
  | nil => exact refl_of relation state
  | cons segment rest induction =>
    rcases forall_mem_cons.mp unmaps with ⟨here, others⟩
    exact trans_of relation (unmapMemoryRange_respects here state) (induction others _)

theorem mapStagedLibrary_keepsMappings (staged : StagedRuntimeLibrary) :
    (mapStagedLibrary mapper staged).Respects (KeepsMappings mapper) := by
  intro state
  rcases call : mapStagedSegments mapper staged.segments state with ⟨_ | _, mapped, after⟩
  · rcases mapStagedSegments_keeps call (.of_space rfl) with ⟨keeps, free⟩
    have unmaps : MapsOnly mapper _ after (unmapSegments mapper mapped.reverse after) :=
      unmapSegments_respects (fun segment member page range =>
        unmapPage_mapsOnly (free segment (mem_reverse.mp member) page range)) after
    simp only [mapStagedLibrary, call]
    exact (keeps.of_mapsOnly unmaps).trans (.of_space rfl)
  · simp only [mapStagedLibrary, call]
    exact (mapStagedSegments_keeps call (.of_space rfl)).1

theorem mapStagedLibrary_mapsOnly
    (pages : ∀ segment ∈ staged.segments, ∀ page, segment.Page page → allowed page) :
    (mapStagedLibrary mapper staged).Respects (MapsOnly mapper allowed) := by
  intro state
  rcases call : mapStagedSegments mapper staged.segments state with ⟨answer, mapped, after⟩
  have maps : MapsOnly mapper allowed state after := mapStagedSegments_respects call
    (fun segment member page range => mapPage_mapsOnly (pages segment member page range))
    (fun segment member page range => protectPage_mapsOnly (pages segment member page range))
  have unmaps : MapsOnly mapper allowed after (unmapSegments mapper mapped.reverse after) :=
    unmapSegments_respects (fun segment member page range => unmapPage_mapsOnly
      (pages segment (mapStagedSegments_subset call (mem_reverse.mp member)) page range)) after
  cases answer with
  | error =>
    simp only [mapStagedLibrary, call]
    exact (maps.trans unmaps).trans (.of_space rfl)
  | ok =>
    simp only [mapStagedLibrary, call]
    exact maps

end

/-! ## Staging -/

/-- A staged segment is what the load segment asks for. -/
structure Stages (base : Nat) (segment : ElfLoadSegment) (staged : RuntimeSegmentFrames) :
    Prop where
  start : checkedAdd base segment.virtualAddress = some staged.virtualStart
  length : staged.pages.length = segment.pages

theorem Stages.segmentPage {segment : ElfLoadSegment} (stages : Stages base segment staged)
    (range : staged.Page page) :
    SegmentPage base segment page := by
  rcases range with ⟨place, -, high, rfl⟩
  refine ⟨staged.virtualStart, place, stages.start, ?_, rfl⟩
  rw [stages.length] at high
  omega

theorem Stages.load_of_mem (stages : List.Forall₂ (Stages base) loads segments)
    (member : staged ∈ segments) : ∃ segment ∈ loads, Stages base segment staged := by
  induction stages with
  | nil => cases member
  | cons here later induction =>
    rcases mem_cons.mp member with rfl | among
    · exact ⟨_, mem_cons_self, here⟩
    · rcases induction among with ⟨segment, found, matched⟩
      exact ⟨segment, mem_cons_of_mem _ found, matched⟩

theorem stagePages_ensures (payload : Octets) (index count : Nat) (state : LoadState Space) :
    (stagePages payload index count).Ensures state
      (fun pages after => pages.length = count ∧ after.space = state.space)
      (fun _ after => after.space = state.space) := by
  induction count generalizing index state with
  | zero => exact ensures_pure ⟨rfl, rfl⟩
  | succ count induction =>
    have same := fillPage_space payload index state
    refine ensures_bind (ensures_of_cases (fun {frame between} call => ?_) fun call => ?_)
    · rw [call] at same
      refine ensures_bind ((induction (index + 1) between).mono ?_ ?_)
      · rintro frames after ⟨length, still⟩
        exact ensures_pure ⟨congrArg Nat.succ length, still.trans same⟩
      · exact fun _ after still => still.trans same
    · rw [call] at same
      exact same

theorem stageSegment_ensures (image : Octets) (base : Nat) (segment : ElfLoadSegment)
    (state : LoadState Space) :
    (stageSegment image base segment).Ensures state
      (fun staged after => Stages base segment staged ∧ after.space = state.space)
      (fun _ after => after.space = state.space) := by
  refine ensures_bind (ensures_lift (fun virtualStart computed => ?_) fun _ _ => rfl)
  refine ensures_bind (ensures_lift (fun payload _ => ?_) fun _ _ => rfl)
  refine ensures_bind ((stagePages_ensures payload 0 segment.pages state).mono ?_ fun _ _ => id)
  rintro pages after ⟨length, same⟩
  exact ensures_pure ⟨⟨okOr_eq_ok.mp computed, length⟩, same⟩

theorem stageSegments_spec
    (call : stageSegments image base loads state = (answer, segments, after)) :
    after.space = state.space ∧ (answer = .ok () → List.Forall₂ (Stages base) loads segments) := by
  induction loads generalizing state segments with
  | nil =>
    cases call
    exact ⟨rfl, fun _ => .nil⟩
  | cons segment rest induction =>
    have spec := stageSegment_ensures image base segment state
    rw [stageSegments] at call
    split at call
    next staging =>
      cases call
      exact ⟨spec.stop staging, nofun⟩
    rename_i between staging
    rcases later : stageSegments image base rest between with ⟨answer', segments', after'⟩
    rw [later] at call
    cases call
    rcases spec.answer staging with ⟨stages, same⟩
    rcases induction later with ⟨still, matched⟩
    exact ⟨still.trans same, fun succeeded => .cons stages (matched succeeded)⟩

section

variable (fill : ∀ payload index, (fillPage payload index).Respects relation)

include fill

theorem stagePages_respects (payload : Octets) (index count : Nat) :
    (stagePages payload index count).Respects relation := by
  induction count generalizing index with
  | zero => exact respects_pure
  | succ count induction =>
    refine respects_bind (fill payload index) fun frame => ?_
    exact respects_bind (induction _) fun _ => respects_pure

theorem stageSegments_respects
    (call : stageSegments image base loads state = (answer, segments, after)) :
    relation state after := by
  induction loads generalizing state segments with
  | nil =>
    cases call
    exact refl_of relation _
  | cons segment rest induction =>
    have staging : (stageSegment image base segment).Respects relation := by
      refine respects_bind respects_lift fun virtualStart => ?_
      refine respects_bind respects_lift fun payload => ?_
      exact respects_bind (stagePages_respects fill _ _ _) fun _ => respects_pure
    rw [stageSegments] at call
    split at call
    next first =>
      cases call
      exact staging.of_call first
    rename_i between first
    rcases later : stageSegments image base rest between with ⟨answer', segments', after'⟩
    rw [later] at call
    cases call
    exact trans_of relation (staging.of_call first) (induction later)

theorem stageRuntimeLibrary_respects
    (release : ∀ segments state, relation state (releaseFrames segments state))
    (machine : ElfMachine) (base : Nat) (image : Octets) :
    (stageRuntimeLibrary machine base image).Respects relation := by
  refine respects_bind respects_lift fun linked state => ?_
  rcases call : stageSegments image base linked.loads state with ⟨_ | _, segments, after⟩
  · exact trans_of relation (stageSegments_respects fill call) (release segments after)
  · exact stageSegments_respects fill call

end

theorem planRuntimeLibrary_eq_ok (planned : planRuntimeLibrary machine base image = .ok linked) :
    ∃ plan, planElfDependencyInner image machine = .ok plan ∧ linked.loads = plan.loads ∧
      linked.loadBase = base := by
  simp only [planRuntimeLibrary, bind_eq_ok, ensure_eq_ok, exists_const] at planned
  rcases planned with ⟨-, plan, inner, dynamic, -, result⟩
  cases result
  exact ⟨plan, inner, rfl, rfl⟩

theorem stageRuntimeLibrary_ensures (machine : ElfMachine) (base : Nat) (image : Octets)
    (state : LoadState Space) :
    (stageRuntimeLibrary machine base image).Ensures state
      (fun staged after => after.space = state.space ∧ ∃ plan,
        planElfDependencyInner image machine = .ok plan ∧
        List.Forall₂ (Stages base) plan.loads staged.segments)
      (fun _ after => after.space = state.space) := by
  refine ensures_bind (ensures_lift (fun linked planned => ?_) fun _ _ => rfl)
  rcases planRuntimeLibrary_eq_ok planned with ⟨plan, inner, loads, -⟩
  rcases call : stageSegments image base linked.loads state with ⟨_ | _, segments, after⟩
  · simp only [Ensures, call]
    exact (stageSegments_spec call).1
  rcases stageSegments_spec call with ⟨same, matched⟩
  simp only [Ensures, call]
  exact ⟨same, plan, inner, loads ▸ matched rfl⟩

theorem writeStagedWord_respects
    (stores : ∀ target value address, (storeWord target value address).Respects relation)
    (segments : List RuntimeSegmentFrames) (targets : List Nat) :
    WriteRespects (writeStagedWord segments) targets relation := by
  intro target _ value
  unfold writeStagedWord
  split
  · exact stores _ _ _
  · exact refl_of relation

/-! ## Calls -/

/-- A relation between address spaces, for the tasks that own them. -/
def OnLoad (relation : LoadState Space → LoadState Space → Prop)
    (before after : TaskSpace Space) : Prop :=
  relation before.load after.load

instance : IsPreorder (TaskSpace Space) (OnLoad relation) where
  refl task := refl_of relation task.load
  trans _ _ _ first second := trans_of relation first second

section

variable {relation : TaskSpace Space → TaskSpace Space → Prop}
  [IsPreorder (TaskSpace Space) relation]

theorem require_respects [Decidable condition] :
    (require condition error : Call Space Unit).Respects relation := by
  unfold require
  split
  · exact respects_pure
  · exact refl_of relation

section

variable (libraries : ∀ task libraries, relation task { task with libraries := libraries })

include libraries

theorem beginRuntimeLoad_respects : (beginRuntimeLoad : Call Space _).Respects relation := by
  intro task
  unfold beginRuntimeLoad
  split
  · exact refl_of relation task
  split
  · exact refl_of relation task
  · exact libraries task _

theorem commitRuntimeLoad_respects (handle base mappedBytes : Nat) (table : SymbolNamespace) :
    (commitRuntimeLoad handle base mappedBytes table : Call Space Unit).Respects relation := by
  intro task
  unfold commitRuntimeLoad
  split
  · exact refl_of relation task
  · exact libraries task _

end

variable {staged : StagedRuntimeLibrary}
  (release : ∀ task, relation task { task with load := releaseFrames staged.segments task.load })

include release

theorem orRelease_respects (respects : code.Respects relation) :
    (orRelease staged code).Respects relation := by
  intro task
  have related := respects task
  rcases call : code task with ⟨stop | answer, after⟩
  · rw [call] at related
    simp only [orRelease, call]
    exact trans_of relation related (release after)
  rw [call] at related
  simp only [orRelease, call]
  exact related

theorem installStaged_respects
    (libraries : ∀ task libraries, relation task { task with libraries := libraries })
    (resolves : ∀ table,
      (onLoad (resolveStaged fuel staged table) mapLibraryLoadError).Respects relation)
    (maps : (onLoad (mapStagedLibrary mapper staged) fun _ => .busy).Respects relation)
    (base : Nat) : (installStaged mapper fuel base staged).Respects relation := by
  refine respects_bind (orRelease_respects release (beginRuntimeLoad_respects libraries))
    fun _ => ?_
  refine respects_bind (orRelease_respects release (resolves _)) fun _ => ?_
  refine respects_bind maps fun _ => ?_
  exact respects_bind (commitRuntimeLoad_respects libraries _ _ _ _) fun _ => respects_pure

end

section

omit [IsPreorder (LoadState Space) relation] in
theorem onLoad_respects (respects : code.Respects relation)
    (report : LoadError → SyscallError) : (onLoad code report).Respects (OnLoad relation) := by
  intro task
  have related := respects task.load
  rcases call : code task.load with ⟨(error | _) | answer, load⟩ <;>
  · rw [call] at related
    simp only [onLoad, call]
    exact related

variable {staged : StagedRuntimeLibrary}

section

variable (writes : WriteRespects (writeStagedWord staged.segments) staged.linked.targets relation)

include writes

theorem resolveStaged_respects (fuel : Nat) (table : SymbolNamespace) :
    (resolveStaged fuel staged table).Respects relation := by
  refine respects_bind exportInto_respects fun table => ?_
  exact respects_bind (applyRelocations_respects writes _) fun _ => respects_pure

/-- Relocating and mapping a staged library, as far as its address space goes. -/
theorem installStaged_onLoad
    (release : ∀ state, relation state (releaseFrames staged.segments state))
    (maps : (mapStagedLibrary mapper staged).Respects relation) (fuel base : Nat) :
    (installStaged mapper fuel base staged).Respects (OnLoad relation) :=
  installStaged_respects (fun task => release task.load) (fun task _ => refl_of relation task.load)
    (fun table => onLoad_respects (resolveStaged_respects writes fuel table) _)
    (onLoad_respects maps _) base

end

end

section

variable {task : TaskSpace Space}

theorem require_ensures [Decidable condition] :
    (require condition error : Call Space Unit).Ensures task
    (fun _ after => condition ∧ after = task)
      (fun _ after => after = task) := by
  unfold require
  split
  next holds => exact ensures_pure ⟨holds, rfl⟩
  · exact rfl

theorem onLoad_ensures (ensures : code.Ensures task.load answered fun _ => stopped) :
    (onLoad code report).Ensures task
      (fun answer after => ∃ load, answered answer load ∧ after = { task with load := load })
      (fun _ after => ∃ load, stopped load ∧ after = { task with load := load }) := by
  rcases call : code task.load with ⟨(error | _) | answer, load⟩ <;>
    simp only [Ensures, onLoad, call]
  · exact ⟨load, ensures.stop call, rfl⟩
  · exact ⟨load, ensures.stop call, rfl⟩
  · exact ⟨load, ensures.answer call, rfl⟩

structure Loadable (image : Octets) (plan : ElfDependencyPlan) : Prop where
  planned : planElfDependencyInner image .x86_64 = .ok plan
  nonempty : plan.mappingSpanBytes ≠ 0
  bounded : plan.mappingSpanBytes ≤ maxRuntimeLibraryMappingBytes

theorem planLibrary_ensures (image : Octets) :
    (planLibrary image).Ensures task (fun plan after => Loadable image plan ∧ after = task)
      (fun _ after => after = task) := by
  refine ensures_bind (require_ensures.mono ?_ fun _ _ => id)
  rintro _ _ ⟨-, rfl⟩
  refine ensures_bind (require_ensures.mono ?_ fun _ _ => id)
  rintro _ task ⟨-, rfl⟩
  have planned : (liftM (planElfDependency image .x86_64) : Load Space _).Ensures task.load
      (fun plan load => planElfDependencyInner image .x86_64 = .ok plan ∧ load = task.load)
      fun _ load => load = task.load :=
    ensures_lift (fun plan computed => ⟨planElfDependency_eq_ok.mp computed, rfl⟩) fun _ _ => rfl
  refine ensures_bind ((onLoad_ensures planned).mono ?_ ?_)
  · rintro plan _ ⟨_, ⟨inner, rfl⟩, rfl⟩
    refine ensures_bind (require_ensures.mono ?_ fun _ _ => id)
    rintro _ _ ⟨⟨nonempty, bounded⟩, rfl⟩
    exact ensures_pure ⟨⟨inner, nonempty, bounded⟩, rfl⟩
  · rintro _ _ ⟨_, rfl, rfl⟩
    rfl

theorem reserveMappingRange_ensures (sizeBytes : Nat) :
    (reserveMappingRange sizeBytes).Ensures task
      (fun base after => base = task.nextMappingBase ∧ after.load = task.load) fun _ _ => False :=
  ⟨rfl, rfl⟩

/-- Until the library is installed only frames change, so a relation that looks
at mappings alone depends on the installation. -/
theorem handleTaskLoadLibrary_relates
    (unmapped : ∀ {before after : LoadState Space}, after.space = before.space →
      relation before after)
    (install : ∀ plan staged, Loadable image plan →
      List.Forall₂ (Stages task.nextMappingBase) plan.loads staged.segments →
      (installStaged mapper fuel task.nextMappingBase staged).Respects (OnLoad relation)) :
    OnLoad relation task (handleTaskLoadLibrary mapper fuel image task).2 := by
  have outcome : (handleTaskLoadLibrary mapper fuel image).Ensures task
      (fun _ after => OnLoad relation task after) fun _ after => OnLoad relation task after := by
    refine ensures_bind ((planLibrary_ensures image).mono ?_ ?_)
    · rintro plan task ⟨loadable, rfl⟩
      refine ensures_bind ((reserveMappingRange_ensures _).mono ?_ fun _ _ => False.elim)
      rintro base reserved ⟨rfl, unchanged⟩
      have staging := stageRuntimeLibrary_ensures .x86_64 task.nextMappingBase image reserved.load
      refine ensures_bind ((onLoad_ensures staging).mono ?_ ?_)
      · rintro staged after ⟨load, ⟨same, plan', planned, stages⟩, rfl⟩
        cases planned.symm.trans loadable.planned
        rw [unchanged] at same
        have respects := install plan staged loadable stages
        refine ensures_of_cases (fun call => ?_) fun call => ?_
        all_goals exact trans_of (OnLoad relation) (unmapped same) (respects.of_call call)
      rintro _ _ ⟨load, same, rfl⟩
      rw [unchanged] at same
      exact unmapped same
    · rintro _ _ rfl
      exact unmapped rfl
  rcases call : handleTaskLoadLibrary mapper fuel image task with ⟨stop | answer, after⟩
  · exact outcome.stop call
  · exact outcome.answer call

end

end ServiceOS.User
