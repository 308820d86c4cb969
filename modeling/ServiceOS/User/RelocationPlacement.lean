import ServiceOS.User.RuntimeGrowth

/-! # Where relocation stores its words

A segment that is loaded with its image is relocated through its first frame, a
staged one through the list of its frames. -/

namespace ServiceOS.User

open Memory Word ByteString Fallible List

variable (mapper : UserPageMapper Space)

/-- Every byte of the word is in the frame of its page, at its place in the page. -/
def RelocationWrite.Placed (space : Space) (write : RelocationWrite) : Prop :=
  ∀ byte < 8, ∃ frame,
    mapper.frameOf space ((write.target + byte) / pageSizeBytes * pageSizeBytes) = some frame ∧
    write.address + byte = frame + (write.target + byte) % pageSizeBytes

def Stores (good : RelocationWrite → Prop) (before after : LoadState Space) : Prop :=
  ∃ new, after.relocated = new ++ before.relocated ∧ ∀ write ∈ new, good write

def Relocates (good : RelocationWrite → Prop) (before after : LoadState Space) : Prop :=
  after.space = before.space ∧ Stores good before after

def SameWords (before after : LoadState Space) : Prop := after.relocated = before.relocated

variable {write : RelocationWrite} {before after : LoadState Space}

section

instance : IsPreorder (LoadState Space) (Stores good) where
  refl _ := ⟨[], rfl, nofun⟩
  trans := by
    rintro _ _ _ ⟨first, grown, firstGood⟩ ⟨second, grownAgain, secondGood⟩
    refine ⟨second ++ first, ?_, forall_mem_append.mpr ⟨secondGood, firstGood⟩⟩
    rw [grownAgain, grown, append_assoc]

instance : IsPreorder (LoadState Space) (Relocates good) where
  refl state := ⟨rfl, refl_of (Stores good) state⟩
  trans _ _ _ first second :=
    ⟨second.1.trans first.1, trans_of (Stores good) first.2 second.2⟩

instance : IsPreorder (LoadState Space) SameWords where
  refl _ := rfl
  trans _ _ _ first second := Eq.trans second first

theorem SameWords.stores (same : SameWords before after) : Stores good before after :=
  ⟨[], same, nofun⟩

theorem Stores.mono (stores : Stores good before after)
    (improves : ∀ {write}, good write → better write) : Stores better before after := by
  rcases stores with ⟨new, grown, all⟩
  exact ⟨new, grown, fun write member => improves (all write member)⟩

theorem Stores.trans (first : Stores good before between) (second : Stores good between after) :
    Stores good before after := trans_of (Stores good) first second

variable {mapper}

theorem KeepsMappings.frameOf (keeps : KeepsMappings mapper before after)
    (found : mapper.frameOf before.space page = some frame) :
    mapper.frameOf after.space page = some frame := by
  rcases Option.map_eq_some_iff.mp found with ⟨entry, mapped, rfl⟩
  exact Option.map_eq_some_iff.mpr ⟨entry, keeps page entry mapped, rfl⟩

theorem RelocationWrite.Placed.keeps (placed : write.Placed mapper before.space)
    (keeps : KeepsMappings mapper before after) : write.Placed mapper after.space := by
  intro byte inWord
  rcases placed byte inWord with ⟨frame, found, place⟩
  exact ⟨frame, keeps.frameOf found, place⟩

theorem fillPage_sameWords (payload : Octets) (index : Nat) :
    (fillPage payload index : Load Space Nat).Respects SameWords := by
  intro state
  rcases granting : state.frames.allocate with ⟨_ | frame, frames⟩
  · rw [fillPage_of_refused granting]
    rfl
  · rw [fillPage_of_granted granting]
    rfl

theorem mapPage_sameWords (mapper : UserPageMapper Space) (page frame : Nat)
    (flags : MappingFlags) : (mapPage mapper page frame flags).Respects SameWords := by
  intro state
  unfold mapPage
  split <;> rfl

theorem sameWords_admits : Admits mapper (fun _ => True) SameWords :=
  .of_steps fillPage_sameWords fun _ => mapPage_sameWords mapper _

end

/-! ## Segments relocated through their first frame -/

/-- The first pages of a segment are in frames that follow one another. -/
def MappedLoadSegment.Consecutive (space : Space)
    (segment : MappedLoadSegment) (count : Nat) : Prop :=
  ∀ index < count, mapper.frameOf space (segment.virtualStart + index * pageSizeBytes) =
    some (segment.frameBase + index * pageSizeBytes)

instance (space : Space) (segment : MappedLoadSegment)
    (count : Nat) : Decidable (segment.Consecutive mapper space count) :=
  inferInstanceAs (Decidable (∀ index < count, _))

/-- The pages of the segment a word lies in follow one another up to the page the
word ends on. -/
def BackedInOrder (space : Space) (mapped : List MappedLoadSegment) (target : Nat) : Prop :=
  ∀ segment ∈ mapped.find? (·.Holds target),
    segment.Consecutive mapper space ((target - segment.virtualStart + 7) / pageSizeBytes + 1)
deriving Decidable

section

variable {mapper}

theorem MappedLoadSegment.Consecutive.placed {segment : MappedLoadSegment}
    (consecutive : segment.Consecutive mapper space
      ((target - segment.virtualStart + 7) / pageSizeBytes + 1)) (holds : segment.Holds target)
    (value : Nat) :
    RelocationWrite.Placed mapper space
      ⟨target, value, segment.frameBase + (target - segment.virtualStart)⟩ := by
  intro byte inWord
  have aligned : segment.virtualStart % pageSizeBytes = 0 := by
    have first := consecutive 0 (Nat.succ_pos _)
    exact mapper.frameOf_aligned first
  have start := holds.1
  have page : (target + byte) / pageSizeBytes * pageSizeBytes =
      segment.virtualStart + (target - segment.virtualStart + byte) / pageSizeBytes *
        pageSizeBytes := by
    simp only [pageSizeBytes] at *
    omega
  refine ⟨_, (congrArg _ page).trans (consecutive _ ?_), ?_⟩
  · simp only [pageSizeBytes] at *
    omega
  · simp only [pageSizeBytes] at *
    omega

theorem writeMappedWord_relocates {mapped : List MappedLoadSegment}
    (backed : ∀ target ∈ targets, BackedInOrder mapper space mapped target) :
    WriteRespects (writeMappedWord mapped : Nat → Nat → Load Space Unit) targets
      (Relocates (RelocationWrite.Placed mapper space)) := by
  intro target member value
  unfold writeMappedWord
  split
  next segment found =>
    have holds : segment.Holds target := by simpa using find?_some found
    have placed := (backed target member segment found).placed holds value
    exact fun state => ⟨rfl, [_], rfl, forall_mem_singleton.mpr placed⟩
  · exact fun state => ⟨rfl, [], rfl, nofun⟩

variable (mapper)

/-- Every word of an image lies in frames that follow one another. -/
def PendingElfModule.InOrder (module : PendingElfModule) (state : LoadState Space) : Prop :=
  ∀ target ∈ module.linked.targets, BackedInOrder mapper state.space module.mapped target
deriving Decidable

def elfBeforeRelocation (machine : ElfMachine)
    (userStackTop : Nat) (image : Octets) : Load Space PendingElfModule := do
  let bottom := wrappingSub userStackTop (userStackPages * pageSizeBytes)
  let plan ← planElf64Image image machine bottom
  let mapped ← mapImageSegments mapper image plan bottom plan.headers.loads
  let (info, tables) ← readDynamic image plan.headers.loads plan.headers.dynamicRange
  return ⟨⟨image, plan.headers.loads, plan.loadBase, info, tables⟩, mapped.map Prod.fst⟩

/-- The companions of a flat image when their relocation begins. -/
def flatBeforeRelocation (fuel : Nat) (machine : ElfMachine)
    (resolver : Option ImageResolver) (image : Octets) : Load Space Companions := do
  let header ← parseFlatImage image
  let _ ← loadFlatPages mapper header image
  loadDependencies mapper fuel machine resolver header

/-- What a load relocates lies in frames that follow one another. -/
structure InOrder (fuel : Nat) (machine : ElfMachine)
    (resolver : Option ImageResolver) (userStackTop : Nat) (image : Octets)
    (state : LoadState Space) : Prop where
  elf : (elfBeforeRelocation mapper machine userStackTop image).Ensures state
    (fun module between => module.InOrder mapper between) fun _ _ => True
  companions : (flatBeforeRelocation mapper fuel machine resolver image).Ensures state
    (fun companions between => ∀ module ∈ companions.modules, module.InOrder mapper between)
    fun _ _ => True

def WellPlaced (before after : LoadState Space) : Prop :=
  Stores (RelocationWrite.Placed mapper after.space) before after

variable {mapper}

theorem SameWords.wellPlaced (same : SameWords before after) :
    WellPlaced mapper before after := same.stores

section

variable (relocates : Relocates (RelocationWrite.Placed mapper before.space) before after)

include relocates

/-- Loading before and after the relocation leaves the words where they are. -/
theorem Relocates.wellPlaced (early : SameWords start before) (later : SameWords after stop)
    (keeps : KeepsMappings mapper after stop) : WellPlaced mapper start stop := by
  have kept : KeepsMappings mapper before stop := KeepsMappings.trans (.of_space relocates.1) keeps
  have placed : Stores (RelocationWrite.Placed mapper stop.space) before after :=
    relocates.2.mono fun placed => placed.keeps kept
  exact (early.stores.trans placed).trans later.stores

theorem Relocates.wellPlaced_of_stack (early : SameWords start before)
    (stack : loadStack mapper bottom after = (outcome, stop)) : WellPlaced mapper start stop :=
  relocates.wellPlaced early ((loadStack_respects sameWords_admits).of_call stack)
    ((loadStack_respects keepsMappings_admits).of_call stack)

end

theorem loadElf64Image_wellPlaced
    (inOrder : (elfBeforeRelocation mapper machine stackTop image).Ensures state
      (fun module between => module.InOrder mapper between) fun _ _ => True) :
    (loadElf64Image mapper fuel machine stackTop image).Ensures state
      (fun _ after => WellPlaced mapper state after) fun _ after =>
        WellPlaced mapper state after := by
  refine ensures_bind (ensures_lift (fun plan planned => ?_) fun _ _ => SameWords.wellPlaced rfl)
  refine ensures_bind (ensures_of_cases (fun {mapped between} mapping => ?_) fun mapping => ?_)
  · have early := (mapImageSegments_respects sameWords_admits).of_call mapping
    have inOrder := (inOrder.of_bind (lift_of_ok planned state)).of_bind mapping
    have backed : ∀ info tables,
        readDynamic image plan.headers.loads plan.headers.dynamicRange = .ok (info, tables) →
        PendingElfModule.InOrder mapper
          ⟨⟨image, plan.headers.loads, plan.loadBase, info, tables⟩, mapped.map Prod.fst⟩ between :=
      fun info tables read => inOrder.of_bind (lift_of_ok read between)
    have linking : (linkImage fuel image plan (mapped.map Prod.fst)).Respects
        (Relocates (RelocationWrite.Placed mapper between.space)) :=
      linkImage_respects fun info tables read => writeMappedWord_relocates (backed info tables read)
    refine ensures_bind ((linking.ensures between).mono (fun _ linked relocates => ?_)
      fun _ linked relocates => relocates.wellPlaced early rfl (.of_space rfl))
    refine ensures_bind (ensures_lift (fun entryPoint _ => ?_) fun _ _ => ?_)
    · exact ensures_bind (ensures_of_cases (relocates.wellPlaced_of_stack early)
        (relocates.wellPlaced_of_stack early))
    · exact relocates.wellPlaced early rfl (.of_space rfl)
  · exact ((mapImageSegments_respects sameWords_admits).of_call mapping).wellPlaced

/-- A flat image's own pages are not relocated, those of its companions are. -/
theorem loadFlatImage_wellPlaced
    (inOrder : (flatBeforeRelocation mapper fuel machine resolver image).Ensures state
      (fun companions between => ∀ module ∈ companions.modules, module.InOrder mapper between)
      fun _ _ => True) :
    (loadFlatImage mapper fuel machine resolver image).Ensures state
      (fun _ after => WellPlaced mapper state after) fun _ after =>
        WellPlaced mapper state after := by
  refine ensures_bind (ensures_lift (fun header parsed => ?_) fun _ _ => SameWords.wellPlaced rfl)
  have pages : (loadFlatPages mapper header image).Respects SameWords :=
    loadPages_respects sameWords_admits fun _ _ _ => trivial
  refine ensures_bind (ensures_of_cases (fun {frames between} loading => ?_) fun loading =>
    (pages.of_call loading).wellPlaced)
  have dependencies : (loadDependencies mapper fuel machine resolver header).Respects SameWords :=
    loadDependencies_respects sameWords_admits
  refine ensures_bind (ensures_of_cases (fun {companions mapped} mapping => ?_) fun mapping => ?_)
  · have early : SameWords state mapped :=
      trans_of SameWords (pages.of_call loading) (dependencies.of_call mapping)
    have backed : ∀ module ∈ companions.modules, module.InOrder mapper mapped :=
      ((inOrder.of_bind (lift_of_ok parsed state)).of_bind loading).answer mapping
    have linking : (relocateModules companions.space companions.modules).Respects
        (Relocates (RelocationWrite.Placed mapper mapped.space)) :=
      relocateModules_respects
        (fun module member => writeMappedWord_relocates (backed module member)) _
    refine ensures_bind ((linking.ensures mapped).mono (fun _ linked relocates => ?_)
      fun _ linked relocates => relocates.wellPlaced early rfl (.of_space rfl))
    exact ensures_bind (ensures_of_cases (relocates.wellPlaced_of_stack early)
      (relocates.wellPlaced_of_stack early))
  · exact SameWords.wellPlaced
      (trans_of SameWords (pages.of_call loading) (dependencies.of_call mapping))

end

/-! ## Segments relocated through their list of frames -/

/-- The word is where the frames of a staged segment put it. -/
def RelocationWrite.Staged (segments : List RuntimeSegmentFrames)
    (write : RelocationWrite) : Prop :=
  write.target < limit ∧ ∃ segment ∈ segments, segment.locate write.target = some write.address

def RuntimeSegmentFrames.Mapped (space : Space) (segment : RuntimeSegmentFrames) : Prop :=
  ∀ place frame, segment.pages[place]? = some frame →
    mapper.frameOf space (wrappingAdd segment.virtualStart (place * pageSizeBytes)) = some frame

def KeepsFrames (before after : LoadState Space) : Prop :=
  ∀ page, mapper.frameOf after.space page = mapper.frameOf before.space page

variable {segments : List RuntimeSegmentFrames}

section

variable {mapper}

instance : IsPreorder (LoadState Space) (KeepsFrames mapper) where
  refl _ _ := rfl
  trans _ _ _ first second page := (second page).trans (first page)

theorem LinkedImage.target_lt {linked : LinkedImage}
    (member : target ∈ linked.targets) : target < limit := by
  rcases mem_flatMap.mp member with ⟨table, -, inTable⟩
  unfold LinkedImage.tableTargets at inTable
  rcases located : locateFileRange linked.image linked.loads table.1 table.2 with _ | bytes
  · rw [located] at inTable
    cases inTable
  rw [located] at inTable
  rcases mem_filterMap.mp inTable with ⟨entryIndex, -, named⟩
  rcases Option.map_eq_some_iff.mp named with ⟨offset, -, rfl⟩
  exact Nat.mod_lt _ (by decide)

theorem writeStagedWord_relocates (segments : List RuntimeSegmentFrames) (linked : LinkedImage) :
    WriteRespects (writeStagedWord segments : Nat → Nat → Load Space Unit) linked.targets
      (Relocates (RelocationWrite.Staged segments)) := by
  intro target member value
  unfold writeStagedWord
  split
  next address found =>
    have staged : RelocationWrite.Staged segments ⟨target, value, address⟩ :=
      ⟨LinkedImage.target_lt member, exists_of_findSome?_eq_some found⟩
    exact fun state => ⟨rfl, [_], rfl, forall_mem_singleton.mpr staged⟩
  · exact fun state => ⟨rfl, [], rfl, nofun⟩

theorem protectPage_keepsFrames (page : Nat) (flags : MappingFlags) :
    (protectPage mapper page flags).Respects (KeepsFrames mapper) := by
  intro state other
  rcases call : mapper.updateProtection state.space page flags with ⟨answer, space⟩
  have same : mapper.frameOf space other = mapper.frameOf state.space other := by
    by_cases here : other = page
    · rw [here]
      exact mapper.updateProtection_frame call
    · exact congrArg (Option.map Prod.fst) (mapper.updateProtection_other call other here)
  cases answer <;> simpa only [protectPage, call] using same

theorem mapFrameRange_mapped
    (call : mapFrameRange mapper start writable index frames before = (.ok (), after))
    (found : frames[place]? = some frame) :
    mapper.frameOf after.space (wrappingAdd start ((index + place) * pageSizeBytes)) =
      some frame := by
  induction frames generalizing index place before with
  | nil => cases found
  | cons head rest induction =>
    rcases first : mapPage mapper (wrappingAdd start (index * pageSizeBytes)) head
      ⟨writable, false, true⟩ before with ⟨_ | answer, between⟩
    · rw [mapFrameRange, bind_of_stop first] at call
      cases call
    rw [mapFrameRange, bind_of_answer first] at call
    cases place with
    | zero =>
      cases found
      rcases mapPage_cases first with ⟨_, failed, -⟩ | ⟨-, -, -, result⟩
      · cases failed
      apply (mapFrameRange_keepsMappings.of_call call).frameOf
      rw [UserPageMapper.frameOf, result, Nat.add_zero, if_pos rfl]
      rfl
    | succ =>
      have later := induction call found
      rwa [Nat.add_right_comm] at later

theorem mapStagedSegments_mapped
    (call : mapStagedSegments mapper segments before = (.ok (), mapped, after)) :
    ∀ segment ∈ segments, segment.Mapped mapper after.space := by
  induction segments generalizing before mapped with
  | nil => exact nofun
  | cons segment rest induction =>
    rcases mapStagedSegments_cases call with
      ⟨_, -, failed, -⟩ | ⟨between, mapping,
        ⟨_, -, failed, -⟩ | ⟨ready, later, protection, rest, -⟩⟩
    · cases failed
    · cases failed
    refine forall_mem_cons.mpr ⟨fun place frame found => ?_, induction rest⟩
    have mappedFirst := mapFrameRange_mapped mapping found
    have protects : KeepsFrames mapper between ready :=
      (protectSegment_respects fun _ _ => protectPage_keepsFrames _).of_call protection
    have keeps := (mapStagedSegments_keeps rest (.of_space rfl)).1
    rw [Nat.zero_add, ← protects] at mappedFirst
    exact keeps.frameOf mappedFirst

theorem mapStagedLibrary_ensures (staged : StagedRuntimeLibrary) (state : LoadState Space) :
    (mapStagedLibrary mapper staged).Ensures state
      (fun _ after => SameWords state after ∧
        ∀ segment ∈ staged.segments, segment.Mapped mapper after.space) fun _ _ => True := by
  rcases call : mapStagedSegments mapper staged.segments state with ⟨_ | _, mapped, after⟩
  · simp only [Ensures, mapStagedLibrary, call]
  simp only [Ensures, mapStagedLibrary, call]
  refine ⟨?_, mapStagedSegments_mapped call⟩
  exact mapStagedSegments_respects call (fun _ _ _ _ => mapPage_sameWords mapper _)
    fun _ _ _ _ _ state => by unfold protectPage; split <;> rfl

theorem RelocationWrite.Staged.placed (staged : write.Staged segments)
    (mapped : ∀ segment ∈ segments, segment.Mapped mapper space) : write.Placed mapper space := by
  rcases staged with ⟨inSpace, segment, member, located⟩
  rcases Option.ite_none_right_eq_some.mp located with ⟨start, inSegment⟩
  rcases Option.ite_none_right_eq_some.mp inSegment with ⟨inPage, found⟩
  rcases Option.map_eq_some_iff.mp found with ⟨frame, page, address⟩
  have backed := mapped segment member _ frame page
  rw [wrappingAdd_of_lt (by simp only [pageSizeBytes] at *; omega)] at backed
  have aligned := mapper.frameOf_aligned backed
  intro byte inWord
  refine ⟨frame, (congrArg _ ?_).trans backed, ?_⟩
  · simp only [pageSizeBytes] at *
    omega
  · simp only [pageSizeBytes] at *
    omega

theorem orRelease_ensures {Answer : Type} {code : Call Space Answer}
    {answered : Answer → TaskSpace Space → Prop}
    (ensures : code.Ensures task answered fun _ _ => True) :
    (orRelease staged code).Ensures task answered fun _ _ => True := by
  rcases call : code task with ⟨stop | answer, after⟩
  · simp only [Ensures, orRelease, call]
  · simp only [Ensures, orRelease, call]
    exact ensures.answer call

/-- A library that has been installed was relocated in the frames it is mapped to. -/
theorem installStaged_wellPlaced (fuel base : Nat) (staged : StagedRuntimeLibrary)
    (task : TaskSpace Space) :
    (installStaged mapper fuel base staged).Ensures task
      (fun _ after => WellPlaced mapper task.load after.load) fun _ _ => True := by
  have begins : (beginRuntimeLoad : Call Space _).Respects (OnLoad Eq) :=
    beginRuntimeLoad_respects fun _ _ => rfl
  refine ensures_bind (orRelease_ensures ((begins.ensures task).mono ?_ fun _ _ _ => trivial))
  rintro ⟨handle, table⟩ begun (unchanged : task.load = begun.load)
  have resolving : (resolveStaged fuel staged table : Load Space _).Respects
      (Relocates (RelocationWrite.Staged staged.segments)) :=
    resolveStaged_respects (writeStagedWord_relocates _ _) fuel table
  refine ensures_bind (orRelease_ensures
    ((onLoad_ensures (resolving.ensures begun.load)).mono ?_ fun _ _ _ => trivial))
  rintro table _ ⟨load, relocates, rfl⟩
  refine ensures_bind ((onLoad_ensures (mapStagedLibrary_ensures staged load)).mono ?_
    fun _ _ _ => trivial)
  rintro _ _ ⟨mapped, ⟨same, backed⟩, rfl⟩
  have placed : WellPlaced mapper task.load mapped := by
    rw [unchanged]
    exact (relocates.2.mono fun staged => staged.placed backed).trans same.stores
  have commits : (commitRuntimeLoad handle base staged.mappingBytes table :
    Call Space Unit).Respects
      (OnLoad Eq) := commitRuntimeLoad_respects (fun _ _ => rfl) _ _ _ _
  refine ensures_bind ((commits.ensures _).mono ?_ fun _ _ _ => trivial)
  rintro _ after (committed : mapped = after.load)
  exact ensures_pure (committed ▸ placed)

theorem handleTaskLoadLibrary_wellPlaced (fuel : Nat) (image : Octets)
    (task : TaskSpace Space) :
    (handleTaskLoadLibrary mapper fuel image).Ensures task
      (fun _ after => WellPlaced mapper task.load after.load) fun _ _ => True := by
  refine ensures_bind ((planLibrary_ensures image).mono ?_ fun _ _ _ => trivial)
  rintro plan task ⟨-, rfl⟩
  refine ensures_bind ((reserveMappingRange_ensures _).mono ?_ fun _ _ _ => trivial)
  rintro base reserved ⟨-, unchanged⟩
  have staging : (stageRuntimeLibrary .x86_64 base image : Load Space _).Respects SameWords :=
    stageRuntimeLibrary_respects fillPage_sameWords (fun _ _ => rfl) _ _ _
  refine ensures_bind ((onLoad_ensures (staging.ensures reserved.load)).mono ?_
    fun _ _ _ => trivial)
  rintro staged _ ⟨load, same, rfl⟩
  refine (installStaged_wellPlaced fuel base staged _).mono (fun _ after placed => ?_)
    fun _ _ => id
  exact Stores.trans (unchanged ▸ same.stores) placed

end

/-! ## The two writers -/

/-- The record of the same segment, had it been loaded with its image. -/
def RuntimeSegmentFrames.record (segment : RuntimeSegmentFrames) : Option MappedLoadSegment :=
  MappedLoadSegment.ofFrames segment.virtualStart segment.pages

def mappedRecords (segments : List RuntimeSegmentFrames) : List MappedLoadSegment :=
  segments.filterMap RuntimeSegmentFrames.record

/-- A word that lies in the segment does not cross the end of a page, and the
frames follow one another up to its page. -/
def RuntimeSegmentFrames.InOrder (segment : RuntimeSegmentFrames) (target : Nat) : Prop :=
  segment.virtualStart ≤ target →
    target - segment.virtualStart + 8 ≤ segment.pages.length * pageSizeBytes →
    (target - segment.virtualStart) % pageSizeBytes + 8 ≤ pageSizeBytes ∧
      ∀ index ≤ (target - segment.virtualStart) / pageSizeBytes,
        segment.pages[index]? = segment.pages.head?.map (· + index * pageSizeBytes)

section

variable {segment : RuntimeSegmentFrames}

theorem locate_of_holds (made : segment.record = some record) (inOrder : segment.InOrder target)
    (holds : record.Holds target) :
    segment.locate target = some (record.frameBase + (target - record.virtualStart)) := by
  rcases Option.map_eq_some_iff.mp made with ⟨frameBase, first, rfl⟩
  rcases inOrder holds.1 holds.2 with ⟨inPage, follow⟩
  have page := follow _ le_rfl
  rw [first] at page
  have whole := Nat.div_add_mod' (target - segment.virtualStart) pageSizeBytes
  simp only [RuntimeSegmentFrames.locate, if_pos holds.1, if_pos inPage, page, Option.map_some,
    Nat.add_assoc, whole]

theorem locate_of_not_holds (made : segment.record = some record) (outside : ¬record.Holds target) :
    segment.locate target = none := by
  rcases Option.map_eq_some_iff.mp made with ⟨frameBase, -, rfl⟩
  refine Option.eq_none_iff_forall_ne_some.mpr fun address located => outside ?_
  rcases Option.ite_none_right_eq_some.mp located with ⟨start, inSegment⟩
  rcases Option.ite_none_right_eq_some.mp inSegment with ⟨inPage, found⟩
  rcases Option.map_eq_some_iff.mp found with ⟨frame, page, -⟩
  rcases List.getElem?_eq_some_iff.mp page with ⟨below, -⟩
  refine ⟨start, ?_⟩
  simp only [pageSizeBytes] at *
  omega

variable (inOrder : ∀ segment ∈ segments, segment.InOrder target)

include inOrder

theorem find?_mappedRecords : segments.findSome? (·.locate target) =
      ((mappedRecords segments).find? (·.Holds target)).map
        fun record => record.frameBase + (target - record.virtualStart) := by
  induction segments with
  | nil => rfl
  | cons segment rest induction =>
    rcases forall_mem_cons.mp inOrder with ⟨here, later⟩
    rcases made : segment.record with _ | record
    · have empty : segment.pages = [] := head?_eq_none_iff.mp
        (Option.map_eq_none_iff.mp made)
      have nowhere : segment.locate target = none := by simp [RuntimeSegmentFrames.locate, empty]
      rw [mappedRecords, filterMap_cons_none made, findSome?_cons, nowhere]
      exact induction later
    rw [mappedRecords, filterMap_cons_some made]
    by_cases holds : record.Holds target
    · rw [findSome?_cons, locate_of_holds made here holds, find?_cons_of_pos]
      · rfl
      · exact decide_eq_true holds
    rw [findSome?_cons, locate_of_not_holds made holds, find?_cons_of_neg]
    · exact induction later
    · exact fun held => holds (of_decide_eq_true held)

end

/-! ## Relocated words -/

/-- A relocated word is stored in the frames its pages are mapped to: for an image
and its companions when the frames up to the word follow one another, and for
every library loaded at run time. The two ways to store a word agree when the
word lies on one page and the frames up to it follow one another. -/
theorem relocated_words_in_mapped_frames (mapper : UserPageMapper Space) :
    (∀ fuel machine resolver stackTop image state,
      InOrder mapper fuel machine resolver stackTop image state →
      WellPlaced mapper state (loadImage mapper fuel machine resolver stackTop image state).2) ∧
    (∀ fuel image task handle after,
      handleTaskLoadLibrary mapper fuel image task = (.ok handle, after) →
      WellPlaced mapper task.load after.load) ∧
    ∀ segments target value, (∀ segment ∈ segments, segment.InOrder target) →
      (writeMappedWord (mappedRecords segments) target value : Load Space Unit) =
        writeStagedWord segments target value := by
  refine ⟨fun fuel machine resolver stackTop image state inOrder => ?_,
    fun fuel image task handle after => (handleTaskLoadLibrary_wellPlaced fuel image task).answer,
    fun segments target value inOrder => ?_⟩
  case refine_2 =>
    rw [writeStagedWord, find?_mappedRecords inOrder, writeMappedWord]
    cases (mappedRecords segments).find? (·.Holds target) <;> rfl
  have placed : (loadImage mapper fuel machine resolver stackTop image).Ensures state
      (fun _ after => WellPlaced mapper state after) fun _ after => WellPlaced mapper state after := by
    unfold loadImage
    split
    · exact loadFlatImage_wellPlaced inOrder.companions
    split
    · exact loadElf64Image_wellPlaced inOrder.elf
    · exact ensures_lift nofun fun _ _ => SameWords.wellPlaced rfl
  rcases call : loadImage mapper fuel machine resolver stackTop image state with ⟨_ | _, after⟩
  · exact placed.stop call
  · exact placed.answer call

/-- A position-independent image of `memorySize` bytes with one relative
relocation, of the word at `target`. -/
def relocatedImage (memorySize target : Nat) : Octets :=
  encodeElfHeader elfTypeDyn .x86_64 0 64 2 ++
    encodeProgramHeader elfSegmentLoad ⟨7, 0, 0, 256, memorySize⟩ ++
    encodeProgramHeader elfSegmentDynamic ⟨6, 176, 176, 48, 48⟩ ++
    encodeDynamicEntry dynamicTagRela 224 ++ encodeDynamicEntry dynamicTagRelasz 24 ++
    encodeDynamicEntry dynamicTagNull 0 ++
    (toLittleEndian 8 target ++ toLittleEndian 8 elfRelocRelative ++ toLittleEndian 8 0) ++
    toLittleEndian 8 0

def relocatedLoad (memorySize target : Nat) :
    Except (Stop LoadError) LoadedUserImage × LoadState FourLevel.Space :=
  loadImage FourLevel.mapper 0 .x86_64 none userStackTop (relocatedImage memorySize target)
    (bootLoad 300)

theorem relocated_words_in_mapped_frames_of_first_page :
    (relocatedLoad 0x2000 248).1.isOk ∧
      (relocatedLoad 0x2000 248).2.relocated =
        [⟨userImageWindowStart + 248, userImageWindowStart, 0x1000 + 248⟩] ∧
      WellPlaced FourLevel.mapper (bootLoad 300) (relocatedLoad 0x2000 248).2 :=
  ⟨by decide +kernel, by decide +kernel,
    (relocated_words_in_mapped_frames FourLevel.mapper).1 0 .x86_64 none userStackTop _ _
      ⟨by decide +kernel, by decide +kernel⟩⟩

/-- A word on the second page. That page is in the frame after those of the page
tables, and the word is stored in one of these. -/
theorem relocated_word_in_page_table :
    (relocatedLoad 0x2000 0x1000).1.isOk ∧
      (relocatedLoad 0x2000 0x1000).2.relocated =
        [⟨userImageWindowStart + 0x1000, userImageWindowStart, 0x2000⟩] ∧
      FourLevel.mapper.frameOf (relocatedLoad 0x2000 0x1000).2.space
        (userImageWindowStart + 0x1000) = some 0x5000 := by
  decide +kernel

end ServiceOS.User
