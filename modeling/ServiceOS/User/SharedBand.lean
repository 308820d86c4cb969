import ServiceOS.User.LibraryWindow

/-! # The band of shared mappings

A task's calls hand out addresses from the first shared base upwards and may
unmap and protect what lies in the band handed out so far. -/

namespace ServiceOS.User

open Memory Word ByteString Fallible Execution

inductive TaskCall
  | map (objectId : Nat) (mayWrite : Bool) (request : MemoryMapRequest)
  | unmap (address length : Nat)
  | protect (address length : Nat) (flags : MappingFlags)
  | loadLibrary (image : Octets)

/-- The task after a call, whatever it answered. A call that does not return has
no such task. -/
def afterCall {Answer : Type} :
    Except (Stop SyscallError) Answer × TaskSpace Space → Option (TaskSpace Space)
  | (.error .outOfFuel, _) => none
  | (_, task) => some task

namespace TaskSpace

def step (mapper : UserPageMapper Space) (fuel : Nat) (task : TaskSpace Space) :
    TaskCall → Option (TaskSpace Space)
  | .map objectId mayWrite request =>
    afterCall (mapMemoryObject mapper objectId mayWrite request task)
  | .unmap address length => afterCall (handleMemoryUnmap mapper address length task)
  | .protect address length flags =>
    afterCall (handleMemoryProtect mapper address length flags task)
  | .loadLibrary image => afterCall (handleTaskLoadLibrary mapper fuel image task)

/-- The size a call reserves addresses for, if it gets that far. -/
def reserves (task : TaskSpace Space) : TaskCall → Option Nat
  | .map objectId mayWrite request =>
    match requestedPages objectId mayWrite request task with
    | (.ok pageCount, _) => some (wrappingMul pageCount pageSizeBytes)
    | (.error _, _) => none
  | .loadLibrary image =>
    match planLibrary image task with
    | (.ok plan, _) => some plan.mappingSpanBytes
    | (.error _, _) => none
  | .unmap _ _ | .protect _ _ _ => none

end TaskSpace

/-! ## Where the band ends -/

def SameBase (before after : TaskSpace Space) : Prop :=
  after.nextMappingBase = before.nextMappingBase

instance : IsPreorder (TaskSpace Space) SameBase where
  refl _ := rfl
  trans _ _ _ first second := Eq.trans second first

variable {task : TaskSpace Space}

section

theorem afterCall_eq_some (taken : afterCall result = some next) : result.2 = next := by
  rcases result with ⟨(error | _) | answer, after⟩
  · cases taken
    rfl
  · cases taken
  · cases taken
    rfl

theorem onLoad_sameBase {report : LoadError → SyscallError} :
    (onLoad code report).Respects SameBase := by
  intro task
  rcases call : code task.load with ⟨(error | _) | answer, load⟩ <;>
  · simp only [onLoad, call]
    rfl

theorem requestedPages_unchanged {mayWrite : Bool} :
    (requestedPages objectId mayWrite request : Call Space Nat).Respects Eq := by
  refine respects_bind (fun task => ?_) fun sizeBytes => ?_
  · unfold objectSize
    split <;> rfl
  refine respects_bind require_respects fun _ => ?_
  refine respects_bind require_respects fun _ => ?_
  refine respects_bind require_respects fun _ => ?_
  refine respects_bind require_respects fun _ => ?_
  refine respects_bind require_respects fun _ => ?_
  exact respects_bind require_respects fun _ => respects_pure

theorem planLibrary_unchanged (image : Octets) :
    (planLibrary image : Call Space _).Respects Eq := by
  intro task
  apply relation_of_ensures
  exact (planLibrary_ensures image).mono (fun _ _ done => done.2.symm) fun _ _ => Eq.symm

theorem reservedPages_ensures (address length : Nat) :
    (reservedPages address length).Ensures task
      (fun pageCount after =>
        task.ContainsReservedMappingRange address (pageCount * pageSizeBytes) ∧ after = task)
      fun _ after => after = task := by
  simp only [Ensures, reservedPages]
  by_cases fits : divCeil length pageSizeBytes * pageSizeBytes < limit
  · by_cases reserved : task.ContainsReservedMappingRange address
        (divCeil length pageSizeBytes * pageSizeBytes)
    · rw [if_pos fits, if_pos reserved]
      exact ⟨reserved, rfl⟩
    · rw [if_pos fits, if_neg reserved]
  · rw [if_neg fits]

theorem reservedPages_sameBase (address length : Nat) :
    (reservedPages address length : Call Space Nat).Respects SameBase := by
  intro task
  apply relation_of_ensures
  apply (reservedPages_ensures address length).mono
  · exact fun _ _ done => congrArg TaskSpace.nextMappingBase done.2
  · exact fun _ _ same => congrArg TaskSpace.nextMappingBase same

theorem reserveMappingRange_then {next : Nat → Call Space Answer}
    (respects : ∀ base, (next base).Respects SameBase) :
    ((reserveMappingRange size >>= next) task).2.nextMappingBase =
      wrappingAdd task.nextMappingBase (reservedBytes size) :=
  respects task.nextMappingBase { task with
    nextMappingBase := wrappingAdd task.nextMappingBase (reservedBytes size) }

theorem step_nextMappingBase (taken : task.step mapper fuel call = some next) :
    next.nextMappingBase = (task.reserves call).elim task.nextMappingBase
      fun size => wrappingAdd task.nextMappingBase (reservedBytes size) := by
  cases call with
  | map objectId mayWrite request =>
    rw [← afterCall_eq_some taken]
    rcases checking : requestedPages objectId mayWrite request task with ⟨_ | pageCount, checked⟩
    · cases requestedPages_unchanged.of_call checking
      rw [mapMemoryObject, bind_of_stop checking]
      simp only [TaskSpace.reserves, checking, Option.elim]
    cases requestedPages_unchanged.of_call checking
    rw [mapMemoryObject, bind_of_answer checking]
    simp only [TaskSpace.reserves, checking, Option.elim]
    refine reserveMappingRange_then fun base => ?_
    refine respects_bind (fun task => by unfold pageFrames; split <;> rfl) fun frames => ?_
    refine respects_bind require_respects fun _ => ?_
    exact respects_bind onLoad_sameBase fun _ => respects_pure
  | unmap address length =>
    rw [← afterCall_eq_some taken]
    have respects : (handleMemoryUnmap mapper address length).Respects SameBase :=
      respects_bind (reservedPages_sameBase _ _) fun _ => onLoad_sameBase
    exact respects task
  | protect address length flags =>
    rw [← afterCall_eq_some taken]
    have respects : (handleMemoryProtect mapper address length flags).Respects SameBase :=
      respects_bind (reservedPages_sameBase _ _) fun _ => onLoad_sameBase
    exact respects task
  | loadLibrary image =>
    rw [← afterCall_eq_some taken]
    rcases planning : planLibrary image task with ⟨_ | plan, planned⟩
    · cases (planLibrary_unchanged image).of_call planning
      rw [handleTaskLoadLibrary, bind_of_stop planning]
      simp only [TaskSpace.reserves, planning, Option.elim]
    cases (planLibrary_unchanged image).of_call planning
    rw [handleTaskLoadLibrary, bind_of_answer planning]
    simp only [TaskSpace.reserves, planning, Option.elim]
    refine reserveMappingRange_then fun base => ?_
    refine respects_bind onLoad_sameBase fun staged => ?_
    refine installStaged_respects ?_ ?_ (fun _ => onLoad_sameBase) onLoad_sameBase base
    · exact fun _ => rfl
    · exact fun _ _ => rfl

end

/-! ## What the calls change -/

def TaskSpace.InBand (task : TaskSpace Space) (page : Nat) : Prop :=
  firstSharedMappingBase ≤ page ∧ page + pageSizeBytes ≤ task.nextMappingBase

section

theorem inBand_of_range
    (reserved : task.ContainsReservedMappingRange address (pageCount * pageSizeBytes))
    (range : RangePage address 0 pageCount page) : task.InBand page := by
  rcases range with ⟨place, -, below, rfl⟩
  rcases reserved with ⟨fits, first, last⟩
  have covered : place * pageSizeBytes + pageSizeBytes ≤ pageCount * pageSizeBytes := by
    rw [← Nat.succ_mul]
    exact Nat.mul_le_mul_right _ (by omega)
  rw [wrappingAdd_of_lt (by omega)]
  exact ⟨by omega, by omega⟩

/-- Code that changes pages of a reserved range changes pages of the band. -/
theorem reservedPages_then {change : Nat → Load Space Unit}
    (changes : ∀ {allowed : Nat → Prop} {pageCount : Nat},
      (∀ page, RangePage address 0 pageCount page → allowed page) →
      (change pageCount).Respects (MapsOnly mapper allowed)) :
    OnLoad (MapsOnly mapper task.InBand) task
      ((reservedPages address length >>= fun pageCount => onLoad (change pageCount) report)
        task).2 := by
  rcases call : reservedPages address length task with ⟨_ | pageCount, after⟩
  · cases (reservedPages_ensures address length).stop call
    rw [bind_of_stop call]
    exact .of_space rfl
  rcases (reservedPages_ensures address length).answer call with ⟨reserved, rfl⟩
  rw [bind_of_answer call]
  exact onLoad_respects (changes fun page range => inBand_of_range reserved range) report _

theorem handleMemoryUnmap_mapsOnly (address length : Nat) :
    OnLoad (MapsOnly mapper task.InBand) task (handleMemoryUnmap mapper address length task).2 :=
  reservedPages_then fun pages => unmapMemoryRange_respects fun page range =>
    unmapPage_mapsOnly (pages page range)

theorem handleMemoryProtect_mapsOnly (address length : Nat) (flags : MappingFlags) :
    OnLoad (MapsOnly mapper task.InBand) task
      (handleMemoryProtect mapper address length flags task).2 :=
  reservedPages_then fun pages => updateMemoryProtection_respects fun page range =>
    protectPage_mapsOnly (pages page range)

theorem mapMemoryObject_keepsMappings (objectId : Nat) (mayWrite : Bool)
    (request : MemoryMapRequest) :
    (mapMemoryObject mapper objectId mayWrite request).Respects
    (OnLoad (KeepsMappings mapper)) := by
  refine respects_bind (requestedPages_unchanged.mono fun same => ?_) fun pageCount => ?_
  · exact .of_space (congrArg (·.load.space) same.symm)
  refine respects_bind (fun task => .of_space rfl) fun base => ?_
  refine respects_bind (fun task => ?_) fun frames => ?_
  · unfold pageFrames
    split <;> exact .of_space rfl
  refine respects_bind require_respects fun _ => ?_
  exact respects_bind (onLoad_respects mapFrameRange_keepsMappings _)
    fun _ => respects_pure

theorem step_lookup (taken : task.step mapper fuel call = some next)
    (mapped : mapper.lookup task.load.space page = some entry)
    (outside : ¬task.InBand page) : mapper.lookup next.load.space page = some entry := by
  have of_mapsOnly : OnLoad (MapsOnly mapper task.InBand) task next →
      mapper.lookup next.load.space page = some entry := by
    intro changes
    by_cases same : mapper.lookup next.load.space page = mapper.lookup task.load.space page
    · exact same.trans mapped
    · exact absurd (changes page same) outside
  cases call with
  | map =>
    rw [← afterCall_eq_some taken]
    exact mapMemoryObject_keepsMappings _ _ _ task page entry mapped
  | unmap address length =>
    exact of_mapsOnly (afterCall_eq_some taken ▸ handleMemoryUnmap_mapsOnly address length)
  | protect address length flags =>
    exact of_mapsOnly
      (afterCall_eq_some taken ▸ handleMemoryProtect_mapsOnly address length flags)
  | loadLibrary =>
    rw [← afterCall_eq_some taken]
    exact handleTaskLoadLibrary_keepsMappings page entry mapped

end

/-! ## The loader's pages -/

variable (mapper : UserPageMapper Space)

/-- A page the image loader mapped: the kernel's space does not map it so. -/
def LoaderPage (kernel loaded : Space) (page : Nat) : Prop :=
  mapper.lookup loaded page ≠ mapper.lookup kernel page
deriving Decidable

/-- A registered task: its image is loaded and its band is empty. -/
def TaskSpace.register (loaded : LoadState Space) (libraries : Option TaskLibraryState)
    (objects : Nat → Option MemoryObject) : TaskSpace Space :=
  ⟨loaded, firstSharedMappingBase, libraries, objects⟩

/-- What a call reserves ends in user space and holds no page of the loader. -/
def TaskSpace.Clear (owned : Nat → Prop) (task : TaskSpace Space) (call : TaskCall) : Prop :=
  ∀ size ∈ task.reserves call, task.nextMappingBase + reservedBytes size ≤ userSpaceEnd ∧
    ∀ page, owned page → page + pageSizeBytes ≤ task.nextMappingBase ∨
      task.nextMappingBase + reservedBytes size ≤ page

/-- The band is in user space and apart from the loader's pages, which are mapped
as they were. -/
structure Separate (owned : Nat → Prop) (loaded : Space)
    (task : TaskSpace Space) : Prop where
  first_le : firstSharedMappingBase ≤ task.nextMappingBase
  in_space : task.nextMappingBase ≤ userSpaceEnd
  outside : ∀ page, owned page →
    page + pageSizeBytes ≤ firstSharedMappingBase ∨ task.nextMappingBase ≤ page
  untouched : ∀ page, owned page → mapper.lookup task.load.space page = mapper.lookup loaded page

variable {owned : Nat → Prop}

section

variable {mapper : UserPageMapper Space}

theorem Separate.not_inBand (separate : Separate mapper owned loaded task)
    (member : owned page) : ¬task.InBand page := by
  rintro ⟨first, last⟩
  rcases separate.outside page member with below | above
  · simp only [pageSizeBytes] at *
    omega
  · simp only [pageSizeBytes] at *
    omega

theorem Separate.step
    (mapped : ∀ page, owned page → ∃ entry, mapper.lookup loaded page = some entry)
    (taken : task.step mapper fuel call = some next) (clear : task.Clear owned call)
    (separate : Separate mapper owned loaded task) : Separate mapper owned loaded next := by
  have untouched : ∀ page, owned page →
      mapper.lookup next.load.space page = mapper.lookup loaded page := by
    intro page member
    rcases mapped page member with ⟨entry, found⟩
    rw [found]
    refine step_lookup taken ?_ (separate.not_inBand member)
    rw [separate.untouched page member, found]
  have base := step_nextMappingBase taken
  rcases reserved : task.reserves call with _ | size
  · rw [reserved] at base
    have same : next.nextMappingBase = task.nextMappingBase := base
    exact ⟨same ▸ separate.first_le, same ▸ separate.in_space, same ▸ separate.outside, untouched⟩
  rcases clear size reserved with ⟨inSpace, apart⟩
  rw [reserved, Option.elim_some, wrappingAdd_of_lt (by
    simp only [limit, userSpaceEnd] at *; omega)] at base
  have first := separate.first_le
  refine ⟨by omega, by omega, fun page member => ?_, untouched⟩
  rcases separate.outside page member with below | above
  · exact .inl below
  rcases apart page member with before | beyond
  · simp only [pageSizeBytes] at before
    omega
  · exact .inr (by omega)

theorem LoaderPage.mapped (member : LoaderPage mapper before.space after.space page)
    (keeps : KeepsMappings mapper before after) :
    ∃ entry, mapper.lookup after.space page = some entry := by
  have free := keeps.free_of_changed member
  unfold LoaderPage at member
  rw [free] at member
  exact Option.ne_none_iff_exists'.mp member

/-- An accepted image is loaded on top of what the kernel's space maps. -/
theorem prepareAddressSpace_keepsMappings
    (accepted : prepareAddressSpace mapper fuel resolver (some kernel) image state =
      (.ok prepared, after)) :
    ∃ before : LoadState Space, before.space = kernel ∧ KeepsMappings mapper before after := by
  have respects : (loadImage mapper fuel .x86_64 resolver userStackTop image).Respects
      (KeepsMappings mapper) :=
    loadImage_respects keepsMappings_admits fun _ _ _ _ => .of_space rfl
  rcases prepareAddressSpace_cases respects accepted with ⟨_, failed, -⟩ | ⟨root, granted, -, keeps⟩
  · cases failed
  · exact ⟨_, rfl, keeps⟩

theorem Separate.register
    (mapped : ∀ page, owned page → ∃ entry, mapper.lookup after.space page = some entry)
    (libraries : Option TaskLibraryState) (objects : Nat → Option MemoryObject) :
    Separate mapper owned after.space (.register after libraries objects) where
  first_le := le_rfl
  in_space := (by decide : firstSharedMappingBase ≤ userSpaceEnd)
  outside page member := by
    rcases mapped page member with ⟨entry, found⟩
    have aligned := mapper.lookup_aligned found
    simp only [TaskSpace.register, firstSharedMappingBase, pageSizeBytes] at *
    omega
  untouched _ _ := rfl

end

/-- In every run of calls whose reservations stay in user space and off the pages
of the loader: the band is in user space and holds no such page, these pages are
mapped as the loader left them, and a range that passes as reserved meets none. -/
theorem shared_band_apart_from_loader (loadFuel fuel : Nat)
    (resolver : Option ImageResolver) (kernel : Space) (image : Octets)
    (state loaded : LoadState Space) (prepared : PreparedUserAddressSpace)
    (libraries : Option TaskLibraryState) (objects : Nat → Option MemoryObject)
    (calls : List TaskCall) (task : TaskSpace Space)
    (accepted : prepareAddressSpace mapper loadFuel resolver (some kernel) image state =
      (.ok prepared, loaded))
    (execution : run (TaskSpace.step mapper fuel) (.register loaded libraries objects) calls =
      some task)
    (clear : EveryStep (TaskSpace.step mapper fuel)
      (TaskSpace.Clear (LoaderPage mapper kernel loaded.space))
      (.register loaded libraries objects) calls) :
    task.nextMappingBase ≤ userSpaceEnd ∧
      ∀ page, LoaderPage mapper kernel loaded.space page →
        (page + pageSizeBytes ≤ firstSharedMappingBase ∨ task.nextMappingBase ≤ page) ∧
        mapper.lookup task.load.space page = mapper.lookup loaded.space page ∧
        ∀ address length, task.ContainsReservedMappingRange address length →
          page + pageSizeBytes ≤ address ∨ address + length ≤ page := by
  rcases prepareAddressSpace_keepsMappings accepted with ⟨before, rfl, keeps⟩
  have mapped : ∀ page, LoaderPage mapper before.space loaded.space page →
      ∃ entry, mapper.lookup loaded.space page = some entry :=
    fun page member => member.mapped keeps
  have separate : Separate mapper (LoaderPage mapper before.space loaded.space) loaded.space task :=
    everyStep_preserves _ _ (Separate.step mapped) execution clear
      (.register mapped libraries objects)
  refine ⟨separate.in_space, fun page member => ?_⟩
  refine ⟨separate.outside page member, separate.untouched page member, ?_⟩
  rintro address length ⟨-, first, last⟩
  rcases separate.outside page member with below | above
  · exact .inl (Nat.le_trans below first)
  · exact .inr (Nat.le_trans last above)

/-! ## Images below the band and in it -/

theorem LoaderPage.aligned {mapper : UserPageMapper Space}
    (member : LoaderPage mapper kernel loaded page) : page % pageSizeBytes = 0 := by
  by_contra misaligned
  have free (space : Space) : mapper.lookup space page = none :=
    Option.eq_none_iff_forall_ne_some.mpr fun entry found =>
      misaligned (mapper.lookup_aligned found)
  exact member ((free loaded).trans (free kernel).symm)

/-- The pages a call reserves end in user space and none of them is the loader's. -/
def TaskSpace.Fits (owned : Nat → Prop) (task : TaskSpace Space) (call : TaskCall) : Prop :=
  ∀ size ∈ task.reserves call, task.nextMappingBase % pageSizeBytes = 0 ∧
    task.nextMappingBase + reservedBytes size ≤ userSpaceEnd ∧
    ∀ index < reservedBytes size / pageSizeBytes,
      ¬owned (task.nextMappingBase + index * pageSizeBytes)

instance (owned : Nat → Prop) [DecidablePred owned] (task : TaskSpace Space) (call : TaskCall) :
    Decidable (task.Fits owned call) :=
  inferInstanceAs (Decidable (∀ size ∈ task.reserves call, _ ∧ _ ∧ _))

theorem TaskSpace.Fits.clear (aligned : ∀ page, owned page → page % pageSizeBytes = 0)
    (fits : task.Fits owned call) : task.Clear owned call := by
  intro size reserved
  rcases fits size reserved with ⟨base, inSpace, free⟩
  refine ⟨inSpace, fun page member => ?_⟩
  by_contra meets
  have whole := aligned page member
  simp only [reservedBytes, wrappingMul, limit, pageSizeBytes] at *
  apply free ((page - task.nextMappingBase) / 0x1000) (by omega)
  have here : task.nextMappingBase + (page - task.nextMappingBase) / 0x1000 * 0x1000 = page := by
    omega
  rwa [here]

def emptySpace : FourLevel.Space := ⟨Table.empty 3, []⟩

/-- A one-page image at `imageBase`, loaded into a new address space. -/
def loadedAt (imageBase : Nat) :
    Except (Stop AddressSpacePreparationError) PreparedUserAddressSpace ×
      LoadState FourLevel.Space :=
  prepareAddressSpace FourLevel.mapper 0 none (some emptySpace)
    (encodeFlatHeader { hostHeader with imageBase := imageBase } ++ [0xc3]) (bootLoad 300)

/-- The task of that image, with one object of a page and one that is too large
for the band. -/
def taskAt (imageBase : Nat) : TaskSpace FourLevel.Space :=
  .register (loadedAt imageBase).2 (some ⟨1, .empty, []⟩) fun objectId =>
    if objectId = 0 then some ⟨0x1000, true, false, none⟩
    else if objectId = 1 then some ⟨2 ^ 46, true, false, none⟩
    else none

def mapWhole (objectId : Nat) : TaskCall := .map objectId true ⟨0, 0, true, false⟩

def bandAfter (imageBase : Nat) (calls : List TaskCall) : Option (Nat × Option Nat) :=
  (run (TaskSpace.step FourLevel.mapper 0) (taskAt imageBase) calls).map fun task =>
    (task.nextMappingBase, FourLevel.mapper.frameOf task.load.space firstSharedMappingBase)

def preparedAt (imageBase : Nat) : PreparedUserAddressSpace where
  pageTableRoot := 0x1000
  image := {
    entryPoint := imageBase
    imageBase := imageBase
    fileSize := 1
    mappedImageBytes := 0x1000
    userStackTop := 0x480000100000
    mappedStackBytes := 0x100000
    stackExecutable := false
    libraries := [] }

theorem loadedAt_start : loadedAt userImageWindowStart =
    (.ok (preparedAt userImageWindowStart), (loadedAt userImageWindowStart).2) := by
  have accepted : (loadedAt userImageWindowStart).1 = .ok (preparedAt userImageWindowStart) := by
    decide +kernel
  rw [← accepted]

/-- Two mappings, one of which is undone, by the task of an image below the band. -/
def mapUnmapMap : List TaskCall :=
  [mapWhole 0, .unmap firstSharedMappingBase 0x1000, mapWhole 0]

theorem mapUnmapMap_returns : (run (TaskSpace.step FourLevel.mapper 0)
    (taskAt userImageWindowStart) mapUnmapMap).isSome := by
  decide +kernel

theorem shared_band_apart_from_loader_below :
    ∃ task, run (TaskSpace.step FourLevel.mapper 0) (taskAt userImageWindowStart) mapUnmapMap =
        some task ∧ task.nextMappingBase ≤ userSpaceEnd :=
  ⟨_, (Option.some_get mapUnmapMap_returns).symm,
    (shared_band_apart_from_loader FourLevel.mapper 0 0 none emptySpace _ (bootLoad 300)
      (loadedAt userImageWindowStart).2 (preparedAt userImageWindowStart) _ _ mapUnmapMap _
      loadedAt_start (Option.some_get mapUnmapMap_returns).symm
      (EveryStep.mono (TaskSpace.Fits.clear fun _ => LoaderPage.aligned) (by decide +kernel))).1⟩

/-- An image may be linked at the band's start. Mapping an object there fails and
yet grows the band over the image's page, which can then be unmapped; and a large
object takes the band past the end of user space. -/
theorem band_takes_in_image :
    (loadedAt firstSharedMappingBase).1 = .ok (preparedAt firstSharedMappingBase) ∧
      LoaderPage FourLevel.mapper emptySpace (loadedAt firstSharedMappingBase).2.space
        firstSharedMappingBase ∧
      (mapMemoryObject FourLevel.mapper 0 true ⟨0, 0, true, false⟩
        (taskAt firstSharedMappingBase)).1 = .error (.error .busy) ∧
      bandAfter firstSharedMappingBase [mapWhole 0] =
        some (firstSharedMappingBase + 0x1000, some 0x2000) ∧
      bandAfter firstSharedMappingBase [mapWhole 0, .unmap firstSharedMappingBase 0x1000] =
        some (firstSharedMappingBase + 0x1000, none) ∧
      bandAfter firstSharedMappingBase [mapWhole 1] =
        some (firstSharedMappingBase + 2 ^ 46, some 0x2000) ∧
      userSpaceEnd < firstSharedMappingBase + 2 ^ 46 := by
  decide +kernel

end ServiceOS.User
