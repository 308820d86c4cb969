import ServiceOS.User.RelocationPlacement

/-! # What a loaded page holds

A page is filled when it is loaded. Everything loaded later is in frames of its
own, and what is relocated later lies in those. -/

namespace ServiceOS.User

open Memory Word ByteString Fallible UserPageMapper List

structure Guarded (number : Nat) (state : LoadState Space) : Prop where
  owned : state.frames.Owned
  held : number ∈ state.frames.held

variable (mapper : UserPageMapper Space)

/-- The frame's bytes and all mappings are kept, and pages mapped in between are
in other frames. -/
structure Spares (number : Nat)
    (before after : LoadState Space) : Prop where
  guarded : Guarded number after
  bytes : ∀ place < pageSizeBytes,
    after.memory (number * pageSizeBytes + place) = before.memory (number * pageSizeBytes + place)
  keeps : KeepsMappings mapper before after
  fresh : ∀ page frame, mapper.frameOf before.space page = none →
    mapper.frameOf after.space page = some frame →
    ∃ other, frame = other * pageSizeBytes ∧ other ≠ number

def SparesGuarded (number : Nat) (before after : LoadState Space) : Prop :=
  Guarded number before → Spares mapper number before after

section

variable {mapper : UserPageMapper Space} {before between after : LoadState Space}

theorem Spares.trans (first : Spares mapper number before between)
    (second : Spares mapper number between after) : Spares mapper number before after where
  guarded := second.guarded
  bytes place inPage := (second.bytes place inPage).trans (first.bytes place inPage)
  keeps := first.keeps.trans second.keeps
  fresh page frame free mapped := by
    rcases early : mapper.frameOf between.space page with _ | earlier
    · exact second.fresh page frame early mapped
    · cases (second.keeps.frameOf early).symm.trans mapped
      exact first.fresh page frame free early

theorem Spares.of_space (guarded : Guarded number after) (same : after.space = before.space)
    (bytes : ∀ place < pageSizeBytes, after.memory (number * pageSizeBytes + place) =
      before.memory (number * pageSizeBytes + place)) : Spares mapper number before after where
  guarded := guarded
  bytes := bytes
  keeps := .of_space same
  fresh page frame free mapped := by
    rw [same, free] at mapped
    cases mapped

instance : IsPreorder (LoadState Space) (SparesGuarded mapper number) where
  refl _ guarded := .of_space guarded rfl fun _ _ => rfl
  trans _ _ _ first second guarded := (first guarded).trans (second (first guarded).guarded)

end

/-! ## One page -/


section

variable {mapper : UserPageMapper Space} {state before after : LoadState Space}

theorem store_other (different : other ≠ number) (short : bytes.length ≤ pageSizeBytes)
    (inPage : place < pageSizeBytes) :
    store memory (other * pageSizeBytes) bytes (number * pageSizeBytes + place) =
      memory (number * pageSizeBytes + place) := by
  apply store_outside memory
  simp only [pageSizeBytes] at *
  omega

/-- A filled frame holds the bytes of the page, followed by zeroes. -/
theorem store_page (inPage : place < pageSizeBytes) :
    store (store memory base (replicate pageSizeBytes 0)) base bytes (base + place) =
      bytes[place]?.getD 0 := by
  by_cases inside : place < bytes.length
  · rw [store_inside _ inside, getElem?_eq_getElem inside, Option.getD_some]
  · rw [store_outside _ (.inr (by omega)), store_inside _ (by rwa [length_replicate]),
      getElem_replicate, getElem?_eq_none (by omega), Option.getD_none]

theorem mapPage_memory (page frame : Nat) (flags : MappingFlags) :
    (mapPage mapper page frame flags).Respects fun before after => after.memory =
      before.memory := by
  intro state
  unfold mapPage
  split <;> rfl

theorem mapPage_guarded (page frame : Nat) (flags : MappingFlags) :
    (mapPage mapper page frame flags).Respects fun before after =>
      Guarded number before → Guarded number after := by
  intro state guarded
  rcases call : mapper.mapPage state.space page frame flags
    state.frames with ⟨answer, space, frames⟩
  rcases mapper.mapPage_allocates call with ⟨new, allocations⟩
  rcases allocations.owned guarded.owned with ⟨owned, held⟩
  have result : Guarded number { state with space := space, frames := frames } :=
    ⟨owned, held ▸ mem_append_right _ guarded.held⟩
  cases answer with
  | error error | ok answer => simpa only [mapPage, call] using result

theorem mapPage_spares (different : other ≠ number) (page : Nat) (flags : MappingFlags) :
    (mapPage mapper page (other * pageSizeBytes) flags).Respects (SparesGuarded mapper number) := by
  intro state guarded
  refine ⟨mapPage_guarded page _ flags state guarded,
    fun place _ => congrFun (mapPage_memory page _ flags state) _,
    mapPage_keepsMappings _ _ _ state, fun target frame free mapped => ?_⟩
  rcases call : mapPage mapper page (other * pageSizeBytes) flags state with ⟨outcome, after⟩
  rw [call] at mapped
  rcases mapPage_cases call with ⟨_, -, same⟩ | ⟨-, -, -, result⟩
  · rw [frameOf, same] at mapped
    cases free.symm.trans mapped
  by_cases here : target = page
  · rw [frameOf, result, if_pos here] at mapped
    cases mapped
    exact ⟨other, rfl, different⟩
  · rw [frameOf, result, if_neg here] at mapped
    cases free.symm.trans mapped

theorem fillPage_spares (payload : Octets) (index : Nat)
    (granting : state.frames.allocate = (some frame, granted)) (guarded : Guarded number state) :
    ∃ other, frame.base = other * pageSizeBytes ∧ other ≠ number ∧
      Spares mapper number state (fillPage payload index state).2 := by
  rcases guarded.owned.granted granting with ⟨other, base, unheld, held⟩
  have different : other ≠ number := fun same => unheld (same ▸ guarded.held)
  rw [fillPage_of_granted granting]
  refine ⟨other, base, different, .of_space ⟨?_, ?_⟩ rfl fun place inPage => ?_⟩
  · exact guarded.owned.of_allocate granting
  · exact held ▸ mem_cons_of_mem _ guarded.held
  simp only [base]
  rw [store_other different (show (pageOf payload index).length ≤ _ from length_take_le _ _) inPage,
    store_other different (by rw [length_replicate]) inPage]

theorem loadPage_spares (page : Nat) (payload : Octets) (index : Nat) (flags : MappingFlags) :
    (loadPage mapper page payload index flags).Respects (SparesGuarded mapper number) := by
  intro state guarded
  rcases granting : state.frames.allocate with ⟨_ | frame, granted⟩
  · rw [loadPage, bind_of_stop (fillPage_of_refused granting payload index)]
    refine .of_space ⟨guarded.owned.of_allocate granting, ?_⟩ rfl fun _ _ => rfl
    rw [FrameSystem.held_allocate_none granting]
    exact guarded.held
  rcases fillPage_spares payload index granting guarded with ⟨other, base, different, spares⟩
  have filled := fillPage_of_granted granting payload index
  rw [filled] at spares
  have mapping : (do mapPage mapper page frame.base flags; return frame.base).Respects
      (SparesGuarded mapper number) := by
    rw [base]
    exact respects_bind (mapPage_spares different page flags) fun _ => respects_pure
  rw [loadPage, bind_of_answer filled]
  exact spares.trans (mapping _ spares.guarded)

theorem spares_admits : Admits mapper (fun _ => True) (SparesGuarded mapper number) where
  toIsPreorder := inferInstance
  load _ := loadPage_spares _

variable (owned : state.frames.Owned)

include owned

theorem fillPage_holds (call : fillPage payload index state = (.ok base, after)) :
    after.space = state.space ∧ ∃ number, base = number * pageSizeBytes ∧ Guarded number after ∧
      ∀ place < pageSizeBytes, after.memory (number * pageSizeBytes + place) =
        (pageOf payload index)[place]?.getD 0 := by
  rcases granting : state.frames.allocate with ⟨_ | frame, granted⟩
  · rw [fillPage_of_refused granting] at call
    cases call
  rcases owned.granted granting with ⟨number, whole, -, held⟩
  rw [fillPage_of_granted granting, whole] at call
  cases call
  refine ⟨rfl, number, rfl, ⟨owned.of_allocate granting, ?_⟩, fun place => store_page⟩
  exact held ▸ mem_cons_self

/-- A loaded page was free and is in a frame of its own that holds its bytes. -/
theorem loadPage_holds (page : Nat) (payload : Octets) (index : Nat) (flags : MappingFlags) :
    (loadPage mapper page payload index flags).Ensures state
      (fun _ after => ∃ number, Guarded number after ∧
        mapper.lookup after.space page = some (number * pageSizeBytes, flags) ∧
        ∀ place < pageSizeBytes, after.memory (number * pageSizeBytes + place) =
          (pageOf payload index)[place]?.getD 0)
      fun _ _ => True := by
  refine ensures_bind_call fun base between filling => ?_
  rcases fillPage_holds owned filling with ⟨-, number, rfl, guarded, bytes⟩
  refine ensures_bind_call fun _ after mapping => ?_
  have memory := (mapPage_memory page (number * pageSizeBytes) flags).of_call mapping
  have stillGuarded := (mapPage_guarded page (number * pageSizeBytes) flags).of_call mapping guarded
  rcases mapPage_cases mapping with ⟨_, failed, -⟩ | ⟨-, -, -, result⟩
  · cases failed
  refine ensures_pure ⟨number, stillGuarded, ?_, fun place inPage => ?_⟩
  · rw [result, if_pos rfl]
  · rw [memory, bytes place inPage]

/-- The page loop leaves every page in a frame that holds its bytes. -/
theorem loadPages_holds (start : Nat) (payload : Octets) (flags : Nat → MappingFlags)
    (index count : Nat) : (loadPages mapper start payload flags index count).Ensures state
      (fun _ after => after.frames.Owned ∧ ∀ place < count, ∃ number, Guarded number after ∧
        mapper.lookup after.space (wrappingAdd start ((index + place) * pageSizeBytes)) =
          some (number * pageSizeBytes, flags (index + place)) ∧
        ∀ offset < pageSizeBytes, after.memory (number * pageSizeBytes + offset) =
          (pageOf payload (index + place))[offset]?.getD 0)
      fun _ _ => True := by
  induction count generalizing index state with
  | zero => exact ensures_pure ⟨owned, nofun⟩
  | succ count induction =>
    refine ensures_bind ((loadPage_holds owned _ payload index (flags index)).mono ?_ fun _ _ => id)
    rintro frame between ⟨number, guarded, mapped, bytes⟩
    refine ensures_bind_call fun frames after rest => ?_
    rcases (induction guarded.owned (index + 1)).answer rest with ⟨ownedAfter, later⟩
    have spared : Spares mapper number between after :=
      (loadPages_respects spares_admits fun _ _ _ => trivial).of_call rest guarded
    refine ensures_pure ⟨ownedAfter, fun place below => ?_⟩
    cases place with
    | zero =>
      refine ⟨number, spared.guarded, spared.keeps _ _ mapped, fun offset inPage => ?_⟩
      rw [spared.bytes offset inPage, bytes offset inPage]
      rfl
    | succ place =>
      have found := later place (Nat.lt_of_succ_lt_succ below)
      rwa [Nat.add_right_comm, Nat.add_assoc] at found

end

/-! ## The pages of companions -/

def SegmentsFree (space : Space) (mapped : List MappedLoadSegment) : Prop :=
  ∀ segment ∈ mapped, ∀ index, index * pageSizeBytes < segment.memorySize →
    mapper.lookup space (wrappingAdd segment.virtualStart (index * pageSizeBytes)) = none

section

variable {mapper : UserPageMapper Space} {start state : LoadState Space}

theorem loadPage_free (page : Nat) (payload : Octets) (index : Nat) (flags : MappingFlags) :
    (loadPage mapper page payload index flags).Ensures state
      (fun _ _ => mapper.lookup state.space page = none) fun _ _ => True := by
  refine ensures_bind_call fun base between filling => ?_
  have same := fillPage_space payload index state
  rw [filling] at same
  refine ensures_bind_call fun _ after mapping => ?_
  rcases mapPage_cases mapping with ⟨_, failed, -⟩ | ⟨-, -, free, -⟩
  · cases failed
  · exact ensures_pure (same ▸ free)

section

variable (keeps : KeepsMappings mapper start state)

include keeps

theorem loadPages_free (virtualStart : Nat)
    (payload : Octets) (flags : Nat → MappingFlags) (index count : Nat) :
    (loadPages mapper virtualStart payload flags index count).Ensures state
      (fun frames _ => frames.length = count ∧ ∀ place < count,
        mapper.lookup start.space
          (wrappingAdd virtualStart ((index + place) * pageSizeBytes)) = none)
      fun _ _ => True := by
  induction count generalizing index state with
  | zero => exact ensures_pure ⟨rfl, nofun⟩
  | succ count induction =>
    refine ensures_bind_call fun frame between loading => ?_
    have free := keeps.eq_none ((loadPage_free _ payload index _).answer loading)
    have later : KeepsMappings mapper start between :=
      keeps.trans ((keepsMappings_admits.load trivial payload index _).of_call loading)
    refine ensures_bind ((induction later (index + 1)).mono ?_ fun _ _ => id)
    rintro frames after ⟨length, rest⟩
    refine ensures_pure ⟨congrArg Nat.succ length, fun place below => ?_⟩
    cases place with
    | zero => exact free
    | succ place =>
      have found := rest place (Nat.lt_of_succ_lt_succ below)
      rwa [Nat.add_right_comm, Nat.add_assoc] at found

theorem mapDependencySegments_free (bytes : Octets) (base : Nat) (loads : List ElfLoadSegment) :
    (mapDependencySegments mapper bytes base loads).Ensures state
      (fun mapped _ => SegmentsFree mapper start.space mapped) fun _ _ => True := by
  induction loads generalizing state with
  | nil => exact ensures_pure nofun
  | cons segment rest induction =>
    refine ensures_bind (ensures_lift (fun virtualStart _ => ?_) fun _ _ => trivial)
    refine ensures_bind (ensures_lift (fun payload _ => ?_) fun _ _ => trivial)
    refine ensures_bind_call fun frames between loading => ?_
    rcases (loadPages_free keeps _ _ _ _ _).answer loading with ⟨length, free⟩
    have later : KeepsMappings mapper start between := keeps.trans
      ((loadPages_respects keepsMappings_admits fun _ _ _ => trivial).of_call loading)
    refine ensures_bind ((induction later).mono (fun mapped _ others => ?_) fun _ _ => id)
    refine ensures_pure (forall_mem_append.mpr ⟨?_, others⟩)
    intro record made index inside
    rcases Option.map_eq_some_iff.mp (Option.mem_toList.mp made) with ⟨frameBase, -, rfl⟩
    have place := free index (by
      rw [← length]
      exact Nat.lt_of_mul_lt_mul_right inside)
    rwa [Nat.zero_add] at place

theorem mapElfDependency_free (fuel : Nat)
    (bytes : Octets) (plan : ElfDependencyPlan) (base : Nat) (space : SymbolNamespace) :
    (mapElfDependency mapper fuel bytes plan base space).Ensures state
      (fun loaded _ => SegmentsFree mapper start.space loaded.1.mapped) fun _ _ => True := by
  refine ensures_bind ((mapDependencySegments_free keeps bytes base plan.loads).mono
    (fun mapped _ free => ?_) fun _ _ => id)
  refine ensures_bind (ensures_lift (fun _ _ => ?_) fun _ _ => trivial)
  exact ensures_bind_call fun _ _ _ => ensures_pure free

theorem loadCompanion_free (base : Nat) (bytes : Octets) (space : SymbolNamespace) :
    (loadCompanion mapper fuel machine header base bytes space).Ensures state
      (fun loaded _ => ∀ module ∈ loaded.2.1, SegmentsFree mapper start.space module.mapped)
      fun _ _ => True := by
  unfold loadCompanion
  split
  · refine ensures_bind (ensures_lift (fun plan _ => ?_) fun _ _ => trivial)
    refine ensures_bind (ensures_lift (fun _ _ => ?_) fun _ _ => trivial)
    refine ensures_bind ((mapElfDependency_free keeps fuel bytes plan base space).mono
      (fun loaded _ free => ?_) fun _ _ => id)
    exact ensures_pure (forall_mem_singleton.mpr free)
  · exact ensures_bind_call fun _ _ _ => ensures_pure nofun

end

theorem loadCompanions_free (resolve : ImageResolver) (keeps : KeepsMappings mapper start state)
    (earlier : ∀ module ∈ loaded.modules, SegmentsFree mapper start.space module.mapped) :
    (loadCompanions mapper fuel machine resolve header dependencies cursor loaded).Ensures state
      (fun companions _ => ∀ module ∈ companions.modules,
        SegmentsFree mapper start.space module.mapped)
      fun _ _ => True := by
  induction dependencies generalizing cursor loaded state with
  | nil => exact ensures_pure earlier
  | cons dependency rest induction =>
    refine ensures_bind (ensures_lift (fun bytes _ => ?_) fun _ _ => trivial)
    refine ensures_bind_call fun added between loading => ?_
    have free := (loadCompanion_free keeps _ bytes _).answer loading
    have later : KeepsMappings mapper start between :=
      keeps.trans ((loadCompanion_respects keepsMappings_admits).of_call loading)
    exact induction later (forall_mem_append.mpr ⟨earlier, free⟩)

theorem loadDependencies_free (resolver : Option ImageResolver) :
    (loadDependencies mapper fuel machine resolver header).Ensures state
      (fun companions _ => ∀ module ∈ companions.modules,
        SegmentsFree mapper state.space module.mapped)
      fun _ _ => True := by
  unfold loadDependencies
  split
  · exact ensures_pure nofun
  · refine ensures_bind (ensures_lift (fun resolve _ => ?_) fun _ _ => trivial)
    exact loadCompanions_free resolve (.of_space rfl) nofun

end

/-! ## Relocating companions -/

section

variable {mapper : UserPageMapper Space}

/-- A word in pages that were free before lies outside a frame taken before. -/
theorem writeMappedWord_spares (spared : Spares mapper number start mapped)
    (free : SegmentsFree mapper start.space segments)
    (backed : ∀ target ∈ targets, BackedInOrder mapper mapped.space segments target) :
    WriteRespects (writeMappedWord segments) targets (SparesGuarded mapper number) := by
  intro target member value
  unfold writeMappedWord
  split
  next segment found =>
    have holds : segment.Holds target := by simpa using find?_some found
    have inside := holds.2
    have consecutive := backed target member segment found
    intro state guarded
    refine .of_space ⟨guarded.owned, guarded.held⟩ rfl fun place inPage => ?_
    apply store_outside _
    rw [length_toLittleEndian]
    by_contra overlap
    -- The byte of the word that would be in the frame, and the page it lies on.
    have byte : ∃ byte < 8, number * pageSizeBytes + place =
        segment.frameBase + (target - segment.virtualStart) + byte :=
      ⟨number * pageSizeBytes + place - (segment.frameBase + (target - segment.virtualStart)),
        by omega, by omega⟩
    rcases byte with ⟨byte, inWord, same⟩
    have page := consecutive ((target - segment.virtualStart + byte) / pageSizeBytes) (by
      simp only [pageSizeBytes]
      omega)
    rcases Option.map_eq_some_iff.mp page with ⟨entry, entryFound, -⟩
    have unmapped := free segment (mem_of_find?_eq_some found)
      ((target - segment.virtualStart + byte) / pageSizeBytes) (by
        simp only [pageSizeBytes] at *
        omega)
    rw [wrappingAdd_of_lt (mapper.lookup_lt entryFound)] at unmapped
    rcases spared.fresh _ _ (by rw [frameOf, unmapped]; rfl) page with
      ⟨other, whole, different⟩
    simp only [pageSizeBytes] at *
    omega
  · exact fun state guarded => .of_space guarded rfl fun _ _ => rfl

/-- A frame taken before the companions of a flat image are loaded keeps its bytes
to the end of the load. -/
theorem companions_spare {answer : Unit} (guarded : Guarded number start)
    (loading : loadDependencies mapper fuel machine resolver header start =
      (.ok companions, mapped))
    (inOrder : ∀ module ∈ companions.modules, module.InOrder mapper mapped)
    (relocation : relocateModules companions.space companions.modules mapped = (.ok answer, linked))
    (stack : loadStack mapper bottom linked = (outcome, stop)) :
    Spares mapper number start stop := by
  have spared : Spares mapper number start mapped :=
    (loadDependencies_respects spares_admits).of_call loading guarded
  have free := (loadDependencies_free resolver).answer loading
  have relocates : (relocateModules companions.space companions.modules).Respects
      (SparesGuarded mapper number) :=
    relocateModules_respects (fun module member =>
      writeMappedWord_spares spared (free module member) (inOrder module member)) _
  have relocated := relocates.of_call relocation spared.guarded
  have stacked : Spares mapper number linked stop :=
    (loadStack_respects spares_admits).of_call stack relocated.guarded
  exact (spared.trans relocated).trans stacked

end

end ServiceOS.User
