import ServiceOS.Memory.PageTable

/-! # Address spaces and memory objects

Page-backed memory objects, the address spaces that map them, and the release
of an address space, which frees every frame its user window maps. Nothing
counts how often a frame is mapped, so a release is safe only for frames that
no one else uses. -/

namespace ServiceOS.Memory

open Execution EarlyFrameAllocator FrameSystem List Memory

structure AddressSpace where
  root : Nat
  table : Table 4

structure MemorySystem where
  frames : FrameSystem
  spaces : List (Nat × AddressSpace)
  /-- Live page-backed memory objects by their identifier, with their frames. -/
  objects : List (Nat × List Nat)

/-- `allocate_page_backing`. Frames granted before a failure are not given back. -/
def allocatePageBacking (frames : FrameSystem) : Nat → Option (List Nat) × FrameSystem
  | 0 => (some [], frames)
  | pages + 1 =>
    match frames.allocate with
    | (none, frames) => (none, frames)
    | (some frame, frames) =>
      match allocatePageBacking frames pages with
      | (backing, frames) => (backing.map (frame.base / pageSizeBytes :: ·), frames)

/-- The loading loops: a frame for each page, mapped at once. -/
def loadPages (mapper : PageMapper) (table : Table 4) (frames : FrameSystem) :
    List Nat → Except MappingError Unit × Table 4 × FrameSystem
  | [] => (.ok (), table, frames)
  | page :: pages =>
    match frames.allocate with
    | (none, frames) => (.error .frameAllocationFailed, table, frames)
    | (some frame, frames) =>
      match mapper.mapPage table page (frame.base / pageSizeBytes) frames with
      | (.error error, table, frames) => (.error error, table, frames)
      | (.ok _, table, frames) => loadPages mapper table frames pages

/-- The loop of `map_memory_object`: consecutive pages from `page` on. -/
def mapFrames (mapper : PageMapper) (table : Table 4) (frames : FrameSystem) (page : Nat) :
    List Nat → Except MappingError Unit × Table 4 × FrameSystem
  | [] => (.ok (), table, frames)
  | frame :: backing =>
    match mapper.mapPage table page frame frames with
    | (.error error, table, frames) => (.error error, table, frames)
    | (.ok _, table, frames) => mapFrames mapper table frames (page + 1) backing

def unmapPages (mapper : PageMapper) (table : Table 4) (page : Nat) :
    Nat → Except MappingError Unit × Table 4
  | 0 => (.ok (), table)
  | count + 1 =>
    match mapper.unmapPage table page with
    | (.error error, table) => (.error error, table)
    | (.ok _, table) => unmapPages mapper table (page + 1) count

inductive MemoryAction
  | createObject (object pageCount : Nat)
  | dropObject (object : Nat)
  /-- A new address space with an image loaded at `pages`. -/
  | createSpace (space : Nat) (pages : List Nat)
  | mapObject (space object page : Nat)
  | unmapRange (space page count : Nat)
  | releaseSpace (space : Nat)

variable {frames : FrameSystem}

namespace MemorySystem

variable (mapper : PageMapper) (system : MemorySystem)

variable (space : Nat)

def findSpace : Option (Nat × AddressSpace) :=
  system.spaces.find? (·.1 = space)

def findObject (object : Nat) : Option (Nat × List Nat) :=
  system.objects.find? (·.1 = object)

def withoutSpace : MemorySystem :=
  { system with spaces := system.spaces.eraseP (·.1 = space) }

/-- Change one space; the order of the registry does not matter. -/
def setSpace (changed : AddressSpace) (frames : FrameSystem) : MemorySystem :=
  { system with
    frames := frames
    spaces := (space, changed) :: system.spaces.eraseP (·.1 = space) }

def createObject (object pageCount : Nat) : MemorySystem :=
  match allocatePageBacking system.frames pageCount with
  | (none, frames) => { system with frames := frames }
  | (some backing, frames) =>
    { system with frames := frames, objects := (object, backing) :: system.objects }

/-- A memory object has no destructor that returns its frames. -/
def dropObject (object : Nat) : MemorySystem :=
  { system with objects := system.objects.eraseP (·.1 = object) }

/-- `prepare_address_space`. Kernel entries are shared and lie outside the user
window, so the new table owns nothing yet; a failed load registers nothing. -/
def createSpace (pages : List Nat) : MemorySystem :=
  match system.frames.allocate with
  | (none, frames) => { system with frames := frames }
  | (some root, frames) =>
    match loadPages mapper (Table.empty 3) frames pages with
    | (.error _, _, frames) => { system with frames := frames }
    | (.ok _, table, frames) =>
      { system with
        frames := frames
        spaces := (space, ⟨root.base / pageSizeBytes, table⟩) :: system.spaces }

def mapObject (space object page : Nat) : MemorySystem :=
  match system.findSpace space, system.findObject object with
  | some (_, target), some (_, backing) =>
    match mapFrames mapper target.table system.frames page backing with
    | (_, table, frames) => system.setSpace space { target with table := table } frames
  | _, _ => system

def unmapRange (space page count : Nat) : MemorySystem :=
  match system.findSpace space with
  | some (_, target) =>
    system.setSpace space { target with table := (unmapPages mapper target.table page count).2 }
      system.frames
  | none => system

/-- `release_address_space`: the user window's frames, then the root. -/
def releaseSpace : MemorySystem :=
  match system.findSpace space with
  | some (_, target) =>
    { system.withoutSpace space with
      frames := (reclaimUserFrames target.table system.frames).2.free target.root }
  | none => system

/-- Identifiers of new objects and spaces are fresh. -/
def step : MemoryAction → Option MemorySystem
  | .createObject object pageCount =>
    if (system.findObject object).isNone then
      some (system.createObject object pageCount)
    else none
  | .dropObject object => some (system.dropObject object)
  | .createSpace space pages =>
    if (system.findSpace space).isNone then some (system.createSpace mapper space pages)
    else none
  | .mapObject space object page => some (system.mapObject mapper space object page)
  | .unmapRange space page count => some (system.unmapRange mapper space page count)
  | .releaseSpace space => some (system.releaseSpace space)

/-! ## Who uses a frame -/

def tables : List Nat :=
  system.spaces.flatMap fun (_, space) => space.root :: space.table.tableFrames 4

def pages : List Nat :=
  (system.spaces.flatMap fun (_, space) => space.table.leafFrames 4) ++
    system.objects.flatMap Prod.snd

/-- Tables are private frames, and everything in use is held. -/
structure Separated : Prop where
  owned : system.frames.Owned
  tables_nodup : system.tables.Nodup
  tables_held : ∀ frame ∈ system.tables, frame ∈ system.frames.held
  pages_held : ∀ frame ∈ system.pages, frame ∈ system.frames.held
  apart : ∀ frame ∈ system.pages, frame ∉ system.tables

/-- Every free of the list is safe for the frame allocator when its turn comes. -/
inductive FreesSafe : FrameSystem → List Nat → Prop
  | nil {frames : FrameSystem} : FreesSafe frames []
  | cons {frames : FrameSystem} (first : FreeSafe frames.allocator.reclaimed frame)
      (later : FreesSafe (frames.free frame) order) : FreesSafe frames (frame :: order)

/-- The frames a release frees are mapped once in the released space, in no other
live space, and back no live object. -/
def Safe : MemoryAction → Prop
  | .releaseSpace space =>
    ∀ target ∈ system.findSpace space, (userReclaimOrder target.2.table).Nodup ∧
      (∀ frame ∈ userReclaimOrder target.2.table, frame ∉ (system.withoutSpace space).pages) ∧
      FreesSafe system.frames (userReclaimOrder target.2.table ++ [target.2.root])
  | _ => True

theorem freesSafe_cons :
    FreesSafe frames (frame :: order) ↔
      FreeSafe frames.allocator.reclaimed frame ∧ FreesSafe (frames.free frame) order :=
  ⟨fun | .cons first later => ⟨first, later⟩, fun ⟨first, later⟩ => .cons first later⟩

instance decidableFreesSafe :
    (frames : FrameSystem) → (order : List Nat) → Decidable (FreesSafe frames order)
  | _, [] => .isTrue .nil
  | frames, frame :: order =>
    have := decidableFreesSafe (frames.free frame) order
    decidable_of_iff _ freesSafe_cons.symm

instance decidableSafe :
    (action : MemoryAction) → Decidable (system.Safe action)
  | .releaseSpace space => inferInstanceAs (Decidable (∀ target ∈ system.findSpace space, _))
  | .createObject _ _ | .dropObject _ | .createSpace _ _ | .mapObject _ _ _
  | .unmapRange _ _ _ => .isTrue trivial

end MemorySystem

/-! ## Allocating and freeing several frames -/

variable {after : FrameSystem}

theorem FrameSystem.held_allocate (call : frames.allocate = (some frame, after)) :
    after.held = frame.base / pageSizeBytes :: frames.held := by
  unfold allocate at call
  split at call <;> cases call
  rfl

theorem FrameSystem.held_allocate_none
    (call : frames.allocate = (none, after)) : after.held = frames.held := by
  unfold allocate at call
  split at call <;> cases call
  rfl

theorem FrameSystem.Owned.held_nodup (owned : frames.Owned) : frames.held.Nodup :=
  (nodup_append'.mp (nodup_append'.mp owned.nodup).2.1).1

theorem FrameSystem.Owned.of_allocate (owned : frames.Owned)
    (call : frames.allocate = (answer, after)) : after.Owned := by
  have result := owned.allocate
  rw [call] at result
  exact result

theorem FrameSystem.Owned.granted
    (owned : frames.Owned) (call : frames.allocate = (some frame, after)) :
    ∃ number, frame.base = number * pageSizeBytes ∧ number ∉ frames.held ∧
      after.held = number :: frames.held := by
  have whole : ∃ number, frame.base = number * pageSizeBytes := by
    rcases inner : frames.allocator.allocate4kib with ⟨answer, allocator⟩
    simp only [FrameSystem.allocate, inner] at call
    rcases (EarlyFrameAllocator.allocate4kib_cases owned.consistent inner).2.2 with
      ⟨rfl, -, -⟩ | ⟨number, rfl, -⟩
    · cases call
    · cases call
      exact ⟨number, rfl⟩
  rcases whole with ⟨number, base⟩
  have fresh := ((owned.mem_obtainable _).mp
    (owned.allocate_obtainable (congrArg Prod.fst call))).2.1
  have held := FrameSystem.held_allocate call
  rw [base, EarlyFrameAllocator.page_number] at fresh held
  exact ⟨number, base, fresh, held⟩

theorem Allocations.owned (allocations : Allocations start new after)
    (owned : start.Owned) : after.Owned ∧ after.held = new ++ start.held := by
  induction allocations with
  | none => exact ⟨owned, rfl⟩
  | granted earlier call induction =>
    exact ⟨induction.1.of_allocate call, by
      rw [held_allocate call, induction.2]; rfl⟩
  | refused earlier call induction =>
    exact ⟨induction.1.of_allocate call, by
      rw [held_allocate_none call, induction.2]⟩

theorem FrameSystem.Owned.freeAll (owned : frames.Owned) (distinct : order.Nodup)
    (held : ∀ frame ∈ order, frame ∈ frames.held) (safe : MemorySystem.FreesSafe frames order) :
    (freeAll frames order).Owned ∧ ∀ frame, frame ∈ frames.held → frame ∉ order →
      frame ∈ (freeAll frames order).held := by
  induction order generalizing frames with
  | nil => exact ⟨owned, fun _ member _ => member⟩
  | cons first order induction =>
    rcases nodup_cons.mp distinct with ⟨fresh, rest⟩
    rcases forall_mem_cons.mp held with ⟨here, later⟩
    rcases safe with _ | ⟨firstSafe, laterSafe⟩
    have freed := owned.free here firstSafe
    have kept : ∀ frame, frame ∈ frames.held → frame ≠ first →
        frame ∈ (frames.free first).held := by
      intro frame member different
      exact (mem_erase_of_ne different).mpr member
    rcases induction freed rest (fun frame member => kept frame (later frame member)
      (fun same => fresh (same ▸ member))) laterSafe with ⟨result, remaining⟩
    refine ⟨result, fun frame member outside => ?_⟩
    rw [mem_cons, not_or] at outside
    exact remaining frame (kept frame member outside.1) outside.2

theorem Allocations.usable (allocations : Allocations start new after) :
    after.usable = start.usable ∧ after.dropped = start.dropped := by
  have step : ∀ {frames after : FrameSystem} {answer : Option Frame},
      frames.allocate = (answer, after) →
      after.usable = frames.usable ∧ after.dropped = frames.dropped := by
    intro frames after answer call
    unfold allocate at call
    split at call <;> cases call <;> exact ⟨rfl, rfl⟩
  induction allocations with
  | none => exact ⟨rfl, rfl⟩
  | granted earlier call induction | refused earlier call induction =>
    exact ⟨(step call).1.trans induction.1, (step call).2.trans induction.2⟩

theorem Allocations.length (allocations : Allocations start new after) (owned : start.Owned) :
    after.allocator.obtainable.length + new.length = start.allocator.obtainable.length := by
  rcases allocations.owned owned with ⟨later, held⟩
  have before := owned.partition.length_eq
  have afterwards := later.partition.length_eq
  simp only [length_append, held, allocations.usable] at before afterwards
  omega

theorem FrameSystem.Owned.drained (owned : frames.Owned)
    (call : frames.allocate = (none, after)) : after.allocator.obtainable = [] := by
  have before := owned.allocate_eq_none.mp (congrArg Prod.fst call)
  have length := (Allocations.none.refused call).length owned
  rw [before] at length
  exact eq_nil_of_length_eq_zero length

/-- A backing that cannot be completed takes every frame that was left. -/
theorem allocatePageBacking_none (owned : frames.Owned)
    (failed : allocatePageBacking frames pageCount = (none, after)) :
    after.Owned ∧ after.allocator.obtainable = [] ∧ after.usable = frames.usable ∧
      after.dropped = frames.dropped := by
  induction pageCount generalizing frames with
  | zero => cases failed
  | succ pageCount induction =>
    rw [allocatePageBacking] at failed
    split at failed
    next call =>
      cases failed
      exact ⟨owned.of_allocate call, owned.drained call,
        (Allocations.none.refused call).usable⟩
    rename_i frame granted call
    rcases inner : allocatePageBacking granted pageCount with ⟨rest, final⟩
    rw [inner] at failed
    cases rest with
    | some => cases failed
    | none =>
      cases failed
      have step := (Allocations.none.granted call).usable
      rw [← step.1, ← step.2]
      exact induction (owned.of_allocate call) inner

variable {objects : List (Nat × List Nat)}

namespace MemorySystem
namespace Separated

variable {system next : MemorySystem}

/-- New tables in held frames that nothing uses, and pages in held frames that
are no tables. -/
theorem relabel (separated : system.Separated) (sameFrames : next.frames = system.frames)
    (new : List Nat) (tables : next.tables.Perm (new ++ system.tables)) (distinct : new.Nodup)
    (unused : ∀ frame ∈ new, frame ∈ system.frames.held ∧ frame ∉ system.tables ∧
      frame ∉ next.pages)
    (pages : ∀ frame ∈ next.pages, frame ∈ system.pages ∨
      (frame ∈ system.frames.held ∧ frame ∉ system.tables)) : next.Separated where
  owned := sameFrames ▸ separated.owned
  tables_nodup := by
    refine tables.nodup_iff.mpr (nodup_append'.mpr ⟨distinct, separated.tables_nodup, ?_⟩)
    exact fun frame member => (unused frame member).2.1
  tables_held frame member := by
    rw [sameFrames]
    rcases mem_append.mp (tables.mem_iff.mp member) with fresh | older
    · exact (unused frame fresh).1
    · exact separated.tables_held frame older
  pages_held frame member := by
    rw [sameFrames]
    rcases pages frame member with older | ⟨held, -⟩
    · exact separated.pages_held frame older
    · exact held
  apart frame member table := by
    rcases mem_append.mp (tables.mem_iff.mp table) with fresh | older
    · exact (unused frame fresh).2.2 member
    rcases pages frame member with before | ⟨-, outside⟩
    · exact separated.apart frame before older
    · exact outside older

/-- Granted frames are held by no one before, so nothing uses them yet. -/
theorem allocations (separated : system.Separated) (granted : Allocations system.frames new after) :
    Separated { system with frames := after } ∧ new.Nodup ∧
      (∀ frame ∈ system.frames.held, frame ∈ after.held) ∧
      ∀ frame ∈ new, frame ∈ after.held ∧ frame ∉ system.frames.held := by
  rcases granted.owned separated.owned with ⟨owned, held⟩
  have nodup := owned.held_nodup
  rw [held] at nodup
  rcases nodup_append'.mp nodup with ⟨distinct, -, fresh⟩
  have grows : ∀ frame ∈ system.frames.held, frame ∈ after.held := by
    intro frame member
    rw [held]
    exact mem_append_right _ member
  refine ⟨⟨owned, separated.tables_nodup, ?_, ?_, separated.apart⟩, distinct, grows, ?_⟩
  · exact fun frame member => grows frame (separated.tables_held frame member)
  · exact fun frame member => grows frame (separated.pages_held frame member)
  intro frame member
  rw [held]
  exact ⟨mem_append_left _ member, fresh member⟩

theorem shrink (separated : system.Separated) (sameFrames : next.frames = system.frames)
    (tables : next.tables.Subperm system.tables)
    (pages : ∀ frame ∈ next.pages, frame ∈ system.pages) : next.Separated where
  owned := sameFrames ▸ separated.owned
  tables_nodup := by
    rcases tables with ⟨reordered, permuted, sublist⟩
    exact permuted.nodup_iff.mp (separated.tables_nodup.sublist sublist)
  tables_held frame member := sameFrames ▸ separated.tables_held frame (tables.subset member)
  pages_held frame member := sameFrames ▸ separated.pages_held frame (pages frame member)
  apart frame member table := separated.apart frame (pages frame member) (tables.subset table)

variable {space frame : Nat}

theorem forget (separated : Separated ⟨frames, entry :: others, objects⟩) :
    Separated ⟨frames, others, objects⟩ := by
  refine separated.shrink rfl ?_ fun frame member => ?_
  · exact (sublist_append_right _ _).subperm
  rcases mem_append.mp member with leaf | backing
  · exact mem_append_left _ (mem_append_right _ leaf)
  · exact mem_append_right _ backing

section

variable {mapper : PageMapper}

section

variable (separated : Separated ⟨frames, (space, ⟨root, table⟩) :: others, objects⟩)

include separated

theorem mapPage (held : frame ∈ frames.held)
    (outside : frame ∉ tables ⟨frames, (space, ⟨root, table⟩) :: others, objects⟩)
    (call : mapper.mapPage table page frame frames = (answer, mapped, after)) :
    Separated ⟨after, (space, ⟨root, mapped⟩) :: others, objects⟩ := by
  rcases mapper.mapPage_spec call with ⟨new, granted, tablesPerm, leavesPerm⟩
  rcases separated.allocations granted with ⟨grown, distinct, grows, fresh⟩
  have pagesFrom : ∀ other ∈ pages ⟨after, (space, ⟨root, mapped⟩) :: others, objects⟩,
      other ∈ pages ⟨after, (space, ⟨root, table⟩) :: others, objects⟩ ∨ other = frame := by
    intro other member
    simp only [pages, flatMap_cons, mem_append, leavesPerm.mem_iff] at member ⊢
    rcases member with ((added | leaf) | elsewhere) | backing
    · exact .inr (mem_addedLeaf added)
    · exact .inl (.inl (.inl leaf))
    · exact .inl (.inl (.inr elsewhere))
    · exact .inl (.inr backing)
  refine grown.relabel rfl new ?_ distinct ?_ ?_
  · simp only [tables, flatMap_cons, cons_append]
    apply ((tablesPerm.append_right _).cons root).trans
    rw [append_assoc]
    exact perm_middle.symm
  · intro other member
    rcases fresh other member with ⟨now, before⟩
    refine ⟨now, fun isTable => before (separated.tables_held other isTable), fun isPage => ?_⟩
    rcases pagesFrom other isPage with older | rfl
    · exact before (separated.pages_held other older)
    · exact before held
  intro other member
  rcases pagesFrom other member with older | rfl
  · exact .inl older
  · exact .inr ⟨grows _ held, outside⟩

theorem loadPages {pages : List Nat}
    (call : loadPages mapper table frames pages = (answer, mapped, after)) :
    Separated ⟨after, (space, ⟨root, mapped⟩) :: others, objects⟩ := by
  induction pages generalizing table frames with
  | nil =>
    cases call
    exact separated
  | cons page pages induction =>
    rw [loadPages] at call
    split at call
    next allocation =>
      cases call
      exact (separated.allocations (Allocations.none.refused allocation)).1
    rename_i allocation
    rcases separated.allocations (Allocations.none.granted allocation) with
      ⟨grown, -, -, fresh⟩
    rcases fresh _ mem_cons_self with ⟨held, unused⟩
    have outside := fun isTable => unused (separated.tables_held _ isTable)
    split at call
    next mapping =>
      cases call
      exact grown.mapPage held outside mapping
    next mapping =>
      exact induction (grown.mapPage held outside mapping) call

theorem mapFrames (backed : ∀ frame ∈ backing, frame ∈ objects.flatMap Prod.snd)
    (call : mapFrames mapper table frames page backing = (answer, mapped, after)) :
    Separated ⟨after, (space, ⟨root, mapped⟩) :: others, objects⟩ := by
  induction backing generalizing table frames page with
  | nil =>
    cases call
    exact separated
  | cons frame backing induction =>
    rcases forall_mem_cons.mp backed with ⟨here, rest⟩
    have isPage : frame ∈ pages ⟨frames, (space, ⟨root, table⟩) :: others, objects⟩ :=
      mem_append_right _ here
    have held := separated.pages_held frame isPage
    have outside := separated.apart frame isPage
    rw [mapFrames] at call
    split at call
    next mapping =>
      cases call
      exact separated.mapPage held outside mapping
    next mapping =>
      exact induction (separated.mapPage held outside mapping) rest call

end

theorem unmapPages_spec {count : Nat}
    (call : unmapPages mapper table page count = (answer, mapped)) :
    (mapped.tableFrames 4).Perm (table.tableFrames 4) ∧
      (mapped.leafFrames 4).Subperm (table.leafFrames 4) := by
  induction count generalizing table page with
  | zero =>
    cases call
    exact ⟨.refl _, List.Subperm.refl _⟩
  | succ count induction =>
    rw [unmapPages] at call
    split at call
    next step =>
      cases call
      exact mapper.unmapPage_spec step
    rename_i step
    rcases mapper.unmapPage_spec step with ⟨tables, leaves⟩
    rcases induction call with ⟨laterTables, laterLeaves⟩
    exact ⟨laterTables.trans tables, laterLeaves.trans leaves⟩

end

theorem perm_of_find {items : List α}
    (found : items.find? accept = some item) : items.Perm (item :: items.eraseP accept) := by
  induction items with
  | nil => cases found
  | cons first items induction =>
    by_cases accepted : accept first
    · rw [find?_cons_of_pos accepted] at found
      cases found
      rw [eraseP_cons_of_pos accepted]
    rw [find?_cons_of_neg accepted] at found
    rw [eraseP_cons_of_neg accepted]
    exact ((induction found).cons first).trans (.swap ..)

theorem focus (separated : system.Separated) (found : system.findSpace space = some entry) :
    Separated ⟨system.frames, (space, entry.2) :: (system.withoutSpace space).spaces,
      system.objects⟩ := by
  rcases entry with ⟨identifier, target⟩
  have same : identifier = space := by simpa using find?_some found
  subst same
  have reordered := perm_of_find found
  refine separated.shrink rfl (reordered.symm.flatMap_right _).subperm fun frame member => ?_
  rcases mem_append.mp member with leaf | backing
  · exact mem_append_left _ ((reordered.flatMap_right _).mem_iff.mpr leaf)
  · exact mem_append_right _ backing

theorem dropObject (separated : system.Separated) (object : Nat) :
    (system.dropObject object).Separated := by
  refine separated.shrink rfl (List.Subperm.refl _) fun frame member => ?_
  rcases mem_append.mp member with leaf | backing
  · exact mem_append_left _ leaf
  · apply mem_append_right _
    exact (eraseP_sublist.flatMap _).subset backing

theorem allocatePageBacking_spec (call : allocatePageBacking frames pageCount = (answer, after)) :
    ∃ new, Allocations frames new after ∧
      ∀ backing, answer = some backing → ∀ frame ∈ backing, frame ∈ new := by
  induction pageCount generalizing frames answer with
  | zero =>
    cases call
    exact ⟨[], .none, by rintro _ ⟨⟩ _ ⟨⟩⟩
  | succ pageCount induction =>
    rw [allocatePageBacking] at call
    split at call
    next allocation =>
      cases call
      exact ⟨[], .refused .none allocation, nofun⟩
    rename_i frame granted allocation
    rcases inner : allocatePageBacking granted pageCount with ⟨rest, final⟩
    rw [inner] at call
    cases call
    rcases induction inner with ⟨new, allocations, within⟩
    refine ⟨new ++ [frame.base / pageSizeBytes],
      (Allocations.none.granted allocation).trans allocations, ?_⟩
    intro backing made other member
    rcases Option.map_eq_some_iff.mp made with ⟨tail, rfl, rfl⟩
    rcases mem_cons.mp member with rfl | later
    · exact mem_append_right _ mem_cons_self
    · exact mem_append_left _ (within tail rfl other later)

section

variable (separated : system.Separated)

include separated

theorem createObject (object pageCount : Nat) :
    (system.createObject object pageCount).Separated := by
  rcases call : allocatePageBacking system.frames pageCount with ⟨answer, after⟩
  rcases allocatePageBacking_spec call with ⟨new, allocations, within⟩
  rcases separated.allocations allocations with ⟨grown, -, -, fresh⟩
  cases answer with
  | none =>
    simp only [MemorySystem.createObject, call]
    exact grown
  | some backing =>
    simp only [MemorySystem.createObject, call]
    refine grown.relabel rfl [] (.refl _) .nil nofun fun frame member => ?_
    simp only [pages, flatMap_cons, mem_append] at member ⊢
    rcases member with leaf | made | backed
    · exact .inl (.inl leaf)
    · rcases fresh frame (within backing rfl frame made) with ⟨held, unused⟩
      exact .inr ⟨held, fun isTable => unused (separated.tables_held frame isTable)⟩
    · exact .inl (.inr backed)

variable (mapper : PageMapper)

include mapper

theorem createSpace (space : Nat) (pages : List Nat) :
    (system.createSpace mapper space pages).Separated := by
  unfold MemorySystem.createSpace
  split
  next allocation =>
    exact (separated.allocations (Allocations.none.refused allocation)).1
  rename_i root granted allocation
  rcases separated.allocations (Allocations.none.granted allocation) with
    ⟨grown, distinct, -, fresh⟩
  rcases fresh _ mem_cons_self with ⟨held, unused⟩
  have rooted : Separated ⟨granted,
      (space, ⟨root.base / pageSizeBytes, Table.empty 3⟩) :: system.spaces, system.objects⟩ := by
    refine grown.relabel rfl [root.base / pageSizeBytes] ?_ distinct ?_ ?_
    · simp [tables]
    · refine forall_mem_singleton.mpr ⟨held, ?_, ?_⟩
      · exact fun isTable => unused (separated.tables_held _ isTable)
      intro isPage
      refine unused (separated.pages_held _ ?_)
      simpa [MemorySystem.pages] using isPage
    intro frame member
    refine .inl ?_
    simpa [MemorySystem.pages] using member
  split
  next loading =>
    exact (rooted.loadPages loading).forget
  next loading => exact rooted.loadPages loading

theorem mapObject (space object page : Nat) :
    (system.mapObject mapper space object page).Separated := by
  unfold MemorySystem.mapObject
  split
  next target number backing foundSpace foundObject =>
    rcases call : Memory.mapFrames mapper target.table system.frames page backing with
      ⟨answer, table, after⟩
    refine (separated.focus foundSpace).mapFrames ?_ call
    intro frame member
    exact mem_flatMap.mpr ⟨_, mem_of_find?_eq_some foundObject, member⟩
  · exact separated

theorem unmapRange (space page count : Nat) :
    (system.unmapRange mapper space page count).Separated := by
  unfold MemorySystem.unmapRange
  split
  next target found =>
    have front := separated.focus found
    rcases call : unmapPages mapper target.table page count with ⟨answer, table⟩
    rcases unmapPages_spec call with ⟨tablesPerm, leaves⟩
    refine front.shrink rfl ?_ fun frame member => ?_
    · simp only [tables, setSpace, flatMap_cons]
      exact ((tablesPerm.cons _).append_right _).subperm
    simp only [pages, setSpace, flatMap_cons, mem_append] at member ⊢
    rcases member with (leaf | elsewhere) | backing
    · exact .inl (.inl (leaves.subset leaf))
    · exact .inl (.inr elsewhere)
    · exact .inr backing
  · exact separated

end

theorem freeAll {spaces : List (Nat × AddressSpace)}
    (separated : Separated ⟨frames, spaces, objects⟩) (distinct : order.Nodup)
    (held : ∀ frame ∈ order, frame ∈ frames.held) (safe : FreesSafe frames order)
    (unused : ∀ frame ∈ order, frame ∉ tables ⟨frames, spaces, objects⟩ ∧
      frame ∉ pages ⟨frames, spaces, objects⟩) :
    Separated ⟨freeAll frames order, spaces, objects⟩ := by
  rcases separated.owned.freeAll distinct held safe with ⟨owned, kept⟩
  refine ⟨owned, separated.tables_nodup, fun frame table => ?_, fun frame page => ?_,
    separated.apart⟩
  · exact kept frame (separated.tables_held frame table)
      fun member => (unused frame member).1 table
  · exact kept frame (separated.pages_held frame page)
      fun member => (unused frame member).2 page

/-- What a release frees: frames the space maps, and its own tables. -/
theorem mem_userReclaimOrder {target : AddressSpace}
    (member : frame ∈ userReclaimOrder target.table) :
    frame ∈ target.table.leafFrames 4 ∨ frame ∈ target.table.tableFrames 4 := by
  have visited := (userReclaimOrder_sublist target.table).subset member
  rwa [(reclaimOrder_perm 4 target.table).mem_iff, mem_append] at visited

theorem releaseSpace (separated : system.Separated)
    (safe : system.Safe (.releaseSpace space)) : (system.releaseSpace space).Separated := by
  unfold MemorySystem.releaseSpace
  split
  next target found =>
    have front := separated.focus found
    rcases safe _ found with ⟨distinct, unshared, frees⟩
    rcases nodup_append'.mp front.tables_nodup with ⟨own, -, others⟩
    have mapped : ∀ frame ∈ target.table.leafFrames 4, frame ∈ pages ⟨system.frames,
        (space, target) :: (system.withoutSpace space).spaces, system.objects⟩ :=
      fun frame leaf => mem_append_left _ (mem_append_left _ leaf)
    have rootTable : target.root ∈ tables ⟨system.frames,
        (space, target) :: (system.withoutSpace space).spaces, system.objects⟩ :=
      mem_append_left _ mem_cons_self
    have rootFresh : target.root ∉ userReclaimOrder target.table := by
      intro member
      rcases mem_userReclaimOrder member with leaf | table
      · exact front.apart _ (mapped _ leaf) rootTable
      · exact (nodup_cons.mp own).1 table
    have freed : (reclaimUserFrames target.table system.frames).2.free target.root =
        Memory.freeAll system.frames (userReclaimOrder target.table ++ [target.root]) := by
      rw [reclaimUserFrames_eq, freeAll_append, freeAll_cons, freeAll_nil]
    rw [freed]
    refine front.forget.freeAll ?_ (fun frame member => ?_) frees fun frame member => ?_
    · exact nodup_append'.mpr ⟨distinct, nodup_singleton _, disjoint_singleton.mpr rootFresh⟩
    · rcases mem_append.mp member with walked | root
      · rcases mem_userReclaimOrder walked with leaf | table
        · exact front.pages_held frame (mapped frame leaf)
        · exact front.tables_held frame
            (mem_append_left _ (mem_cons_of_mem _ table))
      · exact mem_singleton.mp root ▸ front.tables_held _ rootTable
    rcases mem_append.mp member with walked | root
    · refine ⟨fun elsewhere => ?_, unshared frame walked⟩
      rcases mem_userReclaimOrder walked with leaf | table
      · exact front.apart frame (mapped frame leaf) (mem_append_right _ elsewhere)
      · exact others (mem_cons_of_mem _ table) elsewhere
    rw [mem_singleton] at root
    subst root
    refine ⟨others mem_cons_self, fun page => front.apart _ ?_ rootTable⟩
    rcases mem_append.mp page with elsewhere | backing
    · exact mem_append_left _ (mem_append_right _ elsewhere)
    · exact mem_append_right _ backing
  · exact separated

theorem step (taken : system.step mapper action = some next) (safe : system.Safe action)
    (separated : system.Separated) : next.Separated := by
  cases action with
  | createObject object pageCount =>
    rcases Option.ite_none_right_eq_some.mp taken with ⟨-, taken⟩
    cases taken
    exact separated.createObject object pageCount
  | dropObject object =>
    cases taken
    exact separated.dropObject object
  | createSpace space pages =>
    rcases Option.ite_none_right_eq_some.mp taken with ⟨-, taken⟩
    cases taken
    exact separated.createSpace mapper space pages
  | mapObject space object page =>
    cases taken
    exact separated.mapObject mapper space object page
  | unmapRange space page count =>
    cases taken
    exact separated.unmapRange mapper space page count
  | releaseSpace =>
    cases taken
    exact separated.releaseSpace safe

theorem not_obtainable (separated : system.Separated)
    (used : frame ∈ system.pages) : frame ∉ system.frames.allocator.obtainable := by
  intro obtainable
  exact ((separated.owned.mem_obtainable frame).mp obtainable).2.1
    (separated.pages_held frame used)

end Separated

/-! ## Runs of the whole system -/

def boot (memoryRegions : List BootMemoryRegion) (allocator : EarlyFrameAllocator) : MemorySystem :=
  ⟨FrameSystem.boot memoryRegions allocator, [], []⟩

variable {memoryRegions : List BootMemoryRegion} {allocator : EarlyFrameAllocator}

/-- In every run whose releases are safe, no frame that backs a live object or
is mapped in a live address space can be allocated. -/
theorem used_frames_not_allocatable {mapper : PageMapper} {actions : List MemoryAction}
    {system : MemorySystem} (valid : FrameSystem.ValidBootMap memoryRegions)
    (made : fromBootContext memoryRegions = .ok allocator)
    (execution : run (step mapper) (boot memoryRegions allocator) actions = some system)
    (safe : EveryStep (step mapper) Safe (boot memoryRegions allocator) actions) :
    (∀ object ∈ system.objects, ∀ frame ∈ object.2,
        frame ∉ system.frames.allocator.obtainable) ∧
      ∀ space ∈ system.spaces, ∀ frame ∈ space.2.table.leafFrames 4,
        frame ∉ system.frames.allocator.obtainable := by
  have separated : system.Separated :=
    everyStep_preserves Separated Safe Separated.step execution safe
      ⟨FrameSystem.boot_owned valid made, .nil, nofun, nofun, nofun⟩
  refine ⟨fun object member frame backing => ?_, fun space member frame leaf => ?_⟩
  · exact separated.not_obtainable
      (mem_append_right _ (mem_flatMap.mpr ⟨object, member, backing⟩))
  · exact separated.not_obtainable
      (mem_append_left _ (mem_flatMap.mpr ⟨space, member, leaf⟩))

def userPage : Nat := 128 * 512 ^ 3

def sixteenFrames : List BootMemoryRegion := [⟨0x1000, 0x11000, .usable⟩]

def sixteenFramesAllocator : EarlyFrameAllocator := ⟨[⟨1, 17, 1⟩], 0, 0, 0, [], 0, 0⟩

theorem sixteenFrames_valid : FrameSystem.ValidBootMap sixteenFrames :=
  ⟨by decide, by simp [sixteenFrames]⟩

/-- An object is mapped and dropped before the space that maps it is released,
while a second object stays mapped in another space. -/
def dropThenRelease : List MemoryAction :=
  [.createObject 0 1, .createObject 1 1, .createSpace 0 [userPage], .createSpace 1 [],
    .mapObject 0 0 (userPage + 1), .mapObject 1 1 userPage, .dropObject 0, .releaseSpace 0]

theorem used_frames_not_allocatable_after_release :
    ∃ system, run (step fourLevelMapper) (boot sixteenFrames sixteenFramesAllocator)
        dropThenRelease = some system ∧
      system.objects = [(1, [2])] ∧ 2 ∉ system.frames.allocator.obtainable :=
  ⟨_, rfl, by decide +kernel,
    (used_frames_not_allocatable sixteenFrames_valid rfl
      (rfl : run (step fourLevelMapper) (boot sixteenFrames sixteenFramesAllocator)
        dropThenRelease = some _)
      (by decide +kernel)).1 (1, [2]) (by decide +kernel) 2 (by decide)⟩

/-- A memory object mapped in two spaces, one of which is released. -/
def releaseShared : List MemoryAction :=
  [.createObject 0 1, .createSpace 0 [], .createSpace 1 [],
    .mapObject 0 0 userPage, .mapObject 1 0 userPage, .releaseSpace 0]

/-- The frame of the live object is allocatable while another space maps it. -/
theorem shared_frame_allocatable :
    ∃ allocator system, FrameSystem.ValidBootMap sixteenFrames ∧
      fromBootContext sixteenFrames = .ok allocator ∧
      run (step fourLevelMapper) (boot sixteenFrames allocator) releaseShared = some system ∧
      system.objects = [(0, [1])] ∧
      system.spaces.map (fun space => (space.1, space.2.table.leafFrames 4)) = [(1, [1])] ∧
      1 ∈ system.frames.allocator.obtainable :=
  ⟨sixteenFramesAllocator, _, sixteenFrames_valid, rfl, rfl, by decide +kernel,
    by decide +kernel, by decide +kernel⟩

end MemorySystem
end ServiceOS.Memory
