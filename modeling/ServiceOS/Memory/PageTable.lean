import ServiceOS.Memory.FrameOwnership

/-! # Page tables and their teardown

A page table as a tree of entries, the recursive teardown of `paging.rs`, and
what the mapping library is relied on to do. -/

namespace ServiceOS.Memory

open List

/-- A table that spans `span` levels: one for a page table, four for a root.
An entry names a frame. With a table in it the entry leads on; without one it
maps a page. -/
def Table : Nat → Type
  | 0 => Empty
  | span + 1 => Fin 512 → Option (Nat × Option (Table span))

namespace Table

def empty (span : Nat) : Table (span + 1) := fun _ => none

def visitEntry {span : Nat} (visit : Nat → Option (Table span) → List Nat) :
    Option (Nat × Option (Table span)) → List Nat
  | none => []
  | some (frame, child) => visit frame child

def collect {span : Nat} (table : Table (span + 1))
    (visit : Nat → Option (Table span) → List Nat) : List Nat :=
  (finRange 512).flatMap fun index => visitEntry visit (table index)

def leafFrames : (span : Nat) → Table span → List Nat
  | 0, table => nomatch table
  | span + 1, table =>
    table.collect fun frame child => child.elim [frame] (leafFrames span)

def tableFrames : (span : Nat) → Table span → List Nat
  | 0, table => nomatch table
  | span + 1, table =>
    table.collect fun frame child => child.elim [] fun child => frame :: tableFrames span child

end Table

/-! ## Teardown -/

/-- `reclaim_table`: free everything below a table, children before the frame
that leads to them. -/
def reclaimTable : (span : Nat) → Table span → FrameSystem → Nat × FrameSystem
  | 0, table, _ => nomatch table
  | span + 1, table, frames =>
    (finRange 512).foldl (fun (freed, frames) index =>
      match table index with
      | none => (freed, frames)
      | some (frame, none) => (freed + 1, frames.free frame)
      | some (frame, some child) =>
        match reclaimTable span child frames with
        | (inner, frames) => (freed + inner + 1, frames.free frame)) (0, frames)

def userPml4Start : Nat := 128
def userPml4End : Nat := 256

def userEntries : List (Fin 512) :=
  (finRange 512).filter fun index => userPml4Start ≤ index.val ∧ index.val < userPml4End

/-- `reclaim_user_frames`. The frame a root entry leads to is not itself freed. -/
def reclaimUserFrames (root : Table 4) (frames : FrameSystem) : Nat × FrameSystem :=
  userEntries.foldl (fun (freed, frames) index =>
    match root index with
    | some (_, some child) =>
      match reclaimTable 3 child frames with
      | (inner, frames) => (freed + inner, frames)
    | _ => (freed, frames)) (0, frames)

variable (frames : FrameSystem)

def freeAll (order : List Nat) : FrameSystem :=
  order.foldl FrameSystem.free frames

@[simp] theorem freeAll_nil : freeAll frames [] = frames := rfl

@[simp] theorem freeAll_cons (frame : Nat) (order : List Nat) :
    freeAll frames (frame :: order) = freeAll (frames.free frame) order := rfl

@[simp] theorem freeAll_append (first second : List Nat) :
    freeAll frames (first ++ second) = freeAll (freeAll frames first) second :=
  foldl_append

theorem foldl_freeAll (visit : Fin 512 → List Nat)
    (each : ∀ freed frames index, walk (freed, frames) index =
      (freed + (visit index).length, freeAll frames (visit index)))
    (indices : List (Fin 512)) (frames : FrameSystem) :
    indices.foldl walk (0, frames) =
      ((indices.flatMap visit).length, freeAll frames (indices.flatMap visit)) := by
  have onwards : ∀ freed frames, indices.foldl walk (freed, frames) =
      (freed + (indices.flatMap visit).length, freeAll frames (indices.flatMap visit)) := by
    induction indices with
    | nil => exact fun _ _ => rfl
    | cons index indices induction =>
      intro freed frames
      rw [foldl_cons, each, induction, flatMap_cons, length_append, freeAll_append, Nat.add_assoc]
  rw [onwards, Nat.zero_add]

def reclaimOrder : (span : Nat) → Table span → List Nat
  | 0, table => nomatch table
  | span + 1, table =>
    table.collect fun frame child => child.elim [] (reclaimOrder span) ++ [frame]

theorem reclaimTable_eq (span : Nat) (table : Table span) (frames : FrameSystem) :
    reclaimTable span table frames =
      ((reclaimOrder span table).length, freeAll frames (reclaimOrder span table)) := by
  induction span generalizing frames with
  | zero => exact nomatch table
  | succ span induction =>
    refine foldl_freeAll (fun index => Table.visitEntry
      (fun frame child => child.elim [] (reclaimOrder span) ++ [frame]) (table index)) ?_ _ _
    intro freed frames index
    rcases table index with _ | ⟨frame, _ | child⟩
    · rfl
    · rfl
    · simp [induction, Table.visitEntry, Nat.add_assoc]

def userReclaimOrder (root : Table 4) : List Nat :=
  userEntries.flatMap fun index =>
    Table.visitEntry (fun _ child => child.elim [] (reclaimOrder 3)) (root index)

theorem reclaimUserFrames_eq (root : Table 4) (frames : FrameSystem) :
    reclaimUserFrames root frames =
      ((userReclaimOrder root).length, freeAll frames (userReclaimOrder root)) := by
  refine foldl_freeAll (fun index =>
    Table.visitEntry (fun _ child => child.elim [] (reclaimOrder 3)) (root index)) ?_ _ _
  intro freed frames index
  rcases root index with _ | ⟨frame, _ | child⟩
  · rfl
  · rfl
  · simp [reclaimTable_eq, Table.visitEntry]

/-! ## Leaves and tables make up what is freed -/

variable {span : Nat}

namespace Table

theorem collect_append_perm (table : Table (span + 1))
    (first second : Nat → Option (Table span) → List Nat) :
    (table.collect fun frame child => first frame child ++ second frame child).Perm
      (table.collect first ++ table.collect second) := by
  refine .trans (.of_eq ?_) (flatMap_append_perm _ _ _).symm
  refine flatMap_congr fun index _ => ?_
  rcases table index with _ | ⟨frame, child⟩ <;> rfl

theorem collect_perm (table : Table (span + 1))
    (same : ∀ frame child, (first frame child).Perm (second frame child)) :
    (table.collect first).Perm (table.collect second) := by
  refine List.Perm.flatMap_left _ fun index _ => ?_
  rcases table index with _ | ⟨frame, child⟩
  · exact .nil
  · exact same frame child

end Table

theorem reclaimOrder_perm (span : Nat) (table : Table span) :
    (reclaimOrder span table).Perm (table.leafFrames span ++ table.tableFrames span) := by
  induction span with
  | zero => exact nomatch table
  | succ span induction =>
    refine .trans ?_ (table.collect_append_perm _ _)
    refine table.collect_perm fun frame child => ?_
    rcases child with _ | child
    · exact .refl _
    · apply (perm_append_singleton _ _).trans
      exact ((induction child).cons frame).trans perm_middle.symm

theorem userReclaimOrder_sublist (root : Table 4) :
    (userReclaimOrder root).Sublist (reclaimOrder 4 root) := by
  have entries : userEntries.Sublist (finRange 512) := filter_sublist
  apply (entries.flatMap _).trans
  rw [reclaimOrder]
  refine List.Sublist.flatMap_right _ fun index _ => ?_
  rcases root index with _ | ⟨frame, child⟩
  · exact .refl _
  · exact sublist_append_left _ _

/-! ## Mapping -/

inductive MappingError
  | addressAlignment
  | alreadyMapped
  | frameAllocationFailed
  | unsupported
deriving DecidableEq

def addedLeaf (frame : Nat) : Except MappingError Unit → List Nat
  | .ok _ => [frame]
  | .error _ => []

theorem mem_addedLeaf (member : other ∈ addedLeaf frame answer) : other = frame := by
  cases answer with
  | error => cases member
  | ok => exact mem_singleton.mp member

/-- `new` are the frames a series of allocations was granted, newest first. -/
inductive Allocations (start : FrameSystem) : List Nat → FrameSystem → Prop
  | none : Allocations start [] start
  | granted {frames after : FrameSystem}
      (earlier : Allocations start new frames) (call : frames.allocate = (some frame, after)) :
      Allocations start (frame.base / pageSizeBytes :: new) after
  | refused {frames after : FrameSystem}
      (earlier : Allocations start new frames) (call : frames.allocate = (Option.none, after)) :
      Allocations start new after

/-- The mapping library, as far as it is relied on: tables it adds are in
frames it is granted, a successful `map_to` adds one mapping, and nothing else
changes what is mapped. -/
structure PageMapper where
  mapPage : Table 4 → (page frame : Nat) → FrameSystem →
    Except MappingError Unit × Table 4 × FrameSystem
  unmapPage : Table 4 → (page : Nat) → Except MappingError Unit × Table 4
  mapPage_spec : ∀ {table mapped page frame frames after answer},
    mapPage table page frame frames = (answer, mapped, after) →
    ∃ new, Allocations frames new after ∧
      (mapped.tableFrames 4).Perm (new ++ table.tableFrames 4) ∧
      (mapped.leafFrames 4).Perm (addedLeaf frame answer ++ table.leafFrames 4)
  unmapPage_spec : ∀ {table unmapped page answer},
    unmapPage table page = (answer, unmapped) →
    (unmapped.tableFrames 4).Perm (table.tableFrames 4) ∧
      (unmapped.leafFrames 4).Subperm (table.leafFrames 4)

theorem Allocations.trans {frames after : FrameSystem}
    (earlier : Allocations start first frames) (later : Allocations frames second after) :
    Allocations start (second ++ first) after := by
  induction later with
  | none => exact earlier
  | granted _ call induction => exact induction.granted call
  | refused _ call induction => exact induction.refused call

/-! ## A mapper that does what is relied on

It walks down from the root, creating missing tables on the way. -/

namespace Table

def set (table : Table (span + 1)) (index : Fin 512)
    (entry : Option (Nat × Option (Table span))) : Table (span + 1) :=
  fun other => if other = index then entry else table other

theorem set_self (table : Table (span + 1)) (index : Fin 512) :
    table.set index (table index) = table := by
  funext other
  by_cases same : other = index
  · simp [set, same]
  · simp [set, same]

theorem collect_set (table : Table (span + 1)) :
    ∃ rest, ∀ entry, ((table.set index entry).collect visit).Perm
      (visitEntry visit entry ++ rest) := by
  have split : (finRange 512).Perm (index :: (finRange 512).erase index) :=
    perm_cons_erase (mem_finRange index)
  refine ⟨((finRange 512).erase index).flatMap fun other =>
    visitEntry visit (table other), fun entry => ?_⟩
  apply (split.flatMap_right _).trans
  rw [flatMap_cons]
  have same : table.set index entry index = entry := if_pos rfl
  rw [same]
  refine .append_left _ (.of_eq (flatMap_congr fun other member => ?_))
  have distinct : other ≠ index :=
    ((nodup_finRange 512).mem_erase_iff.mp member).1
  have unchanged : table.set index entry other = table other := if_neg distinct
  rw [unchanged]

variable
  {table : Table (span + 1)}

theorem collect_set_perm (new : List Nat)
    (grows : (visitEntry visit entry).Perm (new ++ visitEntry visit (table index))) :
    ((table.set index entry).collect visit).Perm (new ++ table.collect visit) := by
  rcases table.collect_set with ⟨rest, others⟩
  have before := others (table index)
  rw [set_self] at before
  refine (others entry).trans ((grows.append_right rest).trans ?_)
  rw [append_assoc]
  exact before.symm.append_left new

/-- The entry of a table spanning `below + 1` levels that leads to `page`. -/
def entryIndex (below page : Nat) : Fin 512 :=
  ⟨page / 512 ^ below % 512, Nat.mod_lt _ (by decide)⟩

@[simp] theorem tableFrames_empty (span : Nat) : (empty span).tableFrames (span + 1) = [] := by
  simp [tableFrames, collect, empty, visitEntry]

@[simp] theorem leafFrames_empty (span : Nat) : (empty span).leafFrames (span + 1) = [] := by
  simp [leafFrames, collect, empty, visitEntry]

def mapInto : (below : Nat) → Table (below + 1) → (page frame : Nat) → FrameSystem →
    Except MappingError Unit × Table (below + 1) × FrameSystem
  | 0, table, page, frame, frames =>
    match table (entryIndex 0 page) with
    | some _ => (.error .alreadyMapped, table, frames)
    | none => (.ok (), table.set (entryIndex 0 page) (some (frame, none)), frames)
  | below + 1, table, page, frame, frames =>
    match table (entryIndex (below + 1) page) with
    | some (_, none) => (.error .unsupported, table, frames)
    | some (next, some child) =>
      match mapInto below child page frame frames with
      | (answer, child, frames) =>
        (answer, table.set (entryIndex (below + 1) page) (some (next, some child)), frames)
    | none =>
      match frames.allocate with
      | (none, frames) => (.error .frameAllocationFailed, table, frames)
      | (some next, frames) =>
        match mapInto below (empty below) page frame frames with
        | (answer, child, frames) =>
          (answer, table.set (entryIndex (below + 1) page)
            (some (next.base / pageSizeBytes, some child)), frames)

def unmapFrom : (below : Nat) → Table (below + 1) → (page : Nat) →
    Except MappingError Unit × Table (below + 1)
  | 0, table, page => (.ok (), table.set (entryIndex 0 page) none)
  | below + 1, table, page =>
    match table (entryIndex (below + 1) page) with
    | none => (.ok (), table)
    | some (_, none) => (.error .unsupported, table)
    | some (next, some child) =>
      match unmapFrom below child page with
      | (answer, child) =>
        (answer, table.set (entryIndex (below + 1) page) (some (next, some child)))

theorem mapInto_spec {table mapped : Table (below + 1)} {page : Nat} {frames after : FrameSystem}
    (call : mapInto below table page frame frames = (answer, mapped, after)) :
    ∃ new, Allocations frames new after ∧
      (mapped.tableFrames (below + 1)).Perm (new ++ table.tableFrames (below + 1)) ∧
      (mapped.leafFrames (below + 1)).Perm
        (addedLeaf frame answer ++ table.leafFrames (below + 1)) := by
  induction below generalizing frames after answer with
  | zero =>
    rw [mapInto] at call
    split at call
    · cases call
      exact ⟨[], .none, by simp, by simp [addedLeaf]⟩
    rename_i vacant
    cases call
    refine ⟨[], .none, collect_set_perm _ ?_, collect_set_perm _ ?_⟩ <;>
      simp [vacant, visitEntry, addedLeaf]
  | succ below induction =>
    rw [mapInto] at call
    split at call
    · cases call
      exact ⟨[], .none, by simp, by simp [addedLeaf]⟩
    next next child present =>
      rcases inner : mapInto below child page frame frames with ⟨_, mappedChild, _⟩
      rw [inner] at call
      cases call
      rcases induction inner with ⟨new, allocations, tables, leaves⟩
      refine ⟨new, allocations, collect_set_perm _ ?_, collect_set_perm _ ?_⟩
      · simp only [present, visitEntry, Option.elim_some]
        exact (tables.cons next).trans perm_middle.symm
      · simpa only [present, visitEntry, Option.elim_some] using leaves
    next vacant =>
      split at call
      next _ refused =>
        cases call
        exact ⟨[], .refused .none refused, by simp, by simp [addedLeaf]⟩
      rename_i next granted created
      rcases inner : mapInto below (empty below) page frame granted with ⟨_, mappedChild, _⟩
      rw [inner] at call
      cases call
      rcases induction inner with ⟨new, allocations, tables, leaves⟩
      rw [tableFrames_empty, append_nil] at tables
      rw [leafFrames_empty] at leaves
      refine ⟨new ++ [next.base / pageSizeBytes],
        (Allocations.none.granted created).trans allocations,
        collect_set_perm _ ?_, collect_set_perm _ ?_⟩
      · simp only [vacant, visitEntry, Option.elim_some, append_nil]
        exact (tables.cons _).trans (perm_append_singleton _ _).symm
      · simpa only [vacant, visitEntry, Option.elim_some, append_nil] using leaves

theorem collect_set_perm_same
    (same : (visitEntry visit entry).Perm (visitEntry visit (table index))) :
    ((table.set index entry).collect visit).Perm (table.collect visit) := by
  have grown := collect_set_perm [] same
  rwa [nil_append] at grown

theorem collect_set_subperm
    (shrinks : (visitEntry visit entry).Subperm (visitEntry visit (table index))) :
    ((table.set index entry).collect visit).Subperm (table.collect visit) := by
  rcases table.collect_set with ⟨rest, others⟩
  have before := others (table index)
  rw [set_self] at before
  refine (others entry).subperm.trans (List.Subperm.trans ?_ before.symm.subperm)
  exact (subperm_append_right rest).mpr shrinks

theorem unmapFrom_spec {table : Table (below + 1)}
    (call : unmapFrom below table page = (answer, unmapped)) :
    (unmapped.tableFrames (below + 1)).Perm (table.tableFrames (below + 1)) ∧
      (unmapped.leafFrames (below + 1)).Subperm (table.leafFrames (below + 1)) := by
  induction below generalizing answer with
  | zero =>
    cases call
    refine ⟨collect_set_perm_same ?_, collect_set_subperm ?_⟩
    · rcases table (entryIndex 0 page) with _ | ⟨frame, _ | child⟩
      · exact .refl _
      · exact .refl _
      · exact nomatch child
    · exact nil_subperm
  | succ below induction =>
    rw [unmapFrom] at call
    split at call
    · cases call
      exact ⟨.refl _, List.Subperm.refl _⟩
    · cases call
      exact ⟨.refl _, List.Subperm.refl _⟩
    rename_i next child present
    rcases inner : unmapFrom below child page with ⟨_, unmappedChild⟩
    rw [inner] at call
    cases call
    rcases induction inner with ⟨tables, leaves⟩
    refine ⟨collect_set_perm_same ?_, collect_set_subperm ?_⟩
    · simpa only [present, visitEntry, Option.elim_some] using tables.cons next
    · simpa only [present, visitEntry, Option.elim_some] using leaves

end Table

def fourLevelMapper : PageMapper where
  mapPage := Table.mapInto 3
  unmapPage := Table.unmapFrom 3
  mapPage_spec := Table.mapInto_spec
  unmapPage_spec := Table.unmapFrom_spec

end ServiceOS.Memory
