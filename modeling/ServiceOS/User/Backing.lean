import ServiceOS.User.Runtime

/-! # What a memory object holds

The storage of `MemoryObject` and the bytes of the frames that back it. -/

namespace ServiceOS.User

open Memory Word

structure PhysicalMemory where
  bytes : Nat → UInt8
  frames : FrameSystem

inductive MemoryStorage
  | readOnly (bytes : Octets)
  | linear (bytes : Octets)
  | pageBacked (frames : List Nat)

structure StoredObject where
  sizeBytes : Nat
  contiguous : Bool
  storage : MemoryStorage

/-- A frame is cleared before the bytes of a page are copied to it. -/
def fillFrame (memory : Nat → UInt8) (base : Nat) (page : Octets) : Nat → UInt8 :=
  fun address =>
    if base ≤ address ∧ address < base + pageSizeBytes then page.getD (address - base) 0
    else memory address

/-- The pages of the bytes from `index` on. Frames granted before a failure stay taken. -/
def backPages (bytes : Octets) (index : Nat) :
    Nat → PhysicalMemory → Except MemoryAccessError (List Nat) × PhysicalMemory
  | 0, memory => (.ok [], memory)
  | count + 1, memory =>
    match memory.frames.allocate with
    | (none, frames) => (.error .busy, { memory with frames := frames })
    | (some frame, frames) =>
      let page := (bytes.drop (index * pageSizeBytes)).take pageSizeBytes
      match backPages bytes (index + 1) count ⟨fillFrame memory.bytes frame.base page, frames⟩ with
      | (backing, memory) => (backing.map (frame.base :: ·), memory)

def StoredObject.pageFrames (object : StoredObject) (memory : PhysicalMemory) :
    Except MemoryAccessError (List Nat) × StoredObject × PhysicalMemory :=
  let verify (backing : List Nat) : Except MemoryAccessError (List Nat) :=
    if object.contiguous ∧ ¬framesAreContiguous backing then .error .dmaPolicyViolation
    else .ok backing
  match object.storage with
  | .readOnly _ => (.error .readOnly, object, memory)
  | .pageBacked backing => (verify backing, object, memory)
  | .linear bytes =>
    match backPages bytes 0 (divCeil object.sizeBytes pageSizeBytes) memory with
    | (.error error, memory) => (.error error, object, memory)
    | (.ok backing, memory) =>
      (verify backing, { object with storage := .pageBacked backing }, memory)

/-! ## The object without its bytes -/

theorem backPages_eq (owned : memory.frames.Owned) :
    ∃ bytesLeft, backPages bytes index count memory =
      (match (allocatePageBacking memory.frames count).1 with
        | none => .error .busy
        | some numbers => .ok (numbers.map (· * pageSizeBytes)),
        ⟨bytesLeft, (allocatePageBacking memory.frames count).2⟩) := by
  induction count generalizing index memory with
  | zero => exact ⟨memory.bytes, rfl⟩
  | succ count induction =>
    rw [backPages, allocatePageBacking]
    rcases call : memory.frames.allocate with ⟨_ | frame, frames⟩
    · exact ⟨memory.bytes, rfl⟩
    rcases owned.granted call with ⟨number, base, -, -⟩
    let page := (bytes.drop (index * pageSizeBytes)).take pageSizeBytes
    rcases @induction (index + 1) ⟨fillFrame memory.bytes frame.base page, frames⟩
      (owned.of_allocate call) with ⟨bytesLeft, same⟩
    refine ⟨bytesLeft, ?_⟩
    simp only [page, base] at same
    simp only [same, base, EarlyFrameAllocator.page_number]
    rcases (allocatePageBacking frames count).1 with _ | numbers
    · rfl
    · rfl

/-- What the calls on memory see of an object. -/
def StoredObject.view (object : StoredObject) : MemoryObject :=
  match object.storage with
  | .readOnly _ => ⟨object.sizeBytes, false, object.contiguous, none⟩
  | .linear _ => ⟨object.sizeBytes, true, object.contiguous, none⟩
  | .pageBacked backing => ⟨object.sizeBytes, true, object.contiguous, some backing⟩

variable {object after : StoredObject}

theorem StoredObject.view_pageFrames (owned : memory.frames.Owned)
    (call : object.pageFrames memory = (answer, after, left)) :
    object.view.pageFrames memory.frames = (answer, after.view, left.frames) := by
  rcases object with ⟨sizeBytes, contiguous, bytes | bytes | backing⟩
  · cases call
    rfl
  · rcases @backPages_eq bytes 0 (divCeil sizeBytes pageSizeBytes) memory owned with
      ⟨bytesLeft, backed⟩
    simp only [pageFrames, backed] at call
    simp only [view, MemoryObject.pageFrames, if_true]
    generalize allocatePageBacking memory.frames (divCeil sizeBytes pageSizeBytes) = attempt
      at call ⊢
    rcases attempt with ⟨_ | numbers, frames⟩
    · cases call
      rfl
    · cases call
      rfl
  · cases call
    rfl

/-! ## Running out of frames -/

theorem MemoryObject.pageFrames_busy {object after : MemoryObject}
    (failed : object.pageFrames system = (.error .busy, after, left)) :
    allocatePageBacking system (divCeil object.sizeBytes pageSizeBytes) = (none, left) := by
  unfold MemoryObject.pageFrames at failed
  dsimp only at failed
  split at failed
  · split at failed
    · split at failed <;> cases failed
    split at failed
    next call =>
      cases failed
      exact call
    · split at failed <;> cases failed
  · cases failed

theorem StoredObject.pageFrames_busy
    (failed : object.pageFrames memory = (.error .busy, after, left)) : after = object := by
  unfold StoredObject.pageFrames at failed
  dsimp only at failed
  split at failed
  · cases failed
  · split at failed <;> cases failed
  split at failed
  · cases failed
    rfl
  · split at failed <;> cases failed

/-- An object that cannot be backed is left as it was. If the attempt took a frame, then it
took every frame that was free, and none of them is free again. -/
theorem failed_backing_loses_frames
    (failed : object.pageFrames memory = (.error .busy, after, left)) :
    after = object ∧ (memory.frames.Owned → ∀ first, memory.frames.allocate.1 = some first →
      first.base / pageSizeBytes ∈ memory.frames.allocator.obtainable ∧
        ∀ frame ∈ memory.frames.allocator.obtainable,
          frame ∈ left.frames.held ∧ frame ∉ left.frames.allocator.obtainable) := by
  refine ⟨StoredObject.pageFrames_busy failed, fun owned first taken => ?_⟩
  refine ⟨owned.allocate_obtainable taken, fun frame free => ?_⟩
  have attempt := MemoryObject.pageFrames_busy (StoredObject.view_pageFrames owned failed)
  rcases allocatePageBacking_none owned attempt with ⟨later, drained, usable, dropped⟩
  rcases (owned.mem_obtainable frame).mp free with ⟨known, -, kept⟩
  have place := later.partition.mem_iff.mpr (usable ▸ known)
  rw [drained, dropped, List.nil_append, List.mem_append] at place
  rw [drained]
  exact ⟨place.resolve_right kept, List.not_mem_nil⟩

def twoPages : StoredObject :=
  ⟨pageSizeBytes + 1, false, .linear (List.replicate (pageSizeBytes + 1) 7)⟩

/-- A memory whose only free frame is number 1. -/
def scarce : PhysicalMemory := ⟨fun _ => 0, bootFrames 1⟩

theorem failed_backing_loses_frames_of_scarce :
    ∃ left, twoPages.pageFrames scarce = (.error .busy, twoPages, left) ∧
      1 ∈ left.frames.held ∧ 1 ∉ left.frames.allocator.obtainable :=
  ⟨_, rfl, ((@failed_backing_loses_frames twoPages _ scarce _ rfl).2
    (FrameSystem.boot_owned ⟨by decide, by simp⟩ rfl) _ rfl).2 1 (by decide)⟩

/-- The only frame stays taken. -/
theorem failed_backing_keeps_frame :
    ∃ left, twoPages.pageFrames scarce = (.error .busy, twoPages, left) ∧
      scarce.frames.allocator.obtainable = [1] ∧ left.frames.allocator.obtainable = [] ∧
      left.frames.held = [1] :=
  ⟨_, rfl, rfl, rfl, rfl⟩

end ServiceOS.User
