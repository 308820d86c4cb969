import ServiceOS.Storage.FileMemory

/-! # Files as clients see them

A file has contents, which accepted writes define, and a session is opened on one file. The
service knows slots and handles only, so files and the sessions on them are followed beside
its state. -/

namespace ServiceOS.Storage

open ByteString Fallible Service List Storage.Memory

/-! ## Contents -/

/-- Contents cut off or filled up with zeros to a length. -/
def resized (contents : Octets) (length : Nat) : Octets :=
  contents.take length ++ replicate (length - contents.length) 0

def written (contents : Octets) (operands : WriteOperands) (bytes : Octets) : Octets :=
  overwrite (resized contents operands.totalLen) operands.offset bytes

section

variable {contents bytes source : Octets} {length offset address : Nat}

theorem length_resized : (resized contents length).length = length := by
  rw [resized, length_append, length_take, length_replicate]
  omega

theorem getElem?_resized (inside : address < length) :
    (resized contents length)[address]? = some (contents[address]?.getD 0) := by
  rw [resized, getElem?_append, length_take]
  split
  · rw [getElem?_take_of_lt inside, getElem?_eq_getElem (by omega), Option.getD_some]
  · rw [getElem?_replicate_of_lt (by omega), getElem?_eq_none (by omega)]
    rfl

theorem getElem?_overwrite (inside : address < bytes.length) :
    (overwrite bytes offset source)[address]? =
      if offset ≤ address ∧ address < offset + source.length then source[address - offset]?
      else bytes[address]? := by
  rw [overwrite, append_assoc, getElem?_append, length_take]
  split
  · rw [getElem?_take_of_lt (by omega), if_neg (by omega)]
  rw [getElem?_append, length_take]
  split
  · rw [if_pos (by omega), getElem?_take_of_lt (by omega)]
    congr 1
    omega
  rw [if_neg (by omega), getElem?_drop]
  congr 1
  omega

end

/-- The bytes beyond the end of a file that a write takes in without writing them are zero. -/
def GapBlank (memory : Memory) (entry : MutableEntry) (operands : WriteOperands) : Prop :=
  operands.totalLen ≤ entry.dataCapacity → ∀ address < operands.totalLen, entry.dataLen ≤ address →
    address < operands.offset ∨ operands.offset + operands.writeLen ≤ address →
    (bytesOf memory entry)[address]?.getD 0 = 0

instance (memory : Memory) (entry : MutableEntry) (operands : WriteOperands) :
    Decidable (GapBlank memory entry operands) :=
  inferInstanceAs (Decidable (_ → _))

section

variable {memory after : Memory}

theorem length_contents (has : HasMemory memory entry) :
    (contents memory entry).length = entry.dataLen := by
  rw [contents, length_take_of_le]
  rw [has.sized]
  exact has.within

variable (grows : Grown memory entry operands.totalLen grown after) (has : HasMemory memory entry)
  (blank : GapBlank memory entry operands)

include grows has blank

/-- The bytes a write is made over, as far as it does not hide them. -/
theorem getElem?_grown (inside : address < operands.totalLen)
    (shown : address < operands.offset ∨ operands.offset + operands.writeLen ≤ address) :
    (bytesOf after grown)[address]? =
    (resized (contents memory entry) operands.totalLen)[address]? := by
  have size := length_contents has
  have whole := has.sized
  have room := grows.room
  rw [getElem?_resized inside, grows.bytes]
  by_cases before : address < entry.dataLen
  · have here : (contents memory entry)[address]? = (bytesOf memory entry)[address]? :=
      getElem?_take_of_lt before
    have held : (contents memory entry)[address]? = some (contents memory entry)[address] :=
      getElem?_eq_getElem (by omega)
    split
    · rw [held, Option.getD_some, ← held, here]
    · rw [getElem?_append_left (by omega), held, Option.getD_some]
  · have beyond : (contents memory entry)[address]? = none := getElem?_eq_none (by omega)
    rw [beyond, Option.getD_none]
    split
    next fits =>
      have zero := blank fits address inside (Nat.le_of_not_lt before) shown
      rw [getElem?_eq_getElem (by omega), Option.getD_some] at zero
      rw [getElem?_eq_getElem (by omega), zero]
    · rw [getElem?_append_right (by omega), getElem?_replicate_of_lt (by omega)]

theorem contents_write (length : bytes.length = operands.writeLen) :
    contents (after.write grown.dataHandle operands.offset bytes)
      { grown with dataLen := operands.totalLen } =
      written (contents memory entry) operands bytes := by
  have room := grows.room
  have whole := grows.sized
  have overwritten : bytesOf (after.write grown.dataHandle operands.offset bytes)
      { grown with dataLen := operands.totalLen } =
      overwrite (bytesOf after grown) operands.offset bytes := by
    rw [bytesOf_write, if_pos rfl]
    rfl
  rw [contents, overwritten, written]
  apply ext_getElem?
  intro address
  by_cases inside : address < operands.totalLen
  · rw [getElem?_take_of_lt inside, getElem?_overwrite (by omega),
      getElem?_overwrite (by rw [length_resized]; exact inside)]
    split
    · rfl
    · exact getElem?_grown grows has blank inside (by omega)
  rw [getElem?_eq_none, getElem?_eq_none]
  · rw [length_overwrite, length_resized]
    omega
  · rw [length_take]
    exact Nat.le_trans (Nat.min_le_left _ _) (Nat.le_of_not_lt inside)

end

/-! ## Following the files -/

/-- The file in each slot, the file each session was opened on, and the contents of the files,
those that were removed included. Files are numbered. -/
structure Files where
  next : Nat
  inSlot : Nat → Option Nat
  openOn : Nat → Option Nat
  contents : Nat → Octets

def writeOf? (service : Service) : Event → Option (Nat × RawMessage × Octets)
  | .blob place message _ =>
    (acceptedWrite? service place message).map fun bytes => (place, message, bytes.val)
  | _ => none

namespace Files

def initial (service : Service) : Files where
  next := maxMutableEntries
  inSlot slot := (service.mutableEntries.get? slot).map fun _ => slot
  openOn _ := none
  contents file :=
    ((service.mutableEntries.get? file).map (Storage.contents service.memory)).getD []

/-- A slot that is filled holds a new file. -/
def slotAfter (files : Files) (after : Service) (slot : Nat) : Option Nat :=
  (after.mutableEntries.get? slot).map fun _ => (files.inSlot slot).getD files.next

/-- A session that is opened is on the file its slot then holds. -/
def sessionAfter (files : Files) (service after : Service) (place : Nat) : Option Nat :=
  (after.blobSessions.get? place).bind fun session =>
    match service.blobSessions.get? place with
    | some _ => files.openOn place
    | none =>
      if session.source = .mutable then files.slotAfter after session.entryIndex else none

/-- A new file is empty, and a write is a write to the file of its session. -/
def contentsAfter (files : Files) (service : Service) (event : Event) (file : Nat) : Octets :=
  if file = files.next then
    []
  else
    match writeOf? service event with
    | none => files.contents file
    | some (place, message, bytes) =>
      if files.openOn place = some file then
        written (files.contents file) (writeOperands message) bytes
      else
        files.contents file

def follow (files : Files) (service : Service) (event : Event) (after : Service) : Files where
  next := files.next + 1
  inSlot := files.slotAfter after
  openOn := files.sessionAfter service after
  contents := files.contentsAfter service event

end Files

/-- The service with its files beside it. -/
def trackedStep (state : Files × Service) (event : Event) : Option (Files × Service) :=
  (step state.2 event).map fun after => (state.1.follow state.2 event after, after)

/-! ## Slots hold their files -/

structure Tracks (files : Files) (service : Service) : Prop where
  kept : Kept service.mutableEntries service.memory
  filled : ∀ slot, files.inSlot slot = none ↔ service.mutableEntries.get? slot = none
  older : ∀ {slot file}, files.inSlot slot = some file → file < files.next
  apart : ∀ {first second file}, files.inSlot first = some file →
    files.inSlot second = some file → first = second
  current : ∀ {slot entry file}, service.mutableEntries.get? slot = some entry →
    files.inSlot slot = some file → contents service.memory entry = files.contents file
  sessions : ∀ {place session}, service.blobSessions.get? place = some session →
    session.source = .mutable → ∃ file, files.openOn place = some file ∧
      ∀ other, files.inSlot session.entryIndex = some other → other = file

theorem tracks_initial (noBlobs : service.blobSessions = .empty _)
    (kept : Kept service.mutableEntries service.memory) : Tracks (.initial service) service where
  kept := kept
  filled slot := Option.map_eq_none_iff
  older {slot file} holds := by
    rcases Option.map_eq_some_iff.mp holds with ⟨entry, held, rfl⟩
    exact Slots.lt_of_get?_eq_some held
  apart holds holdsToo := by
    rcases Option.map_eq_some_iff.mp holds with ⟨entry, held, rfl⟩
    rcases Option.map_eq_some_iff.mp holdsToo with ⟨other, heldToo, same⟩
    exact same.symm
  current {slot entry file} held holds := by
    rcases Option.map_eq_some_iff.mp holds with ⟨same, heldToo, rfl⟩
    rw [Files.initial]
    dsimp only
    rw [held]
    rfl
  sessions held := by
    rw [noBlobs, Slots.get?_empty] at held
    cases held

section

variable {service after : Service}

def Filled (service after : Service) (slot : Nat) : Prop :=
  service.mutableEntries.get? slot = none ∧ after.mutableEntries.get? slot ≠ none

/-- What makes a change one of the files that are followed. -/
structure Follows (files : Files) (service : Service) (event : Event) (after : Service) : Prop where
  kept : Kept after.mutableEntries after.memory
  one : ∀ {first second}, Filled service after first → Filled service after second → first = second
  blank : ∀ {slot entry}, after.mutableEntries.get? slot = some entry →
    service.mutableEntries.get? slot = none → contents after.memory entry = []
  same : ∀ {slot entry old file}, after.mutableEntries.get? slot = some entry →
    service.mutableEntries.get? slot = some old → files.inSlot slot = some file →
    contents after.memory entry = files.contentsAfter service event file
  sessions : ∀ {place session}, after.blobSessions.get? place = some session →
    session.source = .mutable →
    (∃ old, service.blobSessions.get? place = some old ∧ old.source = .mutable ∧
      old.entryIndex = session.entryIndex ∧ ¬Filled service after session.entryIndex) ∨
    (service.blobSessions.get? place = none ∧ after.mutableEntries.get? session.entryIndex ≠ none)

/-- The file of a filled slot is a new one, that of another slot stays. -/
theorem slotAfter_eq_some (tracks : Tracks files service)
    (holds : files.slotAfter after slot = some file) :
    (Filled service after slot ∧ file = files.next) ∨ files.inSlot slot = some file := by
  rcases Option.map_eq_some_iff.mp holds with ⟨entry, held, made⟩
  rcases before : files.inSlot slot with _ | old
  · rw [before] at made
    refine .inl ⟨⟨(tracks.filled slot).mp before, ?_⟩, made.symm⟩
    rw [held]
    exact Option.some_ne_none entry
  · rw [before] at made
    exact .inr (congrArg some made)

theorem tracks_follow (tracks : Tracks files service)
    (follows : Follows files service event after) :
    Tracks (files.follow service event after) after where
  kept := follows.kept
  filled slot := Option.map_eq_none_iff
  older holds := by
    rcases slotAfter_eq_some tracks holds with ⟨-, rfl⟩ | before
    · exact Nat.lt_succ_self _
    · exact Nat.lt_succ_of_lt (tracks.older before)
  apart holds holdsToo := by
    rcases slotAfter_eq_some tracks holds with ⟨filled, rfl⟩ | before <;>
      rcases slotAfter_eq_some tracks holdsToo with ⟨filledToo, same⟩ | beforeToo
    · exact follows.one filled filledToo
    · exact absurd (tracks.older beforeToo) (Nat.lt_irrefl _)
    · exact absurd (same ▸ tracks.older before) (Nat.lt_irrefl _)
    · exact tracks.apart before beforeToo
  current {slot entry file} held holds := by
    rcases slotAfter_eq_some tracks holds with ⟨filled, rfl⟩ | before
    · rw [follows.blank held filled.1]
      exact (if_pos rfl).symm
    rcases there : service.mutableEntries.get? slot with _ | old
    · exact nomatch ((tracks.filled slot).mpr there).symm.trans before
    · exact follows.same held there before
  sessions {place session} held source := by
    rcases follows.sessions held source with ⟨old, heldBefore, wasMutable, index,
      unfilled⟩ | ⟨new, filled⟩
    · rcases tracks.sessions heldBefore wasMutable with ⟨file, opened, only⟩
      refine ⟨file, ?_, fun other holds => ?_⟩
      · rw [Files.follow]
        dsimp only
        rw [Files.sessionAfter, held, heldBefore]
        exact opened
      rcases slotAfter_eq_some tracks holds with ⟨wrong, -⟩ | before
      · exact absurd wrong unfilled
      · exact only other (index ▸ before)
    · rcases Option.ne_none_iff_exists'.mp filled with ⟨entry, there⟩
      refine ⟨(files.inSlot session.entryIndex).getD files.next, ?_, fun other holds => ?_⟩
      · rw [Files.follow]
        dsimp only
        rw [Files.sessionAfter, held, new, Option.bind_some, if_pos source, Files.slotAfter, there]
        rfl
      · rcases Option.map_eq_some_iff.mp holds with ⟨-, -, same⟩
        exact same.symm

end

end ServiceOS.Storage
