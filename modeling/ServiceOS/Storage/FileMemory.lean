import ServiceOS.Storage.Moves

/-! # The memory of the files

Every file has a memory object of its own. It is as long as the capacity of the file, which
its length does not exceed. -/

namespace ServiceOS.Storage

open ByteString Fallible Service Storage.Memory Slots List Word

/-! ## Copying -/

theorem Memory.overwrite_append (fits : source.length ≤ back.length) :
    overwrite (front ++ back) front.length source = front ++ source ++ back.drop source.length := by
  rw [overwrite, take_left, length_append, Nat.add_sub_cancel_left,
    take_of_length_le fits, drop_length_add_append]

/-- What a copy has done once `copied` bytes of it are in place. -/
def partCopy (bytes blank : Octets) (copied : Nat) : Octets :=
  bytes.take copied ++ blank.drop copied

section

theorem overwrite_partCopy {count : Nat} (within : copied + count ≤ bytes.length)
    (room : copied + count ≤ blank.length) :
    overwrite (partCopy bytes blank copied) copied ((bytes.drop copied).take count) =
      partCopy bytes blank (copied + count) := by
  have front : (bytes.take copied).length = copied := length_take_of_le (by omega)
  have read : ((bytes.drop copied).take count).length = count := by
    rw [length_take_of_le]
    rw [length_drop]
    omega
  have back : ((bytes.drop copied).take count).length ≤ (blank.drop copied).length := by
    rw [length_drop]
    omega
  have done := @overwrite_append (bytes.take copied) _ _ back
  rw [front, read, drop_drop] at done
  rw [partCopy, done, partCopy, take_add]

theorem memoryRead_eq (offset length : Nat) (live : service.memory.objects handle = some bytes) :
    memoryRead handle offset length service = (.ok ((bytes.drop offset).take length), service) := by
  rw [memoryRead, Memory.read, live]
  rfl

theorem memoryWrite_eq (offset : Nat) (source : Octets)
    (live : service.memory.objects handle = some bytes) :
    memoryWrite handle offset source service =
      (.ok (), { service with memory := service.memory.write handle offset source }) := by
  rw [memoryWrite, live]

theorem copyData_eq {source target : Handle} {dataLen fuel copied : Nat}
    (different : source ≠ target) (sourceHolds : service.memory.objects source = some bytes)
    (targetHolds : service.memory.objects target = some (partCopy bytes blank copied))
    (within : dataLen ≤ bytes.length) (room : dataLen ≤ blank.length) (begun : copied ≤ dataLen)
    (enough : dataLen - copied < fuel) :
    ∃ memory : Memory, copyData source target dataLen fuel copied service =
        (.ok (), { service with memory := memory }) ∧ memory.next = service.memory.next ∧
      ∀ handle, memory.objects handle = if handle = target then some (partCopy bytes blank dataLen)
        else service.memory.objects handle := by
  induction fuel generalizing service copied with
  | zero => omega
  | succ fuel induction =>
    rw [copyData]
    split
    next finished =>
      have same : copied = dataLen := Nat.le_antisymm begun finished
      refine ⟨service.memory, rfl, rfl, fun handle => ?_⟩
      split
      next here => rw [here, targetHolds, same]
      · rfl
    have count : min (dataLen - copied) 128 ≠ 0 := by omega
    have fits : copied + min (dataLen - copied) 128 ≤ dataLen := by omega
    have size : ((bytes.drop copied).take (min (dataLen - copied) 128)).length =
        min (dataLen - copied) 128 := by
      rw [length_take_of_le]
      rw [length_drop]
      omega
    have written : (service.memory.write target copied
        ((bytes.drop copied).take (min (dataLen - copied) 128))).objects target =
        some (partCopy bytes blank (copied + min (dataLen - copied) 128)) := by
      rw [objects_write_self, targetHolds, Option.map_some,
        overwrite_partCopy (by omega) (by omega)]
    rw [bind_of_answer (memoryRead_eq _ _ sourceHolds), if_neg]
    · rw [bind_of_answer (memoryWrite_eq _ _ targetHolds), size]
      generalize (bytes.drop copied).take (min (dataLen - copied) 128) = chunk at *
      have kept {handle : Handle} (other : handle ≠ target) :=
        objects_write_ne service.memory other copied chunk
      rcases @induction { service with memory := service.memory.write target copied chunk } _
        ((kept different).trans sourceHolds) written fits
          (by omega) with ⟨memory, call, next, objects⟩
      refine ⟨memory, call, next, fun handle => (objects handle).trans ?_⟩
      split
      · rfl
      next other => exact kept other
    · intro nothing
      rw [nothing] at size
      exact count size.symm

end

/-! ## Growing -/

section

/-- Doubling reaches every length a word can hold. -/
theorem growCapacity_eq_some (fits : totalLen < limit) (fuel capacity : Nat)
    (enough : limit - 1 ≤ capacity * 2 ^ fuel) :
    ∃ result, growCapacity totalLen (fuel + 1) capacity = some result ∧ totalLen ≤ result := by
  induction fuel generalizing capacity with
  | zero =>
    rw [growCapacity, if_pos (by omega)]
    exact ⟨capacity, rfl, by omega⟩
  | succ fuel induction =>
    rw [growCapacity]
    split
    next reached => exact ⟨capacity, rfl, reached⟩
    apply induction
    rcases Nat.le_total (capacity * 2) (limit - 1) with below | above
    · rw [Nat.min_eq_left below]
      calc limit - 1 ≤ capacity * 2 ^ (fuel + 1) := enough
        _ = capacity * 2 * 2 ^ fuel := by rw [Nat.pow_succ', Nat.mul_assoc]
    · rw [Nat.min_eq_right above]
      exact Nat.le_mul_of_pos_right _ (Nat.two_pow_pos fuel)

end

/-! ## Entries and their memory -/

def bytesOf (memory : Memory) (entry : MutableEntry) : Octets :=
  (memory.objects entry.dataHandle).getD []

def contents (memory : Memory) (entry : MutableEntry) : Octets :=
  (bytesOf memory entry).take entry.dataLen

structure HasMemory (memory : Memory) (entry : MutableEntry) : Prop where
  sized : (bytesOf memory entry).length = entry.dataCapacity
  within : entry.dataLen ≤ entry.dataCapacity
  live : entry.dataHandle ≠ invalidHandle → memory.objects entry.dataHandle ≠ none

/-- Every entry has memory of its own. -/
structure Kept (entries : EntryTable) (memory : Memory) : Prop where
  held : ∀ {index entry}, entries.get? index = some entry → HasMemory memory entry
  apart : ∀ {first second entry other}, entries.get? first = some entry →
    entries.get? second = some other → entry.dataHandle = other.dataHandle →
    entry.dataHandle ≠ invalidHandle → first = second
  invalid : memory.objects invalidHandle = none

section

variable {memory after : Memory}

theorem bytesOf_of_objects (live : memory.objects entry.dataHandle = some bytes) :
    bytesOf memory entry = bytes := by
  rw [bytesOf, live, Option.getD_some]

theorem bytesOf_congr (same : after.objects other.dataHandle = memory.objects entry.dataHandle) :
    bytesOf after other = bytesOf memory entry := by
  rw [bytesOf, bytesOf, same]

theorem HasMemory.congr (has : HasMemory memory entry)
    (same : after.objects entry.dataHandle = memory.objects entry.dataHandle) :
    HasMemory after entry where
  sized := (congrArg length (bytesOf_congr same)).trans has.sized
  within := has.within
  live handled := same ▸ has.live handled

theorem bytesOf_write (handle : Handle) (offset : Nat) (source : Octets) :
    bytesOf (memory.write handle offset source) entry =
      if entry.dataHandle = handle then overwrite (bytesOf memory entry) offset source
      else bytesOf memory entry := by
  split
  next same =>
    rw [bytesOf, bytesOf, same, objects_write_self]
    rcases memory.objects handle with _ | bytes
    · simp [overwrite]
    · rfl
  next other => exact bytesOf_congr (objects_write_ne memory other offset source)

structure Grown (memory : Memory) (entry : MutableEntry) (totalLen : Nat) (grown : MutableEntry)
    (after : Memory) : Prop where
  room : totalLen ≤ grown.dataCapacity
  same : grown = { entry with
    dataHandle := grown.dataHandle
    dataCapacity := grown.dataCapacity }
  own : grown.dataHandle = entry.dataHandle ∨ grown.dataHandle = memory.next
  bytes : bytesOf after grown = if totalLen ≤ entry.dataCapacity then bytesOf memory entry
    else contents memory entry ++ replicate (grown.dataCapacity - entry.dataLen) 0
  sized : (bytesOf after grown).length = grown.dataCapacity
  others : ∀ {handle}, handle ≠ entry.dataHandle → handle ≠ memory.next →
    after.objects handle = memory.objects handle
  live : grown.dataHandle ≠ invalidHandle → after.objects grown.dataHandle ≠ none
  invalid : after.objects invalidHandle = none

variable {service : Service}

variable (has : HasMemory service.memory entry)
  (invalid : service.memory.objects invalidHandle = none)

include has invalid

theorem growEntry_eq (larger : entry.dataCapacity < totalLen) (room : totalLen ≤ newCapacity) :
    ∃ grown memory, growEntry entry newCapacity service =
        (.ok grown, { service with memory := memory }) ∧
      Grown service.memory entry totalLen grown memory := by
  have fresh := objects_create_self service.memory newCapacity
  have new : service.memory.next ≠ invalidHandle := Nat.ne_of_gt service.memory.positive
  have kept {handle : Handle} (other : handle ≠ service.memory.next) :
      (service.memory.create newCapacity).2.objects handle = service.memory.objects handle :=
    if_neg other
  have created : memoryCreate newCapacity service = (.ok service.memory.next,
      { service with memory := (service.memory.create newCapacity).2 }) := rfl
  rw [growEntry, bind_of_answer created]
  by_cases handled : entry.dataHandle = invalidHandle
  · have empty : bytesOf service.memory entry = [] := by rw [bytesOf, handled, invalid]; rfl
    have small : entry.dataCapacity = 0 := by rw [← has.sized, empty, length_nil]
    have short : entry.dataLen = 0 := Nat.le_zero.mp (small ▸ has.within)
    have copied (target : Handle) (state : Service) :
        copyData entry.dataHandle target entry.dataLen (entry.dataLen + 1) 0 state =
          (.ok (), state) := by
      rw [short, copyData, if_pos (Nat.le_refl 0)]
      rfl
    rw [bind_of_answer (copied _ _), onlyIf, if_neg (not_not.mpr handled)]
    refine ⟨_, _, rfl, room, rfl, .inr rfl, ?_, ?_, fun _ other => kept other, ?_, ?_⟩
    · rw [if_neg (Nat.not_le_of_lt larger), bytesOf_of_objects fresh, contents, empty,
        take_nil, nil_append, short, Nat.sub_zero]
    · rw [bytesOf_of_objects fresh, length_replicate]
    · exact fun _ missing => nomatch fresh.symm.trans missing
    · exact (kept new.symm).trans invalid
  · rcases Option.ne_none_iff_exists'.mp (has.live handled) with ⟨bytes, live⟩
    have whole := bytesOf_of_objects live
    have other : entry.dataHandle ≠ service.memory.next := by
      intro same
      rw [same, service.memory.unused _ le_rfl] at live
      cases live
    have size := has.sized
    have within := has.within
    rw [whole] at size
    have roomy : entry.dataLen ≤ (replicate newCapacity (0 : UInt8)).length := by
      rw [length_replicate]
      omega
    rcases @copyData_eq bytes (replicate newCapacity 0)
      { service with memory := (service.memory.create newCapacity).2 } _ _ _ (entry.dataLen + 1) 0
      other ((kept other).trans live) fresh (by omega) roomy (Nat.zero_le _) (Nat.lt_succ_self _)
      with ⟨memory, copied, -, objects⟩
    rw [bind_of_answer copied, onlyIf, if_pos handled]
    have closed {handle : Handle} (different : handle ≠ entry.dataHandle) :=
      objects_close_ne memory different
    have made : (memory.close entry.dataHandle).objects service.memory.next =
        some (partCopy bytes (replicate newCapacity 0) entry.dataLen) := by
      rw [closed other.symm, objects, if_pos rfl]
    refine ⟨_, memory.close entry.dataHandle, rfl, room, rfl, .inr rfl, ?_, ?_, ?_, ?_, ?_⟩
    · rw [if_neg (Nat.not_le_of_lt larger), bytesOf_of_objects made, partCopy, contents, whole,
        drop_replicate]
    · rw [bytesOf_of_objects made, partCopy, length_append, length_take_of_le (by omega), length_drop]
      exact (Nat.add_sub_cancel' roomy).trans length_replicate
    · intro handle different another
      rw [closed different, objects, if_neg another, kept another]
    · exact fun _ missing => nomatch made.symm.trans missing
    · rw [closed (Ne.symm handled), objects, if_neg new.symm, kept new.symm, invalid]

theorem ensureMutableCapacity_eq (fits : totalLen < limit) :
    ∃ grown memory, ensureMutableCapacity entry totalLen service =
        (.ok grown, { service with memory := memory }) ∧
      Grown service.memory entry totalLen grown memory := by
  rw [ensureMutableCapacity]
  split
  next room =>
    refine ⟨entry, service.memory, rfl, room, rfl, .inl rfl, ?_, has.sized, fun _ _ => rfl,
      has.live, invalid⟩
    rw [if_pos room]
  rename_i larger
  have enough : limit - 1 ≤ max entry.dataCapacity initialFileCapacity * 2 ^ 64 := by
    calc limit - 1 ≤ initialFileCapacity * 2 ^ 64 := by decide
      _ ≤ _ := Nat.mul_le_mul_right _ (Nat.le_max_right _ _)
  rcases growCapacity_eq_some fits 64 _ enough with ⟨newCapacity, grows, room⟩
  rw [grows]
  exact growEntry_eq has invalid (Nat.lt_of_not_le larger) room

end

/-! ## Every request keeps it -/

section

variable {entries : EntryTable} {memory after : Memory}

/-- An entry with a handle of memory that is not in use shares it with no other. -/
theorem Kept.ne_next (kept : Kept entries memory)
    (held : entries.get? place = some other) : other.dataHandle ≠ memory.next := by
  intro same
  have unused := memory.unused _ (Nat.le_of_eq same.symm)
  by_cases handled : other.dataHandle = invalidHandle
  · exact Nat.ne_of_gt memory.positive (same.symm.trans handled)
  · exact (kept.held held).live handled unused

theorem kept_empty (invalid : memory.objects invalidHandle = none) : Kept (.empty _) memory := by
  refine ⟨fun held => ?_, fun held => ?_, invalid⟩
  · rw [get?_empty] at held
    cases held
  · rw [get?_empty] at held
    cases held

theorem Kept.congr (kept : Kept entries memory)
    (same : ∀ handle, after.objects handle = memory.objects handle) : Kept entries after where
  held held := (kept.held held).congr (same _)
  apart := kept.apart
  invalid := (same _).trans kept.invalid

section

variable (kept : Kept entries memory)
  (others : ∀ {place other}, entries.get? place = some other → place ≠ slot →
    after.objects other.dataHandle = memory.objects other.dataHandle)
  (invalid : after.objects invalidHandle = none)

include kept others invalid

theorem Kept.set_some (has : HasMemory after entry)
    (apart : ∀ {place other}, entries.get? place = some other → place ≠ slot →
      entry.dataHandle = other.dataHandle → entry.dataHandle = invalidHandle) :
    Kept (entries.set slot (some entry)) after where
  held {index other} held := by
    rcases get?_set_cases held with ⟨-, made⟩ | ⟨different, before⟩
    · cases made
      exact has
    · exact (kept.held before).congr (others before different)
  apart {first second left right} held heldToo same handled := by
    rcases get?_set_cases held with ⟨here, made⟩ | ⟨different, before⟩ <;>
      rcases get?_set_cases heldToo with ⟨hereToo, madeToo⟩ | ⟨differentToo, beforeToo⟩
    · exact here.trans hereToo.symm
    · cases made
      exact absurd (apart beforeToo differentToo same) handled
    · cases madeToo
      exact absurd (same.trans (apart before different same.symm)) handled
    · exact kept.apart before beforeToo same handled
  invalid := invalid

theorem Kept.set_none : Kept (entries.set slot none) after where
  held {index other} held := by
    rw [get?_set_none] at held
    split at held
    · cases held
    next different => exact (kept.held held).congr (others held different)
  apart held heldToo := kept.apart (held_of_set_none held) (held_of_set_none heldToo)
  invalid := invalid

end

variable {service : Service}

section

variable (kept : Kept service.mutableEntries service.memory)

include kept

theorem objects_release (held : service.mutableEntries.get? place = some other)
    (different : place ≠ index) :
    (service.release index).memory.objects other.dataHandle =
      service.memory.objects other.dataHandle := by
  rw [Service.release, releaseMutableEntry]
  split
  · rfl
  rename_i there
  split
  next handled =>
    apply objects_close_ne
    intro same
    exact different (kept.apart held there same (same ▸ handled))
  · rfl

theorem kept_release
    (index : Nat) : Kept (service.release index).mutableEntries (service.release index).memory := by
  have entries : (service.release index).mutableEntries = service.mutableEntries.set index none :=
    congrArg Service.mutableEntries (release_frame service index)
  rw [entries]
  apply kept.set_none (fun held different => objects_release kept held different)
  rw [Service.release, releaseMutableEntry]
  split
  · exact kept.invalid
  split
  next handled => rw [objects_close_ne _ (Ne.symm handled), kept.invalid]
  · exact kept.invalid

theorem kept_releaseAll :
    Kept (service.releaseAll indices).mutableEntries (service.releaseAll indices).memory := by
  induction indices generalizing service with
  | nil => exact kept
  | cons index indices induction => exact induction (kept_release kept index)

theorem kept_withEntry (now slot : Nat) (kind : StorageEntryKind) (path : StoragePath) :
    Kept (service.withEntry now slot kind path).mutableEntries
      (service.withEntry now slot kind path).memory := by
  cases kind with
  | directory =>
    apply kept.set_some (fun _ _ => rfl) kept.invalid _ (fun _ _ _ => rfl)
    refine ⟨?_, Nat.le_refl 0, fun wrong => absurd rfl wrong⟩
    exact congrArg length (congrArg (Option.getD · []) kept.invalid)
  | file =>
    have fresh := objects_create_self service.memory initialFileCapacity
    have other {handle : Handle} (different : handle ≠ service.memory.next) :
        (service.memory.create initialFileCapacity).2.objects handle =
          service.memory.objects handle := if_neg different
    refine kept.set_some ?_ ?_ ⟨?_, Nat.zero_le _, ?_⟩ ?_
    · exact fun held _ => other (kept.ne_next held)
    · exact (other (Nat.ne_of_lt service.memory.positive)).trans kept.invalid
    · exact (congrArg length (bytesOf_of_objects fresh)).trans length_replicate
    · exact fun _ missing => nomatch fresh.symm.trans missing
    · exact fun held _ same => absurd same.symm (kept.ne_next held)

end

theorem objects_write_invalid (dead : memory.objects invalidHandle = none) (handle : Handle)
    (offset : Nat) (source : Octets) :
    (memory.write handle offset source).objects invalidHandle = none := by
  by_cases same : invalidHandle = handle
  · rw [← same, objects_write_self, dead]
    rfl
  · rw [objects_write_ne memory same, dead]

section

variable (grows : Grown before entry totalLen grown memory) (kept : Kept entries before)
  (there : entries.get? slot = some entry) (offset : Nat) (source : Octets)

include grows kept there

theorem Grown.objects (held : entries.get? place = some other) (different : place ≠ slot) :
    (memory.write grown.dataHandle offset source).objects other.dataHandle =
      before.objects other.dataHandle := by
  by_cases handled : other.dataHandle = invalidHandle
  · rw [handled, objects_write_invalid grows.invalid, kept.invalid]
  have apart : other.dataHandle ≠ entry.dataHandle := fun same =>
    different (kept.apart held there same handled)
  have unused := kept.ne_next held
  have elsewhere : other.dataHandle ≠ grown.dataHandle := by
    rcases grows.own with same | same
    · rwa [same]
    · rwa [same]
  rw [objects_write_ne memory elsewhere, grows.others apart unused]

theorem kept_write :
    Kept (entries.set slot (some { grown with dataLen := totalLen }))
      (memory.write grown.dataHandle offset source) := by
  refine kept.set_some (grows.objects kept there offset source)
    (objects_write_invalid grows.invalid _ _ _) ⟨?_, grows.room, fun handled => ?_⟩ ?_
  · rw [bytesOf_write, if_pos rfl, length_overwrite]
    exact grows.sized
  · rw [objects_write_self, ne_eq, Option.map_eq_none_iff]
    exact grows.live handled
  intro place other held different same
  rcases grows.own with old | fresh
  · by_contra handled
    exact different (kept.apart held there (same.symm.trans old) (same ▸ handled))
  · exact absurd (same.symm.trans fresh) (kept.ne_next held)

end

theorem kept_update (kept : Kept entries memory)
    (moves : ∀ {entry moved}, change entry = some moved → moved = { entry with
      path := moved.path
      persistent := moved.persistent }) : Kept (entries.update change) memory := by
  have origin {index : Nat} {moved : MutableEntry}
      (held : (entries.update change).get? index = some moved) :
      ∃ entry, entries.get? index = some entry ∧ moved = { entry with
        path := moved.path
        persistent := moved.persistent } := by
    rw [get?_update] at held
    rcases Option.bind_eq_some_iff.mp held with ⟨entry, there, changed⟩
    exact ⟨entry, there, moves changed⟩
  refine ⟨?_, ?_, kept.invalid⟩
  · intro index moved held
    rcases origin held with ⟨entry, there, same⟩
    rw [same]
    exact ⟨(kept.held there).sized, (kept.held there).within, (kept.held there).live⟩
  intro first second left right held heldToo same handled
  rcases origin held with ⟨entry, there, moved⟩
  rcases origin heldToo with ⟨other, thereToo, movedToo⟩
  rw [moved] at same handled
  rw [movedToo] at same
  exact kept.apart there thereToo same handled

end

def slotState (service : Service) (place : Nat) : Option (MutableEntry × Octets) :=
  (service.mutableEntries.get? place).map fun entry => (entry, bytesOf service.memory entry)

variable {after service : Service}

theorem slotState_eq (entries : after.mutableEntries.get? place = service.mutableEntries.get? place)
    (objects : ∀ entry, service.mutableEntries.get? place = some entry →
      after.memory.objects entry.dataHandle = service.memory.objects entry.dataHandle) :
    slotState after place = slotState service place := by
  rw [slotState, slotState, entries]
  rcases held : service.mutableEntries.get? place with _ | entry
  · rfl
  · exact congrArg some (congrArg (Prod.mk entry) (bytesOf_congr (objects entry held)))

theorem write_grows (kept : Kept service.mutableEntries service.memory)
    (planned : WritePlanned service session (writeOperands message) entry)
    (grows : ensureMutableCapacity entry (writeOperands message).totalLen service =
      (.ok grown, between)) :
    between = { service with memory := between.memory } ∧
      Grown service.memory entry (writeOperands message).totalLen grown between.memory := by
  have fits : (writeOperands message).totalLen < limit := (message.word 1).toNat_lt
  rcases ensureMutableCapacity_eq (kept.held planned.held) kept.invalid fits with
    ⟨same, memory, call, grown⟩
  cases grows.symm.trans call
  exact ⟨rfl, grown⟩

theorem kept_of_moves (moves : Moves service event after)
    (kept : Kept service.mutableEntries service.memory) :
    Kept after.mutableEntries after.memory := by
  cases moves with
  | @unmounted message index =>
    have cleared : Kept { service with mounts := service.mounts.clear index }.mutableEntries
        service.memory := kept
    exact kept_releaseAll cleared
  | renamed tag operands done =>
    rcases renameRequest_cases operands done with ⟨rfl, -⟩ | ⟨-, renamed⟩
    · exact kept
    · rw [renamed.entries]
      refine kept_update kept fun moves => ?_
      rw [moveEntry] at moves
      split at moves <;> cases moves <;> rfl
  | repaired => exact kept_releaseAll kept
  | @created slot sessionIndex now message session kind path =>
    exact kept_withEntry kept now slot kind path
  | removed => exact kept_release kept _
  | @fileCreated blobSlot sessionIndex now slot message session path =>
    exact (kept_withEntry kept now slot .file path).congr fun _ => rfl
  | wrote held gates grows =>
    have planned := writeGates_eq_ok gates
    rcases write_grows kept planned grows with ⟨frame, grown⟩
    rw [frame]
    exact kept_write grown kept planned.held _ _
  | _ => exact kept.congr fun _ => rfl

structure WriteStep (service : Service) (place : Nat) (session : BlobSession)
    (operands : WriteOperands) (bytes : Octets) (entry grown : MutableEntry) (memory : Memory)
    (after : Service) : Prop where
  held : service.blobSessions.get? place = some session
  planned : WritePlanned service session operands entry
  grows : Grown service.memory entry operands.totalLen grown memory
  length : bytes.length = operands.writeLen
  entries : after.mutableEntries = service.mutableEntries.set session.entryIndex
    (some { grown with dataLen := operands.totalLen })
  memory : after.memory = memory.write grown.dataHandle operands.offset bytes
  sessions : after.blobSessions = service.blobSessions.set place
    (some { session with dataLen := operands.totalLen })

theorem writeStep_of_accepted (kept : Kept service.mutableEntries service.memory)
    (stepped : step service (.blob place message now) = some after)
    (accepted : acceptedWrite? service place message = some bytes) :
    ∃ session entry grown memory,
      WriteStep service place session (writeOperands message) bytes.val entry grown memory
        after := by
  rcases step_acceptedWrite stepped accepted with
    ⟨session, entry, grown, between, outside, held, gates, grows, rfl⟩
  have planned := writeGates_eq_ok gates
  rcases write_grows kept planned grows with ⟨frame, grew⟩
  refine ⟨session, entry, grown, between.memory, held, planned, grew,
    (acceptedWrite?_eq_some accepted).2.2, ?_, ?_, ?_⟩
  all_goals
    rw [frame]
    rfl

end ServiceOS.Storage
