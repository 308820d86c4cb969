import ServiceOS.Storage.Path

/-! # The search index

The index of `index.rs` and the events that keep it up to date. The array and its
count are the list of the entries in use. -/

namespace ServiceOS.Storage

open List

def indexCapacity : Nat := maxBootstoreEntries + maxMutableEntries

/-- `ORIGIN_BOOT` and `ORIGIN_MUTABLE`. -/
inductive Origin
  | boot
  | mutable
deriving DecidableEq

structure IndexEntry where
  path : StoragePath
  kind : StorageEntryKind
  size : Nat
  tick : Nat
  origin : Origin
  bootOffset : Nat

def IndexEntry.bootFile (path : StoragePath) (dataOffset dataLen : Nat) : IndexEntry :=
  ⟨path, .file, dataLen, 0, .boot, dataOffset⟩

def IndexEntry.fromMutable (path : StoragePath) (kind : StorageEntryKind) (dataLen tick : Nat) :
    IndexEntry :=
  ⟨path, kind, dataLen, tick, .mutable, 0⟩

structure SearchIndex where
  entries : List IndexEntry
  dirty : Bool
  built : Bool
  lastRebuild : Nat
  fits : entries.length ≤ indexCapacity

namespace SearchIndex

def new : SearchIndex := ⟨[], true, false, 0, Nat.zero_le _⟩

variable (index : SearchIndex)

def stats : Nat × Bool × Nat :=
  (index.entries.length, index.dirty, index.lastRebuild)

def markDirty : SearchIndex := { index with dirty := true }

def find (path : Octets) : Option Nat :=
  index.entries.findIdx? fun entry => entry.path.val == path

def push (entry : IndexEntry) (room : index.entries.length < indexCapacity) : SearchIndex :=
  { index with
    entries := index.entries ++ [entry]
    fits := by rw [length_append, length_singleton]; exact room }

def upsert (path : StoragePath) (kind : StorageEntryKind)
    (size tick : Nat) (origin : Origin) : SearchIndex :=
  if !index.built then
    index.markDirty
  else
    match index.find path.val with
    | some position =>
      { index with
        entries := index.entries.modify position fun slot =>
          { slot with kind := kind, size := size, tick := if tick ≠ 0 then tick else slot.tick }
        fits := by rw [length_modify]; exact index.fits }
    | none =>
      if room : index.entries.length < indexCapacity then
        index.push { IndexEntry.fromMutable path kind size tick with origin := origin } room
      else
        index.markDirty

def swapRemove (entries : List IndexEntry) (position : Nat) : List IndexEntry :=
  match entries.getLast? with
  | none => []
  | some last => (entries.set position last).dropLast

theorem length_swapRemove (entries : List IndexEntry) (position : Nat) :
    (swapRemove entries position).length = entries.length - 1 := by
  rw [swapRemove]
  split
  next empty => rw [getLast?_eq_none_iff.mp empty]; rfl
  · rw [length_dropLast, length_set]

def removePath (path : Octets) : SearchIndex :=
  if !index.built then
    index.markDirty
  else
    match index.find path with
    | none => index
    | some position =>
      { index with
        entries := swapRemove index.entries position
        fits := by
          rw [length_swapRemove]
          exact Nat.le_trans (Nat.sub_le _ _) index.fits }

def rename (old : Octets) (new : StoragePath) (tick : Nat) : SearchIndex :=
  match index.entries.find? fun entry => entry.path.val == old with
  | none => index
  | some source =>
    let removed := index.removePath old
    if room : index.built ∧ removed.entries.length < indexCapacity then
      removed.push { source with path := new, tick := max tick 1 } room.2
    else
      removed

/-- The path `rename_tree` gives an entry, `some none` when there is no room for it. -/
def renamedPath (old new : Octets) (path : StoragePath) : Option (Option StoragePath) :=
  let under := endsWithSlash old && old.length < path.val.length && pathMatchesPrefix path.val old
  if path.val == old || under then
    some (ByteString.AtMost.ofList? maxStoragePath (new ++ path.val.drop old.length))
  else
    none

def renameEntry (old new : Octets) (tick : Nat) (slot : IndexEntry) : IndexEntry :=
  match renamedPath old new slot.path with
  | none => slot
  | some none => { slot with path := ⟨[], Nat.zero_le _⟩ }
  | some (some path) =>
    { slot with path := path, tick := if slot.path.val == old then max tick 1 else slot.tick }

def renameTree (old new : Octets) (tick : Nat) : SearchIndex × Nat :=
  if !index.built then
    (index.markDirty, 0)
  else
    ({ index with
        entries := index.entries.map (renameEntry old new tick)
        dirty := index.dirty ||
          index.entries.any fun slot => renamedPath old new slot.path == some none
        fits := by rw [length_map]; exact index.fits },
      index.entries.countP fun slot => ((renamedPath old new slot.path).bind id).isSome)

def ensureBuilt (bootEntries : List EntrySlot) (mutableEntries : EntryTable)
    (now : Nat) : SearchIndex × Bool :=
  if index.built && !index.dirty then
    (index, false)
  else
    let boot := bootEntries.map fun entry =>
      IndexEntry.bootFile entry.path entry.dataOffset entry.dataLen
    let mutables := mutableEntries.values.map fun entry =>
      IndexEntry.fromMutable entry.path entry.kind entry.dataLen now
    ({  entries := (boot ++ mutables).take indexCapacity
        dirty := false
        built := true
        lastRebuild := now
        fits := length_take_le _ _ }, true)

end SearchIndex

end ServiceOS.Storage
