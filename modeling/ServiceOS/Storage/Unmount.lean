import ServiceOS.Storage.Moves

/-! # What an unmount removes

The contents of a mount are found by its path, not by asking for the owner of each
entry, and are dropped before the new tables are persisted. -/

namespace ServiceOS.Storage

open ByteString Fallible Service

/-- The entries that an unmount is to drop: those that are not persistent and that the mount
owns. -/
def ownSlots (service : Service) (mount : StorageMount) : List Nat :=
  (List.range maxMutableEntries).filter fun index =>
    (service.mutableEntries.get? index).any fun entry =>
      !entry.persistent && storageResolveMount service.mounts entry.path.val == some mount

/-- The state that an unmount is to leave. -/
def unmounted (service : Service) (index : Nat) (mount : StorageMount) : Service :=
  let cleared := { service with mounts := service.mounts.clear index }
  let released := cleared.releaseAll (ownSlots service mount)
  { released with mounts := ensureBootRoot released.mounts }

/-- The entries that an unmount drops, by their path and the kind of the mount, are those that
the mount owns. -/
def SelectsOwn (service : Service) (mount : StorageMount) : Prop :=
  ∀ entry ∈ service.mutableEntries.values, entry.persistent = false →
    ((mount.kind ≠ .persistent ∧ mount.path.val <+: entry.path.val) ↔
      storageResolveMount service.mounts entry.path.val = some mount)

/-- The entries after an unmount: those that are not persistent and whose owner it was
are gone. -/
structure OwnDropped (mounts : MountTable) (mount : StorageMount) (before after : EntryTable) :
    Prop where
  dropped : ∀ {place entry}, before.get? place = some entry → entry.persistent = false →
    storageResolveMount mounts entry.path.val = some mount → after.get? place = none
  kept : ∀ {place}, (∀ entry, before.get? place = some entry →
    ¬(entry.persistent = false ∧ storageResolveMount mounts entry.path.val = some mount)) →
    after.get? place = before.get? place

/-- A refused unmount changes nothing, and a successful one removes its own entries. -/
def UnmountExact (service : Service) (stem : Octets) (authority : UInt64) : Prop :=
  ∃ status after, tryUnmount stem authority service = (.ok status, after) ∧
    (status ≠ .ok → after = service) ∧
    (status = .ok → ∃ mount ∈ service.mounts.values, mount.path.val = stem ∧
      OwnDropped service.mounts mount service.mutableEntries after.mutableEntries)

theorem mem_ownSlots : place ∈ ownSlots service mount ↔
    ∃ entry, service.mutableEntries.get? place = some entry ∧ entry.persistent = false ∧
      storageResolveMount service.mounts entry.path.val = some mount := by
  rw [ownSlots, List.mem_filter, List.mem_range, Option.any_eq_true]
  simp only [Bool.and_eq_true, Bool.not_eq_true', beq_iff_eq]
  constructor
  · exact fun ⟨_, found⟩ => found
  · rintro ⟨entry, held, rest⟩
    exact ⟨Slots.lt_of_get?_eq_some held, entry, held, rest⟩

theorem ownDropped_unmounted : OwnDropped service.mounts mount service.mutableEntries
    (unmounted service index mount).mutableEntries where
  dropped held volatile owned := by
    rw [unmounted, get?_releaseAll, if_pos (mem_ownSlots.mpr ⟨_, held, volatile, owned⟩)]
  kept others := by
    rw [unmounted, get?_releaseAll, if_neg]
    intro member
    rcases mem_ownSlots.mp member with ⟨entry, held, owned⟩
    exact others entry held owned

theorem held_of_ensureBootRoot (named : mount.path.val ≠ [])
    (held : (ensureBootRoot table).slots.get? place = some mount) :
    table.slots.get? place = some mount := by
  have assigned : ∀ {index : Nat} {other : StorageMount}, other.path.val = [] →
      (table.slots.set index (some other)).get? place = some mount →
      table.slots.get? place = some mount := by
    intro index other root held
    rcases Slots.get?_set_cases held with ⟨-, same⟩ | ⟨-, kept⟩
    · cases same
      exact absurd root named
    · exact kept
  rw [ensureBootRoot] at held
  split at held
  · unfold MountTable.merge at held
    split at held
    · split at held
      · exact held
      next made => exact assigned (path_install made).1 held
    · split at held
      · exact held
      split at held
      · exact held
      next made => exact assigned (path_install made).1 held
  · exact held

section

variable (planned : UnmountPlanned service stem index mount)

include planned

theorem withoutMount_eq_unmounted (selects : SelectsOwn service mount) :
    service.withoutMount stem index mount = unmounted service index mount := by
  have slots : (if mount.kind = .persistent then [] else
      droppedSlots service.mutableEntries stem) = ownSlots service mount := by
    split
    next persistent =>
      refine (List.eq_nil_iff_forall_not_mem.mpr fun place member => ?_).symm
      rcases mem_ownSlots.mp member with ⟨entry, held, volatile, owned⟩
      exact ((selects entry (Slots.mem_values.mpr ⟨place, held⟩) volatile).mpr owned).1 persistent
    next other =>
      refine List.filter_congr fun place _ => ?_
      rcases held : service.mutableEntries.get? place with _ | entry
      · rfl
      apply Bool.eq_iff_iff.mpr
      simp only [Option.any_some, Bool.and_eq_true, Bool.not_eq_true', beq_iff_eq,
        List.isPrefixOf_iff_prefix, ← planned.named]
      refine and_congr_right fun volatile => ?_
      rw [← selects entry (Slots.mem_values.mpr ⟨place, held⟩) volatile, and_iff_right other]
  rw [withoutMount, slots]
  rfl

theorem selectsOwn_of_dropped (dropped : OwnDropped service.mounts mount service.mutableEntries
      (service.withoutMount stem index mount).mutableEntries) : SelectsOwn service mount := by
  intro entry member volatile
  rcases Slots.mem_values.mp member with ⟨place, held⟩
  constructor
  · rintro ⟨other, within⟩
    by_contra foreign
    have stays := @dropped.kept place fun another there => by
      cases held.symm.trans there
      exact fun owned => foreign owned.2
    rw [mutableEntries_withoutMount, if_pos ⟨other, mem_droppedSlots.mpr
      ⟨entry, held, volatile, planned.named ▸ within⟩⟩, held] at stays
    cases stays
  · intro owned
    refine ⟨fun persistent => ?_, (resolveMount_mem owned).2⟩
    have gone := dropped.dropped held volatile owned
    rw [mutableEntries_withoutMount, if_neg fun wrong => wrong.1 persistent, held] at gone
    cases gone

theorem mounts_withoutMount : (service.withoutMount stem index mount).mounts ≠ service.mounts := by
  rw [withoutMount_frame]
  intro same
  have held := planned.held
  rw [← show ensureBootRoot (service.mounts.clear index) = service.mounts from same] at held
  have found := held_of_ensureBootRoot (planned.named ▸ planned.nonempty) held
  rw [MountTable.clear, Slots.get?_set_none, if_pos rfl] at found
  cases found

end

/-- An unmount is exact if and only if, once its gates pass, it selects the entries that its mount
owns and the state it is to leave can be persisted. -/
theorem unmountExact_iff (service : Service) (stem : Octets) (authority : UInt64) :
    UnmountExact service stem authority ↔
      ∀ index mount, unmountGates service stem authority = .ok (index, mount) →
        SelectsOwn service mount ∧
          ∃ after, persistState (unmounted service index mount) = (.ok (), after) := by
  rcases gates : unmountGates service stem authority with status | ⟨index, mount⟩
  · refine iff_of_true ⟨status, service, ?_, fun _ => rfl, ?_⟩ (by simp)
    · rw [tryUnmount, gets_bind, gates]
      rfl
    rintro rfl
    revert gates
    rw [unmountGates]
    repeat' split
    all_goals simp
  have planned := unmountGates_eq_ok gates
  rw [UnmountExact, tryUnmount_of_gates gates]
  constructor
  · rintro ⟨status, after, answered, refused, dropped⟩ _ _ ⟨⟩
    rcases persisted : persistState (service.withoutMount stem index mount) with ⟨outcome, final⟩
    rcases quiet_persistState.of_call persisted with ⟨outside, rfl⟩
    simp only [bind, Fallible.sequence, recovered, persisted] at answered
    rcases outcome with (⟨_ | _⟩ | _) | ⟨⟩
    · cases answered
      exact absurd (congrArg Service.mounts (refused (by simp))) (mounts_withoutMount planned)
    · cases answered
    · cases answered
    · cases answered
      rcases dropped rfl with ⟨other, member, named, own⟩
      rcases Slots.mem_values.mp member with ⟨place, held⟩
      have same := service.mounts.distinct held planned.held
        (Subtype.ext (named.trans planned.named.symm))
      cases (same ▸ held).symm.trans planned.held
      have selects := selectsOwn_of_dropped planned own
      exact ⟨selects, _, withoutMount_eq_unmounted planned selects ▸ persisted⟩
  · intro sound
    rcases sound index mount rfl with ⟨selects, after, persisted⟩
    have finished : recovered persistState (unmounted service index mount) =
        (.ok (some ()), after) := by rw [recovered, persisted]
    rw [withoutMount_eq_unmounted planned selects]
    refine ⟨.ok, after, ?_, fun wrong => absurd rfl wrong, fun _ => ?_⟩
    · rw [bind_of_answer finished]
      rfl
    refine ⟨mount, Slots.mem_values.mpr ⟨index, planned.held⟩, planned.named, ?_⟩
    rcases quiet_persistState.of_call persisted with ⟨outside, rfl⟩
    exact ownDropped_unmounted

namespace Sample

def temporary : Service :=
  serve service [openDirectory "tmp/" true, create 0 .file "a", closeDirectory 0]

def failing : Service :=
  { temporary with persistentStore := some ⟨512, 512, 0, 0⟩, device := device (some 0) }

def nested : Service :=
  serve service [mount "tmp/in/" .ephemeral 1, openDirectory "tmp/in/" true, create 0 .file "a",
    closeDirectory 0]

/-- A service with a file on a persistent mount that lacks the flag for persistent files. -/
def volatile : Service :=
  serve service [mount "usb/" .persistent 1, openDirectory "usb/" true, create 0 .file "a",
    closeDirectory 0]

/-- The owner of the first entry and whether the entry is persistent. -/
def firstOwner (service : Service) : Option (Octets × Bool) :=
  (service.mutableEntries.get? 0).bind fun entry =>
    (storageResolveMount service.mounts entry.path.val).map fun mount =>
      (mount.path.val, entry.persistent)

end Sample

open Sample in
/-- Three ways in which an unmount is not exact: a file of a mount below is dropped, a file of a
persistent mount that is not persistent stays, and a failing device leaves the mount and its
file gone although `Busy` is reported. -/
theorem tryUnmount_is_not_exact :
    (firstOwner nested = some (ascii "tmp/in/", false) ∧
      (tryUnmount (ascii "tmp/") storageRootAuthority).result? nested = some .ok ∧
      (tryUnmount (ascii "tmp/") storageRootAuthority nested).2.mutableEntries.get? 0 = none) ∧
    (firstOwner volatile = some (ascii "usb/", false) ∧
      (tryUnmount (ascii "usb/") storageRootAuthority).result? volatile = some .ok ∧
      ((tryUnmount (ascii "usb/") storageRootAuthority volatile).2.mutableEntries.get? 0).isSome) ∧
    (firstOwner failing = some (ascii "tmp/", false) ∧
      (tryUnmount (ascii "tmp/") storageRootAuthority).result? failing = some .busy ∧
      storageFindMountByPath (tryUnmount (ascii "tmp/") storageRootAuthority failing).2.mounts
        (ascii "tmp/") = none ∧
      (tryUnmount (ascii "tmp/") storageRootAuthority failing).2.mutableEntries.get? 0 = none) := by
  decide +kernel

end ServiceOS.Storage
