import ServiceOS.Foundation.Selection
import ServiceOS.Storage.Types

/-! # Mounts

The mount functions of the storage interface and `seed_mount_table` and
`ensure_boot_root`. Only `slot_install` makes an occupied mount and it runs
behind the checks of `install` and `storage_mount_add`, so a mount is authorized
and its path valid. Every caller looks for the path first, so no table holds a
path twice. -/

namespace ServiceOS.Storage

open ByteString Slots Selection

def storageMountFlagWritable : UInt64 := 1

def storageMountFlagPersistent : UInt64 := 2

def storageRootAuthority : UInt64 := 0x53544f5241555448

/-! ## Paths of mounts -/

def validComponent (component : Octets) : Bool :=
  !(component.isEmpty || component == ascii "." || component == ascii "..")

/-- Every component that a slash ends is valid. `current` is the component begun. -/
def endedComponentsValid : (current path : Octets) → Bool
  | _, [] => true
  | current, byte :: rest =>
    if byte = slash then
      validComponent current && endedComponentsValid [] rest
    else
      endedComponentsValid (current ++ [byte]) rest

variable (path : Octets)

def endsWithSlash : Bool := path.getLast? == some slash

def storageValidateMountPath : Except StorageStatus Unit :=
  if path = [] then
    .ok ()
  else if !endsWithSlash path || path.head? = some slash then
    .error .invalidPath
  else if endedComponentsValid [] path then
    .ok ()
  else
    .error .invalidPath

structure StorageMount where
  path : MountPath
  kind : StorageMountKind
  flags : UInt64
  authority : UInt64
  authorized : authority = storageRootAuthority
  valid : storageValidateMountPath path.val = .ok ()
deriving DecidableEq

namespace StorageMount

def writable (mount : StorageMount) : Bool := mount.flags &&& storageMountFlagWritable != 0

def persistent (mount : StorageMount) : Bool := mount.flags &&& storageMountFlagPersistent != 0

def matchesPrefix (mount : StorageMount) (path : Octets) : Bool :=
  mount.path.val.isPrefixOf path

end StorageMount

def slotInstall (kind : StorageMountKind) (flags authority : UInt64)
    (authorized : authority = storageRootAuthority)
    (valid : storageValidateMountPath path = .ok ()) : Except StorageStatus StorageMount :=
  if fits : path.length ≤ storageMountPathMax then
    .ok ⟨⟨path, fits⟩, kind, flags, authority, authorized, valid⟩
  else
    .error .invalidPath

def StorageMount.install (kind : StorageMountKind) (flags authority : UInt64) :
    Except StorageStatus StorageMount :=
  if authorized : authority = storageRootAuthority then
    match valid : storageValidateMountPath path with
    | .error status => .error status
    | .ok () => slotInstall path kind flags authority authorized valid
  else
    .error .denied

variable {mount : StorageMount} {mounts : MountTable}

variable {path : Octets}

theorem path_slotInstall
    (made : slotInstall path kind flags authority authorized valid = .ok mount) :
    mount.path.val = path ∧ mount.kind = kind ∧ mount.flags = flags := by
  rw [slotInstall] at made
  split at made <;> cases made
  exact ⟨rfl, rfl, rfl⟩

theorem path_install (made : StorageMount.install path kind flags authority = .ok mount) :
    mount.path.val = path ∧ mount.kind = kind ∧ mount.flags = flags := by
  rw [StorageMount.install] at made
  split at made
  · split at made
    · cases made
    · exact path_slotInstall made
  · cases made

/-! ## The mount table -/

@[ext]
structure MountTable where
  slots : Slots StorageMount storageMountTableMax
  distinct : ∀ {first second mount other}, slots.get? first = some mount →
    slots.get? second = some other → mount.path = other.path → first = second

namespace MountTable

def empty : MountTable where
  slots := .empty _
  distinct := fun held => by
    rw [get?_empty] at held
    cases held

def values (mounts : MountTable) : List StorageMount := mounts.slots.values

def clear (mounts : MountTable) (index : Nat) : MountTable where
  slots := mounts.slots.set index none
  distinct held heldToo :=
    mounts.distinct (held_of_set_none held) (held_of_set_none heldToo)

def Apart (mounts : MountTable) (index : Nat) (path : Octets) : Prop :=
  ∀ other held, mounts.slots.get? other = some held → held.path.val = path → other = index

def assign (mounts : MountTable) (index : Nat) (mount : StorageMount)
    (apart : mounts.Apart index mount.path.val) : MountTable where
  slots := mounts.slots.set index (some mount)
  distinct :=
    distinct_set_some mounts.distinct fun place held there same =>
      apart place held there (congrArg _ same)

end MountTable

def storageFindMountByPath (mounts : MountTable) (path : Octets) : Option Nat :=
  mounts.slots.position fun mount => mount.path.val == path

def storageResolveMount (mounts : MountTable) (path : Octets) : Option StorageMount :=
  maxByKey (fun mount => mount.path.val.length)
    (mounts.values.filter fun mount => mount.matchesPrefix path)

def storageMountAuthorityOk (mount : StorageMount) (authority : UInt64) : Bool :=
  mount.authority == authority && authority != 0

theorem apart_of_absent (absent : storageFindMountByPath mounts path = none) (index : Nat) :
    mounts.Apart index path := by
  intro other held here same
  have differs := position_eq_none.mp absent other held here
  rw [same, beq_self_eq_true] at differs
  cases differs

section

variable (found : storageFindMountByPath mounts path = some index)

include found

theorem storageFindMountByPath_eq_some :
    ∃ mount, mounts.slots.get? index = some mount ∧ mount.path.val = path := by
  rcases position_eq_some found with ⟨mount, held, same⟩
  exact ⟨mount, held, eq_of_beq same⟩

theorem apart_of_found : mounts.Apart index path := by
  intro other held here same
  rcases storageFindMountByPath_eq_some found with ⟨mount, there, named⟩
  exact mounts.distinct here there (Subtype.ext (same.trans named.symm))

end

def storageMountAdd (mounts : MountTable) (path : Octets) (kind : StorageMountKind)
    (flags authority : UInt64) : Except StorageStatus (Nat × MountTable) :=
  if authorized : authority = storageRootAuthority then
    match valid : storageValidateMountPath path with
    | .error status => .error status
    | .ok () =>
      match absent : storageFindMountByPath mounts path with
      | some _ => .error .alreadyExists
      | none =>
        match mounts.slots.firstFree with
        | none => .error .busy
        | some slot =>
          match made : slotInstall path kind flags authority authorized valid with
          | .error status => .error status
          | .ok mount => .ok (slot, mounts.assign slot mount
              ((path_slotInstall made).1.symm ▸ apart_of_absent absent slot))
  else
    .error .denied

def storagePathIsMountRoot (mounts : MountTable) (path : Octets) : Bool :=
  !path.isEmpty &&
    (storageResolveMount mounts path).any fun mount =>
      0 < mount.path.val.length && path == mount.path.val

def storageUnmountBusy (openPaths : List Octets) (stem : Octets) : Bool :=
  openPaths.any fun path => stem.isPrefixOf path

/-- Put a mount over the one with its path or into the first free slot. The answer is
`none` when there is no slot for it. -/
def MountTable.merge (mounts : MountTable) (path : Octets) (kind : StorageMountKind)
    (flags authority : UInt64) : Option MountTable :=
  match found : storageFindMountByPath mounts path with
  | some index =>
    match made : StorageMount.install path kind flags authority with
    | .error _ => some mounts
    | .ok mount => some (mounts.assign index mount
        ((path_install made).1.symm ▸ apart_of_found found))
  | none =>
    match mounts.slots.firstFree with
    | none => none
    | some index =>
      match made : StorageMount.install path kind flags authority with
      | .error _ => some mounts
      | .ok mount => some (mounts.assign index mount
          ((path_install made).1.symm ▸ apart_of_absent found index))

/-! ## Owning mounts -/

section

theorem matchesPrefix_iff : mount.matchesPrefix path = true ↔ mount.path.val <+: path :=
  List.isPrefixOf_iff_prefix

theorem resolveMount_mem (resolved : storageResolveMount mounts path = some mount) :
    mount ∈ mounts.values ∧ mount.path.val <+: path := by
  have member := List.mem_filter.mp (best_maxByKey.2 _ resolved).1
  exact ⟨member.1, matchesPrefix_iff.mp member.2⟩

/-- Every mount of the path is a mount of the path's owner. -/
theorem resolveMount_longest (resolved : storageResolveMount mounts path = some mount)
    (member : other ∈ mounts.values) (within : other.path.val <+: path) :
    other.path.val <+: mount.path.val := by
  have among : other ∈ mounts.values.filter fun mount => mount.matchesPrefix path :=
    List.mem_filter.mpr ⟨member, matchesPrefix_iff.mpr within⟩
  have shorter := (best_maxByKey.2 _ resolved).2 _ among
  exact List.prefix_of_prefix_length_le within (resolveMount_mem resolved).2 shorter

theorem resolveMount_isSome (member : mount ∈ mounts.values) (within : mount.path.val <+: path) :
    ∃ owner, storageResolveMount mounts path = some owner := by
  rcases resolved : storageResolveMount mounts path with _ | owner
  · have empty := best_maxByKey.1.mp resolved
    have here : mount ∈ mounts.values.filter fun mount => mount.matchesPrefix path :=
      List.mem_filter.mpr ⟨member, matchesPrefix_iff.mpr within⟩
    rw [empty] at here
    cases here
  · exact ⟨owner, rfl⟩

theorem eq_of_path_eq (member : mount ∈ mounts.values)
    (memberToo : other ∈ mounts.values) (same : mount.path = other.path) : mount = other := by
  rcases mem_values.mp member with ⟨first, held⟩
  rcases mem_values.mp memberToo with ⟨second, heldToo⟩
  cases mounts.distinct held heldToo same
  exact Option.some.inj (held.symm.trans heldToo)

theorem mem_of_isMountRoot (root : storagePathIsMountRoot mounts path = true) :
    ∃ mount ∈ mounts.values, mount.path.val = path := by
  rw [storagePathIsMountRoot, Bool.and_eq_true, Option.any_eq_true] at root
  rcases root.2 with ⟨mount, resolved, same⟩
  rw [Bool.and_eq_true, beq_iff_eq] at same
  exact ⟨mount, (resolveMount_mem resolved).1, same.2.symm⟩

end

/-! ## Built-in mounts -/

def builtInMounts : List (Octets × StorageMountKind × UInt64) :=
  let kept := storageMountFlagWritable ||| storageMountFlagPersistent
  [([], .boot, 0),
    (ascii "home/", .persistent, kept),
    (ascii "state/", .persistent, kept),
    (ascii "projects/", .persistent, kept),
    (ascii "tmp/", .ephemeral, storageMountFlagWritable)]

def seedMountTable : MountTable :=
  builtInMounts.foldl (fun mounts (path, kind, flags) =>
    (mounts.merge path kind flags storageRootAuthority).getD mounts) .empty

def ensureBootRoot (mounts : MountTable) : MountTable :=
  if (storageFindMountByPath mounts []).isNone then
    (mounts.merge [] .boot 0 storageRootAuthority).getD mounts
  else
    mounts

/-! ## Names -/

def storageRelativeComponentsValid (relative : Octets) : Bool :=
  !relative.isEmpty && relative.head? != some slash &&
    (relative.splitOn slash).all validComponent

/-- A pattern whose star stands for any bytes. -/
def storageNameMatches : (pattern name : Octets) → Bool
  | [], name => name.isEmpty
  | first :: pattern, name =>
    if first = 42 then
      name.tails.any (storageNameMatches pattern)
    else
      match name with
      | [] => false
      | byte :: rest => byte == first && storageNameMatches pattern rest

def storageFindEntryMatches (root pattern path : Octets) : Bool :=
  if path.length ≤ root.length || !root.isPrefixOf path then
    false
  else
    let remainder := path.drop root.length
    storageNameMatches pattern (if endsWithSlash remainder then remainder.dropLast else remainder)

end ServiceOS.Storage
