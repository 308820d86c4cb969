import ServiceOS.Storage.Moves

/-! # Repair

A repair drops each entry that the scan has something to say about. An entry is a duplicate of
any entry before it, also of one that is dropped itself. -/

namespace ServiceOS.Storage

open ByteString Fallible Service

/-- On its own the entry violates no rule, and it is on a mount. -/
def Healthy (mounts : MountTable) (entry : MutableEntry) : Prop :=
  entryPathViolation entry.path.val entry.kind = none ∧
    (storageResolveMount mounts entry.path.val).isSome = true
deriving Decidable

/-- Of the entries with the path of a healthy one, the first violates no rule. -/
def FirstFormed (mounts : MountTable) (entries : EntryTable) : Prop :=
  ∀ entry ∈ entries.values, Healthy mounts entry →
    ∀ first ∈ (findMutableEntry entries entry.path.val).bind entries.get?,
      entryPathViolation first.path.val first.kind = none
deriving Decidable

section

variable {mounts : MountTable} {entries after : EntryTable}

theorem drops_eq_false (held : entries.get? index = some entry) :
    drops mounts entries index = false ↔ Healthy mounts entry ∧
      ∀ place other, place < index → entries.get? place = some other → other.path ≠ entry.path := by
  have alone : ((entries.entries.take index).any fun other =>
      other.any fun other => other.path == entry.path) = false ↔
      ∀ place other, place < index → entries.get? place = some other → other.path ≠ entry.path := by
    rw [← Bool.not_eq_true, Slots.any_take]
    simp only [beq_iff_eq, not_exists, not_and]
  rw [drops, held, Healthy, ← alone]
  dsimp only [judgeEntry]
  generalize ((entries.entries.take index).any fun other =>
    other.any fun other => other.path == entry.path) = earlier
  rcases entryPathViolation entry.path.val entry.kind with _ | code
  · rcases storageResolveMount mounts entry.path.val with _ | mount <;> simp
  · simp

def Repaired (mounts : MountTable) (entries after : EntryTable) : Prop :=
  ∀ index, after.get? index = if drops mounts entries index then none else entries.get? index

theorem repaired_releaseAll (service : Service) :
    Repaired service.mounts service.mutableEntries
      (service.releaseAll
        (collectDropPlan service.mounts service.mutableEntries)).mutableEntries := by
  intro index
  rw [get?_releaseAll]
  rcases held : service.mutableEntries.get? index with _ | entry
  · rw [ite_self, ite_self]
  · simp [collectDropPlan, Slots.lt_of_get?_eq_some held]

section

variable (repaired : Repaired mounts entries after)

include repaired

theorem Repaired.kept (held : after.get? index = some entry) :
    entries.get? index = some entry ∧ drops mounts entries index = false := by
  rw [repaired] at held
  split at held
  · cases held
  next keeps => exact ⟨held, Bool.not_eq_true _ ▸ keeps⟩

theorem Repaired.judged (held : after.get? index = some entry) :
    judgeEntry mounts after index entry = ⟨none, false, false⟩ := by
  rcases repaired.kept held with ⟨there, keeps⟩
  rcases (drops_eq_false there).mp keeps with ⟨⟨formed, owned⟩, first⟩
  have alone : ((after.entries.take index).any fun other =>
      other.any fun other => other.path == entry.path) = false := by
    rw [← Bool.not_eq_true, Slots.any_take]
    rintro ⟨place, other, before, heldToo, same⟩
    exact first place other before (repaired.kept heldToo).1 (eq_of_beq same)
  rw [judgeEntry, formed, alone, ← Option.not_isSome (storageResolveMount _ _), owned]
  rfl

theorem Repaired.keeps_first (held : entries.get? index = some entry)
    (healthy : Healthy mounts entry) (formed : FirstFormed mounts entries) :
    ∃ place first, after.get? place = some first ∧ first.path = entry.path := by
  rcases found : findMutableEntry entries entry.path.val with _ | place
  · exact absurd rfl (findMutableEntry_eq_none.mp found index entry held)
  rcases findMutableEntry_eq_some found with ⟨first, there, named⟩
  have same : first.path = entry.path := Subtype.ext named
  refine ⟨place, first, ?_, same⟩
  have rules := formed entry (Slots.mem_values.mpr ⟨index, held⟩) healthy first
    (by rw [found]; exact there)
  have keeps : drops mounts entries place = false := by
    refine (drops_eq_false there).mpr ⟨⟨rules, same ▸ healthy.2⟩, ?_⟩
    intro earlier other before heldToo path
    have differs := Slots.position_first found before heldToo
    rw [beq_eq_false_iff_ne] at differs
    exact differs ((congrArg Subtype.val path).trans named)
  rw [repaired, keeps]
  exact there

/-- An entry that is kept is the first with its path. -/
theorem Repaired.first_formed (keeps : ∀ index entry, entries.get? index = some entry →
      Healthy mounts entry → ∃ place kept, after.get? place = some kept ∧ kept.path = entry.path) :
    FirstFormed mounts entries := by
  intro entry member healthy first among
  rcases Slots.mem_values.mp member with ⟨index, held⟩
  rcases keeps index entry held healthy with ⟨place, kept, there, same⟩
  rcases repaired.kept there with ⟨before, stays⟩
  rcases (drops_eq_false before).mp stays with ⟨formed, alone⟩
  rcases Option.bind_eq_some_iff.mp among with ⟨earliest, found, holds⟩
  rcases findMutableEntry_eq_some found with ⟨other, otherHolds, named⟩
  cases holds.symm.trans otherHolds
  have notAfter : ¬earliest < place := fun order =>
    alone earliest first order holds ((Subtype.ext named).trans same.symm)
  have notBefore : ¬place < earliest := by
    intro order
    have differs := Slots.position_first found order before
    rw [beq_eq_false_iff_ne] at differs
    exact differs (congrArg Subtype.val same)
  cases Nat.le_antisymm (Nat.le_of_not_lt notBefore) (Nat.le_of_not_lt notAfter)
  cases holds.symm.trans before
  exact formed.1

theorem Repaired.distinct : DistinctPaths after := by
  have one {first second : Nat} {entry other : MutableEntry} (held : after.get? first = some entry)
      (heldToo : after.get? second = some other) (same : entry.path = other.path) :
      ¬first < second := by
    intro before
    rcases repaired.kept heldToo with ⟨there, keeps⟩
    exact ((drops_eq_false there).mp keeps).2 first entry before (repaired.kept held).1 same
  intro first second entry other held heldToo same
  exact Nat.le_antisymm (Nat.le_of_not_lt (one heldToo held same.symm))
    (Nat.le_of_not_lt (one held heldToo same))

end

end

theorem applyRepairs_eq (report : FsckReport) (service : Service) :
    applyRepairs report service =
      (.ok { report with
          dropped := report.dropped +
            (collectDropPlan service.mounts service.mutableEntries).length
          rebuiltIndex := true },
        service.releaseAll (collectDropPlan service.mounts service.mutableEntries)) := by
  rw [applyRepairs, gets_bind, bind_of_answer (releaseMutableEntries_eq service _)]
  rfl

/-- A repair leaves a table the scan is silent about and changes no entry it keeps. It keeps one
entry of each path that has a healthy one if and only if the first of each such path is formed. -/
theorem repair_keeps_healthy (service : Service) (report : FsckReport) :
    ∃ repaired after, applyRepairs report service = (.ok repaired, after) ∧
      (∀ report, scanMemory after.mounts after.mutableEntries report = report) ∧
      (∀ index entry, after.mutableEntries.get? index = some entry →
        service.mutableEntries.get? index = some entry) ∧
      ((∀ index entry, service.mutableEntries.get? index = some entry →
        Healthy service.mounts entry →
        ∃! place, ∃ kept, after.mutableEntries.get? place = some kept ∧ kept.path = entry.path) ↔
      FirstFormed service.mounts service.mutableEntries) := by
  have repaired := repaired_releaseAll service
  refine ⟨_, _, applyRepairs_eq report service, ?_, fun index entry held =>
    (repaired.kept held).1, ?_, ?_⟩
  · intro report
    rw [releaseAll_frame]
    exact scanMemory_clean fun index entry held => repaired.judged held
  · intro keeps
    refine repaired.first_formed fun index entry held healthy => ?_
    rcases keeps index entry held healthy with ⟨place, ⟨kept, there, same⟩, -⟩
    exact ⟨place, kept, there, same⟩
  intro formed index entry held healthy
  rcases repaired.keeps_first held healthy formed with ⟨place, kept, there, same⟩
  refine ⟨place, ⟨kept, there, same⟩, ?_⟩
  rintro other ⟨keptToo, thereToo, sameToo⟩
  exact repaired.distinct thereToo there (sameToo.trans same.symm)

namespace Sample

def holding (entries : List (Nat × StorageEntryKind × String)) : Service :=
  { service with mutableEntries := entries.foldl (fun table (slot, kind, text) =>
      table.set slot (some ⟨kind, path text, invalidHandle, 0, 0, false⟩)) (.empty _) }

/-- Two entries are in the way of the first one's path, and a fourth is on no path at all. -/
def damaged : Service :=
  holding [(0, .file, "home/a"), (1, .directory, "home/a"), (2, .file, "home/a"), (3, .file, "/b")]

end Sample

open Sample in
theorem repair_keeps_healthy_of_sample :
    ∃ repaired after, applyRepairs .new damaged = (.ok repaired, after) ∧
      (∀ report, scanMemory after.mounts after.mutableEntries report = report) ∧
      ∃! place, ∃ kept, after.mutableEntries.get? place = some kept ∧
        kept.path = path "home/a" := by
  rcases repair_keeps_healthy damaged .new with ⟨repaired, after, applied, silent, -, kept⟩
  exact ⟨repaired, after, applied, silent,
    kept.mpr (by decide +kernel) 0 _ rfl (by decide +kernel)⟩

open Sample in
/-- A file is dropped as the duplicate of a directory that is dropped for its path. -/
theorem repair_drops_healthy :
    ∃ entry, (holding [(0, .directory, "home/a"), (1, .file, "home/a")]).mutableEntries.get? 1 =
      some entry ∧ Healthy seedMountTable entry ∧
      (applyRepairs .new (holding [(0, .directory, "home/a"),
        (1, .file, "home/a")])).2.mutableEntries.values = [] := by
  refine ⟨⟨.file, path "home/a", invalidHandle, 0, 0, false⟩, ?_⟩
  decide +kernel

/-- A second repair finds nothing to drop, whatever the table was like before the first. -/
theorem repair_is_idempotent (service : Service) (report again : FsckReport) :
    ∃ repaired after, applyRepairs report service = (.ok repaired, after) ∧
      applyRepairs again after = (.ok { again with rebuiltIndex := true }, after) := by
  refine ⟨_, _, applyRepairs_eq report service, ?_⟩
  have clean : collectDropPlan service.mounts (service.releaseAll
      (collectDropPlan service.mounts service.mutableEntries)).mutableEntries = [] := by
    refine List.filter_eq_nil_iff.mpr fun index _ => ?_
    rw [drops]
    split
    · simp
    · rename_i held
      simp [(repaired_releaseAll service).judged held]
  rw [applyRepairs_eq, releaseAll_frame]
  dsimp only
  rw [clean]
  rfl

end ServiceOS.Storage
