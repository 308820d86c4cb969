import ServiceOS.User.Symbols

/-! # Walks along hash chains end if and only if the chains do

The chain entries are image bytes. A walk stops at the end of a chain and outside the
symbol table, and nothing stops one that goes round inside the table. -/

namespace ServiceOS.User

open Memory Word ByteString Fallible Loop

/-- The index is the end of a chain or outside the symbol table. -/
abbrev Stops (symbolCount index : Nat) : Prop := index = 0 ∨ symbolCount ≤ index

theorem lt_of_not_stops (inside : ¬Stops symbolCount index) : index < symbolCount := by omega

namespace SysvHashView

variable (hash : SysvHashView) (symbolCount : Nat)

def ChainEnds (start : Nat) : Prop := ∃ steps, Stops symbolCount (hash.chain^[steps] start)

/-- Following the chain leads to its end inside the symbol table. -/
inductive ChainCloses : Nat → Prop
  | last : ChainCloses 0
  | next : index < symbolCount → ChainCloses (hash.chain index) → ChainCloses index

/-- The chains of the buckets end. None is followed after one that leads out of the table. -/
def BucketsEnd : List Nat → Prop
  | [] => True
  | bucketIndex :: rest =>
    hash.ChainEnds symbolCount (ElfSymbolTable.bucketStart hash bucketIndex) ∧
      (hash.ChainCloses symbolCount (ElfSymbolTable.bucketStart hash bucketIndex) →
        BucketsEnd rest)

variable {hash} {symbolCount}

theorem ChainCloses.ends (closes : hash.ChainCloses symbolCount start) :
    hash.ChainEnds symbolCount start := by
  induction closes with
  | last => exact ⟨0, .inl rfl⟩
  | next _ _ induction =>
    rcases induction with ⟨steps, stop⟩
    exact ⟨steps + 1, stop⟩

theorem ChainCloses.of_ne_zero (closes : hash.ChainCloses symbolCount index) (more : index ≠ 0) :
    index < symbolCount ∧ hash.ChainCloses symbolCount (hash.chain index) := by
  cases closes with
  | last => exact absurd rfl more
  | next bound later => exact ⟨bound, later⟩

theorem not_chainEnds_next (unending : ¬hash.ChainEnds symbolCount index) :
    ¬Stops symbolCount index ∧ ¬hash.ChainEnds symbolCount (hash.chain index) :=
  ⟨fun stop => unending ⟨0, stop⟩, fun ⟨steps, stop⟩ => unending ⟨steps + 1, stop⟩⟩

end SysvHashView

namespace ElfSymbolTable

variable {table : ElfSymbolTable} {hash : SysvHashView}

/-! ## Walks along chains that end -/

theorem lookupRound_cases (table : ElfSymbolTable) (hash : SysvHashView) (name : Octets)
    (index : Nat) : (∃ answer, table.lookupRound hash name index = .inl answer) ∨
      table.lookupRound hash name index = .inr (hash.chain index) ∧
        ¬Stops table.symbolCount index := by
  unfold lookupRound
  split
  · exact .inl ⟨_, rfl⟩
  split
  · exact .inl ⟨_, rfl⟩
  split
  · exact .inl ⟨_, rfl⟩
  split
  · exact .inl ⟨_, rfl⟩
  · exact .inr ⟨rfl, by omega⟩

/-- The code answers or stops with an error of its own: no loop of it is cut off. -/
abbrev Finishes {Answer : Type} (code : Fallible SymbolNamespace LoadError Answer)
    (space : SymbolNamespace) : Prop :=
  code.Ensures space (fun _ _ => True) fun stop _ => stop ≠ .outOfFuel

theorem insert_finishes (name : Octets) (weak : Bool) (address : Nat)
    (space : SymbolNamespace) : Finishes (SymbolNamespace.insert name weak address) space := by
  refine ensures_of_cases (fun _ => trivial) fun call => ?_
  unfold SymbolNamespace.insert at call
  split at call
  · cases call
  split at call
  · cases call
  split at call
  · cases call
    exact nofun
  · cases call

theorem exportSymbol_finishes (table : ElfSymbolTable) (loadBase index : Nat)
    (space : SymbolNamespace) : Finishes (table.exportSymbol loadBase index) space := by
  refine ensures_bind (ensures_lift (fun symbol _ => ?_) fun _ _ => nofun)
  split
  · refine ensures_bind (ensures_lift (fun name _ => ?_) fun _ _ => nofun)
    exact insert_finishes ..
  · exact trivial

theorem exportRound_cases (table : ElfSymbolTable) (hash : SysvHashView) (loadBase index : Nat)
    (space : SymbolNamespace) :
    (∃ result, table.exportRound hash loadBase (index, space) = .inl result ∧
        result.1 ≠ .error .outOfFuel ∧ (result.1 = .ok () → index = 0)) ∨
      ∃ after, table.exportRound hash loadBase (index, space) = .inr (hash.chain index, after) ∧
        ¬Stops table.symbolCount index := by
  rw [exportRound]
  split
  next last => exact .inl ⟨_, rfl, nofun, fun _ => last⟩
  split
  · exact .inl ⟨_, rfl, nofun, nofun⟩
  split
  next stopped =>
    have finishes := (exportSymbol_finishes table loadBase index space).stop stopped
    exact .inl ⟨_, rfl, fun cutOff => finishes (Except.error.inj cutOff), nofun⟩
  · exact .inr ⟨_, rfl, by omega⟩

/-- A walk along a chain that ends is not cut off, and answers only if the chain closes. -/
theorem exportBucket_ensures
    (ends : hash.ChainEnds table.symbolCount (bucketStart hash bucketIndex)) :
    (table.exportBucket hash loadBase (table.symbolCount + 1) bucketIndex).Ensures space
      (fun _ _ => hash.ChainCloses table.symbolCount (bucketStart hash bucketIndex))
      fun stop _ => stop ≠ .outOfFuel := by
  rcases @iterate_ends_of_orbit _ _ (table.exportRound hash loadBase) _
      (bucketStart hash bucketIndex, space) _ Prod.fst _
      (fun state => hash.ChainCloses table.symbolCount state.1 →
        hash.ChainCloses table.symbolCount (bucketStart hash bucketIndex))
      (fun result => result.1 ≠ .error .outOfFuel ∧ (result.1 = .ok () →
        hash.ChainCloses table.symbolCount (bucketStart hash bucketIndex)))
      (fun {state} closes => by
        rcases exportRound_cases table hash loadBase state.1 state.2 with
          ⟨result, ends, finishes, last⟩ | ⟨after, continues, inside⟩
        · exact .inl ⟨result, ends, finishes, fun answered => closes (last answered ▸ .last)⟩
        · exact .inr ⟨_, continues, inside, rfl,
            fun later => closes (.next (lt_of_not_stops inside) later)⟩)
      lt_of_not_stops ends id with ⟨⟨result, after⟩, ended, finishes, closes⟩
  apply ensures_of_cases <;> intro _ _ call <;>
    rw [exportBucket, ended, Option.getD_some] at call <;> cases call
  · exact closes rfl
  · exact fun cutOff => finishes (congrArg Except.error cutOff)

theorem exportBuckets_finishes (chains : hash.BucketsEnd table.symbolCount buckets) :
    Finishes (exportBuckets table hash loadBase (table.symbolCount + 1) buckets) space := by
  induction buckets generalizing space with
  | nil => exact ensures_pure trivial
  | cons bucketIndex rest induction =>
    apply ensures_bind
    apply (exportBucket_ensures chains.1).mono
    · exact fun _ _ closes => induction (chains.2 closes)
    · exact fun _ _ => id

/-! ## Symbols that keep every walk going -/

def Undefined (table : ElfSymbolTable) : Prop :=
  ∀ index, ¬Stops table.symbolCount index →
    ∃ symbol, readSymbolEntry table.symbols index = .ok symbol ∧ symbol.shndx = shnUndef

theorem readLe_zeros (fits : offset + width ≤ size) :
    readLe width (List.replicate size 0) offset = .ok 0 := by
  have zero : ∀ count, fromLittleEndian (List.replicate count 0) = 0 := by
    intro count
    induction count with
    | zero => rfl
    | succ count induction => rw [List.replicate_succ, fromLittleEndian, induction]; rfl
  rw [readLe, slice, List.length_replicate, if_pos fits, List.drop_replicate, List.take_replicate,
    okOr, Except.map, zero]

theorem undefined_zeros (small : count < 2 ^ 32) (strings : Octets) (hash : Option SysvHashView) :
    Undefined ⟨List.replicate (count * elfSymbolEntryLen) 0, count, strings, hash⟩ := by
  intro index inside
  have last : index * 24 + 24 ≤ count * 24 := by dsimp only at inside; omega
  have product : checkedMul index 24 = some (index * 24) := if_pos (by unfold limit; omega)
  have within : wrappingAdd (index * 24) 24 ≤ count * 24 := (Nat.mod_le _ _).trans last
  refine ⟨⟨0, 0, 0, 0⟩, ?_, rfl⟩
  simp (disch := omega) [readSymbolEntry, elfSymbolEntryLen, product, okOr, ensure, within,
    readU16Le, readU32Le, readU64Le, readLe_zeros, bind, Except.bind, pure, Except.pure]

section

variable (undefined : Undefined table)

include undefined

theorem exportRound_undefined (inside : ¬Stops table.symbolCount index) :
    table.exportRound hash loadBase (index, space) = .inr (hash.chain index, space) := by
  rcases undefined _ inside with ⟨symbol, read, missing⟩
  rw [not_or] at inside
  simp only [exportRound, exportSymbol, if_neg inside.1, if_neg inside.2]
  rw [bind_of_answer (lift_of_ok read _), if_neg (by simp [missing])]
  rfl

theorem lookupRound_undefined (inside : ¬Stops table.symbolCount index) :
    table.lookupRound hash name index = .inr (hash.chain index) := by
  rcases undefined _ inside with ⟨symbol, read, missing⟩
  rw [not_or] at inside
  simp [lookupRound, inside, read, missing]

theorem exportBucket_unending
    (unending : ¬hash.ChainEnds table.symbolCount (bucketStart hash bucketIndex)) (fuel : Nat) :
    table.exportBucket hash loadBase fuel bucketIndex space = (.error .outOfFuel, space) := by
  have cutOff : iterate (table.exportRound hash loadBase) fuel
      (bucketStart hash bucketIndex, space) = none := by
    apply iterate_never_ends (¬hash.ChainEnds table.symbolCount ·.1) _ unending
    intro state unending
    rcases SysvHashView.not_chainEnds_next unending with ⟨inside, later⟩
    exact ⟨_, exportRound_undefined undefined inside, later⟩
  exact congrArg (Option.getD · _) cutOff

theorem lookupWalk_unending (unending : ¬hash.ChainEnds table.symbolCount start) (fuel : Nat) :
    iterate (table.lookupRound hash name) fuel start = none := by
  apply iterate_never_ends (¬hash.ChainEnds table.symbolCount ·) _ unending
  intro index unending
  rcases SysvHashView.not_chainEnds_next unending with ⟨inside, later⟩
  exact ⟨_, lookupRound_undefined undefined inside, later⟩

theorem exportBucket_closing
    (closes : hash.ChainCloses table.symbolCount (bucketStart hash bucketIndex)) :
    table.exportBucket hash loadBase (table.symbolCount + 1) bucketIndex space =
      (.ok (), space) := by
  rcases @iterate_ends_of_orbit _ _ (table.exportRound hash loadBase) _
      (bucketStart hash bucketIndex, space) _ Prod.fst _
      (fun state => state.2 = space ∧ hash.ChainCloses table.symbolCount state.1)
      (· = (.ok (), space))
      (fun {state} ⟨same, closes⟩ => by
        by_cases last : state.1 = 0
        · exact .inl ⟨_, if_pos last, congrArg (Prod.mk _) same⟩
        rcases closes.of_ne_zero last with ⟨bound, later⟩
        have inside : ¬Stops table.symbolCount state.1 := by omega
        exact .inr ⟨_, exportRound_undefined undefined inside, inside, rfl, same, later⟩)
      lt_of_not_stops closes.ends ⟨rfl, closes⟩ with ⟨_, ended, rfl⟩
  rw [exportBucket, ended, Option.getD_some]

theorem exportBuckets_unending (unending : ¬hash.BucketsEnd table.symbolCount buckets) :
    exportBuckets table hash loadBase (table.symbolCount + 1) buckets space =
      (.error .outOfFuel, space) := by
  induction buckets with
  | nil => exact absurd trivial unending
  | cons bucketIndex rest induction =>
    by_cases ends : hash.ChainEnds table.symbolCount (bucketStart hash bucketIndex)
    · simp only [SysvHashView.BucketsEnd, ends, true_and, Classical.not_imp] at unending
      rw [exportBuckets, bind_of_answer (exportBucket_closing undefined unending.1)]
      exact induction unending.2
    · exact bind_of_stop (exportBucket_unending undefined ends _)

end

theorem lookup_of_named (named : ¬(name = [] ∨ hash.bucketCount = 0))
    (symbols strings : Octets) (count fuel : Nat) :
    lookup ⟨symbols, count, strings, some hash⟩ (fuel + 1) name =
      iterate (lookupRound ⟨symbols, count, strings, some hash⟩ hash name) (fuel + 1)
        (bucketStart hash ((elfHash name).toNat % hash.bucketCount)) := by
  simp only [lookup, lookupStart, bucketStart, bind, Option.bind_some, if_neg named]
  cases hash.bucket ((elfHash name).toNat % hash.bucketCount) <;> rfl

/-- Whatever the symbols and their names are, exporting them takes at most one round more per
chain than there are symbols, if and only if the chains that are followed end; and so does looking
a name up. -/
theorem symbol_walks_end_iff (symbolCount : UInt32) (hash : SysvHashView) (name : Octets) :
    ((∀ symbols strings loadBase space, (registerModuleExports (symbolCount.toNat + 1)
        ⟨symbols, symbolCount.toNat, strings, some hash⟩ loadBase space).1 ≠ .error .outOfFuel) ↔
      hash.BucketsEnd symbolCount.toNat (List.range hash.bucketCount)) ∧
    ((∀ symbols strings, ∃ answer, (⟨symbols, symbolCount.toNat, strings, some hash⟩ :
        ElfSymbolTable).lookup (symbolCount.toNat + 1) name = some answer) ↔
      name = [] ∨ hash.bucketCount = 0 ∨ hash.ChainEnds symbolCount.toNat
        (bucketStart hash ((elfHash name).toNat % hash.bucketCount))) := by
  have undefined := undefined_zeros symbolCount.toNat_lt [] (some hash)
  constructor
  · constructor
    · intro finishes
      by_contra unending
      exact finishes _ [] 0 .empty (congrArg Prod.fst (exportBuckets_unending undefined unending))
    · intro chains symbols strings loadBase space cutOff
      exact (@exportBuckets_finishes ⟨symbols, symbolCount.toNat, strings, some hash⟩ hash _ _ _
        chains).stop (Prod.ext cutOff rfl) rfl
  · by_cases named : name = [] ∨ hash.bucketCount = 0
    · refine iff_of_true (fun symbols strings => ⟨none, ?_⟩) (by tauto)
      simp [lookup, lookupStart, named]
    have walks := fun symbols strings =>
      lookup_of_named named symbols strings symbolCount.toNat symbolCount.toNat
    rw [not_or] at named
    simp only [walks, named, false_or]
    constructor
    · intro finishes
      by_contra unending
      rcases finishes (List.replicate (symbolCount.toNat * elfSymbolEntryLen) 0) [] with
        ⟨answer, found⟩
      rw [lookupWalk_unending undefined unending] at found
      cases found
    · intro ends symbols strings
      rcases @iterate_ends_of_orbit _ _ _ _ _ _ id _ (fun _ => True) (fun _ => True)
        (fun {index} _ => by
          rcases lookupRound_cases ⟨symbols, symbolCount.toNat, strings, some hash⟩ hash name
            index with ⟨answer, ends⟩ | ⟨continues, inside⟩
          · exact .inl ⟨answer, ends, trivial⟩
          · exact .inr ⟨_, continues, inside, rfl, trivial⟩)
        lt_of_not_stops ends trivial with ⟨answer, ended, -⟩
      exact ⟨answer, ended⟩

end ElfSymbolTable

/-! ## An image whose chain leads to itself -/

def cyclicHash : SysvHashView where
  buckets := toLittleEndian 4 1
  chains := toLittleEndian 4 0 ++ toLittleEndian 4 1
  bucketCount := 1

/-- One undefined symbol, in a bucket whose chain links the symbol to itself. -/
def cyclicTable : ElfSymbolTable where
  symbols := List.replicate 48 0
  symbolCount := 2
  strings := [0]
  hash := some cyclicHash

def cyclicImage : Octets :=
  encodeElfHeader elfTypeDyn .x86_64 0 64 2 ++
    encodeProgramHeader elfSegmentLoad ⟨4, 0, 0, 325, 325⟩ ++
    encodeProgramHeader elfSegmentDynamic ⟨4, 176, 176, 80, 80⟩ ++
    encodeDynamicEntry dynamicTagHash 256 ++ encodeDynamicEntry dynamicTagSymtab 276 ++
    encodeDynamicEntry dynamicTagStrtab 324 ++ encodeDynamicEntry dynamicTagStrsz 1 ++
    encodeDynamicEntry dynamicTagNull 0 ++
    (toLittleEndian 4 1 ++ toLittleEndian 4 2 ++ toLittleEndian 4 1 ++ toLittleEndian 4 0 ++
      toLittleEndian 4 1) ++
    List.replicate 48 0 ++ [0]

theorem imageSymbolTable_cyclicImage :
    imageSymbolTable cyclicImage = .ok (some (some cyclicTable)) := by
  decide +kernel

theorem undefined_cyclicTable : cyclicTable.Undefined :=
  ElfSymbolTable.undefined_zeros (by decide) [0] (some cyclicHash)

theorem unending_cyclicHash : ¬cyclicHash.ChainEnds 2 1 := by
  rintro ⟨steps, stop⟩
  rw [Function.iterate_fixed (show cyclicHash.chain 1 = 1 from rfl)] at stop
  exact absurd stop (by decide)

theorem collectElfExports_cyclicImage (fuel : Nat) (space : SymbolNamespace) :
    collectElfExports fuel cyclicImage 0 space = (.error .outOfFuel, space) := by
  have elf : isElf64Image cyclicImage := by decide +kernel
  have read : (liftM (imageSymbolTable cyclicImage) :
      Fallible SymbolNamespace LoadError _) space = (.ok (some (some cyclicTable)), space) := by
    rw [imageSymbolTable_cyclicImage]
    rfl
  have walk : registerModuleExports fuel cyclicTable 0 space = (.error .outOfFuel, space) :=
    bind_of_stop (ElfSymbolTable.exportBucket_unending undefined_cyclicTable unending_cyclicHash _)
  rw [collectElfExports, if_pos elf, bind_of_answer read]
  exact bind_of_stop walk

/-- Exporting this image's symbols and looking up a name it does not define go
round the chain for ever. -/
theorem cyclic_chain_never_ends :
    imageSymbolTable cyclicImage = .ok (some (some cyclicTable)) ∧
      (∀ fuel, (collectElfExports fuel cyclicImage 0 .empty).1 = .error .outOfFuel) ∧
      ∀ fuel, cyclicTable.lookup fuel [0x66] = none := by
  refine ⟨imageSymbolTable_cyclicImage, fun fuel => ?_, fun fuel => ?_⟩
  · rw [collectElfExports_cyclicImage]
  · exact ElfSymbolTable.lookupWalk_unending undefined_cyclicTable unending_cyclicHash fuel

end ServiceOS.User
