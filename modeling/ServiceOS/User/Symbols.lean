import ServiceOS.Foundation.Loop
import ServiceOS.User.Elf

/-! # Dynamic symbols

The hash view of a symbol table, the load-wide namespace, and the two walks
along hash chains. Chain entries are image bytes, so a walk may come back to
where it was. -/

namespace ServiceOS.User

open Memory Word ByteString

def elfSymbolEntryLen : Nat := 24
def stbGlobal : Nat := 1
def stbWeak : Nat := 2
def shnUndef : Nat := 0
def symbolNamespaceCapacity : Nat := 64
def symbolNameMax : Nat := 40

structure SysvHashView where
  buckets : Octets
  chains : Octets
  bucketCount : Nat
deriving DecidableEq

namespace SysvHashView

def bucket (hash : SysvHashView) (index : Nat) : Option Nat :=
  (checkedMul index 4).bind fun base => (readU32Le hash.buckets base).toOption

/-- Past the end of the table a chain ends. -/
def chain (hash : SysvHashView) (index : Nat) : Nat :=
  ((readU32Le hash.chains (index * 4)).toOption).getD 0

end SysvHashView

structure ElfSymbolTable where
  symbols : Octets
  symbolCount : Nat
  strings : Octets
  hash : Option SysvHashView
deriving DecidableEq

structure ElfSymbol where
  nameOffset : Nat
  binding : Nat
  shndx : Nat
  value : Nat

def readSymbolEntry (symbols : Octets) (index : Nat) : Except LoadError ElfSymbol := do
  let base ← okOr (checkedMul index elfSymbolEntryLen) .unsupportedHeader
  ensure (wrappingAdd base elfSymbolEntryLen ≤ symbols.length) .unsupportedHeader
  let nameOffset ← readU32Le symbols base
  let info ← readLe 1 symbols (base + 4)
  let shndx ← readU16Le symbols (base + 6)
  let value ← readU64Le symbols (base + 8)
  return ⟨nameOffset, info / 16, shndx, value⟩

def symbolNameBytes (strings : Octets) (nameOffset : Nat) : Except LoadError Octets := do
  ensure (nameOffset < strings.length) .unsupportedHeader
  let tail := strings.drop nameOffset
  ensure (0 ∈ tail) .unsupportedHeader
  return tail.takeWhile (· ≠ 0)

def elfHash (name : Octets) : UInt32 :=
  name.foldl (fun hash byte =>
    let hash := (hash <<< 4) + byte.toUInt32
    let high := hash &&& 0xf0000000
    let hash := if high ≠ 0 then hash ^^^ (high >>> 24) else hash
    hash &&& ~~~high) 0

def resolveSymbolTables (image : Octets) (loads : List ElfLoadSegment) (info : ElfDynamicInfo) :
    Except LoadError (Option ElfSymbolTable) :=
  match info.symtabVaddr, info.strtabVaddr, info.strtabSize, info.hashVaddr with
  | some symtabVaddr, some strtabVaddr, some strtabSize, some hashVaddr => do
    let strings ← okOr (locateFileRange image loads strtabVaddr strtabSize) .unsupportedRelocation
    let header ← okOr (locateFileRange image loads hashVaddr 8) .unsupportedRelocation
    let nbucket ← readU32Le header 0
    let nchain ← readU32Le header 4
    ensure (nbucket ≠ 0 ∧ nchain ≠ 0) .unsupportedHeader
    let hashBytes ← okOr (locateFileRange image loads hashVaddr (8 + (nbucket + nchain) * 4))
      .unsupportedRelocation
    let bucketsEnd := 8 + nbucket * 4
    let symbols ← okOr (locateFileRange image loads symtabVaddr (nchain * elfSymbolEntryLen))
      .unsupportedRelocation
    return some {
      symbols, symbolCount := nchain, strings
      hash := some ⟨(hashBytes.take bucketsEnd).drop 8, hashBytes.drop bucketsEnd, nbucket⟩ }
  | _, _, _, _ => .ok none

/-! ## The namespace -/

structure SymbolEntry where
  name : Octets
  address : Nat
  weak : Bool

namespace SymbolEntry

/-- What registering a name again does to its entry: a strong definition
replaces a weak one, and the later of two equally strong ones wins. -/
def override (entry : SymbolEntry) (weak : Bool) (address : Nat) : SymbolEntry :=
  if entry.weak ∧ ¬weak then { entry with weak := false, address := address }
  else if entry.weak = weak then { entry with address := address }
  else entry

end SymbolEntry

structure SymbolNamespace where
  entries : List SymbolEntry

namespace SymbolNamespace

def empty : SymbolNamespace := ⟨[]⟩

def find (space : SymbolNamespace) (name : Octets) : Option Nat :=
  space.entries.findIdx? (·.name = name)

def insert (name : Octets) (weak : Bool) (address : Nat) :
    Fallible SymbolNamespace LoadError Unit := fun space =>
  if name = [] ∨ name.length > symbolNameMax then
    (.ok (), space)
  else
    match space.find name with
    | some index => (.ok (), ⟨space.entries.modify index (SymbolEntry.override · weak address)⟩)
    | none =>
      if space.entries.length = symbolNamespaceCapacity then
        (.error (.error .symbolSpaceExhausted), space)
      else
        (.ok (), ⟨space.entries ++ [⟨name, address, weak⟩]⟩)

def lookup (space : SymbolNamespace) (name : Octets) : Option Nat :=
  (space.entries.find? (·.name = name)).map SymbolEntry.address

end SymbolNamespace

/-! ## Walks along a chain -/

namespace ElfSymbolTable

variable (table : ElfSymbolTable)

variable (hash : SysvHashView)

def lookupRound (name : Octets) (index : Nat) : Option Nat ⊕ Nat :=
  if index = 0 then
    .inl none
  else if table.symbolCount ≤ index then
    .inl none
  else
    match readSymbolEntry table.symbols index with
    | .error _ => .inl none
    | .ok symbol =>
      if symbol.shndx ≠ shnUndef ∧
          symbolNameBytes table.strings symbol.nameOffset = .ok name then
        .inl (some symbol.value)
      else
        .inr (hash.chain index)

def lookupStart (name : Octets) : Option (SysvHashView × Nat) := do
  let hash ← table.hash
  if name = [] ∨ hash.bucketCount = 0 then
    none
  else
    let start ← hash.bucket ((elfHash name).toNat % hash.bucketCount)
    return (hash, start)

/-- The answer, or nothing when the walk takes more than `fuel` rounds. -/
def lookup (fuel : Nat) (name : Octets) : Option (Option Nat) :=
  match table.lookupStart name with
  | none => some none
  | some (hash, start) => Loop.iterate (table.lookupRound hash name) fuel start

def exportSymbol (loadBase index : Nat) : Fallible SymbolNamespace LoadError Unit := do
  let symbol ← readSymbolEntry table.symbols index
  if symbol.shndx ≠ shnUndef ∧ (symbol.binding = stbGlobal ∨ symbol.binding = stbWeak) then do
    let name ← symbolNameBytes table.strings symbol.nameOffset
    SymbolNamespace.insert name (symbol.binding = stbWeak) (wrappingAdd loadBase symbol.value)
  else
    pure ()

def exportRound (loadBase : Nat) :
    Nat × SymbolNamespace → (Except (Stop LoadError) Unit × SymbolNamespace) ⊕
      (Nat × SymbolNamespace)
  | (index, space) =>
    if index = 0 then
      .inl (.ok (), space)
    else if table.symbolCount ≤ index then
      .inl (.error (.error .unsupportedHeader), space)
    else
      match table.exportSymbol loadBase index space with
      | (.error stop, space) => .inl (.error stop, space)
      | (.ok _, space) => .inr (hash.chain index, space)

/-- A bucket that cannot be read is an empty one. -/
def bucketStart (bucketIndex : Nat) : Nat := (hash.bucket bucketIndex).getD 0

/-- The walk along one bucket's chain, cut off after `fuel` rounds. -/
def exportBucket (loadBase fuel bucketIndex : Nat) :
    Fallible SymbolNamespace LoadError Unit := fun space =>
  (Loop.iterate (table.exportRound hash loadBase) fuel (bucketStart hash bucketIndex, space)).getD
    (.error .outOfFuel, space)

end ElfSymbolTable

def exportBuckets (table : ElfSymbolTable) (hash : SysvHashView) (loadBase fuel : Nat) :
    List Nat → Fallible SymbolNamespace LoadError Unit
  | [] => pure ()
  | bucketIndex :: rest => do
    table.exportBucket hash loadBase fuel bucketIndex
    exportBuckets table hash loadBase fuel rest

def registerModuleExports (fuel : Nat) (table : ElfSymbolTable) (loadBase : Nat) :
    Fallible SymbolNamespace LoadError Unit :=
  match table.hash with
  | none => pure ()
  | some hash => exportBuckets table hash loadBase fuel (List.range hash.bucketCount)

/-- The symbol interface an image declares, with the reads of `collect_elf_exports`. -/
def imageSymbolTable (image : Octets) : Except LoadError (Option (Option ElfSymbolTable)) := do
  ensure (elfIdentSupported image) .unsupportedAbi
  let phoff ← readU64Le image 32
  let phentsize ← readU16Le image 54
  let phnum ← readU16Le image 56
  ensure (phentsize = elfProgramHeaderLen ∧ phnum ≠ 0) .unsupportedHeader
  let headers ← ProgramHeaders.read false image phoff phnum
  match headers.dynamicRange with
  | none => return none
  | some range => do
    let info ← parseDynamicInfo (dynamicBytes image range)
    let tables ← resolveSymbolTables image headers.loads info
    return some tables

def collectElfExports (fuel : Nat) (image : Octets) (loadBase : Nat) :
    Fallible SymbolNamespace LoadError Bool :=
  if isElf64Image image then do
    match ← imageSymbolTable image with
    | none => pure false
    | some none => pure true
    | some (some table) => do
      registerModuleExports fuel table loadBase
      pure true
  else
    pure false

end ServiceOS.User
