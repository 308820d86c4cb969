import ServiceOS.User.Types

/-! # ELF images

Program headers, the plan of a library, and the dynamic section. -/

namespace ServiceOS.User

open Memory Word ByteString

def elfMagic : Octets := [0x7f, 0x45, 0x4c, 0x46]
def elfClass64 : UInt8 := 2
def elfDataLsb : UInt8 := 1
def elfVersionCurrent : UInt8 := 1
def elfTypeExec : Nat := 2
def elfTypeDyn : Nat := 3
def elfProgramHeaderLen : Nat := 56
def elfSegmentLoad : Nat := 1
def elfSegmentDynamic : Nat := 2
def elfSegmentInterp : Nat := 3
def elfSegmentGnuStack : Nat := 0x6474e551
def elfFlagExecute : Nat := 1
def elfFlagWrite : Nat := 2
def maxElfLoadSegments : Nat := 16
def elfRelaEntryLen : Nat := 24
def dynamicEntryLen : Nat := 16
def dynamicTagNull : Nat := 0
@[match_pattern] abbrev dynamicTagPltrelsz : Nat := 2
@[match_pattern] abbrev dynamicTagPltgot : Nat := 3
@[match_pattern] abbrev dynamicTagHash : Nat := 4
@[match_pattern] abbrev dynamicTagStrtab : Nat := 5
@[match_pattern] abbrev dynamicTagSymtab : Nat := 6
@[match_pattern] abbrev dynamicTagRela : Nat := 7
@[match_pattern] abbrev dynamicTagRelasz : Nat := 8
@[match_pattern] abbrev dynamicTagStrsz : Nat := 10
@[match_pattern] abbrev dynamicTagPltrel : Nat := 20
@[match_pattern] abbrev dynamicTagJmprel : Nat := 23
def dtPltrelRela : Nat := 7

/-- The bytes of `serviceos-ld`. -/
def builtinInterpMarker : Octets :=
  [0x73, 0x65, 0x72, 0x76, 0x69, 0x63, 0x65, 0x6f, 0x73, 0x2d, 0x6c, 0x64]

variable (bytes : Octets)

def isElf64Image : Prop := bytes.take elfMagic.length = elfMagic
deriving Decidable

structure ElfLoadSegment where
  flags : Nat
  fileOffset : Nat
  virtualAddress : Nat
  fileSize : Nat
  memorySize : Nat
deriving DecidableEq

namespace ElfLoadSegment

variable (segment : ElfLoadSegment)

def writable : Bool := segment.flags &&& elfFlagWrite ≠ 0

def executable : Bool := segment.flags &&& elfFlagExecute ≠ 0

def mappingFlags : MappingFlags :=
  ⟨segment.writable, segment.executable, true⟩

def payload (image : Octets) : Option Octets :=
  slice image segment.fileOffset segment.fileSize

def pages : Nat := divCeil segment.memorySize pageSizeBytes

def memoryEnd : Nat :=
  saturatingAdd segment.virtualAddress segment.memorySize

end ElfLoadSegment

/-! ## Program headers -/

/-- What the program headers read so far have declared. -/
structure ProgramHeaders where
  loads : List ElfLoadSegment
  dynamicRange : Option (Nat × Nat)
  interpRange : Option (Nat × Nat)
  gnuStackExecutable : Bool

namespace ProgramHeaders

def empty : ProgramHeaders := ⟨[], none, none, false⟩

/-- A file range given by a program header; it must lie inside the image. -/
def readRange (image program : Octets) : Except LoadError (Nat × Nat) := do
  let offset ← readU64Le program 8
  let size ← readU64Le program 32
  let _ ← okOr (slice image offset size) .truncated
  return (offset, size)

def readLoad (program : Octets) : Except LoadError ElfLoadSegment := do
  let flags ← readU32Le program 4
  let fileOffset ← readU64Le program 8
  let virtualAddress ← readU64Le program 16
  let fileSize ← readU64Le program 32
  let memorySize ← readU64Le program 40
  return ⟨flags, fileOffset, virtualAddress, fileSize, memorySize⟩

/-- One round of the program header loop. The loop of `collect_elf_exports`
passes over `PT_INTERP`. -/
def scan (readsInterp : Bool) (image : Octets) (phoff : Nat) (found : ProgramHeaders)
    (index : Nat) : Except LoadError ProgramHeaders := do
  let header ← okOr (checkedAdd phoff (index * elfProgramHeaderLen)) .truncated
  let program ← okOr (slice image header elfProgramHeaderLen) .truncated
  let kind ← readU32Le program 0
  if kind = elfSegmentInterp ∧ readsInterp then do
    ensure found.interpRange.isNone .unsupportedHeader
    let range ← readRange image program
    return { found with interpRange := some range }
  else if kind = elfSegmentGnuStack then do
    let flags ← readU32Le program 4
    return { found with gnuStackExecutable := flags &&& elfFlagExecute ≠ 0 }
  else if kind = elfSegmentDynamic then do
    ensure found.dynamicRange.isNone .unsupportedHeader
    let range ← readRange image program
    return { found with dynamicRange := some range }
  else if kind = elfSegmentLoad then do
    ensure (found.loads.length ≠ maxElfLoadSegments) .unsupportedHeader
    let segment ← readLoad program
    return { found with loads := found.loads ++ [segment] }
  else
    return found

def read (readsInterp : Bool) (image : Octets) (phoff phnum : Nat) :
    Except LoadError ProgramHeaders :=
  (List.range phnum).foldlM (scan readsInterp image phoff) empty

end ProgramHeaders

def checkInterpreterPolicy (image : Octets) (interpRange : Option (Nat × Nat)) :
    Except LoadError Unit :=
  match interpRange with
  | none => .ok ()
  | some (offset, size) => do
    let bytes ← okOr (slice image offset size) .truncated
    -- The path ends at its first zero byte.
    ensure (bytes.takeWhile (· ≠ 0) = builtinInterpMarker) .interpreterUnsupported

/-! ## The plan of a library -/

structure ElfDependencyPlan where
  loads : List ElfLoadSegment
  dynamicRange : Option (Nat × Nat)
  span : Nat
deriving DecidableEq

def ElfDependencyPlan.mappingSpanBytes (plan : ElfDependencyPlan) : Nat :=
  alignUpU64 plan.span pageSizeBytes

def spanLow (loads : List ElfLoadSegment) : Nat :=
  loads.foldl (fun low segment => min low segment.virtualAddress) (limit - 1)

def spanHigh (loads : List ElfLoadSegment) : Nat :=
  loads.foldl (fun high segment => max high segment.memoryEnd) 0

def ElfLoadSegment.Plannable (segment : ElfLoadSegment) (bytes : Octets) : Prop :=
  segment.virtualAddress % pageSizeBytes = 0 ∧ segment.fileSize ≤ segment.memorySize ∧
    (segment.payload bytes).isSome
deriving Decidable

def elfIdentSupported : Prop :=
  bytes[4]? = some elfClass64 ∧ bytes[5]? = some elfDataLsb ∧ bytes[6]? = some elfVersionCurrent
deriving Decidable

def planElfDependencyInner (expectedMachine : ElfMachine) : Except LoadError ElfDependencyPlan := do
  ensure (64 ≤ bytes.length) .truncated
  ensure (elfIdentSupported bytes) .unsupportedAbi
  let elfType ← readU16Le bytes 16
  ensure (elfType = elfTypeDyn) .unsupportedAbi
  let machine ← readU16Le bytes 18
  ensure (machine = expectedMachine.asU16) .unsupportedMachine
  let phoff ← readU64Le bytes 32
  let phentsize ← readU16Le bytes 54
  let phnum ← readU16Le bytes 56
  ensure (phentsize = elfProgramHeaderLen ∧ phnum ≠ 0) .unsupportedHeader
  let headers ← ProgramHeaders.read true bytes phoff phnum
  checkInterpreterPolicy bytes headers.interpRange
  ensure (headers.loads ≠ []) .unsupportedHeader
  ensure (∀ segment ∈ headers.loads, segment.Plannable bytes) .unsupportedHeader
  return ⟨headers.loads, headers.dynamicRange, spanHigh headers.loads - spanLow headers.loads⟩

/-- Validation failures of a companion are reported as one error. -/
def planElfDependency (expectedMachine : ElfMachine) : Except LoadError ElfDependencyPlan :=
  match planElfDependencyInner bytes expectedMachine with
  | .error .frameExhausted => .error .frameExhausted
  | .error (.mapping error) => .error (.mapping error)
  | .error .interpreterUnsupported => .error .interpreterUnsupported
  | .error _ => .error .dependencyInvalid
  | .ok plan => .ok plan

variable {machine : ElfMachine} {bytes : Octets} {plan : ElfDependencyPlan}

theorem planElfDependency_eq_ok :
    planElfDependency bytes machine = .ok plan ↔
      planElfDependencyInner bytes machine = .ok plan := by
  unfold planElfDependency
  split <;> simp_all

theorem planElfDependencyInner_accepted
    (planned : planElfDependencyInner bytes machine = .ok plan) :
    (∀ segment ∈ plan.loads, segment.Plannable bytes) ∧
      plan.span = spanHigh plan.loads - spanLow plan.loads := by
  simp only [planElfDependencyInner, bind_eq_ok, ensure_eq_ok, exists_const] at planned
  rcases planned with ⟨-, -, elfType, -, -, fileMachine, -, -, phoff, -, phentsize, -, phnum, -, -,
    headers, -, policy, -, -, plannable, result⟩
  cases result
  exact ⟨plannable, rfl⟩

/-! ## The dynamic section -/

structure ElfDynamicInfo where
  rela : Option (Nat × Nat)
  jmprel : Option (Nat × Nat)
  pltGot : Option Nat
  pltrel : Option Nat
  symtabVaddr : Option Nat
  strtabVaddr : Option Nat
  strtabSize : Option Nat
  hashVaddr : Option Nat
deriving DecidableEq

namespace ElfDynamicInfo

def empty : ElfDynamicInfo := ⟨none, none, none, none, none, none, none, none⟩

/-- Take in one entry; `pltrelsz` is kept for a `DT_JMPREL` that comes later. -/
def record (info : ElfDynamicInfo) (pltrelsz : Option Nat) (tag value : Nat) :
    ElfDynamicInfo × Option Nat :=
  match tag with
  | dynamicTagRela => ({ info with rela := some (value, info.rela.elim 0 Prod.snd) }, pltrelsz)
  | dynamicTagRelasz => ({ info with rela := some (info.rela.elim 0 Prod.fst, value) }, pltrelsz)
  | dynamicTagJmprel => ({ info with jmprel := some (value, pltrelsz.getD 0) }, pltrelsz)
  | dynamicTagPltrelsz =>
    ({ info with jmprel := some (info.jmprel.elim 0 Prod.fst, value) }, some value)
  | dynamicTagSymtab => ({ info with symtabVaddr := some value }, pltrelsz)
  | dynamicTagStrtab => ({ info with strtabVaddr := some value }, pltrelsz)
  | dynamicTagStrsz => ({ info with strtabSize := some value }, pltrelsz)
  | dynamicTagHash => ({ info with hashVaddr := some value }, pltrelsz)
  | dynamicTagPltgot => ({ info with pltGot := some value }, pltrelsz)
  | dynamicTagPltrel => ({ info with pltrel := some value }, pltrelsz)
  | _ => (info, pltrelsz)

/-- The entries up to the terminating one, and whether there is one. -/
def scan (dynamic : Octets) :
    List Nat → ElfDynamicInfo → Option Nat → Except LoadError (ElfDynamicInfo × Bool)
  | [], info, _ => .ok (info, false)
  | entryIndex :: rest, info, pltrelsz => do
    let base := entryIndex * dynamicEntryLen
    let tag ← readU64Le dynamic base
    if tag = dynamicTagNull then
      .ok (info, true)
    else do
      let value ← readU64Le dynamic (base + 8)
      let (info, pltrelsz) := info.record pltrelsz tag value
      scan dynamic rest info pltrelsz

/-- A relocation table has both an address and a size. -/
def tableWellFormed : Option (Nat × Nat) → Prop
  | none => True
  | some (address, size) => address ≠ 0 ∧ size ≠ 0 ∧ size % elfRelaEntryLen = 0

instance : (table : Option (Nat × Nat)) → Decidable (tableWellFormed table)
  | none => .isTrue trivial
  | some _ => inferInstanceAs (Decidable (_ ∧ _ ∧ _))

def relocationTables (info : ElfDynamicInfo) : List (Nat × Nat) :=
  info.rela.toList ++ info.jmprel.toList

end ElfDynamicInfo

def parseDynamicInfo (dynamic : Octets) : Except LoadError ElfDynamicInfo := do
  ensure (dynamic.length % dynamicEntryLen = 0) .unsupportedHeader
  let (info, terminated) ←
    ElfDynamicInfo.scan dynamic (List.range (dynamic.length / dynamicEntryLen)) .empty none
  ensure (ElfDynamicInfo.tableWellFormed info.rela ∧ ElfDynamicInfo.tableWellFormed info.jmprel)
    .unsupportedHeader
  ensure (∀ format ∈ info.pltrel, format = dtPltrelRela) .unsupportedHeader
  ensure (terminated ∨ dynamic = []) .unsupportedHeader
  return info

def locateFileRange (image : Octets) : List ElfLoadSegment → (virtualAddress length : Nat) →
    Option Octets
  | [], _, _ => none
  | segment :: rest, virtualAddress, length => do
    let segEnd ← checkedAdd segment.virtualAddress segment.fileSize
    if segment.virtualAddress ≤ virtualAddress ∧ virtualAddress < segEnd then do
      let fileStart ← checkedAdd segment.fileOffset (virtualAddress - segment.virtualAddress)
      let fileEnd ← checkedAdd fileStart length
      if fileEnd ≤ wrappingAdd segment.fileOffset segment.fileSize then
        slice image fileStart length
      else
        locateFileRange image rest virtualAddress length
    else
      locateFileRange image rest virtualAddress length

def dynamicBytes (image : Octets) (range : Nat × Nat) : Octets :=
  (image.drop range.1).take range.2

/-! ## Writing an image

The layouts the reads above rely on, for images given by their parts. -/

def encodeElfHeader (elfType : Nat) (machine : ElfMachine) (entry phoff phnum : Nat) : Octets :=
  elfMagic ++ [elfClass64, elfDataLsb, elfVersionCurrent] ++ List.replicate 9 0 ++
    toLittleEndian 2 elfType ++ toLittleEndian 2 machine.asU16 ++ toLittleEndian 4 1 ++
    toLittleEndian 8 entry ++ toLittleEndian 8 phoff ++ toLittleEndian 8 0 ++
    toLittleEndian 4 0 ++ toLittleEndian 2 64 ++ toLittleEndian 2 elfProgramHeaderLen ++
    toLittleEndian 2 phnum ++ List.replicate 6 0

def encodeProgramHeader (kind : Nat) (segment : ElfLoadSegment) : Octets :=
  toLittleEndian 4 kind ++ toLittleEndian 4 segment.flags ++
    toLittleEndian 8 segment.fileOffset ++ toLittleEndian 8 segment.virtualAddress ++
    toLittleEndian 8 segment.virtualAddress ++ toLittleEndian 8 segment.fileSize ++
    toLittleEndian 8 segment.memorySize ++ toLittleEndian 8 pageSizeBytes

/-- A library that is its headers, with the given segments. -/
def encodeLibrary (segments : List ElfLoadSegment) : Octets :=
  encodeElfHeader elfTypeDyn .x86_64 0 64 segments.length ++
    segments.flatMap (encodeProgramHeader elfSegmentLoad)

def encodeDynamicEntry (tag value : Nat) : Octets :=
  toLittleEndian 8 tag ++ toLittleEndian 8 value

end ServiceOS.User
