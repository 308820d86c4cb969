import ServiceOS.User.FlatImage
import ServiceOS.User.Mapper
import ServiceOS.User.Symbols

/-! # The image loader

`user/loader.rs`: loading a flat or an ELF image with its companions into a new
address space, and the relocation of what was loaded. -/

namespace ServiceOS.User

open Memory Word ByteString

/-- A word that relocation stored for the virtual address `target`, and the
physical address it was stored at. -/
structure RelocationWrite where
  target : Nat
  value : Nat
  address : Nat
deriving DecidableEq

/-- What loading works on. The bytes of a frame that holds a page table are the
mapper's and not tracked. -/
structure LoadState (Space : Type) where
  frames : FrameSystem
  space : Space
  memory : Nat → UInt8
  /-- The words stored by relocation, newest first. The code keeps no such record. -/
  relocated : List RelocationWrite

abbrev Load (Space Answer : Type) : Type := Fallible (LoadState Space) LoadError Answer

/-! ## Pages -/

def allocateZeroedFrame : Load Space Nat := fun state =>
  match state.frames.allocate with
  | (none, frames) => (.error (.error .frameExhausted), { state with frames := frames })
  | (some frame, frames) =>
    (.ok frame.base, { state with
      frames := frames
      memory := store state.memory frame.base (List.replicate pageSizeBytes 0) })

def copyIntoFrame (frameBase : Nat) (bytes : Octets) : Load Space Unit := fun state =>
  (.ok (), { state with memory := store state.memory frameBase bytes })

def pageOf (payload : Octets) (index : Nat) : Octets :=
  (payload.drop (index * pageSizeBytes)).take pageSizeBytes

/-- A frame filled with a page of the payload. Past the payload's end there is
nothing to copy. -/
def fillPage (payload : Octets) (index : Nat) : Load Space Nat := do
  let frame ← allocateZeroedFrame
  copyIntoFrame frame (pageOf payload index)
  return frame

variable (mapper : UserPageMapper Space)

def mapPage (page frame : Nat) (flags : MappingFlags) : Load Space Unit := fun state =>
  match mapper.mapPage state.space page frame flags state.frames with
  | (.error error, space, frames) =>
    (.error (.error (.mapping error)), { state with space := space, frames := frames })
  | (.ok _, space, frames) => (.ok (), { state with space := space, frames := frames })

/-- One round of the page loops: a page in a frame of its own. -/
def loadPage (page : Nat) (payload : Octets) (index : Nat)
    (flags : MappingFlags) : Load Space Nat := do
  let frame ← fillPage payload index
  mapPage mapper page frame flags
  return frame

/-- The page loops: `count` pages from `index` on. -/
def loadPages (start : Nat) (payload : Octets)
    (flags : Nat → MappingFlags) : (index count : Nat) → Load Space (List Nat)
  | _, 0 => pure []
  | index, count + 1 => do
    let frame ← loadPage mapper (wrappingAdd start (index * pageSizeBytes)) payload index
      (flags index)
    let frames ← loadPages start payload flags (index + 1) count
    return frame :: frames

def stackFlags : MappingFlags := ⟨true, false, true⟩

def loadStack (bottom : Nat) : Load Space (List Nat) :=
  loadPages mapper bottom [] (fun _ => stackFlags) 0 userStackPages

/-! ## Relocation -/

structure MappedLoadSegment where
  virtualStart : Nat
  memorySize : Nat
  frameBase : Nat

/-- A segment is remembered by its first frame. -/
def MappedLoadSegment.ofFrames (virtualStart : Nat) (frames : List Nat) :
    Option MappedLoadSegment :=
  frames.head?.map fun frameBase => ⟨virtualStart, frames.length * pageSizeBytes, frameBase⟩

def MappedLoadSegment.Holds (segment : MappedLoadSegment) (target : Nat) : Prop :=
  segment.virtualStart ≤ target ∧ target - segment.virtualStart + 8 ≤ segment.memorySize
deriving Decidable

def storeWord (target value address : Nat) : Load Space Unit := fun state =>
  (.ok (), { state with
    memory := store state.memory address (toLittleEndian 8 value)
    relocated := ⟨target, value, address⟩ :: state.relocated })

def unsupportedRelocation {Answer : Type} : Load Space Answer :=
  liftM (.error .unsupportedRelocation : Except LoadError Answer)

/-- The word is stored at its distance from the segment's first frame. -/
def writeMappedWord (segments : List MappedLoadSegment) (target value : Nat) : Load Space Unit :=
  match segments.find? fun segment => segment.Holds target with
  | some segment =>
    storeWord target value (segment.frameBase + (target - segment.virtualStart))
  | none => unsupportedRelocation

def elfRelocGlobDat : Nat := 6
def elfRelocJumpSlot : Nat := 7
def elfRelocRelative : Nat := 8

structure PltLatchEntry where
  gotAddress : Nat
  resolvedValue : Nat
  symbolIndex : Nat

/-- One entry of a relocation table: the word to store and, for an entry that
names a symbol, the symbol. -/
structure Relocation where
  target : Nat
  value : Nat
  symbolIndex : Option Nat

def resolveSymbol (table : ElfSymbolTable) (loadBase : Nat) (space : SymbolNamespace)
    (symbolIndex : Nat) : Except LoadError Nat := do
  ensure (symbolIndex < table.symbolCount) .unsupportedRelocation
  let symbol ← readSymbolEntry table.symbols symbolIndex
  let name ← symbolNameBytes table.strings symbol.nameOffset
  if symbol.shndx ≠ shnUndef then
    return wrappingAdd loadBase symbol.value
  else
    match space.lookup name with
    | some address => return address
    | none =>
      if symbol.binding = stbWeak then return 0
      else .error (.unresolvedSymbol (name.take 32))

def decodeRelocation (relaTable : Octets) (loadBase : Nat) (consumer : Option ElfSymbolTable)
    (space : SymbolNamespace) (entryIndex : Nat) : Except LoadError Relocation := do
  let base := entryIndex * elfRelaEntryLen
  let offset ← readU64Le relaTable base
  let info ← readU64Le relaTable (base + 8)
  let addend ← readU64Le relaTable (base + 16)
  let relocType := info % 2 ^ 32
  let symbolIndex := info / 2 ^ 32
  if relocType = elfRelocRelative then
    return ⟨wrappingAdd offset loadBase, wrappingAdd loadBase addend, none⟩
  else if relocType = elfRelocGlobDat ∨ relocType = elfRelocJumpSlot then do
    let table ← okOr consumer .unsupportedRelocation
    let value ← resolveSymbol table loadBase space symbolIndex
    return ⟨wrappingAdd offset loadBase, value, some symbolIndex⟩
  else
    .error .unsupportedRelocation

def Relocation.latch (relocation : Relocation) : List PltLatchEntry :=
  relocation.symbolIndex.toList.map fun symbolIndex =>
    ⟨relocation.target, relocation.value, symbolIndex⟩

/-- The loop of `apply_dynamic_relocations`, with the bound slots it records. -/
def applyEntries (write : Nat → Nat → Load Space Unit)
    (decode : Nat → Except LoadError Relocation) : List Nat → Load Space (List PltLatchEntry)
  | [] => pure []
  | entryIndex :: rest => do
    let relocation ← decode entryIndex
    write relocation.target relocation.value
    let latched ← applyEntries write decode rest
    return relocation.latch ++ latched

def applyDynamicRelocations (write : Nat → Nat → Load Space Unit) (relaTable : Octets)
    (loadBase : Nat) (consumer : Option ElfSymbolTable) (space : SymbolNamespace) :
    Load Space (List PltLatchEntry) := do
  ensure (relaTable.length % elfRelaEntryLen = 0) .unsupportedHeader
  applyEntries write (decodeRelocation relaTable loadBase consumer space)
    (List.range (relaTable.length / elfRelaEntryLen))

structure LinkedImage where
  image : Octets
  loads : List ElfLoadSegment
  loadBase : Nat
  info : ElfDynamicInfo
  tables : Option ElfSymbolTable
deriving DecidableEq

def relocateTables (write : Nat → Nat → Load Space Unit) (linked : LinkedImage)
    (space : SymbolNamespace) : List (Nat × Nat) → Load Space Unit
  | [] => pure ()
  | (tableVaddr, tableSize) :: rest => do
    let bytes ← okOr (locateFileRange linked.image linked.loads tableVaddr tableSize)
      .unsupportedRelocation
    let _ ← applyDynamicRelocations write bytes linked.loadBase linked.tables space
    relocateTables write linked space rest

def applyRelocations (write : Nat → Nat → Load Space Unit) (linked : LinkedImage)
    (space : SymbolNamespace) : Load Space Unit :=
  relocateTables write linked space linked.info.relocationTables

/-! ## Companions -/

structure PendingElfModule where
  linked : LinkedImage
  mapped : List MappedLoadSegment

def PendingElfModule.applyRelocations (module : PendingElfModule) (space : SymbolNamespace) :
    Load Space Unit :=
  User.applyRelocations (writeMappedWord module.mapped) module.linked space

/-- Any error of a companion's tables or header makes the companion invalid. -/
def orDependencyInvalid {Answer : Type} (computed : Except LoadError Answer) :
    Except LoadError Answer :=
  computed.mapError fun _ => .dependencyInvalid

def readDynamic (image : Octets) (loads : List ElfLoadSegment)
    (dynamicRange : Option (Nat × Nat)) :
    Except LoadError (ElfDynamicInfo × Option ElfSymbolTable) :=
  match dynamicRange with
  | none => .ok (.empty, none)
  | some range => do
    let info ← parseDynamicInfo (dynamicBytes image range)
    let tables ← resolveSymbolTables image loads info
    return (info, tables)

variable (fuel : Nat) (machine : ElfMachine) (header : FlatImageHeader)

/-- The namespace after the exports of an image, if it declares symbols. -/
def exportNames (tables : Option ElfSymbolTable) (loadBase : Nat)
    (space : SymbolNamespace) : Except (Stop LoadError) SymbolNamespace :=
  match tables with
  | none => .ok space
  | some table =>
    match registerModuleExports fuel table loadBase space with
    | (.error stop, _) => .error stop
    | (.ok _, space) => .ok space

def exportInto (tables : Option ElfSymbolTable) (loadBase : Nat)
    (space : SymbolNamespace) : Load Space SymbolNamespace :=
  Fallible.lift (exportNames fuel tables loadBase space)

def mapDependencySegments (bytes : Octets) (base : Nat) :
    List ElfLoadSegment → Load Space (List MappedLoadSegment)
  | [] => pure []
  | segment :: rest => do
    let virtualStart ← okOr (checkedAdd base segment.virtualAddress) .dependencyInvalid
    let payload ← okOr (segment.payload bytes) .dependencyInvalid
    let frames ← loadPages mapper virtualStart payload (fun _ => segment.mappingFlags) 0
      segment.pages
    let mapped ← mapDependencySegments bytes base rest
    return (MappedLoadSegment.ofFrames virtualStart frames).toList ++ mapped

def mapElfDependency (bytes : Octets) (plan : ElfDependencyPlan) (base : Nat)
    (space : SymbolNamespace) : Load Space (PendingElfModule × SymbolNamespace) := do
  let mapped ← mapDependencySegments mapper bytes base plan.loads
  let (info, tables) ← orDependencyInvalid (readDynamic bytes plan.loads plan.dynamicRange)
  let space ← exportInto fuel tables base space
  return (⟨⟨bytes, plan.loads, base, info, tables⟩, mapped⟩, space)

/-- Where a companion goes: at its hint, or at the next free address. -/
def FlatDependencyRecord.base (dependency : FlatDependencyRecord) (imageBase cursor : Nat) : Nat :=
  if dependency.baseOffsetHint ≠ 0 then wrappingAdd dependency.baseOffsetHint imageBase else cursor

/-- A companion of `size` bytes at `base` lies in the window and below the stack. -/
def DependencyFits (base size : Nat) : Prop :=
  base % pageSizeBytes = 0 ∧ imageWindowContains base size ∧
    base + size ≤ stackBottom header.userStackTop
deriving Decidable

def loadElfCompanion (base : Nat) (bytes : Octets) (space : SymbolNamespace) :
    Load Space (Nat × List PendingElfModule × SymbolNamespace) := do
  let plan ← planElfDependency bytes machine
  ensure (DependencyFits header base plan.span) .dependencyInvalid
  let (module, space) ← mapElfDependency mapper fuel bytes plan base space
  return (plan.span, [module], space)

def FlatImageHeader.payload (image : Octets) : Octets :=
  (image.drop header.headerLen).take header.fileSize

/-- A companion's page is writable from the writable offset on. -/
def FlatImageHeader.companionFlags (index : Nat) : MappingFlags :=
  ⟨header.writableOffset ≤ index * pageSizeBytes,
    index * pageSizeBytes < header.executableLimit, true⟩

def loadFlatCompanion (base : Nat) (bytes : Octets) : Load Space Nat := do
  let companion ← orDependencyInvalid (parseFlatImage bytes)
  ensure (DependencyFits header base companion.memorySize) .dependencyInvalid
  let _ ← loadPages mapper base (companion.payload bytes) companion.companionFlags 0
    (divCeil companion.memorySize pageSizeBytes)
  return companion.memorySize

/-- One companion: the bytes it takes up, the module to relocate, the namespace. -/
def loadCompanion (base : Nat) (bytes : Octets) (space : SymbolNamespace) :
    Load Space (Nat × List PendingElfModule × SymbolNamespace) :=
  if isElf64Image bytes then
    loadElfCompanion mapper fuel machine header base bytes space
  else do
    let size ← loadFlatCompanion mapper header base bytes
    return (size, [], space)

abbrev ImageResolver : Type := Nat → Option Octets

structure Companions where
  libraries : List LoadedLibraryRecord
  modules : List PendingElfModule
  space : SymbolNamespace

def loadCompanions (fuel : Nat) (machine : ElfMachine)
    (resolve : ImageResolver) (header : FlatImageHeader) :
    List FlatDependencyRecord → (cursor : Nat) → Companions → Load Space Companions
  | [], _, loaded => pure loaded
  | dependency :: rest, cursor, loaded => do
    let bytes ← okOr (resolve dependency.imageId) .dependencyUnavailable
    let base := dependency.base header.imageBase cursor
    let (mappedBytes, modules, space) ←
      loadCompanion mapper fuel machine header base bytes loaded.space
    loadCompanions fuel machine resolve header rest
      (alignUpU64 (base + mappedBytes) pageSizeBytes)
      ⟨loaded.libraries ++ [⟨dependency.imageId, base, mappedBytes⟩],
        loaded.modules ++ modules, space⟩

variable (resolver : Option ImageResolver)

def loadDependencies (header : FlatImageHeader) : Load Space Companions :=
  if header.dependencies = [] then
    pure ⟨[], [], .empty⟩
  else do
    let resolve ← okOr resolver .dependencyUnavailable
    loadCompanions mapper fuel machine resolve header header.dependencies
      (alignUpU64 (header.imageBase + header.memorySize) pageSizeBytes) ⟨[], [], .empty⟩

def relocateModules (space : SymbolNamespace) : List PendingElfModule → Load Space Unit
  | [] => pure ()
  | module :: rest => do
    module.applyRelocations space
    relocateModules space rest

/-! ## Flat images -/

/-- An image's page is writable when its end passes the writable offset. -/
def FlatImageHeader.pageFlags (index : Nat) : MappingFlags :=
  ⟨header.writableOffset < index * pageSizeBytes + pageSizeBytes,
    index * pageSizeBytes < header.executableLimit, true⟩

def loadFlatPages (image : Octets) : Load Space (List Nat) :=
  loadPages mapper header.imageBase (header.payload image) header.pageFlags 0
    (divCeil header.memorySize pageSizeBytes)

def loadFlatImage (image : Octets) : Load Space LoadedUserImage := do
  let header ← parseFlatImage image
  let _ ← loadFlatPages mapper header image
  let companions ← loadDependencies mapper fuel machine resolver header
  relocateModules companions.space companions.modules
  let _ ← loadStack mapper (stackBottom header.userStackTop)
  return {
    entryPoint := wrappingAdd header.imageBase header.entryOffset
    imageBase := header.imageBase
    fileSize := header.fileSize
    mappedImageBytes := header.memorySize
    userStackTop := header.userStackTop
    mappedStackBytes := userStackPages * pageSizeBytes
    stackExecutable := false
    libraries := companions.libraries }

/-! ## ELF images -/

structure ElfPlan where
  positionIndependent : Bool
  entry : Nat
  headers : ProgramHeaders
  loadBase : Nat

def choosePieLoadBase (highestImageEnd stackBottom : Nat) : Except LoadError Nat := do
  ensure (highestImageEnd ≠ 0) .unsupportedHeader
  ensure (highestImageEnd ≤ stackBottom - userImageWindowStart) .unsupportedHeader
  return userImageWindowStart

def chooseLoadBase (positionIndependent : Bool) (loads : List ElfLoadSegment) (stackBottom : Nat) :
    Except LoadError Nat :=
  if positionIndependent then choosePieLoadBase (spanHigh loads) stackBottom else .ok 0

def readElfType (elfType : Nat) : Except LoadError Bool :=
  if elfType = elfTypeExec then .ok false
  else if elfType = elfTypeDyn then .ok true
  else .error .unsupportedAbi

def checkLoads (image : Octets) : List ElfLoadSegment → Except LoadError Unit
  | [] => .ok ()
  | segment :: rest => do
    ensure (segment.virtualAddress % pageSizeBytes = 0 ∧ segment.fileSize ≤ segment.memorySize)
      .addressAlignment
    ensure (segment.payload image).isSome .truncated
    checkLoads image rest

def planElf64Image (image : Octets) (machine : ElfMachine) (stackBottom : Nat) :
    Except LoadError ElfPlan := do
  ensure (64 ≤ image.length) .truncated
  ensure (isElf64Image image) .invalidMagic
  ensure (elfIdentSupported image) .unsupportedAbi
  let elfType ← readU16Le image 16
  let imageMachine ← readU16Le image 18
  let entry ← readU64Le image 24
  let phoff ← readU64Le image 32
  let phentsize ← readU16Le image 54
  let phnum ← readU16Le image 56
  ensure (imageMachine = machine.asU16) .unsupportedMachine
  let positionIndependent ← readElfType elfType
  ensure (phentsize = elfProgramHeaderLen ∧ phnum ≠ 0) .unsupportedHeader
  ensure (imageWindowContains stackBottom (userStackPages * pageSizeBytes)) .unsupportedHeader
  let headers ← ProgramHeaders.read true image phoff phnum
  checkInterpreterPolicy image headers.interpRange
  ensure (headers.loads ≠ []) .unsupportedHeader
  checkLoads image headers.loads
  let loadBase ← chooseLoadBase positionIndependent headers.loads stackBottom
  return ⟨positionIndependent, entry, headers, loadBase⟩

/-- An address of the image, moved to where a position-independent one is loaded. -/
def ElfPlan.rebase (plan : ElfPlan) (address : Nat) : Except LoadError Nat :=
  if plan.positionIndependent then okOr (checkedAdd plan.loadBase address) .unsupportedHeader
  else .ok address

def ElfPlan.virtualStart (plan : ElfPlan) (stackBottom : Nat) (segment : ElfLoadSegment) :
    Except LoadError Nat := do
  let virtualStart ← plan.rebase segment.virtualAddress
  ensure (imageWindowContains virtualStart segment.memorySize) .unsupportedHeader
  ensure (plan.positionIndependent → virtualStart + segment.memorySize ≤ stackBottom)
    .unsupportedHeader
  return virtualStart

/-- The segments of a main image. One without pages leaves an empty record; the
span of addresses is collected on the way. -/
def mapImageSegments (image : Octets) (plan : ElfPlan)
    (stackBottom : Nat) : List ElfLoadSegment → Load Space (List (MappedLoadSegment × Nat × Nat))
  | [] => pure []
  | segment :: rest => do
    let virtualStart ← plan.virtualStart stackBottom segment
    let payload ← okOr (segment.payload image) .truncated
    let frames ← loadPages mapper virtualStart payload (fun _ => segment.mappingFlags) 0
      segment.pages
    let mapped ← mapImageSegments image plan stackBottom rest
    return ((MappedLoadSegment.ofFrames virtualStart frames).getD ⟨0, 0, 0⟩,
      virtualStart, virtualStart + segment.memorySize) :: mapped

def linkImage (image : Octets) (plan : ElfPlan)
    (mapped : List MappedLoadSegment) : Load Space Unit :=
  match plan.headers.dynamicRange with
  | none => pure ()
  | some range => do
    let (info, tables) ← readDynamic image plan.headers.loads (some range)
    let space ← exportInto fuel tables plan.loadBase .empty
    applyRelocations (writeMappedWord mapped)
      ⟨image, plan.headers.loads, plan.loadBase, info, tables⟩ space

def loadElf64Image (userStackTop : Nat) (image : Octets) : Load Space LoadedUserImage := do
  let bottom := wrappingSub userStackTop (userStackPages * pageSizeBytes)
  let plan ← planElf64Image image machine bottom
  let mapped ← mapImageSegments mapper image plan bottom plan.headers.loads
  linkImage fuel image plan (mapped.map Prod.fst)
  let entryPoint ← plan.rebase plan.entry
  let _ ← loadStack mapper bottom
  let imageBase := mapped.foldl (fun low (_, start, _) => min low start) (limit - 1)
  let imageEnd := mapped.foldl (fun high (_, _, stop) => max high stop) 0
  return {
    entryPoint := entryPoint
    imageBase := if plan.positionIndependent then plan.loadBase else imageBase
    fileSize := image.length
    mappedImageBytes := imageEnd - imageBase
    userStackTop := userStackTop
    mappedStackBytes := userStackPages * pageSizeBytes
    stackExecutable := plan.headers.gnuStackExecutable
    libraries := [] }

def loadImage (userStackTop : Nat) (image : Octets) : Load Space LoadedUserImage :=
  if image.take flatImageMagic.length = flatImageMagic then
    loadFlatImage mapper fuel machine resolver image
  else if isElf64Image image then
    loadElf64Image mapper fuel machine userStackTop image
  else
    liftM (.error .unsupportedFormat : Except LoadError LoadedUserImage)

/-! ## Address spaces -/

def newUserSpace (kernel : Space) :
    Fallible (LoadState Space) AddressSpacePreparationError Nat := fun state =>
  match state.frames.allocate with
  | (none, frames) =>
    (.error (.error (.mapping .frameAllocationFailed)), { state with frames := frames })
  | (some root, frames) => (.ok root.base, { state with frames := frames, space := kernel })

def preparing {Answer : Type} (code : Load Space Answer) :
    Fallible (LoadState Space) AddressSpacePreparationError Answer := fun state =>
  match code state with
  | (.ok answer, state) => (.ok answer, state)
  | (.error (.error error), state) => (.error (.error (.load error)), state)
  | (.error .outOfFuel, state) => (.error .outOfFuel, state)

def userStackTop : Nat := 0x7fffffff0000

structure PreparedUserAddressSpace where
  pageTableRoot : Nat
  image : LoadedUserImage
deriving DecidableEq

/-- Without a memory manager there is no kernel address space to start from. A
failed load leaves the new tables where they are. -/
def prepareAddressSpace (kernel : Option Space) (image : Octets) :
    Fallible (LoadState Space) AddressSpacePreparationError PreparedUserAddressSpace :=
  match kernel with
  | none => liftM (.error .notInitialized :
      Except AddressSpacePreparationError PreparedUserAddressSpace)
  | some kernel => do
    let root ← newUserSpace kernel
    let loaded ← preparing (loadImage mapper fuel .x86_64 resolver userStackTop image)
    return ⟨root, loaded⟩

/-! ## A machine that has just started -/

/-- `count` usable frames from the second page of memory on, none handed out. -/
def bootFrames (count : Nat) : FrameSystem :=
  .boot [⟨pageSizeBytes, (count + 1) * pageSizeBytes, .usable⟩]
    ⟨[⟨1, count + 1, 1⟩], 0, 0, 0, [], 0, 0⟩

/-- An address space without mappings, and its frames yet to be allocated. -/
def bootLoad (count : Nat) : LoadState FourLevel.Space :=
  ⟨bootFrames count, ⟨Table.empty 3, []⟩, fun _ => 0, []⟩

end ServiceOS.User
