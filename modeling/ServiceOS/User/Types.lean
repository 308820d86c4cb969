import ServiceOS.Foundation.ByteString
import ServiceOS.Foundation.Fallible
import ServiceOS.Foundation.Word
import ServiceOS.Memory.PageTable

/-! # Images and load errors

The records of `user/types.rs` the loader works with. Addresses, sizes and
offsets are numbers; a fixed array with a count is a list. -/

namespace ServiceOS.User

open Memory Word ByteString

-- The heap has operations of these names; images are measured with the words' own.
export Word (wrappingAdd wrappingSub saturatingAdd)

def flatImageMagic : Octets := [0x53, 0x4f, 0x53, 0x55, 0x49, 0x4d, 0x47, 0x00]
def flatImageHeaderLen : Nat := 72
def flatImageHeaderLenV2 : Nat := 280
def userStackPages : Nat := 256
def kernelAbiVersion : Nat := 1
def maxFlatDependencies : Nat := 4
def maxFlatSegments : Nat := 4

namespace FlatImagePolicy

def requireStackGuard : Nat := 1
def noAslr : Nat := 2
def segmentTable : Nat := 4
def validMask : Nat := requireStackGuard ||| noAslr ||| segmentTable

end FlatImagePolicy

def userSpaceEnd : Nat := 0x800000000000
def userImageWindowStart : Nat := 0x400000000000

inductive LoadError
  | truncated
  | invalidMagic
  | unsupportedFormat
  | unsupportedAbi
  | unsupportedHeader
  | unsupportedMachine
  | unsupportedRelocation
  | addressAlignment
  | frameExhausted
  | kernelAbiTooNew
  | dependencyUnavailable
  | dependencyInvalid
  /-- At most the first 32 bytes of the symbol's name. -/
  | unresolvedSymbol (name : Octets)
  | symbolSpaceExhausted
  | interpreterUnsupported
  | mapping (error : MappingError)
deriving DecidableEq

inductive AddressSpacePreparationError
  | mapping (error : MappingError)
  | load (error : LoadError)
  | notInitialized
deriving DecidableEq

structure MappingFlags where
  writable : Bool
  executable : Bool
  userAccessible : Bool
deriving DecidableEq

structure FlatDependencyRecord where
  imageId : Nat
  baseOffsetHint : Nat
deriving DecidableEq

structure FlatSegmentRecord where
  virtualOffset : Nat
  fileOffset : Nat
  fileSize : Nat
  memorySize : Nat
  executable : Bool
  writable : Bool
deriving DecidableEq

structure FlatImageHeader where
  abiVersion : Nat
  headerLen : Nat
  imageBase : Nat
  entryOffset : Nat
  fileSize : Nat
  executableLimit : Nat
  writableOffset : Nat
  memorySize : Nat
  userStackTop : Nat
  formatFlags : Nat
  minKernelAbi : Nat
  dependencies : List FlatDependencyRecord
  segments : List FlatSegmentRecord
deriving DecidableEq

structure LoadedLibraryRecord where
  imageId : Nat
  base : Nat
  mappedBytes : Nat
deriving DecidableEq

structure LoadedUserImage where
  entryPoint : Nat
  imageBase : Nat
  fileSize : Nat
  mappedImageBytes : Nat
  userStackTop : Nat
  mappedStackBytes : Nat
  stackExecutable : Bool
  libraries : List LoadedLibraryRecord
deriving DecidableEq

inductive ElfMachine
  | x86_64
  | aarch64

def ElfMachine.asU16 : ElfMachine → Nat
  | .x86_64 => 62
  | .aarch64 => 183

/-! ## Checks and reads -/

def ensure (condition : Prop) [Decidable condition] (error : LoadError) : Except LoadError Unit :=
  if condition then .ok () else .error error

def okOr {Answer : Type} (found : Option Answer) (error : LoadError) : Except LoadError Answer :=
  match found with
  | some answer => .ok answer
  | none => .error error

/-- A range that ends past the word size ends past the image as well, so the
sum of its bounds needs no wrapping. -/
def readLe (width : Nat) (image : Octets) (offset : Nat) : Except LoadError Nat :=
  (okOr (slice image offset width) .truncated).map fromLittleEndian

def readU16Le : Octets → Nat → Except LoadError Nat := readLe 2
def readU32Le : Octets → Nat → Except LoadError Nat := readLe 4
def readU64Le : Octets → Nat → Except LoadError Nat := readLe 8

def imageWindowContains (start length : Nat) : Prop :=
  userImageWindowStart ≤ start ∧ start < userSpaceEnd ∧ start + length ≤ userSpaceEnd
deriving Decidable

def alignUpU64 (value alignment : Nat) : Nat :=
  wrappingMul (divCeil value alignment) alignment

/-! ## Inverting a successful check -/

theorem bind_eq_ok {next : Answer → Except LoadError Result} :
    (computed >>= next) = .ok result ↔ ∃ answer, computed = .ok answer ∧
      next answer = .ok result := by
  cases computed with
  | error error | ok answer => simp [bind, Except.bind]

theorem ensure_eq_ok [Decidable condition] : ensure condition error = .ok answer ↔ condition := by
  by_cases holds : condition
  · simp [ensure, holds]
  · simp [ensure, holds]

theorem okOr_eq_ok : okOr found error = .ok answer ↔ found = some answer := by
  cases found with
  | none => simp [okOr]
  | some => simp [okOr]

end ServiceOS.User
