import ServiceOS.Memory.Phys

/-! # Choosing a victim when memory runs out

The policy of `memory/oom.rs`. -/

namespace ServiceOS.Memory

abbrev TaskId := Nat

def oomExitCode : Nat := 0x00004F4F4D00

def protectedTaskNames : List String := ["root-manager", "console-service", "shell-service"]

structure VictimCandidate where
  task : TaskId
  name : Option String
  footprintFrames : Nat
  reclaimable : Bool

inductive OomError
  | noRecoveryAvailable
  | protectedSetExhausted

namespace VictimCandidate

def isProtected (candidate : VictimCandidate) : Bool :=
  !candidate.reclaimable || candidate.name.any (protectedTaskNames.contains ·)

/-- By footprint; among equals the lower task number is the greater. -/
def order (first second : VictimCandidate) : Ordering :=
  (compare first.footprintFrames second.footprintFrames).then (compare second.task first.task)

end VictimCandidate

/-- The greatest candidate that is not protected; the last of several greatest,
as `max_by` has it. -/
def selectVictim (candidates : List VictimCandidate) : Option VictimCandidate :=
  match candidates.filter (!·.isProtected) with
  | [] => none
  | first :: rest =>
    some (rest.foldl (fun best candidate =>
      if best.order candidate = .gt then best else candidate) first)

end ServiceOS.Memory
