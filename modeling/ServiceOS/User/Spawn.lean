import ServiceOS.Ipc.Delivery
import ServiceOS.Task.Types
import ServiceOS.User.Runtime

/-! # Spawning a service

The handler of `ServiceSpawn` and the spawn of a built-in image in `user/spawn.rs`, from where
the caller's task is known. A handle for the new task is moved out of the caller's capability
space before the spawn and put back if the spawn fails. -/

namespace ServiceOS.User

open Capability CapabilitySpace

inductive SpawnError
  | objectsUnavailable
  | tasksUnavailable
  | memoryUnavailable
  | imageResolverUnavailable
  | imageNotFound
  | archHooksUnavailable
  | addressSpace (error : AddressSpacePreparationError)
  | capability (error : CapabilityError)
  | scheduler (error : Task.SchedulerError)

def mapCapabilityError : CapabilityError → SyscallError
  | .invalidHandle => .notFound
  | .handleSpaceExhausted => .capacityExceeded
  | .rightsViolation _ _ | .duplicateForbidden | .transferForbidden
  | .requestedRightsExceedSource => .permissionDenied

/-- Errors of a load are reported as those of loading a library. -/
def mapSpawnError : SpawnError → SyscallError
  | .imageNotFound => .notFound
  | .capability error => mapCapabilityError error
  | .scheduler _ => .busy
  | .addressSpace (.load error) => mapLibraryLoadError error
  | .addressSpace (.mapping .frameAllocationFailed) => .capacityExceeded
  | .addressSpace (.mapping _) => .busy
  | .addressSpace .notInitialized | .objectsUnavailable | .tasksUnavailable | .memoryUnavailable
  | .imageResolverUnavailable | .archHooksUnavailable => .notInitialized

/-- What the rest of the kernel answers. It does not touch the caller's capabilities. -/
structure SpawnKernel where
  kind : ObjectId → ObjectKind
  resolver : Option ImageResolver
  (objects tasks memory hooks : Bool)
  prepareAddressSpace : Octets → Except AddressSpacePreparationError LoadedUserImage
  buildTaskExportSeed : Octets → LoadedUserImage → Except LoadError SymbolNamespace
  /-- The object of the new task. -/
  createTask : ObjectId
  registerThread : Except Task.SchedulerError Unit
  makeRunnable : Except Task.SchedulerError Unit

section

variable (kernel : SpawnKernel)

def childSpace : Option PreparedTransfer → Except SpawnError CapabilitySpace
  | none => .ok .new
  | some transfer =>
    match new.acceptTransfer transfer with
    | (.ok _, child) => .ok child
    | (.error error, _) => .error (.capability error)

def spawnImageBytes (image : Octets) (bootstrapTransfer : Option PreparedTransfer) :
    Except SpawnError (ObjectId × CapabilitySpace) := do
  unless kernel.objects do throw .objectsUnavailable
  unless kernel.tasks do throw .tasksUnavailable
  unless kernel.memory do throw .memoryUnavailable
  unless kernel.hooks do throw .archHooksUnavailable
  let loaded ← (kernel.prepareAddressSpace image).mapError .addressSpace
  let _ ← (kernel.buildTaskExportSeed image loaded).mapError (.addressSpace ∘ .load)
  let child ← childSpace bootstrapTransfer
  kernel.registerThread.mapError .scheduler
  kernel.makeRunnable.mapError .scheduler
  return (kernel.createTask, child)

def spawnBuiltinTask (imageId : Nat) (bootstrapTransfer : Option PreparedTransfer) :
    Except SpawnError (ObjectId × CapabilitySpace) :=
  match kernel.resolver with
  | none => .error .imageResolverUnavailable
  | some resolve =>
    match resolve imageId with
    | none => .error .imageNotFound
    | some image => spawnImageBytes kernel image bootstrapTransfer

/-- Handles and image numbers are the low 32 bits of an argument. -/
def low (argument : UInt64) : Nat := argument.toUInt32.toNat

/-- Move the named handle out of the space. The argument `0` names none. -/
def prepareBootstrap (argument : UInt64) (space : CapabilitySpace) :
    Except SyscallError (Option PreparedTransfer) × CapabilitySpace :=
  if argument = 0 then (.ok none, space)
  else
    match space.resolveDescriptor (low argument) with
    | none => (.error .notFound, space)
    | some descriptor =>
      match space.prepareTransfer (low argument) descriptor.rights .move with
      | (.ok transfer, space) => (.ok (some transfer), space)
      | (.error error, space) => (.error (mapCapabilityError error), space)

/-- The handler up to the new task, for which the caller has no handle yet. -/
def startService (imageId authority bootstrap : UInt64) (space : CapabilitySpace) :
    Except SyscallError ObjectId × CapabilitySpace :=
  match space.resolve (low authority) .bootstrap with
  | .error error => (.error (mapCapabilityError error), space)
  | .ok view =>
    if kernel.kind view.object ≠ .bootstrapCapability then (.error .invalidArgument, space)
    else
      match prepareBootstrap bootstrap space with
      | (.error error, space) => (.error error, space)
      | (.ok transfer, space) =>
        match spawnBuiltinTask kernel (low imageId) transfer with
        | .ok (task, _) => (.ok task, space)
        | .error error =>
          (.error (mapSpawnError error),
            transfer.elim space fun transfer => (space.rollbackMoved transfer).2)

def handleServiceSpawn (imageId authority bootstrap : UInt64) (space : CapabilitySpace) :
    Except SyscallError CapabilityHandle × CapabilitySpace :=
  match startService kernel imageId authority bootstrap space with
  | (.error error, space) => (.error error, space)
  | (.ok task, space) =>
    match space.install task .task none with
    | (.ok handle, space) => (.ok handle, space)
    | (.error error, space) => (.error (mapCapabilityError error), space)

end

section

/-- Rolling back what was prepared gives the caller's space again. -/
theorem prepareBootstrap_restores (call : prepareBootstrap bootstrap space = (answer, after)) :
    (∃ error, answer = .error error ∧ after = space) ∨
      ∃ transfer, answer = .ok transfer ∧ Ipc.Restores space after transfer.toList ∧
        (after = space ↔ bootstrap = 0) := by
  rw [prepareBootstrap] at call
  split at call
  next none =>
    cases call
    exact .inr ⟨.none, rfl, .refl space, iff_of_true rfl none⟩
  rename_i named
  split at call
  · cases call
    exact .inl ⟨_, rfl, rfl⟩
  split at call
  next transfer moved prepared =>
    cases call
    refine .inr ⟨some transfer, rfl, ?_, iff_of_false ?_ named⟩
    · exact (Ipc.Restores.refl space).prepareTransfer
        (show space.prepareTransfer (Ipc.Attachment.mk _ _ .move).handle _ _ = _ from prepared)
    rcases prepareTransfer_cases prepared with
      ⟨entry, held, -, -, -, rfl⟩ | ⟨_, -, -, copied, -⟩ | ⟨⟨_, refused⟩, -⟩
    · intro same
      rw [← same] at held
      simp [removeEntry] at held
    · cases copied
    · cases refused
  rename_i refused
  cases call
  rcases prepareTransfer_cases refused with
    ⟨_, -, -, -, prepared, -⟩ | ⟨_, -, -, -, prepared, -⟩ | ⟨-, unchanged⟩
  · cases prepared
  · cases prepared
  · exact .inl ⟨_, rfl, unchanged⟩

theorem startService_restores
    (call : startService kernel imageId authority bootstrap space = (answer, after)) :
    (∃ error, answer = .error error ∧ after = space) ∨
      ∃ task, answer = .ok task ∧ after.nextHandle = space.nextHandle ∧
        (after = space ↔ bootstrap = 0) := by
  rw [startService] at call
  split at call
  · cases call
    exact .inl ⟨_, rfl, rfl⟩
  split at call
  · cases call
    exact .inl ⟨_, rfl, rfl⟩
  rcases prepared : prepareBootstrap bootstrap space with ⟨transfer, moved⟩
  rw [prepared] at call
  rcases prepareBootstrap_restores prepared with
    ⟨error, rfl, rfl⟩ | ⟨transfer, rfl, restores, moves⟩
  · cases call
    exact .inl ⟨_, rfl, rfl⟩
  dsimp only at call
  split at call
  · cases call
    exact .inr ⟨_, rfl, restores.nextHandle_eq, moves⟩
  cases call
  refine .inl ⟨_, rfl, ?_⟩
  cases transfer with
  | none => exact restores.eq_of_nil
  | some => exact restores.rollbackMoved.eq_of_nil

/-- A spawn that fails leaves the caller's space as it was, unless a service was started with a
moved handle and no handle is left for its task. Then the moved handle is lost. -/
theorem failed_spawn_restores_caller_iff (kernel : SpawnKernel)
    (imageId authority bootstrap : UInt64) (space : CapabilitySpace) :
    (∀ error after, handleServiceSpawn kernel imageId authority bootstrap space =
        (.error error, after) → after = space) ↔
      ((startService kernel imageId authority bootstrap space).1.isOk →
        bootstrap = 0 ∨ space.CanIssue) := by
  rw [handleServiceSpawn]
  rcases started : startService kernel imageId authority bootstrap space with ⟨answer, between⟩
  rcases startService_restores started with ⟨error, rfl, rfl⟩ | ⟨task, rfl, counter, moves⟩
  · constructor
    · intro _ spawned
      cases spawned
    · intro _ _ _ failed
      cases failed
      rfl
  dsimp only
  rcases installed : between.install task .task none with ⟨answer, next⟩
  rcases install_cases installed with ⟨possible, rfl, -⟩ | ⟨exhausted, rfl, rfl⟩
  · rw [CapabilitySpace.CanIssue, counter] at possible
    constructor
    · exact fun _ _ => .inr possible
    · intro _ _ _ failed
      cases failed
  · rw [CapabilitySpace.CanIssue, counter] at exhausted
    constructor
    · exact fun kept _ => .inl (moves.mp (kept _ _ rfl))
    · intro room _ _ failed
      cases failed
      exact moves.mpr ((room rfl).resolve_right exhausted)

end

section

def spawnable : SpawnKernel where
  kind object := if object = 1 then .bootstrapCapability else .channelEndpoint
  resolver := some fun imageId => if imageId = 7 then some [] else none
  objects := true
  tasks := true
  memory := true
  hooks := true
  prepareAddressSpace _ := .ok ⟨0, 0, 0, 0, 0, 0, false, []⟩
  buildTaskExportSeed _ _ := .ok .empty
  createTask := 3
  registerThread := .ok ()
  makeRunnable := .ok ()

/-- The authority to spawn at handle 1 and a channel endpoint at handle 2. -/
def callerSpace (nextHandle : Nat) : CapabilitySpace :=
  { (new.issue ⟨1, .bootstrap, none⟩).issue ⟨2, .channelEndpoint, none⟩ with
    nextHandle := nextHandle }

/-- The service is started with the endpoint, there is no handle for its task, and the caller
has lost the endpoint. -/
theorem failed_spawn_takes_handle :
    ∃ after, handleServiceSpawn spawnable 7 1 2 (callerSpace 4294967295) =
        (.error .capacityExceeded, after) ∧
      (callerSpace 4294967295).entries[2]? ≠ none ∧ after.entries[2]? = none :=
  ⟨_, rfl, by decide +kernel, by decide +kernel⟩

end

end ServiceOS.User
