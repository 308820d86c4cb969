import ServiceOS.Memory.Oom
import ServiceOS.Task.Dormancy

/-! # Ending a task for its memory

When no frame is left, `oom_reclaim_victim` ends a task: its threads are marked
dying and the frames charged to it go back to the allocator. The threads stay
where the scheduler has them. -/

namespace ServiceOS.Task

open Std (ExtTreeMap)
open Execution Memory
open TaskSystem (bootCpu)

inductive TaskRole
  | bootstrapRoot
  | systemService
  | driverHost
  | userService
deriving DecidableEq

inductive TaskExitStatus
  | running
  | exited (code : Nat)
  | faulted (code : Nat)

/-- The part of a task that reclaiming reads and sets. -/
structure TaskObject where
  threads : List ThreadId
  exitStatus : TaskExitStatus
  reclaimable : Bool
  chargedFrames : List Nat

namespace TaskObject

def new (role : TaskRole) : TaskObject := ⟨[], .running, role ≠ .bootstrapRoot, []⟩

variable (task : TaskObject)

def attachThread (thread : ThreadId) : TaskObject :=
  if thread ∈ task.threads then task else { task with threads := task.threads ++ [thread] }

def setReclaimable (reclaimable : Bool) : TaskObject :=
  { task with reclaimable := reclaimable }

def chargeFrames (frames : List Nat) : Nat × TaskObject :=
  let chargedFrames := task.chargedFrames ++ frames
  (chargedFrames.length, { task with chargedFrames := chargedFrames })

def footprintFrames : Nat := task.chargedFrames.length

def markOomTerminated : List Nat × TaskObject :=
  (task.chargedFrames, { task with
    exitStatus := .faulted oomExitCode
    reclaimable := false
    chargedFrames := [] })

end TaskObject

/-- The scheduler with the tasks, their threads' owners and the frame
allocator. `killed` records the threads of the tasks that were reclaimed. -/
structure OomSystem where
  tasks : TaskSystem
  objects : ExtTreeMap TaskId TaskObject
  owners : ExtTreeMap ThreadId TaskId
  nextId : Nat
  allocator : EarlyFrameAllocator
  killed : List ThreadId

inductive OomAction
  | schedule (action : TaskAction)
  | createTask (role : TaskRole)
  | createThread (owner : TaskId)
  | dropTask (task : TaskId)
  | setReclaimable (task : TaskId) (reclaimable : Bool)
  | chargeFrames (task : TaskId) (frames : List Nat)
  | allocate
  | free (base : Nat)
  | allocateFrameWithOomPolicy

namespace OomSystem

def boot (allocator : EarlyFrameAllocator) : OomSystem where
  tasks := .boot 3
  objects := (∅ : ExtTreeMap TaskId TaskObject).insert 1
    ((TaskObject.new .bootstrapRoot).attachThread 3)
  owners := (∅ : ExtTreeMap ThreadId TaskId).insert 3 1
  nextId := 4
  allocator := allocator
  killed := []

variable (system : OomSystem)

def trackedThreadOwners : List TaskId :=
  ((system.tasks.scheduler.threads.keys.filterMap (system.owners[·]?)).insertionSort
    (· ≤ ·)).eraseReps

/-- Tasks that are no longer alive are passed over. -/
def oomCandidateScan : List VictimCandidate :=
  system.trackedThreadOwners.filterMap fun owner =>
    system.objects[owner]?.map fun task =>
      ⟨owner, none, task.footprintFrames, task.reclaimable⟩

/-- A thread that is not registered has no state that the scheduler reads. -/
def markDying (scheduler : SchedulerState) (thread : ThreadId) : SchedulerState :=
  if thread ∈ scheduler.threads then scheduler.transitionTo thread .dying none none
  else scheduler

def freeFrames (allocator : EarlyFrameAllocator) (frames : List Nat) : EarlyFrameAllocator :=
  frames.foldl (fun allocator base => (allocator.free4kib base).2) allocator

def oomReclaimVictim (candidate : VictimCandidate) : OomSystem :=
  match system.objects[candidate.task]? with
  | none => system
  | some task =>
    let (frames, marked) := task.markOomTerminated
    { system with
      tasks := { system.tasks with
        scheduler := task.threads.foldl markDying system.tasks.scheduler }
      objects := system.objects.insert candidate.task marked
      allocator := freeFrames system.allocator frames
      killed := system.killed ++ task.threads }

def allocate : Option Frame × OomSystem :=
  match system.allocator.allocate4kib with
  | (frame, allocator) => (frame, { system with allocator := allocator })

/-- The hooks are in place from the start. -/
def recoverWithRetry : Except OomError Frame × OomSystem :=
  match selectVictim system.oomCandidateScan with
  | none => (.error .protectedSetExhausted, system)
  | some victim =>
    match (system.oomReclaimVictim victim).allocate with
    | (none, system) => (.error .protectedSetExhausted, system)
    | (some frame, system) => (.ok frame, system)

def allocateFrameWithOomPolicy : Except OomError Frame × OomSystem :=
  match system.allocate with
  | (some frame, system) => (.ok frame, system)
  | (none, system) => system.recoverWithRetry

def modifyTask (task : TaskId) (change : TaskObject → TaskObject) : OomSystem :=
  { system with objects := system.objects.alter task (·.map change) }

/-- Only threads that exist are registered. The kernel stops when recovery fails. -/
def step : OomAction → Option OomSystem
  | .schedule action =>
    match action.operation with
    | .registerThread thread =>
      if thread ∈ system.owners then
        some { system with tasks := system.tasks.perform action.cpu action.operation }
      else
        none
    | operation => some { system with tasks := system.tasks.perform action.cpu operation }
  | .createTask role =>
    some { system with
      objects := system.objects.insert system.nextId (.new role)
      nextId := system.nextId + 1 }
  | .createThread owner =>
    if owner ∈ system.objects then
      some { system.modifyTask owner (·.attachThread system.nextId) with
        owners := system.owners.insert system.nextId owner
        nextId := system.nextId + 1 }
    else
      none
  | .dropTask task => some { system with objects := system.objects.erase task }
  | .setReclaimable task reclaimable =>
    some (system.modifyTask task (·.setReclaimable reclaimable))
  | .chargeFrames task frames =>
    some (system.modifyTask task fun task => (task.chargeFrames frames).2)
  | .allocate => some system.allocate.2
  | .free base => some { system with allocator := (system.allocator.free4kib base).2 }
  | .allocateFrameWithOomPolicy =>
    match system.allocateFrameWithOomPolicy with
    | (.ok _, system) => some system
    | (.error _, _) => none

/-! ## Threads that are marked -/

variable {system next : OomSystem}

theorem markDying_inactive (inactive : scheduler.Inactive thread) (other : ThreadId) :
    (markDying scheduler other).Inactive thread := by
  unfold markDying
  split
  · exact ⟨inactive.current, inactive.queued, inactive.waiting⟩
  · exact inactive

/-- A thread that nothing can reach is dormant once it is marked. -/
theorem markDying_dormant
    (inactive : scheduler.Inactive thread) : (markDying scheduler thread).Dormant thread := by
  refine ⟨markDying_inactive inactive thread, fun record found => ?_⟩
  unfold markDying at found
  split at found
  · rw [SchedulerState.transitionTo, ExtTreeMap.getElem?_insert_self] at found
    cases found
    simp
  rename_i unknown
  rw [ExtTreeMap.getElem?_eq_none unknown] at found
  cases found

theorem Dormant.markDying (dormant : scheduler.Dormant thread) (other : ThreadId) :
    (OomSystem.markDying scheduler other).Dormant thread := by
  by_cases same : other = thread
  · subst same
    exact markDying_dormant dormant.toInactive
  unfold OomSystem.markDying
  split
  · exact dormant.transitionTo same _ _ _
  · exact dormant

theorem foldl_markDying {threads : List ThreadId}
    (inactive : scheduler.Inactive thread) (marked : thread ∈ threads ∨ scheduler.Dormant thread) :
    (threads.foldl markDying scheduler).Dormant thread := by
  induction threads generalizing scheduler with
  | nil => exact marked.resolve_left List.not_mem_nil
  | cons other threads induction =>
    apply induction (markDying_inactive inactive other)
    rcases marked with member | dormant
    · rcases List.mem_cons.mp member with rfl | later
      · exact .inr (markDying_dormant inactive)
      · exact .inl later
    · exact .inr (Dormant.markDying dormant other)

/-! ## Every run -/

def victim (system : OomSystem) : Option VictimCandidate :=
  if system.allocate.1.isSome then none else selectVictim system.allocate.2.oomCandidateScan

/-- No thread of a task that is reclaimed is on a CPU, in a runnable queue or
in a queue for packets, inputs or an object; and none is made runnable later. -/
def ReclaimsInactive (system : OomSystem) : OomAction → Prop
  | .schedule ⟨_, .makeRunnable thread _⟩ => thread ∉ system.killed
  | .allocateFrameWithOomPolicy =>
    ∀ candidate ∈ system.victim, ∀ task ∈ system.objects[candidate.task]?,
      ∀ thread ∈ task.threads, system.tasks.scheduler.Inactive thread
  | _ => True

instance decidableReclaimsInactive (system : OomSystem) (action : OomAction) :
    Decidable (system.ReclaimsInactive action) := by
  unfold ReclaimsInactive
  split <;> infer_instance

def KilledDormant (system : OomSystem) : Prop :=
  ∀ thread ∈ system.killed, system.tasks.scheduler.Dormant thread

section

variable (dormant : system.KilledDormant)

include dormant

theorem KilledDormant.oomReclaimVictim
    (inactive : ∀ task ∈ system.objects[candidate.task]?, ∀ thread ∈ task.threads,
      system.tasks.scheduler.Inactive thread) :
    (system.oomReclaimVictim candidate).KilledDormant := by
  unfold OomSystem.oomReclaimVictim
  split
  · exact dormant
  rename_i task found
  intro thread member
  rcases List.mem_append.mp member with before | now
  · have here := dormant thread before
    exact foldl_markDying here.toInactive (.inr here)
  · exact foldl_markDying (inactive task found thread now) (.inl now)

theorem KilledDormant.schedule (allowed : system.ReclaimsInactive (.schedule action)) :
    KilledDormant { system with tasks := system.tasks.perform action.cpu action.operation } := by
  intro thread member
  refine (dormant thread member).perform action.cpu fun reason same => ?_
  rcases action with ⟨cpu, operation⟩
  subst same
  exact allowed member

theorem KilledDormant.allocate : system.allocate.2.KilledDormant :=
  dormant

theorem KilledDormant.allocateFrameWithOomPolicy
    (allowed : system.ReclaimsInactive .allocateFrameWithOomPolicy)
    (call : system.allocateFrameWithOomPolicy = (.ok frame, next)) : next.KilledDormant := by
  unfold OomSystem.allocateFrameWithOomPolicy at call
  split at call
  next served =>
    cases call
    have kept := dormant.allocate
    rw [served] at kept
    exact kept
  rename_i after refused
  have kept := dormant.allocate
  have chosen : system.victim = selectVictim after.oomCandidateScan := by
    rw [victim, refused]
    rfl
  have same : after = system.allocate.2 := by rw [refused]
  rw [refused] at kept
  unfold recoverWithRetry at call
  split at call
  · cases call
  rename_i candidate picked
  have inactive : ∀ task ∈ after.objects[candidate.task]?, ∀ thread ∈ task.threads,
      after.tasks.scheduler.Inactive thread := by
    rw [same]
    exact allowed candidate (chosen.trans picked)
  have reclaimed := (KilledDormant.oomReclaimVictim kept inactive).allocate
  split at call
  · cases call
  rename_i served
  cases call
  rw [served] at reclaimed
  exact reclaimed

end

theorem KilledDormant.step (taken : system.step action = some next)
    (allowed : system.ReclaimsInactive action) (dormant : system.KilledDormant) :
    next.KilledDormant := by
  cases action with
  | schedule =>
    unfold OomSystem.step at taken
    dsimp only at taken
    have kept := dormant.schedule allowed
    split at taken
    · split at taken
      · cases taken
        exact kept
      · cases taken
    · cases taken
      exact kept
  | createTask role | dropTask task | setReclaimable task reclaimable | chargeFrames task frames
  | allocate | free base =>
    cases taken; exact dormant
  | createThread =>
    unfold OomSystem.step at taken
    dsimp only at taken
    split at taken
    · cases taken
      exact dormant
    · cases taken
  | allocateFrameWithOomPolicy =>
    unfold OomSystem.step at taken
    dsimp only at taken
    split at taken
    next call =>
      cases taken
      exact dormant.allocateFrameWithOomPolicy allowed call
    · cases taken

/-- In every state that is reached, no thread of a reclaimed task is on a CPU or
marked as running. -/
theorem killed_threads_never_run {allocator : EarlyFrameAllocator} {actions : List OomAction}
    {system : OomSystem} (execution : run step (boot allocator) actions = some system)
    (inactive : EveryStep step ReclaimsInactive (boot allocator) actions) :
    ∀ thread ∈ system.killed, system.tasks.scheduler.current ≠ some thread ∧
      ∀ record, system.tasks.scheduler.threads[thread]? = some record →
        record.executionState ≠ .running := by
  have dormant : system.KilledDormant :=
    everyStep_preserves KilledDormant ReclaimsInactive KilledDormant.step execution
      inactive nofun
  intro thread member
  have here := dormant thread member
  exact ⟨here.current, fun record found => (here.resting record found).1⟩

/-- A task with one thread is charged with the only frame there is. -/
def chargedTask : List OomAction :=
  [.createTask .userService, .createThread 4, .schedule ⟨bootCpu, .registerThread 5⟩,
    .schedule ⟨bootCpu, .makeRunnable 5 .explicit⟩, .allocate, .chargeFrames 4 [4096]]

def oneFrame : EarlyFrameAllocator := ⟨[⟨1, 2, 1⟩], 0, 0, 0, [], 0, 0⟩

/-- The thread waits for a message when its task is reclaimed; the message
does not wake it. -/
def reclaimReceiver : List OomAction :=
  chargedTask ++ [.schedule ⟨bootCpu, .yieldCurrent⟩,
    .schedule ⟨bootCpu, .blockCurrentOnReceive 7⟩, .allocateFrameWithOomPolicy,
    .schedule ⟨bootCpu, .notifyChannelReady 7⟩, .schedule ⟨bootCpu, .yieldCurrent⟩]

theorem killed_threads_never_run_of_receiver :
    ∃ system, run step (boot oneFrame) reclaimReceiver = some system ∧
      5 ∈ system.killed ∧ system.tasks.scheduler.current ≠ some 5 :=
  ⟨_, rfl, by decide +kernel,
    (@killed_threads_never_run oneFrame reclaimReceiver _ rfl (by decide +kernel) 5
      (by decide +kernel)).1⟩

/-- The thread is in a runnable queue when its task is reclaimed. Its frame is
handed out again, and the thread runs. -/
theorem killed_thread_runs :
    ∃ system, run step (boot oneFrame)
        (chargedTask ++ [.allocateFrameWithOomPolicy, .schedule ⟨bootCpu, .yieldCurrent⟩]) =
        some system ∧
      5 ∈ system.killed ∧ system.tasks.scheduler.current = some 5 ∧
      system.tasks.scheduler.threads[(5 : ThreadId)]? = some ⟨.running, none, some .yielded⟩ ∧
      system.allocator.usableHeadroomFrames = 0 :=
  ⟨_, rfl, by decide +kernel, by decide +kernel, by decide +kernel, by decide +kernel⟩

end OomSystem
end ServiceOS.Task
