import ServiceOS.Task.Waking

/-! # Stealing and balancing

Both passes take queued threads out of some queues to the end of another one. -/

namespace ServiceOS.Task.SchedulerState

open Function Buckets List

variable {state next : SchedulerState}

/-! ## What a pass moves -/

/-- The threads with an idle count are the queued ones. -/
def CountsQueued (state : SchedulerState) : Prop :=
  ∀ thread, thread ∈ state.queuedIdleTicks ↔ thread ∈ all state.runnableQueues

theorem CountsQueued.moveRunnable (counts : state.CountsQueued)
    (member : thread ∈ state.runnableQueues source) (target : Cpu) :
    (state.moveRunnable source target thread).CountsQueued := by
  intro other
  rw [SchedulerState.moveRunnable, Std.ExtTreeMap.mem_insert, compare_eq_iff_eq, counts]
  refine .trans (or_iff_right_of_imp fun same => ?_) (all_move member target).mem_iff.symm
  exact same ▸ mem_all.mpr ⟨source, member⟩

/-- The target gets as many threads at its end as were counted, other queues only lose some, and
the idle counts stay those of the queued threads. -/
structure Gathers (state : SchedulerState) (target : Cpu) (result : Nat × SchedulerState) :
    Prop where
  others : ∀ cpu, cpu ≠ target → (result.2.runnableQueues cpu).Sublist (state.runnableQueues cpu)
  gained : ∃ arrivals, arrivals.length = result.1 ∧
    result.2.runnableQueues target = state.runnableQueues target ++ arrivals
  counts : state.CountsQueued → result.2.CountsQueued

namespace Gathers

theorem none (state : SchedulerState) (target : Cpu) : Gathers state target (0, state) :=
  ⟨fun _ _ => .refl _, ⟨[], rfl, (append_nil _).symm⟩, id⟩

theorem move (gathers : Gathers state target result) (apart : source ≠ target)
    (member : thread ∈ result.2.runnableQueues source)
    (moved : next.runnableQueues = Buckets.move result.2.runnableQueues source target thread)
    (restarted : next.queuedIdleTicks = result.2.queuedIdleTicks.insert thread 0) :
    Gathers state target (result.1 + 1, next) := by
  rcases gathers with ⟨others, ⟨arrivals, counted, gained⟩, counts⟩
  refine ⟨fun cpu other => ?_, ⟨arrivals ++ [thread], by simp [counted], ?_⟩, fun before => ?_⟩
  · rw [moved, Buckets.move, Buckets.pushBack, update_of_ne other]
    by_cases here : cpu = source
    · rw [here, update_self]
      exact erase_sublist.trans (others source apart)
    · rw [update_of_ne here]
      exact others cpu other
  · rw [moved, Buckets.move, Buckets.pushBack, update_self,
      update_of_ne apart.symm, gained, append_assoc]
  · have arranged := (counts before).moveRunnable member target
    rw [CountsQueued, moved, restarted]
    exact arranged

theorem foldl (move : Nat × SchedulerState → Candidate → Nat × SchedulerState)
    {candidates : List Candidate} (gathers : Gathers state target result)
    (each : ∀ result, ∀ candidate ∈ candidates, Gathers state target result →
      Gathers state target (move result candidate) ∧ (move result candidate).1 ≤ result.1 + 1) :
    Gathers state target (candidates.foldl move result) ∧
      (candidates.foldl move result).1 ≤ result.1 + candidates.length := by
  induction candidates generalizing result with
  | nil => exact ⟨gathers, le_rfl⟩
  | cons candidate rest induction =>
    rcases each result candidate mem_cons_self gathers with ⟨here, once⟩
    rcases induction here fun result other member => each result other (.tail _ member) with
      ⟨later, counted⟩
    exact ⟨later, counted.trans (by rw [length_cons]; omega)⟩

end Gathers

def StealBatch (cpu : Cpu) (candidates : List (Cpu × ThreadId)) : Prop :=
  candidates.length ≤ stealBatchMax ∧ ∀ candidate ∈ candidates, candidate.1 ≠ cpu

theorem stealCandidates_batch (state : SchedulerState) (cpu : Cpu) :
    StealBatch cpu (state.stealCandidates cpu) := by
  apply foldlRecOn (motive := StealBatch cpu)
  · exact ⟨Nat.zero_le _, nofun⟩
  intro candidates batch offset _
  dsimp only
  split
  · exact batch
  rename_i scanned
  apply foldlRecOn (motive := StealBatch cpu) _ _ batch
  intro candidates batch thread _
  split
  next room =>
    refine ⟨by rw [length_append]; exact room.1, forall_mem_append.mpr ?_⟩
    exact ⟨batch.2, forall_mem_singleton.mpr (not_or.mp scanned).2⟩
  · exact batch

theorem gathers_steal (state : SchedulerState) (cpu : Cpu) :
    Gathers state cpu (state.stealIdleRunnablesLocked cpu) ∧
      (state.stealIdleRunnablesLocked cpu).1 ≤ stealBatchMax := by
  rcases state.stealCandidates_batch cpu with ⟨few, elsewhere⟩
  have started : Gathers state cpu (0, { state with
      stealAttempts := saturatingIncrement 64 state.stealAttempts
      stealScanCursor := update state.stealScanCursor cpu
        ((state.stealScanCursor cpu + 1) % runnableQueueCpus) }) :=
    ⟨fun _ _ => .refl _, ⟨[], rfl, (append_nil _).symm⟩, id⟩
  rcases started.foldl (stealThread cpu) fun result candidate member gathers => by
    unfold stealThread
    dsimp only
    split
    next here => exact ⟨gathers.move (elsewhere candidate member) here rfl rfl, le_rfl⟩
    · exact ⟨gathers, Nat.le_succ _⟩ with ⟨gathers, counted⟩
  exact ⟨gathers, counted.trans (by simpa using few)⟩

/-- How many threads the plan of a balancing pass moves. -/
def plannedMoves (state : SchedulerState) : Nat :=
  ((rebalancePlan fun cpu => (state.runnableQueues cpu).length).map (·.2.2)).getD 0

theorem rebalancePlan_apart (plan : rebalancePlan depths = some (busiest, emptiest, moves)) :
    busiest ≠ emptiest := by
  simp only [rebalancePlan, Option.ite_none_left_eq_some, not_or, Option.some.injEq] at plan
  rcases plan with ⟨-, ⟨apart, -⟩, rfl, rfl, -⟩
  exact apart

theorem gathers_balance (state : SchedulerState) :
    (∃ target, Gathers state target state.pushBalanceLocked) ∧
      state.pushBalanceLocked.1 ≤ state.plannedMoves := by
  rw [pushBalanceLocked, plannedMoves]
  rcases plan : rebalancePlan fun cpu => (state.runnableQueues cpu).length with
    _ | ⟨busiest, emptiest, moves⟩
  · exact ⟨⟨⟨0, by decide⟩, .none state _⟩, Nat.le_refl 0⟩
  suffices both : Gathers state emptiest _ ∧ _ from ⟨⟨emptiest, both.1⟩, both.2⟩
  refine ((Gathers.none state emptiest).foldl (balanceThread busiest emptiest) ?_).imp_right
    fun counted => counted.trans (by simp [selectRebalanceCandidates])
  intro result thread _ gathers
  unfold balanceThread
  dsimp only
  split
  next here => exact ⟨gathers.move (rebalancePlan_apart plan) here rfl rfl, le_rfl⟩
  · exact ⟨gathers, Nat.le_succ _⟩

/-- Threads change queues, as many as were counted and no more than the batch; everything
else about them stays. -/
structure OnlyMoves (state : SchedulerState) (batch : Nat) (result : Nat × SchedulerState) :
    Prop where
  threads : (all result.2.runnableQueues).Perm (all state.runnableQueues)
  order : ∃ target, Gathers state target result
  current : result.2.current = state.current
  waiting : result.2.waiting = state.waiting
  timers : result.2.waitingTimers = state.waitingTimers
  batch : result.1 ≤ batch

theorem Reshuffles.onlyMoves (moved : Reshuffles state result.2)
    (order : ∃ target, Gathers state target result) (few : result.1 ≤ batch) :
    OnlyMoves state batch result :=
  ⟨moved.queued, order, moved.current, moved.waiting, moved.timers, few⟩

theorem passes_only_move (state : SchedulerState) (cpu : Cpu) :
    OnlyMoves state stealBatchMax (state.stealIdleRunnablesLocked cpu) ∧
      OnlyMoves state state.plannedMoves state.pushBalanceLocked := by
  rcases state.gathers_steal cpu with ⟨steals, few⟩
  rcases state.gathers_balance with ⟨balances, planned⟩
  exact ⟨(Reshuffles.stealIdleRunnablesLocked state cpu).onlyMoves ⟨cpu, steals⟩ few,
    (Reshuffles.pushBalanceLocked state).onlyMoves balances planned⟩

end ServiceOS.Task.SchedulerState
