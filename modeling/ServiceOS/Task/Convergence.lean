import ServiceOS.Task.Balancing

/-! # Balancing comes to an end

Each pass with a plan lowers the sum of the squares of the queues' depths. -/

namespace ServiceOS.Task.SchedulerState

open Buckets List

def depth (state : SchedulerState) (cpu : Cpu) : Nat := (state.runnableQueues cpu).length

/-! ## The plan of a pass -/

section

variable (depths : Cpu → Nat)

def depthLimit : Nat :=
  balanceOvercommitRatio * max (((finRange runnableQueueCpus).map depths).sum / runnableQueueCpus) 1

variable {depths}

theorem foldl_extremes {slots : List Cpu} (search : slots.foldl (fun (busiest, emptiest) slot =>
      (if depths busiest < depths slot then slot else busiest,
        if depths slot < depths emptiest then slot else emptiest)) chosen = found) :
    (depths chosen.1 ≤ depths found.1 ∧ depths found.2 ≤ depths chosen.2) ∧
      ∀ slot ∈ slots, depths slot ≤ depths found.1 ∧ depths found.2 ≤ depths slot := by
  induction slots generalizing chosen with
  | nil =>
    cases search
    exact ⟨⟨le_rfl, le_rfl⟩, nofun⟩
  | cons slot slots induction =>
    rcases induction search with ⟨⟨above, below⟩, rest⟩
    dsimp only at above below
    refine ⟨⟨?_, ?_⟩, forall_mem_cons.mpr ⟨⟨?_, ?_⟩, rest⟩⟩ <;>
      split at above <;> split at below <;> omega

theorem shallowest_lt_limit (shallowest : ∀ cpu, depths emptiest ≤ depths cpu) :
    depths emptiest < depthLimit depths := by
  have least := card_nsmul_le_sum ((finRange runnableQueueCpus).map depths) (depths emptiest)
    (forall_mem_map.mpr fun cpu _ => shallowest cpu)
  rw [length_map, length_finRange, smul_eq_mul] at least
  rw [depthLimit]
  generalize ((finRange runnableQueueCpus).map depths).sum = total at *
  simp only [balanceOvercommitRatio, runnableQueueCpus] at *
  omega

/-- Without a plan no queue is over the limit. A plan leaves the deepest queue deeper than
the shallowest one was. -/
theorem rebalancePlan_spec (made : rebalancePlan depths = plan) :
    match plan with
    | none => ∀ cpu, depths cpu ≤ depthLimit depths
    | some (busiest, emptiest, moves) => 0 < moves ∧ depths emptiest + moves < depths busiest := by
  unfold rebalancePlan at made
  dsimp only at made
  split at made
  next few =>
    subst made
    intro cpu
    have part : depths cpu ≤ ((finRange runnableQueueCpus).map depths).sum :=
      single_le_sum (fun _ _ => Nat.zero_le _) _ (mem_map_of_mem (mem_finRange cpu))
    rw [depthLimit, balanceOvercommitRatio]
    omega
  generalize search : foldl _ _ _ = found at made
  have extreme := fun cpu => (foldl_extremes search).2 cpu (mem_finRange cpu)
  have below := shallowest_lt_limit fun cpu => (extreme cpu).2
  split at made <;> subst made
  next within =>
    intro cpu
    apply (extreme cpu).1.trans
    rcases within with same | within
    · exact same ▸ below.le
    · exact within
  rename_i above
  have deeper : depthLimit depths < depths found.1 := not_le.mp (not_or.mp above).2
  change 0 < min (depths found.1 - depthLimit depths) _ ∧
    _ + min (depths found.1 - depthLimit depths) _ < _
  omega

end

/-! ## A pass -/

section

variable (queue : List ThreadId) (idleTicks : ThreadId → Nat) (count : Nat)

theorem length_selectRebalanceCandidates :
    (selectRebalanceCandidates queue idleTicks count).length = min count queue.length := by
  simp [selectRebalanceCandidates]

variable {queue idleTicks count}

theorem mem_of_mem_selectRebalanceCandidates
    (member : thread ∈ selectRebalanceCandidates queue idleTicks count) : thread ∈ queue := by
  rcases mem_map.mp member with ⟨entry, taken, rfl⟩
  rcases mem_mapIdx.mp (mem_mergeSort.mp (mem_of_mem_take taken)) with ⟨position, bound, rfl⟩
  exact getElem_mem bound

end

variable {state : SchedulerState}

/-- As many threads as are counted have gone from one queue to the other. -/
structure Shifts (busiest emptiest : Cpu) (state : SchedulerState)
    (result : Nat × SchedulerState) : Prop where
  lost : result.2.depth busiest + result.1 = state.depth busiest
  gained : result.2.depth emptiest = state.depth emptiest + result.1
  others : ∀ cpu, cpu ≠ busiest → cpu ≠ emptiest → result.2.depth cpu = state.depth cpu

theorem Shifts.balanceThread (shifts : Shifts busiest emptiest state result)
    (apart : busiest ≠ emptiest) (thread : ThreadId) :
    Shifts busiest emptiest state (balanceThread busiest emptiest result thread) ∧
      result.1 ≤ (SchedulerState.balanceThread busiest emptiest result thread).1 := by
  unfold SchedulerState.balanceThread
  dsimp only
  split
  next member =>
    have shorter := length_erase_of_mem member
    have positive := length_pos_of_mem member
    rcases shifts with ⟨lost, gained, others⟩
    simp only [depth] at lost gained others
    refine ⟨⟨?_, ?_, fun cpu notBusiest notEmptiest => ?_⟩, Nat.le_succ _⟩
    · simp [depth, moveRunnable, move, pushBack, apart, shorter]
      omega
    · simp [depth, moveRunnable, move, pushBack, apart.symm, gained]
      omega
    · simp [depth, moveRunnable, move, pushBack, notBusiest, notEmptiest, others]
  · exact ⟨shifts, le_rfl⟩

theorem shifts_pushBalanceLocked
    (plan : rebalancePlan state.depth = some (busiest, emptiest, moves)) :
    Shifts busiest emptiest state state.pushBalanceLocked ∧
      0 < state.pushBalanceLocked.1 ∧ state.pushBalanceLocked.1 ≤ moves := by
  rcases rebalancePlan_spec plan with ⟨positive, deeper⟩
  have apart := rebalancePlan_apart plan
  have few := state.gathers_balance.2
  change rebalancePlan (fun cpu => (state.runnableQueues cpu).length) = _ at plan
  rw [plannedMoves, pushBalanceLocked, plan] at few
  rw [pushBalanceLocked, plan]
  refine and_assoc.mp ⟨?_, few⟩
  dsimp only
  rcases chosen : selectRebalanceCandidates (state.runnableQueues busiest) state.idleTicks moves
    with _ | ⟨thread, candidates⟩
  · have none := length_selectRebalanceCandidates (state.runnableQueues busiest) state.idleTicks
      moves
    rw [chosen, length_nil] at none
    simp only [depth] at deeper
    omega
  have member := mem_of_mem_selectRebalanceCandidates (chosen ▸ mem_cons_self)
  have begun : Shifts busiest emptiest state (0, state) := ⟨rfl, rfl, fun _ _ _ => rfl⟩
  rw [foldl_cons]
  apply foldlRecOn (motive := fun result => Shifts busiest emptiest state result ∧ 0 < result.1)
  · refine ⟨(begun.balanceThread apart thread).1, ?_⟩
    rw [SchedulerState.balanceThread, if_pos member]
    exact Nat.one_pos
  · intro result shifted candidate _
    exact (shifted.1.balanceThread apart candidate).imp_right shifted.2.trans_le

theorem squares_decrease (planned : rebalancePlan state.depth = some plan) :
    ∑ cpu, state.pushBalanceLocked.2.depth cpu ^ 2 < ∑ cpu, state.depth cpu ^ 2 := by
  rcases plan with ⟨busiest, emptiest, moves⟩
  rcases rebalancePlan_spec planned with ⟨-, deeper⟩
  rcases shifts_pushBalanceLocked planned with ⟨⟨lost, gained, others⟩, moved, few⟩
  have rest : ∑ cpu ∈ (Finset.univ.erase busiest).erase emptiest,
        state.pushBalanceLocked.2.depth cpu ^ 2 =
      ∑ cpu ∈ (Finset.univ.erase busiest).erase emptiest, state.depth cpu ^ 2 := by
    refine Finset.sum_congr rfl fun cpu member => ?_
    simp only [Finset.mem_erase] at member
    rw [others cpu member.2.1 member.1]
  have member : emptiest ∈ Finset.univ.erase busiest :=
    Finset.mem_erase.mpr ⟨(rebalancePlan_apart planned).symm, Finset.mem_univ emptiest⟩
  have split (depths : Cpu → Nat) := Finset.add_sum_erase _ (depths · ^ 2) member ▸
    Finset.add_sum_erase _ (depths · ^ 2) (Finset.mem_univ busiest)
  rw [← split, ← split, rest, gained, ← lost]
  nlinarith

/-- Passes one after the other get to a state without a plan, where no queue is over the limit. -/
theorem balancing_converges (state : SchedulerState) :
    (∀ plan, rebalancePlan state.depth = some plan →
      ∑ cpu, state.pushBalanceLocked.2.depth cpu ^ 2 < ∑ cpu, state.depth cpu ^ 2) ∧
    ∃ passes final, (fun state => (pushBalanceLocked state).2)^[passes] state = final ∧
      rebalancePlan final.depth = none ∧ ∀ cpu, final.depth cpu ≤ depthLimit final.depth := by
  refine ⟨fun plan => squares_decrease, ?_⟩
  induction potential : ∑ cpu, state.depth cpu ^ 2 using Nat.strong_induction_on
    generalizing state with
  | _ potential induction =>
    subst potential
    rcases plan : rebalancePlan state.depth with _ | planned
    · exact ⟨0, state, rfl, plan, rebalancePlan_spec plan⟩
    · rcases induction _ (squares_decrease plan) _ rfl with ⟨passes, ended⟩
      exact ⟨passes + 1, ended⟩

end ServiceOS.Task.SchedulerState
