import LiteRpc.Lib.Aggregate
import LiteRpc.VoteAccountsRpc
import Mathlib.Data.List.Destutter

/-!
The stakes a leader schedule is drawn from (`stake_vote/src/leader_schedule.rs`).
`calculate_epoch_stakes` sums, by vote account, the stake that each stake account delegates at the
new epoch, and pairs each vote account with its sum. `calculate_leader_schedule` sums the nonzero
stakes of the vote accounts by the node they vote for and sorts them with `sort_stakes`; Solana's
`LeaderSchedule::new` then draws the slot leaders from them with a seed made from the epoch.

A hash map is the list of its entries in iteration order, which Rust leaves open: the results here
hold in every order, and the stakes handed to `LeaderSchedule::new` do not depend on it. The
`Delegation` of a stake account, and the stake it has at the new epoch given the stake history and
the rate activation epoch (`Delegation::stake`), are Solana's, as is the `VoteState` of a vote
account: they are the parameters `voterPubkey`, `delegationStake` and `voteState`. Stakes are `Nat`:
no sum of staked lamports comes near the `u64` bound.
-/

namespace LiteRpc

open GroupMap

/-- The order `Pubkey` derives from its 32 bytes compared one after the other, which is the order
of `key` as their big-endian number. -/
def Pubkey.cmp (a b : Pubkey) : Ordering := compare a.key b.key

section EpochStakes

variable (voterPubkey : StoredStake → Pubkey) (delegationStake : StoredStake → Nat)

/-- The fold of `calculate_epoch_stakes` over `stake_map.values()`:
`entry(voter_pubkey).or_default() += stake` for each stake account. -/
def delegatedStakes (stakeMap : List StoredStake) : List (Pubkey × Nat) :=
  aggregate addValue (stakeMap.map fun stakeAccount =>
    (voterPubkey stakeAccount, delegationStake stakeAccount))

/-- `calculate_epoch_stakes` over the values of the stake map and of the vote map: each vote
account with the stake delegated to it, zero when no stake account delegates to it. -/
def calculateEpochStakes (stakeMap : List StoredStake) (voteMap : List StoredVote) :
    List (Pubkey × (Nat × StoredVote)) :=
  let delegatedStakes := delegatedStakes voterPubkey delegationStake stakeMap
  collect (voteMap.map fun voteAccount =>
    (voteAccount.pubkey, ((delegatedStakes.lookup voteAccount.pubkey).getD 0, voteAccount)))

/-- The stake delegated to a vote account. -/
def stakeDelegatedTo (stakeMap : List StoredStake) (vote : Pubkey) : Nat :=
  ((stakeMap.filter fun stakeAccount => voterPubkey stakeAccount = vote).map delegationStake).sum

theorem lookup_delegatedStakes_getD (stakeMap : List StoredStake) (vote : Pubkey) :
    ((delegatedStakes voterPubkey delegationStake stakeMap).lookup vote).getD 0 =
      stakeDelegatedTo voterPubkey delegationStake stakeMap vote := by
  rw [delegatedStakes, lookup_aggregate_addValue_getD, valuesOf_map]
  rfl

theorem calculateEpochStakes_eq (stakeMap : List StoredStake) {voteMap : List StoredVote}
    (hvotes : (voteMap.map StoredVote.pubkey).Nodup) :
    calculateEpochStakes voterPubkey delegationStake stakeMap voteMap =
      voteMap.map fun voteAccount => (voteAccount.pubkey,
        (stakeDelegatedTo voterPubkey delegationStake stakeMap voteAccount.pubkey, voteAccount)) := by
  unfold calculateEpochStakes
  rw [collect_eq_of_nodup (by simpa [Function.comp_def] using hvotes)]
  simp only [lookup_delegatedStakes_getD]

end EpochStakes

section LeaderSchedule

variable (voteState : StoredVote → VoteState)

/-- `NUM_CONSECUTIVE_LEADER_SLOTS`. -/
def numConsecutiveLeaderSlots : Nat := 4

/-- The seed of `calculate_leader_schedule`: the epoch's eight little-endian bytes, then zeros. -/
def leaderScheduleSeed (epoch : Nat) : List Nat :=
  (List.range 8).map (fun i => epoch / 256 ^ i % 256) ++ List.replicate 24 0

/-- The comparison of `sort_stakes`: by stake, then by pubkey, the larger first. -/
def stakeCmp (l r : Pubkey × Nat) : Ordering :=
  if r.2 = l.2 then r.1.cmp l.1 else compare r.2 l.2

/-- `sort_stakes`: `sort_unstable_by` with `stakeCmp`, then `dedup`. The sort here is a merge sort;
every sort gives the same list, as only equal pairs compare equal (`sortStakes_eq_of_sorted`). -/
def sortStakes (stakes : List (Pubkey × Nat)) : List (Pubkey × Nat) :=
  (stakes.mergeSort fun l r => stakeCmp l r != .gt).destutter (· ≠ ·)

/-- The stakes `calculate_leader_schedule` hands to `LeaderSchedule::new`: the nonzero stakes of
the vote accounts summed by node, sorted. -/
def leaderScheduleStakes (stakeVoteMap : List (Pubkey × (Nat × StoredVote))) :
    List (Pubkey × Nat) :=
  let stakesMap := aggregate addValue (stakeVoteMap.filterMap fun (_, (stake, voteAccount)) =>
    if stake ≠ 0 then some ((voteState voteAccount).nodePubkey, stake) else none)
  sortStakes stakesMap

/-- `calculate_leader_schedule`, with Solana's `LeaderSchedule::new` the parameter
`leaderScheduleNew`. -/
def calculateLeaderSchedule {LeaderSchedule : Type}
    (leaderScheduleNew : List (Pubkey × Nat) → List Nat → Nat → Nat → LeaderSchedule)
    (stakeVoteMap : List (Pubkey × (Nat × StoredVote))) (epoch slotsInEpoch : Nat) :
    LeaderSchedule :=
  leaderScheduleNew (leaderScheduleStakes voteState stakeVoteMap) (leaderScheduleSeed epoch)
    slotsInEpoch numConsecutiveLeaderSlots

/-- The stake of a node: the stakes of the vote accounts that vote for it. -/
def nodeStake (stakeVoteMap : List (Pubkey × (Nat × StoredVote))) (node : Pubkey) : Nat :=
  ((stakeVoteMap.filter fun e => (voteState e.2.2).nodePubkey = node).map fun e => e.2.1).sum

end LeaderSchedule

/-- `l` strictly before `r` in the order of `sort_stakes`: a larger stake, or the same stake and a
larger pubkey. -/
def StakeBefore (l r : Pubkey × Nat) : Prop :=
  r.2 < l.2 ∨ (r.2 = l.2 ∧ r.1.key < l.1.key)

theorem StakeBefore.ne {l r : Pubkey × Nat} (h : StakeBefore l r) : l ≠ r := by
  rintro rfl
  unfold StakeBefore at h
  omega

theorem StakeBefore.asymm {l r : Pubkey × Nat} (hlr : StakeBefore l r) (hrl : StakeBefore r l) :
    False := by
  unfold StakeBefore at hlr hrl
  omega

theorem stakeCmp_ne_gt_iff (l r : Pubkey × Nat) :
    (stakeCmp l r != .gt) = true ↔ r.2 < l.2 ∨ (r.2 = l.2 ∧ r.1.key ≤ l.1.key) := by
  unfold stakeCmp Pubkey.cmp
  split_ifs with h
  · simp only [bne_iff_ne, ne_eq, Nat.compare_eq_gt, not_lt]
    omega
  · simp only [bne_iff_ne, ne_eq, Nat.compare_eq_gt, not_lt]
    omega

theorem Pubkey.eq_of_key_eq {a b : Pubkey} (h : a.key = b.key) : a = b := by
  cases a
  cases b
  simp_all

theorem eq_of_stakeCmp_ne_gt {l r : Pubkey × Nat} (hlr : (stakeCmp l r != .gt) = true)
    (hrl : (stakeCmp r l != .gt) = true) : l = r := by
  rw [stakeCmp_ne_gt_iff] at hlr hrl
  have hstake : l.2 = r.2 := by omega
  have hkey : l.1.key = r.1.key := by omega
  exact Prod.ext (Pubkey.eq_of_key_eq hkey) hstake

theorem pairwise_mergeSort_stakeCmp (stakes : List (Pubkey × Nat)) :
    (stakes.mergeSort fun l r => stakeCmp l r != .gt).Pairwise
      fun l r => (stakeCmp l r != .gt) = true := by
  apply List.pairwise_mergeSort
  · intro a b c hab hbc
    rw [stakeCmp_ne_gt_iff] at hab hbc ⊢
    omega
  · intro a b
    rw [Bool.or_eq_true, stakeCmp_ne_gt_iff, stakeCmp_ne_gt_iff]
    omega

theorem sortStakes_eq_of_sorted {stakes sorted : List (Pubkey × Nat)} (hperm : sorted.Perm stakes)
    (hsorted : sorted.Pairwise fun l r => (stakeCmp l r != .gt) = true) :
    sorted.destutter (· ≠ ·) = sortStakes stakes := by
  unfold sortStakes
  congr 1
  refine hperm.trans (List.mergeSort_perm _ _).symm |>.eq_of_pairwise ?_ hsorted
    (pairwise_mergeSort_stakeCmp stakes)
  exact fun _ _ _ _ => eq_of_stakeCmp_ne_gt

theorem sortStakes_of_nodup {stakes : List (Pubkey × Nat)} (hstakes : (stakes.map Prod.fst).Nodup) :
    (sortStakes stakes).Pairwise StakeBefore ∧ ∀ e, e ∈ sortStakes stakes ↔ e ∈ stakes := by
  have hperm := List.mergeSort_perm stakes fun l r => stakeCmp l r != .gt
  have hnodup : (stakes.mergeSort fun l r => stakeCmp l r != .gt).Nodup :=
    hperm.nodup_iff.mpr (List.Nodup.of_map _ hstakes)
  -- no two neighbours are equal, so `dedup` removes nothing
  have hdedup : sortStakes stakes = stakes.mergeSort fun l r => stakeCmp l r != .gt :=
    List.destutter_of_isChain _ _ hnodup.isChain
  have hkeys : ((stakes.mergeSort fun l r => stakeCmp l r != .gt).map Prod.fst).Nodup :=
    (hperm.map Prod.fst).nodup_iff.mpr hstakes
  rw [hdedup]
  refine ⟨?_, fun e => hperm.mem_iff⟩
  refine ((pairwise_mergeSort_stakeCmp stakes).and (List.pairwise_map.mp hkeys)).imp ?_
  rintro l r ⟨hle, hne⟩
  rw [stakeCmp_ne_gt_iff] at hle
  have hkey : l.1.key ≠ r.1.key := fun h => hne (Pubkey.eq_of_key_eq h)
  unfold StakeBefore
  omega

section LeaderScheduleStakes

variable (voteState : StoredVote → VoteState)

theorem valuesOf_nonzeroStakes (stakeVoteMap : List (Pubkey × (Nat × StoredVote))) (node : Pubkey) :
    valuesOf (stakeVoteMap.filterMap fun (_, (stake, voteAccount)) =>
        if stake ≠ 0 then some ((voteState voteAccount).nodePubkey, stake) else none) node =
      ((stakeVoteMap.filter fun e => (voteState e.2.2).nodePubkey = node).map
        fun e => e.2.1).filter fun v => v ≠ 0 := by
  induction stakeVoteMap with
  | nil => rfl
  | cons e rest ih =>
    obtain ⟨pubkey, stake, voteAccount⟩ := e
    by_cases hstake : stake = 0 <;> by_cases hnode : (voteState voteAccount).nodePubkey = node <;>
      simp_all [valuesOf]

theorem mem_leaderScheduleStakes_iff (stakeVoteMap : List (Pubkey × (Nat × StoredVote)))
    (node : Pubkey) (stake : Nat) :
    (node, stake) ∈ leaderScheduleStakes voteState stakeVoteMap ↔
      stake ≠ 0 ∧ stake = nodeStake voteState stakeVoteMap node := by
  unfold leaderScheduleStakes
  rw [(sortStakes_of_nodup (nodup_aggregate _ _)).2, mem_aggregate_addValue_iff,
    valuesOf_nonzeroStakes, filter_ne_zero_ne_nil_iff, sum_filter_ne_zero]
  unfold nodeStake
  dsimp only
  constructor
  · rintro ⟨hne, hstake⟩
    exact ⟨by rwa [hstake], hstake⟩
  · rintro ⟨hne, hstake⟩
    exact ⟨by rwa [← hstake], hstake⟩

theorem pairwise_leaderScheduleStakes (stakeVoteMap : List (Pubkey × (Nat × StoredVote))) :
    (leaderScheduleStakes voteState stakeVoteMap).Pairwise StakeBefore :=
  (sortStakes_of_nodup (nodup_aggregate _ _)).1

theorem nodeStake_perm {stakeVoteMap stakeVoteMap' : List (Pubkey × (Nat × StoredVote))}
    (hperm : stakeVoteMap.Perm stakeVoteMap') (node : Pubkey) :
    nodeStake voteState stakeVoteMap node = nodeStake voteState stakeVoteMap' node :=
  ((hperm.filter _).map _).sum_eq

/-- The stakes handed to `LeaderSchedule::new`, from any vote accounts with stakes in any order,
are the nodes with a nonzero stake, each once, with the sum of the stakes of the vote accounts that
vote for it, sorted by stake and then by pubkey, the larger first. -/
theorem leader_schedule_stakes_sorted_node_sums (stakeVoteMap : List (Pubkey × (Nat × StoredVote))) :
    (leaderScheduleStakes voteState stakeVoteMap).Pairwise StakeBefore ∧
      ∀ node stake, (node, stake) ∈ leaderScheduleStakes voteState stakeVoteMap ↔
        stake ≠ 0 ∧ stake = nodeStake voteState stakeVoteMap node :=
  ⟨pairwise_leaderScheduleStakes voteState stakeVoteMap,
    mem_leaderScheduleStakes_iff voteState stakeVoteMap⟩

/-- The order in which the hash map of epoch stakes is iterated does not change the leader
schedule `calculate_leader_schedule` computes. -/
theorem leader_schedule_independent_of_hash_order {LeaderSchedule : Type}
    (leaderScheduleNew : List (Pubkey × Nat) → List Nat → Nat → Nat → LeaderSchedule)
    {stakeVoteMap stakeVoteMap' : List (Pubkey × (Nat × StoredVote))}
    (horder : stakeVoteMap.Perm stakeVoteMap') (epoch slotsInEpoch : Nat) :
    calculateLeaderSchedule voteState leaderScheduleNew stakeVoteMap epoch slotsInEpoch =
      calculateLeaderSchedule voteState leaderScheduleNew stakeVoteMap' epoch slotsInEpoch := by
  have hmem : ∀ e, e ∈ leaderScheduleStakes voteState stakeVoteMap ↔
      e ∈ leaderScheduleStakes voteState stakeVoteMap' := by
    rintro ⟨node, stake⟩
    rw [mem_leaderScheduleStakes_iff, mem_leaderScheduleStakes_iff, nodeStake_perm voteState horder]
  have hsorted := pairwise_leaderScheduleStakes voteState stakeVoteMap
  have hsorted' := pairwise_leaderScheduleStakes voteState stakeVoteMap'
  have hperm := (List.perm_ext_iff_of_nodup (hsorted.imp StakeBefore.ne)
    (hsorted'.imp StakeBefore.ne)).mpr hmem
  have heq := hperm.eq_of_pairwise (fun a b _ _ hab hba => (StakeBefore.asymm hab hba).elim)
    hsorted hsorted'
  unfold calculateLeaderSchedule
  rw [heq]

end LeaderScheduleStakes

section Delegations

variable (voterPubkey : StoredStake → Pubkey) (delegationStake : StoredStake → Nat)
  (voteState : StoredVote → VoteState)

theorem nodeStake_calculateEpochStakes (stakeMap : List StoredStake) {voteMap : List StoredVote}
    (hvotes : (voteMap.map StoredVote.pubkey).Nodup) (node : Pubkey) :
    nodeStake voteState (calculateEpochStakes voterPubkey delegationStake stakeMap voteMap) node =
      ((stakeMap.filter fun stakeAccount => voteMap.any fun voteAccount =>
        voteAccount.pubkey = voterPubkey stakeAccount &&
          (voteState voteAccount).nodePubkey = node).map delegationStake).sum := by
  rw [calculateEpochStakes_eq voterPubkey delegationStake stakeMap hvotes]
  unfold nodeStake
  rw [List.filter_map, List.map_map]
  exact sum_sums_by_key StoredVote.pubkey (fun voteAccount => (voteState voteAccount).nodePubkey = node)
    voterPubkey delegationStake stakeMap hvotes

/-- `calculate_epoch_stakes` pairs each vote account of the vote map with the stake delegated to
it, and the stakes it pairs add up to the stake of the stake accounts that delegate to a vote
account of the map: the stake delegated elsewhere is dropped, none is counted twice. -/
theorem epoch_stakes_sum_delegations (stakeMap : List StoredStake) {voteMap : List StoredVote}
    (hvotes : (voteMap.map StoredVote.pubkey).Nodup) :
    calculateEpochStakes voterPubkey delegationStake stakeMap voteMap =
        voteMap.map (fun voteAccount => (voteAccount.pubkey,
          (stakeDelegatedTo voterPubkey delegationStake stakeMap voteAccount.pubkey, voteAccount))) ∧
      ((calculateEpochStakes voterPubkey delegationStake stakeMap voteMap).map fun e => e.2.1).sum =
        ((stakeMap.filter fun stakeAccount => voteMap.any fun voteAccount =>
          voteAccount.pubkey = voterPubkey stakeAccount).map delegationStake).sum := by
  have heq := calculateEpochStakes_eq voterPubkey delegationStake stakeMap hvotes
  refine ⟨heq, ?_⟩
  have hsum := sum_sums_by_key StoredVote.pubkey (fun _ => true) voterPubkey delegationStake
    stakeMap hvotes
  simp only [List.filter_true, Bool.and_true] at hsum
  rw [heq, List.map_map]
  exact hsum

/-- Test stake accounts delegate to the vote account whose pubkey is their write version, and test
vote accounts vote for the node whose pubkey is theirs. -/
def testVoterPubkey (stakeAccount : StoredStake) : Pubkey := ⟨stakeAccount.writeVersion⟩

def testVoteState (voteAccount : StoredVote) : VoteState := ⟨⟨voteAccount.writeVersion⟩, 0, [], none, []⟩

/-- Three stake accounts, delegating to vote accounts 1, 2 and 3; vote accounts 1 and 2 vote for
node 10, and vote account 3 is not in the map. -/
def testStakeMap : List StoredStake := [⟨⟨5⟩, 100, 0, 1⟩, ⟨⟨6⟩, 50, 0, 2⟩, ⟨⟨7⟩, 30, 0, 3⟩]

def testVoteMap : List StoredVote := [⟨⟨1⟩, 0, 10⟩, ⟨⟨2⟩, 0, 10⟩]

example : calculateEpochStakes testVoterPubkey StoredStake.lamports testStakeMap testVoteMap =
    [(⟨1⟩, (100, ⟨⟨1⟩, 0, 10⟩)), (⟨2⟩, (50, ⟨⟨2⟩, 0, 10⟩))] := by
  decide

theorem epoch_stakes_sum_delegations_of_test_maps :
    (testVoteMap.map StoredVote.pubkey).Nodup ∧
      (calculateEpochStakes testVoterPubkey StoredStake.lamports testStakeMap testVoteMap =
          testVoteMap.map (fun voteAccount => (voteAccount.pubkey,
            (stakeDelegatedTo testVoterPubkey StoredStake.lamports testStakeMap voteAccount.pubkey,
              voteAccount))) ∧
        ((calculateEpochStakes testVoterPubkey StoredStake.lamports testStakeMap testVoteMap).map
            fun e => e.2.1).sum =
          ((testStakeMap.filter fun stakeAccount => testVoteMap.any fun voteAccount =>
            voteAccount.pubkey = testVoterPubkey stakeAccount).map StoredStake.lamports).sum) :=
  ⟨by decide, epoch_stakes_sum_delegations testVoterPubkey StoredStake.lamports testStakeMap
    (by decide)⟩

/-- In whatever order the hash map of epoch stakes is iterated, a node gets a stake in the leader
schedule exactly when the stake accounts delegating to its vote accounts have a nonzero stake, and
gets their sum. -/
theorem leader_schedule_stakes_from_delegations (stakeMap : List StoredStake)
    {voteMap : List StoredVote} (hvotes : (voteMap.map StoredVote.pubkey).Nodup)
    {stakeVoteMap : List (Pubkey × (Nat × StoredVote))}
    (horder : stakeVoteMap.Perm (calculateEpochStakes voterPubkey delegationStake stakeMap voteMap))
    (node : Pubkey) (stake : Nat) :
    (node, stake) ∈ leaderScheduleStakes voteState stakeVoteMap ↔
      stake ≠ 0 ∧ stake = ((stakeMap.filter fun stakeAccount => voteMap.any fun voteAccount =>
        voteAccount.pubkey = voterPubkey stakeAccount &&
          (voteState voteAccount).nodePubkey = node).map delegationStake).sum := by
  rw [mem_leaderScheduleStakes_iff, nodeStake_perm voteState horder,
    nodeStake_calculateEpochStakes voterPubkey delegationStake voteState stakeMap hvotes]

theorem leader_schedule_stakes_from_delegations_of_test_maps :
    (testVoteMap.map StoredVote.pubkey).Nodup ∧
      (calculateEpochStakes testVoterPubkey StoredStake.lamports testStakeMap testVoteMap).Perm
        (calculateEpochStakes testVoterPubkey StoredStake.lamports testStakeMap testVoteMap) ∧
      ((⟨10⟩, 150) ∈ leaderScheduleStakes testVoteState
          (calculateEpochStakes testVoterPubkey StoredStake.lamports testStakeMap testVoteMap) ↔
        150 ≠ 0 ∧ 150 = ((testStakeMap.filter fun stakeAccount => testVoteMap.any fun voteAccount =>
          voteAccount.pubkey = testVoterPubkey stakeAccount &&
            (testVoteState voteAccount).nodePubkey = ⟨10⟩).map StoredStake.lamports).sum) :=
  ⟨by decide, List.Perm.refl _, leader_schedule_stakes_from_delegations testVoterPubkey
    StoredStake.lamports testVoteState testStakeMap (by decide) (List.Perm.refl _) ⟨10⟩ 150⟩

theorem leader_schedule_independent_of_hash_order_of_test_maps :
    let stakeVoteMap := calculateEpochStakes testVoterPubkey StoredStake.lamports testStakeMap
      testVoteMap
    stakeVoteMap.reverse.Perm stakeVoteMap ∧
      calculateLeaderSchedule testVoteState (fun stakes _ _ _ => stakes) stakeVoteMap.reverse 3 1000 =
        calculateLeaderSchedule testVoteState (fun stakes _ _ _ => stakes) stakeVoteMap 3 1000 :=
  ⟨List.reverse_perm _, leader_schedule_independent_of_hash_order testVoteState
    (fun stakes _ _ _ => stakes) (List.reverse_perm _) 3 1000⟩

end Delegations

end LiteRpc
