import LiteRpc.Lib.LastWriterWins
import LiteRpc.TakableMap

/-!
The stake and vote stores of `stake_vote`: `HashMap`s from pubkeys to the last state seen of each
account, kept by last-writer-wins on `last_update_slot`. `notify_stake` and
`vote_map_insert_vote` store a state unless the stored one is newer; `remove_stake` and
`remove_from_store` drop the stored state unless it is newer than the removal. Neither leaves a
tombstone, so a Notify older than a Remove that arrives after it brings the account back.

The two stores are one shape with different field names and one difference, the `unwrap_or`
default of the removal; both are written as the shape applied to their own values. The
`Delegation` of a stake and the `VoteState` of a vote are carried along unread and left out.
-/

namespace LiteRpc

/-- `StoredStake`. -/
structure StoredStake where
  pubkey : Pubkey
  lamports : Nat
  lastUpdateSlot : Slot
  writeVersion : Nat
deriving DecidableEq, Repr

/-- `StakeMap`, a `HashMap<Pubkey, StoredStake>`. -/
abbrev StakeMap := Pubkey → Option StoredStake

/-- `StoredVote`. -/
structure StoredVote where
  pubkey : Pubkey
  lastUpdateSlot : Slot
  writeVersion : Nat
deriving DecidableEq, Repr

/-- `VoteMap`, a `HashMap<Pubkey, Arc<StoredVote>>`. -/
abbrev VoteMap := Pubkey → Option StoredVote

/-- `EpochVoteStakes`. -/
structure EpochVoteStakes where
  voteStakes : Pubkey → Option (Nat × StoredVote)
  epoch : Nat

/-- `EpochVoteStakesCache`. -/
structure EpochVoteStakesCache where
  cache : Nat → Option EpochVoteStakes

/-- `VoteContent`: the vote map, and the cache of epoch vote stakes that no update touches. -/
abbrev VoteContent := VoteMap × EpochVoteStakesCache

section Family

variable {α : Type} (pubkey : α → Pubkey) (lastUpdateSlot : α → Slot)

/-- `process_stake_action` and `process_vote_action`: a Notify goes to the store's insert, which
reads the account's own `last_update_slot` and not the slot of the Notify, and a Remove to its
removal, `absent` being what its `unwrap_or` answers for an account not stored. -/
def processAction (absent : Bool) (map : Pubkey → Option α) : UpdateAction α → Pubkey → Option α
  | .notify _ account => LastWriterWins.write lastUpdateSlot pubkey map account
  | .remove accountPk slot => LastWriterWins.erase lastUpdateSlot absent map accountPk slot

/-- The account an action is about. -/
def actionPubkey : UpdateAction α → Pubkey
  | .notify _ account => pubkey account
  | .remove accountPk _ => accountPk

/-- The slot an action is compared by. -/
def actionSlot : UpdateAction α → Slot
  | .notify _ account => lastUpdateSlot account
  | .remove _ slot => slot

/-- What an action does to the state stored for its account. -/
def actionAtKey : UpdateAction α → Option α → Option α
  | .notify _ account => LastWriterWins.winner lastUpdateSlot account
  | .remove _ slot => LastWriterWins.survivor lastUpdateSlot slot

/-- The pairs of actions on one account whose order matters: a Notify older than a Remove, on a
map whose state of the account is absent or not newer than the Remove. -/
def Resurrects (map : Pubkey → Option α) : UpdateAction α → UpdateAction α → Prop
  | .notify _ account, .remove accountPk slot =>
    lastUpdateSlot account < slot ∧ ∀ s, map accountPk = some s → lastUpdateSlot s ≤ slot
  | _, _ => False

theorem processAction_eq_atKey (absent : Bool) (map : Pubkey → Option α) (a : UpdateAction α) :
    processAction pubkey lastUpdateSlot absent map a =
      LastWriterWins.atKey (actionPubkey pubkey a) (actionAtKey lastUpdateSlot a) map := by
  cases a with
  | notify slot account => exact LastWriterWins.write_eq_atKey _ _ _ _
  | remove accountPk slot => exact LastWriterWins.erase_eq_atKey _ _ _ _ _

end Family

namespace StakeStore

def notifyStake (map : StakeMap) (stake : StoredStake) : StakeMap :=
  LastWriterWins.write StoredStake.lastUpdateSlot StoredStake.pubkey map stake

def removeStake (stakes : StakeMap) (accountPk : Pubkey) (updateSlot : Slot) : StakeMap :=
  LastWriterWins.erase StoredStake.lastUpdateSlot false stakes accountPk updateSlot

def processStakeAction (stakes : StakeMap) (action : UpdateAction StoredStake) : StakeMap :=
  processAction StoredStake.pubkey StoredStake.lastUpdateSlot false stakes action

end StakeStore

namespace VoteStore

def voteMapInsertVote (map : VoteMap) (voteData : StoredVote) : VoteMap :=
  LastWriterWins.write StoredVote.lastUpdateSlot StoredVote.pubkey map voteData

def removeFromStore (votes : VoteMap) (accountPk : Pubkey) (updateSlot : Slot) : VoteMap :=
  LastWriterWins.erase StoredVote.lastUpdateSlot true votes accountPk updateSlot

def processVoteAction (votes : VoteMap) (action : UpdateAction StoredVote) : VoteMap :=
  processAction StoredVote.pubkey StoredVote.lastUpdateSlot true votes action

end VoteStore

instance : TakableContent StoredStake StakeMap := ⟨StakeStore.processStakeAction⟩

instance : TakableContent StoredVote VoteContent :=
  ⟨fun content val => (VoteStore.processVoteAction content.1 val, content.2)⟩

/-- A Notify older than a Remove of its account, on a store whose state of the account is absent
or not newer than the Remove: the account is gone when the Notify comes first and holds the
Notify's state when the Remove comes first, in the stake store and in the vote store alike. -/
theorem older_notify_after_remove_survives (stakes : StakeMap) (stake : StoredStake)
    (stakeSlot : Slot) (hstake : stake.lastUpdateSlot < stakeSlot)
    (hstakes : ∀ s, stakes stake.pubkey = some s → s.lastUpdateSlot ≤ stakeSlot)
    (votes : VoteMap) (vote : StoredVote) (voteSlot : Slot) (hvote : vote.lastUpdateSlot < voteSlot)
    (hvotes : ∀ v, votes vote.pubkey = some v → v.lastUpdateSlot ≤ voteSlot) :
    StakeStore.processStakeAction (StakeStore.processStakeAction stakes
        (.notify stake.lastUpdateSlot stake)) (.remove stake.pubkey stakeSlot) stake.pubkey = none ∧
      StakeStore.processStakeAction (StakeStore.processStakeAction stakes
        (.remove stake.pubkey stakeSlot)) (.notify stake.lastUpdateSlot stake) stake.pubkey =
        some stake ∧
      VoteStore.processVoteAction (VoteStore.processVoteAction votes
        (.notify vote.lastUpdateSlot vote)) (.remove vote.pubkey voteSlot) vote.pubkey = none ∧
      VoteStore.processVoteAction (VoteStore.processVoteAction votes
        (.remove vote.pubkey voteSlot)) (.notify vote.lastUpdateSlot vote) vote.pubkey =
        some vote := by
  obtain ⟨hs₁, hs₂⟩ := LastWriterWins.survivor_winner_of_lt StoredStake.lastUpdateSlot hstake hstakes
  obtain ⟨hv₁, hv₂⟩ := LastWriterWins.survivor_winner_of_lt StoredVote.lastUpdateSlot hvote hvotes
  simp only [StakeStore.processStakeAction, VoteStore.processVoteAction, processAction_eq_atKey,
    actionPubkey, actionAtKey, LastWriterWins.atKey_self]
  exact ⟨hs₁, hs₂, hv₁, hv₂⟩

theorem older_notify_after_remove_survives_on_empty :
    let stake : StoredStake := ⟨⟨1⟩, 100, 3, 0⟩
    let vote : StoredVote := ⟨⟨2⟩, 3, 0⟩
    stake.lastUpdateSlot < 5 ∧ (∀ s, (fun _ => none : StakeMap) stake.pubkey = some s →
        s.lastUpdateSlot ≤ 5) ∧
      vote.lastUpdateSlot < 5 ∧ (∀ v, (fun _ => none : VoteMap) vote.pubkey = some v →
        v.lastUpdateSlot ≤ 5) ∧
      StakeStore.processStakeAction (StakeStore.processStakeAction (fun _ => none)
        (.notify stake.lastUpdateSlot stake)) (.remove stake.pubkey 5) stake.pubkey = none ∧
      StakeStore.processStakeAction (StakeStore.processStakeAction (fun _ => none)
        (.remove stake.pubkey 5)) (.notify stake.lastUpdateSlot stake) stake.pubkey = some stake ∧
      VoteStore.processVoteAction (VoteStore.processVoteAction (fun _ => none)
        (.notify vote.lastUpdateSlot vote)) (.remove vote.pubkey 5) vote.pubkey = none ∧
      VoteStore.processVoteAction (VoteStore.processVoteAction (fun _ => none)
        (.remove vote.pubkey 5)) (.notify vote.lastUpdateSlot vote) vote.pubkey = some vote :=
  have hstake : ∀ s, (fun _ => none : StakeMap) ⟨1⟩ = some s → s.lastUpdateSlot ≤ 5 :=
    fun _ h => by cases h
  have hvote : ∀ v, (fun _ => none : VoteMap) ⟨2⟩ = some v → v.lastUpdateSlot ≤ 5 :=
    fun _ h => by cases h
  ⟨by decide, hstake, by decide, hvote, older_notify_after_remove_survives (fun _ => none)
    ⟨⟨1⟩, 100, 3, 0⟩ 5 (by decide) hstake (fun _ => none) ⟨⟨2⟩, 3, 0⟩ 5 (by decide) hvote⟩

/-- A `TakableMap` loses and doubles no update across a `take` and the `merge` after it: the
actions added while the content is there and not forced are in the content taken, and all the
others, behind those already waiting, are applied to the content merged back, in their order,
leaving the buffer empty. `merge` fails only with a content held and then changes nothing, and
`take` on the stake and vote maps hands out both contents or neither. -/
theorem takable_map_applies_each_update_once {T C : Type} [TakableContent T C] (c₀ : C)
    (updates : List (UpdateAction T)) (notifier : Notifier)
    (before after : List (UpdateAction T × Bool)) (c' : C)
    (stakes : TakableMap StoredStake StakeMap) (votes : TakableMap StoredVote VoteContent) :
    let taken := (TakableMap.addValues ⟨some c₀, updates, notifier⟩ before).take
    let merged := (taken.2.addValues after).merge c'
    taken.1 = .map (((before.filter fun add => !add.2).map (·.1)).foldl TakableContent.addValue c₀) ∧
      merged.1 = .ok () ∧
      merged.2.content = some ((updates ++ (before.filter (·.2)).map (·.1) ++
        after.map (·.1)).foldl TakableContent.addValue c') ∧
      merged.2.updates = [] ∧
      (∀ (m : TakableMap T C) (content : C),
        (m.merge content).1 = .ok () ∨ (m.content.isSome ∧ (m.merge content).2 = m)) ∧
      ∃ r, TakableMap.takePair stakes votes = .ok r ∧
        ((∃ c₁ c₂, r.1 = .map (c₁, c₂) ∧ stakes.content = some c₁ ∧ votes.content = some c₂ ∧
            r.2.1 = { stakes with content := none } ∧ r.2.2 = { votes with content := none }) ∨
          (∃ notifiers, r.1 = .taken notifiers ∧ r.2 = (stakes, votes))) := by
  dsimp only
  -- the actions before the take split by `force`, and those after it all wait
  rw [TakableMap.addValues_of_some _ rfl, TakableMap.take_of_some _ rfl,
    TakableMap.addValues_of_none _ rfl, TakableMap.merge_of_none _ rfl]
  exact ⟨rfl, rfl, rfl, rfl, TakableMap.merge_ok_or_unchanged, TakableMap.takePair_cases stakes votes⟩

end LiteRpc
