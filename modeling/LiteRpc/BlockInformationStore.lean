import Mathlib.Logic.Function.Basic
import LiteRpc.ProducedBlock

/-!
`BlockInformationStore` of `core/src/stores/block_information_store.rs`: the block informations
by blockhash, the last block height seen, and the latest confirmed and latest finalized block.
`add_block` is called by the block loop and the block-info loop of
`DataCachingService::listen` with blocks and block infos of every commitment; each call is taken
as one step.

`get_latest_block_arc` reads the finalized block for a finalized commitment and the confirmed
block for any other, and `add_block` writes through the same choice: a processed block of a
higher slot becomes the latest confirmed block.
-/

namespace LiteRpc

/-- `BlockInformation`. -/
structure BlockInformation where
  slot : Nat
  blockHeight : Nat
  lastValidBlockheight : Nat
  cleanupSlot : Slot
  blockhash : Hash
  commitmentConfig : Commitment
  blockTime : Nat
deriving DecidableEq, Repr

/-- The order of the commitment levels. -/
def Commitment.rank : Commitment → Nat
  | .processed => 0
  | .confirmed => 1
  | .finalized => 2

structure BlockInformationStore where
  blocks : Hash → Option BlockInformation
  lastBlockheight : Nat
  latestConfirmedBlock : BlockInformation
  latestFinalizedBlock : BlockInformation

namespace BlockInformationStore

def new (latestFinalizedBlock : BlockInformation) : BlockInformationStore where
  blocks := Function.update (fun _ => none) latestFinalizedBlock.blockhash (some latestFinalizedBlock)
  lastBlockheight := latestFinalizedBlock.blockHeight
  latestConfirmedBlock := latestFinalizedBlock
  latestFinalizedBlock := latestFinalizedBlock

/-- `get_latest_block_information`, through `get_latest_block_arc`. -/
def getLatestBlockInformation (self : BlockInformationStore) (commitmentConfig : Commitment) :
    BlockInformation :=
  if commitmentConfig = .finalized then self.latestFinalizedBlock else self.latestConfirmedBlock

/-- `get_block_info`. -/
def getBlockInfo (self : BlockInformationStore) (blockhash : Hash) : Option BlockInformation :=
  self.blocks blockhash

/-- `get_last_blockheight`. -/
def getLastBlockheight (self : BlockInformationStore) : Nat := self.lastBlockheight

/-- The write half of `get_latest_block_arc`: the block becomes the latest of the commitment's
choice when its slot is higher. -/
def updateLatestBlock (self : BlockInformationStore) (blockInfo : BlockInformation) :
    BlockInformationStore :=
  if blockInfo.commitmentConfig = .finalized then
    if blockInfo.slot > self.latestFinalizedBlock.slot then
      { self with latestFinalizedBlock := blockInfo }
    else self
  else if blockInfo.slot > self.latestConfirmedBlock.slot then
    { self with latestConfirmedBlock := blockInfo }
  else self

/-- The `should_update` of an occupied entry: a finalized entry never changes, a confirmed one
only for a finalized block, any other for a confirmed or finalized one. -/
def shouldUpdate (stored commitmentConfig : Commitment) : Bool :=
  match stored with
  | .finalized => false
  | .confirmed => commitmentConfig == .finalized
  | _ => commitmentConfig == .confirmed || commitmentConfig == .finalized

/-- The `match` on `blocks.entry`: whether the entry takes the block, and the blocks after. -/
def updateEntry (blocks : Hash → Option BlockInformation) (blockInfo : BlockInformation) :
    Bool × (Hash → Option BlockInformation) :=
  match blocks blockInfo.blockhash with
  | some entry =>
    let update := shouldUpdate entry.commitmentConfig blockInfo.commitmentConfig
    (update, if update then Function.update blocks blockInfo.blockhash (some blockInfo) else blocks)
  | none => (true, Function.update blocks blockInfo.blockhash (some blockInfo))

def addBlock (self : BlockInformationStore) (blockInfo : BlockInformation) :
    Bool × BlockInformationStore :=
  let lastBlockheight :=
    if self.lastBlockheight < blockInfo.blockHeight then blockInfo.blockHeight
    else self.lastBlockheight
  let self := updateLatestBlock { self with lastBlockheight } blockInfo
  let entry := updateEntry self.blocks blockInfo
  (entry.1, { self with blocks := entry.2 })

/-- `add_block` calls one after the other. -/
def addBlocks (self : BlockInformationStore) (blockInfos : List BlockInformation) :
    BlockInformationStore :=
  blockInfos.foldl (fun store blockInfo => (store.addBlock blockInfo).2) self

section Step

variable (self : BlockInformationStore) (blockInfo : BlockInformation)

theorem updateLatestBlock_blocks : (updateLatestBlock self blockInfo).blocks = self.blocks := by
  unfold updateLatestBlock
  split_ifs <;> rfl

theorem updateLatestBlock_latestConfirmedBlock :
    (updateLatestBlock self blockInfo).latestConfirmedBlock =
      if blockInfo.commitmentConfig ≠ .finalized ∧ self.latestConfirmedBlock.slot < blockInfo.slot
      then blockInfo else self.latestConfirmedBlock := by
  unfold updateLatestBlock
  by_cases hfin : blockInfo.commitmentConfig = .finalized
  · simp only [hfin, if_true, ne_eq, not_true_eq_false, false_and, if_false]
    split_ifs <;> rfl
  · simp only [hfin, if_false, ne_eq, not_false_eq_true, true_and, gt_iff_lt]
    split_ifs <;> rfl

theorem updateLatestBlock_latestFinalizedBlock :
    (updateLatestBlock self blockInfo).latestFinalizedBlock =
      if blockInfo.commitmentConfig = .finalized ∧ self.latestFinalizedBlock.slot < blockInfo.slot
      then blockInfo else self.latestFinalizedBlock := by
  unfold updateLatestBlock
  by_cases hfin : blockInfo.commitmentConfig = .finalized
  · simp only [hfin, if_true, true_and, gt_iff_lt]
    split_ifs <;> rfl
  · simp only [hfin, if_false, false_and]
    split_ifs <;> rfl

theorem addBlock_latestConfirmedBlock :
    (self.addBlock blockInfo).2.latestConfirmedBlock =
      if blockInfo.commitmentConfig ≠ .finalized ∧ self.latestConfirmedBlock.slot < blockInfo.slot
      then blockInfo else self.latestConfirmedBlock :=
  updateLatestBlock_latestConfirmedBlock _ blockInfo

theorem addBlock_latestFinalizedBlock :
    (self.addBlock blockInfo).2.latestFinalizedBlock =
      if blockInfo.commitmentConfig = .finalized ∧ self.latestFinalizedBlock.slot < blockInfo.slot
      then blockInfo else self.latestFinalizedBlock :=
  updateLatestBlock_latestFinalizedBlock _ blockInfo

theorem addBlock_blocks : (self.addBlock blockInfo).2.blocks = (updateEntry self.blocks blockInfo).2 := by
  simp only [addBlock, updateLatestBlock_blocks]

theorem rank_le_of_shouldUpdate {stored commitmentConfig : Commitment}
    (h : shouldUpdate stored commitmentConfig = true) : stored.rank ≤ commitmentConfig.rank := by
  cases stored <;> cases commitmentConfig <;> simp_all [shouldUpdate, Commitment.rank]

theorem updateEntry_of_ne {blocks : Hash → Option BlockInformation} {hash : Hash}
    (hhash : hash ≠ blockInfo.blockhash) : (updateEntry blocks blockInfo).2 hash = blocks hash := by
  unfold updateEntry
  split
  · dsimp only
    split_ifs
    · exact Function.update_of_ne hhash _ _
    · rfl
  · exact Function.update_of_ne hhash _ _

theorem updateEntry_of_some {blocks : Hash → Option BlockInformation} {hash : Hash}
    {entry : BlockInformation} (h : blocks hash = some entry) :
    ∃ entry', (updateEntry blocks blockInfo).2 hash = some entry' ∧
      entry.commitmentConfig.rank ≤ entry'.commitmentConfig.rank := by
  by_cases hhash : hash = blockInfo.blockhash
  · subst hhash
    unfold updateEntry
    rw [h]
    by_cases hu : shouldUpdate entry.commitmentConfig blockInfo.commitmentConfig
    · exact ⟨blockInfo, by simp [hu], rank_le_of_shouldUpdate hu⟩
    · exact ⟨entry, by simp [hu, h], le_refl _⟩
  · exact ⟨entry, by rw [updateEntry_of_ne blockInfo hhash, h], le_refl _⟩

end Step

/-- What `add_block` never undoes: the slots of the latest blocks, and each stored blockhash
with its commitment. -/
structure Grows (s s' : BlockInformationStore) : Prop where
  confirmed_slot : s.latestConfirmedBlock.slot ≤ s'.latestConfirmedBlock.slot
  finalized_slot : s.latestFinalizedBlock.slot ≤ s'.latestFinalizedBlock.slot
  blocks : ∀ hash entry, s.blocks hash = some entry →
    ∃ entry', s'.blocks hash = some entry' ∧
      entry.commitmentConfig.rank ≤ entry'.commitmentConfig.rank

theorem Grows.refl (s : BlockInformationStore) : Grows s s :=
  ⟨le_refl _, le_refl _, fun _ entry h => ⟨entry, h, le_refl _⟩⟩

theorem Grows.trans {s₁ s₂ s₃ : BlockInformationStore} (h₁₂ : Grows s₁ s₂) (h₂₃ : Grows s₂ s₃) :
    Grows s₁ s₃ where
  confirmed_slot := Nat.le_trans h₁₂.confirmed_slot h₂₃.confirmed_slot
  finalized_slot := Nat.le_trans h₁₂.finalized_slot h₂₃.finalized_slot
  blocks hash entry h := by
    obtain ⟨entry₂, h₂, hrank₂⟩ := h₁₂.blocks hash entry h
    obtain ⟨entry₃, h₃, hrank₃⟩ := h₂₃.blocks hash entry₂ h₂
    exact ⟨entry₃, h₃, Nat.le_trans hrank₂ hrank₃⟩

theorem grows_addBlock (self : BlockInformationStore) (blockInfo : BlockInformation) :
    Grows self (self.addBlock blockInfo).2 where
  confirmed_slot := by
    rw [addBlock_latestConfirmedBlock]
    split_ifs with h
    · exact Nat.le_of_lt h.2
    · exact le_refl _
  finalized_slot := by
    rw [addBlock_latestFinalizedBlock]
    split_ifs with h
    · exact Nat.le_of_lt h.2
    · exact le_refl _
  blocks hash entry h := by
    rw [addBlock_blocks]
    exact updateEntry_of_some blockInfo h

/-- A processed block of a slot above the latest confirmed block becomes the latest block read
for the confirmed commitment. -/
theorem processed_block_read_as_confirmed (self : BlockInformationStore)
    (blockInfo : BlockInformation) (hprocessed : blockInfo.commitmentConfig = .processed)
    (hslot : (self.getLatestBlockInformation .confirmed).slot < blockInfo.slot) :
    ((self.addBlock blockInfo).2.getLatestBlockInformation .confirmed).commitmentConfig =
      .processed := by
  have hnotfin : blockInfo.commitmentConfig ≠ .finalized := by
    rw [hprocessed]
    decide
  simp only [getLatestBlockInformation, if_neg (show Commitment.confirmed ≠ .finalized by decide)]
    at hslot ⊢
  rw [addBlock_latestConfirmedBlock, if_pos ⟨hnotfin, hslot⟩, hprocessed]

theorem processed_block_read_as_confirmed_after_new :
    let b : BlockInformation := ⟨1, 1, 151, 1001, ⟨1⟩, .finalized, 0⟩
    let blockInfo : BlockInformation := ⟨2, 2, 152, 1002, ⟨2⟩, .processed, 0⟩
    blockInfo.commitmentConfig = .processed ∧
      ((new b).getLatestBlockInformation .confirmed).slot < blockInfo.slot ∧
      (((new b).addBlock blockInfo).2.getLatestBlockInformation .confirmed).commitmentConfig =
        .processed :=
  ⟨rfl, by decide, processed_block_read_as_confirmed (new ⟨1, 1, 151, 1001, ⟨1⟩, .finalized, 0⟩)
    ⟨2, 2, 152, 1002, ⟨2⟩, .processed, 0⟩ rfl (by decide)⟩

end BlockInformationStore

end LiteRpc
