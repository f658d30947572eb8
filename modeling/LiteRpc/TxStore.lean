import Mathlib.Logic.Function.Basic
import Mathlib.Data.List.Pairwise
import LiteRpc.ProducedBlock
import LiteRpc.Lib.Run

/-!
`TxStore`, the statuses lite-rpc keeps for transactions by signature, and the two tasks that write
it: `TxSender::forward_txs`, which records every transaction it forwards with no status, and the
block loop of `DataCachingService::listen`, which records the status that each processed,
confirmed or finalized block gives to its transactions.

The `DashMap` of the store is a function of the signature: `clean` retains entries by their own
value and nothing else iterates over it.
-/

namespace LiteRpc

/-- `TransactionConfirmationStatus` of the Solana transaction status crate. -/
inductive TransactionConfirmationStatus where
  | processed
  | confirmed
  | finalized
deriving DecidableEq, Repr

namespace TransactionConfirmationStatus

/-- The order `Processed < Confirmed < Finalized`, with no status below them all. -/
def rank : Option TransactionConfirmationStatus → Nat
  | none => 0
  | some .processed => 1
  | some .confirmed => 2
  | some .finalized => 3

end TransactionConfirmationStatus

/-- `TransactionStatus`; its `status` field is `err` as a `Result` and is left out. -/
structure TransactionStatus where
  slot : Slot
  confirmations : Option Nat
  err : Option TransactionError
  confirmationStatus : Option TransactionConfirmationStatus
deriving DecidableEq, Repr

/-- Transaction properties. -/
structure TxProps where
  status : Option TransactionStatus
  lastValidBlockheight : Nat
  sentByLiteRpc : Bool
deriving DecidableEq, Repr

structure TxStore where
  store : Signature → Option TxProps

/-- `SentTransactionInfo`: a transaction sent through lite-rpc, with the wire bytes. -/
structure SentTransactionInfo where
  signature : Signature
  slot : Slot
  transaction : List UInt8
  lastValidBlockHeight : Nat
  prioritizationFee : Nat
deriving DecidableEq, Repr

namespace TxStore

def new : TxStore := ⟨fun _ => none⟩

/-- Records the status; returns whether the transaction was sent by lite-rpc. -/
def updateStatus (self : TxStore) (signature : Signature) (transactionStatus : TransactionStatus)
    (lastValidBlockheight : Nat) : Bool × TxStore :=
  match self.store signature with
  | some props =>
    (props.sentByLiteRpc,
      ⟨Function.update self.store signature (some { props with status := some transactionStatus })⟩)
  | none =>
    (false, ⟨Function.update self.store signature
      (some ⟨some transactionStatus, lastValidBlockheight, false⟩)⟩)

/-- Inserts the properties and returns the ones replaced. -/
def insert (self : TxStore) (signature : Signature) (props : TxProps) : Option TxProps × TxStore :=
  (self.store signature, ⟨Function.update self.store signature (some props)⟩)

def get (self : TxStore) (signature : Signature) : Option TxProps := self.store signature

def clean (self : TxStore) (currentFinalizedBlockheight : Nat) : TxStore :=
  ⟨fun signature => (self.store signature).filter fun v =>
    decide (v.lastValidBlockheight ≥ currentFinalizedBlockheight)⟩

def isTransactionConfirmed (self : TxStore) (signature : Signature) : Bool :=
  match self.store signature with
  | some props => props.status.isSome
  | none => false

/-- The status stored for a signature. -/
def statusOf (self : TxStore) (signature : Signature) : Option TransactionStatus :=
  (self.get signature).bind (·.status)

theorem statusOf_updateStatus (self : TxStore) (signature signature' : Signature)
    (transactionStatus : TransactionStatus) (lastValidBlockheight : Nat) :
    (self.updateStatus signature transactionStatus lastValidBlockheight).2.statusOf signature' =
      if signature' = signature then some transactionStatus else self.statusOf signature' := by
  unfold updateStatus statusOf get
  split <;> by_cases h : signature' = signature <;> simp [h]

theorem statusOf_insert (self : TxStore) (signature signature' : Signature) (props : TxProps) :
    (self.insert signature props).2.statusOf signature' =
      if signature' = signature then props.status else self.statusOf signature' := by
  unfold insert statusOf get
  by_cases h : signature' = signature <;> simp [h]

end TxStore

namespace TxSender

/-- The store part of `forward_txs`: the transaction is recorded as sent, with no status, and then
handed to the TPU service. -/
def forwardTxs (txs : TxStore) (transactionInfo : SentTransactionInfo) : TxStore :=
  (txs.insert transactionInfo.signature
    ⟨none, transactionInfo.lastValidBlockHeight, true⟩).2

end TxSender

namespace DataCachingService

/-- `MAX_RECENT_BLOCKHASHES` of the Solana SDK. -/
def maxRecentBlockhashes : Nat := 300

def confirmationStatusOf : Commitment → TransactionConfirmationStatus
  | .finalized => .finalized
  | .confirmed => .confirmed
  | .processed => .processed

/-- The status a block gives to one of its transactions. -/
def blockStatus (block : ProducedBlock) (tx : TransactionInfo) : TransactionStatus :=
  ⟨block.slot, none, tx.err, some (confirmationStatusOf block.commitmentConfig)⟩

/-- The body of the loop over the transactions of a block. `lastValidBlockheightOf` reads the last
valid block height of a recent blockhash in the block information store. -/
def updateTx (lastValidBlockheightOf : Hash → Option Nat) (block : ProducedBlock) (txs : TxStore)
    (tx : TransactionInfo) : TxStore :=
  let lastValidBlockheight := match lastValidBlockheightOf tx.recentBlockhash with
    | some lastValidBlockheight => lastValidBlockheight
    | none => block.blockHeight + maxRecentBlockhashes
  (txs.updateStatus tx.signature (blockStatus block tx) lastValidBlockheight).2

/-- One iteration of the block loop on the store. -/
def processBlock (lastValidBlockheightOf : Hash → Option Nat) (txs : TxStore)
    (block : ProducedBlock) : TxStore :=
  block.transactions.foldl (updateTx lastValidBlockheightOf block) txs

theorem statusOf_foldl_updateTx (lastValidBlockheightOf : Hash → Option Nat)
    (block : ProducedBlock) (signature : Signature) :
    ∀ (l : List TransactionInfo) (txs : TxStore),
      (l.foldl (updateTx lastValidBlockheightOf block) txs).statusOf signature =
        match (l.filter (·.signature = signature)).getLast? with
        | some tx => some (blockStatus block tx)
        | none => txs.statusOf signature
  | [], _ => rfl
  | tx :: l, txs => by
    rw [List.foldl_cons, statusOf_foldl_updateTx lastValidBlockheightOf block signature l]
    by_cases h : tx.signature = signature
    · cases hl : (l.filter (·.signature = signature)).getLast? with
      | none =>
        rw [List.getLast?_eq_none_iff] at hl
        simp [h, hl, updateTx, TxStore.statusOf_updateStatus]
      | some tx' => simp [h, hl, List.getLast?_cons]
    · simp [h, updateTx, TxStore.statusOf_updateStatus, Ne.symm h]

theorem statusOf_processBlock (lastValidBlockheightOf : Hash → Option Nat) (txs : TxStore)
    (block : ProducedBlock) (signature : Signature) :
    (processBlock lastValidBlockheightOf txs block).statusOf signature =
      match (block.transactions.filter (·.signature = signature)).getLast? with
      | some tx => some (blockStatus block tx)
      | none => txs.statusOf signature :=
  statusOf_foldl_updateTx lastValidBlockheightOf block signature block.transactions txs

end DataCachingService

namespace TxStore

open DataCachingService TransactionConfirmationStatus

/-- A call of one of the two writers: `forward_txs` of a transaction, or the block loop on a
block. -/
inductive TxEvent where
  | forwardTxs (transactionInfo : SentTransactionInfo)
  | block (block : ProducedBlock)

def step (lastValidBlockheightOf : Hash → Option Nat) (txs : TxStore) : TxEvent → TxStore
  | .forwardTxs transactionInfo => TxSender.forwardTxs txs transactionInfo
  | .block block => processBlock lastValidBlockheightOf txs block

/-- The commitment of an event that is a block containing `signature`. -/
def TxEvent.blockCommitment (signature : Signature) : TxEvent → Option Commitment
  | .block b => if b.transactions.any (·.signature = signature) then some b.commitmentConfig else none
  | .forwardTxs _ => none

/-- Whether an event forwards `signature`. -/
def TxEvent.forwards (signature : Signature) : TxEvent → Bool
  | .forwardTxs transactionInfo => transactionInfo.signature = signature
  | .block _ => false

/-- The rank of the status a block at `commitment` gives. -/
def commitmentRank (commitment : Commitment) : Nat := rank (some (confirmationStatusOf commitment))

/-- Two events in this order that cannot take the status of `signature` back: after a block
containing it, no forward of it and no block containing it at a lower commitment. -/
def Ordered (signature : Signature) (e e' : TxEvent) : Prop :=
  ∀ c ∈ e.blockCommitment signature, e'.forwards signature = false ∧
    ∀ c' ∈ e'.blockCommitment signature, commitmentRank c ≤ commitmentRank c'

instance (signature : Signature) (e e' : TxEvent) : Decidable (Ordered signature e e') := by
  unfold Ordered
  cases e.blockCommitment signature <;> cases e'.blockCommitment signature <;> infer_instance

/-- The status `o'` is present wherever `o` is, at a confirmation status not below. -/
def StatusLe (o o' : Option TransactionStatus) : Prop :=
  ∀ st ∈ o, ∃ st' ∈ o', rank st.confirmationStatus ≤ rank st'.confirmationStatus

theorem StatusLe.refl (o : Option TransactionStatus) : StatusLe o o :=
  fun st hst => ⟨st, hst, le_rfl⟩

theorem StatusLe.trans {o₁ o₂ o₃ : Option TransactionStatus} (h₁ : StatusLe o₁ o₂)
    (h₂ : StatusLe o₂ o₃) : StatusLe o₁ o₃ := by
  intro st hst
  obtain ⟨st₂, hst₂, hle₂⟩ := h₁ st hst
  obtain ⟨st₃, hst₃, hle₃⟩ := h₂ st₂ hst₂
  exact ⟨st₃, hst₃, le_trans hle₂ hle₃⟩

section Runs

variable (lastValidBlockheightOf : Hash → Option Nat) (signature : Signature)

theorem statusOf_step (txs : TxStore) (e : TxEvent) :
    (step lastValidBlockheightOf txs e).statusOf signature =
      if e.forwards signature then none
      else match e.blockCommitment signature with
        | some _ => (step lastValidBlockheightOf txs e).statusOf signature
        | none => txs.statusOf signature := by
  cases e with
  | forwardTxs transactionInfo =>
    by_cases h : transactionInfo.signature = signature
    · simp [step, TxEvent.forwards, h, TxSender.forwardTxs, statusOf_insert]
    · simp [step, TxEvent.forwards, TxEvent.blockCommitment, h, TxSender.forwardTxs,
        statusOf_insert, Ne.symm h]
  | block block =>
    simp only [TxEvent.forwards, Bool.false_eq_true, if_false, TxEvent.blockCommitment]
    split_ifs with h
    · rfl
    · rw [step, statusOf_processBlock]
      have hnil : block.transactions.filter (·.signature = signature) = [] := by
        simpa using h
      simp [hnil]

theorem exists_statusOf_step_of_blockCommitment (txs : TxStore) {e : TxEvent} {c : Commitment}
    (hc : e.blockCommitment signature = some c) :
    ∃ st, (step lastValidBlockheightOf txs e).statusOf signature = some st ∧
      st.confirmationStatus = some (confirmationStatusOf c) := by
  cases e with
  | forwardTxs transactionInfo => simp [TxEvent.blockCommitment] at hc
  | block block =>
    simp only [TxEvent.blockCommitment] at hc
    split_ifs at hc with h
    cases hc
    -- the last transaction of the block with the signature gives the status
    obtain ⟨tx, htx⟩ : ∃ tx, (block.transactions.filter (·.signature = signature)).getLast? =
        some tx := by
      apply Option.isSome_iff_exists.mp
      simpa [List.getLast?_isSome, List.filter_eq_nil_iff] using h
    rw [step, statusOf_processBlock, htx]
    exact ⟨_, rfl, rfl⟩

theorem statusOf_step_of_blockCommitment (txs : TxStore) {e : TxEvent} {c : Commitment}
    (hc : e.blockCommitment signature = some c) {st : TransactionStatus}
    (hst : (step lastValidBlockheightOf txs e).statusOf signature = some st) :
    st.confirmationStatus = some (confirmationStatusOf c) := by
  obtain ⟨st', hst', hcs⟩ :=
    exists_statusOf_step_of_blockCommitment lastValidBlockheightOf signature txs hc
  rw [hst] at hst'
  cases hst'
  exact hcs

theorem statusOf_run_provenance : ∀ (events : List TxEvent) (txs : TxStore) (st : TransactionStatus),
    (StepSystem.run (step lastValidBlockheightOf) txs events).statusOf signature = some st →
      txs.statusOf signature = some st ∨ ∃ e ∈ events, ∃ c, e.blockCommitment signature = some c ∧
        st.confirmationStatus = some (confirmationStatusOf c)
  | [], _, _, hst => .inl hst
  | e :: events, txs, st, hst => by
    rw [StepSystem.run_cons] at hst
    rcases statusOf_run_provenance events _ st hst with hst | ⟨e', he', c, hc, hcs⟩
    · -- the status was already there after the first event
      cases hc : e.blockCommitment signature with
      | some c =>
        exact .inr ⟨e, List.mem_cons_self, c, hc,
          statusOf_step_of_blockCommitment lastValidBlockheightOf signature txs hc hst⟩
      | none =>
        rw [statusOf_step, hc] at hst
        split_ifs at hst
        exact .inl hst
    · exact .inr ⟨e', List.mem_cons_of_mem e he', c, hc, hcs⟩

theorem statusLe_step (txs : TxStore) (e : TxEvent)
    (hfwd : txs.statusOf signature ≠ none → e.forwards signature = false)
    (hrank : ∀ st ∈ txs.statusOf signature, ∀ c ∈ e.blockCommitment signature,
      rank st.confirmationStatus ≤ commitmentRank c) :
    StatusLe (txs.statusOf signature) ((step lastValidBlockheightOf txs e).statusOf signature) := by
  intro st hst
  have hf := hfwd (by simp [Option.mem_def.mp hst])
  cases hc : e.blockCommitment signature with
  | none =>
    refine ⟨st, ?_, le_rfl⟩
    rw [statusOf_step, hf, hc]
    simpa using hst
  | some c =>
    obtain ⟨st', hst', hcs⟩ :=
      exists_statusOf_step_of_blockCommitment lastValidBlockheightOf signature txs hc
    refine ⟨st', hst', ?_⟩
    rw [hcs]
    exact hrank st hst c hc

theorem statusOf_run_new_provenance {events : List TxEvent} {st : TransactionStatus}
    (hst : (StepSystem.run (step lastValidBlockheightOf) new events).statusOf signature = some st) :
    ∃ e ∈ events, ∃ c, e.blockCommitment signature = some c ∧
      st.confirmationStatus = some (confirmationStatusOf c) := by
  rcases statusOf_run_provenance lastValidBlockheightOf signature events new st hst with
    hnew | hblock
  · simp [new, statusOf, get] at hnew
  · exact hblock

theorem statusLe_run_append_step {pre : List TxEvent} {e : TxEvent}
    (hbefore : ∀ e₀ ∈ pre, Ordered signature e₀ e) :
    StatusLe ((StepSystem.run (step lastValidBlockheightOf) new pre).statusOf signature)
      ((StepSystem.run (step lastValidBlockheightOf) new (pre ++ [e])).statusOf signature) := by
  rw [StepSystem.run_append, StepSystem.run_cons, StepSystem.run_nil]
  apply statusLe_step
  · -- a stored status came from a block of `pre`, which no forward follows
    intro hne
    obtain ⟨st, hst⟩ := Option.ne_none_iff_exists'.mp hne
    obtain ⟨e₀, he₀, c, hc, -⟩ := statusOf_run_new_provenance lastValidBlockheightOf signature hst
    exact (hbefore e₀ he₀ c hc).1
  · intro st hst c' hc'
    obtain ⟨e₀, he₀, c, hc, hcs⟩ :=
      statusOf_run_new_provenance lastValidBlockheightOf signature hst
    rw [hcs]
    exact (hbefore e₀ he₀ c hc).2 c' hc'

/-- Along a run from an empty store in which no block containing the signature is followed by a
forward of it, or by a block containing it at a lower commitment, a stored status of the signature
stays stored and its confirmation status never decreases. -/
theorem status_never_regresses (pre rest : List TxEvent)
    (h : (pre ++ rest).Pairwise (Ordered signature)) :
    StatusLe ((StepSystem.run (step lastValidBlockheightOf) new pre).statusOf signature)
      ((StepSystem.run (step lastValidBlockheightOf) new (pre ++ rest)).statusOf signature) := by
  induction rest generalizing pre with
  | nil => simpa using StatusLe.refl _
  | cons e rest ih =>
    have h' : ((pre ++ [e]) ++ rest).Pairwise (Ordered signature) := by simpa using h
    have hbefore : ∀ e₀ ∈ pre, Ordered signature e₀ e :=
      fun e₀ he₀ => (List.pairwise_append.mp h).2.2 e₀ he₀ e List.mem_cons_self
    exact (statusLe_run_append_step lastValidBlockheightOf signature hbefore).trans
      (by simpa using ih (pre ++ [e]) h')

end Runs

theorem status_never_regresses_processed_then_finalized :
    let t : TransactionInfo := ⟨⟨7⟩, false, none, none, none, ⟨0⟩, [], []⟩
    let info : SentTransactionInfo := ⟨⟨7⟩, 0, [], 100, 0⟩
    let pre : List TxEvent := [.forwardTxs info, .block ⟨[t], ⟨1⟩, 0, 1, .processed⟩]
    let rest : List TxEvent := [.block ⟨[t], ⟨1⟩, 0, 1, .finalized⟩]
    (pre ++ rest).Pairwise (Ordered ⟨7⟩) ∧
      StatusLe ((StepSystem.run (step fun _ => none) new pre).statusOf ⟨7⟩)
        ((StepSystem.run (step fun _ => none) new (pre ++ rest)).statusOf ⟨7⟩) :=
  ⟨by decide, status_never_regresses (fun _ => none) ⟨7⟩ _ _ (by decide)⟩

/-- A second forward after a block resets the status, and the confirmed block that the
multiplexer can send after the finalized one lowers it. -/
theorem status_reset_or_lowered :
    let t : TransactionInfo := ⟨⟨7⟩, false, none, none, none, ⟨0⟩, [], []⟩
    let info : SentTransactionInfo := ⟨⟨7⟩, 0, [], 100, 0⟩
    let block (c : Commitment) : ProducedBlock := ⟨[t], ⟨1⟩, 0, 1, c⟩
    let run := StepSystem.run (step fun _ => none) new
    (run [.forwardTxs info, .block (block .processed)]).statusOf ⟨7⟩ =
        some ⟨1, none, none, some .processed⟩ ∧
      (run [.forwardTxs info, .block (block .processed), .forwardTxs info]).statusOf ⟨7⟩ = none ∧
      (run [.block (block .processed), .block (block .finalized)]).statusOf ⟨7⟩ =
        some ⟨1, none, none, some .finalized⟩ ∧
      (run [.block (block .processed), .block (block .finalized), .block (block .confirmed)]).statusOf
        ⟨7⟩ = some ⟨1, none, none, some .confirmed⟩ := by
  decide

end TxStore

end LiteRpc
