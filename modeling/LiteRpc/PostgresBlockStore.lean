import LiteRpc.AddressLookupTableStore
import LiteRpc.ComputeBudget
import LiteRpc.Lib.Panic

/-!
The rows of the Postgres block store: `PostgresBlock`, written from a block by
`From<&ProducedBlock>` and read back by `to_produced_block`, and `PostgresTransaction`, written from
a transaction by `PostgresTransaction::new` and read back by `to_transaction_info`.
`PostgresBlockStore::save_block` writes a block's rows and `PostgresQueryBlockStore::query_block`
reads them back into a block.

The `u64` and `u32` fields go into `bigint` columns through `as i64` and come back through `as u64`
and `as u32`. The other columns are text: `Hash` and `Signature` in their `Display` form, read by
`hash_from_str` and `Signature::from_str`, and the rewards, the transaction error and the message
in bincode under base64; these encodings are the fields of `ColumnEncodings`. The sessions, the SQL
statements and the epoch schemas are left out: a query returns the rows written, the transactions'
rows in any order.
-/

namespace LiteRpc

inductive RewardType where
  | fee
  | rent
  | staking
  | voting
deriving DecidableEq, Repr

/-- `solana_transaction_status::Reward`. -/
structure Reward where
  pubkey : String
  lamports : Int64
  postBalance : UInt64
  rewardType : Option RewardType
  commission : Option UInt8
deriving DecidableEq, Repr

/-- `TransactionInfo` with the fields the services above do not read: the compute units it
requests, its message and its address lookups. Its `u64` fields, natural numbers in
`TransactionInfo`, are below `2 ^ 64`. -/
structure FullTransactionInfo extends TransactionInfo where
  cuRequested : Option UInt32
  message : VersionedMessage
  addressLookupTables : List MessageAddressTableLookup
  prioritizationFees_lt : ∀ fees ∈ prioritizationFees, fees < 2 ^ 64
  cuConsumed_lt : ∀ cu ∈ cuConsumed, cu < 2 ^ 64

/-- `ProducedBlock` with every field of its `ProducedBlockInner`. -/
structure FullProducedBlock where
  transactions : List FullTransactionInfo
  leaderId : Option String
  blockhash : Hash
  blockHeight : UInt64
  slot : UInt64
  parentSlot : UInt64
  blockTime : UInt64
  previousBlockhash : Hash
  rewards : Option (List Reward)
  commitmentConfig : Commitment

/-- The text encodings of the store's columns. -/
structure ColumnEncodings where
  /-- `Display` of `Hash`. -/
  hashToString : Hash → String
  /-- `hash_from_str`, its error the text of the `ParseHashError`. -/
  hashFromStr : String → Except String Hash
  signatureToString : Signature → String
  signatureFromStr : String → Except String Signature
  /-- `BASE64.serialize::<Vec<Reward>>` and its `deserialize`. -/
  serializeRewards : List Reward → Except String String
  deserializeRewards : String → Except String (List Reward)
  serializeErr : TransactionError → Except String String
  deserializeErr : String → Except String TransactionError
  /-- `BinaryEncoding::Base64.encode(message.serialize())` and its `deserialize`. -/
  encodeMessage : VersionedMessage → String
  deserializeMessage : String → Except String VersionedMessage

structure PostgresBlock where
  slot : Int64
  blockhash : String
  blockHeight : Int64
  parentSlot : Int64
  blockTime : Int64
  previousBlockhash : String
  rewards : Option String
  leaderId : Option String
deriving DecidableEq, Repr

structure PostgresTransaction where
  signature : String
  slot : Int64
  err : Option String
  cuRequested : Option Int64
  prioritizationFees : Option Int64
  cuConsumed : Option Int64
  recentBlockhash : String
  message : String
deriving DecidableEq, Repr

variable (enc : ColumnEncodings)

namespace PostgresBlock

/-- `From<&ProducedBlock> for PostgresBlock`. -/
def fromProducedBlock (value : FullProducedBlock) : PostgresBlock :=
  let rewards := (value.rewards.map fun x => (enc.serializeRewards x).toOption).getD none
  { blockhash := enc.hashToString value.blockhash
    blockHeight := value.blockHeight.toInt64
    slot := value.slot.toInt64
    parentSlot := value.parentSlot.toInt64
    blockTime := value.blockTime.toInt64
    previousBlockhash := enc.hashToString value.previousBlockhash
    rewards := rewards
    leaderId := value.leaderId }

/-- `to_produced_block`, which panics on a hash it cannot read and leaves `leader_id` unset. -/
def toProducedBlock (self : PostgresBlock) (transactionInfos : List FullTransactionInfo)
    (commitmentConfig : Commitment) : Except String FullProducedBlock := do
  let rewardsVec := (self.rewards.map fun x => (enc.deserializeRewards x).toOption).getD none
  let blockhash ← Rust.expect (enc.hashFromStr self.blockhash) "valid blockhash"
  let previousBlockhash ← Rust.expect (enc.hashFromStr self.previousBlockhash) "valid blockhash"
  pure
    { transactions := transactionInfos
      leaderId := none
      blockhash := blockhash
      blockHeight := self.blockHeight.toUInt64
      slot := self.slot.toUInt64
      parentSlot := self.parentSlot.toUInt64
      blockTime := self.blockTime.toUInt64
      previousBlockhash := previousBlockhash
      rewards := rewardsVec
      commitmentConfig := commitmentConfig }

end PostgresBlock

theorem mem_map_toNat_toUInt64_lt {o : Option Int64} :
    ∀ n ∈ o.map (fun x => x.toUInt64.toNat), n < 2 ^ 64 := by
  intro n hn
  obtain ⟨x, -, rfl⟩ := Option.map_eq_some_iff.mp hn
  exact UInt64.toNat_lt _

namespace PostgresTransaction

/-- `PostgresTransaction::new`. -/
def new (value : FullTransactionInfo) (slot : UInt64) : PostgresTransaction :=
  { signature := enc.signatureToString value.signature
    err := (value.err.map fun x => (enc.serializeErr x).toOption).getD none
    cuRequested := value.cuRequested.map fun x => x.toUInt64.toInt64
    prioritizationFees := value.prioritizationFees.map fun x => x.toUInt64.toInt64
    cuConsumed := value.cuConsumed.map fun x => x.toUInt64.toInt64
    recentBlockhash := enc.hashToString value.recentBlockhash
    message := enc.encodeMessage value.message
    slot := slot.toInt64 }

/-- `to_transaction_info`, which panics on a signature, a hash or a message it cannot read and
sets the fields it does not store to their defaults. -/
def toTransactionInfo (self : PostgresTransaction) : Except String FullTransactionInfo := do
  let signature ← Rust.unwrap (enc.signatureFromStr self.signature)
  let err := self.err.bind fun x => (enc.deserializeErr x).toOption
  let cuRequested := self.cuRequested.map fun x => x.toUInt64.toUInt32
  let prioritizationFees := self.prioritizationFees.map fun x => x.toUInt64.toNat
  let cuConsumed := self.cuConsumed.map fun x => x.toUInt64.toNat
  let recentBlockhash ← Rust.expect (enc.hashFromStr self.recentBlockhash) "valid blockhash"
  let message ← Rust.expect (enc.deserializeMessage self.message) "serialized message"
  pure
    { signature := signature
      err := err
      cuRequested := cuRequested
      prioritizationFees := prioritizationFees
      cuConsumed := cuConsumed
      recentBlockhash := recentBlockhash
      message := message
      readableAccounts := []
      writableAccounts := []
      isVote := false
      addressLookupTables := []
      prioritizationFees_lt := mem_map_toNat_toUInt64_lt
      cuConsumed_lt := mem_map_toNat_toUInt64_lt }

end PostgresTransaction

/-- The rows `PostgresBlockStore::save_block` writes for a block: its block row and a row for each
of its transactions. -/
def savedRows (block : FullProducedBlock) : PostgresBlock × List PostgresTransaction :=
  (PostgresBlock.fromProducedBlock enc block,
    block.transactions.map fun x => PostgresTransaction.new enc x block.slot)

/-- `PostgresQueryBlockStore::query_block` on the rows its two queries return. The transactions'
rows are read with the queried slot; the block comes back at the confirmed level. -/
def queryBlock (slot : UInt64) (epoch : Nat) (blockRow : Option PostgresBlock)
    (transactionRows : List PostgresTransaction) : Except String (Except String FullProducedBlock) :=
  match blockRow with
  | none => .ok (.error ("Block " ++ toString slot ++ " in epoch " ++ toString epoch ++
      " not found in postgres"))
  | some row => do
    let txInfos ← transactionRows.mapM fun txRow =>
      PostgresTransaction.toTransactionInfo enc { txRow with slot := slot.toInt64 }
    let producedBlock ← row.toProducedBlock enc txInfos .confirmed
    pure (.ok producedBlock)

/-- What the encodings must read back of a block's own columns: its two hashes and its rewards. -/
structure ColumnEncodings.ReadsBackBlock (block : FullProducedBlock) : Prop where
  blockhash : enc.hashFromStr (enc.hashToString block.blockhash) = .ok block.blockhash
  previousBlockhash :
    enc.hashFromStr (enc.hashToString block.previousBlockhash) = .ok block.previousBlockhash
  rewards : ∀ rewards ∈ block.rewards,
    ∃ s, enc.serializeRewards rewards = .ok s ∧ enc.deserializeRewards s = .ok rewards

/-- What the encodings must read back of a transaction's columns. -/
structure ColumnEncodings.ReadsBackTransaction (transaction : FullTransactionInfo) : Prop where
  signature :
    enc.signatureFromStr (enc.signatureToString transaction.signature) = .ok transaction.signature
  err : ∀ err ∈ transaction.err, ∃ s, enc.serializeErr err = .ok s ∧ enc.deserializeErr s = .ok err
  recentBlockhash :
    enc.hashFromStr (enc.hashToString transaction.recentBlockhash) = .ok transaction.recentBlockhash
  message : enc.deserializeMessage (enc.encodeMessage transaction.message) = .ok transaction.message

/-- A transaction as the store keeps it: the fields `to_transaction_info` does not read back at
their defaults. -/
def FullTransactionInfo.stored (transaction : FullTransactionInfo) : FullTransactionInfo :=
  { transaction with
    isVote := false, writableAccounts := [], readableAccounts := [], addressLookupTables := [] }

theorem getD_map_none {α β : Type} (o : Option α) (f : α → Option β) :
    (o.map f).getD none = o.bind f := by
  cases o <;> rfl

theorem bind_toOption_of_readsBack {α : Type} {serialize : α → Except String String}
    {deserialize : String → Except String α} {o : Option α}
    (h : ∀ x ∈ o, ∃ s, serialize x = .ok s ∧ deserialize s = .ok x) :
    ((o.bind fun x => (serialize x).toOption).bind fun s => (deserialize s).toOption) = o := by
  cases o with
  | none => rfl
  | some x =>
    obtain ⟨s, hs, hx⟩ := h x rfl
    simp [hs, hx, Except.toOption]

theorem map_toNat_toUInt64_toInt64 {o : Option Nat} (h : ∀ n ∈ o, n < 2 ^ 64) :
    ((o.map fun x => x.toUInt64.toInt64).map fun x => x.toUInt64.toNat) = o := by
  cases o with
  | none => rfl
  | some n =>
    have hn : n < UInt64.size := h n rfl
    simp only [Option.map_some, UInt64.toUInt64_toInt64, Nat.toUInt64_eq,
      UInt64.toNat_ofNat_of_lt' hn]

section RoundTrip

variable {enc}

theorem toProducedBlock_fromProducedBlock {block : FullProducedBlock} (h : enc.ReadsBackBlock block)
    (transactionInfos : List FullTransactionInfo) (commitmentConfig : Commitment) :
    (PostgresBlock.fromProducedBlock enc block).toProducedBlock enc transactionInfos commitmentConfig =
      .ok { block with
        leaderId := none, transactions := transactionInfos, commitmentConfig := commitmentConfig } := by
  have hrewards := bind_toOption_of_readsBack h.rewards
  simp only [PostgresBlock.fromProducedBlock, PostgresBlock.toProducedBlock, getD_map_none,
    hrewards, h.blockhash, h.previousBlockhash, Rust.expect, Rust.ok_bind, Rust.pure_eq_ok]
  simp

theorem toTransactionInfo_new {transaction : FullTransactionInfo}
    (h : enc.ReadsBackTransaction transaction) (slot : UInt64) :
    (PostgresTransaction.new enc transaction slot).toTransactionInfo enc = .ok transaction.stored := by
  have herr := bind_toOption_of_readsBack h.err
  have hfees := map_toNat_toUInt64_toInt64 transaction.prioritizationFees_lt
  have hcu := map_toNat_toUInt64_toInt64 transaction.cuConsumed_lt
  simp only [PostgresTransaction.new, PostgresTransaction.toTransactionInfo, getD_map_none, herr,
    hfees, hcu, h.signature, h.recentBlockhash, h.message, Rust.unwrap, Rust.expect, Rust.ok_bind,
    Rust.pure_eq_ok]
  simp [FullTransactionInfo.stored, Function.comp_def]

end RoundTrip

/-- Through the Postgres store, a block row reads back with every column of the block but its
leader, which `to_produced_block` leaves unset although `From<&ProducedBlock>` writes it; each of
its transactions' rows reads back with every column of the transaction. -/
theorem postgres_round_trip_loses_leader_id (enc : ColumnEncodings) (block : FullProducedBlock)
    (h : enc.ReadsBackBlock block)
    (htransactions : ∀ t ∈ block.transactions, enc.ReadsBackTransaction t)
    (transactionInfos : List FullTransactionInfo) (commitmentConfig : Commitment) :
    (PostgresBlock.fromProducedBlock enc block).toProducedBlock enc transactionInfos commitmentConfig =
        .ok { block with
          leaderId := none, transactions := transactionInfos, commitmentConfig := commitmentConfig } ∧
      ∀ t ∈ block.transactions,
        (PostgresTransaction.new enc t block.slot).toTransactionInfo enc = .ok t.stored :=
  ⟨toProducedBlock_fromProducedBlock h transactionInfos commitmentConfig,
    fun t ht => toTransactionInfo_new (htransactions t ht) block.slot⟩

/-- Hashes and signatures written as runs of `a` as long as their number, and a block with a
leader and no rewards or transactions: its leader does not come back. -/
theorem postgres_round_trip_loses_named_leader :
    let enc : ColumnEncodings :=
      { hashToString := fun h => String.ofList (List.replicate h.hash 'a')
        hashFromStr := fun s => .ok ⟨s.length⟩
        signatureToString := fun s => String.ofList (List.replicate s.signature 'a')
        signatureFromStr := fun s => .ok ⟨s.length⟩
        serializeRewards := fun _ => .ok ""
        deserializeRewards := fun _ => .ok []
        serializeErr := fun _ => .ok ""
        deserializeErr := fun _ => .ok ⟨0⟩
        encodeMessage := fun _ => ""
        deserializeMessage := fun _ => .ok ⟨[], ⟨0⟩, []⟩ }
    let block : FullProducedBlock :=
      { transactions := [], leaderId := some "leader", blockhash := ⟨1⟩, blockHeight := 7,
        slot := 8, parentSlot := 7, blockTime := 1699260872, previousBlockhash := ⟨2⟩,
        rewards := none, commitmentConfig := .finalized }
    ∃ read, (PostgresBlock.fromProducedBlock enc block).toProducedBlock enc [] .confirmed = .ok read ∧
      block.leaderId = some "leader" ∧ read.leaderId = none := by
  intro enc block
  have h : enc.ReadsBackBlock block :=
    ⟨by simp only [enc, block, String.length_ofList, List.length_replicate],
      by simp only [enc, block, String.length_ofList, List.length_replicate], by simp [block]⟩
  exact ⟨_, (postgres_round_trip_loses_leader_id enc block h (by simp [block]) [] .confirmed).1,
    rfl, rfl⟩

end LiteRpc
