import LiteRpc.AccountData

/-!
The blocks of `solana_lite_rpc_core`: `ProducedBlock` with the transactions it carries, and the
`BlockInfo` of a block at one commitment level. Only the fields that the services modelled here
read are kept.
-/

namespace LiteRpc

/-- A 32-byte block hash. -/
structure Hash where
  hash : Nat
deriving DecidableEq, Repr

/-- A 64-byte transaction signature. -/
structure Signature where
  signature : Nat
deriving DecidableEq, Repr

/-- `TransactionError`; which error it is does not matter here. -/
structure TransactionError where
  code : Nat
deriving DecidableEq, Repr

structure TransactionInfo where
  signature : Signature
  isVote : Bool
  err : Option TransactionError
  prioritizationFees : Option Nat
  cuConsumed : Option Nat
  recentBlockhash : Hash
  writableAccounts : List Pubkey
  readableAccounts : List Pubkey
deriving DecidableEq, Repr

/-- `ProducedBlock`: the block (`ProducedBlockInner`) and the commitment it was produced at. -/
structure ProducedBlock where
  transactions : List TransactionInfo
  blockhash : Hash
  blockHeight : Nat
  slot : Slot
  commitmentConfig : Commitment
deriving DecidableEq, Repr

namespace ProducedBlock

/-- Moving commitment level to confirmed. -/
def toConfirmedBlock (self : ProducedBlock) : ProducedBlock :=
  { self with commitmentConfig := .confirmed }

/-- Moving commitment level to finalized. -/
def toFinalizedBlock (self : ProducedBlock) : ProducedBlock :=
  { self with commitmentConfig := .finalized }

@[simp] theorem toConfirmedBlock_blockhash (b : ProducedBlock) :
    b.toConfirmedBlock.blockhash = b.blockhash := rfl

@[simp] theorem toConfirmedBlock_commitmentConfig (b : ProducedBlock) :
    b.toConfirmedBlock.commitmentConfig = .confirmed := rfl

@[simp] theorem toFinalizedBlock_blockhash (b : ProducedBlock) :
    b.toFinalizedBlock.blockhash = b.blockhash := rfl

@[simp] theorem toFinalizedBlock_commitmentConfig (b : ProducedBlock) :
    b.toFinalizedBlock.commitmentConfig = .finalized := rfl

end ProducedBlock

structure BlockInfo where
  slot : Slot
  blockhash : Hash
  commitmentConfig : Commitment
deriving DecidableEq, Repr

end LiteRpc
