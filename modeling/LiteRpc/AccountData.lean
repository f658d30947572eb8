import Mathlib.Data.Nat.Basic
import Mathlib.Order.Lattice
import Mathlib.Algebra.GroupWithZero.Nat

/-!
The account data of `solana_lite_rpc_core`: accounts as the store keeps them, the commitment
levels they are kept at, and the RPC filters that `get_program_accounts` applies to them.
-/

namespace LiteRpc

/-- `solana_sdk::slot_history::Slot`, a `u64`; no slot arithmetic of the account store wraps. -/
abbrev Slot := Nat

/-- A 32-byte public key; only its identity matters to the code modelled here. -/
structure Pubkey where
  key : Nat
deriving DecidableEq, Repr

/-- `solana_sdk::account::Account`. -/
structure Account where
  lamports : Nat
  data : List UInt8
  owner : Pubkey
  executable : Bool
  rentEpoch : Nat
deriving DecidableEq, Repr

/-- `AccountData`; its `PartialEq` compares all three fields, as the derived equality does. -/
structure AccountData where
  pubkey : Pubkey
  account : Account
  updatedSlot : Slot
deriving DecidableEq, Repr

inductive Commitment where
  | processed
  | confirmed
  | finalized
deriving DecidableEq, Repr

inductive AccountLoadingError where
  | accountNotFound
  | configDoesnotContainRequiredFilters
  | operationTimeOut
deriving DecidableEq, Repr

/-- `MemcmpEncodedBytes` of the RPC client library. -/
inductive MemcmpEncodedBytes where
  | binary (s : String)
  | base58 (s : String)
  | base64 (s : String)
  | bytes (b : List UInt8)
deriving DecidableEq, Repr

/-- `Memcmp` of the RPC client library. -/
structure RpcMemcmp where
  offset : Nat
  bytes : MemcmpEncodedBytes
deriving DecidableEq, Repr

/-- `RpcFilterType` of the RPC client library. -/
inductive RpcFilterType where
  | dataSize (size : Nat)
  | memcmp (compare : RpcMemcmp)
  | tokenAccountState
deriving DecidableEq, Repr

/-- `AccountData::allows`. `bytesMatch` is `Memcmp::bytes_match` of the RPC client library. -/
def AccountData.allows (bytesMatch : RpcMemcmp → List UInt8 → Bool) (self : AccountData) :
    RpcFilterType → Bool
  | .dataSize size => self.account.data.length == size
  | .memcmp compare => bytesMatch compare self.account.data
  -- todo in the source: token account states are never accepted
  | .tokenAccountState => false

structure AccountNotificationMessage where
  data : AccountData
  commitment : Commitment
deriving DecidableEq, Repr

end LiteRpc
