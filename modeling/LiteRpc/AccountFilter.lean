import LiteRpc.AccountData

/-!
The account filters of `solana_lite_rpc_core` and their conversion from and to the RPC filters of
the RPC client library. `AccountsOnDemand::get_program_accounts` registers the filters of a
`getProgramAccounts` request it cannot answer from the store as an `AccountFilter`, converting each
with `From<&RpcFilterType> for AccountFilterType`; the account service and the gRPC subscription
then read the registered filters, the former back as RPC filters through
`AccountFilter::get_rpc_filter`.

`Memcmp::bytes` and `Memcmp::bytes_match` are those of the RPC client library, taken as the
parameter `methods` with what the library documents of them.
-/

namespace LiteRpc

inductive MemcmpFilterData where
  | bytes (b : List UInt8)
  | base58 (s : String)
  | base64 (s : String)
deriving DecidableEq, Repr

structure MemcmpFilter where
  offset : Nat
  data : MemcmpFilterData
deriving DecidableEq, Repr

inductive AccountFilterType where
  | datasize (size : Nat)
  | memcmp (memcmp : MemcmpFilter)
  | tokenAccountState
deriving DecidableEq, Repr

structure AccountFilter where
  accounts : List String
  programId : Option String
  filters : Option (List AccountFilterType)
deriving DecidableEq, Repr

/-- `Memcmp::bytes` and `Memcmp::bytes_match` of the RPC client library, with what it documents of
them: raw bytes are compared as they are, and the data matches when the bytes to compare stand at
the offset. -/
structure MemcmpMethods where
  bytes : RpcMemcmp → Option (List UInt8)
  bytesMatch : RpcMemcmp → List UInt8 → Bool
  bytes_bytes (offset : Nat) (b : List UInt8) : bytes ⟨offset, .bytes b⟩ = some b
  bytesMatch_iff (compare : RpcMemcmp) (data : List UInt8) :
    bytesMatch compare data = true ↔
      ∃ b, bytes compare = some b ∧ compare.offset ≤ data.length ∧
        b <+: data.drop compare.offset

namespace RpcMemcmp

/-- `Memcmp::new`. -/
def new (offset : Nat) (encodedBytes : MemcmpEncodedBytes) : RpcMemcmp :=
  ⟨offset, encodedBytes⟩

variable (base58Decode base64Decode : String → Option (List UInt8))

def bytes? (self : RpcMemcmp) : Option (List UInt8) :=
  match self.bytes with
  | .binary s => base58Decode s
  | .base58 s => base58Decode s
  | .base64 s => base64Decode s
  | .bytes b => some b

def bytesMatch (self : RpcMemcmp) (data : List UInt8) : Bool :=
  match self.bytes? base58Decode base64Decode with
  | some bytes =>
    if self.offset > data.length then false
    else if (data.drop self.offset).length < bytes.length then false
    else (data.drop self.offset).take bytes.length == bytes
  | none => false

theorem bytesMatch_iff (self : RpcMemcmp) (data : List UInt8) :
    self.bytesMatch base58Decode base64Decode data = true ↔
      ∃ bytes, self.bytes? base58Decode base64Decode = some bytes ∧
        self.offset ≤ data.length ∧ bytes <+: data.drop self.offset := by
  unfold bytesMatch
  rcases self.bytes? base58Decode base64Decode with _ | bytes
  · simp
  · -- past the end of the data, or with too few bytes after the offset, nothing matches
    simp only [Option.some.injEq, exists_eq_left', List.prefix_iff_eq_take]
    split_ifs with hoffset hlength
    · simp only [false_iff, not_and]
      intro hle
      omega
    · simp only [false_iff, not_and]
      intro _ htake
      have := congrArg List.length htake
      simp only [List.length_take] at this
      omega
    · simp only [beq_iff_eq]
      constructor
      · intro htake
        exact ⟨by omega, htake.symm⟩
      · intro h
        exact h.2.symm

/-- The library's code of the two methods, over the decoders of its base58 and base64 crates, with
`none` for a string they cannot decode; the examples use it. -/
def methods : MemcmpMethods where
  bytes := bytes? base58Decode base64Decode
  bytesMatch := bytesMatch base58Decode base64Decode
  bytes_bytes _ _ := rfl
  bytesMatch_iff := bytesMatch_iff base58Decode base64Decode

end RpcMemcmp

namespace AccountFilterType

/-- The closure of `AccountFilter::get_rpc_filter` that turns one filter into an RPC filter. -/
def rpcFilter : AccountFilterType → RpcFilterType
  | .datasize size => .dataSize size
  | .memcmp memcpy =>
    let encodedBytes : MemcmpEncodedBytes :=
      match memcpy.data with
      | .bytes bytes => .bytes bytes
      | .base58 data => .base58 data
      | .base64 data => .base64 data
    .memcmp (RpcMemcmp.new memcpy.offset encodedBytes)
  | .tokenAccountState => .tokenAccountState

variable (methods : MemcmpMethods)

/-- `From<&RpcFilterType> for AccountFilterType`: a memcmp filter keeps its bytes decoded, and the
empty bytes when they do not decode. -/
def fromRpcFilterType : RpcFilterType → AccountFilterType
  | .dataSize size => .datasize size
  | .memcmp rpcMemcmp =>
    let bytes := (methods.bytes rpcMemcmp).getD []
    let offset := rpcMemcmp.offset
    .memcmp { offset := offset, data := .bytes bytes }
  | .tokenAccountState => .tokenAccountState

end AccountFilterType

/-- `AccountFilter::get_rpc_filter`. -/
def AccountFilter.getRpcFilter (self : AccountFilter) : Option (List RpcFilterType) :=
  self.filters.map fun filters => filters.map AccountFilterType.rpcFilter

/-- The filter `AccountsOnDemand::get_program_accounts` registers for a request it cannot answer
from the store: the program's public key, as a string, with the request's filters converted. -/
def AccountsOnDemand.accountFilter (methods : MemcmpMethods) (programPubkey : String)
    (filters : Option (List RpcFilterType)) : AccountFilter :=
  { accounts := []
    programId := some programPubkey
    filters := filters.map fun v => v.map (AccountFilterType.fromRpcFilterType methods) }

section Conversion

variable (methods : MemcmpMethods)

theorem rpcFilter_fromRpcFilterType_memcmp (compare : RpcMemcmp) :
    (AccountFilterType.fromRpcFilterType methods (.memcmp compare)).rpcFilter =
      .memcmp ⟨compare.offset, .bytes ((methods.bytes compare).getD [])⟩ :=
  rfl

theorem allows_fromRpcFilterType_memcmp_iff (compare : RpcMemcmp) (d : AccountData) :
    d.allows methods.bytesMatch
        (AccountFilterType.fromRpcFilterType methods (.memcmp compare)).rpcFilter = true ↔
      compare.offset ≤ d.account.data.length ∧
        (methods.bytes compare).getD [] <+: d.account.data.drop compare.offset := by
  rw [rpcFilter_fromRpcFilterType_memcmp]
  simp only [AccountData.allows]
  rw [methods.bytesMatch_iff, methods.bytes_bytes]
  simp

theorem allows_rpcFilter_fromRpcFilterType (f : RpcFilterType)
    (hdecodes : ∀ compare, f = .memcmp compare → (methods.bytes compare).isSome)
    (d : AccountData) :
    d.allows methods.bytesMatch (AccountFilterType.fromRpcFilterType methods f).rpcFilter =
      d.allows methods.bytesMatch f := by
  cases f with
  | dataSize size => rfl
  | tokenAccountState => rfl
  | memcmp compare =>
    obtain ⟨bytes, hbytes⟩ := Option.isSome_iff_exists.mp (hdecodes compare rfl)
    apply Bool.eq_iff_iff.mpr
    rw [allows_fromRpcFilterType_memcmp_iff, AccountData.allows, methods.bytesMatch_iff, hbytes]
    simp

theorem allows_rpcFilter_fromRpcFilterType_of_bytes_none {compare : RpcMemcmp}
    (hnone : methods.bytes compare = none) (d : AccountData) :
    d.allows methods.bytesMatch (.memcmp compare) = false ∧
      d.allows methods.bytesMatch
          (AccountFilterType.fromRpcFilterType methods (.memcmp compare)).rpcFilter =
        decide (compare.offset ≤ d.account.data.length) := by
  constructor
  · apply Bool.eq_false_iff.mpr
    simp [AccountData.allows, methods.bytesMatch_iff, hnone]
  · apply Bool.eq_iff_iff.mpr
    rw [allows_fromRpcFilterType_memcmp_iff, hnone]
    simp

end Conversion

/-- Converting an RPC filter to the `AccountFilterType` that `AccountsOnDemand` registers and
reading it back with `get_rpc_filter` gives one filter, which allows the same accounts as the
original unless the original is a memcmp filter whose bytes do not decode: that one allows no
account, and its conversion, comparing empty bytes, every account whose data reaches its
offset. -/
theorem filter_conversion_allows_undecodable_memcmp (methods : MemcmpMethods) :
    (∀ f : RpcFilterType,
      (AccountFilter.mk [] none
          (some [AccountFilterType.fromRpcFilterType methods f])).getRpcFilter =
        some [(AccountFilterType.fromRpcFilterType methods f).rpcFilter]) ∧
    (∀ (f : RpcFilterType) (d : AccountData),
      (∀ compare, f = .memcmp compare → (methods.bytes compare).isSome) →
        d.allows methods.bytesMatch (AccountFilterType.fromRpcFilterType methods f).rpcFilter =
          d.allows methods.bytesMatch f) ∧
    (∀ (compare : RpcMemcmp) (d : AccountData), methods.bytes compare = none →
      d.allows methods.bytesMatch (.memcmp compare) = false ∧
        d.allows methods.bytesMatch
            (AccountFilterType.fromRpcFilterType methods (.memcmp compare)).rpcFilter =
          decide (compare.offset ≤ d.account.data.length)) :=
  ⟨fun _ => rfl,
    fun f d hdecodes => allows_rpcFilter_fromRpcFilterType methods f hdecodes d,
    fun _ d hnone => allows_rpcFilter_fromRpcFilterType_of_bytes_none methods hnone d⟩

/-- A base58 memcmp filter on the string `0`, outside the base58 alphabet, at offset 0, and an
account with one byte of data, under the library's methods: the filter does not allow it, its
conversion does. -/
theorem filter_conversion_allows_on_invalid_base58 :
    let methods := RpcMemcmp.methods (fun s => if s = "0" then none else some []) fun _ => none
    let compare : RpcMemcmp := ⟨0, .base58 "0"⟩
    let d : AccountData := ⟨⟨1⟩, ⟨1, [7], ⟨2⟩, false, 0⟩, 0⟩
    d.allows methods.bytesMatch (.memcmp compare) = false ∧
      d.allows methods.bytesMatch
        (AccountFilterType.fromRpcFilterType methods (.memcmp compare)).rpcFilter = true := by
  intro methods compare d
  have hnone : methods.bytes compare = none := by
    simp [methods, compare, RpcMemcmp.methods, RpcMemcmp.bytes?]
  have h := (filter_conversion_allows_undecodable_memcmp methods).2.2 compare d hnone
  exact ⟨h.1, h.2.trans (by decide)⟩

end LiteRpc
