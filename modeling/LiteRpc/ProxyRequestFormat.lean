import LiteRpc.Lib.Bincode
import LiteRpc.Lib.Panic
import LiteRpc.ProducedBlock

/-!
The wire format between lite-rpc and the QUIC forward proxy. Each side declares its own
`TpuForwardingRequest`, `TpuNode` and `TxData` in its own crate: lite-rpc's
`core::structures::proxy_request_format` writes the request with `bincode::serialize`, and the
proxy's `proxy_request_format` reads it with `bincode::deserialize` and asserts its version.
Both derive serde for their structs, so each writes or reads its fields in order; the addresses,
keys and signatures go through the serde impls of their own types. Those of `SocketAddr` are the
parameter `addrSerde`, with what serde documents of them: a `SocketAddrV6` is written to a binary
format as its address and port only, and read back with flow info and scope id 0.
-/

namespace LiteRpc

/-- `std::net::Ipv4Addr`, by its octets. -/
structure Ipv4Addr where
  octets : List.Vector UInt8 4
deriving DecidableEq

/-- `std::net::Ipv6Addr`, by its octets. -/
structure Ipv6Addr where
  octets : List.Vector UInt8 16
deriving DecidableEq

structure SocketAddrV4 where
  ip : Ipv4Addr
  port : UInt16
deriving DecidableEq

structure SocketAddrV6 where
  ip : Ipv6Addr
  port : UInt16
  flowinfo : UInt32
  scopeId : UInt32
deriving DecidableEq

inductive SocketAddr where
  | v4 (addr : SocketAddrV4)
  | v6 (addr : SocketAddrV6)
deriving DecidableEq

namespace SocketAddr

/-- What the encoding keeps of an address: a V6 address loses its flow info and scope id. -/
def kept : SocketAddr → SocketAddr
  | .v4 addr => .v4 addr
  | .v6 addr => .v6 { addr with flowinfo := 0, scopeId := 0 }

/-- serde's own `Serialize` of a `SocketAddr` for a binary format: the variant index, then the
address and the port. -/
def serialize : Bincode.Encoder SocketAddr
  | .v4 addr => Bincode.u32 0 ++ Bincode.pair (Bincode.bytesN 4) Bincode.u16 (addr.ip.octets, addr.port)
  | .v6 addr =>
    Bincode.u32 1 ++ Bincode.pair (Bincode.bytesN 16) Bincode.u16 (addr.ip.octets, addr.port)

/-- serde's own `Deserialize`: a V6 address is made by `SocketAddrV6::new(ip, port, 0, 0)`. -/
def deserialize : Bincode.Decoder SocketAddr := fun bytes =>
  match Bincode.decU32 bytes with
  | some (tag, rest) =>
    if tag = 0 then
      Bincode.decMap (fun (octets, port) => .v4 ⟨⟨octets⟩, port⟩)
        (Bincode.decPair (Bincode.decBytesN 4) Bincode.decU16) rest
    else if tag = 1 then
      Bincode.decMap (fun (octets, port) => .v6 ⟨⟨octets⟩, port, 0, 0⟩)
        (Bincode.decPair (Bincode.decBytesN 16) Bincode.decU16) rest
    else none
  | none => none

theorem reads_socketAddr : Bincode.Reads serialize deserialize (fun _ => True) kept := by
  have hpair4 := Bincode.reads_pair (Bincode.roundTrip_bytesN 4) Bincode.roundTrip_u16
  have hpair16 := Bincode.reads_pair (Bincode.roundTrip_bytesN 16) Bincode.roundTrip_u16
  intro a _ rest
  cases a with
  | v4 addr =>
    simp [serialize, deserialize, List.append_assoc, Bincode.roundTrip_u32 0 trivial,
      Bincode.decMap, hpair4 (addr.ip.octets, addr.port) ⟨trivial, trivial⟩, kept]
  | v6 addr =>
    simp [serialize, deserialize, List.append_assoc, Bincode.roundTrip_u32 1 trivial,
      Bincode.decMap, hpair16 (addr.ip.octets, addr.port) ⟨trivial, trivial⟩, kept]

end SocketAddr

/-- serde's `Serialize` and `Deserialize` of `SocketAddr` for a binary format, with what serde
documents of them: an address is read back from what was written of it, a V6 address with flow
info and scope id 0. -/
structure SocketAddrSerde where
  serialize : Bincode.Encoder SocketAddr
  deserialize : Bincode.Decoder SocketAddr
  reads : Bincode.Reads serialize deserialize (fun _ => True) SocketAddr.kept

/-- serde's own impls, which the examples use. -/
def SocketAddr.serde : SocketAddrSerde :=
  ⟨SocketAddr.serialize, SocketAddr.deserialize, SocketAddr.reads_socketAddr⟩

/-- `Pubkey`, written as its 32 bytes; the model's key is their little-endian value. -/
def Pubkey.serialize : Bincode.Encoder Pubkey := fun k => Bincode.leBytes 32 k.key

def Pubkey.deserialize : Bincode.Decoder Pubkey := Bincode.decMap Pubkey.mk (Bincode.leNat 32)

theorem Pubkey.roundTrip : Bincode.RoundTrip Pubkey.serialize Pubkey.deserialize
    (·.key < 256 ^ 32) :=
  Bincode.reads_map (Bincode.roundTrip_leNat 32) Pubkey.key Pubkey.mk

/-- `Signature`, written as its 64 bytes; the model's value is their little-endian value. -/
def Signature.serialize : Bincode.Encoder Signature := fun s => Bincode.leBytes 64 s.signature

def Signature.deserialize : Bincode.Decoder Signature :=
  Bincode.decMap Signature.mk (Bincode.leNat 64)

theorem Signature.roundTrip : Bincode.RoundTrip Signature.serialize Signature.deserialize
    (·.signature < 256 ^ 64) :=
  Bincode.reads_map (Bincode.roundTrip_leNat 64) Signature.signature Signature.mk

namespace ProxyRequestFormat

def formatVersion1 : UInt16 := 2500

structure TxData where
  signature : Signature
  txRaw : List UInt8

def TxData.new (signature : Signature) (txRaw : List UInt8) : TxData := ⟨signature, txRaw⟩

structure TpuNode where
  tpuSocketAddr : SocketAddr
  identityTpunode : Pubkey

structure TpuForwardingRequest where
  formatVersion : UInt16
  tpuNodes : List TpuNode
  transactions : List TxData

/-- The derived `Serialize` of `TxData`: the signature, then the raw transaction. -/
def TxData.serialize : Bincode.Encoder TxData := fun tx =>
  Bincode.pair Signature.serialize (Bincode.seq Bincode.u8) (tx.signature, tx.txRaw)

variable (addrSerde : SocketAddrSerde)

def TpuNode.serialize : Bincode.Encoder TpuNode := fun node =>
  Bincode.pair addrSerde.serialize Pubkey.serialize (node.tpuSocketAddr, node.identityTpunode)

def TpuForwardingRequest.serialize : Bincode.Encoder TpuForwardingRequest := fun request =>
  Bincode.pair Bincode.u16 (Bincode.pair (Bincode.seq (TpuNode.serialize addrSerde))
    (Bincode.seq TxData.serialize)) (request.formatVersion, request.tpuNodes, request.transactions)

namespace TpuForwardingRequest

def new (tpuFanoutNodes : List (SocketAddr × Pubkey)) (transactions : List TxData) :
    TpuForwardingRequest :=
  ⟨formatVersion1, tpuFanoutNodes.map fun (tpuAddr, identity) => ⟨tpuAddr, identity⟩, transactions⟩

@[simp] theorem new_transactions (tpuFanoutNodes : List (SocketAddr × Pubkey))
    (transactions : List TxData) : (new tpuFanoutNodes transactions).transactions = transactions :=
  rfl

/-- `try_serialize_wire_format`; `bincode::serialize` of these types does not fail. -/
def trySerializeWireFormat (self : TpuForwardingRequest) : Except String (List UInt8) :=
  .ok (TpuForwardingRequest.serialize addrSerde self)

def getTpuNodes (self : TpuForwardingRequest) : List TpuNode := self.tpuNodes

end TpuForwardingRequest

end ProxyRequestFormat

namespace QuicForwardProxy

def formatVersion1 : UInt16 := 2500

structure TxData where
  signature : Signature
  txRaw : List UInt8

structure TpuNode where
  tpuSocketAddr : SocketAddr
  identityTpunode : Pubkey

structure TpuForwardingRequest where
  formatVersion : UInt16
  tpuNodes : List TpuNode
  transactions : List TxData

/-- The derived `Deserialize` of `TxData`: the signature, then the raw transaction. -/
def TxData.deserialize : Bincode.Decoder TxData :=
  Bincode.decMap (fun (signature, txRaw) => ⟨signature, txRaw⟩)
    (Bincode.decPair Signature.deserialize (Bincode.decSeq Bincode.decU8))

variable (addrSerde : SocketAddrSerde)

def TpuNode.deserialize : Bincode.Decoder TpuNode :=
  Bincode.decMap (fun (tpuSocketAddr, identityTpunode) => ⟨tpuSocketAddr, identityTpunode⟩)
    (Bincode.decPair addrSerde.deserialize Pubkey.deserialize)

def TpuForwardingRequest.deserialize : Bincode.Decoder TpuForwardingRequest :=
  Bincode.decMap
    (fun (formatVersion, tpuNodes, transactions) => ⟨formatVersion, tpuNodes, transactions⟩)
    (Bincode.decPair Bincode.decU16
      (Bincode.decPair (Bincode.decSeq (TpuNode.deserialize addrSerde))
        (Bincode.decSeq TxData.deserialize)))

/-- The message of a failed `assert_eq!`. -/
def assertEqFailed : String := "assertion `left == right` failed"

namespace TpuForwardingRequest

/-- `try_deserialize_from_wire_format`: a request of another version panics. -/
def tryDeserializeFromWireFormat (rawProxyRequest : List UInt8) :
    Except String TpuForwardingRequest :=
  match Bincode.deserialize (TpuForwardingRequest.deserialize addrSerde) rawProxyRequest with
  | some request =>
    if request.formatVersion = formatVersion1 then .ok request else .error assertEqFailed
  | none => .error "deserialize proxy request"

def getTpuNodes (self : TpuForwardingRequest) : List TpuNode := self.tpuNodes

def getTransactionBytes (self : TpuForwardingRequest) : List (List UInt8) :=
  self.transactions.map (·.txRaw)

end TpuForwardingRequest

end QuicForwardProxy

namespace ProxyRequestFormat

/-- The request the proxy reads for one that lite-rpc writes. -/
def TpuForwardingRequest.toProxy (request : TpuForwardingRequest) :
    QuicForwardProxy.TpuForwardingRequest :=
  ⟨request.formatVersion,
    request.tpuNodes.map fun node => ⟨node.tpuSocketAddr.kept, node.identityTpunode⟩,
    request.transactions.map fun tx => ⟨tx.signature, tx.txRaw⟩⟩

/-- What fits the format: lengths that fit a `u64`, and keys and signatures of their size. -/
def TpuForwardingRequest.Fits (request : TpuForwardingRequest) : Prop :=
  (request.tpuNodes.length < 256 ^ 8 ∧ ∀ node ∈ request.tpuNodes, node.identityTpunode.key < 256 ^ 32) ∧
    request.transactions.length < 256 ^ 8 ∧
      ∀ tx ∈ request.transactions, tx.signature.signature < 256 ^ 64 ∧ tx.txRaw.length < 256 ^ 8

variable (addrSerde : SocketAddrSerde)

theorem reads_tpuNode :
    Bincode.Reads (TpuNode.serialize addrSerde) (QuicForwardProxy.TpuNode.deserialize addrSerde)
      (fun node => True ∧ node.identityTpunode.key < 256 ^ 32)
      fun node => ⟨node.tpuSocketAddr.kept, node.identityTpunode⟩ := by
  intro node hnode rest
  have hread := Bincode.reads_map (Bincode.reads_pair addrSerde.reads Pubkey.roundTrip)
    (fun node : TpuNode => (node.tpuSocketAddr, node.identityTpunode))
    fun ((tpuSocketAddr, identityTpunode) : SocketAddr × Pubkey) =>
      (⟨tpuSocketAddr, identityTpunode⟩ : QuicForwardProxy.TpuNode)
  exact hread node hnode rest

theorem reads_txData : Bincode.Reads TxData.serialize QuicForwardProxy.TxData.deserialize
    (fun tx => tx.signature.signature < 256 ^ 64 ∧ tx.txRaw.length < 256 ^ 8)
    fun tx => ⟨tx.signature, tx.txRaw⟩ := by
  intro tx ⟨hsig, hlen⟩ rest
  have hread := Bincode.reads_map
    (Bincode.reads_pair Signature.roundTrip (Bincode.reads_seq Bincode.roundTrip_u8))
    (fun tx : TxData => (tx.signature, tx.txRaw))
    fun ((signature, txRaw) : Signature × List UInt8) =>
      (⟨signature, txRaw⟩ : QuicForwardProxy.TxData)
  exact (hread tx ⟨hsig, hlen, fun _ _ => trivial⟩ rest).trans (by simp)

theorem reads_request : Bincode.Reads (TpuForwardingRequest.serialize addrSerde)
    (QuicForwardProxy.TpuForwardingRequest.deserialize addrSerde) TpuForwardingRequest.Fits
    TpuForwardingRequest.toProxy := by
  intro request hfits rest
  have hread := Bincode.reads_map (Bincode.reads_pair Bincode.roundTrip_u16
      (Bincode.reads_pair (Bincode.reads_seq (reads_tpuNode addrSerde))
        (Bincode.reads_seq reads_txData)))
    (fun request : TpuForwardingRequest =>
      (request.formatVersion, request.tpuNodes, request.transactions))
    fun ((formatVersion, tpuNodes, transactions) :
        UInt16 × List QuicForwardProxy.TpuNode × List QuicForwardProxy.TxData) =>
      (⟨formatVersion, tpuNodes, transactions⟩ : QuicForwardProxy.TpuForwardingRequest)
  obtain ⟨⟨hnodes, hkeys⟩, htxs, hdata⟩ := hfits
  exact hread request
    ⟨trivial, ⟨hnodes, fun node hnode => ⟨trivial, hkeys node hnode⟩⟩, htxs, hdata⟩ rest

theorem new_fits {nodes : List (SocketAddr × Pubkey)} {txs : List TxData}
    (hnodes : nodes.length < 256 ^ 8) (hkeys : ∀ node ∈ nodes, node.2.key < 256 ^ 32)
    (htxs : txs.length < 256 ^ 8)
    (hdata : ∀ tx ∈ txs, tx.signature.signature < 256 ^ 64 ∧ tx.txRaw.length < 256 ^ 8) :
    (TpuForwardingRequest.new nodes txs).Fits := by
  refine ⟨⟨by simpa [TpuForwardingRequest.new] using hnodes, ?_⟩, htxs, hdata⟩
  simp only [TpuForwardingRequest.new, List.mem_map]
  rintro _ ⟨node, hnode, rfl⟩
  exact hkeys node hnode

theorem tryDeserializeFromWireFormat_serialize_eq {request : TpuForwardingRequest}
    (hfits : request.Fits) :
    QuicForwardProxy.TpuForwardingRequest.tryDeserializeFromWireFormat addrSerde
        (request.serialize addrSerde) =
      if request.formatVersion = formatVersion1 then .ok request.toProxy
      else .error QuicForwardProxy.assertEqFailed := by
  have hread := Bincode.deserialize_of_reads (reads_request addrSerde) hfits
  simp only [QuicForwardProxy.TpuForwardingRequest.tryDeserializeFromWireFormat, hread]
  rfl

theorem tryDeserializeFromWireFormat_serialize {request : TpuForwardingRequest}
    (hfits : request.Fits) (hversion : request.formatVersion = formatVersion1) :
    QuicForwardProxy.TpuForwardingRequest.tryDeserializeFromWireFormat addrSerde
        (request.serialize addrSerde) =
      .ok request.toProxy := by
  rw [tryDeserializeFromWireFormat_serialize_eq addrSerde hfits, if_pos hversion]

theorem tryDeserializeFromWireFormat_of_version_ne {request : TpuForwardingRequest}
    (hfits : request.Fits) (hversion : request.formatVersion ≠ formatVersion1) :
    QuicForwardProxy.TpuForwardingRequest.tryDeserializeFromWireFormat addrSerde
        (request.serialize addrSerde) =
      .error QuicForwardProxy.assertEqFailed := by
  rw [tryDeserializeFromWireFormat_serialize_eq addrSerde hfits, if_neg hversion]

/-- What lite-rpc sends, the proxy reads: the nodes in their order with their addresses as the
format keeps them, and the raw transactions in their order. -/
theorem proxy_reads_forwarding_request (addrSerde : SocketAddrSerde)
    (nodes : List (SocketAddr × Pubkey)) (txs : List TxData)
    (hnodes : nodes.length < 256 ^ 8) (hkeys : ∀ node ∈ nodes, node.2.key < 256 ^ 32)
    (htxs : txs.length < 256 ^ 8)
    (hdata : ∀ tx ∈ txs, tx.signature.signature < 256 ^ 64 ∧ tx.txRaw.length < 256 ^ 8) :
    ∃ bytes request,
      (TpuForwardingRequest.new nodes txs).trySerializeWireFormat addrSerde = .ok bytes ∧
      QuicForwardProxy.TpuForwardingRequest.tryDeserializeFromWireFormat addrSerde bytes =
        .ok request ∧
      request.getTpuNodes.map (fun node => (node.tpuSocketAddr, node.identityTpunode)) =
        nodes.map (fun node => (node.1.kept, node.2)) ∧
      request.getTransactionBytes = txs.map (·.txRaw) := by
  refine ⟨_, _, rfl,
    tryDeserializeFromWireFormat_serialize addrSerde (new_fits hnodes hkeys htxs hdata) rfl,
    ?_, ?_⟩
  · simp [QuicForwardProxy.TpuForwardingRequest.getTpuNodes, TpuForwardingRequest.toProxy,
      TpuForwardingRequest.new]
  · simp [QuicForwardProxy.TpuForwardingRequest.getTransactionBytes, TpuForwardingRequest.toProxy,
      TpuForwardingRequest.new, Function.comp_def]

theorem proxy_reads_forwarding_request_of_v4_node :
    let nodes : List (SocketAddr × Pubkey) := [(.v4 ⟨⟨⟨[127, 0, 0, 1], rfl⟩⟩, 8009⟩, ⟨7⟩)]
    let txs : List TxData := [⟨⟨3⟩, [1, 2, 3]⟩]
    nodes.length < 256 ^ 8 ∧ (∀ node ∈ nodes, node.2.key < 256 ^ 32) ∧ txs.length < 256 ^ 8 ∧
      (∀ tx ∈ txs, tx.signature.signature < 256 ^ 64 ∧ tx.txRaw.length < 256 ^ 8) ∧
      ∃ bytes request,
        (TpuForwardingRequest.new nodes txs).trySerializeWireFormat SocketAddr.serde = .ok bytes ∧
        QuicForwardProxy.TpuForwardingRequest.tryDeserializeFromWireFormat SocketAddr.serde bytes =
          .ok request ∧
        request.getTpuNodes.map (fun node => (node.tpuSocketAddr, node.identityTpunode)) =
          nodes.map (fun node => (node.1.kept, node.2)) ∧
        request.getTransactionBytes = txs.map (·.txRaw) :=
  ⟨by decide, by decide, by decide, by decide,
    proxy_reads_forwarding_request SocketAddr.serde _ _ (by decide) (by decide) (by decide)
      (by decide)⟩

/-- A V6 node with a scope id comes back from the proxy without it, under serde's own impls. -/
theorem scope_id_lost_on_the_wire :
    let nodes : List (SocketAddr × Pubkey) :=
      [(.v6 ⟨⟨List.Vector.replicate 16 0⟩, 8009, 0, 1⟩, ⟨7⟩)]
    ∃ bytes request,
      (TpuForwardingRequest.new nodes []).trySerializeWireFormat SocketAddr.serde = .ok bytes ∧
      QuicForwardProxy.TpuForwardingRequest.tryDeserializeFromWireFormat SocketAddr.serde bytes =
        .ok request ∧
      request.getTpuNodes.map (fun node => (node.tpuSocketAddr, node.identityTpunode)) ≠ nodes := by
  intro nodes
  have hfits : (TpuForwardingRequest.new nodes []).Fits :=
    new_fits (by decide) (by decide) (by decide) (by simp)
  refine ⟨_, _, rfl, tryDeserializeFromWireFormat_serialize SocketAddr.serde hfits rfl, ?_⟩
  decide

end ProxyRequestFormat

namespace QuicForwardProxy

/-- `ForwardPacket`: the transactions for one TPU node, with the shard hash of the batch. -/
structure ForwardPacket where
  transactions : List (List UInt8)
  tpuAddress : SocketAddr
  shardHash : Nat

/-- `ForwardPacket::new`: asserts a non-empty batch. -/
def ForwardPacket.new (transactions : List (List UInt8)) (tpuAddress : SocketAddr) (hash : Nat) :
    Except String ForwardPacket :=
  if transactions.isEmpty then .error "no transactions" else .ok ⟨transactions, tpuAddress, hash⟩

variable (addrSerde : SocketAddrSerde) (hashSignature : Signature → Nat)

/-- `get_hash`: the `DefaultHasher` digest of the first transaction's signature, the digest taken
as the function `hashSignature`. -/
def TpuForwardingRequest.getHash (self : TpuForwardingRequest) : Except String Nat := do
  let tx ← Rust.index self.transactions 0
  return hashSignature tx.signature

/-- The task `handle_client_connection` spawns for one uni stream, from the bytes `read_to_end`
returns: the packets it sends to the forwarder, or the panic. `try_deserialize_from_wire_format`
panics on another version, and `unwrap` on its `Err`; the arguments of `ForwardPacket::new` are
evaluated before its assertion, `get_hash()` last among them. -/
def handleUniStream (rawRequest : List UInt8) : Except String (List ForwardPacket) := do
  let proxyRequest ←
    match TpuForwardingRequest.tryDeserializeFromWireFormat addrSerde rawRequest with
    | .ok request => .ok request
    | .error err =>
      if err = assertEqFailed then .error err
      else Rust.unwrap (Except.error err : Except String TpuForwardingRequest)
  if proxyRequest.getTpuNodes.isEmpty then
    return []
  let txs := proxyRequest.getTransactionBytes
  proxyRequest.getTpuNodes.mapM fun tpuNode => do
    let hash ← proxyRequest.getHash hashSignature
    ForwardPacket.new txs tpuNode.tpuSocketAddr hash

variable {addrSerde hashSignature}

theorem handleUniStream_of_ok {rawRequest : List UInt8} {request : TpuForwardingRequest}
    (h : TpuForwardingRequest.tryDeserializeFromWireFormat addrSerde rawRequest = .ok request) :
    handleUniStream addrSerde hashSignature rawRequest =
      if request.getTpuNodes.isEmpty then .ok []
      else request.getTpuNodes.mapM (fun tpuNode => do
        let hash ← request.getHash hashSignature
        ForwardPacket.new request.getTransactionBytes tpuNode.tpuSocketAddr hash) := by
  simp only [handleUniStream, h, Rust.ok_bind]
  rfl

theorem handleUniStream_of_transactions_nil {rawRequest : List UInt8}
    {request : TpuForwardingRequest}
    (h : TpuForwardingRequest.tryDeserializeFromWireFormat addrSerde rawRequest = .ok request)
    (hnodes : request.getTpuNodes ≠ []) (htxs : request.transactions = []) :
    handleUniStream addrSerde hashSignature rawRequest = .error (Rust.indexOutOfBounds 0 0) := by
  obtain ⟨node, nodes, hcons⟩ := List.exists_cons_of_ne_nil hnodes
  have hhash : request.getHash hashSignature = .error (Rust.indexOutOfBounds 0 0) := by
    simp only [TpuForwardingRequest.getHash, htxs, @Rust.index_of_le TxData [] 0 (Nat.le_refl 0)]
    rfl
  rw [handleUniStream_of_ok h, hcons]
  simp [List.mapM_cons, hhash]

end QuicForwardProxy

namespace ProxyRequestFormat

open QuicForwardProxy in
/-- Bytes any client can send make the proxy panic: a request of another version fails the decoder's
assertion, and a request of its version with TPU nodes and no transactions, which it decodes, fails
in `get_hash` while it is handled. -/
theorem proxy_request_handling_panics (addrSerde : SocketAddrSerde)
    (hashSignature : Signature → Nat) (request : TpuForwardingRequest) (hfits : request.Fits) :
    (request.formatVersion ≠ formatVersion1 →
        QuicForwardProxy.TpuForwardingRequest.tryDeserializeFromWireFormat addrSerde
            (request.serialize addrSerde) = .error assertEqFailed ∧
        handleUniStream addrSerde hashSignature (request.serialize addrSerde) =
          .error assertEqFailed) ∧
      (request.formatVersion = formatVersion1 → request.tpuNodes ≠ [] → request.transactions = [] →
        QuicForwardProxy.TpuForwardingRequest.tryDeserializeFromWireFormat addrSerde
            (request.serialize addrSerde) = .ok request.toProxy ∧
        handleUniStream addrSerde hashSignature (request.serialize addrSerde) =
          .error (Rust.indexOutOfBounds 0 0)) := by
  refine ⟨fun hversion => ?_, fun hversion hnodes htxs => ?_⟩
  · have hpanic := tryDeserializeFromWireFormat_of_version_ne addrSerde hfits hversion
    refine ⟨hpanic, ?_⟩
    simp only [handleUniStream, hpanic, if_true, Rust.error_bind]
  · have hok := tryDeserializeFromWireFormat_serialize addrSerde hfits hversion
    refine ⟨hok, handleUniStream_of_transactions_nil hok ?_ ?_⟩
    · simpa [QuicForwardProxy.TpuForwardingRequest.getTpuNodes, TpuForwardingRequest.toProxy]
        using hnodes
    · simp [TpuForwardingRequest.toProxy, htxs]

/-- A request of version 2499, and a request of version 2500 for one node with no transactions,
written with serde's own impls. -/
theorem proxy_request_handling_panics_on_two_requests :
    let node : TpuNode := ⟨.v4 ⟨⟨⟨[127, 0, 0, 1], rfl⟩⟩, 8009⟩, ⟨7⟩⟩
    let old : TpuForwardingRequest := ⟨2499, [node], [⟨⟨3⟩, [1, 2, 3]⟩]⟩
    let empty : TpuForwardingRequest := ⟨2500, [node], []⟩
    old.Fits ∧ empty.Fits ∧
      QuicForwardProxy.handleUniStream SocketAddr.serde (fun _ => 0)
          (old.serialize SocketAddr.serde) = .error QuicForwardProxy.assertEqFailed ∧
      QuicForwardProxy.handleUniStream SocketAddr.serde (fun _ => 0)
          (empty.serialize SocketAddr.serde) = .error (Rust.indexOutOfBounds 0 0) := by
  intro node old empty
  have hold : old.Fits := ⟨⟨by decide, by decide⟩, by decide, by decide⟩
  have hempty : empty.Fits := ⟨⟨by decide, by decide⟩, by decide, by decide⟩
  exact ⟨hold, hempty,
    ((proxy_request_handling_panics SocketAddr.serde (fun _ => 0) old hold).1 (by decide)).2,
    ((proxy_request_handling_panics SocketAddr.serde (fun _ => 0) empty hempty).2 rfl
      (by simp [empty]) rfl).2⟩

end ProxyRequestFormat

end LiteRpc
