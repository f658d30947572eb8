import LiteRpc.BlockInformationStore
import LiteRpc.ComputeBudget
import LiteRpc.TransactionReplayer

/-!
`TransactionService::send_wire_transaction` and the `send_transaction` RPC of `LiteBridge` that
hands it the user's bytes. The bytes are read with `bincode::deserialize::<VersionedTransaction>`,
taken here as a parameter `deserialize`; its error is the `bail!` text. The instruction data is
read with borsh's `try_from_slice_unchecked`, the parameter `tryFromSliceUnchecked`.
`signatures[0]` panics on a transaction without signatures, and `program_id` on an instruction
whose program index is past the account keys. The transaction channel is an mpsc sender whose `send` fails once its receiver is
dropped; the error of the replay channel's `send` is ignored.

A panic is the error of the outer `Except`; the function's own `anyhow::Result` is inside, with the
service after the call. `signature.to_string()` is kept as the signature.
-/

namespace LiteRpc

structure VersionedTransaction where
  signatures : List Signature
  message : VersionedMessage
deriving DecidableEq, Repr

/-- `VersionedTransaction::get_recent_blockhash`. -/
def VersionedTransaction.getRecentBlockhash (self : VersionedTransaction) : Hash :=
  self.message.recentBlockhash

/-- The sending half of a channel: what it has sent, and whether its receiver is gone. -/
structure Channel (α : Type) where
  sent : List α
  closed : Bool
deriving DecidableEq, Repr

/-- `Sender::send`: the value back, as `SendError`, once the receiver is gone. -/
def Channel.send {α : Type} (self : Channel α) (value : α) : Except α (Channel α) :=
  if self.closed then .error value else .ok { self with sent := self.sent ++ [value] }

structure TransactionService where
  transactionChannel : Channel SentTransactionInfo
  replayChannel : Channel TransactionReplay
  blockInformationStore : BlockInformationStore
  maxRetries : Nat
  replayOffset : Nat

namespace TransactionService

variable (deserialize : List UInt8 → Except String VersionedTransaction)
  (tryFromSliceUnchecked : List UInt8 → Option ComputeBudgetInstruction)

/-- `send_wire_transaction`, at the instant `now` of `Instant::now()`. -/
def sendWireTransaction (self : TransactionService) (rawTx : List UInt8) (maxRetries : Option Nat)
    (now : Nat) : Except String (Except String Signature × TransactionService) := do
  match deserialize rawTx with
  | .error err => return (.error err, self)
  | .ok tx =>
    let signature ← Rust.index tx.signatures 0
    match self.blockInformationStore.getBlockInfo tx.getRecentBlockhash with
    | none => return (.error "Blockhash not found in block store", self)
    | some blockInfo =>
      if self.blockInformationStore.getLastBlockheight > blockInfo.lastValidBlockheight then
        return (.error "Blockhash is expired", self)
      else
        let prioritizationFee ← prioritizationFeeOf tryFromSliceUnchecked tx.message
        let maxReplay := maxRetries.getD self.maxRetries
        let transactionInfo : SentTransactionInfo :=
          ⟨signature, blockInfo.slot, rawTx, blockInfo.lastValidBlockheight, prioritizationFee⟩
        match self.transactionChannel.send transactionInfo with
        | .error _ =>
          return (.error "Internal error sending transaction on send channel error channel closed",
            self)
        | .ok transactionChannel =>
          let replayAt := now + self.replayOffset
          -- ignore error for replay service
          let replayChannel :=
            match self.replayChannel.send ⟨transactionInfo, 0, maxReplay, replayAt⟩ with
            | .ok replayChannel => replayChannel
            | .error _ => self.replayChannel
          return (.ok signature, { self with transactionChannel, replayChannel })

variable {deserialize tryFromSliceUnchecked} (self : TransactionService) (maxRetries : Option Nat)
  (now : Nat)

/-- A request that ends in `Err` sends nothing: the service is as it was. -/
theorem sendWireTransaction_of_error {rawTx : List UInt8} {err : String}
    {after : TransactionService}
    (h : self.sendWireTransaction deserialize tryFromSliceUnchecked rawTx maxRetries now =
      .ok (.error err, after)) :
    after = self := by
  simp only [sendWireTransaction] at h
  -- every `Err` of the body returns the service it was given
  split at h
  · cases h
    rfl
  · next tx _ =>
    rcases hindex : Rust.index tx.signatures 0 with _ | signature
    · simp [hindex] at h
    · simp only [hindex, Rust.ok_bind] at h
      split at h
      · cases h
        rfl
      · split_ifs at h
        · cases h
          rfl
        · rcases hfee : prioritizationFeeOf tryFromSliceUnchecked tx.message with _ | fee
          · simp [hfee] at h
          · simp only [hfee, Rust.ok_bind] at h
            split at h
            · cases h
              rfl
            · cases h

/-- A transaction that decodes, is signed, has a known and unexpired blockhash and program indices
in range goes out once on each channel: on the transaction channel if it is open, and on the replay
channel if that is open; its fee is its last compute unit price. -/
theorem sendWireTransaction_of_valid {rawTx : List UInt8} {tx : VersionedTransaction}
    (hraw : deserialize rawTx = .ok tx) {signature : Signature} {signatures : List Signature}
    (hsig : tx.signatures = signature :: signatures) {blockInfo : BlockInformation}
    (hblock : self.blockInformationStore.getBlockInfo tx.getRecentBlockhash = some blockInfo)
    (hvalid : self.blockInformationStore.getLastBlockheight ≤ blockInfo.lastValidBlockheight)
    (hrange : ProgramIdsInRange tx.message) (hopen : self.transactionChannel.closed = false) :
    let transactionInfo : SentTransactionInfo := ⟨signature, blockInfo.slot, rawTx,
      blockInfo.lastValidBlockheight,
      (computeUnitPrices tryFromSliceUnchecked tx.message.staticAccountKeys
        tx.message.instructions).getLast?.getD 0⟩
    self.sendWireTransaction deserialize tryFromSliceUnchecked rawTx maxRetries now =
      .ok (.ok signature, { self with
        transactionChannel := ⟨self.transactionChannel.sent ++ [transactionInfo], false⟩
        replayChannel :=
          if self.replayChannel.closed then self.replayChannel
          else { self.replayChannel with sent := self.replayChannel.sent ++
            [⟨transactionInfo, 0, maxRetries.getD self.maxRetries, now + self.replayOffset⟩] } }) := by
  intro transactionInfo
  have hindex : Rust.index tx.signatures 0 = .ok signature := by
    rw [hsig]
    rfl
  have hexpired : ¬ self.blockInformationStore.getLastBlockheight > blockInfo.lastValidBlockheight :=
    Nat.not_lt.mpr hvalid
  simp only [sendWireTransaction, hraw, hindex, Rust.ok_bind, hblock, hexpired, if_false,
    prioritizationFeeOf_eq hrange, Channel.send, hopen, Bool.false_eq_true]
  cases self.replayChannel.closed <;> rfl

theorem sendWireTransaction_of_signatures_nil {rawTx : List UInt8} {message : VersionedMessage}
    (hraw : deserialize rawTx = .ok ⟨[], message⟩) :
    self.sendWireTransaction deserialize tryFromSliceUnchecked rawTx maxRetries now =
      .error (Rust.indexOutOfBounds 0 0) := by
  simp only [sendWireTransaction, hraw, @Rust.index_of_le Signature [] 0 (Nat.le_refl 0)]
  rfl

/-- A signed transaction with a known and unexpired blockhash and a program index out of range
panics in `program_id`, before anything is sent. -/
theorem sendWireTransaction_of_not_programIdsInRange {rawTx : List UInt8}
    {tx : VersionedTransaction} (hraw : deserialize rawTx = .ok tx) {signature : Signature}
    {signatures : List Signature} (hsig : tx.signatures = signature :: signatures)
    {blockInfo : BlockInformation}
    (hblock : self.blockInformationStore.getBlockInfo tx.getRecentBlockhash = some blockInfo)
    (hvalid : self.blockInformationStore.getLastBlockheight ≤ blockInfo.lastValidBlockheight)
    (hrange : ¬ ProgramIdsInRange tx.message) :
    ∃ panic,
      self.sendWireTransaction deserialize tryFromSliceUnchecked rawTx maxRetries now =
        .error panic := by
  obtain ⟨panic, hpanic⟩ :=
    @prioritizationFeeOf_of_not_programIdsInRange tryFromSliceUnchecked _ hrange
  have hindex : Rust.index tx.signatures 0 = .ok signature := by
    rw [hsig]
    rfl
  have hexpired : ¬ self.blockInformationStore.getLastBlockheight > blockInfo.lastValidBlockheight :=
    Nat.not_lt.mpr hvalid
  refine ⟨panic, ?_⟩
  simp only [sendWireTransaction, hraw, hindex, Rust.ok_bind, hblock, hexpired, if_false, hpanic,
    Rust.error_bind]

end TransactionService

inductive UiTransactionEncoding where
  | binary
  | base64
  | base58
  | json
  | jsonParsed
deriving DecidableEq, Repr

inductive TransactionBinaryEncoding where
  | base58
  | base64
deriving DecidableEq, Repr

/-- `UiTransactionEncoding::into_binary_encoding`. -/
def UiTransactionEncoding.intoBinaryEncoding : UiTransactionEncoding → Option TransactionBinaryEncoding
  | .binary | .base58 => some .base58
  | .base64 => some .base64
  | _ => none

/-- The jsonrpsee error codes the RPC answers with. -/
inductive ErrorCode where
  | oversizedRequest
  | invalidParams
  | internalError
deriving DecidableEq, Repr

def maxBase58Size : Nat := 1683

def maxBase64Size : Nat := 1644

/-- `PACKET_DATA_SIZE`. -/
def packetDataSize : Nat := 1232

namespace LiteBridge

variable (deserialize : List UInt8 → Except String VersionedTransaction)
  (tryFromSliceUnchecked : List UInt8 → Option ComputeBudgetInstruction)
  (base58Decode base64Decode : String → Option (List UInt8))

/-- `send_transaction`: the encoding and size checks, then `send_wire_transaction`. The string's
`len()` is its length in bytes, and `max_retries` goes through `as u16`. -/
def sendTransaction (transactionService : TransactionService) (tx : String)
    (encoding : Option UiTransactionEncoding) (maxRetries : Option Nat) (now : Nat) :
    Except String (Except ErrorCode Signature × TransactionService) := do
  let encoding := encoding.getD .base58
  let expectedSize := match encoding with
    | .base58 => some maxBase58Size
    | .base64 => some maxBase64Size
    | _ => none
  if expectedSize.any (tx.utf8ByteSize > ·) then
    return (.error .oversizedRequest, transactionService)
  match encoding.intoBinaryEncoding with
  | none => return (.error .invalidParams, transactionService)
  | some binaryEncoding =>
    let decoded := match binaryEncoding with
      | .base58 =>
        if tx.utf8ByteSize > maxBase58Size then Except.error ErrorCode.oversizedRequest
        else (base58Decode tx).elim (.error .invalidParams) .ok
      | .base64 =>
        if tx.utf8ByteSize > maxBase64Size then .error .oversizedRequest
        else (base64Decode tx).elim (.error .invalidParams) .ok
    match decoded with
    | .error code => return (.error code, transactionService)
    | .ok wireOutput =>
      if wireOutput.length > packetDataSize then
        return (.error .oversizedRequest, transactionService)
      let maxRetries := maxRetries.map (· % 2 ^ 16)
      let (result, transactionService) ←
        transactionService.sendWireTransaction deserialize tryFromSliceUnchecked wireOutput
          maxRetries now
      match result with
      | .ok sig => return (.ok sig, transactionService)
      | .error _ => return (.error .internalError, transactionService)

variable {deserialize tryFromSliceUnchecked base58Decode base64Decode}

theorem sendTransaction_of_base58 (transactionService : TransactionService) {tx : String}
    {wireOutput : List UInt8} (hsize : tx.utf8ByteSize ≤ maxBase58Size)
    (hdecode : base58Decode tx = some wireOutput) (hpacket : wireOutput.length ≤ packetDataSize)
    (maxRetries : Option Nat) (now : Nat) :
    sendTransaction deserialize tryFromSliceUnchecked base58Decode base64Decode transactionService
        tx none maxRetries now =
      (transactionService.sendWireTransaction deserialize tryFromSliceUnchecked wireOutput
        (maxRetries.map (· % 2 ^ 16)) now) >>= fun r =>
          .ok (r.1.mapError fun _ => ErrorCode.internalError, r.2) := by
  have hsize' : ¬ tx.utf8ByteSize > maxBase58Size := Nat.not_lt.mpr hsize
  have hpacket' : ¬ wireOutput.length > packetDataSize := Nat.not_lt.mpr hpacket
  simp only [sendTransaction, Option.getD_none, Option.any_some, hsize', decide_false,
    Bool.false_eq_true, if_false, UiTransactionEncoding.intoBinaryEncoding, hdecode,
    Option.elim_some, hpacket']
  rcases transactionService.sendWireTransaction deserialize tryFromSliceUnchecked wireOutput
    (maxRetries.map (· % 2 ^ 16)) now with _ | ⟨_ | sig, service⟩ <;> rfl

end LiteBridge

/-- A byte string that decodes to a transaction without signatures makes `send_wire_transaction`
panic at `signatures[0]`, before anything is sent, whatever the store and the channels; and the RPC
hands it such bytes from any base58 string of allowed size that decodes to them. -/
theorem send_wire_transaction_panics_without_signatures
    {deserialize : List UInt8 → Except String VersionedTransaction}
    (tryFromSliceUnchecked : List UInt8 → Option ComputeBudgetInstruction)
    (base58Decode base64Decode : String → Option (List UInt8)) (service : TransactionService)
    {rawTx : List UInt8} {message : VersionedMessage} (hraw : deserialize rawTx = .ok ⟨[], message⟩)
    (maxRetries : Option Nat) (now : Nat) :
    service.sendWireTransaction deserialize tryFromSliceUnchecked rawTx maxRetries now =
        .error (Rust.indexOutOfBounds 0 0) ∧
      ∀ tx : String, tx.utf8ByteSize ≤ maxBase58Size → base58Decode tx = some rawTx →
        rawTx.length ≤ packetDataSize →
        LiteBridge.sendTransaction deserialize tryFromSliceUnchecked base58Decode base64Decode
          service tx none maxRetries now = .error (Rust.indexOutOfBounds 0 0) := by
  refine ⟨service.sendWireTransaction_of_signatures_nil maxRetries now hraw,
    fun tx hsize hdecode hpacket => ?_⟩
  rw [LiteBridge.sendTransaction_of_base58 service hsize hdecode hpacket,
    service.sendWireTransaction_of_signatures_nil _ now hraw, Rust.error_bind]

/-- 38 zero bytes, bincode's encoding of an unsigned legacy transaction with an empty message: no
signatures, a zero header, no account keys, the zero blockhash and no instructions. In base58 they
are 38 ones. -/
theorem send_wire_transaction_panics_on_unsigned_bytes :
    let message : VersionedMessage := ⟨[], ⟨0⟩, []⟩
    let deserialize : List UInt8 → Except String VersionedTransaction := fun bytes =>
      if bytes = List.replicate 38 0 then .ok ⟨[], message⟩ else .error "io error: unexpected end of file"
    let base58Decode : String → Option (List UInt8) := fun s =>
      if s = "11111111111111111111111111111111111111" then some (List.replicate 38 0) else none
    let store := BlockInformationStore.new ⟨0, 0, 150, 0, ⟨0⟩, .finalized, 0⟩
    let service : TransactionService := ⟨⟨[], false⟩, ⟨[], false⟩, store, 40, 0⟩
    deserialize (List.replicate 38 0) = .ok ⟨[], message⟩ ∧
      service.sendWireTransaction deserialize ComputeBudgetInstruction.borshDeserialize
          (List.replicate 38 0) none 0 =
        .error (Rust.indexOutOfBounds 0 0) ∧
      LiteBridge.sendTransaction deserialize ComputeBudgetInstruction.borshDeserialize base58Decode
          base58Decode service "11111111111111111111111111111111111111" none none 0 =
        .error (Rust.indexOutOfBounds 0 0) := by
  intro message deserialize base58Decode store service
  have hraw : deserialize (List.replicate 38 0) = .ok ⟨[], message⟩ := rfl
  have h := send_wire_transaction_panics_without_signatures
    ComputeBudgetInstruction.borshDeserialize base58Decode base58Decode service hraw none 0
  exact ⟨hraw, h.1, h.2 "11111111111111111111111111111111111111" (by decide) rfl (by decide)⟩

end LiteRpc
