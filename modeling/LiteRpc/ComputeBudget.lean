import LiteRpc.Lib.Bincode
import LiteRpc.Lib.Panic
import LiteRpc.ProducedBlock

/-!
The compute budget instructions of a transaction message, as three places of lite-rpc read them:
`map_compute_budget_instructions` of the gRPC block mapping, the two `find_map`s of
`from_ui_block` for polled blocks, and the loop over the instructions of
`send_wire_transaction`. An instruction is one of the compute budget program when the account key
at its program index is that program's id; `program_id` indexes the static account keys and
panics past their end. Its data is read by borsh's `try_from_slice_unchecked` of the SDK, the
parameter `tryFromSliceUnchecked`; the examples read it with borsh's layout, `borshDeserialize`.

All three read the same list, the compute budget instructions of the message that decode, in
order. The block mapping takes the only limit and the only price of it and panics on a second one
of either; `from_ui_block` takes the first of each; `send_wire_transaction` takes the last price.
-/

namespace LiteRpc

structure CompiledInstruction where
  programIdIndex : UInt8
  accounts : List UInt8
  data : List UInt8
deriving DecidableEq, Repr

/-- `VersionedMessage`, by what the code reads of either version: the static account keys, the
recent blockhash and the instructions. -/
structure VersionedMessage where
  staticAccountKeys : List Pubkey
  recentBlockhash : Hash
  instructions : List CompiledInstruction
deriving DecidableEq, Repr

/-- `compute_budget::id()`, `ComputeBudget111111111111111111111111111111`, as the little-endian
value of its 32 bytes. -/
def computeBudgetId : Pubkey :=
  ⟨1731608570859680351256770061668080106359286076089926184483795371427331⟩

/-- `CompiledInstruction::program_id`. -/
def CompiledInstruction.programId (self : CompiledInstruction) (programIds : List Pubkey) :
    Except String Pubkey :=
  Rust.index programIds self.programIdIndex.toNat

inductive ComputeBudgetInstruction where
  | unused
  | requestHeapFrame (bytes : Nat)
  | setComputeUnitLimit (units : Nat)
  | setComputeUnitPrice (microLamports : Nat)
  | setLoadedAccountsDataSizeLimit (bytes : Nat)
deriving DecidableEq, Repr

namespace ComputeBudgetInstruction

/-- The units of a `SetComputeUnitLimit`. -/
def computeUnitLimit? : ComputeBudgetInstruction → Option Nat
  | .setComputeUnitLimit units => some units
  | _ => none

/-- The price of a `SetComputeUnitPrice`. -/
def computeUnitPrice? : ComputeBudgetInstruction → Option Nat
  | .setComputeUnitPrice microLamports => some microLamports
  | _ => none

end ComputeBudgetInstruction

variable (tryFromSliceUnchecked : List UInt8 → Option ComputeBudgetInstruction)

/-- One instruction of the loop of `map_compute_budget_instructions`, on its two `OnceCell`s. -/
def mapComputeBudgetStep (staticAccountKeys : List Pubkey) (cells : Option Nat × Option Nat)
    (instruction : CompiledInstruction) : Except String (Option Nat × Option Nat) := do
  let programId ← instruction.programId staticAccountKeys
  if programId = computeBudgetId then
    match tryFromSliceUnchecked instruction.data with
    -- aka cu requested
    | some (.setComputeUnitLimit limit) =>
      let cuRequestedCell ←
        Rust.expect (Rust.OnceCell.set cells.1 limit) "cu_limit must be set only once"
      return (cuRequestedCell, cells.2)
    -- aka prio fees
    | some (.setComputeUnitPrice price) =>
      let prioritizationFeesCell ←
        Rust.expect (Rust.OnceCell.set cells.2 price) "prioritization_fees must be set only once"
      return (cells.1, prioritizationFeesCell)
    | _ => return cells
  else return cells

/-- `map_compute_budget_instructions`: `(cu_requested, prioritization_fees)`. -/
def mapComputeBudgetInstructions (message : VersionedMessage) :
    Except String (Option Nat × Option Nat) :=
  message.instructions.foldlM (mapComputeBudgetStep tryFromSliceUnchecked message.staticAccountKeys)
    (none, none)

/-- The `find_map` of `from_ui_block` for one variant: the first compute budget instruction that
decodes to it. It reads the program id of each instruction it looks at. -/
def findComputeBudgetValue (staticAccountKeys : List Pubkey)
    (select : ComputeBudgetInstruction → Option Nat) :
    List CompiledInstruction → Except String (Option Nat)
  | [] => .ok none
  | instruction :: instructions => do
    let programId ← instruction.programId staticAccountKeys
    let found := if programId = computeBudgetId then
        (tryFromSliceUnchecked instruction.data).bind select
      else none
    match found with
    | some value => return some value
    | none => findComputeBudgetValue staticAccountKeys select instructions

/-- The `cu_requested` of `from_ui_block`. -/
def cuRequestedOfUiBlock (message : VersionedMessage) : Except String (Option Nat) :=
  findComputeBudgetValue tryFromSliceUnchecked message.staticAccountKeys
    ComputeBudgetInstruction.computeUnitLimit? message.instructions

/-- The `prioritization_fees` of `from_ui_block`. -/
def prioritizationFeesOfUiBlock (message : VersionedMessage) : Except String (Option Nat) :=
  findComputeBudgetValue tryFromSliceUnchecked message.staticAccountKeys
    ComputeBudgetInstruction.computeUnitPrice? message.instructions

/-- One instruction of the `prioritization_fee` loop of `send_wire_transaction`. -/
def prioritizationFeeStep (staticAccountKeys : List Pubkey) (prioritizationFee : Nat)
    (ix : CompiledInstruction) : Except String Nat := do
  let programId ← ix.programId staticAccountKeys
  if programId = computeBudgetId then
    match tryFromSliceUnchecked ix.data with
    | some (.setComputeUnitPrice fees) => return fees
    | _ => return prioritizationFee
  else return prioritizationFee

/-- The `prioritization_fee` of `send_wire_transaction`. -/
def prioritizationFeeOf (message : VersionedMessage) : Except String Nat :=
  message.instructions.foldlM
    (prioritizationFeeStep tryFromSliceUnchecked message.staticAccountKeys) 0

/-- The compute budget instruction an instruction decodes to, if it is one of that program. -/
def computeBudgetInstructionOf (staticAccountKeys : List Pubkey) (ix : CompiledInstruction) :
    Option ComputeBudgetInstruction :=
  if staticAccountKeys[ix.programIdIndex.toNat]? = some computeBudgetId then
    tryFromSliceUnchecked ix.data
  else none

/-- The compute unit limits of the instructions, in order. -/
def computeUnitLimits (staticAccountKeys : List Pubkey) (instructions : List CompiledInstruction) :
    List Nat :=
  instructions.filterMap fun ix =>
    (computeBudgetInstructionOf tryFromSliceUnchecked staticAccountKeys ix).bind
      ComputeBudgetInstruction.computeUnitLimit?

/-- The compute unit prices of the instructions, in order. -/
def computeUnitPrices (staticAccountKeys : List Pubkey) (instructions : List CompiledInstruction) :
    List Nat :=
  instructions.filterMap fun ix =>
    (computeBudgetInstructionOf tryFromSliceUnchecked staticAccountKeys ix).bind
      ComputeBudgetInstruction.computeUnitPrice?

/-- Every instruction's program index is one of the static account keys, as a sanitized message
has it. -/
def ProgramIdsInRange (message : VersionedMessage) : Prop :=
  ∀ ix ∈ message.instructions, ix.programIdIndex.toNat < message.staticAccountKeys.length

instance (message : VersionedMessage) : Decidable (ProgramIdsInRange message) :=
  inferInstanceAs (Decidable (∀ ix ∈ message.instructions, _))

section Readers

variable {tryFromSliceUnchecked} {keys : List Pubkey} {ix : CompiledInstruction}

theorem programId_of_lt (h : ix.programIdIndex.toNat < keys.length) :
    ix.programId keys = .ok keys[ix.programIdIndex.toNat] :=
  Rust.index_of_lt h

theorem computeBudgetInstructionOf_of_lt (h : ix.programIdIndex.toNat < keys.length) :
    computeBudgetInstructionOf tryFromSliceUnchecked keys ix =
      if keys[ix.programIdIndex.toNat] = computeBudgetId then
        tryFromSliceUnchecked ix.data
      else none := by
  simp [computeBudgetInstructionOf, h]

theorem computeUnitLimits_cons (ix : CompiledInstruction) (instructions : List CompiledInstruction) :
    computeUnitLimits tryFromSliceUnchecked keys (ix :: instructions) =
      ((computeBudgetInstructionOf tryFromSliceUnchecked keys ix).bind
        ComputeBudgetInstruction.computeUnitLimit?).toList ++
        computeUnitLimits tryFromSliceUnchecked keys instructions := by
  simp only [computeUnitLimits, List.filterMap_eq_flatMap_toList, List.flatMap_cons]

theorem computeUnitPrices_cons (ix : CompiledInstruction) (instructions : List CompiledInstruction) :
    computeUnitPrices tryFromSliceUnchecked keys (ix :: instructions) =
      ((computeBudgetInstructionOf tryFromSliceUnchecked keys ix).bind
        ComputeBudgetInstruction.computeUnitPrice?).toList ++
        computeUnitPrices tryFromSliceUnchecked keys instructions := by
  simp only [computeUnitPrices, List.filterMap_eq_flatMap_toList, List.flatMap_cons]

theorem mapComputeBudgetStep_of_lt (h : ix.programIdIndex.toNat < keys.length) (a b : Option Nat) :
    mapComputeBudgetStep tryFromSliceUnchecked keys (a, b) ix =
      match computeBudgetInstructionOf tryFromSliceUnchecked keys ix with
      | some (.setComputeUnitLimit limit) => do
        let cuRequestedCell ← Rust.expect (Rust.OnceCell.set a limit) "cu_limit must be set only once"
        return (cuRequestedCell, b)
      | some (.setComputeUnitPrice price) => do
        let prioritizationFeesCell ←
          Rust.expect (Rust.OnceCell.set b price) "prioritization_fees must be set only once"
        return (a, prioritizationFeesCell)
      | _ => .ok (a, b) := by
  rw [computeBudgetInstructionOf_of_lt h]
  simp only [mapComputeBudgetStep, programId_of_lt h, Rust.ok_bind]
  split_ifs
  · rcases tryFromSliceUnchecked ix.data with _ | (_ | _ | _ | _ | _) <;> rfl
  · rfl

theorem foldlM_mapComputeBudgetStep_eq_ok_iff {instructions : List CompiledInstruction}
    (hrange : ∀ ix ∈ instructions, ix.programIdIndex.toNat < keys.length) (a b : Option Nat)
    (r : Option Nat × Option Nat) :
    instructions.foldlM (mapComputeBudgetStep tryFromSliceUnchecked keys) (a, b) = .ok r ↔
      (a.toList ++ computeUnitLimits tryFromSliceUnchecked keys instructions).length ≤ 1 ∧
        (b.toList ++ computeUnitPrices tryFromSliceUnchecked keys instructions).length ≤ 1 ∧
        r = ((a.toList ++ computeUnitLimits tryFromSliceUnchecked keys instructions).head?,
          (b.toList ++ computeUnitPrices tryFromSliceUnchecked keys instructions).head?) := by
  induction instructions generalizing a b with
  | nil =>
    cases a <;> cases b <;> simp [computeUnitLimits, computeUnitPrices, pure, Except.pure, eq_comm]
  | cons ix instructions ih =>
    have hrest := fun j hj => hrange j (List.mem_cons_of_mem ix hj)
    rw [List.foldlM_cons, mapComputeBudgetStep_of_lt (hrange ix List.mem_cons_self),
      computeUnitLimits_cons, computeUnitPrices_cons]
    rcases computeBudgetInstructionOf tryFromSliceUnchecked keys ix with
      _ | _ | bytes | limit | price | bytes
    case some.setComputeUnitLimit =>
      cases a <;> simp [ComputeBudgetInstruction.computeUnitLimit?,
        ComputeBudgetInstruction.computeUnitPrice?, ih hrest]
    case some.setComputeUnitPrice =>
      cases b <;> simp [ComputeBudgetInstruction.computeUnitLimit?,
        ComputeBudgetInstruction.computeUnitPrice?, ih hrest]
    all_goals simp [ComputeBudgetInstruction.computeUnitLimit?,
      ComputeBudgetInstruction.computeUnitPrice?, ih hrest]

theorem findComputeBudgetValue_of_forall_lt {instructions : List CompiledInstruction}
    (hrange : ∀ ix ∈ instructions, ix.programIdIndex.toNat < keys.length)
    (select : ComputeBudgetInstruction → Option Nat) :
    findComputeBudgetValue tryFromSliceUnchecked keys select instructions =
      .ok (instructions.filterMap fun ix =>
        (computeBudgetInstructionOf tryFromSliceUnchecked keys ix).bind select).head? := by
  induction instructions with
  | nil => rfl
  | cons ix instructions ih =>
    have hix := hrange ix List.mem_cons_self
    have hfound : (if keys[ix.programIdIndex.toNat] = computeBudgetId then
        (tryFromSliceUnchecked ix.data).bind select else none) =
        (computeBudgetInstructionOf tryFromSliceUnchecked keys ix).bind select := by
      rw [computeBudgetInstructionOf_of_lt hix]
      split_ifs <;> rfl
    simp only [findComputeBudgetValue, programId_of_lt hix, Rust.ok_bind, hfound,
      List.filterMap_cons]
    cases (computeBudgetInstructionOf tryFromSliceUnchecked keys ix).bind select with
    | none => exact ih fun j hj => hrange j (List.mem_cons_of_mem ix hj)
    | some value => rfl

theorem prioritizationFeeStep_of_lt (h : ix.programIdIndex.toNat < keys.length) (fee : Nat) :
    prioritizationFeeStep tryFromSliceUnchecked keys fee ix =
      .ok (((computeBudgetInstructionOf tryFromSliceUnchecked keys ix).bind
        ComputeBudgetInstruction.computeUnitPrice?).getD fee) := by
  rw [computeBudgetInstructionOf_of_lt h]
  simp only [prioritizationFeeStep, programId_of_lt h, Rust.ok_bind]
  split_ifs
  · rcases tryFromSliceUnchecked ix.data with _ | (_ | _ | _ | _ | _) <;> rfl
  · rfl

theorem foldlM_prioritizationFeeStep_of_exists_le {instructions : List CompiledInstruction}
    (h : ∃ ix ∈ instructions, keys.length ≤ ix.programIdIndex.toNat) (fee : Nat) :
    ∃ panic, instructions.foldlM (prioritizationFeeStep tryFromSliceUnchecked keys) fee =
      .error panic := by
  induction instructions generalizing fee with
  | nil => simp at h
  | cons ix instructions ih =>
    rw [List.foldlM_cons]
    by_cases hix : ix.programIdIndex.toNat < keys.length
    · -- this one is in range, so a later one is not
      have hlater : ∃ j ∈ instructions, keys.length ≤ j.programIdIndex.toNat := by
        obtain ⟨j, hj, hle⟩ := h
        rcases List.mem_cons.mp hj with rfl | hj
        · exact absurd hle (Nat.not_le.mpr hix)
        · exact ⟨j, hj, hle⟩
      rw [prioritizationFeeStep_of_lt hix, Rust.ok_bind]
      exact ih hlater _
    · have hpanic : prioritizationFeeStep tryFromSliceUnchecked keys fee ix =
          .error (Rust.indexOutOfBounds keys.length ix.programIdIndex.toNat) := by
        simp only [prioritizationFeeStep, CompiledInstruction.programId,
          Rust.index_of_le (Nat.le_of_not_lt hix), Rust.error_bind]
      exact ⟨_, by rw [hpanic, Rust.error_bind]⟩

theorem foldlM_prioritizationFeeStep {instructions : List CompiledInstruction}
    (hrange : ∀ ix ∈ instructions, ix.programIdIndex.toNat < keys.length) (fee : Nat) :
    instructions.foldlM (prioritizationFeeStep tryFromSliceUnchecked keys) fee =
      .ok ((computeUnitPrices tryFromSliceUnchecked keys instructions).getLast?.getD fee) := by
  induction instructions generalizing fee with
  | nil => rfl
  | cons ix instructions ih =>
    have hix := hrange ix List.mem_cons_self
    rw [List.foldlM_cons, prioritizationFeeStep_of_lt hix, Rust.ok_bind,
      ih fun j hj => hrange j (List.mem_cons_of_mem ix hj),
      computeUnitPrices_cons]
    cases (computeBudgetInstructionOf tryFromSliceUnchecked keys ix).bind
        ComputeBudgetInstruction.computeUnitPrice? with
    | none => rfl
    | some price => simp [List.getLast?_cons]

end Readers

variable {tryFromSliceUnchecked} {message : VersionedMessage}

theorem mapComputeBudgetInstructions_eq_ok_iff (hrange : ProgramIdsInRange message)
    (r : Option Nat × Option Nat) :
    mapComputeBudgetInstructions tryFromSliceUnchecked message = .ok r ↔
      (computeUnitLimits tryFromSliceUnchecked message.staticAccountKeys
          message.instructions).length ≤ 1 ∧
        (computeUnitPrices tryFromSliceUnchecked message.staticAccountKeys
          message.instructions).length ≤ 1 ∧
        r = ((computeUnitLimits tryFromSliceUnchecked message.staticAccountKeys
            message.instructions).head?,
          (computeUnitPrices tryFromSliceUnchecked message.staticAccountKeys
            message.instructions).head?) := by
  have h := @foldlM_mapComputeBudgetStep_eq_ok_iff tryFromSliceUnchecked _ _ hrange none none r
  simpa [mapComputeBudgetInstructions] using h

theorem cuRequestedOfUiBlock_eq (hrange : ProgramIdsInRange message) :
    cuRequestedOfUiBlock tryFromSliceUnchecked message =
      .ok (computeUnitLimits tryFromSliceUnchecked message.staticAccountKeys
        message.instructions).head? :=
  findComputeBudgetValue_of_forall_lt hrange _

theorem prioritizationFeesOfUiBlock_eq (hrange : ProgramIdsInRange message) :
    prioritizationFeesOfUiBlock tryFromSliceUnchecked message =
      .ok (computeUnitPrices tryFromSliceUnchecked message.staticAccountKeys
        message.instructions).head? :=
  findComputeBudgetValue_of_forall_lt hrange _

theorem prioritizationFeeOf_of_not_programIdsInRange (h : ¬ ProgramIdsInRange message) :
    ∃ panic, prioritizationFeeOf tryFromSliceUnchecked message = .error panic := by
  simp only [ProgramIdsInRange, not_forall, Nat.not_lt] at h
  obtain ⟨ix, hix, hle⟩ := h
  exact foldlM_prioritizationFeeStep_of_exists_le ⟨ix, hix, hle⟩ 0

theorem prioritizationFeeOf_eq (hrange : ProgramIdsInRange message) :
    prioritizationFeeOf tryFromSliceUnchecked message =
      .ok ((computeUnitPrices tryFromSliceUnchecked message.staticAccountKeys
        message.instructions).getLast?.getD 0) :=
  foldlM_prioritizationFeeStep hrange 0

theorem compute_budget_mapping_panics_on_repeats
    (tryFromSliceUnchecked : List UInt8 → Option ComputeBudgetInstruction)
    (message : VersionedMessage)
    (hrange : ProgramIdsInRange message)
    (hrepeat : 2 ≤ (computeUnitLimits tryFromSliceUnchecked message.staticAccountKeys
        message.instructions).length ∨
      2 ≤ (computeUnitPrices tryFromSliceUnchecked message.staticAccountKeys
        message.instructions).length) :
    (∃ panic, mapComputeBudgetInstructions tryFromSliceUnchecked message = .error panic) ∧
      cuRequestedOfUiBlock tryFromSliceUnchecked message =
        .ok (computeUnitLimits tryFromSliceUnchecked message.staticAccountKeys
          message.instructions).head? ∧
      prioritizationFeesOfUiBlock tryFromSliceUnchecked message =
        .ok (computeUnitPrices tryFromSliceUnchecked message.staticAccountKeys
          message.instructions).head? := by
  refine ⟨?_, cuRequestedOfUiBlock_eq hrange, prioritizationFeesOfUiBlock_eq hrange⟩
  cases hmap : mapComputeBudgetInstructions tryFromSliceUnchecked message with
  | error panic => exact ⟨panic, rfl⟩
  | ok r =>
    obtain ⟨hlimits, hprices, -⟩ := (mapComputeBudgetInstructions_eq_ok_iff hrange r).mp hmap
    omega

/-- The decoder the examples read instruction data with, borsh's layout of
`ComputeBudgetInstruction`: a one-byte variant tag, then the variant's field in little-endian,
with trailing bytes left unread. -/
def ComputeBudgetInstruction.borshDeserialize : List UInt8 → Option ComputeBudgetInstruction
  | [] => none
  | tag :: rest =>
    match tag.toNat with
    | 0 => some .unused
    | 1 => (Bincode.leNat 4 rest).map fun r => .requestHeapFrame r.1
    | 2 => (Bincode.leNat 4 rest).map fun r => .setComputeUnitLimit r.1
    | 3 => (Bincode.leNat 8 rest).map fun r => .setComputeUnitPrice r.1
    | 4 => (Bincode.leNat 4 rest).map fun r => .setLoadedAccountsDataSizeLimit r.1
    | _ => none

/-- Two `SetComputeUnitLimit` instructions, of 65536 and 131072 units: the gRPC mapping panics on
the second, the polling mapping reads the first. -/
theorem compute_budget_mapping_panics_on_two_limits :
    let message : VersionedMessage :=
      ⟨[computeBudgetId], ⟨0⟩, [⟨0, [], [2, 0, 0, 1, 0]⟩, ⟨0, [], [2, 0, 0, 2, 0]⟩]⟩
    ProgramIdsInRange message ∧
      computeUnitLimits ComputeBudgetInstruction.borshDeserialize message.staticAccountKeys
        message.instructions = [65536, 131072] ∧
      mapComputeBudgetInstructions ComputeBudgetInstruction.borshDeserialize message =
        .error "cu_limit must be set only once: 131072" ∧
      cuRequestedOfUiBlock ComputeBudgetInstruction.borshDeserialize message =
        .ok (some 65536) := by
  intro message
  have hrange : ProgramIdsInRange message := by decide
  have hlimits : computeUnitLimits ComputeBudgetInstruction.borshDeserialize
      message.staticAccountKeys message.instructions = [65536, 131072] := by
    decide
  have h := compute_budget_mapping_panics_on_repeats ComputeBudgetInstruction.borshDeserialize
    message hrange (.inl (by rw [hlimits]; decide))
  exact ⟨hrange, hlimits, rfl, h.2.1.trans (by rw [hlimits]; rfl)⟩

/-- A message of a transaction the runtime puts in a block has at most one compute unit limit and
at most one compute unit price (a second one fails with `DuplicateInstruction`), and its program
indices in range: the mapping of gRPC blocks returns on it, with what the mapping of polled blocks
reads, whatever the decoder of the instruction data. -/
theorem compute_budget_mapping_agrees_on_runtime_messages
    (tryFromSliceUnchecked : List UInt8 → Option ComputeBudgetInstruction)
    (message : VersionedMessage) (hrange : ProgramIdsInRange message)
    (hlimits : (computeUnitLimits tryFromSliceUnchecked message.staticAccountKeys
      message.instructions).length ≤ 1)
    (hprices : (computeUnitPrices tryFromSliceUnchecked message.staticAccountKeys
      message.instructions).length ≤ 1) :
    ∃ cuRequested prioritizationFees,
      mapComputeBudgetInstructions tryFromSliceUnchecked message =
          .ok (cuRequested, prioritizationFees) ∧
        cuRequestedOfUiBlock tryFromSliceUnchecked message = .ok cuRequested ∧
        prioritizationFeesOfUiBlock tryFromSliceUnchecked message = .ok prioritizationFees :=
  ⟨_, _, (mapComputeBudgetInstructions_eq_ok_iff hrange _).mpr ⟨hlimits, hprices, rfl⟩,
    cuRequestedOfUiBlock_eq hrange, prioritizationFeesOfUiBlock_eq hrange⟩

/-- A limit of 65536 units and a price of 100 micro-lamports. -/
def oneLimitAndPriceMessage : VersionedMessage :=
  ⟨[computeBudgetId], ⟨0⟩,
    [⟨0, [], [2, 0, 0, 1, 0]⟩, ⟨0, [], [3, 100, 0, 0, 0, 0, 0, 0, 0]⟩]⟩

theorem compute_budget_mapping_agrees_on_one_limit_and_price :
    ProgramIdsInRange oneLimitAndPriceMessage ∧
      (computeUnitLimits ComputeBudgetInstruction.borshDeserialize
        oneLimitAndPriceMessage.staticAccountKeys
        oneLimitAndPriceMessage.instructions).length ≤ 1 ∧
      (computeUnitPrices ComputeBudgetInstruction.borshDeserialize
        oneLimitAndPriceMessage.staticAccountKeys
        oneLimitAndPriceMessage.instructions).length ≤ 1 ∧
      ∃ cuRequested prioritizationFees,
        mapComputeBudgetInstructions ComputeBudgetInstruction.borshDeserialize
            oneLimitAndPriceMessage = .ok (cuRequested, prioritizationFees) ∧
          cuRequestedOfUiBlock ComputeBudgetInstruction.borshDeserialize oneLimitAndPriceMessage =
            .ok cuRequested ∧
          prioritizationFeesOfUiBlock ComputeBudgetInstruction.borshDeserialize
            oneLimitAndPriceMessage = .ok prioritizationFees :=
  ⟨by decide, by decide, by decide,
    compute_budget_mapping_agrees_on_runtime_messages ComputeBudgetInstruction.borshDeserialize _
      (by decide) (by decide) (by decide)⟩

end LiteRpc
