import SwapLayer.Evm.Commands
import SwapLayer.Sdk.FeeUpdates

/-!
# Governance commands of the TypeScript SDK

Model of `governanceCommandsBatchLayout` and `feeParamsLayout` in `evm/ts-sdk/src/layout.ts`. The SDK
writes fee parameters from the high bytes of the word to the low ones, the contract names its fields from
the low bits to the high ones.

Results:
* `packed_eq`: what the SDK writes of fee parameters is the word that the setters of the contract build,
  with percentages that the contract accepts (`packed_bounded`).
* `governanceCommandLayout_eq`: the bytes of a command are those that the contract reads.
* `encodeGovernanceCommandsBatch_exact`: a batch of the owner means what it lists.
-/

namespace SwapLayer.Sdk

open ByteString Program

/-! ## Layouts -/

/-- The values of `feeParamsLayout`. -/
structure FeeParams where
  gasTokenPrice : Uint 8
  gasDropoffMargin : Percentage
  maxGasDropoff : GasDropoff
  gasPriceMargin : Percentage
  gasPrice : GasPrice
  baseFee : Uint 4

/-- The cases of `governanceCommandLayout`. -/
inductive GovernanceCommand
  | updatePeer (chain : Chain) (address : Fixed 32) (feeParams : FeeParams)
  | sweepTokens (token : Fixed 20)
  | updateFeeUpdater (newFeeUpdater : Fixed 20)
  | updateAssistant (newAssistant : Fixed 20)
  | updateFeeRecipient (newFeeRecipient : Fixed 20)
  | upgradeContract (implementation : Fixed 20)
  | proposeOwnershipTransfer (pendingOwner : Fixed 20)
  | relinquishOwnership

/-- The first item is the unused one. -/
def feeParamsLayout (p : FeeParams) : List UInt8 :=
  toBE 8 0 ++ (gasTokenPriceItem p.gasTokenPrice ++ (percentageItem p.gasDropoffMargin ++
    (gasDropoffItem p.maxGasDropoff ++ (percentageItem p.gasPriceMargin ++
      (gasPriceItem p.gasPrice ++ baseFeeItem p.baseFee)))))

def addressChainItem (chain : Chain) (address : Fixed 32) : List UInt8 :=
  chainItem chain ++ address.toList

def governanceCommandLayout : GovernanceCommand → List UInt8
  | .updatePeer chain address feeParams =>
    toBE 1 0 ++ (addressChainItem chain address ++ feeParamsLayout feeParams)
  | .sweepTokens token => toBE 1 1 ++ token.toList
  | .updateFeeUpdater newFeeUpdater => toBE 1 2 ++ newFeeUpdater.toList
  | .updateAssistant newAssistant => toBE 1 3 ++ newAssistant.toList
  | .updateFeeRecipient newFeeRecipient => toBE 1 4 ++ newFeeRecipient.toList
  | .upgradeContract implementation => toBE 1 5 ++ implementation.toList
  | .proposeOwnershipTransfer pendingOwner => toBE 1 6 ++ pendingOwner.toList
  | .relinquishOwnership => toBE 1 7

def encodeGovernanceCommandsBatch (args : List GovernanceCommand) : List UInt8 :=
  args.flatMap governanceCommandLayout

/-! ## Fee parameters -/

namespace FeeParams

variable (p : FeeParams)

/-- The integer that a field is encoded to. -/
def encoded : Evm.FeeUpdate → ℕ
  | .gasPrice => p.gasPrice.val / gasPriceUnit
  | .gasTokenPrice => p.gasTokenPrice
  | .baseFee => p.baseFee
  | .gasPriceMargin => p.gasPriceMargin.val
  | .gasDropoffMargin => p.gasDropoffMargin.val
  | .maxGasDropoff => p.maxGasDropoff.val / gasDropoffUnit

theorem encoded_lt (field : Evm.FeeUpdate) : p.encoded field < 256 ^ field.size := by
  cases field with
  | gasPrice => exact p.gasPrice.property
  | gasTokenPrice => exact p.gasTokenPrice.isLt
  | baseFee => exact p.baseFee.isLt
  | gasPriceMargin => exact p.gasPriceMargin.val.isLt
  | gasDropoffMargin => exact p.gasDropoffMargin.val.isLt
  | maxGasDropoff => exact p.maxGasDropoff.property

/-- The word with these fields. -/
def packed : Evm.FeeParams := Evm.packFields p.encoded

/-- The percentages are within their bounds. -/
theorem packed_bounded : p.packed.Bounded := by
  refine Evm.FeeParams.bounded_iff.2 fun field => ?_
  rw [packed, Evm.get_packFields p.encoded_lt]
  cases field with
  | gasPriceMargin => exact p.gasPriceMargin.property
  | gasDropoffMargin => exact p.gasDropoffMargin.property
  | gasPrice | gasTokenPrice | baseFee | maxGasDropoff => trivial

theorem length_feeParamsLayout : (feeParamsLayout p).length = 32 := by
  simp only [feeParamsLayout, gasTokenPriceItem, percentageItem, gasDropoffItem, gasPriceItem,
    baseFeeItem, writeUint, List.length_append, length_toBE]

/-- The number that the SDK writes. -/
def word : Uint 32 := ⟨ofBE (feeParamsLayout p), by
  have := ofBE_lt (feeParamsLayout p)
  rwa [p.length_feeParamsLayout] at this⟩

/-- A field stands where the getter of the contract looks for it. -/
theorem layout_holds (field : Evm.FeeUpdate) :
    Holds (feeParamsLayout p) (32 - field.offset / 8 - field.size)
      (toBE field.size (p.encoded field)) := by
  have h₀ := holds_self (feeParamsLayout p)
  have h₁ := h₀.rest (length_toBE 8 0)
  have h₂ := h₁.rest (length_toBE 8 p.gasTokenPrice)
  have h₃ := h₂.rest (length_toBE 2 p.gasDropoffMargin.val)
  have h₄ := h₃.rest (length_toBE 4 (p.maxGasDropoff.val / gasDropoffUnit))
  have h₅ := h₄.rest (length_toBE 2 p.gasPriceMargin.val)
  have h₆ := h₅.rest (length_toBE 4 (p.gasPrice.val / gasPriceUnit))
  cases field with
  | gasTokenPrice => exact h₁.left
  | gasDropoffMargin => exact h₂.left
  | maxGasDropoff => exact h₃.left
  | gasPriceMargin => exact h₄.left
  | gasPrice => exact h₅.left
  | baseFee => exact h₆

/-- **High to low is low to high**: the number that the SDK writes is the word that the contract's
setters build. -/
theorem packed_eq : BitVec.ofNat 256 p.word = p.packed := by
  refine Evm.FeeParams.ext_fields (fun field => ?_) fun j hj => ?_
  · have hlength : (feeParamsLayout p).length = 32 - field.offset / 8 - field.size +
        (toBE field.size (p.encoded field)).length + field.offset / 8 := by
      rw [p.length_feeParamsLayout, length_toBE]
      cases field <;> rfl
    have hpart := (p.layout_holds field).ofBE hlength
    rw [length_toBE, ofBE_toBE_of_lt (p.encoded_lt field)] at hpart
    rw [packed, Evm.get_packFields p.encoded_lt, Evm.FeeUpdate.get_ofNat field p.word.isLt]
    exact hpart
  · have hlow : p.word.val < 2 ^ 192 := by
      show ofBE (feeParamsLayout p) < 2 ^ 192
      rw [feeParamsLayout, ofBE_append, ofBE_toBE, Nat.zero_mod, Nat.zero_mul, Nat.zero_add]
      refine Nat.lt_of_lt_of_eq (ofBE_lt _) ?_
      simp only [gasTokenPriceItem, percentageItem, gasDropoffItem, gasPriceItem, baseFeeItem, writeUint,
        List.length_append, length_toBE]
      rfl
    rw [packed, Evm.getLsbD_packFields p.encoded_lt hj, BitVec.getLsbD_ofNat,
      Nat.testBit_lt_two_pow (Nat.lt_of_lt_of_le hlow (Nat.pow_le_pow_right (by decide) hj)),
      Bool.and_false]

end FeeParams

/-! ## Commands -/

namespace GovernanceCommand

/-- The command that the contract is meant to read. -/
def toCommand : GovernanceCommand → Evm.Command
  | updatePeer chain address feeParams => .updatePeer chain.val address feeParams.word
  | sweepTokens token => .sweepTokens token
  | updateFeeUpdater newFeeUpdater => .updateFeeUpdater newFeeUpdater
  | updateAssistant newAssistant => .updateAssistant newAssistant
  | updateFeeRecipient newFeeRecipient => .updateFeeRecipient newFeeRecipient
  | upgradeContract implementation => .upgradeContract implementation
  | proposeOwnershipTransfer pendingOwner => .proposeOwnershipTransfer pendingOwner
  | relinquishOwnership => .relinquishOwnership

/-- The command may only stand at the end of a batch. -/
def EndsBatch : GovernanceCommand → Prop
  | upgradeContract _ | relinquishOwnership => True
  | _ => False

instance : (c : GovernanceCommand) → Decidable c.EndsBatch
  | upgradeContract _ | relinquishOwnership => isTrue trivial
  | updatePeer .. | sweepTokens _ | updateFeeUpdater _ | updateAssistant _ | updateFeeRecipient _
  | proposeOwnershipTransfer _ => isFalse id

/-- What a command says about roles, peers, fee parameters and the implementation. Without a peer there
are no fee parameters. -/
def executed (s : Evm.Storage) : GovernanceCommand → Evm.Storage
  | updatePeer chain address feeParams =>
    { s with
      peers := Function.update s.peers chain.val address
      feeParams := Function.update s.feeParams chain.val
        (if address = Evm.zeroBytes32 then 0 else feeParams.packed) }
  | sweepTokens _ => s
  | updateFeeUpdater newFeeUpdater =>
    { s with governance := { s.governance with feeUpdater := newFeeUpdater } }
  | updateAssistant newAssistant =>
    { s with governance := { s.governance with assistant := newAssistant } }
  | updateFeeRecipient newFeeRecipient =>
    { s with governance := { s.governance with feeRecipient := newFeeRecipient } }
  | upgradeContract implementation => { s with implementation := implementation }
  | proposeOwnershipTransfer pendingOwner =>
    { s with governance := { s.governance with pendingOwner := pendingOwner } }
  | relinquishOwnership =>
    { s with governance :=
      { s.governance with owner := Evm.zeroAddress, pendingOwner := Evm.zeroAddress } }

theorem applied_toCommand (s : Evm.Storage) (c : GovernanceCommand) :
    c.toCommand.applied s = c.executed s := by
  cases c with
  | updatePeer chain address feeParams =>
    rw [toCommand, Evm.Command.applied, feeParams.packed_eq]
    rfl
  | sweepTokens | updateFeeUpdater | updateAssistant | updateFeeRecipient | upgradeContract
  | proposeOwnershipTransfer | relinquishOwnership => rfl

theorem endsBatch_toCommand (c : GovernanceCommand) : c.toCommand.EndsBatch ↔ c.EndsBatch := by
  cases c <;> exact Iff.rfl

end GovernanceCommand

/-- **The bytes of a command** are those that the contract reads it from. -/
theorem governanceCommandLayout_eq (c : GovernanceCommand) :
    governanceCommandLayout c = c.toCommand.encode := by
  cases c with
  | updatePeer chain address feeParams =>
    have hword : writeUint feeParams.word = feeParamsLayout feeParams := by
      have := toBE_ofBE (feeParamsLayout feeParams)
      rwa [feeParams.length_feeParamsLayout] at this
    rw [governanceCommandLayout, GovernanceCommand.toCommand, Evm.Command.encode, Evm.Command.params,
      hword, addressChainItem, List.append_assoc]
    rfl
  | relinquishOwnership => exact (List.append_nil _).symm
  | sweepTokens | updateFeeUpdater | updateAssistant | updateFeeRecipient | upgradeContract
  | proposeOwnershipTransfer => rfl

theorem encodeGovernanceCommandsBatch_eq (args : List GovernanceCommand) :
    encodeGovernanceCommandsBatch args =
      (args.map GovernanceCommand.toCommand).flatMap Evm.Command.encode := by
  rw [List.flatMap_map, encodeGovernanceCommandsBatch]
  exact List.flatMap_congr fun c _ => governanceCommandLayout_eq c

/-- **A batch of the owner means what it lists.** The contract performs the listed commands one after
the other, as it would in a call for each; it leaves the storage that they leave when they are executed
one at a time; and it reads each fee parameter of a peer as it was given. -/
theorem encodeGovernanceCommandsBatch_exact {d : Evm.Deployment} {x : Evm.Externals} {msg : Evm.Msg d}
    {w : Evm.World} (howner : msg.sender = w.storage.governance.owner)
    (args : List GovernanceCommand) (hlast : ∀ c ∈ args.dropLast, ¬c.EndsBatch) :
    Evm.batchGovernanceCommands d x msg (encodeGovernanceCommandsBatch args) w =
        Evm.Command.performAll d x msg true (args.map GovernanceCommand.toCommand) w ∧
      Evm.batchGovernanceCommands d x msg (encodeGovernanceCommandsBatch args) w =
        Evm.callAll d x msg (args.map GovernanceCommand.toCommand) w ∧
      (∀ w', Evm.batchGovernanceCommands d x msg (encodeGovernanceCommandsBatch args) w = .ok ((), w') →
        w'.storage = args.foldl GovernanceCommand.executed w.storage) ∧
      ∀ p : FeeParams, (∀ field, Evm.FeeUpdate.get field p.packed = p.encoded field) ∧
        ∀ j, 192 ≤ j → p.packed.getLsbD j = false := by
  have hlast' : ∀ c ∈ (args.map GovernanceCommand.toCommand).dropLast, ¬c.EndsBatch := by
    rw [← List.map_dropLast]
    intro c hc
    obtain ⟨c', hc', rfl⟩ := List.mem_map.1 hc
    rw [c'.endsBatch_toCommand]
    exact hlast c' hc'
  have hperform : Evm.batchGovernanceCommands d x msg (encodeGovernanceCommandsBatch args) w =
      Evm.Command.performAll d x msg true (args.map GovernanceCommand.toCommand) w := by
    rw [encodeGovernanceCommandsBatch_eq, Evm.batchGovernanceCommands_encode howner _ hlast']
  refine ⟨hperform, ?_, fun w' h => ?_, fun p => ⟨Evm.get_packFields p.encoded_lt, fun j hj =>
    Evm.getLsbD_packFields p.encoded_lt hj⟩⟩
  · rw [hperform, Evm.callAll_eq howner hlast']
  · rw [hperform] at h
    rw [Evm.performAll_ok h, List.foldl_map]
    simp only [GovernanceCommand.applied_toCommand]

namespace Sample

/-- Ether at 3000 dollars with a margin of 10 %, dropoffs of up to half an ether, a gas price of 30 gwei
with a margin of 25 %, and a base fee of one dollar. -/
def feeParams : FeeParams where
  gasTokenPrice := uintAt 8 (toBE 8 3000000000) 0
  gasDropoffMargin := ⟨uintAt 2 (toBE 2 400) 0, by decide⟩
  maxGasDropoff := ⟨500000 * gasDropoffUnit, by decide⟩
  gasPriceMargin := ⟨uintAt 2 (toBE 2 1000) 0, by decide⟩
  gasPrice := ⟨30000 * gasPriceUnit, by decide⟩
  baseFee := uintAt 4 (toBE 4 1000000) 0

/-- Chain 5 gets a peer, chain 6 loses its own, the owner hands over what there is to hand over. -/
def commands : List GovernanceCommand :=
  [.updatePeer ⟨uintAt 2 [0, 5] 0, by decide⟩ (Evm.toUniversalAddress (Evm.Sample.address 0xb0b))
      feeParams,
    .updatePeer ⟨uintAt 2 [0, 6] 0, by decide⟩ Evm.zeroBytes32 feeParams,
    .updateAssistant (Evm.Sample.address 12), .sweepTokens Evm.Sample.usdc, .relinquishOwnership]

theorem owner_ne_self : Evm.Sample.address 1 ≠ Evm.Sample.deployment.self := by decide

theorem owner_ne_zero : Evm.Sample.address 1 ≠ Evm.zeroAddress := by decide

def ownerMsg : Evm.Msg Evm.Sample.deployment where
  sender := Evm.Sample.address 1
  value := 0
  sender_ne_self := owner_ne_self
  sender_ne_zero := owner_ne_zero

/-- The batch goes through and does all of it. -/
theorem commands_exact : ∃ w',
    Evm.batchGovernanceCommands Evm.Sample.deployment (Evm.Sample.externals 0 0) ownerMsg
      (encodeGovernanceCommandsBatch commands) (Evm.Sample.world 0) = .ok ((), w') ∧
    w'.storage = commands.foldl GovernanceCommand.executed Evm.Sample.storage ∧
    w'.storage.governance.owner = Evm.zeroAddress ∧
    w'.storage.governance.assistant = Evm.Sample.address 12 ∧
    w'.storage.feeParams 6 = 0 ∧ Evm.FeeParams.gasPrice (w'.storage.feeParams 5) = 30000 := by
  have hsucceeds : (Evm.batchGovernanceCommands Evm.Sample.deployment (Evm.Sample.externals 0 0) ownerMsg
      (encodeGovernanceCommandsBatch commands) (Evm.Sample.world 0)).toOption.isSome = true := by
    decide +kernel
  obtain ⟨⟨_, w'⟩, hsome⟩ := Option.isSome_iff_exists.1 hsucceeds
  have hok := toOption_eq_some.1 hsome
  have howner : ownerMsg.sender = (Evm.Sample.world 0).storage.governance.owner := rfl
  have hstorage := (encodeGovernanceCommandsBatch_exact howner commands (by decide)).2.2.1 w' hok
  refine ⟨w', hok, hstorage, ?_, ?_, ?_, ?_⟩ <;> rw [hstorage] <;> decide +kernel

end Sample

end SwapLayer.Sdk
