import SwapLayer.Solana.State

/-!
# Peers and relaying fees

Model of `processor/admin/peer` (registering and updating peers), `utils/relay_parameters.rs` and
`utils/relayer_fees.rs`. The `u64` and `u128` arithmetic of the fee is written out: sums saturate,
products of `u128` are checked, and what does not fit in `u64` has no value.

Results:
* `calculateRelayerFee_lt`: a fee fits in 48 bits, the width it has in a message.
* `handleAddPeer_ok`: registering a peer changes one peer and nothing else, and its address is
  not zero.
-/

namespace SwapLayer.Solana

open ByteString Program Messages

/-! ## Relaying fees -/

def EVM_GAS_OVERHEAD : ℕ := 280000
def DROPOFF_GAS_OVERHEAD : ℕ := 32000
def UNISWAP_GAS_OVERHEAD : ℕ := 10000
def UNISWAP_GAS_PER_SWAP : ℕ := 120000
def TRADERJOE_GAS_OVERHEAD : ℕ := 30000
def TRADERJOE_GAS_PER_SWAP : ℕ := 80000

def ONE_SOL : ℕ := 1000000000
def ONE_ETHER : ℕ := 1000000000000000000
def GAS_PRICE_SCALAR : ℕ := 1000000
def GAS_DROPOFF_SCALAR : ℕ := 1000

/-- `u64::saturating_add`. -/
def saturatingAdd (a b : ℕ) : ℕ := min (a + b) (U64 - 1)

/-- `u64::saturating_mul`. -/
def saturatingMul (a b : ℕ) : ℕ := min (a * b) (U64 - 1)

/-- A value that must be below a bound. -/
def checked (bound n : ℕ) : Option ℕ := if n < bound then some n else none

def denormalizeGasPrice (gasPrice : ℕ) : ℕ := saturatingMul gasPrice GAS_PRICE_SCALAR

def denormalizeGasDropoff (gasDropoff : ℕ) : ℕ := saturatingMul gasDropoff GAS_DROPOFF_SCALAR

def compound (percentage base : ℕ) : Option ℕ :=
  if percentage = 0 then some base
  else if MAX_BPS < percentage then none
  else checked U64 (base * percentage / MAX_BPS + base)

def calculateEvmSwapOverhead : SwapType → Option ℕ
  | .traderJoe p => do
    let swaps ← checked U64 (TRADERJOE_GAS_PER_SWAP * (p.path.length + 1))
    checked U64 (TRADERJOE_GAS_OVERHEAD + swaps)
  | .uniswapV3 p => do
    let swaps ← checked U64 (UNISWAP_GAS_PER_SWAP * (p.path.length + 1))
    checked U64 (UNISWAP_GAS_OVERHEAD + swaps)
  | _ => none

def calculateEvmGasCost (gasPrice gasPriceMargin totalGas nativeTokenPrice : ℕ) : Option ℕ := do
  let wei ← checked (2 ^ 128) (totalGas * denormalizeGasPrice gasPrice)
  let scaled ← checked (2 ^ 128) (wei * nativeTokenPrice)
  let gasCost ← checked U64 (scaled / ONE_ETHER)
  compound gasPriceMargin gasCost

def calculateGasDropoffCost (specifiedGasDropoff gasDropoffMargin nativeTokenPrice : ℕ) :
    Option ℕ := do
  let scaled ← checked (2 ^ 128) (denormalizeGasDropoff specifiedGasDropoff * nativeTokenPrice)
  let dropoffCost ← checked U64 (scaled / ONE_SOL)
  compound gasDropoffMargin dropoffCost

/-- `ok_or_else`. -/
def okOr {α : Type} (o : Option α) (e : SwapLayerError) : Except Error α :=
  match o with
  | some a => .ok a
  | none => .error (.swapLayer e)

/-- The base fee and the cost of the gas dropoff. -/
def dropoffFee (params : RelayParams) (specifiedGasDropoff : ℕ) : Except Error ℕ :=
  if 0 < specifiedGasDropoff then do
    ensure (specifiedGasDropoff ≤ params.maxGasDropoff) (.swapLayer .invalidGasDropoff)
    let cost ← okOr (calculateGasDropoffCost specifiedGasDropoff params.gasDropoffMargin
      params.nativeTokenPrice) .gasDropoffCalculationFailed
    return saturatingAdd params.baseFee cost
  else .ok params.baseFee

/-- The gas overhead of the output swap. -/
def swapOverhead : OutputToken → Except Error ℕ
  | .usdc => .ok 0
  | .gas swap => okOr (calculateEvmSwapOverhead swap.swapType) .evmGasCalculationFailed
  | .other _ swap => okOr (calculateEvmSwapOverhead swap.swapType) .evmGasCalculationFailed

def calculateRelayerFee (params : RelayParams) (specifiedGasDropoff : ℕ)
    (outputToken : OutputToken) : Except Error ℕ := do
  ensure (params.baseFee ≠ 2 ^ 32 - 1) (.swapLayer .relayingDisabled)
  let relayerFee ← dropoffFee params specifiedGasDropoff
  match params.executionParams with
  | .evm gasPrice gasPriceMargin => do
    let overhead ← swapOverhead outputToken
    let totalGas := saturatingAdd (saturatingAdd EVM_GAS_OVERHEAD
      (if 0 < specifiedGasDropoff then DROPOFF_GAS_OVERHEAD else 0)) overhead
    let cost ← okOr (calculateEvmGasCost gasPrice gasPriceMargin totalGas
      params.nativeTokenPrice) .evmGasCalculationFailed
    ensure (saturatingAdd relayerFee cost < 256 ^ 6) (.swapLayer .relayerFeeOverflow)
    return saturatingAdd relayerFee cost
  | .none => .error (.swapLayer .invalidExecutionParams)

/-- **A relaying fee fits in 48 bits.** -/
theorem calculateRelayerFee_lt {params : RelayParams} {dropoff fee : ℕ} {token : OutputToken}
    (h : calculateRelayerFee params dropoff token = .ok fee) : fee < 256 ^ 6 := by
  obtain ⟨_, -, h₁⟩ := except_bind_ok.1 h
  obtain ⟨base, -, h₂⟩ := except_bind_ok.1 h₁
  split at h₂
  · obtain ⟨overhead, -, h₃⟩ := except_bind_ok.1 h₂
    obtain ⟨cost, -, h₄⟩ := except_bind_ok.1 h₃
    obtain ⟨_, hle, h₅⟩ := except_bind_ok.1 h₄
    cases h₅
    exact ensure_ok.1 hle
  · cases h₂

/-! ## Registering peers -/

def verifyExecutionParams : ExecutionParams → Except Error Unit
  | .evm gasPrice gasPriceMargin => do
    ensure (0 < gasPrice) (.swapLayer .invalidGasPrice)
    ensure (gasPriceMargin ≤ MAX_BPS) (.swapLayer .invalidMargin)
  | .none => .ok ()

def verifyRelayParams (params : RelayParams) : Except Error Unit := do
  ensure (0 < params.baseFee) (.swapLayer .invalidBaseFee)
  ensure (0 < params.nativeTokenPrice) (.swapLayer .invalidNativeTokenPrice)
  ensure (params.gasDropoffMargin ≤ MAX_BPS) (.swapLayer .invalidMargin)
  verifyExecutionParams params.executionParams

structure AddPeerArgs where
  chain : ℕ
  address : Fixed 32
  relayParams : RelayParams

/-- `handle_add_peer`. -/
def handleAddPeer (args : AddPeerArgs) : Instruction Unit := do
  check (args.chain ≠ 0 ∧ args.chain ≠ SOLANA_CHAIN) .chainNotAllowed
  check (args.address ≠ zeroKey) .invalidPeer
  lift (verifyRelayParams args.relayParams)
  modifyBank fun b => b.setPeer args.chain ⟨args.address, args.relayParams⟩

/-- `add_peer`, signed by the owner or the assistant. -/
def addPeer (ownerOrAssistant : Pubkey) (args : AddPeerArgs) : Instruction Unit := do
  let b ← getBank
  check (ownerOrAssistant = b.custodian.owner ∨ ownerOrAssistant = b.custodian.ownerAssistant)
    .ownerOrAssistantOnly
  constraint (b.peers args.chain = none) .accountAlreadyInUse
  handleAddPeer args

/-- `update_peer`, signed by the owner. -/
def updatePeer (owner : Pubkey) (args : AddPeerArgs) : Instruction Unit := do
  let b ← getBank
  check (owner = b.custodian.owner) .ownerOnly
  let _ ← registeredPeer args.chain
  handleAddPeer args

section Ok

variable {b b' : Bank} {u : Unit} {args : AddPeerArgs} {signer : Pubkey}

/-- **Registering a peer** changes this peer only; its address is not zero. -/
theorem handleAddPeer_ok (h : handleAddPeer args b = .ok (u, b')) :
    args.address ≠ zeroKey ∧ b' = b.setPeer args.chain ⟨args.address, args.relayParams⟩ := by
  obtain ⟨_, _, hchain, h₁⟩ := bind_ok.1 h
  obtain ⟨-, rfl⟩ := check_ok.1 hchain
  obtain ⟨_, _, haddr, h₂⟩ := bind_ok.1 h₁
  obtain ⟨hne, rfl⟩ := check_ok.1 haddr
  obtain ⟨_, _, hverify, h₃⟩ := bind_ok.1 h₂
  obtain ⟨-, rfl⟩ := lift_ok.1 hverify
  exact ⟨hne, modifyBank_ok.1 h₃⟩

theorem addPeer_ok (h : addPeer signer args b = .ok (u, b')) :
    b' = b.setPeer args.chain ⟨args.address, args.relayParams⟩ := by
  obtain ⟨_, _, hget, h₁⟩ := bind_ok.1 h
  obtain ⟨rfl, rfl⟩ := getBank_ok.1 hget
  obtain ⟨_, _, hsign, h₂⟩ := bind_ok.1 h₁
  obtain ⟨-, rfl⟩ := check_ok.1 hsign
  obtain ⟨_, _, hnew, h₃⟩ := bind_ok.1 h₂
  obtain ⟨-, rfl⟩ := constraint_ok.1 hnew
  exact (handleAddPeer_ok h₃).2

theorem updatePeer_ok (h : updatePeer signer args b = .ok (u, b')) :
    b' = b.setPeer args.chain ⟨args.address, args.relayParams⟩ := by
  obtain ⟨_, _, hget, h₁⟩ := bind_ok.1 h
  obtain ⟨rfl, rfl⟩ := getBank_ok.1 hget
  obtain ⟨_, _, hsign, h₂⟩ := bind_ok.1 h₁
  obtain ⟨-, rfl⟩ := check_ok.1 hsign
  obtain ⟨_, _, hpeer, h₃⟩ := bind_ok.1 h₂
  obtain ⟨-, rfl⟩ := loadAccount_ok.1 hpeer
  exact (handleAddPeer_ok h₃).2

end Ok

end SwapLayer.Solana
