import SwapLayer.Client.Messages
import SwapLayer.Solana.FeeFormula

/-!
# Relayer fees of the TypeScript client

Model of `solana/ts/src/swapLayer/relayerFees.ts`, which quotes the fee that the Solana program will charge.
A `bigint` is a natural number; what is thrown is the text of the error. The client takes the gas dropoff
in lamports, the program in its own unit.

Both compute the formula of `Solana/FeeFormula`: the client always, the program up to 48 bits and for
margins of at most 100 %.

Results:
* `calculateRelayerFee_ok`: the fee is the formula, whenever the relay has a price.
* `calculateRelayerFee_agrees`: the client quotes every fee that the program charges, and fails only where
  the program does.
-/

namespace SwapLayer.Client

open ByteString Program Markup

/-! ## The quote -/

def EVM_GAS_OVERHEAD : ℕ := 280000
def DROPOFF_GAS_OVERHEAD : ℕ := 32000
def UNISWAP_GAS_OVERHEAD : ℕ := 10000
def UNISWAP_GAS_PER_SWAP : ℕ := 120000
def TRADERJOE_GAS_OVERHEAD : ℕ := 30000
def TRADERJOE_GAS_PER_SWAP : ℕ := 80000
def ONE_ETHER : ℕ := 1000000000000000000

def ONE_SOL : ℕ := 1000000000
def GAS_PRICE_SCALAR : ℕ := 1000000
def GAS_DROPOFF_SCALAR : ℕ := 1000

def U32_MAX : ℕ := 4294967295
def MAX_BPS : ℕ := 1000000

/-- The field `evm` of the execution parameters. -/
structure EvmParams where
  gasPrice : ℕ
  gasPriceMargin : ℕ

structure ExecutionParams where
  evm : Option EvmParams

structure RelayParams where
  baseFee : ℕ
  nativeTokenPrice : ℕ
  maxGasDropoff : ℕ
  gasDropoffMargin : ℕ
  executionParams : ExecutionParams

def denormalizeGasDropOff (gasDropOff : ℕ) : ℕ := gasDropOff * GAS_DROPOFF_SCALAR

def denormalizeGasPrice (gasPrice : ℕ) : ℕ := gasPrice * GAS_PRICE_SCALAR

def compound (percentage base : ℕ) : ℕ :=
  if percentage = 0 then base else base + base * percentage / MAX_BPS

def swapTypeOverhead : SwapType → Except String ℕ
  | .uniswapV3 p => .ok (UNISWAP_GAS_OVERHEAD + (p.path.length + 1) * UNISWAP_GAS_PER_SWAP)
  | .traderJoe p => .ok (TRADERJOE_GAS_OVERHEAD + (p.path.length + 1) * TRADERJOE_GAS_PER_SWAP)
  | _ => .error "Unsupported swap type"

def calculateEvmSwapOverhead : OutputToken → Except String ℕ
  | .usdc => .ok 0
  | .gas swap => swapTypeOverhead swap.type
  | .other _ swap => swapTypeOverhead swap.type

def calculateEvmGasCost (gasPrice gasPriceMargin totalGas nativeTokenPrice : ℕ) : ℕ :=
  compound gasPriceMargin (totalGas * denormalizeGasPrice gasPrice * nativeTokenPrice / ONE_ETHER)

def calculateGasDropoffCost (denormGasDropoff gasDropoffMargin nativeTokenPrice : ℕ) : ℕ :=
  compound gasDropoffMargin (denormGasDropoff * nativeTokenPrice / ONE_SOL)

/-- The base fee and the cost of the gas dropoff. -/
def dropoffFee (relayParams : RelayParams) (denormGasDropOff : ℕ) : Except String ℕ :=
  if 0 < denormGasDropOff then do
    ensure (denormGasDropOff ≤ denormalizeGasDropOff relayParams.maxGasDropoff) "Gas Dropoff too high"
    return relayParams.baseFee + calculateGasDropoffCost denormGasDropOff relayParams.gasDropoffMargin
      relayParams.nativeTokenPrice
  else .ok relayParams.baseFee

def calculateRelayerFee (relayParams : RelayParams) (denormGasDropOff : ℕ)
    (outputToken : OutputToken) : Except String ℕ := do
  ensure (relayParams.baseFee ≠ U32_MAX) "Relaying Disabled"
  let relayerFee ← dropoffFee relayParams denormGasDropOff
  match relayParams.executionParams.evm with
  | some evm => do
    let overhead ← calculateEvmSwapOverhead outputToken
    let totalGas := EVM_GAS_OVERHEAD + (if 0 < denormGasDropOff then DROPOFF_GAS_OVERHEAD else 0) + overhead
    return relayerFee + calculateEvmGasCost evm.gasPrice evm.gasPriceMargin totalGas
      relayParams.nativeTokenPrice
  | none => .error "Unsupported execution environment"

/-- The parameters of the program's account as the client reads them. -/
def ofRust (params : Solana.RelayParams) : RelayParams where
  baseFee := params.baseFee
  nativeTokenPrice := params.nativeTokenPrice
  maxGasDropoff := params.maxGasDropoff
  gasDropoffMargin := params.gasDropoffMargin
  executionParams := ⟨match params.executionParams with
    | .evm gasPrice gasPriceMargin => some ⟨gasPrice, gasPriceMargin⟩
    | .none => none⟩

/-! ## The formula -/

section Formula

variable {params : Solana.RelayParams} {g fee : ℕ} {token : OutputToken}

/-- No margin is the margin 0. -/
theorem compound_eq (percentage base : ℕ) : compound percentage base = markup percentage (10 ^ 6) base := by
  unfold compound
  split
  · rename_i hzero
    rw [hzero, markup_zero_rate]
  · rfl

theorem swapTypeOverhead_ok {t : SwapType} {gas : ℕ} : swapTypeOverhead t = .ok gas ↔
    Solana.IsEvmSwap t.toRust ∧ gas = Solana.evmSwapGas t.toRust := by
  cases t with
  | uniswapV3 p =>
    have hgas : Solana.evmSwapGas (SwapType.uniswapV3 p).toRust =
        UNISWAP_GAS_OVERHEAD + (p.path.length + 1) * UNISWAP_GAS_PER_SWAP := by
      simp only [SwapType.toRust, Solana.evmSwapGas, List.length_map]
      rw [Nat.mul_comm]
      rfl
    rw [hgas]
    exact ⟨fun h => ⟨trivial, (Except.ok.inj h).symm⟩, fun h => congrArg _ h.2.symm⟩
  | traderJoe p =>
    have hgas : Solana.evmSwapGas (SwapType.traderJoe p).toRust =
        TRADERJOE_GAS_OVERHEAD + (p.path.length + 1) * TRADERJOE_GAS_PER_SWAP := by
      simp only [SwapType.toRust, Solana.evmSwapGas, List.length_map]
      rw [Nat.mul_comm]
      rfl
    rw [hgas]
    exact ⟨fun h => ⟨trivial, (Except.ok.inj h).symm⟩, fun h => congrArg _ h.2.symm⟩
  | jupiterV6 p =>
    constructor
    · intro h
      cases h
    · intro h
      exact h.1.elim

theorem calculateEvmSwapOverhead_ok {gas : ℕ} : calculateEvmSwapOverhead token = .ok gas ↔
    (∀ swap, token.toRust.swap = some swap → Solana.IsEvmSwap swap.swapType) ∧
      gas = Solana.evmOutputGas token.toRust := by
  cases token with
  | usdc => exact ⟨fun h => ⟨nofun, (Except.ok.inj h).symm⟩, fun h => congrArg _ h.2.symm⟩
  | gas swap =>
    refine swapTypeOverhead_ok.trans (and_congr_left' ⟨fun h s hs => ?_, fun h => h _ rfl⟩)
    cases hs
    exact h
  | other address swap =>
    refine swapTypeOverhead_ok.trans (and_congr_left' ⟨fun h s hs => ?_, fun h => h _ rfl⟩)
    cases hs
    exact h

theorem le_denormalizeGasDropOff {max : ℕ} : 1000 * g ≤ denormalizeGasDropOff max ↔ g ≤ max := by
  unfold denormalizeGasDropOff GAS_DROPOFF_SCALAR
  omega

theorem dropoffFee_ok : dropoffFee (ofRust params) (1000 * g) = .ok fee ↔
    g ≤ params.maxGasDropoff ∧
      fee = params.baseFee + (if 0 < g then Solana.dropoffCharge params g else 0) := by
  unfold dropoffFee
  rcases Nat.eq_zero_or_pos g with rfl | hpos
  · exact ⟨fun h => ⟨Nat.zero_le _, (Except.ok.inj h).symm⟩, fun h => congrArg Except.ok h.2.symm⟩
  · rw [if_pos (Nat.mul_pos (by decide) hpos), if_pos hpos]
    unfold calculateGasDropoffCost
    rw [compound_eq]
    constructor
    · intro h
      obtain ⟨_, hmax, h₁⟩ := except_bind_ok.1 h
      exact ⟨le_denormalizeGasDropOff.1 (ensure_ok.1 hmax), (except_pure_ok.1 h₁).symm⟩
    · rintro ⟨hle, rfl⟩
      exact except_bind_ok.2 ⟨(), ensure_ok.2 (le_denormalizeGasDropOff.2 hle), rfl⟩

/-- **The quote is the formula**, for every relay that has a price. -/
theorem calculateRelayerFee_ok : calculateRelayerFee (ofRust params) (1000 * g) token = .ok fee ↔
    ∃ gasPrice gasPriceMargin, Solana.Priced params g token.toRust gasPrice gasPriceMargin ∧
      fee = Solana.exactRelayerFee params gasPrice gasPriceMargin g token.toRust := by
  have hgas : (0 < 1000 * g) = (0 < g) := propext (Nat.mul_pos_iff_of_pos_left (by decide))
  unfold calculateRelayerFee
  simp only [hgas]
  constructor
  · intro h
    obtain ⟨_, henabled, h₁⟩ := except_bind_ok.1 h
    obtain ⟨base, hbase, h₂⟩ := except_bind_ok.1 h₁
    obtain ⟨hmax, rfl⟩ := dropoffFee_ok.1 hbase
    unfold ofRust at h₂
    dsimp only at h₂
    cases hexecution : params.executionParams with
    | none =>
      rw [hexecution] at h₂
      cases h₂
    | evm gasPrice gasPriceMargin =>
      rw [hexecution] at h₂
      obtain ⟨overhead, hoverhead, h₃⟩ := except_bind_ok.1 h₂
      obtain ⟨houtput, rfl⟩ := calculateEvmSwapOverhead_ok.1 hoverhead
      refine ⟨gasPrice, gasPriceMargin, ⟨ensure_ok.1 henabled, hmax, hexecution, houtput⟩, ?_⟩
      rw [← except_pure_ok.1 h₃]
      unfold calculateEvmGasCost
      rw [compound_eq]
      rfl
  · rintro ⟨gasPrice, gasPriceMargin, hpriced, rfl⟩
    refine except_bind_ok.2 ⟨(), ensure_ok.2 hpriced.enabled, except_bind_ok.2
      ⟨_, dropoffFee_ok.2 ⟨hpriced.dropoff, rfl⟩, ?_⟩⟩
    unfold ofRust
    dsimp only
    rw [hpriced.execution]
    refine except_bind_ok.2 ⟨_, calculateEvmSwapOverhead_ok.2 ⟨hpriced.output, rfl⟩, ?_⟩
    unfold calculateEvmGasCost
    rw [compound_eq]
    rfl

end Formula

/-! ## Agreement -/

/-- **The client and the program agree**: what the program charges is what the client quotes, and where the
client throws the program fails. An array of the client has fewer than 2^32 elements. -/
theorem calculateRelayerFee_agrees (params : Solana.RelayParams) (hrange : params.InRange) (g : ℕ)
    (hg : g < 2 ^ 32) (token : OutputToken) (harray : Solana.ShortPath token.toRust) :
    (∀ fee, Solana.calculateRelayerFee params g token.toRust = .ok fee →
      calculateRelayerFee (ofRust params) (1000 * g) token = .ok fee) ∧
    (∀ text, calculateRelayerFee (ofRust params) (1000 * g) token = .error text →
      ∃ e, Solana.calculateRelayerFee params g token.toRust = .error e) := by
  have hquoted : ∀ fee, Solana.calculateRelayerFee params g token.toRust = .ok fee →
      calculateRelayerFee (ofRust params) (1000 * g) token = .ok fee := by
    intro fee h
    obtain ⟨gasPrice, gasPriceMargin, hpriced, -, -, -, hfee⟩ :=
      (Solana.calculateRelayerFee_ok hrange hg harray).1 h
    exact calculateRelayerFee_ok.2 ⟨gasPrice, gasPriceMargin, hpriced, hfee⟩
  refine ⟨hquoted, fun text hthrown => ?_⟩
  cases h : Solana.calculateRelayerFee params g token.toRust with
  | error e => exact ⟨e, rfl⟩
  | ok fee => cases hthrown.symm.trans (hquoted fee h)

namespace Sample

open Solana.Sample

theorem relayer_fee_agrees :
    calculateRelayerFee (ofRust testRelayParams) 50000000 .usdc = .ok 17280000 ∧
      ∃ e, Solana.calculateRelayerFee testRelayParams 500001 .usdc = .error e :=
  ⟨(calculateRelayerFee_agrees testRelayParams testRelayParams_inRange 50000 (by decide) .usdc
      nofun).1 _ (by decide +kernel),
    (calculateRelayerFee_agrees testRelayParams testRelayParams_inRange 500001 (by decide) .usdc
      nofun).2 "Gas Dropoff too high" (by decide +kernel)⟩

end Sample

end SwapLayer.Client
