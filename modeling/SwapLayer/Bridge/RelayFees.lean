import SwapLayer.Evm.RelayingFee
import SwapLayer.Solana.FeeFormula

/-!
# One relay, two prices

The contracts and the Solana program compute the fee of a relay to an EVM chain from the same kind of
parameters (`SwapLayerRelayingFees.sol`, `relayer_fees.rs`). Their formulas are not the same: the contract
marks a product up and divides it, the program divides and marks up, and it reckons with less gas for a
redemption and for each pool.

Results:
* `fee_le`: the program never charges more than the contract does for the same relay.
* `fee_le_add`: what the contract charges beyond that is the price of the gas that the program leaves out,
  and at most five units.
* `relayFees_compare`: both for the code: where one of them has a fee, the other one has one within these
  bounds.
-/

namespace SwapLayer.Bridge

open Markup Program Messages

/-! ## The same relay -/

/-- The number of pools of the output swap. -/
def swapCount (token : OutputToken) : ℕ :=
  match token.swap with
  | none => 0
  | some swap => swap.swapType.hops + 1

/-- The number of a swap type on EVM chains; that of `Invalid` is not used. -/
def swapTypeNumber : SwapType → ℕ
  | .uniswapV3 _ => Evm.SWAP_TYPE_UNISWAPV3
  | .traderJoe _ => Evm.SWAP_TYPE_TRADERJOE
  | .jupiterV6 _ => Evm.SWAP_TYPE_JUPITERV6
  | .invalid => 0

def swapTypeOf (token : OutputToken) : ℕ :=
  match token.swap with
  | none => 0
  | some swap => swapTypeNumber swap.swapType

/-- The parameters of a chain, as the contracts and as the program have them. A margin is a mantissa over
a power of ten there, and millionths here. -/
structure SameParams (p : Evm.FeeParams) (q : Solana.RelayParams) (gasPriceMargin : ℕ) : Prop where
  bounded : p.Bounded
  inRange : q.InRange
  verified : Solana.verifyRelayParams q = .ok ()
  baseFee : q.baseFee = p.baseFee
  nativeTokenPrice : q.nativeTokenPrice = p.gasTokenPrice
  maxGasDropoff : q.maxGasDropoff = p.maxGasDropoff
  executionParams : q.executionParams = .evm p.gasPrice gasPriceMargin
  gasDropoffMargin : (p.gasDropoffMargin >>> Evm.EXPONENT_BITS) * 10 ^ 6 =
    q.gasDropoffMargin * 10 ^ (3 + p.gasDropoffMargin % 4)
  gasPriceMargin : (p.gasPriceMargin >>> Evm.EXPONENT_BITS) * 10 ^ 6 =
    gasPriceMargin * 10 ^ (3 + p.gasPriceMargin % 4)

/-- The gas that the contract reckons with and the program does not. -/
def extraGas (token : OutputToken) : ℕ :=
  110000 + match token.swap with
    | none => 0
    | some swap => (if swapTypeNumber swap.swapType = Evm.SWAP_TYPE_UNISWAPV3 then 30000 else 20000) *
        (swap.swapType.hops + 1)

/-- What gas costs on an EVM chain. -/
def gasCharge (p : Evm.FeeParams) (gas : ℕ) : ℕ :=
  Evm.compounded p.gasPriceMargin (gas * (p.gasPrice * 10 ^ 6) * p.gasTokenPrice) / 10 ^ 18

variable {p : Evm.FeeParams} {q : Solana.RelayParams} {m g targetChain : ℕ} {token : OutputToken}

/-! ## The parts of the fee -/

namespace SameParams

/-- A margin is the same fraction for both. -/
theorem compounded_gasDropoffMargin (h : SameParams p q m) (x : ℕ) :
    Evm.compounded p.gasDropoffMargin x = markup q.gasDropoffMargin (10 ^ 6) x :=
  markup_congr (Nat.pos_of_ne_zero (by simp)) (by decide) h.gasDropoffMargin

theorem compounded_gasPriceMargin (h : SameParams p q m) (x : ℕ) :
    Evm.compounded p.gasPriceMargin x = markup m (10 ^ 6) x :=
  markup_congr (Nat.pos_of_ne_zero (by simp)) (by decide) h.gasPriceMargin

theorem margins_le (h : SameParams p q m) : q.gasDropoffMargin ≤ 10 ^ 6 ∧ m ≤ 10 ^ 6 := by
  obtain ⟨hdropoff, hprice⟩ := Solana.verifyRelayParams_margins h.verified
  exact ⟨hdropoff, hprice _ _ h.executionParams⟩

/-- **The dropoff**: both divide the same cost, the program before the margin. -/
theorem dropoffCharge_le (h : SameParams p q m) (g : ℕ) :
    (if 0 < g then Solana.dropoffCharge q g else 0) ≤ Evm.dropoffCharge p g ∧
      Evm.dropoffCharge p g ≤ (if 0 < g then Solana.dropoffCharge q g else 0) + 2 := by
  by_cases hg : 0 < g
  · have hcost : 1000 * g * q.nativeTokenPrice / 10 ^ 9 = g * 10 ^ 12 * p.gasTokenPrice / 10 ^ 18 := by
      rw [h.nativeTokenPrice, show 1000 * g * p.gasTokenPrice = g * p.gasTokenPrice * 10 ^ 3 by ring,
        show g * 10 ^ 12 * p.gasTokenPrice = g * p.gasTokenPrice * 10 ^ 12 by ring,
        show 10 ^ 9 = 10 ^ 6 * 10 ^ 3 by rfl, show 10 ^ 18 = 10 ^ 6 * 10 ^ 12 by rfl,
        Nat.mul_div_mul_right _ _ (by decide), Nat.mul_div_mul_right _ _ (by decide)]
    rw [if_pos hg, Evm.dropoffCharge, if_pos hg, Solana.dropoffCharge, hcost,
      h.compounded_gasDropoffMargin]
    exact ⟨markup_div_le, div_markup_le (by decide) (by decide) h.margins_le.1⟩
  · rw [if_neg hg, Evm.dropoffCharge, if_neg hg]
    exact ⟨Nat.le_refl 0, Nat.zero_le _⟩

/-- **Gas**: the same for the same amount of it. -/
theorem evmCharge_le (h : SameParams p q m) (gas : ℕ) :
    Solana.evmCharge p.gasPrice m gas q.nativeTokenPrice ≤ gasCharge p gas ∧
      gasCharge p gas ≤ Solana.evmCharge p.gasPrice m gas q.nativeTokenPrice + 2 := by
  rw [Solana.evmCharge, gasCharge, h.nativeTokenPrice, h.compounded_gasPriceMargin]
  exact ⟨markup_div_le, div_markup_le (by decide) (by decide) h.margins_le.2⟩

end SameParams

theorem gasCharge_mono {gas gas' : ℕ} (h : gas ≤ gas') : gasCharge p gas ≤ gasCharge p gas' :=
  Nat.div_le_div_right (markup_mono (Nat.le_refl _)
    (Nat.mul_le_mul_right _ (Nat.mul_le_mul_right _ h)))

theorem gasCharge_add_le (gas extra : ℕ) :
    gasCharge p (gas + extra) ≤ gasCharge p gas + gasCharge p extra + 1 := by
  unfold gasCharge Evm.compounded
  rw [Nat.add_mul, Nat.add_mul]
  exact (Nat.div_le_div_right (markup_add_le (Nat.pos_of_ne_zero (by simp)))).trans
    (succ_add_div_le (by decide))

/-- **The gas of a redemption**: the contract's is the program's and what it leaves out. -/
theorem totalGas_eq (hswap : ∀ swap, token.swap = some swap → Solana.IsEvmSwap swap.swapType) (g : ℕ) :
    Evm.totalGas g (swapCount token) (swapTypeOf token) = Solana.evmTotalGas g token + extraGas token := by
  unfold Evm.totalGas Solana.evmTotalGas Evm.swapGasUnits Solana.evmOutputGas swapCount swapTypeOf extraGas
  cases htoken : token.swap with
  | none =>
    simp only [if_true]
    unfold Evm.GAS_OVERHEAD Solana.EVM_GAS_OVERHEAD Evm.DROPOFF_GAS_OVERHEAD
      Solana.DROPOFF_GAS_OVERHEAD
    omega
  | some swap =>
    have hevm := hswap swap htoken
    simp only [if_neg (Nat.succ_ne_zero _)]
    unfold Evm.GAS_OVERHEAD Solana.EVM_GAS_OVERHEAD Evm.DROPOFF_GAS_OVERHEAD
      Solana.DROPOFF_GAS_OVERHEAD
    cases htype : swap.swapType with
    | uniswapV3 u =>
      simp only [swapTypeNumber, Solana.evmSwapGas, SwapType.hops, if_true, Evm.UNISWAP_GAS_OVERHEAD,
        Evm.UNISWAP_GAS_PER_SWAP, Solana.UNISWAP_GAS_OVERHEAD, Solana.UNISWAP_GAS_PER_SWAP]
      omega
    | traderJoe t =>
      simp only [swapTypeNumber, Solana.evmSwapGas, SwapType.hops, Evm.TRADERJOE_GAS_OVERHEAD,
        Evm.TRADERJOE_GAS_PER_SWAP, Solana.TRADERJOE_GAS_OVERHEAD, Solana.TRADERJOE_GAS_PER_SWAP,
        show ¬Evm.SWAP_TYPE_TRADERJOE = Evm.SWAP_TYPE_UNISWAPV3 by decide, if_false]
      omega
    | invalid => rw [htype] at hevm; exact hevm.elim
    | jupiterV6 j => rw [htype] at hevm; exact hevm.elim

/-! ## The fees -/

section Fees

variable (h : SameParams p q m) (hchain : targetChain ≠ Evm.SOLANA_CHAIN_ID)
  (hswap : ∀ swap, token.swap = some swap → Solana.IsEvmSwap swap.swapType)

include h hchain hswap

/-- **The program never charges more.** -/
theorem fee_le : Solana.exactRelayerFee q p.gasPrice m g token ≤
    Evm.relayingFee p targetChain g (swapCount token) (swapTypeOf token) := by
  have hdropoff := (h.dropoffCharge_le g).1
  have hgas := (h.evmCharge_le (Solana.evmTotalGas g token)).1
  have hmore := gasCharge_mono (p := p) (Nat.le_add_right (Solana.evmTotalGas g token) (extraGas token))
  unfold Solana.exactRelayerFee Evm.relayingFee Evm.executionCharge
  rw [if_neg hchain, totalGas_eq hswap, h.baseFee]
  unfold gasCharge at hgas hmore
  omega

/-- **What the contract charges beyond that** is the price of the gas that the program leaves out. -/
theorem fee_le_add : Evm.relayingFee p targetChain g (swapCount token) (swapTypeOf token) ≤
    Solana.exactRelayerFee q p.gasPrice m g token + gasCharge p (extraGas token) + 5 := by
  have hdropoff := (h.dropoffCharge_le g).2
  have hgas := (h.evmCharge_le (Solana.evmTotalGas g token)).2
  have hmore := gasCharge_add_le (p := p) (Solana.evmTotalGas g token) (extraGas token)
  unfold Solana.exactRelayerFee Evm.relayingFee Evm.executionCharge
  rw [if_neg hchain, totalGas_eq hswap, h.baseFee]
  unfold gasCharge at hgas hmore ⊢
  omega

end Fees

/-! ## Both programs -/

/-- A swap over pools of one of the two routers, or none. -/
def EvmPools (swapCount swapType : ℕ) : Prop :=
  swapCount ≠ 0 → swapType = Evm.SWAP_TYPE_UNISWAPV3 ∨ swapType = Evm.SWAP_TYPE_TRADERJOE

theorem dropoffFee_exists (p : Evm.FeeParams) (g : ℕ) :
    (∃ n, Evm.dropoffFee p (Evm.gasDropoffFrom g) = .ok n) ↔ (0 < g → g ≤ p.maxGasDropoff) := by
  unfold Evm.dropoffFee Evm.gasDropoffFrom
  by_cases hpos : g * 10 ^ 12 > 0
  · rw [if_pos hpos]
    by_cases hmax : g * 10 ^ 12 > p.maxGasDropoff * 10 ^ 12
    · simp only [if_pos hmax, reduceCtorEq, exists_false, false_iff]
      omega
    · simp only [if_neg hmax, Except.ok.injEq, exists_eq', true_iff]
      omega
  · rw [if_neg hpos]
    exact ⟨fun _ hg => by omega, fun _ => ⟨0, rfl⟩⟩

theorem swapGas_exists (targetChain swapCount swapType : ℕ) :
    (∃ gas, Evm.swapGas targetChain swapCount swapType = .ok gas) ↔ EvmPools swapCount swapType := by
  unfold Evm.swapGas EvmPools
  by_cases hcount : swapCount ≠ 0
  · rw [if_pos hcount]
    by_cases huniswap : swapType = Evm.SWAP_TYPE_UNISWAPV3
    · simp [huniswap]
    · rw [if_neg huniswap]
      by_cases htraderJoe : swapType = Evm.SWAP_TYPE_TRADERJOE <;> simp [htraderJoe, huniswap, hcount]
  · simp [hcount]

theorem evmPools_iff (token : OutputToken) : EvmPools (swapCount token) (swapTypeOf token) ↔
    ∀ swap, token.swap = some swap → Solana.IsEvmSwap swap.swapType := by
  unfold EvmPools swapCount swapTypeOf
  cases token.swap with
  | none => simp
  | some swap =>
    cases htype : swap.swapType <;>
      simp [htype, swapTypeNumber, Solana.IsEvmSwap, Evm.SWAP_TYPE_UNISWAPV3, Evm.SWAP_TYPE_TRADERJOE,
        Evm.SWAP_TYPE_JUPITERV6]

/-- **When the contract has a fee**, and which. -/
theorem calcRelayingFee_iff (hp : p.Bounded) (hg : g < 2 ^ 32) {n swapType fee : ℕ} (hn : n ≤ 256)
    {outputTokenType : Evm.IoToken} (hchain : targetChain ≠ Evm.SOLANA_CHAIN_ID) :
    Evm.calcRelayingFee p targetChain g outputTokenType n swapType = .ok fee ↔
      (p.baseFee ≠ 2 ^ 32 - 1 ∧ (0 < g → g ≤ p.maxGasDropoff) ∧ EvmPools n swapType) ∧
        fee = Evm.relayingFee p targetChain g n swapType := by
  constructor
  · intro h
    refine ⟨?_, Evm.calcRelayingFee_ok hp hg hn h⟩
    obtain ⟨_, henabled, h₁⟩ := except_bind_ok.1 h
    obtain ⟨forDropoff, hdropoff, h₂⟩ := except_bind_ok.1 h₁
    obtain ⟨forExecution, hexecution, -⟩ := except_bind_ok.1 h₂
    rw [Evm.executionFee, if_neg hchain] at hexecution
    obtain ⟨gas, hgas, -⟩ := except_bind_ok.1 hexecution
    exact ⟨ensure_ok.1 henabled, (dropoffFee_exists p g).1 ⟨_, hdropoff⟩,
      (swapGas_exists _ _ _).1 ⟨_, hgas⟩⟩
  · rintro ⟨⟨henabled, hdropoff, hpools⟩, rfl⟩
    obtain ⟨forDropoff, hdropoff⟩ := (dropoffFee_exists p g).2 hdropoff
    obtain ⟨gas, hgas⟩ := (swapGas_exists targetChain n swapType).2 hpools
    have hexecution : ∃ forExecution,
        Evm.executionFee p targetChain (Evm.gasDropoffFrom g) n swapType = .ok forExecution := by
      rw [Evm.executionFee, if_neg hchain]
      exact ⟨_, except_bind_ok.2 ⟨gas, hgas, rfl⟩⟩
    obtain ⟨forExecution, hexecution⟩ := hexecution
    have hok : ∃ fee, Evm.calcRelayingFee p targetChain g outputTokenType n swapType = .ok fee :=
      ⟨_, except_bind_ok.2 ⟨(), ensure_ok.2 henabled, except_bind_ok.2 ⟨_, hdropoff,
        except_bind_ok.2 ⟨_, hexecution, rfl⟩⟩⟩⟩
    obtain ⟨fee, hfee⟩ := hok
    rw [hfee, Evm.calcRelayingFee_ok hp hg hn hfee]

/-- When the program has a fee, and which, with the parameters of the contract. -/
theorem calculateRelayerFee_iff (h : SameParams p q m) (hg : g < 2 ^ 32)
    (hpath : Solana.ShortPath token) {fee : ℕ} :
    Solana.calculateRelayerFee q g token = .ok fee ↔
      (p.baseFee ≠ 2 ^ 32 - 1 ∧ (0 < g → g ≤ p.maxGasDropoff) ∧
        EvmPools (swapCount token) (swapTypeOf token)) ∧
      Solana.exactRelayerFee q p.gasPrice m g token < 2 ^ 48 ∧
        fee = Solana.exactRelayerFee q p.gasPrice m g token := by
  rw [Solana.calculateRelayerFee_ok h.inRange hg hpath, evmPools_iff, ← h.baseFee, ← h.maxGasDropoff]
  constructor
  · rintro ⟨gasPrice, gasPriceMargin, hpriced, -, -, hlt, rfl⟩
    have hexecution := hpriced.execution
    rw [h.executionParams] at hexecution
    cases hexecution
    exact ⟨⟨hpriced.enabled, fun _ => hpriced.dropoff, hpriced.output⟩, hlt, rfl⟩
  · rintro ⟨⟨henabled, hdropoff, houtput⟩, hlt, rfl⟩
    have hle : g ≤ q.maxGasDropoff := by
      rcases Nat.eq_zero_or_pos g with rfl | hpos
      · exact Nat.zero_le _
      · exact hdropoff hpos
    exact ⟨_, _, ⟨henabled, hle, h.executionParams, houtput⟩, fun _ => h.margins_le.1, h.margins_le.2,
      hlt, rfl⟩

/-- **One relay, two prices.** For the same parameters and the same relay to an EVM chain, where the
program has a fee, the contract has one, too; and where the contract has one of at most 48 bits, so does
the program. The program's is never higher, and the difference is the price of the gas that the program
does not reckon with, give or take five units. -/
theorem relayFees_compare (h : SameParams p q m) (hchain : targetChain ≠ Evm.SOLANA_CHAIN_ID)
    (hg : g < 2 ^ 32) (hpath : ∀ swap, token.swap = some swap → swap.swapType.hops ≤ 255)
    (outputTokenType : Evm.IoToken) :
    (∀ fee, Solana.calculateRelayerFee q g token = .ok fee →
      ∃ fee', Evm.calcRelayingFee p targetChain g outputTokenType (swapCount token) (swapTypeOf token) =
        .ok fee') ∧
    (∀ fee', Evm.calcRelayingFee p targetChain g outputTokenType (swapCount token) (swapTypeOf token) =
        .ok fee' → fee' < 2 ^ 48 → ∃ fee, Solana.calculateRelayerFee q g token = .ok fee) ∧
    ∀ fee fee', Solana.calculateRelayerFee q g token = .ok fee →
      Evm.calcRelayingFee p targetChain g outputTokenType (swapCount token) (swapTypeOf token) = .ok fee' →
        fee ≤ fee' ∧ fee' ≤ fee + gasCharge p (extraGas token) + 5 := by
  have hshort : Solana.ShortPath token := fun swap hs => by
    have := hpath swap hs
    omega
  have hcount : swapCount token ≤ 256 := by
    unfold swapCount
    cases hs : token.swap with
    | none => exact Nat.zero_le _
    | some swap => exact Nat.succ_le_succ (hpath swap hs)
  refine ⟨fun fee hfee => ?_, fun fee' hfee' hlt => ?_, fun fee fee' hfee hfee' => ?_⟩
  · obtain ⟨hpriced, -, -⟩ := (calculateRelayerFee_iff h hg hshort).1 hfee
    exact ⟨_, (calcRelayingFee_iff h.bounded hg hcount hchain).2 ⟨hpriced, rfl⟩⟩
  · obtain ⟨hpriced, rfl⟩ := (calcRelayingFee_iff h.bounded hg hcount hchain).1 hfee'
    have hle := fee_le (g := g) h hchain ((evmPools_iff token).1 hpriced.2.2)
    exact ⟨_, (calculateRelayerFee_iff h hg hshort).2 ⟨hpriced, by omega, rfl⟩⟩
  · obtain ⟨hpriced, -, rfl⟩ := (calculateRelayerFee_iff h hg hshort).1 hfee
    obtain ⟨-, rfl⟩ := (calcRelayingFee_iff h.bounded hg hcount hchain).1 hfee'
    have hswap := (evmPools_iff token).1 hpriced.2.2
    exact ⟨fee_le h hchain hswap, fee_le_add h hchain hswap⟩

namespace Sample

/-- The parameters of `Evm.Sample.feeParams`, as the program has them. -/
def relayParams : Solana.RelayParams :=
  ⟨1000000, 3000000000, 500000, 100000, .evm 30000 250000, ⟨10, 30⟩⟩

theorem sameParams : SameParams Evm.Sample.feeParams relayParams 250000 where
  bounded := ⟨by decide, by decide⟩
  inRange := ⟨by decide, by decide, by decide, by decide, by
    rintro gasPrice gasPriceMargin ⟨⟩
    decide⟩
  verified := by decide
  baseFee := by decide
  nativeTokenPrice := by decide
  maxGasDropoff := by decide
  executionParams := by decide
  gasDropoffMargin := by decide
  gasPriceMargin := by decide

/-- A relay of USDC with a dropoff of 0.01 ether costs 69.10 dollars from Solana, and 81.475 from a
contract. -/
theorem relayFees_differ :
    Solana.calculateRelayerFee relayParams 10000 .usdc = .ok 69100000 ∧
      ∃ fee', Evm.calcRelayingFee Evm.Sample.feeParams 2 10000 .usdc 0 0 = .ok fee' ∧ 69100000 ≤ fee' ∧
        fee' ≤ 69100000 + gasCharge Evm.Sample.feeParams (extraGas .usdc) + 5 := by
  have hsolana : Solana.calculateRelayerFee relayParams 10000 .usdc = .ok 69100000 := by decide +kernel
  have hpath : ∀ swap, OutputToken.usdc.swap = some swap → swap.swapType.hops ≤ 255 := by
    simp [OutputToken.swap]
  obtain ⟨hhas, -, hbounds⟩ := relayFees_compare (g := 10000) sameParams
    (show 2 ≠ Evm.SOLANA_CHAIN_ID by decide) (by decide) hpath .usdc
  obtain ⟨fee', hevm⟩ := hhas _ hsolana
  exact ⟨hsolana, fee', hevm, hbounds _ _ hsolana hevm⟩

end Sample

end SwapLayer.Bridge
