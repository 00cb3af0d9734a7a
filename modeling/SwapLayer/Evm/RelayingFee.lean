import SwapLayer.Lib.Markup
import SwapLayer.Evm.Fees

/-!
# What a relay costs

`_calcRelayingFee` computes in an `unchecked` block. This file says what it computes over the natural
numbers, and that nothing is ever lost.

The comment in the source reckons with a total gas of less than 2^24. A path of 256 pools takes more
than that, but less than 2^26: with a gas price of 52 bits, a token price of 64 bits and a percentage
of at most 14 bits the cost has at most 156 bits.

Results:
* `compoundUnchecked_exact`: a margin of at most 1000 % does not overflow, on any cost below 2^240 for one.
* `calcRelayingFee_ok`: the fee is the formula.
* `relayingFee_mono`: the formula is monotone in everything that it is computed from.
* `calcRelayingFee_exact`: both for the code.
-/

namespace SwapLayer.Evm

open ByteString Program Markup

/-! ## The formula -/

/-- A percentage on top: a mantissa of 14 bits over a power of ten. -/
def compounded (percentage value : ℕ) : ℕ :=
  markup (percentage >>> EXPONENT_BITS) (10 ^ (3 + percentage % 4)) value

/-- What a gas dropoff of `g` microether costs. -/
def dropoffCharge (p : FeeParams) (g : ℕ) : ℕ :=
  if 0 < g then compounded p.gasDropoffMargin (g * 10 ^ 12 * p.gasTokenPrice) / 10 ^ 18 else 0

/-- The gas of a swap over `swapCount` pools. -/
def swapGasUnits (swapCount swapType : ℕ) : ℕ :=
  if swapCount = 0 then 0
  else if swapType = SWAP_TYPE_UNISWAPV3 then UNISWAP_GAS_OVERHEAD + UNISWAP_GAS_PER_SWAP * swapCount
  else TRADERJOE_GAS_OVERHEAD + TRADERJOE_GAS_PER_SWAP * swapCount

/-- The gas of a redemption on an EVM chain. -/
def totalGas (g swapCount swapType : ℕ) : ℕ :=
  GAS_OVERHEAD + (if 0 < g then DROPOFF_GAS_OVERHEAD else 0) + swapGasUnits swapCount swapType

/-- What the execution costs: the rent of a token account on Solana, gas elsewhere. -/
def executionCharge (p : FeeParams) (targetChain g swapCount swapType : ℕ) : ℕ :=
  if targetChain = SOLANA_CHAIN_ID then
    compounded p.gasDropoffMargin (SOLANA_ATA_RENT_LAMPORTS * p.gasTokenPrice) / 10 ^ 9
  else
    compounded p.gasPriceMargin
      (totalGas g swapCount swapType * (p.gasPrice * 10 ^ 6) * p.gasTokenPrice) / 10 ^ 18

/-- The fee of a relay, over the natural numbers. -/
def relayingFee (p : FeeParams) (targetChain g swapCount swapType : ℕ) : ℕ :=
  p.baseFee + dropoffCharge p g + executionCharge p targetChain g swapCount swapType

/-! ## Nothing overflows -/

section Bounds

variable {percentage value g swapCount swapType : ℕ}

theorem FeeParams.getField_lt (offset size : ℕ) (p : FeeParams) : getField offset size p < 2 ^ size :=
  BitVec.isLt _

/-- The powers of ten are found in the packed word. -/
theorem powerOfTen : ∀ {e : ℕ}, e < 4 →
    (POWERS_OF_TEN >>> (e * BITS_PER_POWER)) &&& POWERS_OF_TEN_MASK = 10 ^ (3 + e)
  | 0, _ | 1, _ | 2, _ | 3, _ => by decide

theorem compounded_le (value : ℕ) (hp : percentage >>> EXPONENT_BITS ≤ MAX_MANTISSA) :
    compounded percentage value ≤ value * (MAX_MANTISSA + 1) := markup_le hp

/-- **Compounding does not overflow** as long as the product with the largest mantissa does not. -/
theorem compoundUnchecked_exact (hp : percentage >>> EXPONENT_BITS ≤ MAX_MANTISSA)
    (hv : value * 10 ^ 4 + value < 2 ^ 256) :
    compoundUnchecked percentage value = compounded percentage value := by
  have hexp : percentage &&& EXPONENT_BITS_MASK = percentage % 4 :=
    Nat.and_two_pow_sub_one_eq_mod percentage 2
  have hmul : value * (percentage >>> EXPONENT_BITS) ≤ value * MAX_MANTISSA :=
    Nat.mul_le_mul_left value hp
  have hle := compounded_le value hp
  unfold MAX_MANTISSA at hmul hle
  unfold compoundUnchecked
  simp only [hexp, powerOfTen (Nat.mod_lt _ (by decide : 0 < 4))]
  rw [wrap_of_lt (show value * (percentage >>> EXPONENT_BITS) < 2 ^ 256 by omega)]
  exact wrap_of_lt (show compounded percentage value < 2 ^ 256 by omega)

theorem compoundUnchecked_eq (hp : percentage >>> EXPONENT_BITS ≤ MAX_MANTISSA)
    (hv : value < 2 ^ 240) : compoundUnchecked percentage value = compounded percentage value :=
  compoundUnchecked_exact hp (by omega)

theorem dropoff_lt (p : FeeParams) (hg : g < 2 ^ 32) : g * 10 ^ 12 * p.gasTokenPrice < 2 ^ 136 :=
  mul_lt_two_pow (mul_lt_two_pow hg (by decide : 10 ^ 12 < 2 ^ 40)) (FeeParams.getField_lt 128 64 p)

theorem rent_lt (p : FeeParams) : SOLANA_ATA_RENT_LAMPORTS * p.gasTokenPrice < 2 ^ 85 :=
  mul_lt_two_pow (by decide : SOLANA_ATA_RENT_LAMPORTS < 2 ^ 21) (FeeParams.getField_lt 128 64 p)

/-- The bound of the comment in the source, put right. -/
theorem totalGas_lt (g swapType : ℕ) (hcount : swapCount ≤ 256) :
    totalGas g swapCount swapType < 2 ^ 26 := by
  simp only [totalGas, swapGasUnits, GAS_OVERHEAD, DROPOFF_GAS_OVERHEAD, UNISWAP_GAS_OVERHEAD,
    UNISWAP_GAS_PER_SWAP, TRADERJOE_GAS_OVERHEAD, TRADERJOE_GAS_PER_SWAP]
  split <;> split <;> try split
  all_goals omega

theorem gasCost_lt (p : FeeParams) (g swapType : ℕ) (hcount : swapCount ≤ 256) :
    totalGas g swapCount swapType * (p.gasPrice * 10 ^ 6) * p.gasTokenPrice < 2 ^ 142 := by
  have hprice : p.gasPrice * 10 ^ 6 < 2 ^ 52 :=
    mul_lt_two_pow (FeeParams.getField_lt 32 32 p) (by decide : 10 ^ 6 < 2 ^ 20)
  exact mul_lt_two_pow (mul_lt_two_pow (totalGas_lt g swapType hcount) hprice) (FeeParams.getField_lt 128 64 p)

end Bounds

/-! ## The code computes the formula -/

section Exact

variable {p : FeeParams} {targetChain g swapCount swapType n : ℕ} {outputTokenType : IoToken}

theorem dropoffFee_ok (hp : p.Bounded) (hg : g < 2 ^ 32)
    (h : dropoffFee p (gasDropoffFrom g) = .ok n) : n = dropoffCharge p g ∧ n < 2 ^ 160 := by
  have hlt := dropoff_lt p hg
  have hle := compounded_le (g * 10 ^ 12 * p.gasTokenPrice) hp.dropoff
  unfold MAX_MANTISSA at hle
  unfold dropoffFee at h
  by_cases hpos : 0 < g
  · have hpos' : gasDropoffFrom g > 0 := Nat.mul_pos hpos (by decide)
    rw [if_pos hpos'] at h
    simp only [] at h
    split at h
    · cases h
    · have hn : n = compounded p.gasDropoffMargin (g * 10 ^ 12 * p.gasTokenPrice) / 10 ^ 18 := by
        rw [← Except.ok.inj h, gasDropoffFrom, wrap_of_lt (by omega),
          compoundUnchecked_eq hp.dropoff (by omega)]
        rfl
      refine ⟨by rw [hn, dropoffCharge, if_pos hpos], ?_⟩
      have := Nat.div_le_self (compounded p.gasDropoffMargin (g * 10 ^ 12 * p.gasTokenPrice)) (10 ^ 18)
      omega
  · obtain rfl : g = 0 := by omega
    rw [if_neg (by decide)] at h
    cases h
    exact ⟨rfl, by decide⟩

theorem swapGas_ok (hcount : swapCount ≤ 256) (h : swapGas targetChain swapCount swapType = .ok n) :
    n = swapGasUnits swapCount swapType := by
  unfold swapGas at h
  unfold swapGasUnits
  by_cases hzero : swapCount = 0
  · rw [if_neg (not_not.2 hzero)] at h
    cases h
    rw [if_pos hzero]
  · rw [if_pos hzero] at h
    rw [if_neg hzero]
    split at h
    · rename_i huniswap
      rw [if_pos huniswap, ← Except.ok.inj h]
      unfold UNISWAP_GAS_OVERHEAD UNISWAP_GAS_PER_SWAP
      rw [wrap_of_lt (n := 150000 * swapCount) (by omega), wrap_of_lt (by omega)]
    · rename_i huniswap
      rw [if_neg huniswap]
      split at h
      · rw [← Except.ok.inj h]
        unfold TRADERJOE_GAS_OVERHEAD TRADERJOE_GAS_PER_SWAP
        rw [wrap_of_lt (n := 100000 * swapCount) (by omega), wrap_of_lt (by omega)]
      · cases h

theorem executionFee_ok (hp : p.Bounded) (hcount : swapCount ≤ 256)
    (h : executionFee p targetChain (gasDropoffFrom g) swapCount swapType = .ok n) :
    n = executionCharge p targetChain g swapCount swapType ∧ n < 2 ^ 160 := by
  unfold executionFee at h
  unfold executionCharge
  by_cases hsolana : targetChain = SOLANA_CHAIN_ID
  · rw [if_pos hsolana] at h ⊢
    split at h
    · cases h
    · have hlt := rent_lt p
      have hle := compounded_le (SOLANA_ATA_RENT_LAMPORTS * p.gasTokenPrice) hp.dropoff
      unfold MAX_MANTISSA at hle
      rw [← Except.ok.inj h, wrap_of_lt (by omega), compoundUnchecked_eq hp.dropoff (by omega)]
      refine ⟨rfl, ?_⟩
      have := Nat.div_le_self (compounded p.gasDropoffMargin
        (SOLANA_ATA_RENT_LAMPORTS * p.gasTokenPrice)) LAMPORTS_PER_SOL
      omega
  · rw [if_neg hsolana] at h ⊢
    obtain ⟨gas, hgas, hret⟩ := except_bind_ok.1 h
    have hpos : gasDropoffFrom g > 0 ↔ 0 < g := by
      unfold gasDropoffFrom
      omega
    have htotal : GAS_OVERHEAD + (if gasDropoffFrom g > 0 then DROPOFF_GAS_OVERHEAD else 0) + gas =
        totalGas g swapCount swapType := by
      rw [swapGas_ok hcount hgas, totalGas]
      simp only [hpos]
    have hlt := totalGas_lt g swapType hcount
    have hcost := gasCost_lt p g swapType hcount
    have hprice : p.gasPrice * 10 ^ 6 < 2 ^ 52 :=
      mul_lt_two_pow (FeeParams.getField_lt 32 32 p) (by decide : 10 ^ 6 < 2 ^ 20)
    have hwei := mul_lt_two_pow hlt hprice
    have hle := compounded_le
      (totalGas g swapCount swapType * (p.gasPrice * 10 ^ 6) * p.gasTokenPrice) hp.price
    unfold MAX_MANTISSA at hle
    simp only [htotal] at hret
    rw [← Except.ok.inj hret, gasPriceFrom, wrap_of_lt (n := totalGas g swapCount swapType) (by omega),
      wrap_of_lt (n := totalGas g swapCount swapType * _) (by omega), wrap_of_lt (by omega),
      compoundUnchecked_eq hp.price (by omega)]
    refine ⟨rfl, ?_⟩
    have := Nat.div_le_self (compounded p.gasPriceMargin
      (totalGas g swapCount swapType * (p.gasPrice * 10 ^ 6) * p.gasTokenPrice)) ONE_ETHER
    omega

/-- **The fee is the formula.** -/
theorem calcRelayingFee_ok (hp : p.Bounded) (hg : g < 2 ^ 32) (hcount : swapCount ≤ 256)
    (h : calcRelayingFee p targetChain g outputTokenType swapCount swapType = .ok n) :
    n = relayingFee p targetChain g swapCount swapType := by
  obtain ⟨_, -, h₁⟩ := except_bind_ok.1 h
  obtain ⟨forDropoff, hdropoff, h₂⟩ := except_bind_ok.1 h₁
  obtain ⟨forExecution, hexecution, h₃⟩ := except_bind_ok.1 h₂
  obtain ⟨rfl, hlt⟩ := dropoffFee_ok hp hg hdropoff
  obtain ⟨rfl, hlt'⟩ := executionFee_ok hp hcount hexecution
  have hbase : p.baseFee < 2 ^ 32 := FeeParams.getField_lt 0 32 p
  rw [← Except.ok.inj h₃, wrap_of_lt (n := p.baseFee + _) (by omega), wrap_of_lt (by omega)]
  rfl

end Exact

/-! ## The formula is monotone -/

/-- Parameters that are nowhere cheaper; the margins are compared at the same exponent. -/
structure FeeParams.Dearer (p p' : FeeParams) : Prop where
  baseFee : p.baseFee ≤ p'.baseFee
  gasPrice : p.gasPrice ≤ p'.gasPrice
  gasTokenPrice : p.gasTokenPrice ≤ p'.gasTokenPrice
  priceExponent : p.gasPriceMargin % 4 = p'.gasPriceMargin % 4
  priceMantissa : p.gasPriceMargin >>> EXPONENT_BITS ≤ p'.gasPriceMargin >>> EXPONENT_BITS
  dropoffExponent : p.gasDropoffMargin % 4 = p'.gasDropoffMargin % 4
  dropoffMantissa : p.gasDropoffMargin >>> EXPONENT_BITS ≤ p'.gasDropoffMargin >>> EXPONENT_BITS

section Monotone

variable {p p' : FeeParams} {percentage percentage' value value' g g' swapCount swapCount' : ℕ}

theorem compounded_mono (hexponent : percentage % 4 = percentage' % 4)
    (hmantissa : percentage >>> EXPONENT_BITS ≤ percentage' >>> EXPONENT_BITS)
    (hvalue : value ≤ value') : compounded percentage value ≤ compounded percentage' value' := by
  unfold compounded
  rw [hexponent]
  exact markup_mono hmantissa hvalue

theorem dropoffCharge_mono (hp : p.Dearer p') (hg : g ≤ g') :
    dropoffCharge p g ≤ dropoffCharge p' g' := by
  unfold dropoffCharge
  by_cases hpos : 0 < g
  · rw [if_pos hpos, if_pos (Nat.lt_of_lt_of_le hpos hg)]
    refine Nat.div_le_div_right (compounded_mono hp.dropoffExponent hp.dropoffMantissa ?_)
    exact Nat.mul_le_mul (Nat.mul_le_mul_right _ hg) hp.gasTokenPrice
  · rw [if_neg hpos]
    exact Nat.zero_le _

theorem swapGasUnits_mono (hcount : swapCount ≤ swapCount') (swapType : ℕ) :
    swapGasUnits swapCount swapType ≤ swapGasUnits swapCount' swapType := by
  unfold swapGasUnits
  by_cases hzero : swapCount = 0
  · rw [if_pos hzero]
    exact Nat.zero_le _
  · rw [if_neg hzero, if_neg (by omega : swapCount' ≠ 0)]
    split
    · exact Nat.add_le_add_left (Nat.mul_le_mul_left _ hcount) _
    · exact Nat.add_le_add_left (Nat.mul_le_mul_left _ hcount) _

theorem totalGas_mono (hg : g ≤ g') (hcount : swapCount ≤ swapCount') (swapType : ℕ) :
    totalGas g swapCount swapType ≤ totalGas g' swapCount' swapType := by
  unfold totalGas
  refine Nat.add_le_add (Nat.add_le_add_left ?_ _) (swapGasUnits_mono hcount swapType)
  by_cases hpos : 0 < g
  · rw [if_pos hpos, if_pos (Nat.lt_of_lt_of_le hpos hg)]
  · rw [if_neg hpos]
    exact Nat.zero_le _

theorem executionCharge_mono (hp : p.Dearer p') (hg : g ≤ g') (hcount : swapCount ≤ swapCount')
    (targetChain swapType : ℕ) : executionCharge p targetChain g swapCount swapType ≤
      executionCharge p' targetChain g' swapCount' swapType := by
  unfold executionCharge
  by_cases hsolana : targetChain = SOLANA_CHAIN_ID
  · rw [if_pos hsolana, if_pos hsolana]
    refine Nat.div_le_div_right (compounded_mono hp.dropoffExponent hp.dropoffMantissa ?_)
    exact Nat.mul_le_mul_left _ hp.gasTokenPrice
  · rw [if_neg hsolana, if_neg hsolana]
    refine Nat.div_le_div_right (compounded_mono hp.priceExponent hp.priceMantissa ?_)
    have hprice := Nat.mul_le_mul_right (10 ^ 6) hp.gasPrice
    exact Nat.mul_le_mul (Nat.mul_le_mul (totalGas_mono hg hcount swapType) hprice) hp.gasTokenPrice

/-- **A dearer relay never costs less.** -/
theorem relayingFee_mono (hp : p.Dearer p') (hg : g ≤ g') (hcount : swapCount ≤ swapCount')
    (targetChain swapType : ℕ) : relayingFee p targetChain g swapCount swapType ≤
      relayingFee p' targetChain g' swapCount' swapType :=
  Nat.add_le_add (Nat.add_le_add hp.baseFee (dropoffCharge_mono hp hg))
    (executionCharge_mono hp hg hcount targetChain swapType)

/-- **`_calcRelayingFee` is exact and monotone**: its result is the formula, and no other result for
dearer parameters, a larger dropoff or more pools is lower. -/
theorem calcRelayingFee_exact {targetChain swapType fee : ℕ} {outputTokenType : IoToken}
    (hp : p.Bounded) (hg : g < 2 ^ 32) (hcount : swapCount ≤ 256)
    (h : calcRelayingFee p targetChain g outputTokenType swapCount swapType = .ok fee) :
    fee = relayingFee p targetChain g swapCount swapType ∧
      ∀ (p' : FeeParams) (g' swapCount' fee' : ℕ) (outputTokenType' : IoToken), p'.Bounded →
        p.Dearer p' → g ≤ g' → g' < 2 ^ 32 → swapCount ≤ swapCount' → swapCount' ≤ 256 →
        calcRelayingFee p' targetChain g' outputTokenType' swapCount' swapType = .ok fee' →
        fee ≤ fee' := by
  have hfee := calcRelayingFee_ok hp hg hcount h
  refine ⟨hfee, fun p' g' swapCount' fee' outputTokenType' hp' hdearer hle hg' hcounts hcount' h' => ?_⟩
  rw [hfee, calcRelayingFee_ok hp' hg' hcount' h']
  exact relayingFee_mono hdearer hle hcounts targetChain swapType

end Monotone

namespace Sample

/-- A base fee of one dollar, a gas price of 30 gwei with a margin of 25 %, and ether at 3000 dollars
with a margin of 10 % on dropoffs. -/
def feeParams : FeeParams :=
  FeeParams.setBaseFee (FeeParams.setGasPrice (FeeParams.setGasPriceMargin
    (FeeParams.setMaxGasDropoff (FeeParams.setGasDropoffMargin
      (FeeParams.setGasTokenPrice 0 3000000000) (100 * 4)) 500000) (250 * 4)) 30000) 1000000

/-- A dropoff of 0.01 ether and a swap over 256 pools cost 4402.60 dollars, and a larger
dropoff no less. -/
theorem swap_relay_exact :
    calcRelayingFee feeParams 2 10000 .gas 256 SWAP_TYPE_UNISWAPV3 = .ok 4402600000 ∧
      relayingFee feeParams 2 10000 256 SWAP_TYPE_UNISWAPV3 = 4402600000 ∧
      ∀ g fee, 10000 ≤ g → g < 2 ^ 32 →
        calcRelayingFee feeParams 2 g .gas 256 SWAP_TYPE_UNISWAPV3 = .ok fee → 4402600000 ≤ fee := by
  have hbounded : feeParams.Bounded := ⟨by decide +kernel, by decide +kernel⟩
  have hfee : calcRelayingFee feeParams 2 10000 .gas 256 SWAP_TYPE_UNISWAPV3 = .ok 4402600000 := by
    decide +kernel
  obtain ⟨hexact, hmono⟩ := calcRelayingFee_exact hbounded (by decide) (by decide) hfee
  refine ⟨hfee, hexact.symm, fun g fee hle hg h => ?_⟩
  exact hmono feeParams g 256 fee .gas hbounded
    ⟨Nat.le_refl _, Nat.le_refl _, Nat.le_refl _, rfl, Nat.le_refl _, rfl, Nat.le_refl _⟩ hle hg
    (Nat.le_refl _) (Nat.le_refl _) h

end Sample

end SwapLayer.Evm
