import SwapLayer.Lib.Markup
import SwapLayer.Solana.Peers

/-!
# The relayer fee as a formula

`calculate_relayer_fee` works on `u32`, `u64` and `u128`: some of its sums saturate, some of its products
are checked, and a result of more than 48 bits is refused. This file says what it computes over the
natural numbers, and when.

Every cap lies far beyond 48 bits, so a value that met one is refused in the end: the price of the gas
fits into 64 bits only if the product that it is divided from fits into 128.

Results:
* `compound_ok`, `calculateGasDropoffCost_ok`, `calculateEvmGasCost_ok`: each function is its part of the
  formula, cut off at 64 bits.
* `calculateRelayerFee_ok`: the fee is the formula, cut off at 48 bits.
* `calculateRelayerFee_exact`: the same for parameters that were verified.
-/

namespace SwapLayer.Solana

open ByteString Program Messages Markup

/-! ## The formula -/

/-- What a gas dropoff costs, with its margin. -/
def dropoffCharge (params : RelayParams) (g : ℕ) : ℕ :=
  markup params.gasDropoffMargin (10 ^ 6) (1000 * g * params.nativeTokenPrice / 10 ^ 9)

/-- An EVM swap, whose gas is known. -/
def IsEvmSwap : SwapType → Prop
  | .uniswapV3 _ | .traderJoe _ => True
  | _ => False

/-- The gas of an EVM swap: one pool more than the path has elements. -/
def evmSwapGas : SwapType → ℕ
  | .uniswapV3 p => UNISWAP_GAS_OVERHEAD + UNISWAP_GAS_PER_SWAP * (p.path.length + 1)
  | .traderJoe p => TRADERJOE_GAS_OVERHEAD + TRADERJOE_GAS_PER_SWAP * (p.path.length + 1)
  | _ => 0

/-- The gas of the output swap, if there is one. -/
def evmOutputGas (token : OutputToken) : ℕ :=
  match token.swap with
  | none => 0
  | some swap => evmSwapGas swap.swapType

/-- The gas of a redemption. -/
def evmTotalGas (g : ℕ) (token : OutputToken) : ℕ :=
  EVM_GAS_OVERHEAD + (if 0 < g then DROPOFF_GAS_OVERHEAD else 0) + evmOutputGas token

/-- What the gas costs, with its margin. -/
def evmCharge (gasPrice gasPriceMargin totalGas nativeTokenPrice : ℕ) : ℕ :=
  markup gasPriceMargin (10 ^ 6) (totalGas * (gasPrice * 10 ^ 6) * nativeTokenPrice / 10 ^ 18)

/-- The relayer fee `F` over the natural numbers. -/
def exactRelayerFee (params : RelayParams) (gasPrice gasPriceMargin g : ℕ) (token : OutputToken) : ℕ :=
  params.baseFee + (if 0 < g then dropoffCharge params g else 0) +
    evmCharge gasPrice gasPriceMargin (evmTotalGas g token) params.nativeTokenPrice

/-- The types of the parameters hold them. -/
structure RelayParams.InRange (params : RelayParams) : Prop where
  baseFee : params.baseFee < 2 ^ 32
  nativeTokenPrice : params.nativeTokenPrice < 2 ^ 64
  maxGasDropoff : params.maxGasDropoff < 2 ^ 32
  gasDropoffMargin : params.gasDropoffMargin < 2 ^ 32
  execution : ∀ gasPrice gasPriceMargin, params.executionParams = .evm gasPrice gasPriceMargin →
    gasPrice < 2 ^ 32 ∧ gasPriceMargin < 2 ^ 32

/-- A relay that has a price: relaying is enabled, the dropoff is allowed, the target is an EVM chain,
and the output is USDC or comes from an EVM swap. -/
structure Priced (params : RelayParams) (g : ℕ) (token : OutputToken)
    (gasPrice gasPriceMargin : ℕ) : Prop where
  enabled : params.baseFee ≠ 2 ^ 32 - 1
  dropoff : g ≤ params.maxGasDropoff
  execution : params.executionParams = .evm gasPrice gasPriceMargin
  output : ∀ swap, token.swap = some swap → IsEvmSwap swap.swapType

/-! ## The parts -/

section Parts

variable {a b n c percentage base g price : ℕ}

theorem checked_ok : checked n a = some b ↔ a < n ∧ b = a := by
  unfold checked
  split
  · rename_i hlt
    exact ⟨fun h => ⟨hlt, (Option.some.inj h).symm⟩, fun h => congrArg some h.2.symm⟩
  · rename_i hnot
    exact ⟨nofun, fun h => absurd h.1 hnot⟩

/-- **A margin** of at most 100 %; the sum must fit into 64 bits. -/
theorem compound_ok (hbase : base < U64) : compound percentage base = some c ↔
    percentage ≤ MAX_BPS ∧ c = markup percentage (10 ^ 6) base ∧ c < U64 := by
  unfold compound
  split
  · rename_i hzero
    rw [hzero, markup_zero_rate]
    constructor
    · intro h
      cases h
      exact ⟨Nat.zero_le _, rfl, hbase⟩
    · rintro ⟨-, rfl, -⟩
      rfl
  · split
    · rename_i hgt
      exact ⟨nofun, fun h => absurd h.1 (Nat.not_le.2 hgt)⟩
    · rename_i hle
      have hmarkup : base * percentage / MAX_BPS + base = markup percentage (10 ^ 6) base :=
        Nat.add_comm ..
      rw [checked_ok, hmarkup]
      constructor
      · rintro ⟨hlt, rfl⟩
        exact ⟨Nat.le_of_not_lt hle, rfl, hlt⟩
      · rintro ⟨-, rfl, hlt⟩
        exact ⟨hlt, rfl⟩

theorem denormalizeGasPrice_eq (h : a < 2 ^ 32) : denormalizeGasPrice a = a * 10 ^ 6 := by
  unfold denormalizeGasPrice saturatingMul GAS_PRICE_SCALAR U64
  omega

theorem denormalizeGasDropoff_eq (h : a < 2 ^ 32) : denormalizeGasDropoff a = 1000 * a := by
  unfold denormalizeGasDropoff saturatingMul GAS_DROPOFF_SCALAR U64
  omega

/-- A quotient of 64 bits, marked up: the dividend had fewer than 128, so that it was not cut off. -/
theorem priced_ok {x : ℕ} (den : ℕ) (hden : 0 < den) (hle : den ≤ 2 ^ 64) :
    (do
      let scaled ← checked (2 ^ 128) x
      let cost ← checked U64 (scaled / den)
      compound percentage cost) = some c ↔
      percentage ≤ MAX_BPS ∧ c = markup percentage (10 ^ 6) (x / den) ∧ c < U64 := by
  constructor
  · intro h
    obtain ⟨scaled, hscaled, h₁⟩ := Option.bind_eq_some_iff.1 h
    obtain ⟨-, rfl⟩ := checked_ok.1 hscaled
    obtain ⟨cost, hcost, h₂⟩ := Option.bind_eq_some_iff.1 h₁
    obtain ⟨hlt, rfl⟩ := checked_ok.1 hcost
    exact (compound_ok hlt).1 h₂
  · rintro ⟨hpercentage, rfl, hlt⟩
    have hcost : x / den < U64 := lt_of_markup_lt hlt
    have hx : x < 2 ^ 128 := by
      calc x < 2 ^ 64 * den := Nat.lt_mul_of_div_lt hcost hden
        _ ≤ 2 ^ 64 * 2 ^ 64 := Nat.mul_le_mul_left _ hle
        _ = 2 ^ 128 := (Nat.pow_add 2 64 64).symm
    exact Option.bind_eq_some_iff.2 ⟨x, checked_ok.2 ⟨hx, rfl⟩, Option.bind_eq_some_iff.2
      ⟨x / den, checked_ok.2 ⟨hcost, rfl⟩, (compound_ok hcost).2 ⟨hpercentage, rfl, hlt⟩⟩⟩

theorem calculateGasDropoffCost_ok {params : RelayParams} (hg : g < 2 ^ 32) :
    calculateGasDropoffCost g params.gasDropoffMargin params.nativeTokenPrice = some c ↔
      params.gasDropoffMargin ≤ MAX_BPS ∧ c = dropoffCharge params g ∧ c < U64 := by
  unfold calculateGasDropoffCost
  rw [denormalizeGasDropoff_eq hg]
  exact priced_ok ONE_SOL (by decide) (by decide)

/-- The first product always fits: some 280000 units of gas and up to 2^32 pools. -/
theorem calculateEvmGasCost_ok {totalGas : ℕ} (hprice : price < 2 ^ 32) (hgas : totalGas < 2 ^ 50) :
    calculateEvmGasCost price percentage totalGas n = some c ↔
      percentage ≤ MAX_BPS ∧ c = evmCharge price percentage totalGas n ∧ c < U64 := by
  have hwei : totalGas * (price * 10 ^ 6) < 2 ^ 128 := by
    calc totalGas * (price * 10 ^ 6) < 2 ^ (50 + 52) :=
          mul_lt_two_pow hgas (mul_lt_two_pow (m := 32) (n := 20) hprice (by decide))
      _ ≤ 2 ^ 128 := by decide
  have hwhole : checked (2 ^ 128) (totalGas * denormalizeGasPrice price) =
      some (totalGas * (price * 10 ^ 6)) := by
    rw [denormalizeGasPrice_eq hprice]
    exact checked_ok.2 ⟨hwei, rfl⟩
  unfold calculateEvmGasCost
  rw [hwhole, Option.bind_eq_bind, Option.bind_some]
  exact priced_ok ONE_ETHER (by decide) (by decide)

/-- Sums saturate beyond 48 bits only. -/
theorem saturatingAdd_lt : saturatingAdd (saturatingAdd a b) c < 256 ^ 6 ↔ a + b + c < 2 ^ 48 := by
  unfold saturatingAdd U64
  omega

theorem saturatingAdd_eq (h : a + b + c < U64) :
    saturatingAdd (saturatingAdd a b) c = a + b + c := by
  unfold saturatingAdd
  omega

theorem okOr_ok {α : Type} {o : Option α} {e : SwapLayerError} {x : α} :
    okOr o e = .ok x ↔ o = some x := by
  cases o with
  | none => exact ⟨nofun, nofun⟩
  | some y => exact ⟨fun h => congrArg some (Except.ok.inj h), fun h => congrArg _ (Option.some.inj h)⟩

/-- Two checks, of a product and of its sum with something: the second includes the first. -/
theorem checked_sum_ok : (do
    let swaps ← checked n b
    checked n (a + swaps)) = some c ↔ a + b < n ∧ c = a + b := by
  constructor
  · intro h
    obtain ⟨swaps, hswaps, hsum⟩ := Option.bind_eq_some_iff.1 h
    obtain ⟨-, rfl⟩ := checked_ok.1 hswaps
    exact checked_ok.1 hsum
  · rintro ⟨hlt, rfl⟩
    exact Option.bind_eq_some_iff.2
      ⟨b, checked_ok.2 ⟨Nat.lt_of_le_of_lt (Nat.le_add_left b a) hlt, rfl⟩, checked_ok.2 ⟨hlt, rfl⟩⟩

theorem poolsGas_lt {overhead perSwap hops : ℕ} (hoverhead : overhead ≤ 30000)
    (hperSwap : perSwap ≤ 120000) (hhops : hops < 2 ^ 32) :
    overhead + perSwap * (hops + 1) < 2 ^ 49 := by
  have hpools : perSwap * (hops + 1) ≤ 120000 * 2 ^ 32 := Nat.mul_le_mul hperSwap hhops
  omega

theorem evmSwapGas_lt {t : SwapType} (hpath : t.hops < 2 ^ 32) : evmSwapGas t < 2 ^ 49 := by
  cases t with
  | invalid => exact Nat.two_pow_pos 49
  | jupiterV6 p => exact Nat.two_pow_pos 49
  | uniswapV3 p => exact poolsGas_lt (by decide) (by decide) hpath
  | traderJoe p => exact poolsGas_lt (by decide) (by decide) hpath

/-- **Gas per pool**: no sum or product is cut off. -/
theorem calculateEvmSwapOverhead_ok {t : SwapType} (hpath : t.hops < 2 ^ 32) :
    calculateEvmSwapOverhead t = some c ↔ IsEvmSwap t ∧ c = evmSwapGas t := by
  have hlt : evmSwapGas t < U64 := Nat.lt_trans (evmSwapGas_lt hpath) (by decide)
  cases t with
  | invalid => exact ⟨nofun, fun h => h.1.elim⟩
  | jupiterV6 p => exact ⟨nofun, fun h => h.1.elim⟩
  | uniswapV3 p => exact checked_sum_ok.trans ⟨fun h => ⟨trivial, h.2⟩, fun h => ⟨hlt, h.2⟩⟩
  | traderJoe p => exact checked_sum_ok.trans ⟨fun h => ⟨trivial, h.2⟩, fun h => ⟨hlt, h.2⟩⟩

/-- The paths of a token are shorter than what an address space holds. -/
def ShortPath (token : OutputToken) : Prop :=
  ∀ swap, token.swap = some swap → swap.swapType.hops < 2 ^ 32

theorem swapOverhead_ok {token : OutputToken} (hpath : ShortPath token) :
    swapOverhead token = .ok c ↔
      (∀ swap, token.swap = some swap → IsEvmSwap swap.swapType) ∧ c = evmOutputGas token := by
  have hswap : ∀ swap, token.swap = some swap →
      (okOr (calculateEvmSwapOverhead swap.swapType) .evmGasCalculationFailed = .ok c ↔
        (∀ swap, token.swap = some swap → IsEvmSwap swap.swapType) ∧ c = evmOutputGas token) := by
    intro swap hs
    rw [okOr_ok, calculateEvmSwapOverhead_ok (hpath swap hs), evmOutputGas, hs]
    simp only [Option.some.injEq, forall_eq']
  cases token with
  | usdc => exact ⟨fun h => ⟨nofun, (Except.ok.inj h).symm⟩, fun h => congrArg _ h.2.symm⟩
  | gas swap => exact hswap swap rfl
  | other address swap => exact hswap swap rfl

theorem evmTotalGas_lt {token : OutputToken} (hpath : ShortPath token) :
    evmTotalGas g token < 2 ^ 50 := by
  have houtput : evmOutputGas token < 2 ^ 49 := by
    unfold evmOutputGas
    split
    · exact Nat.two_pow_pos 49
    · rename_i swap hswap
      exact evmSwapGas_lt (hpath swap hswap)
  unfold evmTotalGas EVM_GAS_OVERHEAD DROPOFF_GAS_OVERHEAD
  split <;> omega

end Parts

/-! ## The fee -/

section Fee

variable {params : RelayParams} {g fee : ℕ} {token : OutputToken}

theorem dropoffFee_ok (hrange : params.InRange) (hg : g < 2 ^ 32) : dropoffFee params g = .ok fee ↔
    (0 < g → g ≤ params.maxGasDropoff ∧ params.gasDropoffMargin ≤ MAX_BPS ∧
      dropoffCharge params g < U64) ∧
    fee = saturatingAdd params.baseFee (if 0 < g then dropoffCharge params g else 0) := by
  unfold dropoffFee
  by_cases hpos : 0 < g
  · rw [if_pos hpos, if_pos hpos]
    constructor
    · intro h
      obtain ⟨_, hmax, h₁⟩ := except_bind_ok.1 h
      obtain ⟨cost, hcost, h₂⟩ := except_bind_ok.1 h₁
      obtain ⟨hmargin, rfl, hlt⟩ := (calculateGasDropoffCost_ok hg).1 (okOr_ok.1 hcost)
      exact ⟨fun _ => ⟨ensure_ok.1 hmax, hmargin, hlt⟩, (except_pure_ok.1 h₂).symm⟩
    · rintro ⟨h, rfl⟩
      obtain ⟨hmax, hmargin, hlt⟩ := h hpos
      have hcost := (calculateGasDropoffCost_ok hg).2 ⟨hmargin, rfl, hlt⟩
      exact except_bind_ok.2 ⟨(), ensure_ok.2 hmax, except_bind_ok.2 ⟨_, okOr_ok.2 hcost, rfl⟩⟩
  · have hbase : saturatingAdd params.baseFee 0 = params.baseFee := by
      have := hrange.baseFee
      unfold saturatingAdd U64
      omega
    rw [if_neg hpos, if_neg hpos, hbase]
    exact ⟨fun h => ⟨fun h => absurd h hpos, (Except.ok.inj h).symm⟩, fun h => congrArg _ h.2.symm⟩

theorem totalGas_eq (hpath : ShortPath token) :
    saturatingAdd (saturatingAdd EVM_GAS_OVERHEAD (if 0 < g then DROPOFF_GAS_OVERHEAD else 0))
      (evmOutputGas token) = evmTotalGas g token :=
  saturatingAdd_eq (Nat.lt_trans (evmTotalGas_lt hpath) (by decide))

/-- **When there is a fee, and which**: all of it fits into 48 bits, and so into what every step of the
computation has for it. -/
theorem calculateRelayerFee_ok (hrange : params.InRange) (hg : g < 2 ^ 32) (hpath : ShortPath token) :
    calculateRelayerFee params g token = .ok fee ↔
      ∃ gasPrice gasPriceMargin, Priced params g token gasPrice gasPriceMargin ∧
        (0 < g → params.gasDropoffMargin ≤ MAX_BPS) ∧ gasPriceMargin ≤ MAX_BPS ∧
        exactRelayerFee params gasPrice gasPriceMargin g token < 2 ^ 48 ∧
        fee = exactRelayerFee params gasPrice gasPriceMargin g token := by
  unfold calculateRelayerFee
  constructor
  · intro h
    obtain ⟨_, henabled, h₁⟩ := except_bind_ok.1 h
    obtain ⟨base, hbase, h₂⟩ := except_bind_ok.1 h₁
    obtain ⟨hdropoff, rfl⟩ := (dropoffFee_ok hrange hg).1 hbase
    split at h₂
    · rename_i gasPrice gasPriceMargin hexecution
      obtain ⟨overhead, hoverhead, h₃⟩ := except_bind_ok.1 h₂
      obtain ⟨houtput, rfl⟩ := (swapOverhead_ok hpath).1 hoverhead
      dsimp only at h₃
      rw [totalGas_eq hpath] at h₃
      obtain ⟨cost, hcost, h₄⟩ := except_bind_ok.1 h₃
      obtain ⟨hmargin, rfl, -⟩ := (calculateEvmGasCost_ok (hrange.execution _ _ hexecution).1
        (evmTotalGas_lt hpath)).1 (okOr_ok.1 hcost)
      obtain ⟨_, hfits, h₅⟩ := except_bind_ok.1 h₄
      have hlt := saturatingAdd_lt.1 (ensure_ok.1 hfits)
      have hmax : g ≤ params.maxGasDropoff := by
        rcases Nat.eq_zero_or_pos g with rfl | hpos
        · exact Nat.zero_le _
        · exact (hdropoff hpos).1
      refine ⟨gasPrice, gasPriceMargin, ⟨ensure_ok.1 henabled, hmax, hexecution, houtput⟩,
        fun hpos => (hdropoff hpos).2.1, hmargin, hlt, ?_⟩
      exact (except_pure_ok.1 h₅).symm.trans
        (saturatingAdd_eq (Nat.lt_trans hlt (by decide)))
    · cases h₂
  · rintro ⟨gasPrice, gasPriceMargin, hpriced, hdropoffMargin, hmargin, hlt, rfl⟩
    -- every summand is below the sum, and so fits
    have hsum : params.baseFee + (if 0 < g then dropoffCharge params g else 0) +
        evmCharge gasPrice gasPriceMargin (evmTotalGas g token) params.nativeTokenPrice < 2 ^ 48 := hlt
    have hbase := (dropoffFee_ok hrange hg).2 ⟨fun hpos => ⟨hpriced.dropoff, hdropoffMargin hpos, by
      rw [if_pos hpos] at hsum
      unfold U64
      omega⟩, rfl⟩
    have hevm : evmCharge gasPrice gasPriceMargin (evmTotalGas g token) params.nativeTokenPrice <
        U64 := by
      unfold U64
      omega
    have hcost := (calculateEvmGasCost_ok (hrange.execution _ _ hpriced.execution).1
      (evmTotalGas_lt hpath)).2 ⟨hmargin, rfl, hevm⟩
    refine except_bind_ok.2 ⟨(), ensure_ok.2 hpriced.enabled, except_bind_ok.2 ⟨_, hbase, ?_⟩⟩
    rw [hpriced.execution]
    refine except_bind_ok.2 ⟨_, (swapOverhead_ok hpath).2 ⟨hpriced.output, rfl⟩, ?_⟩
    dsimp only
    rw [totalGas_eq hpath]
    refine except_bind_ok.2 ⟨_, okOr_ok.2 hcost, except_bind_ok.2
      ⟨(), ensure_ok.2 (saturatingAdd_lt.2 hsum), ?_⟩⟩
    exact except_pure_ok.2 (saturatingAdd_eq (Nat.lt_trans hsum (by decide)))

/-- Verified margins are at most 100 %. -/
theorem verifyRelayParams_margins (h : verifyRelayParams params = .ok ()) :
    params.gasDropoffMargin ≤ MAX_BPS ∧
      ∀ gasPrice gasPriceMargin, params.executionParams = .evm gasPrice gasPriceMargin →
        gasPriceMargin ≤ MAX_BPS := by
  obtain ⟨_, -, h₁⟩ := except_bind_ok.1 h
  obtain ⟨_, -, h₂⟩ := except_bind_ok.1 h₁
  obtain ⟨_, hmargin, h₃⟩ := except_bind_ok.1 h₂
  refine ⟨ensure_ok.1 hmargin, fun gasPrice gasPriceMargin hexecution => ?_⟩
  rw [hexecution] at h₃
  obtain ⟨_, -, h₄⟩ := except_bind_ok.1 h₃
  exact ensure_ok.1 h₄

/-- **The fee of verified parameters is exact**: where the relay has a price of at most 48 bits, that is
the fee, and everywhere else there is none. -/
theorem calculateRelayerFee_exact (params : RelayParams) (hrange : params.InRange)
    (hverified : verifyRelayParams params = .ok ()) (g : ℕ) (hg : g < 2 ^ 32) (token : OutputToken)
    (hpath : ∀ swap, token.swap = some swap → swap.swapType.hops ≤ 255) :
    (∀ gasPrice gasPriceMargin, Priced params g token gasPrice gasPriceMargin →
      exactRelayerFee params gasPrice gasPriceMargin g token < 2 ^ 48 →
      calculateRelayerFee params g token =
        .ok (exactRelayerFee params gasPrice gasPriceMargin g token)) ∧
    ((¬∃ gasPrice gasPriceMargin, Priced params g token gasPrice gasPriceMargin ∧
        exactRelayerFee params gasPrice gasPriceMargin g token < 2 ^ 48) →
      ∃ e, calculateRelayerFee params g token = .error e) := by
  have hshort : ShortPath token := fun swap hs => Nat.lt_of_le_of_lt (hpath swap hs) (by decide)
  obtain ⟨hdropoffMargin, hmargin⟩ := verifyRelayParams_margins hverified
  constructor
  · intro gasPrice gasPriceMargin hpriced hlt
    exact (calculateRelayerFee_ok hrange hg hshort).2 ⟨gasPrice, gasPriceMargin, hpriced,
      fun _ => hdropoffMargin, hmargin _ _ hpriced.execution, hlt, rfl⟩
  · intro hnot
    cases h : calculateRelayerFee params g token with
    | error e => exact ⟨e, rfl⟩
    | ok fee =>
      obtain ⟨gasPrice, gasPriceMargin, hpriced, -, -, hlt, -⟩ :=
        (calculateRelayerFee_ok hrange hg hshort).1 h
      exact absurd ⟨gasPrice, gasPriceMargin, hpriced, hlt⟩ hnot

end Fee

namespace Sample

/-- The parameters of the program's tests: 1.5 USDC, a token of 200 USDC, margins of 50 % and 25 %. -/
def testRelayParams : RelayParams :=
  ⟨1500000, 200000000, 500000, 500000, .evm 10000 250000, ⟨10, 30⟩⟩

theorem testRelayParams_inRange : testRelayParams.InRange where
  baseFee := by decide
  nativeTokenPrice := by decide
  maxGasDropoff := by decide
  gasDropoffMargin := by decide
  execution := by
    rintro _ _ ⟨⟩
    decide

theorem relayer_fee_exact :
    calculateRelayerFee testRelayParams 50000 .usdc = .ok 17280000 ∧
      ∃ e, calculateRelayerFee testRelayParams 500001 .usdc = .error e :=
  ⟨(calculateRelayerFee_exact testRelayParams testRelayParams_inRange rfl 50000 (by decide) .usdc
      nofun).1 10000 250000 ⟨by decide, by decide, rfl, nofun⟩ (by decide),
    (calculateRelayerFee_exact testRelayParams testRelayParams_inRange rfl 500001 (by decide) .usdc
      nofun).2 fun ⟨_, _, h, _⟩ => absurd h.dropoff (by decide)⟩

end Sample

end SwapLayer.Solana
