import SwapLayer.Evm.Initiate

/-!
# `initiate` and the contract's own funds

The contract is not meant to hold funds between calls, but leftovers may be there. This module
asks whether a call of `initiate` leaves what the contract holds of every asset as it was: what
came from the caller went to the router, to the liquidity layer, into the wormhole fee or back.

It does, with two exceptions (`SwapHarmless`), both through Uniswap. In a swap from USDC to USDC the
balance difference that `_uniswapSwap` measures mixes both sides of the swap: exact-in, the input
stays behind in the contract; exact-out, the refund is too large by the output, which is paid from
leftovers. And a router address without code takes nothing and pays nothing: exact-in, the input
stays behind again; exact-out, all of it is refunded and the order is paid from leftovers.

Results:
* `Initiated.moves_usdc`, `Initiated.moves_swapped`: all that flows in and out during a call.
* `initiate_conserves_iff`: the exact condition, for every successful call.
* `leftovers_drained`: a call that takes leftover USDC out of the contract.
-/

namespace SwapLayer.Evm

open ByteString Program Ledger

section Conservation

variable {d : Deployment} {x : Externals} {msg : Msg d} {w w' : World} {targetChain : ℕ}
  {recipient : Bytes32} {params : Bytes}

/-- The holdings of the contract did not change. -/
def Conserves (w w' : World) : Prop := ∀ a, w'.held a = w.held a

namespace Initiated

variable (i : Initiated d x msg targetChain recipient params w)

/-- **The condition** on a Uniswap swap of the input. Where there is no router, exact-in there is no
input, and exact-out the order is empty. Where USDC is swapped to USDC, exact-in there is no input,
and exact-out there is no output, or the router takes the whole input and less than the output. -/
def SwapHarmless : Prop :=
  i.mos.input.mode ≠ .usdc → (inputSwap d i.mos params).swapType = SWAP_TYPE_UNISWAPV3 →
    if x.hasCode d.uniswapRouter = false then
      if i.mos.isExactIn then inputAmount d x msg i.mos params = 0 else i.minUsdcOut % 2 ^ 64 = 0
    else inputToken d i.mos params = d.usdc →
      if i.mos.isExactIn then inputAmount d x msg i.mos params = 0
      else ∀ c r, uniswapRequest d false (inputAmount d x msg i.mos params) i.minUsdcOut
          (inputSwap d i.mos params).path = .ok c → uniswapReply d x c = .ok r →
        i.minUsdcOut = 0 ∨
          (r.pulled < i.minUsdcOut ∧ r.pulled = inputAmount d x msg i.mos params)

end Initiated

/-- A swap of different tokens, or through TraderJoe, conserves everything. -/
theorem Initiated.conserves_of_measured (i : Initiated d x msg targetChain recipient params w)
    (hcap : x.supply d.usdc < 2 ^ 64) (hmode : i.mos.input.mode ≠ .usdc)
    (hr : RouterHonours d x (inputSwap d i.mos params).swapType)
    (hne : ¬((inputSwap d i.mos params).swapType = SWAP_TYPE_UNISWAPV3 ∧
      inputToken d i.mos params = d.usdc)) : Conserves w i.result := by
  obtain ⟨r, held, hex, -, hpaid, -, hamount, hmoves⟩ := i.moves_swapped hcap hmode fun _ => hr
  have hlim := i.withinLimits_of_honours hr hex
  unfold Initiated.WithinLimits at hlim
  refine hmoves.conserved_iff.2 fun a => ?_
  cases hdir : i.mos.isExactIn with
  | true =>
    rw [hdir] at hlim hamount
    simp only [reduceIte, measured, if_neg hne] at hamount hlim ⊢
    rw [refundOf, if_pos rfl, hlim.1, hamount, Nat.mod_eq_of_lt hpaid, Nat.add_zero]
  | false =>
    rw [hdir] at hlim hamount
    simp only [reduceIte, Bool.false_eq_true, measured, if_neg hne] at hamount hlim ⊢
    rw [refundOf, if_neg Bool.false_ne_true, Nat.add_sub_of_le hlim.1, hamount, ← hlim.2,
      Nat.mod_eq_of_lt hpaid]

/-- The measure of a swap through a router that is not there is zero. -/
theorem measured_zero (swapType : ℕ) (isExactIn : Bool) (tokenIn tokenOut : Address) :
    measured swapType isExactIn tokenIn tokenOut ⟨0, 0⟩ = 0 := by
  unfold measured
  simp only [uncheckedSub_self, ite_self]

/-- **Through a router that is not there** the input is not spent, and the order is paid from
leftovers. -/
theorem Initiated.conserves_iff_of_absent (i : Initiated d x msg targetChain recipient params w)
    (hcap : x.supply d.usdc < 2 ^ 64) (hmode : i.mos.input.mode ≠ .usdc)
    (hnone : ¬RouterDeployed d x (inputSwap d i.mos params).swapType) :
    (inputSwap d i.mos params).swapType ≠ SWAP_TYPE_TRADERJOE ∧ (Conserves w i.result ↔
      if i.mos.isExactIn then inputAmount d x msg i.mos params = 0
      else i.minUsdcOut % 2 ^ 64 = 0) := by
  obtain ⟨r, held, hex, hjoe, -, -, hamount, hmoves⟩ :=
    i.moves_swapped hcap hmode fun hdep => absurd hdep hnone
  obtain rfl := execution_absent hnone hex
  simp only [measured_zero, Nat.zero_add] at hamount hmoves
  have hne : (inputSwap d i.mos params).swapType ≠ SWAP_TYPE_TRADERJOE := fun ht =>
    hnone ⟨fun hu => absurd (ht.symm.trans hu) (by decide), hjoe⟩
  refine ⟨hne, ?_⟩
  rw [Conserves, hmoves.conserved_iff]
  cases hdir : i.mos.isExactIn with
  | true =>
    rw [hdir] at hamount
    simp only [reduceIte, Nat.zero_mod] at hamount ⊢
    simp only [refundOf, reduceIte, hamount, Pi.single_zero, add_zero]
    refine ⟨fun h => ?_, fun h a => by rw [h, Pi.single_zero]⟩
    have := h (.erc20 (inputToken d i.mos params))
    rwa [single_self] at this
  | false =>
    rw [hdir] at hamount
    simp only [Bool.false_eq_true, reduceIte] at hamount ⊢
    simp only [refundOf, Bool.false_eq_true, reduceIte, Nat.sub_zero, hamount, Pi.single_zero,
      add_zero]
    refine ⟨fun h => ?_, fun h a => by rw [h, Pi.single_zero, add_zero]⟩
    have := h (.erc20 d.usdc)
    simp only [Pi.add_apply, single_self] at this
    omega

/-- The refund of an exact-out swap measured on the wrong side is right only by accident. -/
theorem mixed_refund {paid pulled amount before cap : ℕ} (hle : pulled ≤ amount)
    (hpaid : paid < 2 ^ 64) (hcap : cap < 2 ^ 64) (hin : before + amount ≤ cap) :
    amount = pulled + (amount - uncheckedSub pulled paid) ↔
      paid = 0 ∨ (pulled < paid ∧ pulled = amount) := by
  rcases Nat.lt_or_ge pulled paid with hlt | hge
  · rw [uncheckedSub_of_lt hlt (by omega)]
    omega
  · rw [uncheckedSub_of_le hge (by omega)]
    omega

/-- **A Uniswap swap from USDC to USDC** conserves the USDC iff the two sides that the balance
difference mixes happen to cancel. -/
theorem Initiated.conserves_iff_of_mixed (i : Initiated d x msg targetChain recipient params w)
    (hcap : x.supply d.usdc < 2 ^ 64) (hmode : i.mos.input.mode ≠ .usdc)
    (hr : RouterHonours d x (inputSwap d i.mos params).swapType)
    (htype : (inputSwap d i.mos params).swapType = SWAP_TYPE_UNISWAPV3)
    (hcode : x.hasCode d.uniswapRouter = true) (htoken : inputToken d i.mos params = d.usdc) :
    Conserves w i.result ↔ i.SwapHarmless := by
  obtain ⟨r, held, hex, -, hpaid, hin, hamount, hmoves⟩ := i.moves_swapped hcap hmode fun _ => hr
  have hlim := i.withinLimits_of_honours hr hex
  unfold Initiated.WithinLimits at hlim
  have hsum : Conserves w i.result ↔ inputAmount d x msg i.mos params + r.paid =
      r.pulled + refundOf i.mos.isExactIn (inputAmount d x msg i.mos params)
        (measured SWAP_TYPE_UNISWAPV3 i.mos.isExactIn d.usdc d.usdc r) + i.usdcAmount := by
    rw [Conserves, hmoves.conserved_iff, htoken, htype]
    refine ⟨fun hall => ?_, fun heq a => ?_⟩
    · simpa only [Pi.add_apply, single_self] using hall (.erc20 d.usdc)
    · rw [← Pi.single_add, ← Pi.single_add, heq]
  have hown := hmoves (.erc20 d.usdc)
  simp only [htoken, Pi.add_apply, single_self] at hown hin
  simp only [htoken, htype] at hamount hown
  simp only [inputExecution, htype, i.wrap_minUsdcOut] at hex
  rw [hsum]
  unfold Initiated.SwapHarmless
  rw [if_neg (by rw [hcode]; simp)]
  cases hdir : i.mos.isExactIn with
  | true =>
    simp only [hdir, measured, reduceIte, and_self, refundOf, Nat.add_zero] at hlim hamount hown ⊢
    have hdiff := mixed_amount hcap hin hlim.1 hpaid hown hamount
    have hpulled := hlim.1
    exact ⟨fun heq _ _ _ => by omega, fun hz => by have := hz hmode htype htoken; omega⟩
  | false =>
    simp only [hdir, measured, reduceIte, and_self, refundOf, Bool.false_eq_true] at hlim hamount hown hex ⊢
    rw [← hlim.2] at hamount hex
    rw [Nat.mod_eq_of_lt hpaid] at hamount
    obtain ⟨c, hc, hreply⟩ := execution_uniswap hex
    have harith := mixed_refund hlim.1 hpaid hcap hin
    rw [hamount, ← hlim.2]
    constructor
    · intro heq _ _ _ c' r' hc' hr'
      rw [hc] at hc'
      cases hc'
      rw [hreply] at hr'
      cases hr'
      exact harith.1 (by omega)
    · intro hz
      have := harith.2 (hz hmode htype htoken c r hc hreply)
      omega

theorem Initiated.conserves_iff_of_swapped (i : Initiated d x msg targetChain recipient params w)
    (hcap : x.supply d.usdc < 2 ^ 64) (hmode : i.mos.input.mode ≠ .usdc)
    (hr : RouterDeployed d x (inputSwap d i.mos params).swapType →
      RouterHonours d x (inputSwap d i.mos params).swapType) :
    Conserves w i.result ↔ i.SwapHarmless := by
  by_cases hdep : RouterDeployed d x (inputSwap d i.mos params).swapType
  · have hcode (htype : (inputSwap d i.mos params).swapType = SWAP_TYPE_UNISWAPV3) :
        ¬x.hasCode d.uniswapRouter = false := by
      rw [hdep.1 htype]
      simp
    by_cases hmixed : (inputSwap d i.mos params).swapType = SWAP_TYPE_UNISWAPV3 ∧
        inputToken d i.mos params = d.usdc
    · exact i.conserves_iff_of_mixed hcap hmode (hr hdep) hmixed.1 (hdep.1 hmixed.1) hmixed.2
    · refine ⟨fun _ _ htype => ?_, fun _ => i.conserves_of_measured hcap hmode (hr hdep) hmixed⟩
      rw [if_neg (hcode htype)]
      exact fun htoken => absurd ⟨htype, htoken⟩ hmixed
  · obtain ⟨hne, hiff⟩ := i.conserves_iff_of_absent hcap hmode hdep
    have hcode : x.hasCode d.uniswapRouter = false := Bool.eq_false_iff.2 fun hsome =>
      hdep ⟨fun _ => hsome, fun ht => absurd ht hne⟩
    have htype : (inputSwap d i.mos params).swapType = SWAP_TYPE_UNISWAPV3 := by
      by_contra hu
      exact hdep ⟨fun h => absurd h hu, fun h => absurd h hne⟩
    rw [hiff]
    unfold Initiated.SwapHarmless
    rw [if_pos hcode]
    exact ⟨fun h _ _ => h, fun h => h hmode htype⟩

/-- **When `initiate` conserves the contract's funds.** For every successful call whose router, if
it is there, honours its limits, the contract holds of every asset what it held before, exactly when
a Uniswap swap of the input is harmless. -/
theorem initiate_conserves_iff {ret : Bytes} (hcap : x.supply d.usdc < 2 ^ 64)
    (hr : ∀ mos, parseParamBaseStructure targetChain params = .ok mos → mos.input.mode ≠ .usdc →
      RouterDeployed d x (inputSwap d mos params).swapType →
        RouterHonours d x (inputSwap d mos params).swapType)
    (h : initiate d x msg targetChain recipient params w = .ok (ret, w')) :
    ∃ i : Initiated d x msg targetChain recipient params w,
      w' = i.result ∧ (Conserves w w' ↔ i.SwapHarmless) := by
  obtain ⟨i, rfl⟩ := initiate_ok h
  refine ⟨i, rfl, ?_⟩
  by_cases hmode : i.mos.input.mode = .usdc
  · have hmoves := (i.moves_usdc hcap hmode).2
    exact ⟨fun _ hne => absurd hmode hne, fun _ => hmoves.conserved_iff.2 fun _ => rfl⟩
  · exact i.conserves_iff_of_swapped hcap hmode (hr i.mos i.parsed hmode)

end Conservation

namespace Sample

/-- Slow, direct, exact-out: at most 10 units of USDC through Uniswap to 5 units of USDC. -/
def usdcThroughUniswapExactOut : Bytes :=
  [0, 0, 0, 2, 0] ++ usdc.toList ++ toBE 16 10 ++ [0] ++ toBE 4 0 ++ toBE 16 5 ++ [1] ++
    toBE 3 500 ++ [1] ++ wnative.toList ++ toBE 3 3000 ++ [0]

/-- Leftovers of 1000 units of USDC. -/
def leftovers : Asset → ℕ := Pi.single (.erc20 usdc) 1000

/-- The router takes 7 of the 10 units; the caller gets 8 back, and the contract loses the 5 units
of the order. -/
theorem leftovers_drained :
    (∀ swapType, RouterHonours deployment (externals 0 3) swapType) ∧
    (externals 0 3).supply usdc < 2 ^ 64 ∧
    ∃ (ret : Bytes) (w' : World),
      initiate deployment (externals 0 3) (msg 0) 3 (toUniversalAddress recipient)
        usdcThroughUniswapExactOut (world leftovers) = .ok (ret, w') ∧
      w'.payouts = [⟨(msg 0).sender, .erc20 usdc, 8⟩] ∧
      (world leftovers).held (.erc20 usdc) = 1000 ∧ w'.held (.erc20 usdc) = 995 ∧
      ¬Conserves (world leftovers) w' := by
  refine ⟨externals_honour 0 3, by decide, ?_⟩
  have hrun : ((initiate deployment (externals 0 3) (msg 0) 3 (toUniversalAddress recipient)
      usdcThroughUniswapExactOut (world leftovers)).toOption.map fun r =>
        (r.2.payouts, r.2.held (.erc20 usdc))) =
      some ([⟨(msg 0).sender, .erc20 usdc, 8⟩], 995) := by decide +kernel
  obtain ⟨⟨ret, w'⟩, hok, hpair⟩ := Option.map_eq_some_iff.1 hrun
  have hpayouts : w'.payouts = _ := congrArg Prod.fst hpair
  have hheld : w'.held (.erc20 usdc) = 995 := congrArg Prod.snd hpair
  have hbefore : (world leftovers).held (.erc20 usdc) = 1000 := by decide
  refine ⟨ret, w', toOption_eq_some.1 hok, hpayouts, hbefore, hheld, fun hc => ?_⟩
  have := hc (.erc20 usdc)
  omega

/-- Slow, direct, exact-out: at most the attached ETH through Uniswap to 5 units of USDC. -/
def gasThroughUniswapExactOut : Bytes :=
  [0, 0, 0, 1] ++ toBE 4 0 ++ toBE 16 5 ++ [1] ++ toBE 3 500 ++ [0] ++ [0]

/-- With ETH as the input the same leftovers stay where they are. -/
theorem leftovers_conserved :
    ∃ (ret : Bytes) (w' : World),
      initiate deployment (externals 0 3) (msg 1000) 3 (toUniversalAddress recipient)
        gasThroughUniswapExactOut (world leftovers) = .ok (ret, w') ∧
      Conserves (world leftovers) w' := by
  have hrun : (initiate deployment (externals 0 3) (msg 1000) 3 (toUniversalAddress recipient)
      gasThroughUniswapExactOut (world leftovers)).toOption.isSome = true := by decide +kernel
  obtain ⟨⟨ret, w'⟩, hok⟩ := Option.isSome_iff_exists.1 hrun
  have hsuccess := toOption_eq_some.1 hok
  obtain ⟨i, -, hiff⟩ := initiate_conserves_iff (by decide)
    (fun _ _ _ _ => externals_honour 0 3 _) hsuccess
  refine ⟨ret, w', hsuccess, hiff.2 fun _ _ => ?_⟩
  rw [if_neg (by decide)]
  intro htoken
  have hmos : (parseParamBaseStructure 3 gasThroughUniswapExactOut).toOption.map (fun mos =>
      decide (inputToken deployment mos gasThroughUniswapExactOut = usdc)) = some false := by
    decide +kernel
  rw [i.parsed] at hmos
  exact absurd htoken (of_decide_eq_false (Option.some.inj hmos))

end Sample

end SwapLayer.Evm
