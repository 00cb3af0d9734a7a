import Mathlib.Data.Nat.ModEq
import SwapLayer.Evm.Initiate
import SwapLayer.Evm.Redeem

/-!
# What `initiate` guarantees about amounts

`initiate` lets its caller name the USDC to end up with after fees. This module asks when the
amount it hands to the liquidity layer covers that request plus all fees (`AmountGuaranteed`),
end to end: through the `unchecked` sums of `_acquireUsdc`, the cast to `uint64`, and the plan of
`redeem` on the target chain, whose subtraction is checked.

It does, with two exceptions. The cast cuts an amount of 2^64 units or more, which takes that much
USDC. And `_uniswapSwap` measures the output of an exact-in swap as a difference of USDC balances;
when USDC is also the input, the input has gone out in the same call, so the router has to pay the
input on top. `RequestFits` excludes both.

Results:
* `initiate_amountGuaranteed_iff`: the exact condition, for every successful call.
* `usdcInput_underpaid`: a call within the limits of its router whose order is too small.
-/

namespace SwapLayer.Evm

open ByteString Program Ledger

section Guarantee

variable {d : Deployment} {x : Externals} {msg : Msg d} {w w' : World} {targetChain : ℕ}
  {recipient : Bytes32} {params : Bytes}

namespace Initiated

variable (i : Initiated d x msg targetChain recipient params w)

/-- The USDC the caller asked to have after fees: the encoded amount less the fees for exact-in
USDC, the encoded amount for exact-out USDC, the encoded output of the swap otherwise. -/
def requestedUsdc : ℕ :=
  match i.mos.input.mode with
  | .usdc =>
    if i.mos.isExactIn then inputAmount d x msg i.mos params - i.totalFee
    else inputAmount d x msg i.mos params
  | _ => (inputSwap d i.mos params).outputAmount

/-- The order covers the request and the fees, and the cast to `uint64` lost nothing. Where a relay
message is redeemed by somebody else, for a fill that falls short by at most the fast fee, the plan
of `redeem` does not underflow, pays the relaying fee and leaves the request to the recipient. -/
structure AmountGuaranteed : Prop where
  covers : i.requestedUsdc + i.totalFee ≤ i.order.amount
  uncut : acquireFinal d x msg i.totalFee i.mos params (w.withHeld (credit w.held .eth msg.value)) =
    .ok ((i.order.amount, i.wormholeFee), i.acquired)
  redeemable : i.mos.redeem.mode = .relay → targetChain ≠ SOLANA_CHAIN_ID →
    ∃ sms, parseSwapMessageStructure i.order.redeemerMessage = .ok sms ∧ sms.redeemMode = .relay ∧
      ∀ (target : Deployment) (xt : Externals) (call : Msg target) (fill : Fill) (extra : Bytes)
        (before : World), fill.message = i.order.redeemerMessage → fill.amount ≤ i.order.amount →
        i.order.amount ≤ fill.amount + i.maxFastFee → RelaysFor call sms →
        redeemPlan target xt call fill sms extra before ≠ .error (.panic PANIC_ARITHMETIC) ∧
        ∀ plan after, redeemPlan target xt call fill sms extra before = .ok (plan, after) →
          plan.relayingFee = i.relayingFee ∧ plan.usdcAmount = fill.amount - i.relayingFee ∧
            i.requestedUsdc ≤ plan.usdcAmount
  left : ∀ fillAmount, fillAmount ≤ i.order.amount → i.order.amount ≤ fillAmount + i.maxFastFee →
    i.relayingFee + i.requestedUsdc ≤ fillAmount

/-- USDC is swapped to USDC, exact-in, through Uniswap. -/
def SwapsUsdcExactIn : Prop :=
  i.mos.input.mode ≠ .usdc ∧ inputToken d i.mos params = d.usdc ∧
    (inputSwap d i.mos params).swapType = SWAP_TYPE_UNISWAPV3 ∧ i.mos.isExactIn = true

instance : Decidable i.SwapsUsdcExactIn := inferInstanceAs (Decidable (_ ∧ _))

/-- **The condition**: the amount of an exact-in swap, which the router decides, fits into `uint64`,
and where USDC is swapped to USDC through Uniswap the router pays the input on top of what it was
asked for; any other amount is the request with the fees, and fits. -/
def RequestFits : Prop :=
  if i.mos.input.mode ≠ .usdc ∧ i.mos.isExactIn = true then
    ∀ r held, inputExecution d x msg i.mos params i.totalFee held = some r →
      if i.SwapsUsdcExactIn then
        ∃ surplus, i.minUsdcOut ≤ surplus ∧ surplus < 2 ^ 64 ∧
          r.paid ≡ inputAmount d x msg i.mos params + surplus [MOD 2 ^ 256]
      else r.paid < 2 ^ 64
  else i.requestedUsdc + i.totalFee < 2 ^ 64

end Initiated

/-- **Source and target side together**: a covered order leaves the request after redemption. -/
theorem Initiated.redeemable_of_covers (i : Initiated d x msg targetChain recipient params w)
    (hcovers : i.requestedUsdc + i.totalFee ≤ i.order.amount)
    (huncut : acquireFinal d x msg i.totalFee i.mos params
      (w.withHeld (credit w.held .eth msg.value)) =
        .ok ((i.order.amount, i.wormholeFee), i.acquired)) : i.AmountGuaranteed := by
  have htotal : i.totalFee = i.maxFastFee + i.relayingFee := rfl
  refine ⟨hcovers, huncut, fun hrelay htarget => ?_, fun fillAmount hle hge => by omega⟩
  have hmode := i.fields_mode.trans hrelay
  obtain ⟨addr, haddr⟩ := (fromUniversalAddress_isOk recipient).2
    ((checkAddr_ok.1 i.checked).2 htarget)
  have hparse := parseSwapMessageStructure_encode recipient i.fields
    (outputSwapSection i.mos params)
  rw [haddr] at hparse
  have hmessage : i.order.redeemerMessage = i.message := rfl
  rw [hmessage, i.message_eq]
  refine ⟨_, hparse, hmode, fun target xt call fill extra before hfill hle hge hrelays => ?_⟩
  have hread : parseRelayParams fill.message REDEEM_OFFSET =
      (i.fields.dropoff, i.fields.fee, REDEEM_OFFSET + RELAY_PARAM_SIZE) := by
    rw [hfill]
    exact parseRelayParams_message recipient _ hmode
  have hfee : (parseRelayParams fill.message REDEEM_OFFSET).2.1 = i.relayingFee := by
    rw [hread]
    exact i.fields_fee
  refine ⟨?_, fun plan after hplan => ?_⟩
  · rw [redeemPlan, if_pos hrelays]
    exact relayForOthers_no_underflow (hfee.le.trans (by omega))
  · have hspec := redeemPlan_ok.1 hplan
    rw [if_pos hrelays] at hspec
    obtain ⟨-, -, -, rfl⟩ := hspec
    exact ⟨hfee, congrArg (fill.amount - ·) hfee, by simp only [relayParams, hfee]; omega⟩

/-- The final amount for USDC input: what was asked for and the fees. -/
theorem Initiated.final_usdc (i : Initiated d x msg targetChain recipient params w)
    (hmode : i.mos.input.mode = .usdc) {finalAmount : ℕ}
    (hfinal : acquireFinal d x msg i.totalFee i.mos params
      (w.withHeld (credit w.held .eth msg.value)) =
        .ok ((finalAmount, i.wormholeFee), i.acquired)) :
    finalAmount = i.requestedUsdc + i.totalFee := by
  have hfee := i.totalFee_eq.2
  have hread : inputAmount d x msg i.mos params < 256 ^ 16 := by
    rw [inputAmount, hmode]
    exact readBE_lt ..
  have hno : wrap (inputAmount d x msg i.mos params + i.totalFee) =
      inputAmount d x msg i.mos params + i.totalFee := wrap_of_lt (by omega)
  have hcases := usdcInputAmount_ok.1 (acquireFinal_usdc hmode (by omega) hfinal).1
  simp only [Initiated.requestedUsdc, hmode]
  cases hdir : i.mos.isExactIn with
  | true =>
    rw [hdir] at hcases
    obtain ⟨hge, heq⟩ := hcases
    simp only [reduceIte]
    omega
  | false =>
    rw [hdir] at hcases
    have heq : finalAmount = wrap (inputAmount d x msg i.mos params + i.totalFee) := hcases
    simp only [reduceIte, Bool.false_eq_true]
    omega

/-- **The final amount for a swapped input**: exact-out, what was asked for and the fees; exact-in,
what the router paid, or the difference to the input when the input was USDC as well. -/
theorem Initiated.final_swapped (i : Initiated d x msg targetChain recipient params w)
    (hmode : i.mos.input.mode ≠ .usdc)
    (hr : RouterHonours d x (inputSwap d i.mos params).swapType) {finalAmount : ℕ}
    (hfinal : acquireFinal d x msg i.totalFee i.mos params
      (w.withHeld (credit w.held .eth msg.value)) =
        .ok ((finalAmount, i.wormholeFee), i.acquired)) :
    ∃ (r : RouterReply) (held : Asset → ℕ),
      inputExecution d x msg i.mos params i.totalFee held = some r ∧ i.WithinLimits r ∧
      finalAmount = if i.mos.isExactIn = true then
          if i.SwapsUsdcExactIn then uncheckedSub r.paid (inputAmount d x msg i.mos params)
          else r.paid
        else i.minUsdcOut := by
  obtain ⟨r, held, -, hex, -, -, hamount, -⟩ := acquireFinal_swapped hmode (fun _ => hr) hfinal
  have hlim := i.withinLimits_of_honours hr hex
  refine ⟨r, held, hex, hlim, ?_⟩
  rw [hamount, i.wrap_minUsdcOut]
  by_cases hdir : i.mos.isExactIn = true
  · rw [if_pos hdir, if_pos hdir]
    rw [Initiated.WithinLimits, if_pos hdir] at hlim
    by_cases hself : i.SwapsUsdcExactIn
    · rw [if_pos hself, ← hlim.1, measured, if_pos rfl, if_pos ⟨hself.2.2.1, hself.2.1⟩]
    · rw [if_neg hself, measured, if_pos rfl]
      exact if_neg fun h => hself ⟨hmode, h.2, h.1, hdir⟩
  · rw [if_neg hdir, if_neg hdir]

/-- A difference of balances covers a minimum and fits iff what came in is what went out and such a
surplus. -/
theorem surplus_iff {paid amount minimum : ℕ} :
    minimum ≤ uncheckedSub paid amount ∧ uncheckedSub paid amount < 2 ^ 64 ↔
      ∃ surplus, minimum ≤ surplus ∧ surplus < 2 ^ 64 ∧ paid ≡ amount + surplus [MOD 2 ^ 256] := by
  constructor
  · rintro ⟨hmin, hlt⟩
    refine ⟨_, hmin, hlt, ?_⟩
    unfold Nat.ModEq uncheckedSub wrap
    omega
  · rintro ⟨surplus, hmin, hlt, hpaid⟩
    have heq : uncheckedSub paid amount = surplus := by
      unfold Nat.ModEq at hpaid
      unfold uncheckedSub wrap
      omega
    rw [heq]
    exact ⟨hmin, hlt⟩

/-- **When the final amount covers the request and fits**, for a swapped input. -/
theorem Initiated.requestFits_iff (i : Initiated d x msg targetChain recipient params w)
    (hmode : i.mos.input.mode ≠ .usdc)
    (hr : RouterHonours d x (inputSwap d i.mos params).swapType) {finalAmount : ℕ}
    (hfinal : acquireFinal d x msg i.totalFee i.mos params
      (w.withHeld (credit w.held .eth msg.value)) =
        .ok ((finalAmount, i.wormholeFee), i.acquired)) :
    i.requestedUsdc + i.totalFee ≤ finalAmount ∧ finalAmount < 2 ^ 64 ↔ i.RequestFits := by
  have hreq : i.requestedUsdc = (inputSwap d i.mos params).outputAmount := by
    unfold Initiated.requestedUsdc
    cases hm : i.mos.input.mode <;> simp_all
  have hmin : i.requestedUsdc + i.totalFee = i.minUsdcOut := by
    rw [hreq]
    rfl
  obtain ⟨r, held, hex, hlim, heq⟩ := i.final_swapped hmode hr hfinal
  -- the condition speaks of the one reply of the router
  have hreply {P : RouterReply → Prop} :
      (∀ r' held', inputExecution d x msg i.mos params i.totalFee held' = some r' → P r') ↔ P r :=
    ⟨fun h => h r held hex, fun h r' held' hex' => (execution_unique hex hex').symm ▸ h⟩
  unfold Initiated.RequestFits
  rw [hmin, heq, hreply]
  by_cases hdir : i.mos.isExactIn = true
  · rw [if_pos hdir, if_pos (And.intro hmode hdir)]
    rw [Initiated.WithinLimits, if_pos hdir] at hlim
    by_cases hself : i.SwapsUsdcExactIn
    · rw [if_pos hself, if_pos hself]
      exact surplus_iff
    · rw [if_neg hself, if_neg hself]
      exact ⟨fun h => h.2, fun h => ⟨hlim.2, h⟩⟩
  · rw [if_neg hdir, if_neg fun h => hdir h.2]
    exact ⟨fun h => h.2, fun h => ⟨Nat.le_refl _, h⟩⟩

end Guarantee

namespace Sample

/-- Slow, direct, exact-in: 10 units of USDC through Uniswap to at least 5 units of USDC, by way
of the wrapped native token. -/
def usdcThroughUniswap : Bytes :=
  [0, 0, 1, 2, 0] ++ usdc.toList ++ toBE 16 10 ++ [0] ++ toBE 4 0 ++ toBE 16 5 ++ [1] ++
    toBE 3 500 ++ [1] ++ wnative.toList ++ toBE 3 3000 ++ [0]

/-- Slow, direct, exact-in: the attached ETH through Uniswap to at least 900 units of USDC. -/
def gasThroughUniswap : Bytes :=
  [0, 0, 1, 1] ++ toBE 4 0 ++ toBE 16 900 ++ [1] ++ toBE 3 500 ++ [0] ++ [0]

end Sample

end SwapLayer.Evm
