import SwapLayer.Evm.IntegrationRuns

/-!
# Between users of the integrator library

What users of `evm/src/SwapLayerIntegrationBase.sol` can rely on, from the quote of a relaying fee to the
redemption by another user: `_swapLayerRelayingFeeEvmUsdc` and `_swapLayerRelayingFeeEvmSwap` beside the
calls of `IntegrationRuns`.

* The library redeems with what `redeem` is given by its `Redeem` and `RedeemOverride`, for whatever swap
  layer it is used with: the order and its redemption are calls on different chains.

Results:
* `transfer_delivered`: a payload arrives as it was sent, from whom it was sent, at the recipient only.
* `quote_charged`: a relay costs what was quoted.
-/

namespace SwapLayer.Integration

open ByteString Program Evm

/-! ## Payloads -/

section Delivery

variable {d : Immutables} {x : Externals} {caller : Integrator d.toDeployment} {w w' : World}
  {output : OutputParams} {request : InitiateRequest} {ret : InitiateReturn}

/-- **A transfer between integrators.** Whatever somebody sends with the library, the order that it places
is redeemed elsewhere by the library with a payload iff it was sent with one and is redeemed at all; the
payload then arrives, with the address of the integrator who sent it, and only at the recipient. -/
theorem transfer_delivered (htyped : Typed x)
    (houtput : encodeOutputParams output = .ok request.composition.outputParams)
    (hpayload : request.composition.redeem.PayloadFits)
    (h : swapLayerInitiate d x caller request w = .ok (ret, w')) :
    ∃ order, w'.orders = w.orders ++ [order] ∧
      ∀ (target : Deployment) (x₁ : Externals) (redeemer : Integrator target) (req : RedeemRequest)
        (fill : Fill) (w₁ w₂ : World), Typed x₁ →
        x₁.redeemFill (composeRedeem req).attestation = some fill → fill.message = order.redeemerMessage →
        ∀ token amount sender payload,
          swapLayerRedeemWithPayload target x₁ redeemer req w₁ =
              .ok ((token, amount, sender, payload), w₂) ↔
            request.composition.redeem = .payload payload ∧
              sender = toUniversalAddress caller.address ∧
              toUniversalAddress redeemer.address = request.composition.targetParams.recipient ∧
              swapLayerRedeem target x₁ redeemer req w₁ = .ok ((token, amount), w₂) := by
  obtain ⟨-, value, -, i, sequences, -, rfl, ho, -⟩ := (swapLayerInitiate_iff htyped houtput hpayload).1 h
  refine ⟨i.order, i.orders_eq, fun target x₁ redeemer req fill w₁ w₂ htyped₁ hfill hmessage token amount
    sender payload => ?_⟩
  -- what every redemption reads
  have hread (r : Redeemed target x₁ (redeemer.msg 0) (composeRedeem req).params
      (composeRedeem req).attestation w₁) : toUniversalAddress r.sms.recipient =
        request.composition.targetParams.recipient ∧ r.sms.redeemMode = request.composition.redeem.mode ∧
        ∀ bytes, request.composition.redeem = .payload bytes →
          r.sms.sender = toUniversalAddress caller.address ∧ r.sms.payload = bytes := by
    have hparsed := r.parsed
    obtain rfl : fill = r.fill := Option.some.inj (hfill.symm.trans r.delivered)
    rw [hmessage, ho.message, parseSwapMessageStructure_encode] at hparsed
    obtain ⟨addr, haddr, hsms⟩ := except_map_ok.1 hparsed
    rw [← hsms]
    exact ⟨(fromUniversalAddress_ok.1 haddr).symm, ho.mode, ho.payload⟩
  rw [swapLayerRedeemWithPayload_iff htyped₁, swapLayerRedeem_iff htyped₁]
  constructor
  · rintro ⟨r, hmode, rfl, hresult⟩
    obtain ⟨hrecipient, hsent, hbytes⟩ := hread r
    obtain ⟨bytes, hredeem⟩ : ∃ bytes, request.composition.redeem = .payload bytes := by
      rw [hmode] at hsent
      cases hr : request.composition.redeem with
      | payload bytes => exact ⟨bytes, rfl⟩
      | direct => rw [hr] at hsent; cases hsent
      | relay => rw [hr] at hsent; cases hsent
    obtain ⟨hsender, hpayload⟩ := hbytes bytes hredeem
    rw [hsender, hpayload] at hresult
    cases hresult
    refine ⟨hredeem, rfl, ?_, r, rfl, rfl⟩
    -- nobody else may redeem a payload
    have hplan := redeemPlan_ok.1 r.planOk
    rw [if_neg (fun hrelays => by rw [hrelays.1] at hmode; cases hmode)] at hplan
    obtain ⟨-, hsame | hother, -⟩ := hplan
    · rw [← hrecipient, ← hsame]
      rfl
    · exact absurd hmode hother.1
  · rintro ⟨hredeem, rfl, -, r, rfl, hresult⟩
    obtain ⟨-, hsent, hbytes⟩ := hread r
    obtain ⟨hsender, hpayload⟩ := hbytes payload hredeem
    refine ⟨r, hsent.trans (by rw [hredeem]; rfl), rfl, ?_⟩
    rw [hsender, hpayload, ← hresult]

/-! ## Quotes -/

/-- `_swapLayerRelayingFeeEvmUsdc`. -/
def swapLayerRelayingFeeEvmUsdc (d : Immutables) (w : World) (targetChain gasDropoffWei : ℕ) :
    Except QuoteRevert ℕ :=
  swapLayerRelayingFee d w targetChain gasDropoffWei .usdc 0 SWAP_TYPE_INVALID

/-- `_swapLayerRelayingFeeEvmSwap`. -/
def swapLayerRelayingFeeEvmSwap (d : Immutables) (w : World) (targetChain gasDropoffWei : ℕ)
    (outputTokenType : IoToken) (swapCount : ℕ) (swapType : EvmSwapType) : Except QuoteRevert ℕ :=
  swapLayerRelayingFee d w targetChain gasDropoffWei outputTokenType swapCount swapType.toUint8

/-- The number of swaps of an output. -/
def OutputParams.swapCount : OutputParams → ℕ
  | usdc => 0
  | nativeEvm params => hopCount (strippedPath params.path) + 1
  | tokenEvm _ params => hopCount (strippedPath params.path) + 1
  | nativeSolana _ => 1
  | tokenSolana _ _ => 1

/-- The quote for an output; what the helpers for Solana do with the wei that they work out. -/
def quoteFor (d : Immutables) (w : World) (targetChain gasDropoffWei : ℕ) (output : OutputParams) :
    Except QuoteRevert ℕ :=
  match output with
  | .usdc => swapLayerRelayingFeeEvmUsdc d w targetChain gasDropoffWei
  | .nativeEvm params =>
    swapLayerRelayingFeeEvmSwap d w targetChain gasDropoffWei .gas output.swapCount params.swapType
  | .tokenEvm _ params =>
    swapLayerRelayingFeeEvmSwap d w targetChain gasDropoffWei .other output.swapCount params.swapType
  | .nativeSolana _ =>
    swapLayerRelayingFee d w targetChain gasDropoffWei .gas output.swapCount SWAP_TYPE_JUPITERV6
  | .tokenSolana _ _ =>
    swapLayerRelayingFee d w targetChain gasDropoffWei .other output.swapCount SWAP_TYPE_JUPITERV6

/-- More swaps than a byte can count are not quoted. -/
theorem swapLayerRelayingFee_swapCount {targetChain gasDropoffWei swapCount swapType fee : ℕ}
    {outputTokenType : IoToken} (hkind : outputTokenType ≠ .usdc)
    (h : swapLayerRelayingFee d w targetChain gasDropoffWei outputTokenType swapCount swapType = .ok fee) :
    swapCount ≤ uintMax 8 := by
  obtain ⟨query, hquery, -⟩ := except_bind_ok.1 h
  have hquery := except_mapError_ok.1 hquery
  rw [relayingFeeQuery, if_neg hkind] at hquery
  obtain ⟨_, hmax, -⟩ := except_bind_ok.1 hquery
  exact checkMax_ok.1 hmax

theorem quoteFor_swapCount {targetChain gasDropoffWei fee : ℕ}
    (h : quoteFor d w targetChain gasDropoffWei output = .ok fee) : output.swapCount ≤ uintMax 8 := by
  cases output with
  | usdc => exact Nat.zero_le _
  | nativeEvm => exact swapLayerRelayingFee_swapCount (by decide) h
  | tokenEvm => exact swapLayerRelayingFee_swapCount (by decide) h
  | nativeSolana => exact swapLayerRelayingFee_swapCount (by decide) h
  | tokenSolana => exact swapLayerRelayingFee_swapCount (by decide) h

/-- **The fee of a relay is the fee that was quoted** before it, and there was a quote unless the output
is swapped more often than a byte can count. -/
theorem quote_charged (htyped : Typed x)
    (houtput : encodeOutputParams output = .ok request.composition.outputParams) {params : RelayParams}
    (hrelay : request.composition.redeem = .relay params)
    (hchain : request.composition.targetParams.chainId < 256 ^ 2)
    (h : swapLayerInitiate d x caller request w = .ok (ret, w')) :
    ∃ fee, ret.relayingFeeUsdc = some fee ∧ fee ≤ params.maxRelayingFeeUsdc ∧
      ((∃ quoted, quoteFor d w request.composition.targetParams.chainId params.gasDropoffWei output =
        .ok quoted) ↔ output.swapCount ≤ uintMax 8) ∧
      ∀ quoted, quoteFor d w request.composition.targetParams.chainId params.gasDropoffWei output =
        .ok quoted → quoted = fee := by
  have hpayload : request.composition.redeem.PayloadFits := by rw [hrelay]; trivial
  obtain ⟨haccepted, value, -, i, sequences, -, rfl, ho, rfl⟩ :=
    (swapLayerInitiate_iff htyped houtput hpayload).1 h
  have hmode : request.composition.redeem.mode = .relay := by rw [hrelay]; rfl
  have hdropoff : params.gasDropoffWei / GAS_DROPOFF_UNIT ≤ uintMax 32 := by
    have hredeem := haccepted.redeem
    rw [hrelay] at hredeem
    exact hredeem.2
  have hfee : i.relayingFee < 256 ^ 6 := redeemParams_fee_lt i.redeem
  refine ⟨i.relayingFee, if_pos hmode, ho.relayingFee params hrelay, ?_⟩
  suffices hquote : quoteFor d w request.composition.targetParams.chainId params.gasDropoffWei output =
      .ok i.relayingFee ↔ output.swapCount ≤ uintMax 8 from
    ⟨⟨fun ⟨_, hquoted⟩ => quoteFor_swapCount hquoted, fun hcount => ⟨_, hquote.2 hcount⟩⟩,
      fun _ hquoted => Except.ok.inj (hquoted.symm.trans (hquote.2 (quoteFor_swapCount hquoted)))⟩
  -- the fee of the call
  obtain ⟨swapType, swapCount, hswap, hcharged, -⟩ := redeemParams_relay
    (i.fields_mode.symm.trans (ho.mode.trans hmode)) i.redeem
  have hparams : (parseRelayParams (request.composition.fields output).encode i.mos.redeem.offset).1 =
      params.gasDropoffWei / GAS_DROPOFF_UNIT := by
    have hredeem : RedeemReads _ i.mos.redeem request.composition.redeem.fields := ho.reads.redeem
    rw [hrelay] at hredeem
    rw [hredeem.2]
  rw [hparams] at hcharged
  have hwidth : i.relayingFee % 256 ^ 6 = i.relayingFee := Nat.mod_eq_of_lt hfee
  have hwalk := ho.reads.output.typeAndCount
  rw [hswap] at hwalk
  -- a quote with the swap that was charged for
  have hquoted {kind : IoToken} {count type : ℕ} (hkind : kind ≠ .usdc) (hmode : i.mos.output.mode = kind)
      (hwalk : swapType = type ∧ swapCount = count) (htype : type < 256 ^ 1) :
      swapLayerRelayingFee d w request.composition.targetParams.chainId params.gasDropoffWei kind count
        type = .ok i.relayingFee ↔ count ≤ uintMax 8 := by
    obtain ⟨rfl, rfl⟩ := hwalk
    rw [hmode] at hcharged
    constructor
    · exact swapLayerRelayingFee_swapCount hkind
    · intro hcount
      have hqueried : queriedSwap kind swapCount swapType = (swapCount, swapType) := if_neg hkind
      rw [← hwidth]
      exact swapLayerRelayingFee_eq hchain hcount htype hdropoff (by rw [hqueried]; exact hcharged)
  have hreads := ho.reads.output
  cases output with
  | usdc =>
    obtain ⟨rfl, rfl⟩ := Prod.mk.inj (Except.ok.inj hwalk)
    have hkind : i.mos.output.mode = .usdc := hreads.1
    rw [hkind] at hcharged
    refine iff_of_true ?_ (Nat.zero_le _)
    rw [← hwidth]
    exact swapLayerRelayingFee_eq hchain (Nat.zero_le _) (by decide) hdropoff hcharged
  | nativeEvm evm =>
    exact hquoted (by decide) hreads.1 (Prod.mk.inj (Except.ok.inj hwalk)) evm.swapType.toUint8_lt
  | tokenEvm token evm =>
    exact hquoted (by decide) hreads.1 (Prod.mk.inj (Except.ok.inj hwalk)) evm.swapType.toUint8_lt
  | nativeSolana => exact hquoted (by decide) hreads.1 (Prod.mk.inj (Except.ok.inj hwalk)) (by decide)
  | tokenSolana => exact hquoted (by decide) hreads.1 (Prod.mk.inj (Except.ok.inj hwalk)) (by decide)

end Delivery

namespace Sample

theorem integrator_ne_self : Evm.Sample.address 0xca11 ≠ immutables.self := by decide

theorem integrator_ne_zero : Evm.Sample.address 0xca11 ≠ zeroAddress := by decide

def integrator : Integrator immutables.toDeployment :=
  ⟨Evm.Sample.address 0xca11, integrator_ne_self, integrator_ne_zero⟩

/-- A message costs 3 wei. The liquidity layer delivers this message. -/
def charging (message : Bytes) : Externals :=
  { Evm.Sample.externals 0 0 with
    messageFee := 3
    placeOrder := fun _ => some (1, 2, 4)
    traderJoe := fun _ => .error []
    redeemFill := fun _ => some ⟨toUniversalAddress (Evm.Sample.address 0x9ee4), 3, 10, message⟩ }

theorem charging_typed (message : Bytes) : Typed (charging message) where
  sequences h := by
    cases h
    decide
  amounts h := by cases h

/-- Relaying costs 7 units. -/
def priced : World :=
  (Evm.Sample.world fun _ => 0).withStorage { Evm.Sample.storage with
    feeParams := fun _ => FeeParams.setBaseFee (FeeParams.setMaxGasDropoff 0 (2 ^ 32 - 1)) 7 }

/-- 1000 units of USDC on top of the fees, to be relayed with a dropoff of two units. -/
def relayRequest : InitiateRequest :=
  .initiateUsdcRelayFast ⟨3, toUniversalAddress Evm.Sample.recipient⟩ ⟨5, 90⟩ ⟨2 * 10 ^ 12, 100⟩ 1000 false
    (toBE 1 0)

theorem relayRequest_output : encodeOutputParams .usdc = .ok relayRequest.composition.outputParams := rfl

/-- Both message fees are sent, and 1012 units, with 5 for the fast transfer and 7 for the relay. -/
theorem relayRequest_sent : ∃ w' order, swapLayerInitiate immutables (charging []) integrator relayRequest
      priced = .ok (⟨1012, 1, 4, some 2, some 7⟩, w') ∧
    w'.orders = [order] ∧ order.amount = 1012 ∧ order.value = 6 := by
  have hrun : ((swapLayerInitiate immutables (charging []) integrator relayRequest priced).toOption.map
      Prod.fst) = some ⟨1012, 1, 4, some 2, some 7⟩ := by decide +kernel
  obtain ⟨⟨ret, w'⟩, hok, hret⟩ := Option.map_eq_some_iff.1 hrun
  obtain rfl : ret = ⟨1012, 1, 4, some 2, some 7⟩ := hret
  have h := toOption_eq_some.1 hok
  obtain ⟨-, value, -, i, sequences, -, rfl, ho, hret⟩ :=
    (swapLayerInitiate_iff (charging_typed []) relayRequest_output trivial).1 h
  exact ⟨i.result, i.order, h, i.orders_eq, (congrArg InitiateReturn.sentAmountUsdc hret).symm, ho.value⟩

/-- 7 units were quoted. -/
theorem relayRequest_quoted : quoteFor immutables priced 3 (2 * 10 ^ 12) .usdc = .ok 7 := by
  have hrun : ((swapLayerInitiate immutables (charging []) integrator relayRequest priced).toOption.map
      fun r => r.1.relayingFeeUsdc) = some (some 7) := by decide +kernel
  obtain ⟨⟨ret, w'⟩, hok, hret⟩ := Option.map_eq_some_iff.1 hrun
  obtain ⟨fee, hfee, -, hquoted, hcharged⟩ := quote_charged (charging_typed []) relayRequest_output rfl
    (by decide) (toOption_eq_some.1 hok)
  obtain rfl : 7 = fee := Option.some.inj (hret.symm.trans hfee)
  obtain ⟨quoted, hquote⟩ := hquoted.2 (by decide)
  obtain rfl : quoted = 7 := hcharged quoted hquote
  exact hquote

/-- 10 units of USDC with two bytes. -/
def payloadUsdc : InitiateRequest :=
  .initiatePayloadUsdc ⟨3, toUniversalAddress Evm.Sample.recipient⟩ [7, 8] 10 (toBE 1 0)

def payloadMessage : Bytes :=
  encodeSwapMessage (toUniversalAddress Evm.Sample.recipient) .payload
    (encodeSwapMessagePayloadParams integrator.address (toBE 2 2 ++ [7, 8])) (toBE 1 0)

theorem redeemer_ne_self : Evm.Sample.recipient ≠ Evm.Sample.deployment.self := by decide

theorem redeemer_ne_zero : Evm.Sample.recipient ≠ zeroAddress := by decide

def redeemer : Integrator Evm.Sample.deployment := ⟨Evm.Sample.recipient, redeemer_ne_self, redeemer_ne_zero⟩

/-- The recipient gets the two bytes, from the integrator. -/
theorem payloadUsdc_delivered : ∃ token amount w₂,
    swapLayerRedeemWithPayload Evm.Sample.deployment (charging payloadMessage) redeemer (.redeem [])
      priced = .ok ((token, amount, toUniversalAddress integrator.address, [7, 8]), w₂) := by
  have hrun : ((swapLayerInitiate immutables (charging []) integrator payloadUsdc priced).toOption.map
      fun r => r.2.orders.map Order.redeemerMessage) = some [payloadMessage] := by decide +kernel
  obtain ⟨⟨ret, w'⟩, hok, horders⟩ := Option.map_eq_some_iff.1 hrun
  have houtput : encodeOutputParams .usdc = .ok payloadUsdc.composition.outputParams := rfl
  have hpayload : payloadUsdc.composition.redeem.PayloadFits := show 2 ≤ uintMax 16 by decide
  obtain ⟨order, hone, hdelivered⟩ :=
    transfer_delivered (charging_typed []) houtput hpayload (toOption_eq_some.1 hok)
  have hmessage : order.redeemerMessage = payloadMessage := by
    have hlist := horders
    rw [hone] at hlist
    exact (List.cons.inj hlist).1
  have hredeem : ((swapLayerRedeem Evm.Sample.deployment (charging payloadMessage) redeemer (.redeem [])
      priced).toOption).isSome = true := by decide +kernel
  obtain ⟨⟨⟨token, amount⟩, w₂⟩, hredeemed⟩ := Option.isSome_iff_exists.1 hredeem
  exact ⟨token, amount, w₂, (hdelivered _ _ redeemer (.redeem []) _ priced w₂ (charging_typed _) rfl
    hmessage.symm token amount _ [7, 8]).2 ⟨rfl, rfl, rfl, toOption_eq_some.1 hredeemed⟩⟩

end Sample

end SwapLayer.Integration
