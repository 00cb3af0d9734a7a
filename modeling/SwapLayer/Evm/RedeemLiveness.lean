import SwapLayer.Evm.Memory
import SwapLayer.Evm.RedeemAccounting

/-!
# When a redemption goes through

The output swap of a message is chosen by whoever called `initiate`, and only its layout is checked
there. This module asks whether anybody can redeem such a message on the target chain, the
recipient getting the requested token or, if no swap took place, the USDC (`PaidOut`).

A swap that a router refuses, an expired deadline and an unknown swap type are harmless. There are
five ways to block a redemption (`NeverBlocks` excludes them): the output section of the message ends
before its swap type, so that the memory behind the message decides; Uniswap's output is measured in
a token that does not answer `balanceOf`; there is no TraderJoe router, and its empty answer does not
decode; the router pays zero units, which counts as no swap although the USDC is gone; Uniswap swaps
USDC to USDC, and the difference of balances is not the output. A sixth is out of reach: native
output and gas dropoff that add up to 2^256 wei.

Results:
* `redeem_notBlocked_iff`: the exact condition, for every message of `initiate`.
* `zeroOutput_blocked`: a redemption that reverts.
-/

namespace SwapLayer.Evm

open ByteString Program Ledger

section Liveness

variable {d₀ d : Deployment} {x₀ x : Externals} {msg₀ : Msg d₀} {msg : Msg d} {w₀ w w' : World}
  {targetChain : ℕ} {recipient : Bytes32} {addr : Address} {params₀ attestations : Bytes}
  {fill : Fill}

/-- The target chain when the fill is redeemed: the liquidity layer delivers it, it comes from the
registered peer, transfers that the balance covers go through, and the routers revert or honour
their limits. -/
structure TargetReady (d : Deployment) (x : Externals) (w : World) (fill : Fill)
    (attestations : Bytes) : Prop where
  delivered : ∃ w', redeemFill d x attestations w = .ok (fill, w')
  peer : fill.sender = w.storage.peers fill.senderChain
  accepts : ∀ p, x.accepts p = true
  honour : RoutersHonour d x

theorem TargetReady.fill_eq (h : TargetReady d x w fill attestations) :
    x.redeemFill attestations = some fill ∧
      w.held (.erc20 d.usdc) + fill.amount ≤ x.supply d.usdc := by
  obtain ⟨w', hw'⟩ := h.delivered
  obtain ⟨hfill, hcap, -⟩ := redeemFill_ok.1 hw'
  exact ⟨hfill, hcap⟩

/-- Somebody else brings what the message asks for: nothing for a direct message, the gas dropoff
for a relay message whose fee the fill covers. -/
structure ThirdPartyCall (msg : Msg d) (addr : Address) (fields : RedeemFields) (fill : Fill) :
    Prop where
  other : msg.sender ≠ addr
  brings : (fields.mode = .direct ∧ msg.value = 0) ∨
    (fields.mode = .relay ∧ fields.fee ≤ fill.amount ∧
      msg.value = gasDropoffFrom fields.dropoff)

/-- The recipient is paid the output of the swap that was executed, or the USDC if none was;
`memory` is what stands behind the message. -/
def PaidOut (memory : Bytes → Bytes) (x : Externals) (msg : Msg d) (addr : Address)
    (fields : RedeemFields) (fill : Fill) (attestations : Bytes) (w : World) : Prop :=
  ∃ ret w' toRecipient, redeemIn d x msg memory [] attestations w = .ok (ret, w') ∧
    w'.payouts = w.payouts ++ feePayouts msg addr fields w ++ toRecipient ∧
    (∀ p ∈ toRecipient, p.recipient = addr) ∧
    (∀ s r, Executes x msg addr fields fill [] w s r → ∀ a, totalOf toRecipient a =
      (Pi.single (Output.mk s.tokenType s.token r.paid).asset r.paid : Asset → ℕ) a +
        (Pi.single .eth msg.value : Asset → ℕ) a) ∧
    ((∀ s r, ¬Executes x msg addr fields fill [] w s r) → ∀ a, totalOf toRecipient a =
      (Pi.single (.erc20 d.usdc) (usdcDue msg addr fields fill) : Asset → ℕ) a +
        (Pi.single .eth msg.value : Asset → ℕ) a)

/-- The amount a router paid is the amount that is paid out, in the asset asked for. -/
def OutputSwap.PaidAs (s : OutputSwap) (d : Deployment) (usdcAmount : ℕ) (r : RouterReply) : Prop :=
  usdcAmount = 0 ∨ if s.Mixed d then r.paid = usdcAmount ∧ s.tokenType = .other else r.paid ≠ 0

/-- **The condition**: the output section is not cut before its swap type, its swap does not revert,
and if a router executes it, then what it paid is what is paid out, and does not overflow with the
gas dropoff. -/
structure NeverBlocks (x : Externals) (msg : Msg d) (addr : Address) (fields : RedeemFields)
    (fill : Fill) (w : World) : Prop where
  inside : SwapTypeInside fill.message (REDEEM_OFFSET + fields.encode.length)
  completes : ∀ s o, parseOutput d fill.message (REDEEM_OFFSET + fields.encode.length) =
    .ok (some s, o) → ¬s.Reverts d x
  paid : ∀ s r, Executes x msg addr fields fill [] w s r →
    s.PaidAs d (usdcDue msg addr fields fill) r
  fits : ∀ s r, Executes x msg addr fields fill [] w s r → s.tokenType = .gas →
    r.paid + msg.value < 2 ^ 256

theorem OutputSwap.PaidAs.reportedAs {s : OutputSwap} {usdcAmount : ℕ} {r : RouterReply}
    (h : s.PaidAs d usdcAmount r) : s.ReportedAs d usdcAmount r := by
  rcases h with h | h
  · exact .inl h
  · refine .inr ?_
    split at h
    · rename_i hm
      rw [if_pos hm]
      exact h.1
    · rename_i hm
      rw [if_neg hm]
      exact h

/-- **What is paid out is what the router paid**, in the asset asked for, exactly under `PaidAs`. -/
theorem OutputSwap.outputOf_asset_iff {s : OutputSwap} {usdcAmount : ℕ} {r : RouterReply}
    (hs : s.WellFormed d) (hpaid : r.paid < 2 ^ 256) (hamount : usdcAmount < 2 ^ 256)
    (hpulled : r.pulled = usdcAmount) :
    (∀ a, (Pi.single (s.outputOf d usdcAmount (some r)).asset
          (s.outputOf d usdcAmount (some r)).amount : Asset → ℕ) a =
        (Pi.single (Output.mk s.tokenType s.token r.paid).asset r.paid : Asset → ℕ) a) ↔
      s.PaidAs d usdcAmount r := by
  rw [OutputSwap.outputOf_some, OutputSwap.PaidAs]
  by_cases hm : s.Mixed d
  · rw [s.measured_of_mixed hm, hpulled, if_pos hm]
    by_cases hz : uncheckedSub r.paid usdcAmount = 0
    · obtain rfl := (uncheckedSub_eq_zero hpaid hamount).1 hz
      rw [if_pos hz]
      cases hkind : s.tokenType with
      | usdc => exact absurd hkind hs.not_usdc
      | gas =>
        simp only [Output.asset, reduceCtorEq, reduceIte]
        refine ⟨fun h => .inl ?_, fun h a => ?_⟩
        · simpa using h (.erc20 d.usdc)
        · rw [h.resolve_right fun h => by cases h.2]
          simp
      | other =>
        simp [Output.asset, ← hm.2]
    · have hne := mt (uncheckedSub_eq_zero hpaid hamount).2 hz
      have hleft := uncheckedSub_eq_left hpaid hamount
      rw [if_neg hz]
      show (∀ a, (Pi.single (Output.mk s.tokenType s.token r.paid).asset _ : Asset → ℕ) a = _) ↔ _
      rw [single_eq_iff]
      exact ⟨fun h => .inl (hleft.1 h), fun h => hleft.2 (h.resolve_right fun h => hne h.1)⟩
  · rw [s.measured_of_not_mixed hm, if_neg hm]
    by_cases hz : r.paid = 0
    · rw [if_pos hz, hz, Pi.single_zero]
      refine ⟨fun h => .inl ?_, fun h a => ?_⟩
      · simpa [Output.asset] using h (.erc20 d.usdc)
      · rw [h.resolve_right fun h => h rfl]
        simp
    · rw [if_neg hz]
      exact ⟨fun _ => .inr hz, fun _ _ => rfl⟩

/-- A native output that was paid is what the contract works with. -/
theorem OutputSwap.outputOf_of_paidAs {s : OutputSwap} {usdcAmount : ℕ} {r : RouterReply}
    (hpaid : r.paid < 2 ^ 256) (hpulled : r.pulled = usdcAmount)
    (h : s.PaidAs d usdcAmount r) (hgas : s.tokenType = .gas) (hne : r.paid ≠ 0) :
    s.outputOf d usdcAmount (some r) = ⟨s.tokenType, s.token, r.paid⟩ := by
  have hmeasured : s.measured d r = r.paid := by
    by_cases hm : s.Mixed d
    · rw [OutputSwap.PaidAs, if_pos hm, hgas] at h
      rw [s.measured_of_mixed hm, hpulled, h.resolve_right fun h => by cases h.2]
      exact (uncheckedSub_eq_left hpaid (by decide)).2 rfl
    · exact s.measured_of_not_mixed hm
  rw [OutputSwap.outputOf_some, hmeasured, if_neg hne]

section Target

variable {fields : RedeemFields} {out : Bytes}

/-- Somebody else may redeem, and the message's output section is in force. -/
theorem redeemPlan_exists (hready : TargetReady d x w fill attestations)
    (hcall : ThirdPartyCall msg addr fields fill)
    (hmsg : fill.message =
      encodeSwapMessage (toUniversalAddress addr) fields.mode fields.encode out) :
    ∃ planned, redeemPlan d x msg fill ⟨addr, fields.mode, fields.sender, fields.bytes,
        REDEEM_OFFSET, REDEEM_OFFSET + fields.encode.length⟩ [] (filled d msg fill w) =
      .ok (⟨feeDue msg addr fields, dropoffDue msg addr fields, usdcDue msg addr fields fill, false⟩,
        planned) ∧
      planned.held = heldAtSwap msg addr fields fill w ∧
      msg.value = dropoffDue msg addr fields := by
  have hcredit : fill.amount ≤ (filled d msg fill w).held (.erc20 d.usdc) := by
    rw [filled, World.withHeld_held, credit_self]
    omega
  rcases hcall.brings with ⟨hmode, hvalue⟩ | ⟨hmode, hle, hvalue⟩
  · have hpays : ¬PaysFee msg addr fields := fun h => by
      have := h.1
      rw [hmode] at this
      cases this
    have hrelays : ¬RelaysFor msg ⟨addr, fields.mode, fields.sender, fields.bytes, REDEEM_OFFSET,
        REDEEM_OFFSET + fields.encode.length⟩ := hpays
    have hzero : feeDue msg addr fields = 0 := if_neg hpays
    have hnone : dropoffDue msg addr fields = 0 := if_neg hpays
    refine ⟨filled d msg fill w, redeemPlan_ok.2 ?_, ?_, by rw [hnone, hvalue]⟩
    · rw [if_neg hrelays]
      refine ⟨rfl, .inr ⟨fun h => ?_, rfl⟩, ?_⟩
      · rw [hmode] at h
        cases h
      · rw [hzero, hnone, usdcDue, hzero]
        simp
    · rw [heldAtSwap, hzero, debit_zero, ite_self]
  · have hpays : PaysFee msg addr fields := ⟨hmode, hcall.other⟩
    have hrelays : RelaysFor msg ⟨addr, fields.mode, fields.sender, fields.bytes, REDEEM_OFFSET,
        REDEEM_OFFSET + fields.encode.length⟩ := hpays
    have hfee : feeDue msg addr fields = fields.fee := if_pos hpays
    have hdropoff : dropoffDue msg addr fields = gasDropoffFrom fields.dropoff := if_pos hpays
    have hparams : relayParams fill ⟨addr, fields.mode, fields.sender, fields.bytes, REDEEM_OFFSET,
        REDEEM_OFFSET + fields.encode.length⟩ =
          (fields.dropoff, fields.fee, REDEEM_OFFSET + RELAY_PARAM_SIZE) := by
      rw [relayParams, hmsg]
      exact parseRelayParams_message _ _ hmode
    refine ⟨((filled d msg fill w).withHeld (heldAtSwap msg addr fields fill w)).record
      (.payout ⟨w.storage.governance.feeRecipient, .erc20 d.usdc, fields.fee⟩),
      redeemPlan_ok.2 ?_, rfl, by rw [hdropoff, hvalue]⟩
    rw [if_pos hrelays, hparams]
    refine ⟨payOut_ok.2 ⟨Nat.le_trans hle hcredit, hready.accepts _, ?_⟩, hle, rfl, ?_⟩
    · rw [heldAtSwap, hfee]
      rfl
    · rw [hfee, hdropoff, usdcDue, hfee]

theorem dropoffDue_lt (msg : Msg d) (addr : Address) (fields : RedeemFields) :
    dropoffDue msg addr fields < 2 ^ 256 := by
  have := fields.dropoff_lt
  unfold dropoffDue gasDropoffFrom
  split <;> omega

/-- The USDC of the recipient is there when the swap starts. -/
theorem usdcDue_le_heldAtSwap (msg : Msg d) (addr : Address) (fields : RedeemFields) (fill : Fill)
    (w : World) :
    usdcDue msg addr fields fill ≤ heldAtSwap msg addr fields fill w (.erc20 d.usdc) := by
  have hfilled : fill.amount ≤ (filled d msg fill w).held (.erc20 d.usdc) := by
    rw [filled, World.withHeld_held, credit_self]
    omega
  unfold heldAtSwap usdcDue
  split
  · omega
  · rw [debit_self]
    omega

/-- So is the attached ETH. -/
theorem value_le_heldAtSwap (msg : Msg d) (addr : Address) (fields : RedeemFields) (fill : Fill)
    (w : World) : msg.value ≤ heldAtSwap msg addr fields fill w .eth := by
  have hfilled : msg.value ≤ (filled d msg fill w).held .eth := by
    rw [filled, World.withHeld_held, credit_apply, single_other (by simp), credit_self]
    omega
  unfold heldAtSwap
  split
  · exact hfilled
  · rwa [debit_other _ (by simp)]

/-- A swap that does not revert, and whose output is reported as it was, leaves the contract with
what it is about to pay. -/
theorem swapOutput_exists {s : OutputSwap} (hready : TargetReady d x w fill attestations)
    (hheld : w'.held = heldAtSwap msg addr fields fill w) (hs : s.WellFormed d)
    (hno : ¬s.Reverts d x)
    (hreported : ∀ r, s.execution d x (usdcDue msg addr fields fill) w'.held = some r →
      s.ReportedAs d (usdcDue msg addr fields fill) r)
    (hfits : ∀ r, s.execution d x (usdcDue msg addr fields fill) w'.held = some r →
      s.tokenType = .gas → r.paid + msg.value < 2 ^ 256) :
    ∃ output swapped, swapOutput d x s (usdcDue msg addr fields fill) w' = .ok (output, swapped) ∧
      (output.tokenType = .gas → output.token = d.wnative) ∧
      output.amount ≤ swapped.held (.erc20 output.token) ∧
      swapped.held .eth = w'.held .eth ∧
      (output.tokenType = .gas → output.amount + msg.value < 2 ^ 256) := by
  have hamount : usdcDue msg addr fields fill < 2 ^ 256 := usdcDue_lt _ _ _ hready.fill_eq.2
  have hdue := usdcDue_le_heldAtSwap msg addr fields fill w
  rw [← hheld] at hdue
  refine ⟨_, _, OutputSwap.swapOutput_eq hs hamount hready.honour hno, ?_⟩
  cases hex : s.execution d x (usdcDue msg addr fields fill) w'.held with
  | none => exact ⟨fun h => (by cases h), hdue, rfl, fun h => (by cases h)⟩
  | some r =>
    have hexec := hex
    unfold OutputSwap.execution at hexec
    split at hexec
    · rename_i hdep
      obtain ⟨hf, hpulled, -⟩ := execution_limits (hready.honour _ hdep) hexec
      have hmoves := settled_moves hf
      rw [hpulled] at hmoves
      have hbalances := (OutputSwap.outputOf_balances_iff hf.paid_lt hamount hpulled).2
        (hreported r hex)
      have hpay : (s.outputOf d (usdcDue msg addr fields fill) (some r)).amount ≤
          settled d.usdc s.token r w'.held
            (.erc20 (s.outputOf d (usdcDue msg addr fields fill) (some r)).token) := by
        have h₁ := hmoves (.erc20 (s.outputOf d (usdcDue msg addr fields fill) (some r)).token)
        have h₂ := single_le hdue
          (.erc20 (s.outputOf d (usdcDue msg addr fields fill) (some r)).token)
        rw [hbalances, single_self] at h₁
        omega
      have heth : settled d.usdc s.token r w'.held .eth = w'.held .eth := by
        have h₁ := hmoves .eth
        rw [single_other (by simp), single_other (by simp)] at h₁
        exact h₁
      rcases OutputSwap.outputOf_cases hf.paid_lt hamount hpulled (hreported r hex) with hout | hout
      · refine ⟨?_, hpay, heth, ?_⟩ <;> (rw [hout]; exact fun h => by cases h)
      · refine ⟨?_, hpay, heth, ?_⟩ <;> rw [hout]
        exacts [hs.gas, hfits r hex]
    · cases hexec

/-- **The call goes through** under the condition. -/
theorem redeemed_of_neverBlocks (hready : TargetReady d x w fill attestations)
    (hcall : ThirdPartyCall msg addr fields fill)
    (hmsg : fill.message =
      encodeSwapMessage (toUniversalAddress addr) fields.mode fields.encode out)
    {s : Option OutputSwap}
    (hparse : parseOutput d fill.message (REDEEM_OFFSET + fields.encode.length) =
      .ok (s, fill.message.length))
    (hcond : NeverBlocks x msg addr fields fill w) :
    ∃ r : Redeemed d x msg [] attestations w, r.fill = fill := by
  obtain ⟨planned, hplan, hheld, hvalue⟩ := redeemPlan_exists hready hcall hmsg
  have hsms : parseSwapMessageStructure fill.message = .ok ⟨addr, fields.mode, fields.sender,
      fields.bytes, REDEEM_OFFSET, REDEEM_OFFSET + fields.encode.length⟩ := by
    rw [hmsg, parseSwapMessageStructure_encode, fromUniversalAddress_toUniversalAddress]
    rfl
  have hover : ¬Overrides msg addr [] := fun h => h.2 rfl
  have hsection : sectionInForce msg addr fields fill [] =
      (fill.message, REDEEM_OFFSET + fields.encode.length) := if_neg hover
  have heth : msg.value ≤ planned.held .eth := hheld ▸ value_le_heldAtSwap msg addr fields fill w
  have hdue := usdcDue_le_heldAtSwap msg addr fields fill w
  have houtput : ∃ output swapped,
      redeemOutput d x s (usdcDue msg addr fields fill) planned = .ok (output, swapped) ∧
      (output.tokenType = .gas → output.token = d.wnative) ∧
      output.amount ≤ swapped.held (.erc20 output.token) ∧
      swapped.held .eth = planned.held .eth ∧
      (output.tokenType = .gas → output.amount + msg.value < 2 ^ 256) := by
    cases s with
    | none =>
      exact ⟨_, _, rfl, fun h => (by cases h), hheld ▸ hdue, rfl, fun h => (by cases h)⟩
    | some s =>
      have hexec (r : RouterReply)
          (hex : s.execution d x (usdcDue msg addr fields fill) planned.held = some r) :
          Executes x msg addr fields fill [] w s r :=
        ⟨⟨fill.message.length, by rw [hsection]; exact hparse⟩, hheld ▸ hex⟩
      exact swapOutput_exists hready hheld (parseOutput_wellFormed hparse)
        (hcond.completes s _ hparse) (fun r hex => (hcond.paid s r (hexec r hex)).reportedAs)
        fun r hex => hcond.fits s r (hexec r hex)
  obtain ⟨output, swapped, hswap, hgas, hpay, hethKept, hsum⟩ := houtput
  rw [hvalue] at heth hsum
  obtain ⟨reported, finished, hfinished⟩ := payRecipient_exists
    (dropoffDue msg addr fields) hready.accepts hgas hpay (by omega) hsum
  exact ⟨⟨fill, _, _, planned, s, fill.message.length, output, swapped, reported, finished,
    hready.fill_eq.1, hready.fill_eq.2, hready.peer, hsms, hplan, hvalue, hparse, hswap,
    ensure_pos rfl, hfinished⟩, rfl⟩

/-- **Under the condition the recipient is paid** the output of the swap, or the USDC. -/
theorem paidOut_of_neverBlocks (hready : TargetReady d x w fill attestations)
    (hcall : ThirdPartyCall msg addr fields fill)
    (hmsg : fill.message =
      encodeSwapMessage (toUniversalAddress addr) fields.mode fields.encode out)
    {s : Option OutputSwap}
    (hparse : parseOutput d fill.message (REDEEM_OFFSET + fields.encode.length) =
      .ok (s, fill.message.length))
    (hcond : NeverBlocks x msg addr fields fill w) :
    PaidOut (fun _ => []) x msg addr fields fill attestations w := by
  have hamount : usdcDue msg addr fields fill < 2 ^ 256 := usdcDue_lt _ _ _ hready.fill_eq.2
  obtain ⟨r, rfl⟩ := redeemed_of_neverBlocks hready hcall hmsg hparse hcond
  obtain ⟨-, ⟨ps, hps, hto, htotal⟩, hcase⟩ := r.recipient_paid hmsg hready.honour
  refine ⟨r.ret, r.result, ps, redeem_ok.2 ⟨r, rfl, rfl⟩, hps, hto, fun s' r' hex a => ?_,
    fun hnone a => ?_⟩
  · rcases hcase with ⟨-, -, hnone⟩ | ⟨s₁, r₁, hex₁, hpaid, hpulled, -, hlt, -⟩
    · exact absurd hex (hnone s' r')
    · obtain ⟨rfl, rfl⟩ := hex₁.unique hex
      obtain ⟨⟨o, hs₁⟩, -⟩ := hex₁
      have hasset := (OutputSwap.outputOf_asset_iff (parseOutput_wellFormed hs₁) hlt hamount
        hpulled).2 (hcond.paid s₁ r₁ hex) a
      rw [htotal a, hpaid, hasset]
  · rcases hcase with ⟨hpaid, -, -⟩ | ⟨s₁, r₁, hex₁, -⟩
    · rw [htotal a, hpaid]
      rfl
    · exact absurd hex₁ (hnone s₁ r₁)

/-- **A redemption that paid the recipient** meets the condition. -/
theorem neverBlocks_of_paidOut (hready : TargetReady d x w fill attestations)
    (hmsg : fill.message =
      encodeSwapMessage (toUniversalAddress addr) fields.mode fields.encode out)
    (hinside : SwapTypeInside fill.message (REDEEM_OFFSET + fields.encode.length))
    (h : PaidOut (fun _ => []) x msg addr fields fill attestations w) :
    NeverBlocks x msg addr fields fill w := by
  have hamount : usdcDue msg addr fields fill < 2 ^ 256 := usdcDue_lt _ _ _ hready.fill_eq.2
  obtain ⟨ret, w', toRecipient, hredeem, hpayouts, -, hswapped, -⟩ := h
  obtain ⟨r, -, rfl⟩ := redeem_ok.1 hredeem
  obtain rfl : r.fill = fill := Option.some.inj (r.delivered.symm.trans hready.fill_eq.1)
  obtain ⟨hplan, -⟩ := r.plan_eq hmsg
  obtain ⟨hnative, ⟨ps, hps, -, htotal⟩, hcase⟩ := r.recipient_paid hmsg hready.honour
  have hsame : toRecipient = ps := List.append_cancel_left (hpayouts.symm.trans hps)
  have hcompletes (s' : OutputSwap) (o : ℕ) (hs' : parseOutput d r.fill.message
      (REDEEM_OFFSET + fields.encode.length) = .ok (some s', o)) : ¬s'.Reverts d x := by
    have houtput := r.outputOk
    rw [r.outputSection_eq hmsg (by rw [hplan])] at houtput
    have hover : ¬Overrides msg addr [] := fun h => h.2 rfl
    rw [sectionInForce, if_neg hover] at houtput
    have hsome : r.output = some s' :=
      congrArg Prod.fst (Except.ok.inj (houtput.symm.trans hs'))
    have hswap := r.swapOk
    rw [hsome, hplan] at hswap
    exact (OutputSwap.swapOutput_ok (r.output_wellFormed s' hsome) hamount hready.honour hswap).2.2
  have hpaidAs (s' : OutputSwap) (r' : RouterReply)
      (hex : Executes x msg addr fields r.fill [] w s' r') :
      s'.PaidAs d (usdcDue msg addr fields r.fill) r' := by
    rcases hcase with ⟨-, -, hnone⟩ | ⟨s₁, r₁, hex₁, hpaid, hpulled, -, hlt, -⟩
    · exact absurd hex (hnone s' r')
    · obtain ⟨rfl, rfl⟩ := hex₁.unique hex
      obtain ⟨⟨o, hs₁⟩, -⟩ := hex₁
      refine (OutputSwap.outputOf_asset_iff (parseOutput_wellFormed hs₁) hlt hamount hpulled).1
        fun a => ?_
      have h₁ := htotal a
      have h₂ := hswapped s₁ r₁ hex a
      rw [hsame] at h₂
      rw [← hpaid]
      omega
  refine ⟨hinside, hcompletes, hpaidAs, fun s' r' hex hgas => ?_⟩
  rcases hcase with ⟨-, -, hnone⟩ | ⟨s₁, r₁, hex₁, hpaid, hpulled, -, hlt, -⟩
  · exact absurd hex (hnone s' r')
  · obtain ⟨rfl, rfl⟩ := hex₁.unique hex
    by_cases hzero : r₁.paid = 0
    · have hvalue := r.value
      rw [hplan] at hvalue
      have := dropoffDue_lt msg addr fields
      simp only at hvalue
      omega
    · have hout := OutputSwap.outputOf_of_paidAs hlt hpulled (hpaidAs _ _ hex) hgas hzero
      rw [hpaid, hout] at hnative
      exact (hnative hgas).2

end Target

/-- The condition, for a message whose recipient is an EVM address. -/
theorem paidOut_iff_neverBlocks
    (i : Initiated d₀ x₀ msg₀ targetChain (toUniversalAddress addr) params₀ w₀)
    (hmsg : fill.message = i.order.redeemerMessage)
    (hready : TargetReady d x w fill attestations)
    (hcall : ThirdPartyCall msg addr i.fields fill) :
    (∀ memory, PaidOut memory x msg addr i.fields fill attestations w) ↔
      NeverBlocks x msg addr i.fields fill w := by
  have hmessage : fill.message = i.message := hmsg
  have hencoded := hmessage.trans i.message_eq
  have hparse := i.parseOutput_message d
  rw [← hmessage] at hparse
  by_cases hinside : SwapTypeInside fill.message (REDEEM_OFFSET + i.fields.encode.length)
  · have hany : (∀ memory, PaidOut memory x msg addr i.fields fill attestations w) ↔
        PaidOut (fun _ => []) x msg addr i.fields fill attestations w := by
      have heq (memory : Bytes → Bytes) :=
        @redeemIn_of_inside d x msg w memory _ _ _ _ _ _ hready.fill_eq.1 hencoded hparse hinside
      simp only [PaidOut, heq]
      exact ⟨fun h => h fun _ => [], fun h _ => h⟩
    rw [hany]
    exact ⟨neverBlocks_of_paidOut hready hencoded hinside,
      paidOut_of_neverBlocks hready hcall hencoded hparse⟩
  · obtain ⟨memory, hblocks⟩ := @exists_memory_blocking d x msg w _ _ _ _ _ _
      hready.fill_eq.1 hencoded hparse hinside
    exact ⟨fun h => by obtain ⟨_, _, _, hok, -⟩ := h memory; exact absurd hok (hblocks _),
      fun h => absurd h.inside hinside⟩

/-- **When a redemption goes through.** For every message of an `initiate` with a non-Solana target
and every target chain that is ready for it, a third party's redemption pays the recipient what a
swap yielded, or the USDC, whatever stands in memory behind the message, exactly when the output
section reaches to its swap type, the output swap does not revert and what the router paid is what
is paid out. -/
theorem redeem_notBlocked_iff (i : Initiated d₀ x₀ msg₀ targetChain recipient params₀ w₀)
    (htarget : targetChain ≠ SOLANA_CHAIN_ID) :
    ∃ addr, recipient = toUniversalAddress addr ∧
      ∀ (d : Deployment) (x : Externals) (w : World) (msg : Msg d) (fill : Fill)
        (attestations : Bytes), fill.message = i.order.redeemerMessage →
        TargetReady d x w fill attestations → ThirdPartyCall msg addr i.fields fill →
        ((∀ memory, PaidOut memory x msg addr i.fields fill attestations w) ↔
          NeverBlocks x msg addr i.fields fill w) := by
  obtain ⟨addr, haddr⟩ := (fromUniversalAddress_isOk recipient).2
    ((checkAddr_ok.1 i.checked).2 htarget)
  obtain rfl := fromUniversalAddress_ok.1 haddr
  exact ⟨addr, rfl, fun d x w msg fill attestations hmsg hready hcall =>
    paidOut_iff_neverBlocks i hmsg hready hcall⟩

end Liveness

namespace Sample

/-- Slow, direct: 10 units of USDC, to be swapped through Uniswap for any amount of a token. -/
def forAnyAmountOut : Bytes := [0, 0, 1, 0] ++ toBE 16 10 ++ [0] ++ anyAmountOut

theorem ready (surplus : ℕ) : TargetReady deployment (delivering surplus anyAmountOut)
    (world fun _ => 0) (fill anyAmountOut) [] where
  delivered := ⟨_, redeemFill_ok.2 ⟨rfl, show 0 + 10 ≤ 10 ^ 17 by decide, rfl⟩⟩
  peer := rfl
  accepts _ := rfl
  honour _ _ := delivering_honours _ _ _

/-- A call of `initiate` whose message is the one of the fill. -/
theorem initiated : ∃ i : Initiated deployment (externals 0 0) (msg 0) 3
    (toUniversalAddress recipient) forAnyAmountOut (world fun _ => 0),
    (fill anyAmountOut).message = i.order.redeemerMessage ∧ i.fields = .direct ∧
      ThirdPartyCall (msg 0) recipient i.fields (fill anyAmountOut) := by
  have hrun : ((initiate deployment (externals 0 0) (msg 0) 3 (toUniversalAddress recipient)
      forAnyAmountOut (world fun _ => 0)).toOption.map fun r =>
        r.2.orders.map Order.redeemerMessage) = some [(fill anyAmountOut).message] := by
    decide +kernel
  obtain ⟨⟨ret, w'⟩, hok, horders⟩ := Option.map_eq_some_iff.1 hrun
  obtain ⟨i, rfl⟩ := initiate_ok (toOption_eq_some.1 hok)
  have hmessage : i.order.redeemerMessage = (fill anyAmountOut).message := by
    have := horders
    rw [i.orders_eq] at this
    exact (List.cons.inj this).1
  have hmode : i.mos.redeem.mode = .direct := by
    have hmos : (parseParamBaseStructure 3 forAnyAmountOut).toOption.map (fun mos =>
        mos.redeem.mode) = some .direct := by decide +kernel
    rw [i.parsed] at hmos
    exact Option.some.inj hmos
  have hfields := i.fields_mode.trans hmode
  exact ⟨i, hmessage.symm, RedeemFields.eq_direct hfields, by decide, .inl ⟨hfields, rfl⟩⟩

/-- The router takes the 10 units and pays nothing, which the message allows. There is no USDC left
to pay the recipient with. -/
theorem zeroOutput_blocked : ∃ i : Initiated deployment (externals 0 0) (msg 0) 3
      (toUniversalAddress recipient) forAnyAmountOut (world fun _ => 0),
    (fill anyAmountOut).message = i.order.redeemerMessage ∧
    TargetReady deployment (delivering 0 anyAmountOut) (world fun _ => 0) (fill anyAmountOut) [] ∧
    ThirdPartyCall (msg 0) recipient i.fields (fill anyAmountOut) ∧
    (∃ e, redeem deployment (delivering 0 anyAmountOut) (msg 0) [] [] (world fun _ => 0) =
      .error e) ∧
    ¬PaidOut (fun _ => []) (delivering 0 anyAmountOut) (msg 0) recipient i.fields
      (fill anyAmountOut) [] (world fun _ => 0) := by
  obtain ⟨i, hmessage, -, hcall⟩ := initiated
  have hnone : (redeem deployment (delivering 0 anyAmountOut) (msg 0) [] []
      (world fun _ => 0)).toOption.isNone = true := by decide +kernel
  obtain ⟨e, herror⟩ := toOption_eq_none.1 (Option.isNone_iff_eq_none.1 hnone)
  refine ⟨i, hmessage, ready 0, hcall, ⟨e, herror⟩, ?_⟩
  rintro ⟨ret, w', -, hok, -⟩
  cases herror.symm.trans hok

/-- A router that pays 7 units lets the redemption through. -/
theorem positiveOutput_paidOut : ∃ i : Initiated deployment (externals 0 0) (msg 0) 3
      (toUniversalAddress recipient) forAnyAmountOut (world fun _ => 0),
    (fill anyAmountOut).message = i.order.redeemerMessage ∧
    ∀ memory, PaidOut memory (delivering 7 anyAmountOut) (msg 0) recipient i.fields
      (fill anyAmountOut) [] (world fun _ => 0) := by
  obtain ⟨i, hmessage, hfields, hcall⟩ := initiated
  obtain ⟨addr, haddr, hiff⟩ := redeem_notBlocked_iff i (by decide)
  obtain rfl := toUniversalAddress_injective haddr
  refine ⟨i, hmessage, (hiff _ _ _ _ _ [] hmessage (ready 7) hcall).2
    ⟨?_, ?_, fun s r hex => .inr ?_, fun s r hex _ => ?_⟩⟩
  · rw [hfields]
    rintro t o hio -
    obtain ⟨-, rfl⟩ := parseIoToken_ok.1 hio
    split <;> decide
  · rintro s o - ⟨-, ⟨-, htoken⟩ | ⟨-, hrouter⟩⟩
    · cases htoken
    · cases hrouter
  · rw [hfields] at hex
    obtain ⟨hmixed, hpaid⟩ := executes_seven (.inr rfl) hex
    rw [if_neg hmixed, hpaid]
    decide
  · rw [hfields] at hex
    rw [(executes_seven (.inr rfl) hex).2]
    decide

end Sample

end SwapLayer.Evm
