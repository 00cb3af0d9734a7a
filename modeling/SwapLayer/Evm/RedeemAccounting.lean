import SwapLayer.Evm.Conservation
import SwapLayer.Evm.Redeem

/-!
# Where the funds of a redemption go

A redemption brings in the USDC of the fill and the attached ETH. This module asks whether all of
it reaches the fee recipient and the recipient as the message says, and leaves what the contract
held before untouched (`Accounted`).

It does, as long as the output that `swap` reports is the output there was (`OutputReported`). A
swap into zero units of the output token is taken for one that failed, and USDC is paid that the
router has already taken. A Uniswap swap from USDC to USDC is measured as a difference of balances
from which the input has gone out in the same call.

Results:
* `redeem_accounted_iff`: the exact condition, for every successful call on a well-formed message.
* `zeroOutput_drains`: a redemption that pays the recipient from leftovers.
-/

namespace SwapLayer.Evm

open ByteString Program Ledger

/-- The amount a router paid for `usdcAmount` is the amount that the contract works with: nothing
went in, or something came out, and where Uniswap swaps USDC to USDC as much as went in. -/
def OutputSwap.ReportedAs (s : OutputSwap) (d : Deployment) (usdcAmount : ℕ) (r : RouterReply) :
    Prop :=
  usdcAmount = 0 ∨ if s.Mixed d then r.paid = usdcAmount else r.paid ≠ 0

/-! ## What the message and the caller ask for -/

section Asked

variable {d : Deployment} (x : Externals) (msg : Msg d) (recipient : Address)
  (fields : RedeemFields)

/-- A relayer redeems for somebody else. -/
def PaysFee : Prop := fields.mode = .relay ∧ msg.sender ≠ recipient

instance : Decidable (PaysFee msg recipient fields) := inferInstanceAs (Decidable (_ ∧ _))

/-- The relaying fee, where it is due. -/
def feeDue : ℕ := if PaysFee msg recipient fields then fields.fee else 0

/-- The gas dropoff in wei, where it is due. -/
def dropoffDue : ℕ := if PaysFee msg recipient fields then gasDropoffFrom fields.dropoff else 0

/-- The recipient brings parameters that override the message. -/
def Overrides (params : Bytes) : Prop := msg.sender = recipient ∧ params ≠ []

instance (params : Bytes) : Decidable (Overrides msg recipient params) :=
  inferInstanceAs (Decidable (_ ∧ _))

/-- The output section in force and its offset. -/
def sectionInForce (fill : Fill) (params : Bytes) : Bytes × ℕ :=
  if Overrides msg recipient params then (params, 0)
  else (fill.message, REDEEM_OFFSET + fields.encode.length)

/-- The USDC left for the recipient. -/
def usdcDue (fill : Fill) : ℕ := fill.amount - feeDue msg recipient fields

/-- The holdings when the output swap starts: a fee paid to the contract itself stays there. -/
def heldAtSwap (fill : Fill) (w : World) : Asset → ℕ :=
  if w.storage.governance.feeRecipient = d.self then (filled d msg fill w).held
  else debit (filled d msg fill w).held (.erc20 d.usdc) (feeDue msg recipient fields)

/-- The transfer to the fee recipient, where the fee is due. -/
def feePayouts (w : World) : List Payout :=
  if PaysFee msg recipient fields then
    [⟨w.storage.governance.feeRecipient, .erc20 d.usdc, fields.fee⟩]
  else []

/-- The router executed the output swap `s` in force, and how. -/
def Executes (fill : Fill) (params : Bytes) (w : World) (s : OutputSwap) (r : RouterReply) : Prop :=
  (∃ o, parseOutput d (sectionInForce msg recipient fields fill params).1
    (sectionInForce msg recipient fields fill params).2 = .ok (some s, o)) ∧
  s.execution d x (usdcDue msg recipient fields fill) (heldAtSwap msg recipient fields fill w) =
    some r

/-- **Every unit is accounted for**: what went to the fee recipient, what went to the recipient, who
may do what, and that nothing else moved. -/
structure Accounted (fill : Fill) (params : Bytes) (w w' : World) : Prop where
  fee_le : feeDue msg recipient fields ≤ fill.amount
  attached : msg.value = dropoffDue msg recipient fields
  payload : fields.mode = .payload → msg.sender = recipient
  override : params ≠ [] → msg.sender = recipient
  paid : ∃ toRecipient : List Payout,
    w'.payouts = w.payouts ++ feePayouts msg recipient fields w ++ toRecipient ∧
    (∀ p ∈ toRecipient, p.recipient = recipient) ∧
    ((∀ a, totalOf toRecipient a = (Pi.single (.erc20 d.usdc) (usdcDue msg recipient fields fill) +
        Pi.single .eth msg.value : Asset → ℕ) a) ∨
      ∃ s r, Executes x msg recipient fields fill params w s r ∧
        r.pulled = usdcDue msg recipient fields fill ∧ s.params.outputAmount ≤ r.paid ∧
        ∀ a, totalOf toRecipient a = (Pi.single (Output.mk s.tokenType s.token r.paid).asset r.paid +
          Pi.single .eth msg.value : Asset → ℕ) a)
  conserved : Conserves w w'

/-- **The condition**: if a router executes the output swap, then the contract works with the
amount it paid. -/
def OutputReported (fill : Fill) (params : Bytes) (w : World) : Prop :=
  ∀ s r, Executes x msg recipient fields fill params w s r →
    s.ReportedAs d (usdcDue msg recipient fields fill) r

end Asked

/-! ## The output of an executed swap -/

section Output

variable {d : Deployment} {x : Externals} {s : OutputSwap} {r : RouterReply} {usdcAmount : ℕ}

/-- A measured output is the output unless both sides of the swap are USDC. -/
theorem OutputSwap.measured_of_not_mixed (hm : ¬s.Mixed d) : s.measured d r = r.paid := by
  rw [OutputSwap.measured, Evm.measured, if_pos rfl]
  exact if_neg hm

theorem OutputSwap.measured_of_mixed (hm : s.Mixed d) :
    s.measured d r = uncheckedSub r.paid r.pulled := by
  rw [OutputSwap.measured, Evm.measured, if_pos rfl]
  exact if_pos hm

theorem uncheckedSub_eq_zero {a b : ℕ} (ha : a < 2 ^ 256) (hb : b < 2 ^ 256) :
    uncheckedSub a b = 0 ↔ a = b := by
  rcases Nat.lt_or_ge a b with hlt | hge
  · rw [uncheckedSub_of_lt hlt (by omega)]
    omega
  · rw [uncheckedSub_of_le hge (by omega)]
    omega

/-- A difference is the minuend only if nothing is subtracted. -/
theorem uncheckedSub_eq_left {a b : ℕ} (ha : a < 2 ^ 256) (hb : b < 2 ^ 256) :
    uncheckedSub a b = a ↔ b = 0 := by
  rcases Nat.lt_or_ge a b with hlt | hge
  · rw [uncheckedSub_of_lt hlt (by omega)]
    omega
  · rw [uncheckedSub_of_le hge (by omega)]
    omega

/-- Two amounts of one asset. -/
theorem single_eq_iff (k : Asset) (m n : ℕ) :
    (∀ a, (Pi.single k m : Asset → ℕ) a = (Pi.single k n : Asset → ℕ) a) ↔ m = n := by
  constructor
  · intro h
    simpa only [single_self] using h k
  · rintro rfl a
    rfl

/-- **What is paid out is what the router paid** exactly when the swap is reported as it was. -/
theorem OutputSwap.outputOf_balances_iff (hpaid : r.paid < 2 ^ 256) (hamount : usdcAmount < 2 ^ 256)
    (hpulled : r.pulled = usdcAmount) :
    (∀ a, (Pi.single (.erc20 s.token) r.paid : Asset → ℕ) a =
        (Pi.single (.erc20 (s.outputOf d usdcAmount (some r)).token)
          (s.outputOf d usdcAmount (some r)).amount : Asset → ℕ) a) ↔
      s.ReportedAs d usdcAmount r := by
  rw [OutputSwap.outputOf_some, OutputSwap.ReportedAs]
  by_cases hm : s.Mixed d
  · have htoken := hm.2
    rw [s.measured_of_mixed hm, hpulled, if_pos hm]
    by_cases hz : uncheckedSub r.paid usdcAmount = 0
    · have heq := (uncheckedSub_eq_zero hpaid hamount).1 hz
      rw [if_pos hz, ← htoken, single_eq_iff]
      exact ⟨fun h => .inr h, fun _ => heq⟩
    · have hne := mt (uncheckedSub_eq_zero hpaid hamount).2 hz
      have hleft := uncheckedSub_eq_left hpaid hamount
      rw [if_neg hz, single_eq_iff]
      exact ⟨fun h => .inl (hleft.1 h.symm), fun h => (hleft.2 (h.resolve_right hne)).symm⟩
  · rw [s.measured_of_not_mixed hm, if_neg hm]
    by_cases hz : r.paid = 0
    · rw [if_pos hz, hz, Pi.single_zero]
      refine ⟨fun h => .inl ?_, fun h a => ?_⟩
      · have := h (.erc20 d.usdc)
        rw [single_self] at this
        exact this.symm
      · have hzero : usdcAmount = 0 := h.resolve_right fun h => h rfl
        subst hzero
        simp
    · rw [if_neg hz]
      exact ⟨fun _ => .inr hz, fun _ _ => rfl⟩

/-- An output reported as it was is USDC unswapped, or the output of the swap. -/
theorem OutputSwap.outputOf_cases (hpaid : r.paid < 2 ^ 256) (hamount : usdcAmount < 2 ^ 256)
    (hpulled : r.pulled = usdcAmount)
    (h : s.ReportedAs d usdcAmount r) :
    s.outputOf d usdcAmount (some r) = ⟨.usdc, d.usdc, usdcAmount⟩ ∨
      s.outputOf d usdcAmount (some r) = ⟨s.tokenType, s.token, r.paid⟩ := by
  rw [OutputSwap.outputOf_some]
  by_cases hz : s.measured d r = 0
  · exact .inl (if_pos hz)
  · refine .inr ?_
    rw [if_neg hz]
    congr 1
    by_cases hm : s.Mixed d
    · rw [s.measured_of_mixed hm, hpulled] at hz ⊢
      rw [OutputSwap.ReportedAs, if_pos hm] at h
      have hne := mt (uncheckedSub_eq_zero hpaid hamount).2 hz
      exact (uncheckedSub_eq_left hpaid hamount).2 (h.resolve_right hne)
    · exact s.measured_of_not_mixed hm

end Output

/-! ## The accounts of a successful call -/

section Accounts

variable {d : Deployment} {x : Externals} {msg : Msg d} {w w' : World} {recipient : Bytes32}
  {fields : RedeemFields} {out params attestations : Bytes} {fill : Fill} {addr : Address}

/-- The section in force and the router decide how the swap is executed. -/
theorem Executes.unique {s s' : OutputSwap} {r r' : RouterReply}
    (h : Executes x msg addr fields fill params w s r)
    (h' : Executes x msg addr fields fill params w s' r') : s = s' ∧ r = r' := by
  obtain ⟨⟨o, hparse⟩, hex⟩ := h
  obtain ⟨⟨o', hparse'⟩, hex'⟩ := h'
  rw [hparse] at hparse'
  cases hparse'
  rw [hex] at hex'
  exact ⟨rfl, Option.some.inj hex'⟩

/-- The USDC of a fill that arrived is within the supply. -/
theorem usdcDue_lt (msg : Msg d) (addr : Address) (fields : RedeemFields)
    (h : w.held (.erc20 d.usdc) + fill.amount ≤ x.supply d.usdc) :
    usdcDue msg addr fields fill < 2 ^ 256 := by
  have := x.supply_lt d.usdc
  unfold usdcDue
  omega

/-- What the output swap did to the holdings: it took the USDC and brought in what was paid. -/
theorem redeemOutput_ok {s : Option OutputSwap} {usdcAmount : ℕ} {output : Output}
    (hs : ∀ s', s = some s' → s'.WellFormed d) (hamount : usdcAmount < 2 ^ 256)
    (hr : RoutersHonour d x)
    (h : redeemOutput d x s usdcAmount w = .ok (output, w')) :
    w'.payouts = w.payouts ∧
      ((output = ⟨.usdc, d.usdc, usdcAmount⟩ ∧ w'.held = w.held ∧
          ∀ s', s = some s' → s'.execution d x usdcAmount w.held = none) ∨
        ∃ s' r, s = some s' ∧ s'.execution d x usdcAmount w.held = some r ∧
          output = s'.outputOf d usdcAmount (some r) ∧
          r.pulled = usdcAmount ∧ s'.params.outputAmount ≤ r.paid ∧ r.paid < 2 ^ 256 ∧
          Moves w.held w'.held (Pi.single (.erc20 s'.token) r.paid)
            (Pi.single (.erc20 d.usdc) usdcAmount)) := by
  cases s with
  | none =>
    obtain ⟨rfl, rfl⟩ := pure_ok.1 h
    exact ⟨rfl, .inl ⟨rfl, rfl, fun _ h => by cases h⟩⟩
  | some s' =>
    obtain ⟨hout, rfl, -⟩ := OutputSwap.swapOutput_ok (hs s' rfl) hamount hr h
    refine ⟨rfl, ?_⟩
    cases hex : s'.execution d x usdcAmount w.held with
    | none =>
      rw [hex] at hout
      refine .inl ⟨hout, rfl, ?_⟩
      rintro _ ⟨⟩
      exact hex
    | some r =>
      rw [hex] at hout
      have hexec := hex
      unfold OutputSwap.execution at hexec
      split at hexec
      · rename_i hdep
        obtain ⟨hf, hpulled, hmin⟩ := execution_limits (hr _ hdep) hexec
        have hmoves := settled_moves hf
        rw [hpulled] at hmoves
        exact .inr ⟨s', r, rfl, hex, hout, hpulled, hmin, hf.paid_lt, hmoves⟩
      · cases hexec

namespace Redeemed

variable (r : Redeemed d x msg params attestations w)

/-- The message as `redeem` parses it. -/
theorem sms_eq (hmsg : r.fill.message =
      encodeSwapMessage (toUniversalAddress addr) fields.mode fields.encode out) :
    r.sms = ⟨addr, fields.mode, fields.sender, fields.bytes, REDEEM_OFFSET,
      REDEEM_OFFSET + fields.encode.length⟩ := by
  have h := r.parsed
  rw [hmsg, parseSwapMessageStructure_encode, fromUniversalAddress_toUniversalAddress] at h
  exact (Except.ok.inj h).symm

/-- **The plan of a call** on a well-formed message, and what the transfer of the fee did. -/
theorem plan_eq (hmsg : r.fill.message =
      encodeSwapMessage (toUniversalAddress addr) fields.mode fields.encode out) :
    r.plan = ⟨feeDue msg addr fields, dropoffDue msg addr fields, usdcDue msg addr fields r.fill,
        Overrides msg addr params⟩ ∧
      feeDue msg addr fields ≤ r.fill.amount ∧
      (fields.mode = .payload → msg.sender = addr) ∧ (params ≠ [] → msg.sender = addr) ∧
      r.planned.held = heldAtSwap msg addr fields r.fill w ∧
      feeDue msg addr fields ≤ (filled d msg r.fill w).held (.erc20 d.usdc) ∧
      r.planned.payouts = w.payouts ++ feePayouts msg addr fields w := by
  have hsms := r.sms_eq hmsg
  have hplan := redeemPlan_ok.1 r.planOk
  have hrecipient : r.sms.recipient = addr := by rw [hsms]
  have hmode : r.sms.redeemMode = fields.mode := by rw [hsms]
  have hrelays : RelaysFor msg r.sms ↔ PaysFee msg addr fields := by
    rw [RelaysFor, PaysFee, hrecipient, hmode]
  have hpayouts : (filled d msg r.fill w).payouts = w.payouts := rfl
  by_cases hpays : PaysFee msg addr fields
  · have hparams : relayParams r.fill r.sms =
        (fields.dropoff, fields.fee, REDEEM_OFFSET + RELAY_PARAM_SIZE) := by
      rw [relayParams, hsms, hmsg]
      exact parseRelayParams_message _ _ hpays.1
    rw [if_pos (hrelays.2 hpays), hparams] at hplan
    obtain ⟨hpay, hle, hempty, hplan⟩ := hplan
    obtain ⟨hheld, -, hplanned⟩ := payOut_ok.1 hpay
    have hfee : feeDue msg addr fields = fields.fee := if_pos hpays
    have hover : ¬Overrides msg addr params := fun h => hpays.2 h.1
    refine ⟨?_, by rw [hfee]; exact hle, fun hp => ?_, fun hp => absurd hempty hp, ?_, ?_, ?_⟩
    · rw [hplan, hfee, dropoffDue, if_pos hpays, usdcDue, hfee, decide_eq_false hover]
    · rw [hpays.1] at hp
      cases hp
    · rw [hplanned, heldAtSwap, hfee]
      rfl
    · rw [hfee]
      exact hheld
    · rw [payOut_payouts hpay, hpayouts, feePayouts, if_pos hpays]
      rfl
  · rw [if_neg fun h => hpays (hrelays.1 h), hrecipient, hmode] at hplan
    obtain ⟨hplanned, hallowed, hplan⟩ := hplan
    have hfee : feeDue msg addr fields = 0 := if_neg hpays
    refine ⟨?_, by omega, fun hp => ?_, fun hp => ?_, ?_, by omega, ?_⟩
    · rw [hplan, hfee, dropoffDue, if_neg hpays, usdcDue, hfee]
      rfl
    · exact hallowed.resolve_right fun h => h.1 hp
    · exact hallowed.resolve_right fun h => hp h.2
    · rw [hplanned, heldAtSwap, hfee, debit_zero, ite_self]
    · rw [hplanned, hpayouts, feePayouts, if_neg hpays, List.append_nil]

/-- The output section that a call works with. -/
theorem outputSection_eq (hmsg : r.fill.message =
      encodeSwapMessage (toUniversalAddress addr) fields.mode fields.encode out)
    (hplan : r.plan.overrideMsg = decide (Overrides msg addr params)) :
    outputSection r.fill r.sms params r.plan.overrideMsg =
      sectionInForce msg addr fields r.fill params := by
  rw [outputSection, sectionInForce, hplan, r.sms_eq hmsg]
  by_cases h : Overrides msg addr params <;> simp [h]

/-- **All flows of a call**: the fill and the attached ETH came in, the fee, the output and the ETH
went out, and what the swap moved is `i` and `o`. The contract ends where it began iff what is left
of the fill and what the swap brought in is what the swap took and the recipient got. -/
theorem conserves_iff (hne : w.storage.governance.feeRecipient ≠ d.self) (haddr : addr ≠ d.self)
    (hmsg : r.fill.message =
      encodeSwapMessage (toUniversalAddress addr) fields.mode fields.encode out)
    (hgas : r.paid.tokenType = .gas → r.paid.token = d.wnative) {i o : Asset → ℕ}
    (hswap : Moves r.planned.held r.swapped.held i o) :
    Conserves w r.result ↔ ∀ a,
      (Pi.single (.erc20 d.usdc) (usdcDue msg addr fields r.fill) : Asset → ℕ) a + i a =
        o a + (Pi.single (.erc20 r.paid.token) r.paid.amount : Asset → ℕ) a := by
  obtain ⟨hplan, hle, -, -, hheld, hfee, -⟩ := r.plan_eq hmsg
  rw [heldAtSwap, if_neg hne] at hheld
  have hpay := r.payOk
  rw [← r.value] at hpay
  have hpaid := payRecipient_moves (r.sms_eq hmsg ▸ haddr) hgas hpay
  have hfilled := (moves_credit w.held .eth msg.value).trans
    (moves_credit _ (.erc20 d.usdc) r.fill.amount)
  have hplanned := moves_debit hfee
  have hmoves := ((hfilled.trans hplanned).trans (hheld ▸ hswap)).trans hpaid
  have hsplit : r.fill.amount = usdcDue msg addr fields r.fill + feeDue msg addr fields := by
    unfold usdcDue
    omega
  refine hmoves.conserved_iff.trans (forall_congr' fun a => ?_)
  rw [hsplit]
  simp only [Pi.add_apply, Pi.zero_apply, single_add_apply]
  omega

theorem output_wellFormed (s : OutputSwap) (hs : r.output = some s) : s.WellFormed d :=
  parseOutput_wellFormed (hs ▸ r.outputOk)

/-- **What the recipient got**: the payouts, and either no swap took place and they are the USDC, or
one did and they are its output as the contract measured it. -/
theorem recipient_paid (hmsg : r.fill.message =
      encodeSwapMessage (toUniversalAddress addr) fields.mode fields.encode out)
    (hr : RoutersHonour d x) :
    (r.paid.tokenType = .gas →
      r.paid.token = d.wnative ∧ r.paid.amount + msg.value < 2 ^ 256) ∧
    (∃ ps, r.result.payouts = w.payouts ++ feePayouts msg addr fields w ++ ps ∧
      (∀ p ∈ ps, p.recipient = addr) ∧
      ∀ a, totalOf ps a = (Pi.single r.paid.asset r.paid.amount : Asset → ℕ) a +
        (Pi.single .eth msg.value : Asset → ℕ) a) ∧
    ((r.paid = ⟨.usdc, d.usdc, usdcDue msg addr fields r.fill⟩ ∧
        Moves r.planned.held r.swapped.held 0 0 ∧
        ∀ s r', ¬Executes x msg addr fields r.fill params w s r') ∨
      ∃ s r', Executes x msg addr fields r.fill params w s r' ∧
        r.paid = s.outputOf d (usdcDue msg addr fields r.fill) (some r') ∧
        r'.pulled = usdcDue msg addr fields r.fill ∧ s.params.outputAmount ≤ r'.paid ∧
        r'.paid < 2 ^ 256 ∧
        Moves r.planned.held r.swapped.held (Pi.single (.erc20 s.token) r'.paid)
          (Pi.single (.erc20 d.usdc) (usdcDue msg addr fields r.fill))) := by
  obtain ⟨hplan, -, -, -, hheld, -, hpayouts⟩ := r.plan_eq hmsg
  have houtput := r.outputOk
  rw [r.outputSection_eq hmsg (by rw [hplan])] at houtput
  have husdc : r.plan.usdcAmount = usdcDue msg addr fields r.fill := by rw [hplan]
  have hswap := r.swapOk
  rw [husdc] at hswap
  obtain ⟨hsame, hcase⟩ := redeemOutput_ok r.output_wellFormed (usdcDue_lt msg addr fields r.within) hr hswap
  rw [hheld] at hcase
  have hgas : r.paid.tokenType = .gas → r.paid.token = d.wnative := by
    rcases hcase with ⟨hpaid, -, -⟩ | ⟨s, r', hs, -, hpaid, -⟩
    · rw [hpaid]
      exact fun h => by cases h
    · rw [hpaid, OutputSwap.outputOf_some]
      split
      · exact fun h => by cases h
      · exact (r.output_wellFormed s hs).gas
  have hpay := r.payOk
  have hrecipient : r.sms.recipient = addr := by rw [r.sms_eq hmsg]
  rw [hrecipient, ← r.value] at hpay
  obtain ⟨ps, hps, hto, htotal, hlt⟩ := payRecipient_payouts hpay
  refine ⟨fun h => ⟨hgas h, hlt h⟩, ⟨ps, ?_, hto, htotal⟩, ?_⟩
  · rw [← hpayouts, ← hsame, ← hps]
    simp [World.payouts, Redeemed.result]
  · rw [hheld]
    rcases hcase with ⟨hpaid, hsame', hnone⟩ | ⟨s, r', hs, hex, hpaid, hpulled, hmin, hlt, hmoves⟩
    · refine .inl ⟨hpaid, hsame' ▸ Moves.refl _, ?_⟩
      rintro s r' ⟨⟨o, hparse⟩, hex⟩
      rw [houtput] at hparse
      rw [hnone s (congrArg Prod.fst (Except.ok.inj hparse))] at hex
      cases hex
    · exact .inr ⟨s, r', ⟨⟨r.offset, hs ▸ houtput⟩, hex⟩, hpaid, hpulled, hmin, hlt, hmoves⟩

end Redeemed

/-- **When a redemption accounts for every unit.** For every successful call on a fill with a
well-formed message, when routers honour their limits and neither the recipient nor the fee
recipient is the contract, every unit is accounted for exactly when the output of the swap is
reported as it was. -/
theorem redeem_accounted_iff {ret : Bytes} (hfill : x.redeemFill attestations = some fill)
    (hmsg : fill.message =
      encodeSwapMessage (toUniversalAddress addr) fields.mode fields.encode out)
    (haddr : addr ≠ d.self) (hfeeRecipient : w.storage.governance.feeRecipient ≠ d.self)
    (hr : RoutersHonour d x)
    (h : redeem d x msg params attestations w = .ok (ret, w')) :
    Accounted x msg addr fields fill params w w' ↔
      OutputReported x msg addr fields fill params w := by
  obtain ⟨r, -, rfl⟩ := redeem_ok.1 h
  obtain rfl : r.fill = fill := Option.some.inj (r.delivered.symm.trans hfill)
  obtain ⟨hplan, hle, hpayload, hoverride, -⟩ := r.plan_eq hmsg
  have hattached : msg.value = dropoffDue msg addr fields := by rw [r.value, hplan]
  have hamount := usdcDue_lt msg addr fields r.within
  obtain ⟨hnative, ⟨ps, hps, hto, htotal⟩, hcase⟩ := r.recipient_paid hmsg hr
  have hgas := fun h => (hnative h).1
  rcases hcase with ⟨hpaid, hmoves, hnone⟩ | ⟨s, r', hexec, hpaid, hpulled, hmin, hlt, hmoves⟩
  · have hconserves := r.conserves_iff hfeeRecipient haddr hmsg hgas hmoves
    rw [hpaid] at hconserves htotal
    exact ⟨fun _ s r' hex => absurd hex (hnone s r'), fun _ => ⟨hle, hattached, hpayload, hoverride,
      ⟨ps, hps, hto, .inl htotal⟩, hconserves.2 fun a => by simp⟩⟩
  · have hconserves := r.conserves_iff hfeeRecipient haddr hmsg hgas hmoves
    have hbalances : Conserves w r.result ↔ s.ReportedAs d (usdcDue msg addr fields r.fill) r' := by
      rw [hconserves, ← OutputSwap.outputOf_balances_iff hlt hamount hpulled, ← hpaid]
      exact forall_congr' fun a => Nat.add_left_cancel_iff
    constructor
    · intro hacc s' r'' hex
      obtain ⟨rfl, rfl⟩ := hexec.unique hex
      exact hbalances.1 hacc.conserved
    · intro hreported
      have hrep := hreported s r' hexec
      refine ⟨hle, hattached, hpayload, hoverride, ⟨ps, hps, hto, ?_⟩, hbalances.2 hrep⟩
      rcases OutputSwap.outputOf_cases hlt hamount hpulled hrep with hcase | hcase
      · rw [hpaid, hcase] at htotal
        exact .inl htotal
      · rw [hpaid, hcase] at htotal
        exact .inr ⟨s, r', hexec, hpulled, hmin, htotal⟩

end Accounts

namespace Sample

/-- The router takes the 10 units of the fill and pays nothing, which the message allows; the
recipient is paid 10 units out of the 1000 that were there. -/
theorem zeroOutput_drains :
    (∀ swapType, RouterHonours deployment (delivering 0 anyAmountOut) swapType) ∧
    ∃ (ret : Bytes) (w' : World),
      redeem deployment (delivering 0 anyAmountOut) (msg 0) [] [] (world leftovers) =
        .ok (ret, w') ∧
      w'.payouts = [⟨recipient, .erc20 usdc, 10⟩] ∧ w'.held (.erc20 usdc) = 990 ∧
      ¬Accounted (delivering 0 anyAmountOut) (msg 0) recipient .direct (fill anyAmountOut) []
        (world leftovers) w' := by
  refine ⟨fun _ => delivering_honours _ _ _, ?_⟩
  have hrun : ((redeem deployment (delivering 0 anyAmountOut) (msg 0) [] []
      (world leftovers)).toOption.map fun r => (r.2.payouts, r.2.held (.erc20 usdc))) =
      some ([⟨recipient, .erc20 usdc, 10⟩], 990) := by decide +kernel
  obtain ⟨⟨ret, w'⟩, hok, hpair⟩ := Option.map_eq_some_iff.1 hrun
  have hpayouts : w'.payouts = _ := congrArg Prod.fst hpair
  have hheld : w'.held (.erc20 usdc) = 990 := congrArg Prod.snd hpair
  have hbefore : (world leftovers).held (.erc20 usdc) = 1000 := by decide
  refine ⟨ret, w', toOption_eq_some.1 hok, hpayouts, hheld, fun hacc => ?_⟩
  have := hacc.conserved (.erc20 usdc)
  omega

/-- A router that pays 7 units where any amount will do. -/
theorem executes_seven {held : Asset → ℕ} (hheld : held = leftovers ∨ held = fun _ => 0)
    {s : OutputSwap} {r : RouterReply}
    (h : Executes (delivering 7 anyAmountOut) (msg 0) recipient .direct (fill anyAmountOut) []
      (world held) s r) : ¬s.Mixed deployment ∧ r.paid = 7 := by
  obtain ⟨⟨o, hparse⟩, hexec⟩ := h
  have hswap : (parseOutput deployment
      (sectionInForce (msg 0) recipient .direct (fill anyAmountOut) []).1
      (sectionInForce (msg 0) recipient .direct (fill anyAmountOut) []).2).toOption.map (fun p =>
        p.1.map fun s => (decide (s.Mixed deployment), s.execution deployment
          (delivering 7 anyAmountOut) (usdcDue (msg 0) recipient .direct (fill anyAmountOut))
          (heldAtSwap (msg 0) recipient .direct (fill anyAmountOut) (world held)))) =
      some (some (false, some ⟨10, 7⟩)) := by
    rcases hheld with rfl | rfl <;> decide +kernel
  rw [hparse] at hswap
  have hpair := Option.some.inj (Option.some.inj hswap)
  have hreply := congrArg Prod.snd hpair
  simp only at hreply
  rw [hexec] at hreply
  cases hreply
  exact ⟨of_decide_eq_false (congrArg Prod.fst hpair), rfl⟩

/-- It keeps the accounts in order. -/
theorem positiveOutput_accounted :
    ∃ (ret : Bytes) (w' : World),
      redeem deployment (delivering 7 anyAmountOut) (msg 0) [] [] (world leftovers) =
        .ok (ret, w') ∧
      Accounted (delivering 7 anyAmountOut) (msg 0) recipient .direct (fill anyAmountOut) []
        (world leftovers) w' := by
  have hrun : (redeem deployment (delivering 7 anyAmountOut) (msg 0) [] []
      (world leftovers)).toOption.isSome = true := by decide +kernel
  obtain ⟨⟨ret, w'⟩, hok⟩ := Option.isSome_iff_exists.1 hrun
  have hsuccess := toOption_eq_some.1 hok
  have hmsg : (fill anyAmountOut).message = encodeSwapMessage (toUniversalAddress recipient)
      RedeemFields.direct.mode RedeemFields.direct.encode anyAmountOut := rfl
  refine ⟨ret, w', hsuccess, (redeem_accounted_iff rfl hmsg (by decide) (by decide)
    (fun _ _ => delivering_honours _ _ _) hsuccess).2 fun s r hex => .inr ?_⟩
  obtain ⟨hmixed, hpaid⟩ := executes_seven (.inl rfl) hex
  rw [if_neg hmixed, hpaid]
  decide

end Sample

end SwapLayer.Evm
