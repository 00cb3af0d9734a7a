import SwapLayer.Evm.RedeemAccounting

/-!
# What a redemption pays, whatever the routers do

`redeem_accounted_iff` says where every unit of a redemption goes, for routers that honour their limits.
Here nothing is said of the routers. What a redemption pays in USDC is then all of the fill if no swap is
in force, and at most the fill unless a swap is to bring USDC again: a router that takes the USDC and
pays nothing leaves the recipient at most what the contract works with.

Results:
* `Redeemed.recipient_payouts`: who is paid.
* `Redeemed.usdcPaid_eq`, `Redeemed.usdcPaid_le`: how much USDC is paid.
-/

namespace SwapLayer.Evm

open ByteString Program Ledger

variable {d : Deployment} {x : Externals} {msg : Msg d} {params attestations : Bytes} {w w' : World}

/-- The swap of the output section in force: that of the parameters if they override the message. -/
def swapInForce (x : Externals) (msg : Msg d) (params attestations : Bytes) : Option OutputSwap := do
  let fill ← x.redeemFill attestations
  let sms ← (parseSwapMessageStructure fill.message).toOption
  let inForce := outputSection fill sms params (Overrides msg sms.recipient params)
  let (output, _) ← (parseOutput d inForce.1 inForce.2).toOption
  output

/-- The USDC that was paid out between two states. -/
def usdcPaid (d : Deployment) (w w' : World) : ℕ :=
  totalOf (w'.payouts.drop w.payouts.length) (.erc20 d.usdc)

/-- The output is USDC, or a token that a swap was to bring, and nobody has been paid yet. -/
theorem redeemOutput_output {s : Option OutputSwap} {usdcAmount : ℕ} {output : Output}
    (h : redeemOutput d x s usdcAmount w = .ok (output, w')) : w'.payouts = w.payouts ∧
      (output = ⟨.usdc, d.usdc, usdcAmount⟩ ∨
        ∃ s' n, s = some s' ∧ output = ⟨s'.tokenType, s'.token, n⟩) := by
  cases s with
  | none =>
    obtain ⟨rfl, rfl⟩ := pure_ok.1 h
    exact ⟨rfl, .inl rfl⟩
  | some s =>
    obtain ⟨n, w₁, hswap, hret⟩ := bind_ok.1 h
    obtain ⟨rfl, rfl⟩ := pure_ok.1 hret
    refine ⟨(swap_sameBooks _ _ _ hswap).payouts, ?_⟩
    split
    · exact .inl rfl
    · exact .inr ⟨s, n, rfl, rfl⟩

namespace Redeemed

variable (r : Redeemed d x msg params attestations w)

/-- **The plan of a call**: it divides the fill into the fee and the rest, and pays the fee. -/
theorem plan_divides : r.plan.relayingFee + r.plan.usdcAmount = r.fill.amount ∧
    r.plan.overrideMsg = decide (Overrides msg r.sms.recipient params) ∧
    ∃ fees, r.planned.payouts = w.payouts ++ fees ∧
      totalOf fees (.erc20 d.usdc) = r.plan.relayingFee := by
  have hplan := redeemPlan_ok.1 r.planOk
  by_cases hrelays : RelaysFor msg r.sms
  · rw [if_pos hrelays] at hplan
    obtain ⟨hpay, hle, -, hplan⟩ := hplan
    have hover : ¬Overrides msg r.sms.recipient params := fun h => hrelays.2 h.1
    rw [hplan]
    have hpayouts := payOut_payouts hpay
    exact ⟨Nat.add_sub_cancel' hle, (decide_eq_false hover).symm, _, hpayouts, by simp⟩
  · rw [if_neg hrelays] at hplan
    obtain ⟨hplanned, -, hplan⟩ := hplan
    rw [hplan, hplanned]
    exact ⟨Nat.zero_add _, rfl, [], (List.append_nil _).symm, rfl⟩

theorem swapInForce_eq : swapInForce x msg params attestations = r.output := by
  obtain ⟨-, hover, -⟩ := r.plan_divides
  have hparsed := r.parsed
  have houtput := r.outputOk
  rw [hover] at houtput
  simp only [swapInForce, r.delivered, hparsed, houtput, Option.bind_eq_bind, Option.bind_some,
    Except.toOption]

/-- The output is USDC, or what the swap in force was to bring. -/
theorem paid_output : r.paid = ⟨.usdc, d.usdc, r.plan.usdcAmount⟩ ∨
    ∃ s n, swapInForce x msg params attestations = some s ∧ r.paid = ⟨s.tokenType, s.token, n⟩ := by
  rw [r.swapInForce_eq]
  exact (redeemOutput_output r.swapOk).2

/-- The output goes to the recipient of the message, with the ETH. -/
theorem output_payouts : ∃ ps, r.result.payouts = r.planned.payouts ++ ps ∧
    (∀ p ∈ ps, p.recipient = r.sms.recipient) ∧
    ∀ a, totalOf ps a = (Pi.single r.paid.asset r.paid.amount : Asset → ℕ) a +
      (Pi.single .eth msg.value : Asset → ℕ) a := by
  have hpay := r.payOk
  rw [← r.value] at hpay
  obtain ⟨ps, hps, hto, htotal, -⟩ := payRecipient_payouts hpay
  obtain ⟨hsame, -⟩ := redeemOutput_output r.swapOk
  refine ⟨ps, ?_, hto, htotal⟩
  rw [← hsame, ← hps]
  simp [World.payouts, result]

/-- **Who is paid**: the fee recipient the fee of a relay, and the recipient everything else. -/
theorem recipient_payouts {addr : Address} {fields : RedeemFields} {out : Bytes}
    (hmsg : r.fill.message =
      encodeSwapMessage (toUniversalAddress addr) fields.mode fields.encode out) :
    ∃ ps, r.result.payouts = w.payouts ++ feePayouts msg addr fields w ++ ps ∧
      (∀ p ∈ ps, p.recipient = addr) ∧
      (swapInForce x msg params attestations = none → ∀ a, totalOf ps a =
        (Pi.single (.erc20 d.usdc) (usdcDue msg addr fields r.fill) : Asset → ℕ) a +
          (Pi.single .eth (dropoffDue msg addr fields) : Asset → ℕ) a) := by
  obtain ⟨ps, hps, hto, htotal⟩ := r.output_payouts
  obtain ⟨hplan, -, -, -, -, -, hplanned⟩ := r.plan_eq hmsg
  rw [r.sms_eq hmsg] at hto
  rw [hplanned] at hps
  refine ⟨ps, hps, hto, fun hnone a => ?_⟩
  rcases r.paid_output with hpaid | ⟨s, n, hs, -⟩
  · rw [htotal, hpaid, r.value, hplan]
    rfl
  · cases hs.symm.trans hnone

/-- The USDC that a call pays: the fee, and the output if it is USDC. -/
theorem usdcPaid_result : usdcPaid d w r.result = r.plan.relayingFee +
    (Pi.single r.paid.asset r.paid.amount : Asset → ℕ) (.erc20 d.usdc) := by
  obtain ⟨-, -, fees, hfees, htotal⟩ := r.plan_divides
  obtain ⟨ps, hps, -, houtput⟩ := r.output_payouts
  rw [usdcPaid, hps, hfees, List.append_assoc, List.drop_left, totalOf_append, htotal, houtput]
  simp

/-- **Without a swap all of the fill is paid.** -/
theorem usdcPaid_eq (h : swapInForce x msg params attestations = none) :
    usdcPaid d w r.result = r.fill.amount := by
  obtain ⟨hsum, -⟩ := r.plan_divides
  rcases r.paid_output with hpaid | ⟨s, n, hs, -⟩
  · rw [r.usdcPaid_result, hpaid, ← hsum]
    simp [Output.asset]
  · cases hs.symm.trans h

/-- **No more than the fill is paid**, unless a swap is to bring USDC. -/
theorem usdcPaid_le (h : ∀ s, swapInForce x msg params attestations = some s → s.token ≠ d.usdc) :
    usdcPaid d w r.result ≤ r.fill.amount := by
  obtain ⟨hsum, -⟩ := r.plan_divides
  rcases r.paid_output with hpaid | ⟨s, n, hs, hpaid⟩
  · rw [r.usdcPaid_result, hpaid, ← hsum]
    simp [Output.asset]
  · have hother : (Pi.single r.paid.asset r.paid.amount : Asset → ℕ) (.erc20 d.usdc) = 0 := by
      refine single_other ?_ _
      rw [hpaid, Output.asset]
      split
      · simp
      · exact fun heq => h s hs (Asset.erc20.inj heq).symm
    rw [r.usdcPaid_result, hother]
    omega

end Redeemed

end SwapLayer.Evm
