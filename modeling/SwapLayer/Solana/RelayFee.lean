import SwapLayer.Solana.StagedRuns

/-!
# Relayer fees of staged transfers

The fee of a relay is fixed when the transfer is staged, and so is what covers it: the USDC in
custody, or the minimum that a swap has to pay. The order follows later, after any steps in
between. The custody account of a USDC staging never falls below what was transferred into it,
and a swap pays its minimum or fails, so the fee that the message carries stays covered.

Results:
* `relayTransferAmount_covers`: staging takes an amount or a minimum above the fee.
* `paying_run`: what the orders of a staging carry in USDC, along every run.
* `relay_ordered_run`: every order of a relay exceeds its fee.
-/

namespace SwapLayer.Solana

open ByteString Program SplToken Messages

/-! ## What is staged -/

section Staged

variable {d : Deployment} {a : StageOutbound} {args : StageOutboundArgs} {b b' : Bank}

/-- **An amount or a minimum above the fee**: exact-in USDC, exact-out USDC, another mint. -/
theorem relayTransferAmount_covers {fee n : ℕ} (hpositive : args.amountIn ≠ 0)
    (h : relayTransferAmount .panic d a args fee = .ok n) :
    (a.srcMint = d.usdcMint → fee < n ∧ (args.isExactIn = false → n = args.amountIn + fee)) ∧
      (a.srcMint ≠ d.usdcMint → ∀ m, args.minAmountOut = some m → fee < m) := by
  unfold relayTransferAmount at h
  by_cases husdc : a.srcMint = d.usdcMint
  · refine ⟨fun _ => ?_, fun hne => absurd husdc hne⟩
    rw [if_pos husdc] at h
    split at h
    · rename_i hexact
      split at h
      · rename_i hlt
        cases h
        exact ⟨hlt, fun hfalse => absurd (hexact.symm.trans hfalse) (by simp)⟩
      · cases h
    · split at h
      · cases h
        exact ⟨by omega, fun _ => rfl⟩
      · cases h
  · refine ⟨fun he => absurd he husdc, fun _ m hm => ?_⟩
    rw [if_neg husdc, hm] at h
    dsimp only at h
    split at h
    · assumption
    · cases h

/-- The fee of a staged relay: within the given maximum, and covered by what was staged. -/
theorem Funded.relay_fee (g : Funded d a args b b') {gasDropoff : Uint 4} {maxRelayerFee fee : ℕ}
    (hoption : args.redeemOption = some (.relay gasDropoff maxRelayerFee))
    (hfee : calculateRelayerFee g.peer.relayParams gasDropoff g.outputToken = .ok fee) :
    fee ≤ maxRelayerFee ∧ relayTransferAmount .panic d a args fee = .ok g.transferAmount := by
  have hpriced := g.priced
  unfold stagedRedeem at hpriced
  rw [hoption] at hpriced
  obtain ⟨fee', hfee', h₁⟩ := except_bind_ok.1 hpriced
  obtain rfl : fee = fee' := Except.ok.inj (hfee.symm.trans hfee')
  obtain ⟨_, hmax, h₂⟩ := except_bind_ok.1 h₁
  obtain ⟨amount, hamount, h₃⟩ := except_bind_ok.1 h₂
  obtain ⟨rfl, -⟩ := Prod.mk.inj (except_pure_ok.1 h₃)
  exact ⟨ensure_ok.1 hmax, hamount⟩

end Staged

/-! ## What is ordered -/

section Runs

variable (d : Deployment) (a : StageOutbound) (s₀ : StagedOutbound) (old : List MarketOrder) (n : ℕ)

/-- The USDC of an order: all of the custody, or what a swap pays. -/
structure Pays (o : MarketOrder) : Prop where
  sent : a.srcMint = d.usdcMint → n ≤ o.amountIn
  swapped : a.srcMint ≠ d.usdcMint → ∃ m, s₀.info.minAmountOut = some m ∧ m ≤ o.amountIn

/-- The custody account of a USDC staging holds at least `n`, and every order of the staging pays. -/
structure Paying (b : Bank) : Prop where
  standing : Standing d a s₀ old b
  funded : ∀ c, b.tokens (d.stagedCustody a.stagedOutbound) = some c → a.srcMint = d.usdcMint →
    n ≤ c.amount
  orders : ∃ new, ordersOf d a.stagedOutbound b = old ++ new ∧
    ∀ o ∈ new, Carries s₀ o ∧ Pays d a s₀ n o

variable {d a s₀ old n} {b b' : Bank} {i : Externals × Act}

/-- The custody account always holds the staged mint. -/
theorem Standing.mint (hs : Standing d a s₀ old b) {c : TokenAccount Pubkey}
    (hc : b.tokens (d.stagedCustody a.stagedOutbound) = some c) : c.mint = a.srcMint := by
  cases hs with
  | fresh c' staged custody registered orders =>
    cases hc.symm.trans custody.token
    exact custody.mint
  | spent c' o staged custody registered mint orders carries =>
    cases hc.symm.trans custody.token
    exact custody.mint
  | closed new closed orders once carries => cases hc.symm.trans closed.custody

/-- One more order that pays. -/
theorem Paying.append {o : MarketOrder} (hp : Paying d a s₀ old n b)
    (horders : ordersOf d a.stagedOutbound b' = ordersOf d a.stagedOutbound b ++ [o])
    (ho : Carries s₀ o ∧ Pays d a s₀ n o) :
    ∃ new, ordersOf d a.stagedOutbound b' = old ++ new ∧
      ∀ o ∈ new, Carries s₀ o ∧ Pays d a s₀ n o := by
  obtain ⟨new, hnew, hall⟩ := hp.orders
  refine ⟨new ++ [o], by rw [horders, hnew, List.append_assoc], fun o' ho' => ?_⟩
  rcases List.mem_append.1 ho' with ho' | ho'
  · exact hall o' ho'
  · rw [List.mem_singleton.1 ho']
    exact ho

/-- **Every step keeps a staging paying.** -/
theorem paying_step (hp : Paying d a s₀ old n b) (h : step d a.stagedOutbound i b = .ok b') :
    Paying d a s₀ old n b' := by
  obtain ⟨hs, htransition⟩ := standing_step hp.standing h
  cases htransition with
  | idle act quiet =>
    refine ⟨hs, fun c' hc' husdc => ?_, ?_⟩
    · have hgrows := quiet.custody
      rw [hc'] at hgrows
      cases hc : b.tokens (d.stagedCustody a.stagedOutbound) with
      | none =>
        rw [hc] at hgrows
        cases hgrows
      | some c =>
        rw [hc] at hgrows
        obtain ⟨m, hle, hm⟩ := hgrows
        cases hm
        exact Nat.le_trans (hp.funded c hc husdc) hle
    · rw [quiet.orders]
      exact hp.orders
  | sent payer targetPeer c o act staged custody usdc amount carries orders closed =>
    refine ⟨hs, fun c' hc' _ => ?_, hp.append orders ⟨carries, ⟨fun husdc => ?_, fun hne => ?_⟩⟩⟩
    · cases hc'.symm.trans closed.custody
    · rw [amount]
      exact hp.funded c custody husdc
    · exact absurd ((hp.standing.mint custody).symm.trans usdc) hne
  | swapped payer targetPeer srcMint srcTokenProgram route c o call reply minAmountOut act staged
      custody notUsdc answered stagedMin enough amount carries orders left =>
    have hmint := hp.standing.mint custody
    refine ⟨hs, fun c' hc' husdc => ?_, hp.append orders ⟨carries, ⟨fun husdc => ?_, fun _ => ?_⟩⟩⟩
    · exact absurd (hmint.trans husdc) notUsdc
    · exact absurd (hmint.trans husdc) notUsdc
    · exact ⟨minAmountOut, stagedMin, amount ▸ enough⟩
  | refunded sender targetPeer senderToken c act custody signed refunded orders closed =>
    refine ⟨hs, fun c' hc' _ => ?_, ?_⟩
    · cases hc'.symm.trans closed.custody
    · rw [orders]
      exact hp.orders

/-- **Along every run** from a staging with `transferAmount`, the orders pay at least that much, or
the staged minimum. -/
theorem paying_run {args : StageOutboundArgs} {b₀ : Bank} (g : Funded d a args b b₀)
    (is : List (Externals × Act)) :
    Paying d a g.account (ordersOf d a.stagedOutbound b₀) g.transferAmount
      (run (step d a.stagedOutbound) is b₀) := by
  refine run_invariant (fun _ _ _ hp h => paying_step hp h) is b₀
    ⟨standing_stageOutbound g.toStagedAs, fun c hc husdc => ?_, [], (List.append_nil _).symm, nofun⟩
  obtain rfl : g.custody = c := Option.some.inj (g.custodyOf.token.symm.trans hc)
  exact g.funded husdc

/-- An order of a relay: its message carries a fee that it exceeds, and that the maximum allows; with
USDC that is not exact-in, what is left after the fee is the staged amount at least. -/
structure RelayOrdered (d : Deployment) (a : StageOutbound) (args : StageOutboundArgs)
    (gasDropoff : Uint 4) (maxRelayerFee : ℕ) (o : MarketOrder) where
  /-- 48 bits. -/
  fee : Uint 6
  token : OutputToken
  message : SwapMessageV1.readSlice o.redeemerMessage =
    .ok ⟨args.recipient, .relay gasDropoff fee, token⟩
  covered : fee.val < o.amountIn
  max : fee.val ≤ maxRelayerFee
  exactOut : a.srcMint = d.usdcMint → args.isExactIn = false → args.amountIn ≤ o.amountIn - fee

/-- **Every order of a relay exceeds its fee**, whatever happens between staging and initiation. -/
theorem relay_ordered_run {x : Externals} {args : StageOutboundArgs} {b₀ : Bank}
    (h : stageOutbound d x a args b = .ok ((), b₀)) {gasDropoff : Uint 4} {maxRelayerFee : ℕ}
    (hoption : args.redeemOption = some (.relay gasDropoff maxRelayerFee))
    (is : List (Externals × Act)) :
    ∃ new, ordersOf d a.stagedOutbound (run (step d a.stagedOutbound) is b₀) =
        ordersOf d a.stagedOutbound b₀ ++ new ∧
      ∀ o ∈ new, Nonempty (RelayOrdered d a args gasDropoff maxRelayerFee o) := by
  obtain ⟨g⟩ := stageOutbound_funded h
  obtain ⟨new, hnew, hall⟩ := (paying_run g is).orders
  refine ⟨new, hnew, fun o ho => ?_⟩
  obtain ⟨hcarries, hpays⟩ := hall o ho
  obtain ⟨mode, hrequested, hread⟩ := (g.toStagedAs.ordered hcarries).message
  rw [hoption] at hrequested
  obtain ⟨fee, hfee, rfl⟩ := hrequested
  obtain ⟨hmax, hamount⟩ := g.relay_fee hoption hfee
  obtain ⟨husdc, hother⟩ := relayTransferAmount_covers g.positive hamount
  refine ⟨⟨fee, g.outputToken, hread, ?_, hmax, fun hmint hexact => ?_⟩⟩
  · by_cases hmint : a.srcMint = d.usdcMint
    · exact Nat.lt_of_lt_of_le (husdc hmint).1 (hpays.sent hmint)
    · obtain ⟨m, hm, hle⟩ := hpays.swapped hmint
      exact Nat.lt_of_lt_of_le (hother hmint m hm) hle
  · have htotal := (husdc hmint).2 hexact
    have hpaid := hpays.sent hmint
    omega

end Runs

end SwapLayer.Solana
