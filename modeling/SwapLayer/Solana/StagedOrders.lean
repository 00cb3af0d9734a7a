import SwapLayer.Solana.Orders
import SwapLayer.Solana.StagedRecords

/-!
# Orders are as they were staged

Whatever happens to the program, an order is made from the record that a `stage_outbound` has written:
the one instruction that changes a record, a swap that leaves dust, spends it, and a spent record makes
no order any more. A transfer needs custody of USDC, which a swap does not have, and a swap needs a
recipient, which a spent record does not have.

What was staged is a parameter here (`P`); in runs it is what the steps so far have staged (`StagesAs`).

Results:
* `traced_step`: after a step every record goes back to a staging.
* `Traced.ordered`: an order says what was staged.
-/

namespace SwapLayer.Solana

open ByteString Program SplToken Messages

variable {d : Deployment} {b b' : Bank} {i : Externals × Event}

/-- A record that was staged as `s₀`. If a swap has spent it, its custody is not USDC. -/
inductive StagedFrom (d : Deployment) (b : Bank) (k : Pubkey) (s₀ : StagedOutbound) :
    StagedOutbound → Prop
  | fresh : StagedFrom d b k s₀ s₀
  | spent (hmint : ∀ c, b.tokens (d.stagedCustody k) = some c → c.mint ≠ d.usdcMint) :
      StagedFrom d b k s₀ s₀.spent

/-- **Every record goes back to a staging**, of which `P` knows. -/
def Traced (d : Deployment) (P : Pubkey → StagedOutbound → Prop) (b : Bank) : Prop :=
  ∀ k s, b.outbound k = some s → ∃ s₀, P k s₀ ∧ StagedFrom d b k s₀ s

/-- The step stages `s₀` under `k`. -/
inductive StagesAs (d : Deployment) (b b' : Bank) (k : Pubkey) (s₀ : StagedOutbound) : Event → Prop
  | staged (a : StageOutbound) (args : StageOutboundArgs) (g : StagedAs d a args b b')
      (hkey : a.stagedOutbound = k) (haccount : g.account = s₀) :
      StagesAs d b b' k s₀ (.call (.stageOutbound a args))

/-- A swap leaves custody that is not USDC. -/
theorem initiateSwapExactIn_mint {x : Externals} {a : InitiateSwapExactIn} {u : Unit}
    (h : initiateSwapExactIn d x a b = .ok (u, b')) {c : TokenAccount Pubkey}
    (hc : b.tokens (d.stagedCustody a.stagedOutbound) = some c) : c.mint ≠ d.usdcMint := by
  obtain ⟨s, c', peer, hk⟩ := initiateSwapExactIn_checked h
  obtain rfl : c' = c := Option.some.inj (hk.custody.symm.trans hc)
  exact hk.mint ▸ hk.notUsdc

/-- Only a swap spends. -/
theorem Event.spends_swap {e : Event} {k : Pubkey} (h : k ∈ e.spends) :
    ∃ a, e = .call (.initiateSwapExactIn a) ∧ a.stagedOutbound = k := by
  cases e with
  | call c =>
    cases c with
    | initiateSwapExactIn a => exact ⟨a, rfl, (List.mem_singleton.1 h).symm⟩
    | _ => cases h
  | _ => cases h

/-- A record that stays as it is, while its custody keeps its mint. -/
theorem StagedFrom.kept {k : Pubkey} {s₀ s : StagedOutbound} {C : Pubkey → Prop}
    (h : StagedFrom d b k s₀ s) (hm : Minted C b.accounts b'.accounts)
    (hk : ¬ C (d.stagedCustody k)) : StagedFrom d b' k s₀ s := by
  cases h with
  | fresh => exact .fresh
  | spent hmint =>
    refine .spent fun c' hc' => ?_
    obtain ⟨c, hc, hsame⟩ := hm _ c' hk hc'
    exact hsame ▸ hmint c hc

/-- Records and custody that stay as they are. -/
theorem Traced.of_same {P : Pubkey → StagedOutbound → Prop} (hb : Traced d P b)
    (houtbound : b'.outbound = b.outbound) (htokens : b'.tokens = b.tokens) : Traced d P b' := by
  intro k s hs
  obtain ⟨s₀, hP, hfrom⟩ := hb k s (houtbound ▸ hs)
  refine ⟨s₀, hP, ?_⟩
  cases hfrom with
  | fresh => exact .fresh
  | spent hmint => exact .spent (htokens ▸ hmint)

/-- **After a step every record goes back to a staging**, the new one to this step. -/
theorem traced_step {P : Pubkey → StagedOutbound → Prop} (hb : Traced d P b)
    (hfree : Uncontested d b i) (h : perform d i b = .ok b') :
    Traced d (fun k s₀ => P k s₀ ∨ StagesAs d b b' k s₀ i.2) b' := by
  obtain ⟨x, e⟩ := i
  have hok := perform_ok.1 h
  intro k s' hs'
  by_cases hstages : ∃ a args, e = .call (.stageOutbound a args)
  · obtain ⟨a, args, rfl⟩ := hstages
    obtain ⟨-, hminted, hothers⟩ := stageOutbound_others hok
    obtain ⟨g⟩ := stageOutbound_ok hok
    by_cases hk : k = a.stagedOutbound
    · subst hk
      obtain rfl : g.account = s' := Option.some.inj (g.outbound.symm.trans hs')
      exact ⟨_, .inr (.staged a args g rfl rfl), .fresh⟩
    · have hs := hothers k hk s' hs'
      obtain ⟨s₀, hP, hfrom⟩ := hb k s' hs
      refine ⟨s₀, .inl hP, hfrom.kept hminted fun he => hk ?_⟩
      -- another staging would have the same custody address
      obtain ⟨a', args', hi, rfl⟩ := hfree k (hs ▸ Option.some_ne_none s')
        (by rw [he]; exact List.mem_singleton_self _)
      cases hi
      rfl
  · have hev : ∀ a args, e ≠ .call (.stageOutbound a args) := fun a args he => hstages ⟨a, args, he⟩
    have hkeeps := Event.keeping hev _ _ _ hok
    obtain ⟨s, hs, hfollows⟩ := hkeeps.outbound k s' hs'
    have huncreated : d.stagedCustody k ∉ e.creates d := by
      intro hcreated
      obtain ⟨a, args, he, -⟩ := hfree k (hs ▸ Option.some_ne_none s) hcreated
      exact hev a args he
    obtain ⟨s₀, hP, hfrom⟩ := hb k s hs
    refine ⟨s₀, .inl hP, ?_⟩
    rcases hfollows with rfl | ⟨hspends, rfl⟩
    · exact hfrom.kept hkeeps.minted huncreated
    · obtain ⟨a, rfl, rfl⟩ := Event.spends_swap hspends
      have hmint : ∀ c', b'.tokens (d.stagedCustody a.stagedOutbound) = some c' → c'.mint ≠ d.usdcMint := by
        intro c' hc'
        obtain ⟨c, hc, hsame⟩ := hkeeps.minted _ c' huncreated hc'
        exact hsame ▸ initiateSwapExactIn_mint hok hc
      cases hfrom with
      | fresh => exact .spent hmint
      | spent => exact .spent hmint

/-- **An order says what was staged**: a spent record makes none. -/
theorem Traced.ordered {P : Pubkey → StagedOutbound → Prop} (hb : Traced d P b) {k : Pubkey}
    {s : StagedOutbound} (hs : b.outbound k = some s)
    (hunspent : (∃ c, b.tokens (d.stagedCustody k) = some c ∧ c.mint = d.usdcMint) ∨
      s.info.recipient ≠ zeroKey) : P k s := by
  obtain ⟨s₀, hP, hfrom⟩ := hb k s hs
  cases hfrom with
  | fresh => exact hP
  | spent hmint =>
    rcases hunspent with ⟨c, hc, husdc⟩ | hrecipient
    · exact absurd husdc (hmint c hc)
    · exact absurd rfl hrecipient

end SwapLayer.Solana
