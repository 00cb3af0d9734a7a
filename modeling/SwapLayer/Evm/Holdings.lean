import SwapLayer.Evm.System
import SwapLayer.Evm.Conservation
import SwapLayer.Evm.RedeemAccounting
import SwapLayer.Evm.RoundTrip

/-!
# What the contract holds over its history

A call of `initiate` and of `redeem` passes on what it brings in, if it is harmless: routers honour
their limits, and a swap is reported as it was. Approvals and fee updates move nothing. What is
left is governance, which may sweep.

Results:
* `execute_orders`: only `initiate` places an order, and it places one.
* `execute_settles`: what a harmless step takes out of the contract is what it swept.
* `history_settles`: along every harmless history the holdings change by what was swept, and by
  nothing else; a sweep goes to its caller, who has a role at that moment.
-/

namespace SwapLayer.Evm

open ByteString Program Ledger

/-! ## Governance may take funds out -/

section Sweeping

variable {d : Deployment} {x : Externals} {msg : Msg d} {w w' : World}

/-- No order is placed, and what leaves goes to the caller. -/
structure Sweeps (caller : Address) (w w' : World) : Prop where
  orders : w'.orders = w.orders
  paid : ∃ ps, w'.payouts = w.payouts ++ ps ∧ (∀ p ∈ ps, p.recipient = caller) ∧
    Moves w.held w'.held 0 (totalOf ps)

namespace Sweeps

variable {caller : Address}

theorem of_same (horders : w'.orders = w.orders) (hpayouts : w'.payouts = w.payouts)
    (hheld : w'.held = w.held) : Sweeps caller w w' := by
  refine ⟨horders, [], by simp [hpayouts], by simp, fun a => ?_⟩
  simp [hheld]

theorem refl (w : World) : Sweeps caller w w := of_same rfl rfl rfl

theorem trans (w₁ w₂ w₃ : World) (h₁ : Sweeps caller w₁ w₂) (h₂ : Sweeps caller w₂ w₃) :
    Sweeps caller w₁ w₃ := by
  obtain ⟨horders₁, ps, hps, hto, hmoves⟩ := h₁
  obtain ⟨horders₂, qs, hqs, hto', hmoves'⟩ := h₂
  refine ⟨horders₂.trans horders₁, ps ++ qs, by rw [hqs, hps, List.append_assoc], ?_, fun a => ?_⟩
  · intro p hp
    rcases List.mem_append.1 hp with h | h
    · exact hto p h
    · exact hto' p h
  · have h := hmoves.trans hmoves' a
    simpa using h

/-- An event that is neither a payout nor an order. -/
theorem of_record {e : Effect} {s : Storage} (hpayout : ∀ p, e ≠ .payout p)
    (horder : ∀ o, e ≠ .order o) : Sweeps caller w ((w.withStorage s).record e) := by
  refine of_same ?_ ?_ rfl
  · cases e with
    | order o => exact absurd rfl (horder o)
    | _ => simp [World.orders]
  · cases e with
    | payout p => exact absurd rfl (hpayout p)
    | _ => simp [World.payouts]

end Sweeps

theorem payOut_sweeps {asset : Asset} {amount : ℕ} {error : Revert} :
    Guarantees (Sweeps msg.sender) (payOut d x ⟨msg.sender, asset, amount⟩ error) := by
  intro w u w' h
  refine ⟨(payOut_sameStorage _ _ _ _ _ h).orders, [⟨msg.sender, asset, amount⟩], payOut_payouts h,
    by simp, fun a => ?_⟩
  simpa using payOut_moves msg.sender_ne_self h a

theorem getStorage_sweeps : Guarantees (Sweeps msg.sender) getStorage := by
  intro w s w' h
  cases h
  exact .refl w

theorem setFeeParams_sweeps (chainId : ℕ) (params : FeeParams) :
    Guarantees (Sweeps msg.sender) (setFeeParams chainId params) := by
  intro w u w' h
  cases h
  exact .of_record (fun _ => nofun) fun _ => nofun

theorem setPeer_sweeps (peerChain : ℕ) (peer : Bytes32) :
    Guarantees (Sweeps msg.sender) (setPeer d peerChain peer) := by
  refine .bind Sweeps.trans (.require Sweeps.refl _ _) fun _ w u w' h => ?_
  cases h
  exact .of_same rfl rfl rfl

theorem modifyGovernance_sweeps (f : GovernanceState → GovernanceState) :
    Guarantees (Sweeps msg.sender) (modifyGovernance f) := by
  intro w u w' h
  cases h
  exact .of_same rfl rfl rfl

theorem updateRole_sweeps (role : Role) (newAddress : Address) :
    Guarantees (Sweeps msg.sender) (updateRole x role newAddress) := by
  refine .bind Sweeps.trans (.require Sweeps.refl _ _) fun _ => ?_
  refine .bind Sweeps.trans getStorage_sweeps fun storage => ?_
  refine .bind Sweeps.trans (modifyGovernance_sweeps _) fun _ w u w' h => ?_
  cases h
  exact .of_record (s := w.storage) (fun _ => nofun) fun _ => nofun

theorem updatePeer_sweeps (isOwner : Bool) (commands : Bytes) (offset : ℕ) :
    Guarantees (Sweeps msg.sender) (updatePeer d isOwner commands offset) := by
  unfold updatePeer
  refine .bind Sweeps.trans ?_ fun _ => .bind Sweeps.trans (.lift Sweeps.refl _) fun params =>
    .bind Sweeps.trans (setFeeParams_sweeps _ _) fun _ => .pure Sweeps.refl _
  unfold registerPeer
  refine .bind Sweeps.trans getStorage_sweeps fun storage => ?_
  dsimp only
  split
  · exact .bind Sweeps.trans (.require Sweeps.refl _ _) fun _ => setPeer_sweeps _ _
  · exact .pure Sweeps.refl _

/-- **A sweep pays its caller.** -/
theorem sweep_sweeps (token : Address) : Guarantees (Sweeps msg.sender) (sweep d x msg token) := by
  have hread (asset : Asset) : Guarantees (Sweeps msg.sender) (balanceOf x asset) := by
    intro w n w' h
    rw [(balanceOf_ok h).1]
    exact .refl w
  unfold sweep
  split
  · exact .bind Sweeps.trans (hread _) fun _ => payOut_sweeps
  · exact .bind Sweeps.trans (hread _) fun _ => payOut_sweeps

theorem updateRoleCommand_sweeps (role : Role) (commands : Bytes) (offset : ℕ) :
    Guarantees (Sweeps msg.sender) (updateRoleCommand x role commands offset) :=
  .bind Sweeps.trans (updateRole_sweeps _ _) fun _ => .pure Sweeps.refl _

theorem upgradeContract_sweeps (commands : Bytes) (offset : ℕ) :
    Guarantees (Sweeps msg.sender) (upgradeContract x commands offset) := by
  refine .bind Sweeps.trans (.lift Sweeps.refl _) fun _ => ?_
  refine .bind Sweeps.trans (.require Sweeps.refl _ _) fun _ w o w' h => ?_
  cases h
  exact .of_same rfl rfl rfl

theorem runCommand_sweeps (isOwner : Bool) (command : GovernanceCommand) (commands : Bytes)
    (offset : ℕ) :
    Guarantees (Sweeps msg.sender) (runCommand d x msg isOwner command commands offset) := by
  have howner {f : Contract ℕ} (hf : Guarantees (Sweeps msg.sender) f) :
      Guarantees (Sweeps msg.sender) (do require (isOwner = true) .notAuthorized; f) :=
    .bind Sweeps.trans (.require Sweeps.refl _ _) fun _ => hf
  cases command with
  | updatePeer => exact updatePeer_sweeps _ _ _
  | sweepTokens => exact .bind Sweeps.trans (sweep_sweeps _) fun _ => .pure Sweeps.refl _
  | updateFeeUpdater => exact updateRoleCommand_sweeps _ _ _
  | updateAssistant => exact updateRoleCommand_sweeps _ _ _
  | updateFeeRecipient => exact howner (updateRoleCommand_sweeps _ _ _)
  | upgradeContract => exact howner (upgradeContract_sweeps _ _)
  | proposeOwnershipTransfer =>
    exact howner (.bind Sweeps.trans (modifyGovernance_sweeps _) fun _ => .pure Sweeps.refl _)
  | relinquishOwnership =>
    exact howner (.bind Sweeps.trans (updateRole_sweeps _ _) fun _ =>
      .bind Sweeps.trans (.lift Sweeps.refl _) fun _ => .pure Sweeps.refl _)

/-- The loop over the commands, by induction on its rounds. -/
theorem commandLoop_sweeps (isOwner : Bool) (commands : Bytes) (fuel offset : ℕ) :
    Guarantees (Sweeps msg.sender) (commandLoop d x msg isOwner commands fuel offset) := by
  induction fuel generalizing offset with
  | zero => exact .fail _
  | succ fuel ih =>
    unfold commandLoop
    split
    · refine .bind Sweeps.trans (.lift Sweeps.refl _) fun command => ?_
      exact .bind Sweeps.trans (runCommand_sweeps _ _ _ _) fun next => ih next
    · exact .lift Sweeps.refl _

/-- The caller of a batch has a role that may give commands. -/
def MayCommand (msg : Msg d) (w : World) : Prop :=
  msg.sender = w.storage.governance.owner ∨ msg.sender = w.storage.governance.assistant ∨
    msg.sender = w.storage.governance.pendingOwner

/-- **A batch of governance commands** needs a role, and what it takes out goes to its caller. -/
theorem batchGovernanceCommands_sweeps {commands : Bytes} {u : Unit}
    (h : batchGovernanceCommands d x msg commands w = .ok (u, w')) :
    MayCommand msg w ∧ Sweeps msg.sender w w' := by
  obtain ⟨isOwner, w₁, hprivilege, hloop⟩ := bind_ok.1 h
  have hloop := commandLoop_sweeps _ _ _ _ _ _ _ hloop
  obtain ⟨storage, w₂, hget, hcase⟩ := bind_ok.1 hprivilege
  cases hget
  by_cases howner : msg.sender = w.storage.governance.owner
  · rw [if_pos howner] at hcase
    obtain ⟨-, rfl⟩ := pure_ok.1 hcase
    exact ⟨.inl howner, hloop⟩
  by_cases hassistant : msg.sender = w.storage.governance.assistant
  · rw [if_neg howner, if_pos hassistant] at hcase
    obtain ⟨-, rfl⟩ := pure_ok.1 hcase
    exact ⟨.inr (.inl hassistant), hloop⟩
  by_cases hpending : msg.sender = w.storage.governance.pendingOwner
  · rw [if_neg howner, if_neg hassistant, if_pos hpending] at hcase
    obtain ⟨_, w₃, hrole, hret⟩ := bind_ok.1 hcase
    obtain ⟨-, rfl⟩ := pure_ok.1 hret
    exact ⟨.inr (.inr hpending), (updateRole_sweeps _ _ _ _ _ hrole).trans _ _ _ hloop⟩
  · rw [if_neg howner, if_neg hassistant, if_neg hpending] at hcase
    exact (fail_ok.1 hcase).elim

theorem storeEdited_sweeps (curChain : ℕ) (curParams : FeeParams) :
    Guarantees (Sweeps msg.sender) (storeEdited curChain curParams) := by
  unfold storeEdited
  split
  · exact setFeeParams_sweeps _ _
  · exact .pure Sweeps.refl _

/-- The loop over the updates, by induction on its rounds. -/
theorem batchFeeUpdatesLoop_sweeps (updates : Bytes) (fuel offset curChain : ℕ)
    (curParams : FeeParams) :
    Guarantees (Sweeps msg.sender) (batchFeeUpdatesLoop updates fuel offset curChain curParams) := by
  induction fuel generalizing offset curChain curParams with
  | zero => exact .fail _
  | succ fuel ih =>
    unfold batchFeeUpdatesLoop
    split
    · refine .bind Sweeps.trans (.require Sweeps.refl _ _) fun _ => .bind Sweeps.trans ?_ fun cur =>
        .bind Sweeps.trans (.lift Sweeps.refl _) fun update =>
          .bind Sweeps.trans (.lift Sweeps.refl _) fun edited => ih _ _ _
      unfold switchChain
      split
      · refine .bind Sweeps.trans (storeEdited_sweeps _ _) fun _ => .bind Sweeps.trans ?_ fun _ =>
          .pure Sweeps.refl _
        intro w params w' h
        cases h
        exact .refl w
      · exact .pure Sweeps.refl _
    · exact .bind Sweeps.trans (.lift Sweeps.refl _) fun _ => storeEdited_sweeps _ _

theorem SameFunds.sweeps {caller : Address} (h : SameFunds w w') : Sweeps caller w w' :=
  .of_same h.orders h.payouts h.held

/-- Approvals move nothing; by induction on the rounds of the loop. -/
theorem maxApproveLoop_sameFunds (approvals : Bytes) (fuel offset : ℕ) :
    Guarantees SameFunds (maxApproveLoop d x approvals fuel offset) := by
  induction fuel generalizing offset with
  | zero => exact .fail _
  | succ fuel ih =>
    unfold maxApproveLoop
    split
    · refine .bind SameFunds.trans (uniswapMaxApprove_sameFunds _) fun _ =>
        .bind SameFunds.trans ?_ fun _ => ih _
      unfold traderJoeMaxApprove
      split
      · exact .pure SameFunds.refl _
      · exact approve_sameFunds _
    · exact .lift SameFunds.refl _

/-- The calls that are neither transfers nor redemptions. -/
def Call.Administers : Call → Prop
  | batchGovernanceCommands _ => True
  | batchFeeUpdates _ => True
  | batchMaxApprove _ => True
  | _ => False

/-- What the administration of the contract takes out goes to its caller. -/
theorem execute_sweeps {t : Transaction d} (hcall : t.call.Administers)
    (h : execute t w = .ok w') : Sweeps t.msg.sender w w' := by
  obtain ⟨⟨u, w₁⟩, hbody, rfl⟩ := except_map_ok.1 h
  unfold Transaction.body at hbody
  cases hkind : t.call with
  | batchGovernanceCommands commands =>
    rw [hkind] at hbody
    exact (batchGovernanceCommands_sweeps (nonpayable_ok hbody).2).2
  | batchFeeUpdates updates =>
    rw [hkind] at hbody
    exact batchFeeUpdatesLoop_sweeps _ _ _ _ _ _ _ _ (batchFeeUpdates_ok.1 (nonpayable_ok hbody).2).2
  | batchMaxApprove approvals =>
    rw [hkind] at hbody
    exact (maxApproveLoop_sameFunds _ _ _ _ _ _ (nonpayable_ok hbody).2).sweeps
  | initiate targetChain recipient params =>
    rw [hkind] at hcall
    exact hcall.elim
  | redeem params attestations =>
    rw [hkind] at hcall
    exact hcall.elim

end Sweeping

/-! ## What a step can do -/

section Steps

variable {d : Deployment} {x : Externals} {msg : Msg d} {w w' : World}

/-- **What a step can do**: administer the contract, or go through the stages of `initiate` or of
`redeem`. -/
inductive Executed (t : Transaction d) (w w' : World) : Prop
  | administered (hcall : t.call.Administers) (sweeps : Sweeps t.msg.sender w w')
  | initiated (targetChain : ℕ) (recipient : Bytes32) (params : Bytes)
      (hcall : t.call = .initiate targetChain recipient params)
      (i : Initiated d t.externals t.msg targetChain recipient params w) (hresult : w' = i.result)
  | redeemed (params attestations : Bytes) (hcall : t.call = .redeem params attestations)
      (r : Redeemed d t.externals t.msg params attestations w) (hresult : w' = r.result)

theorem execute_ok {t : Transaction d} (h : execute t w = .ok w') : Executed t w w' := by
  by_cases hcall : t.call.Administers
  · exact .administered hcall (execute_sweeps hcall h)
  obtain ⟨⟨u, w₁⟩, hbody, rfl⟩ := except_map_ok.1 h
  unfold Transaction.body at hbody
  cases hkind : t.call with
  | initiate targetChain recipient params =>
    rw [hkind] at hbody
    obtain ⟨ret, w₂, hinitiate, hret⟩ := bind_ok.1 hbody
    obtain ⟨-, rfl⟩ := pure_ok.1 hret
    obtain ⟨i, hi⟩ := initiate_ok hinitiate
    exact .initiated _ _ _ hkind i hi
  | redeem params attestations =>
    rw [hkind] at hbody
    obtain ⟨ret, w₂, hredeem, hret⟩ := bind_ok.1 hbody
    obtain ⟨-, rfl⟩ := pure_ok.1 hret
    obtain ⟨r, -, hr⟩ := redeem_ok.1 hredeem
    exact .redeemed _ _ hkind r hr
  | _ =>
    rw [hkind] at hcall
    exact absurd trivial hcall

/-! ### Orders -/

theorem redeemPlan_sameStorage (fill : Fill) (sms : SwapMessageStructure) (params : Bytes) :
    Guarantees SameStorage (redeemPlan d x msg fill sms params) := by
  intro w plan w' h
  have hplan := redeemPlan_ok.1 h
  split at hplan
  · exact payOut_sameStorage _ _ _ _ _ hplan.1
  · rw [hplan.1]
    exact .refl w

theorem redeemOutput_sameStorage (s : Option OutputSwap) (usdcAmount : ℕ) :
    Guarantees SameStorage (redeemOutput d x s usdcAmount) := by
  cases s with
  | none => exact .pure SameStorage.refl _
  | some s => exact .bind SameStorage.trans swap_sameStorage fun _ => .pure SameStorage.refl _

theorem payRecipient_sameStorage (recipient : Address) (output : Output) (gasDropoff : ℕ) :
    Guarantees SameStorage (payRecipient d x recipient output gasDropoff) := by
  unfold payRecipient
  split
  · refine .bind SameStorage.trans (wnativeWithdraw_sameStorage _) fun _ => ?_
    refine .bind SameStorage.trans (.lift SameStorage.refl _) fun _ => ?_
    exact .bind SameStorage.trans (payOut_sameStorage _ _) fun _ => .pure SameStorage.refl _
  · refine .bind SameStorage.trans ?_ fun _ =>
      .bind SameStorage.trans (payOut_sameStorage _ _) fun _ => .pure SameStorage.refl _
    unfold payGasDropoff
    split
    · exact payOut_sameStorage _ _
    · exact .pure SameStorage.refl _

/-- **A redemption places no order.** -/
theorem Redeemed.orders_eq {params attestations : Bytes}
    (r : Redeemed d x msg params attestations w) : r.result.orders = w.orders := by
  have hplanned := (redeemPlan_sameStorage _ _ _ _ _ _ r.planOk).orders
  have hswapped := (redeemOutput_sameStorage _ _ _ _ _ r.swapOk).orders
  have hfinished := (payRecipient_sameStorage _ _ _ _ _ _ r.payOk).orders
  have hresult : r.result.orders = r.finished.orders := by simp [Redeemed.result, World.orders]
  rw [hresult, hfinished, hswapped, hplanned]
  rfl

/-- **Only `initiate` places an order**, and it places one. -/
theorem execute_orders {t : Transaction d} (h : execute t w = .ok w') :
    w'.orders = w.orders ∨ ∃ targetChain recipient params,
      t.call = .initiate targetChain recipient params ∧
      ∃ i : Initiated d t.externals t.msg targetChain recipient params w,
        w' = i.result ∧ w'.orders = w.orders ++ [i.order] := by
  cases execute_ok h with
  | administered hcall sweeps => exact .inl sweeps.orders
  | initiated targetChain recipient params hcall i hresult =>
    exact .inr ⟨targetChain, recipient, params, hcall, i, hresult, hresult ▸ i.orders_eq⟩
  | redeemed params attestations hcall r hresult => exact .inl (hresult ▸ r.orders_eq)

/-! ### Funds -/

/-- The conditions under which a call keeps nothing and loses nothing. The routers that are there
honour their limits; an `initiate` swaps nothing, or its swap is harmless (`SwapHarmless`), and there
are less than 2^64 units of USDC; a `redeem` is of a well-formed message, neither the recipient nor
the fee recipient is the contract, and the output of its swap is reported as it was. -/
def Harmless (w : World) (t : Transaction d) : Prop :=
  match t.call with
  | .initiate targetChain recipient params =>
    t.externals.supply d.usdc < 2 ^ 64 ∧ RoutersHonour d t.externals ∧
      ∀ i : Initiated d t.externals t.msg targetChain recipient params w, i.SwapHarmless
  | .redeem params attestations =>
    w.storage.governance.feeRecipient ≠ d.self ∧ RoutersHonour d t.externals ∧
      ∀ fill, t.externals.redeemFill attestations = some fill →
        ∃ addr fields out, addr ≠ d.self ∧
          fill.message = encodeSwapMessage (toUniversalAddress addr) fields.mode fields.encode out ∧
          OutputReported t.externals t.msg addr fields fill params w
  | _ => True

theorem Initiated.conserves {targetChain : ℕ} {recipient : Bytes32} {params : Bytes}
    (i : Initiated d x msg targetChain recipient params w) (hcap : x.supply d.usdc < 2 ^ 64)
    (hr : RoutersHonour d x) (hharmless : i.SwapHarmless) : Conserves w i.result := by
  by_cases hmode : i.mos.input.mode = .usdc
  · exact (i.moves_usdc hcap hmode).2.conserved_iff.2 fun _ => rfl
  · exact (i.conserves_iff_of_swapped hcap hmode (hr _)).2 hharmless

theorem Redeemed.conserves {params attestations : Bytes}
    (r : Redeemed d x msg params attestations w) {addr : Address} {fields : RedeemFields}
    {out : Bytes} (hmsg : r.fill.message =
      encodeSwapMessage (toUniversalAddress addr) fields.mode fields.encode out)
    (haddr : addr ≠ d.self) (hne : w.storage.governance.feeRecipient ≠ d.self)
    (hr : RoutersHonour d x) (hreported : OutputReported x msg addr fields r.fill params w) :
    Conserves w r.result := by
  obtain ⟨hnative, -, hcase⟩ := r.recipient_paid hmsg hr
  have hgas := fun h => (hnative h).1
  rcases hcase with ⟨hpaid, hmoves, -⟩ | ⟨s, r', hexec, hpaid, hpulled, -, hlt, hmoves⟩
  · refine (r.conserves_iff hne haddr hmsg hgas hmoves).2 fun a => ?_
    simp [hpaid]
  · refine (r.conserves_iff hne haddr hmsg hgas hmoves).2 fun a => ?_
    have hbalances := (OutputSwap.outputOf_balances_iff hlt
      (usdcDue_lt msg addr fields r.within) hpulled).2 (hreported s r' hexec) a
    rw [hpaid, ← hbalances]

/-- The transfers of a step that sweep. -/
def sweptBy (t : Transaction d) (w : World) : List Payout :=
  match t.call with
  | .batchGovernanceCommands _ => (attempt execute t w).payouts.drop w.payouts.length
  | _ => []

/-- **What is swept goes to the caller**, who has a role. -/
theorem sweptBy_caller (t : Transaction d) (w : World) :
    ∀ p ∈ sweptBy t w, p.recipient = t.msg.sender ∧ MayCommand t.msg w := by
  intro p hp
  unfold sweptBy at hp
  cases hcall : t.call with
  | batchGovernanceCommands commands =>
    simp only [hcall, attempt] at hp
    cases hexec : execute t w with
    | error e => simp [hexec] at hp
    | ok w' =>
      simp only [hexec] at hp
      obtain ⟨⟨u, w₁⟩, hbody, rfl⟩ := except_map_ok.1 hexec
      unfold Transaction.body at hbody
      rw [hcall] at hbody
      obtain ⟨hmay, -, ps, hps, hto, -⟩ := batchGovernanceCommands_sweeps (nonpayable_ok hbody).2
      rw [hps, List.drop_left] at hp
      exact ⟨hto p hp, hmay⟩
  | _ => simp [hcall] at hp

/-- **What a harmless step takes out** of the contract is what it swept. -/
theorem execute_settles {t : Transaction d} (hharmless : Harmless w t) (h : execute t w = .ok w') :
    Moves w.held w'.held 0 (totalOf (sweptBy t w)) := by
  have hconserved (hc : Conserves w w') : Moves w.held w'.held 0 (totalOf []) := by
    intro a
    simp [hc a]
  unfold Harmless at hharmless
  have hattempt : attempt execute t w = w' := by simp [attempt, h]
  cases hcall : t.call with
  | batchGovernanceCommands commands =>
    have hsweeps := execute_sweeps (by rw [hcall]; trivial) h
    obtain ⟨ps, hps, -, hmoves⟩ := hsweeps.paid
    simpa [sweptBy, hcall, hattempt, hps] using hmoves
  | batchFeeUpdates updates =>
    obtain ⟨⟨u, w₁⟩, hbody, rfl⟩ := except_map_ok.1 h
    unfold Transaction.body at hbody
    rw [hcall] at hbody
    have hheld := (applyBatchFeeUpdates_only _ _ _ _ (batchFeeUpdates_ok.1 (nonpayable_ok hbody).2).2).1
    simpa [sweptBy, hcall] using hconserved (congrFun hheld)
  | batchMaxApprove approvals =>
    obtain ⟨⟨u, w₁⟩, hbody, rfl⟩ := except_map_ok.1 h
    unfold Transaction.body at hbody
    rw [hcall] at hbody
    have hheld := (maxApproveLoop_sameFunds _ _ _ _ _ _ (nonpayable_ok hbody).2).held
    simpa [sweptBy, hcall] using hconserved (congrFun hheld)
  | initiate targetChain recipient params =>
    simp only [hcall] at hharmless
    cases execute_ok h with
    | administered hadmin => rw [hcall] at hadmin; exact hadmin.elim
    | redeemed _ _ hkind => rw [hcall] at hkind; cases hkind
    | initiated _ _ _ hkind i hresult =>
      rw [hcall] at hkind
      cases hkind
      obtain ⟨hcap, hr, hswap⟩ := hharmless
      simpa [sweptBy, hcall] using hconserved (hresult ▸ i.conserves hcap hr (hswap i))
  | redeem params attestations =>
    simp only [hcall] at hharmless
    cases execute_ok h with
    | administered hadmin => rw [hcall] at hadmin; exact hadmin.elim
    | initiated _ _ _ hkind => rw [hcall] at hkind; cases hkind
    | redeemed _ _ hkind r hresult =>
      rw [hcall] at hkind
      cases hkind
      obtain ⟨hne, hr, hfills⟩ := hharmless
      obtain ⟨addr, fields, out, haddr, hmsg, hreported⟩ := hfills r.fill r.delivered
      simpa [sweptBy, hcall] using
        hconserved (hresult ▸ r.conserves hmsg haddr hne hr hreported)

end Steps

/-! ## Histories -/

section Histories

variable {d : Deployment}

/-- The transfers of a history that sweep. -/
def swept : List (Transaction d) → World → List Payout
  | [], _ => []
  | t :: ts, w => sweptBy t w ++ swept ts (attempt execute t w)

theorem attempt_settles {t : Transaction d} {w : World} (hharmless : Harmless w t) :
    Moves w.held (attempt execute t w).held 0 (totalOf (sweptBy t w)) := by
  cases hexec : execute t w with
  | ok w' =>
    simpa [attempt, hexec] using execute_settles hharmless hexec
  | error e =>
    have hnone : sweptBy t w = [] := by
      unfold sweptBy
      split <;> simp [attempt, hexec]
    intro a
    simp [attempt, hexec, hnone]

/-- The holdings after a harmless history; by induction on the history. -/
theorem run_settles (ts : List (Transaction d)) (w : World)
    (hharmless : Along execute Harmless ts w) :
    Moves w.held (run execute ts w).held 0 (totalOf (swept ts w)) := by
  induction ts generalizing w with
  | nil =>
    intro a
    simp [run, swept]
  | cons t ts ih =>
    obtain ⟨hfirst, hrest⟩ := hharmless
    intro a
    have h := (attempt_settles hfirst).trans (ih _ hrest) a
    simpa [run, swept] using h

/-- **The contract keeps nothing and loses nothing.** Along every history of harmless calls, by anybody
and in any order, the holdings of every asset change by what was swept, and what is swept goes to its
caller, who has a role that may give commands at that moment. A contract that holds nothing holds
nothing after any such history. -/
theorem history_settles (ts : List (Transaction d)) (w : World)
    (hharmless : Along execute Harmless ts w) :
    Moves w.held (run execute ts w).held 0 (totalOf (swept ts w)) ∧
      Along execute (fun w t => ∀ p ∈ sweptBy t w, p.recipient = t.msg.sender ∧ MayCommand t.msg w)
        ts w ∧
      ((∀ a, w.held a = 0) → ∀ a, (run execute ts w).held a = 0) := by
  have hmoves := run_settles ts w hharmless
  refine ⟨hmoves, along_of_forall (fun w t => sweptBy_caller t w) ts w, fun hzero a => ?_⟩
  have h := hmoves a
  rw [hzero a] at h
  simp at h
  exact h.1

end Histories

namespace Sample

theorem assistant_ne_self : address 2 ≠ deployment.self := by decide

theorem assistant_ne_zero : address 2 ≠ zeroAddress := by decide

/-- Somebody sends 10 units of USDC with a payload, and the assistant sweeps the leftover USDC. -/
def transferThenSweep : List (Transaction deployment) :=
  [⟨msg 0, externals 0 0, .initiate 3 (toUniversalAddress recipient) payloadForGas⟩,
   commandsFrom (address 2) assistant_ne_self assistant_ne_zero ([1] ++ usdc.toList)]

/-- 1000 units are swept, and the 10 units have come and gone. -/
theorem transferThenSweep_settles :
    (run execute transferThenSweep (world leftoverUsdc)).orders.length = 1 ∧
      swept transferThenSweep (world leftoverUsdc) = [⟨address 2, .erc20 usdc, 1000⟩] ∧
      Moves (world leftoverUsdc).held (run execute transferThenSweep (world leftoverUsdc)).held 0
        (totalOf (swept transferThenSweep (world leftoverUsdc))) := by
  have hmode : (parseParamBaseStructure 3 payloadForGas).toOption.map (·.input.mode) = some .usdc := by
    decide +kernel
  have hharmless : Along execute Harmless transferThenSweep (world leftoverUsdc) := by
    refine ⟨⟨by decide, fun swapType _ => externals_honour 0 0 swapType, fun i => ?_⟩, trivial,
      trivial⟩
    have husdc : i.mos.input.mode = .usdc := by
      rw [i.parsed] at hmode
      exact Option.some.inj hmode
    exact absurd husdc
  exact ⟨by decide +kernel, by decide +kernel, (history_settles _ _ hharmless).1⟩

end Sample

end SwapLayer.Evm
