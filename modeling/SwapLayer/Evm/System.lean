import SwapLayer.Evm.Governance
import SwapLayer.Evm.Initiate
import SwapLayer.Evm.Redeem

/-!
# The EVM swap layer as a state machine

A transaction is a caller, the answers of the outside world during the call, and one of the
external functions; `execute` is the step of the machine. A transaction that reverts leaves the
state as it was, so a history is a `Program.run`.

Results:
* `execute_cases`: only governance commands and fee updates change the storage.
* `execute_keeps`: one step of a caller who is neither the owner nor the pending owner changes
  nothing that is privileged.
* `privileged_unchanged`: neither does any history of such steps, and after the owner has
  relinquished no history at all does.
-/

namespace SwapLayer.Evm

open ByteString Program Ledger

section Definitions

variable {d : Deployment}

/-- The loop of `batchMaxApprove`, and the check after it. -/
def maxApproveLoop (d : Deployment) (x : Externals) (approvals : Bytes) : ℕ → ℕ → Contract Unit
  | 0, _ => fail .outOfGas
  | fuel + 1, offset =>
    if offset < approvals.length then do
      let (token, offset) := parseIERC20 approvals offset
      uniswapMaxApprove d x token
      traderJoeMaxApprove d x token
      maxApproveLoop d x approvals fuel offset
    else lift (checkLength approvals offset)

/-- `batchMaxApprove` (`SwapLayerBase.sol:66-75`). -/
def batchMaxApprove (d : Deployment) (x : Externals) (approvals : Bytes) : Contract Unit :=
  maxApproveLoop d x approvals (approvals.length + 1) 0

/-- The external functions that change state. -/
inductive Call
  | batchGovernanceCommands (commands : Bytes)
  | batchFeeUpdates (updates : Bytes)
  | batchMaxApprove (approvals : Bytes)
  | initiate (targetChain : ℕ) (recipient : Bytes32) (params : Bytes)
  | redeem (params attestations : Bytes)

/-- A call from outside, with the answers it gets. -/
structure Transaction (d : Deployment) where
  msg : Msg d
  externals : Externals
  call : Call

/-- A function that is not payable refuses ETH. -/
def nonpayable (msg : Msg d) (f : Contract Unit) : Contract Unit := do
  require (msg.value = 0) .notPayable
  f

/-- The function that a transaction calls; results are dropped. -/
def Transaction.body (t : Transaction d) : Contract Unit :=
  match t.call with
  | .batchGovernanceCommands commands =>
    nonpayable t.msg (batchGovernanceCommands d t.externals t.msg commands)
  | .batchFeeUpdates updates => nonpayable t.msg (batchFeeUpdates d t.msg updates)
  | .batchMaxApprove approvals => nonpayable t.msg (batchMaxApprove d t.externals approvals)
  | .initiate targetChain recipient params => do
    let _ ← initiate d t.externals t.msg targetChain recipient params
    return ()
  | .redeem params attestations => do
    let _ ← redeem d t.externals t.msg params attestations
    return ()

/-- **The step of the machine.** -/
def execute (t : Transaction d) (w : World) : Except Revert World :=
  (t.body w).map Prod.snd

/-- The caller is neither the owner nor the pending owner of the moment. -/
def NotPrivileged (w : World) (t : Transaction d) : Prop :=
  t.msg.sender ≠ w.storage.governance.owner ∧ t.msg.sender ≠ w.storage.governance.pendingOwner

instance (w : World) (t : Transaction d) : Decidable (NotPrivileged w t) :=
  inferInstanceAs (Decidable (_ ∧ _))

end Definitions

/-! ## Calls that leave the storage alone -/

section Steps

variable {d : Deployment} {x : Externals} {msg : Msg d} {w w' : World}

/-- The storage did not change. -/
def StorageUnchanged (w w' : World) : Prop := w'.storage = w.storage

theorem storageUnchanged_refl (w : World) : StorageUnchanged w w := rfl

theorem storageUnchanged_trans (w₁ w₂ w₃ : World) (h₁ : StorageUnchanged w₁ w₂)
    (h₂ : StorageUnchanged w₂ w₃) : StorageUnchanged w₁ w₃ :=
  h₂.trans h₁

theorem storageUnchanged_of_same {α : Type} {f : Contract α} (h : Guarantees SameStorage f) :
    Guarantees StorageUnchanged f :=
  fun w a w' hf => (h w a w' hf).storage

theorem getStorage_storage : Guarantees StorageUnchanged getStorage := by
  intro w s w' h
  cases h
  rfl

/-- **`initiate` leaves the storage alone.** -/
theorem initiate_storage (targetChain : ℕ) (recipient : Bytes32) (params : Bytes) :
    Guarantees StorageUnchanged (initiate d x msg targetChain recipient params) := by
  intro w ret w' h
  obtain ⟨i, rfl⟩ := initiate_ok h
  have hacquired := (acquireUsdc_sameStorage _ _ _ _ i.acquire).storage
  exact hacquired

theorem redeemPlan_storage (fill : Fill) (sms : SwapMessageStructure) (params : Bytes) :
    Guarantees StorageUnchanged (redeemPlan d x msg fill sms params) := by
  intro w plan w' h
  have hplan := redeemPlan_ok.1 h
  split at hplan
  · exact (payOut_sameStorage _ _ _ _ _ hplan.1).storage
  · rw [hplan.1]
    rfl

theorem redeemOutput_storage (s : Option OutputSwap) (usdcAmount : ℕ) :
    Guarantees StorageUnchanged (redeemOutput d x s usdcAmount) := by
  cases s with
  | none => exact .pure storageUnchanged_refl _
  | some s =>
    exact .bind storageUnchanged_trans (storageUnchanged_of_same swap_sameStorage) fun _ =>
      .pure storageUnchanged_refl _

theorem payRecipient_storage (recipient : Address) (output : Output) (gasDropoff : ℕ) :
    Guarantees StorageUnchanged (payRecipient d x recipient output gasDropoff) := by
  have hpay (p : Payout) (e : Revert) : Guarantees StorageUnchanged (payOut d x p e) :=
    storageUnchanged_of_same (payOut_sameStorage p e)
  unfold payRecipient
  split
  · refine .bind storageUnchanged_trans
      (storageUnchanged_of_same (wnativeWithdraw_sameStorage _)) fun _ => ?_
    refine .bind storageUnchanged_trans (.lift storageUnchanged_refl _) fun _ => ?_
    exact .bind storageUnchanged_trans (hpay _ _) fun _ => .pure storageUnchanged_refl _
  · refine .bind storageUnchanged_trans ?_ fun _ =>
      .bind storageUnchanged_trans (hpay _ _) fun _ => .pure storageUnchanged_refl _
    unfold payGasDropoff
    split
    · exact hpay _ _
    · exact .pure storageUnchanged_refl _

/-- **`redeem` leaves the storage alone.** -/
theorem redeem_storage (params attestations : Bytes) :
    Guarantees StorageUnchanged (redeem d x msg params attestations) := by
  intro w ret w' h
  obtain ⟨r, -, rfl⟩ := redeem_ok.1 h
  have hplanned : r.planned.storage = (filled d msg r.fill w).storage :=
    redeemPlan_storage _ _ _ _ _ _ r.planOk
  have hswapped : r.swapped.storage = r.planned.storage := redeemOutput_storage _ _ _ _ _ r.swapOk
  have hfinished : r.finished.storage = r.swapped.storage :=
    payRecipient_storage _ _ _ _ _ _ r.payOk
  exact hfinished.trans (hswapped.trans hplanned)

/-- Approvals leave the storage alone; by induction on the rounds of the loop. -/
theorem maxApproveLoop_storage (approvals : Bytes) (fuel offset : ℕ) :
    Guarantees StorageUnchanged (maxApproveLoop d x approvals fuel offset) := by
  induction fuel generalizing offset with
  | zero => exact .fail _
  | succ fuel ih =>
    unfold maxApproveLoop
    split
    · refine .bind storageUnchanged_trans
        (fun w u w' h => (uniswapMaxApprove_sameFunds _ w u w' h).storage) fun _ => ?_
      refine .bind storageUnchanged_trans ?_ fun _ => ih _
      unfold traderJoeMaxApprove
      split
      · exact .pure storageUnchanged_refl _
      · exact storageUnchanged_of_same (approve_sameStorage _)
    · exact .lift storageUnchanged_refl _

/-! ## Steps and histories -/

theorem nonpayable_ok {f : Contract Unit} {u : Unit} (h : nonpayable msg f w = .ok (u, w')) :
    msg.value = 0 ∧ f w = .ok (u, w') := by
  obtain ⟨_, w₁, hreq, hf⟩ := bind_ok.1 h
  obtain ⟨hvalue, rfl⟩ := require_ok.1 hreq
  exact ⟨hvalue, hf⟩

/-- **What a step can do**: only the two batches change the storage. -/
theorem execute_cases {t : Transaction d} (h : execute t w = .ok w') :
    (∃ commands, batchGovernanceCommands d t.externals t.msg commands w = .ok ((), w')) ∨
      (∃ updates, batchFeeUpdates d t.msg updates w = .ok ((), w')) ∨ StorageUnchanged w w' := by
  obtain ⟨⟨u, w₁⟩, hbody, rfl⟩ := except_map_ok.1 h
  unfold Transaction.body at hbody
  cases hcall : t.call with
  | batchGovernanceCommands commands =>
    rw [hcall] at hbody
    exact .inl ⟨commands, (nonpayable_ok hbody).2⟩
  | batchFeeUpdates updates =>
    rw [hcall] at hbody
    exact .inr (.inl ⟨updates, (nonpayable_ok hbody).2⟩)
  | batchMaxApprove approvals =>
    rw [hcall] at hbody
    exact .inr (.inr (maxApproveLoop_storage _ _ _ _ _ _ (nonpayable_ok hbody).2))
  | initiate targetChain recipient params =>
    rw [hcall] at hbody
    obtain ⟨ret, w₂, hinitiate, hret⟩ := bind_ok.1 hbody
    obtain ⟨-, rfl⟩ := pure_ok.1 hret
    exact .inr (.inr (initiate_storage _ _ _ _ _ _ hinitiate))
  | redeem params attestations =>
    rw [hcall] at hbody
    obtain ⟨ret, w₂, hredeem, hret⟩ := bind_ok.1 hbody
    obtain ⟨-, rfl⟩ := pure_ok.1 hret
    exact .inr (.inr (redeem_storage _ _ _ _ _ hredeem))

/-- **One step** of somebody who is neither the owner nor the pending owner changes nothing that is
privileged. -/
theorem execute_keeps {t : Transaction d} (hnot : NotPrivileged w t)
    (h : execute t w = .ok w') : PrivilegedUnchanged w w' := by
  rcases execute_cases h with ⟨commands, hbatch⟩ | ⟨updates, hbatch⟩ | hstorage
  · exact batchGovernanceCommands_keeps hnot.1 hnot.2 hbatch
  · exact batchFeeUpdates_keeps _ _ _ _ hbatch
  · exact .of_storage_eq hstorage

/-- A history of unprivileged steps: by induction on the run, with what is privileged in the first
state as the invariant. -/
theorem run_keeps (ts : List (Transaction d)) (w : World)
    (hnot : Along execute NotPrivileged ts w) : PrivilegedUnchanged w (run execute ts w) := by
  refine run_induction (P := PrivilegedUnchanged w) (G := NotPrivileged) ?_ ts w hnot (.refl w)
  intro w₁ t w₂ hkept hnot h
  exact hkept.trans _ _ _ (execute_keeps hnot h)

/-- Without an owner and a pending owner nobody is privileged, since no caller is the zero address;
and it stays that way. -/
theorem run_keeps_of_no_owner (ts : List (Transaction d)) (w : World)
    (howner : w.storage.governance.owner = zeroAddress)
    (hpending : w.storage.governance.pendingOwner = zeroAddress) :
    PrivilegedUnchanged w (run execute ts w) := by
  refine run_invariant (P := PrivilegedUnchanged w) ?_ ts w (.refl w)
  intro w₁ t w₂ hkept h
  refine hkept.trans _ _ _ (execute_keeps ⟨?_, ?_⟩ h)
  · rw [hkept.owner, howner]
    exact t.msg.sender_ne_zero
  · rw [hkept.pendingOwner, hpending]
    exact t.msg.sender_ne_zero

/-- **What is privileged is out of reach of everybody else.** From every state, no history of calls
by callers other than the owner and the pending owner of the moment changes it. After the owner has
relinquished, no history of calls by anybody does. -/
theorem privileged_unchanged (d : Deployment) :
    (∀ (w : World) (ts : List (Transaction d)), Along execute NotPrivileged ts w →
      PrivilegedUnchanged w (run execute ts w)) ∧
    ∀ (x : Externals) (commands : Bytes) (offset o : ℕ) (w₀ w : World),
      relinquishOwnership x commands offset w₀ = .ok (o, w) →
        ∀ ts : List (Transaction d), PrivilegedUnchanged w (run execute ts w) := by
  refine ⟨fun w ts hnot => run_keeps ts w hnot, fun x commands offset o w₀ w hrelinquish ts => ?_⟩
  obtain ⟨howner, hpending⟩ := relinquishOwnership_ok hrelinquish
  exact run_keeps_of_no_owner ts w howner hpending

end Steps

namespace Sample

/-- A batch of governance commands without ETH. -/
def commandsFrom (sender : Address) (hself : sender ≠ deployment.self)
    (hzero : sender ≠ zeroAddress) (commands : Bytes) : Transaction deployment where
  msg := ⟨sender, 0, hself, hzero⟩
  externals := externals 0 0
  call := .batchGovernanceCommands commands

/-- The assistant hands over to another one, who sweeps the leftover USDC. -/
def assistants : List (Transaction deployment) :=
  [commandsFrom (address 2) (by decide) (by decide) ([3] ++ (address 12).toList),
   commandsFrom (address 12) (by decide) (by decide) ([1] ++ usdc.toList)]

def leftoverUsdc : Asset → ℕ := Pi.single (.erc20 usdc) 1000

theorem assistants_notPrivileged :
    Along execute NotPrivileged assistants (world leftoverUsdc) := by
  refine ⟨?_, ?_, trivial⟩ <;> decide +kernel

/-- Both do what they may, and what is privileged stays as it was. -/
theorem assistants_unprivileged :
    (run execute assistants (world leftoverUsdc)).storage.governance.assistant = address 12 ∧
    (run execute assistants (world leftoverUsdc)).payouts =
      [⟨address 12, .erc20 usdc, 1000⟩] ∧
    PrivilegedUnchanged (world leftoverUsdc) (run execute assistants (world leftoverUsdc)) := by
  refine ⟨?_, ?_, (privileged_unchanged deployment).1 _ _ assistants_notPrivileged⟩ <;>
    decide +kernel

end Sample

end SwapLayer.Evm
