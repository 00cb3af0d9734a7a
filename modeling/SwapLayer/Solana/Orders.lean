import SwapLayer.Solana.StagedRuns
import SwapLayer.Solana.InboundRuns

/-!
# Which instructions place orders

Everything that can happen to the program (`Event`) is followed through its calls. Two instructions
place an order, `initiate_transfer` and `initiate_swap_exact_in`: one each, as the staged account
says. Nothing else does.

Results:
* `Event.ordered`: what a step does to the orders.
* `Event.fills_of`: a step takes a fill out only if it completes it.
-/

namespace SwapLayer.Solana

open ByteString Program SplToken Messages

/-! ## Parts that place no order -/

/-- The orders stay. -/
def SameOrders (b b' : Bank) : Prop := b'.orders = b.orders

theorem sameOrders_refl (b : Bank) : SameOrders b b := rfl

theorem sameOrders_trans (b b' b'' : Bank) (h : SameOrders b b') (h' : SameOrders b' b'') :
    SameOrders b b'' := h'.trans h

/-- A part of an instruction that places no order. -/
def Orderless {α : Type} (i : Instruction α) : Prop := Guarantees SameOrders i

namespace Orderless

variable {α β : Type}

theorem bind {i : Instruction α} {j : α → Instruction β} (hi : Orderless i)
    (hj : ∀ a, Orderless (j a)) : Orderless (i >>= j) := Guarantees.bind sameOrders_trans hi hj

theorem pure (a : α) : Orderless (Pure.pure a : Instruction α) := Guarantees.pure sameOrders_refl a

theorem fail (e : Error) : Orderless (fail e : Instruction α) := Guarantees.fail e

/-- A part that reads. -/
theorem reads {i : Instruction α} (h : ∀ b a b', i b = .ok (a, b') → b' = b) : Orderless i := by
  intro b a b' hi
  rw [h b a b' hi]
  exact sameOrders_refl b

theorem lift (i : Except Error α) : Orderless (lift i) := reads fun _ _ _ h => (lift_ok.1 h).2

theorem check (p : Prop) [Decidable p] (e : SwapLayerError) : Orderless (check p e) :=
  reads fun _ _ _ h => (check_ok.1 h).2

theorem constraint (p : Prop) [Decidable p] (e : Error) : Orderless (constraint p e) :=
  reads fun _ _ _ h => (constraint_ok.1 h).2

theorem loadAccount (f : Bank → Option α) : Orderless (loadAccount f) :=
  reads fun _ _ _ h => (loadAccount_ok.1 h).2

theorem tokenAccount (k : Pubkey) : Orderless (tokenAccount k) :=
  reads fun _ _ _ h => (tokenAccount_ok.1 h).2.2

theorem checkAssociated (k mint owner : Pubkey) (program : TokenProgram) :
    Orderless (checkAssociated k mint owner program) :=
  reads fun _ _ _ h => (checkAssociated_ok.1 h).2

theorem getBank : Orderless getBank := reads fun _ _ _ h => (getBank_ok.1 h).2

/-- The token programs and the system program place no orders. -/
theorem cpi (op : Op Pubkey α) : Orderless (cpi op) := fun _ _ _ h => (cpi_sameState op _ _ _ h).orders

theorem systemTransfer (src dst : Pubkey) (n : ℕ) : Orderless (systemTransfer src dst n) :=
  fun _ _ _ h => (systemTransfer_sameState src dst n _ _ _ h).orders

theorem payRent (payer account : Pubkey) (rent : ℕ) : Orderless (payRent payer account rent) := by
  refine .bind .getBank fun b => ?_
  split
  · exact .systemTransfer _ _ _
  · exact .pure _

theorem createToken (native : Pubkey) (program : TokenProgram) (rent : ℕ)
    (account mint owner payer : Pubkey) :
    Orderless (createToken native program rent account mint owner payer) :=
  .bind (.payRent _ _ _) fun _ => .cpi _

theorem modifyBank {f : Bank → Bank} (h : ∀ b, (f b).orders = b.orders) :
    Orderless (modifyBank f) := by
  intro b u b' hok
  cases modifyBank_ok.1 hok
  exact h b

theorem closeData (k destination : Pubkey) : Orderless (closeData k destination) :=
  modifyBank fun _ => rfl

theorem closeStaged (k preparedBy : Pubkey) : Orderless (closeStaged k preparedBy) :=
  .bind (.closeData _ _) fun _ => .modifyBank fun _ => rfl

end Orderless

/-! ## Redemptions -/

section Redemption

variable {d : Deployment} {x : Externals}

theorem load_orderless (c : ConsumeSwapLayerFill) : Orderless c.load := by
  rintro b ⟨f, m, p⟩ b' h
  rw [(ConsumeSwapLayerFill.load_ok.1 h).2]
  exact sameOrders_refl b

theorem consumePreparedFill_orderless (c : ConsumeSwapLayerFill) (dstToken : Pubkey) :
    Orderless (c.consumePreparedFill d x dstToken) := by
  refine .bind (.constraint _ _) fun _ => .bind (.loadAccount _) fun fill => .bind (.cpi _) fun _ => ?_
  refine .bind (.closeData _ _) fun _ => .bind (.modifyBank fun _ => rfl) fun _ => ?_
  exact .bind (.loadAccount _) fun t => .pure _

theorem payGasDropoff_orderless (payer recipient : Pubkey) (n : ℕ) :
    Orderless (payGasDropoff payer recipient n) := by
  unfold payGasDropoff
  split
  · exact .systemTransfer _ _ _
  · exact .pure _

theorem completeTransferDirect_orderless (a : CompleteTransferDirect) :
    Orderless (completeTransferDirect d x a) := by
  refine .bind (load_orderless _) fun ⟨f, m, p⟩ => .bind (.checkAssociated _ _ _ _) fun _ => ?_
  refine .bind (.lift _) fun m => .bind (.check _ _) fun _ => .bind (.check _ _) fun _ => ?_
  refine .bind (.lift _) fun m => ?_
  cases m.redeemMode with
  | direct => exact .bind (consumePreparedFill_orderless _ _) fun _ => .pure _
  | payload sender buf => exact .fail _
  | relay gasDropoff relayingFee => exact .fail _

theorem initCompleteRelay_orderless {e : Error} (a : CompleteTransferRelay) :
    Orderless (initCompleteRelay e d x a) := by
  refine .bind (load_orderless _) fun ⟨f, m, p⟩ => .bind (.checkAssociated _ _ _ _) fun _ => ?_
  refine .bind .getBank fun b => .bind (.tokenAccount _) fun _ => .bind (.constraint _ _) fun _ => ?_
  refine .bind (.createToken _ _ _ _ _ _ _) fun _ => .bind (.lift _) fun m => ?_
  refine .bind (.check _ _) fun _ => .bind ?_ fun _ => .pure _
  unfold checkTimeLimit
  split
  · exact .lift _
  · exact .pure _

theorem relayUserAmount_orderless (a : CompleteTransferRelay)
    (gasDropoff relayingFee fillAmount : ℕ) :
    Orderless (relayUserAmount a gasDropoff relayingFee fillAmount) := by
  unfold relayUserAmount
  split
  · exact .pure _
  · exact .bind (payGasDropoff_orderless _ _ _) fun _ => .bind (.check _ _) fun _ => .pure _

theorem settleRelay_orderless {e : Error} (a : CompleteTransferRelay) (fillAmount userAmount : ℕ) :
    Orderless (settleRelay e d a fillAmount userAmount) := by
  refine .bind (.cpi _) fun _ => .bind ?_ fun _ => .cpi _
  unfold payFeeRecipient
  split
  · exact .bind .getBank fun b => .bind (.lift _) fun fee => .cpi _
  · exact .pure _

theorem completeTransferRelay_orderless (a : CompleteTransferRelay) :
    Orderless (completeTransferRelay d x a) := by
  refine .bind (initCompleteRelay_orderless a) fun f => .bind (.lift _) fun m => ?_
  cases m.redeemMode with
  | direct => exact .fail _
  | payload sender buf => exact .fail _
  | relay gasDropoff relayingFee =>
    exact .bind (consumePreparedFill_orderless _ _) fun fillAmount =>
      .bind (relayUserAmount_orderless _ _ _ _) fun userAmount => settleRelay_orderless _ _ _

theorem initStagedInbound_orderless (payer k : Pubkey) (msg : SwapMessageV1) :
    Orderless (initStagedInbound x payer k msg) := by
  refine .bind .getBank fun b => ?_
  cases b.inbound k with
  | some _ => exact .pure _
  | none => exact .bind (.lift _) fun size => .bind (.constraint _ _) fun _ => .payRent _ _ _

theorem initUsdcIfNeeded_orderless (payer k owner : Pubkey) :
    Orderless (initUsdcIfNeeded d x payer k owner) := by
  refine .bind .getBank fun b => ?_
  cases b.tokens k with
  | some _ => exact .checkAssociated _ _ _ _
  | none => exact .bind (.constraint _ _) fun _ => .createToken _ _ _ _ _ _ _

theorem completeTransferPayload_orderless (a : CompleteTransferPayload) :
    Orderless (completeTransferPayload d x a) := by
  refine .bind (load_orderless _) fun ⟨f, m, p⟩ => ?_
  refine .bind (.lift _) fun m => .bind (initStagedInbound_orderless _ _ _) fun _ => ?_
  refine .bind (initUsdcIfNeeded_orderless _ _ _) fun _ => .bind (.lift _) fun m => ?_
  refine .bind (.check _ _) fun _ => .bind (consumePreparedFill_orderless _ _) fun _ => ?_
  refine .bind (.lift _) fun m => .bind (.lift _) fun s => ?_
  exact .modifyBank fun _ => rfl

theorem handleLoad_orderless (a : HandleCompleteSwap) (msg : SwapMessageV1) :
    Orderless (a.load d x msg) :=
  .bind (.constraint _ _) fun _ => .bind (.lift _) fun _ => .bind (.checkAssociated _ _ _ _) fun _ =>
    .bind (.checkAssociated _ _ _ _) fun _ => .check _ _

/-- Jupiter changes token accounts. -/
theorem swapExactIn_orderless (r : SharedAccountsRoute) (args : SharedAccountsRouteArgs)
    (limit : Option ℕ) : Orderless (r.swapExactIn d x args limit) := by
  rintro b ⟨out, dust⟩ b' h
  obtain ⟨s, t, reply, -, -, -, -, -, -, rfl⟩ := swapExactIn_ok h
  rfl

theorem settleSource_orderless (a : HandleCompleteSwap) (dust : ℕ) :
    Orderless (settleSource d a dust) := by
  refine .bind ?_ fun _ => .cpi _
  unfold payDust
  split
  · exact .bind .getBank fun b => .cpi _
  · exact .pure _

theorem payRecipient_orderless (a : HandleCompleteSwap) (msg : SwapMessageV1)
    (recipient : Option RecipientAccounts) (amountOut gasDropoff : ℕ) :
    Orderless (payRecipient d a msg recipient amountOut gasDropoff) := by
  unfold payRecipient
  cases recipient with
  | none => exact .pure _
  | some r =>
    dsimp only
    split
    · exact .bind (.cpi _) fun _ => .bind (.check _ _) fun _ => .systemTransfer _ _ _
    · refine .bind (.loadAccount _) fun t => .bind (.constraint _ _) fun _ => .bind (.cpi _) fun _ => ?_
      exact .bind (.cpi _) fun _ => payGasDropoff_orderless _ _ _

theorem handleCompleteSwapJupV6_orderless {e : Error} (a : HandleCompleteSwap) (route : SharedAccountsRoute)
    (inAmount : ℕ) (msg : SwapMessageV1) (recipient : Option RecipientAccounts) (gasDropoff : ℕ) :
    Orderless (handleCompleteSwapJupV6 e d x a route inAmount msg recipient gasDropoff) := by
  refine .bind ?_ fun _ => .bind (.lift _) fun requested => ?_
  · unfold checkRecipient
    cases recipient with
    | none => exact .pure _
    | some r => exact .check _ _
  refine .bind (.reads fun _ _ _ h => setUp_ok h) fun dex => ?_
  refine .bind (.reads fun _ _ _ h => (verify_ok.1 h).2.2.2.2.2) fun _ => .bind (.lift _) fun r => ?_
  refine .bind (swapExactIn_orderless _ _ _) fun out => .bind (settleSource_orderless _ _) fun _ => ?_
  exact payRecipient_orderless _ _ _ _ _

theorem completeSwapLoad_orderless {e : Error} (a : CompleteSwap) : Orderless (a.load e d x) :=
  .bind (load_orderless _) fun _ => .bind (.lift _) fun _ => .bind (handleLoad_orderless _ _) fun _ =>
    .pure _

theorem completeSwapDirect_orderless (a : CompleteSwap) : Orderless (completeSwapDirect d x a) := by
  refine .bind (completeSwapLoad_orderless _) fun f => .bind (.lift _) fun m => ?_
  refine .bind (consumePreparedFill_orderless _ _) fun n => ?_
  cases m.redeemMode with
  | direct => exact handleCompleteSwapJupV6_orderless _ _ _ _ _ _
  | payload sender buf => exact .fail _
  | relay gasDropoff relayingFee => exact .fail _

theorem completeSwapRelay_orderless (a : CompleteSwap) : Orderless (completeSwapRelay d x a) := by
  refine .bind (completeSwapLoad_orderless _) fun f => .bind (.lift _) fun m => ?_
  cases m.redeemMode with
  | direct => exact .fail _
  | payload sender buf => exact .fail _
  | relay gasDropoff relayingFee =>
    exact .bind (consumePreparedFill_orderless _ _) fun n => .bind (.lift _) fun r =>
      handleCompleteSwapJupV6_orderless _ _ _ _ _ _

theorem completeSwapPayload_orderless (a : CompleteSwapPayload) :
    Orderless (completeSwapPayload d x a) := by
  refine .bind (load_orderless _) fun ⟨f, m, p⟩ => ?_
  refine .bind (.lift _) fun m => .bind (initStagedInbound_orderless _ _ _) fun _ => ?_
  refine .bind (.lift _) fun m => .bind (handleLoad_orderless _ _) fun _ => ?_
  refine .bind (consumePreparedFill_orderless _ _) fun n => .bind (.lift _) fun m => ?_
  refine .bind (.lift _) fun s => ?_
  exact .bind (.modifyBank fun _ => rfl) fun _ => handleCompleteSwapJupV6_orderless _ _ _ _ _ _

theorem releaseInbound_orderless (a : ReleaseInbound) : Orderless (releaseInbound d a) := by
  refine .bind (.loadAccount _) fun s => .bind (.loadAccount _) fun c => ?_
  refine .bind (.constraint _ _) fun _ => .bind (.constraint _ _) fun _ => ?_
  refine .bind (.constraint _ _) fun _ => .bind (.constraint _ _) fun _ => .bind (.cpi _) fun _ => ?_
  exact .bind (.cpi _) fun _ => .bind (.closeData _ _) fun _ => .modifyBank fun _ => rfl

/-- **No completion places an order.** -/
theorem Completion.orderless (c : Completion) : Orderless (c.instruction d x) := by
  cases c with
  | transferDirect a => exact completeTransferDirect_orderless a
  | transferRelay a => exact completeTransferRelay_orderless a
  | transferPayload a => exact completeTransferPayload_orderless a
  | swapDirect a => exact completeSwapDirect_orderless a
  | swapRelay a => exact completeSwapRelay_orderless a
  | swapPayload a => exact completeSwapPayload_orderless a

end Redemption

/-! ## Orders -/

section Orders

variable {d : Deployment} {x : Externals} {b b' : Bank} {u : Unit}

/-- What a step does to the orders: nothing, or it places one that a staged account asks for. The
custody of the account is USDC, or it has a recipient. -/
inductive Ordered (d : Deployment) (b b' : Bank) : Prop
  | none (orders : b'.orders = b.orders)
  | one (k : Pubkey) (s : StagedOutbound) (n : ℕ) (o : MarketOrder)
      (staged : b.outbound k = some s)
      (unspent : (∃ c, b.tokens (d.stagedCustody k) = some c ∧ c.mint = d.usdcMint) ∨
        s.info.recipient ≠ zeroKey)
      (order : OrderOf d k s b.peers n o) (orders : b'.orders = b.orders ++ [o])

theorem settleDust_orderless (a : InitiateSwapExactIn) (s : StagedOutbound) (dust : ℕ) :
    Orderless (settleDust d a s dust) := by
  unfold settleDust
  dsimp only
  split
  · exact .bind (.cpi _) fun _ => .bind (.cpi _) fun _ => .closeStaged _ _
  · exact .bind (.cpi _) fun _ => .bind (.cpi _) fun _ => .modifyBank fun _ => rfl

/-- **A swap places one order**, for what Jupiter paid. -/
theorem initiateSwapExactIn_ordered {a : InitiateSwapExactIn}
    (h : initiateSwapExactIn d x a b = .ok (u, b')) : Ordered d b b' := by
  obtain ⟨s, s', c, peer, msg, out, dust, b₁, b₂, hk, htransfer, -, -, hmsg, hswap, hsend⟩ :=
    initiateSwapExactIn_stages h
  have horders : b₂.orders = b.orders :=
    sameOrders_trans b b₁ b₂ (Orderless.cpi _ _ _ _ htransfer) (swapExactIn_orderless _ _ _ _ _ _ hswap)
  have hs' : s' = { s with stagedRedeem := .direct } := by
    obtain ⟨-, -, -, -, -, rfl⟩ := StagedOutbound.toSwapMessageV1_ok.1 hmsg
    rfl
  unfold sendSwapped at hsend
  cases hmin : s'.info.minAmountOut with
  | none =>
    simp only [hmin] at hsend
    exact (fail_ok.1 hsend).elim
  | some minAmountOut =>
    simp only [hmin] at hsend
    obtain ⟨_, _, hcheck, h₁⟩ := bind_ok.1 hsend
    obtain ⟨-, rfl⟩ := check_ok.1 hcheck
    obtain ⟨_, _, happrove, h₂⟩ := bind_ok.1 h₁
    obtain ⟨s₁, -, rfl⟩ := cpi_ok.1 happrove
    obtain ⟨bytes, _, hbytes, h₃⟩ := bind_ok.1 h₂
    obtain ⟨hwritten, rfl⟩ := lift_ok.1 hbytes
    obtain ⟨_, _, horder, h₄⟩ := bind_ok.1 h₃
    obtain ⟨s₂, -, rfl⟩ := prepareMarketOrder_ok horder
    have hrest := Orderless.bind (.cpi _) (fun _ => settleDust_orderless (d := d) a s' dust) _ _ _ h₄
    refine .one a.stagedOutbound s out _ hk.staged (.inr hk.recipient)
      ⟨_, peer, msg, s', bytes, hk.peer, hmsg, hwritten, rfl⟩ (hrest.trans ?_)
    subst hs'
    exact congrArg (· ++ [_]) horders

theorem Call.ordered {c : Call} (h : c.instruction d x b = .ok (u, b')) : Ordered d b b' := by
  cases c with
  | stageOutbound a args =>
    obtain ⟨g⟩ := stageOutbound_ok h
    exact .none g.orders
  | initiateTransfer a =>
    obtain ⟨s, c, o, hs, hc, hmint, ho, horders, -⟩ := initiateTransfer_ok h
    exact .one _ s _ o hs (.inl ⟨c, hc, hmint⟩) ho horders
  | initiateSwapExactIn a => exact initiateSwapExactIn_ordered h
  | closeStagedOutbound a =>
    obtain ⟨s, c, -, -, -, -, -, -, -, horders, -⟩ := closeStagedOutbound_ok h
    exact .none horders
  | addPeer signer args =>
    rw [addPeer_ok h]
    exact .none rfl
  | updatePeer signer args =>
    rw [updatePeer_ok h]
    exact .none rfl
  | govern signer roles peers =>
    have hgovern : Orderless ((govern signer roles peers).instruction d x) := .modifyBank fun _ => rfl
    exact .none (hgovern _ _ _ h)
  | transfer => exact .none (Orderless.cpi _ _ _ _ h)
  | closeAccount => exact .none (Orderless.cpi _ _ _ _ h)
  | setOwner => exact .none (Orderless.cpi _ _ _ _ h)
  | approve => exact .none (Orderless.cpi _ _ _ _ h)
  | syncNative => exact .none (Orderless.cpi _ _ _ _ h)
  | createToken => exact .none (Orderless.createToken _ _ _ _ _ _ _ _ _ _ h)
  | systemTransfer => exact .none (Orderless.systemTransfer _ _ _ _ _ _ h)
  | deposit => exact .none (Orderless.cpi _ _ _ _ h)
  | withdraw => exact .none (Orderless.cpi _ _ _ _ h)

/-- **What a step does to the orders.** -/
theorem Event.ordered {e : Event} (h : e.instruction d x b = .ok (u, b')) : Ordered d b b' := by
  cases e with
  | complete c => exact .none (c.orderless _ _ _ h)
  | release a => exact .none (releaseInbound_orderless a _ _ _ h)
  | prepareFill fill f =>
    cases Event.prepareFill_ok h
    exact .none rfl
  | call c => exact c.ordered h

/-! ## Fills -/

/-- **A step takes a fill out only if it completes it**, and brings one only if the token router
prepares it. -/
theorem Event.fills_of {e : Event} (h : e.instruction d x b = .ok (u, b'))
    (hprepare : ∀ fill f, e ≠ .prepareFill fill f) :
    (∃ c, e = .complete c ∧ b'.fills = Function.update b.fills c.fill none) ∨
      ((∀ c, e ≠ .complete c) ∧ b'.fills = b.fills) := by
  cases e with
  | complete c => exact .inl ⟨c, rfl, (Completion.takes h).2.fills⟩
  | release a =>
    obtain ⟨s, c, -, -, hfills, -⟩ := releaseInbound_ok h
    exact .inr ⟨fun _ => nofun, hfills⟩
  | prepareFill fill f => exact absurd rfl (hprepare fill f)
  | call c =>
    have houtbound : Outbound (fun _ => True) (fun _ => True) b b' :=
      Call.confined ⟨trivial, fun _ => trivial, fun _ => trivial, fun _ => trivial, fun _ => trivial⟩
        (fun _ _ => ⟨trivial, trivial⟩) _ _ _ h
    exact .inr ⟨fun _ => nofun, houtbound.fills⟩

end Orders

end SwapLayer.Solana
