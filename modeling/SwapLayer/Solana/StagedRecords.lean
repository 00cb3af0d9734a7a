import SwapLayer.Solana.InboundRuns
import SwapLayer.Solana.Unwrapping

/-!
# No guarded unwrap fails

The records of staged outbound transfers along runs of the whole program, from a state in which nothing
is staged: every instruction, in any order and with any signers, the token programs, new fills, other
peers and roles (`Event`).

What the unwraps of `initiate_transfer` and `initiate_swap_exact_in` rely on was checked when the
transfer was staged, in another transaction. The record keeps the fee and the minimum; that a transfer
without a minimum is one of USDC is kept by the mint of its custody account. That address is derived
from the staged account, so no step creates an account there (`Uncontested`).

Results:
* `sound_step`, `sound_run`: every staged transfer has a fee that is a `Uint48`, and without a minimum
  its custody is USDC.
* `no_unwrap_fails`: in every state that runs lead to, no outcome depends on what an unwrap would fail
  with.
-/

namespace SwapLayer.Solana

open ByteString Program SplToken Messages

/-! ## What steps keep -/

/-- A record later on: it is as it was, or a swap has spent it. -/
def Follows (spends : Prop) (s s' : StagedOutbound) : Prop := s' = s ∨ spends ∧ s' = s.spent

theorem Follows.refl {spends : Prop} (s : StagedOutbound) : Follows spends s s := .inl rfl

theorem Follows.trans {spends : Prop} {s s' s'' : StagedOutbound} (h : Follows spends s s')
    (h' : Follows spends s' s'') : Follows spends s s'' := by
  rcases h' with rfl | ⟨hspends, rfl⟩
  · exact h
  · rcases h with rfl | ⟨-, rfl⟩
    · exact .inr ⟨hspends, rfl⟩
    · exact .inr ⟨hspends, rfl⟩

/-- What a step does that stages nothing: records go, or follow, and mints stay. Token accounts are
created under the keys in `C` at most, and records spent under those in `S`. -/
structure Keeps (C S : Pubkey → Prop) (b b' : Bank) : Prop where
  minted : Minted C b.accounts b'.accounts
  outbound : ∀ k s', b'.outbound k = some s' → ∃ s, b.outbound k = some s ∧ Follows (S k) s s'

theorem Keeps.refl {C S : Pubkey → Prop} (b : Bank) : Keeps C S b b :=
  ⟨.refl _, fun _ s' h => ⟨s', h, .refl s'⟩⟩

theorem Keeps.trans {C S : Pubkey → Prop} (b b' b'' : Bank) (h : Keeps C S b b')
    (h' : Keeps C S b' b'') : Keeps C S b b'' := by
  refine ⟨h.minted.trans h'.minted, fun k s'' hs'' => ?_⟩
  obtain ⟨s', hs', hf'⟩ := h'.outbound k s'' hs''
  obtain ⟨s, hs, hf⟩ := h.outbound k s' hs'
  exact ⟨s, hs, hf.trans hf'⟩

/-- The records stay. -/
theorem Keeps.of_outbound {C S : Pubkey → Prop} {b b' : Bank} (h : Minted C b.accounts b'.accounts)
    (houtbound : b'.outbound = b.outbound) : Keeps C S b b' :=
  ⟨h, fun _ s' hs' => ⟨s', houtbound ▸ hs', .refl s'⟩⟩

/-- A part of an instruction that stages nothing. -/
def Keeping {α : Type} (C S : Pubkey → Prop) (i : Instruction α) : Prop := Guarantees (Keeps C S) i

namespace Keeping

variable {C S : Pubkey → Prop} {α β : Type}

theorem bind {i : Instruction α} {j : α → Instruction β} (hi : Keeping C S i)
    (hj : ∀ a, Keeping C S (j a)) : Keeping C S (i >>= j) := Guarantees.bind Keeps.trans hi hj

theorem pure (a : α) : Keeping C S (Pure.pure a : Instruction α) := Guarantees.pure Keeps.refl a

theorem fail (e : Error) : Keeping C S (fail e : Instruction α) := Guarantees.fail e

theorem lift (i : Except Error α) : Keeping C S (lift i) := Guarantees.lift Keeps.refl i

theorem check (p : Prop) [Decidable p] (e : SwapLayerError) : Keeping C S (check p e) :=
  .require Keeps.refl _ _

theorem constraint (p : Prop) [Decidable p] (e : Error) : Keeping C S (constraint p e) :=
  .require Keeps.refl _ _

theorem reads {i : Instruction α} (h : ∀ b a b', i b = .ok (a, b') → b' = b) : Keeping C S i := by
  intro b a b' hi
  rw [h b a b' hi]
  exact .refl b

theorem loadAccount (f : Bank → Option α) : Keeping C S (loadAccount f) :=
  reads fun _ _ _ h => (loadAccount_ok.1 h).2

theorem tokenAccount (k : Pubkey) : Keeping C S (tokenAccount k) :=
  reads fun _ _ _ h => (tokenAccount_ok.1 h).2.2

theorem checkAssociated (k mint owner : Pubkey) (program : TokenProgram) :
    Keeping C S (checkAssociated k mint owner program) :=
  reads fun _ _ _ h => (checkAssociated_ok.1 h).2

theorem getBank : Keeping C S getBank := reads fun _ _ _ h => (getBank_ok.1 h).2

/-- A call of the token program or the system program. -/
theorem cpi {op : Op Pubkey α} (h : ∀ s a s', op s = .ok (a, s') → Minted C s s') :
    Keeping C S (cpi op) := by
  intro b a b' hop
  obtain ⟨s, hs, rfl⟩ := cpi_ok.1 hop
  exact .of_outbound (h _ _ _ hs) rfl

theorem systemTransfer (src dst : Pubkey) (n : ℕ) : Keeping C S (systemTransfer src dst n) :=
  .bind .getBank fun _ => .bind (.constraint _ _) fun _ => .cpi fun _ _ _ => .systemTransfer

theorem payRent (payer account : Pubkey) (rent : ℕ) : Keeping C S (payRent payer account rent) := by
  refine .bind .getBank fun b => ?_
  split
  · exact .systemTransfer _ _ _
  · exact .pure _

theorem createToken {native account mint owner payer : Pubkey} {program : TokenProgram} {rent : ℕ}
    (hC : C account) : Keeping C S (createToken native program rent account mint owner payer) :=
  .bind (.payRent _ _ _) fun _ => .cpi fun _ _ _ => .initToken hC

theorem modifyBank {f : Bank → Bank} (htokens : ∀ b, (f b).tokens = b.tokens)
    (houtbound : ∀ b, (f b).outbound = b.outbound) : Keeping C S (modifyBank f) := by
  intro b u b' h
  cases modifyBank_ok.1 h
  exact .of_outbound (.of_tokens (htokens b)) (houtbound b)

theorem closeData (k destination : Pubkey) : Keeping C S (closeData k destination) :=
  modifyBank (fun _ => Accounts.moveLamports_tokens ..) fun _ => rfl

theorem closeStaged (k preparedBy : Pubkey) : Keeping C S (closeStaged k preparedBy) := by
  refine .bind (.closeData _ _) fun _ b u b' h => ?_
  cases modifyBank_ok.1 h
  refine ⟨.refl _, fun k' s' hs' => ?_⟩
  change Function.update b.outbound k none k' = some s' at hs'
  by_cases hk : k' = k
  · rw [hk, Function.update_self] at hs'
    cases hs'
  · rw [Function.update_of_ne hk] at hs'
    exact ⟨s', hs', .refl s'⟩

end Keeping

/-! ## Outbound instructions -/

section Outbound

variable {d : Deployment} {x : Externals} {C S : Pubkey → Prop} {b b' : Bank} {u : Unit}

theorem initStaged_keeping {a : StageOutbound} {args : StageOutboundArgs}
    (hC : C (d.stagedCustody a.stagedOutbound)) : Keeping C S (initStaged d x a args) := by
  refine .bind (.reads fun _ _ _ h => checkTransferAuthority_ok h) fun _ => ?_
  refine .bind (.reads fun _ _ _ h => (checkSenderToken_ok h).1) fun _ => ?_
  refine .bind (.loadAccount _) fun peer => .bind (.check _ _) fun _ => ?_
  refine .bind (.tokenAccount _) fun refund => .bind (.lift _) fun size => ?_
  refine .bind .getBank fun b => .bind (.constraint _ _) fun _ => .bind (.constraint _ _) fun _ => ?_
  refine .bind (.payRent _ _ _) fun _ => ?_
  refine .bind (.check _ _) fun _ => .bind (.check _ _) fun _ => .bind (.check _ _) fun _ => ?_
  refine .bind (.constraint _ _) fun _ => .bind (.constraint _ _) fun _ => ?_
  refine .bind (.createToken hC) fun _ => ?_
  exact .bind (.constraint _ _) fun _ => .bind (.constraint _ _) fun _ => .pure _

/-- Nothing is staged yet under the key. -/
theorem initStaged_fresh {a : StageOutbound} {args : StageOutboundArgs} {peer : Peer}
    (h : initStaged d x a args b = .ok (peer, b')) : b.outbound a.stagedOutbound = none := by
  obtain ⟨_, b₁, hauth, h₁⟩ := bind_ok.1 h
  cases checkTransferAuthority_ok hauth
  obtain ⟨_, b₂, hsender, h₂⟩ := bind_ok.1 h₁
  obtain ⟨rfl, -⟩ := checkSenderToken_ok hsender
  obtain ⟨p, b₃, hpeer, h₃⟩ := bind_ok.1 h₂
  obtain ⟨-, rfl⟩ := loadAccount_ok.1 hpeer
  obtain ⟨_, b₄, hcheck, h₄⟩ := bind_ok.1 h₃
  obtain ⟨-, rfl⟩ := check_ok.1 hcheck
  obtain ⟨refund, b₅, hrefund, h₅⟩ := bind_ok.1 h₄
  obtain ⟨-, -, rfl⟩ := tokenAccount_ok.1 hrefund
  obtain ⟨size, b₆, hsize, h₆⟩ := bind_ok.1 h₅
  obtain ⟨-, rfl⟩ := lift_ok.1 hsize
  obtain ⟨_, b₇, hget, h₇⟩ := bind_ok.1 h₆
  obtain ⟨rfl, rfl⟩ := getBank_ok.1 hget
  obtain ⟨_, b₈, hnew, -⟩ := bind_ok.1 h₇
  exact (constraint_ok.1 hnew).1

theorem fundCustody_keeping (a : StageOutbound) (n : ℕ) : Keeping C S (fundCustody d x a n) := by
  unfold fundCustody
  cases a.senderToken with
  | some senderToken =>
    cases a.sender with
    | some sender =>
      cases a.programTransferAuthority with
      | none => exact .bind (.cpi fun _ _ _ => .transfer) fun _ => .pure _
      | some authority => exact .fail _
    | none =>
      cases a.programTransferAuthority with
      | none => exact .fail _
      | some authority =>
        exact .bind (.loadAccount _) fun _ => .bind (.check _ _) fun _ => .bind (.check _ _) fun _ =>
          .bind (.cpi fun _ _ _ => .transfer) fun _ => .pure _
  | none =>
    cases a.sender with
    | some sender =>
      exact .bind (.systemTransfer _ _ _) fun _ =>
        .bind (.cpi fun _ _ _ => .syncNative) fun _ => .pure _
    | none => exact .fail _

theorem prepareMarketOrder_keeping (order : MarketOrder) (senderToken authority : Pubkey) :
    Keeping C S (prepareMarketOrder d x order senderToken authority) :=
  .bind (.constraint _ _) fun _ => .bind (.cpi fun _ _ _ => .transferOut) fun _ =>
    .modifyBank (fun _ => rfl) fun _ => rfl

theorem initiateTransfer_keeping (a : InitiateTransfer) : Keeping C S (initiateTransfer d x a) := by
  refine .bind (.loadAccount _) fun s => .bind (.tokenAccount _) fun c => ?_
  refine .bind (.constraint _ _) fun _ => .bind (.loadAccount _) fun peer => ?_
  refine .bind (.check _ _) fun _ => .bind (.lift _) fun r => .bind (.lift _) fun bytes => ?_
  refine .bind (.cpi fun _ _ _ => .setOwner) fun _ => ?_
  refine .bind (prepareMarketOrder_keeping _ _ _) fun _ => ?_
  exact .bind (.cpi fun _ _ _ => .closeAccount) fun _ => .closeStaged _ _

theorem closeStagedOutbound_keeping (a : CloseStagedOutbound) :
    Keeping C S (closeStagedOutbound d a) := by
  refine .bind (.loadAccount _) fun s => .bind (.constraint _ _) fun _ => ?_
  refine .bind (.loadAccount _) fun peer => .bind (.tokenAccount _) fun c => ?_
  refine .bind (.constraint _ _) fun _ => .bind ?_ fun _ => .closeStaged _ _
  unfold refundCustody
  cases a.senderToken with
  | some senderToken =>
    exact .bind (.cpi fun _ _ _ => .transfer) fun _ => .cpi fun _ _ _ => .closeAccount
  | none =>
    refine .bind .getBank fun b => .bind (.cpi fun _ _ _ => .closeAccount) fun _ => ?_
    split
    · exact .systemTransfer _ _ _
    · exact .pure _

/-- Jupiter changes amounts. -/
theorem swapExactIn_keeping (r : SharedAccountsRoute) (args : SharedAccountsRouteArgs)
    (limit : Option ℕ) : Keeping C S (r.swapExactIn d x args limit) := by
  intro b result b' h
  obtain ⟨s, t, reply, hs, ht, -, -, -, -, rfl⟩ := swapExactIn_ok h
  refine .of_outbound ?_ rfl
  have hsrc : Minted C b.accounts (setAmount d r.srcCustodyToken s reply.srcAmount b.accounts) :=
    .replace { s with amount := reply.srcAmount } hs rfl setAmount_tokens
  obtain ⟨t', ht', hm⟩ : ∃ t', (setAmount d r.srcCustodyToken s reply.srcAmount b.accounts).tokens
      r.dstCustodyToken = some t' ∧ t'.mint = t.mint := by
    by_cases he : r.dstCustodyToken = r.srcCustodyToken
    · rw [he] at ht ⊢
      obtain rfl : s = t := Option.some.inj (hs.symm.trans ht)
      exact ⟨_, setAmount_self, rfl⟩
    · exact ⟨t, (setAmount_other he).trans ht, rfl⟩
  exact hsrc.trans (.replace { t with amount := reply.dstAmount } ht' hm setAmount_tokens)

/-- The end of a swap closes the record, or spends it. -/
theorem settleDust_keeps {a : InitiateSwapExactIn} {s : StagedOutbound} {dust : ℕ}
    (hs : b.outbound a.stagedOutbound = some s) (hS : S a.stagedOutbound)
    (h : settleDust d a { s with stagedRedeem := .direct } dust b = .ok (u, b')) : Keeps C S b b' := by
  unfold settleDust at h
  simp only at h
  split at h
  · have hkeeping : Keeping C S (do
        cpi (closeAccount d.nativeMint a.srcTokenProgram (a.srcSwapToken d) a.payer
          (a.swapAuthority d))
        cpi (closeAccount d.nativeMint a.srcTokenProgram (d.stagedCustody a.stagedOutbound)
          s.info.preparedBy (d.peer a.targetPeer))
        closeStaged a.stagedOutbound s.info.preparedBy) :=
      .bind (.cpi fun _ _ _ => .closeAccount) fun _ =>
        .bind (.cpi fun _ _ _ => .closeAccount) fun _ => .closeStaged _ _
    exact hkeeping _ _ _ h
  · obtain ⟨_, _, htransfer, h₁⟩ := bind_ok.1 h
    obtain ⟨s₁, hop₁, rfl⟩ := cpi_ok.1 htransfer
    obtain ⟨_, _, hclose, h₂⟩ := bind_ok.1 h₁
    obtain ⟨s₂, hop₂, rfl⟩ := cpi_ok.1 hclose
    cases modifyBank_ok.1 h₂
    refine ⟨(Minted.transfer hop₁).trans (Minted.closeAccount hop₂), fun k s' hs' => ?_⟩
    change Function.update b.outbound a.stagedOutbound _ k = some s' at hs'
    by_cases hk : k = a.stagedOutbound
    · rw [hk, Function.update_self] at hs'
      cases hs'
      exact ⟨s, hk ▸ hs, .inr ⟨hk ▸ hS, rfl⟩⟩
    · rw [Function.update_of_ne hk] at hs'
      exact ⟨s', hs', .refl s'⟩

theorem sendSwapped_keeps {a : InitiateSwapExactIn} {s : StagedOutbound} {peer : Peer}
    {msg : SwapMessageV1} {out dust : ℕ} (hs : b.outbound a.stagedOutbound = some s)
    (hS : S a.stagedOutbound)
    (h : sendSwapped .panic d x a { s with stagedRedeem := .direct } peer msg out dust b = .ok (u, b')) :
    Keeps C S b b' := by
  unfold sendSwapped at h
  cases hmin : s.info.minAmountOut with
  | none =>
    simp only [hmin] at h
    exact (fail_ok.1 h).elim
  | some minAmountOut =>
    simp only [hmin] at h
    obtain ⟨_, _, hcheck, h₁⟩ := bind_ok.1 h
    obtain ⟨-, rfl⟩ := check_ok.1 hcheck
    obtain ⟨_, _, happrove, h₂⟩ := bind_ok.1 h₁
    obtain ⟨s₁, hop₁, rfl⟩ := cpi_ok.1 happrove
    obtain ⟨bytes, _, hbytes, h₃⟩ := bind_ok.1 h₂
    obtain ⟨-, rfl⟩ := lift_ok.1 hbytes
    obtain ⟨_, _, horder, h₄⟩ := bind_ok.1 h₃
    obtain ⟨s₂, hop₂, rfl⟩ := prepareMarketOrder_ok horder
    obtain ⟨_, _, hclose, h₅⟩ := bind_ok.1 h₄
    obtain ⟨s₃, hop₃, rfl⟩ := cpi_ok.1 hclose
    have hpaid := ((Minted.approve (C := C) hop₁).trans (.transferOut hop₂)).trans (.closeAccount hop₃)
    have hsettled := settleDust_keeps (C := C) (by exact hs) hS h₅
    refine Keeps.trans _ _ _ ?_ hsettled
    exact .of_outbound hpaid rfl

theorem initiateSwapExactIn_keeping {a : InitiateSwapExactIn} (hS : S a.stagedOutbound) :
    Keeping C S (initiateSwapExactIn d x a) := by
  intro b u b' h
  obtain ⟨s, s', c, peer, msg, out, dust, b₁, b₂, hk, htransfer, -, -, hmsg, hswap, hsend⟩ :=
    initiateSwapExactIn_stages h
  obtain ⟨s₁, hop, rfl⟩ := cpi_ok.1 htransfer
  obtain ⟨-, -, -, -, -, rfl⟩ := StagedOutbound.toSwapMessageV1_ok.1 hmsg
  have hswapped := swapExactIn_keeping (C := C) (S := S) _ _ _ _ _ _ hswap
  obtain ⟨src, dst, reply, -, -, -, -, -, -, rfl⟩ := swapExactIn_ok hswap
  have hstart : Keeps C S b (b.withAccounts s₁) := .of_outbound (.transfer hop) rfl
  have hsent := sendSwapped_keeps (C := C) (by exact hk.staged) hS hsend
  exact hstart.trans _ _ _ (hswapped.trans _ _ _ hsent)

theorem addPeer_keeping (signer : Pubkey) (args : AddPeerArgs) : Keeping C S (addPeer signer args) := by
  intro b u b' h
  rw [addPeer_ok h]
  exact .of_outbound (.refl _) rfl

theorem updatePeer_keeping (signer : Pubkey) (args : AddPeerArgs) :
    Keeping C S (updatePeer signer args) := by
  intro b u b' h
  rw [updatePeer_ok h]
  exact .of_outbound (.refl _) rfl

end Outbound

/-! ## Redemptions -/

section Redemption

variable {d : Deployment} {x : Externals} {C S : Pubkey → Prop} {b b' : Bank} {u : Unit}

theorem load_keeping (c : ConsumeSwapLayerFill) : Keeping C S c.load := by
  intro b r b' h
  obtain ⟨f, m, p⟩ := r
  rw [(ConsumeSwapLayerFill.load_ok.1 h).2]
  exact .refl b

theorem consumePreparedFill_keeping (c : ConsumeSwapLayerFill) (dstToken : Pubkey) :
    Keeping C S (c.consumePreparedFill d x dstToken) := by
  refine .bind (.constraint _ _) fun _ => .bind (.loadAccount _) fun fill => ?_
  refine .bind (.cpi fun _ _ _ => .transferIn) fun _ => .bind (.closeData _ _) fun _ => ?_
  refine .bind (.modifyBank (fun _ => rfl) fun _ => rfl) fun _ => ?_
  exact .bind (.loadAccount _) fun t => .pure _

theorem payGasDropoff_keeping (payer recipient : Pubkey) (n : ℕ) :
    Keeping C S (payGasDropoff payer recipient n) := by
  unfold payGasDropoff
  split
  · exact .systemTransfer _ _ _
  · exact .pure _

/-! ### Transfers -/

theorem completeTransferDirect_keeping (a : CompleteTransferDirect) :
    Keeping C S (completeTransferDirect d x a) := by
  refine .bind (load_keeping _) fun ⟨f, m, p⟩ => .bind (.checkAssociated _ _ _ _) fun _ => ?_
  refine .bind (.lift _) fun m => .bind (.check _ _) fun _ => .bind (.check _ _) fun _ => ?_
  refine .bind (.lift _) fun m => ?_
  cases m.redeemMode with
  | direct => exact .bind (consumePreparedFill_keeping _ _) fun _ => .pure _
  | payload sender buf => exact .fail _
  | relay gasDropoff relayingFee => exact .fail _

theorem initCompleteRelay_keeping {e : Error} {a : CompleteTransferRelay} (hC : C (a.completeToken d)) :
    Keeping C S (initCompleteRelay e d x a) := by
  refine .bind (load_keeping _) fun ⟨f, m, p⟩ => .bind (.checkAssociated _ _ _ _) fun _ => ?_
  refine .bind .getBank fun b => .bind (.tokenAccount _) fun _ => .bind (.constraint _ _) fun _ => ?_
  refine .bind (.createToken hC) fun _ => .bind (.lift _) fun m => .bind (.check _ _) fun _ => ?_
  refine .bind ?_ fun _ => .pure _
  unfold checkTimeLimit
  split
  · exact .lift _
  · exact .pure _

theorem relayUserAmount_keeping (a : CompleteTransferRelay) (gasDropoff relayingFee fillAmount : ℕ) :
    Keeping C S (relayUserAmount a gasDropoff relayingFee fillAmount) := by
  unfold relayUserAmount
  split
  · exact .pure _
  · exact .bind (payGasDropoff_keeping _ _ _) fun _ => .bind (.check _ _) fun _ => .pure _

theorem settleRelay_keeping {e : Error} (a : CompleteTransferRelay) (fillAmount userAmount : ℕ) :
    Keeping C S (settleRelay e d a fillAmount userAmount) := by
  refine .bind (.cpi fun _ _ _ => .transfer) fun _ => .bind ?_ fun _ => .cpi fun _ _ _ => .closeAccount
  unfold payFeeRecipient
  split
  · exact .bind .getBank fun b => .bind (.lift _) fun fee => .cpi fun _ _ _ => .transfer
  · exact .pure _

theorem completeTransferRelay_keeping {a : CompleteTransferRelay} (hC : C (a.completeToken d)) :
    Keeping C S (completeTransferRelay d x a) := by
  refine .bind (initCompleteRelay_keeping hC) fun f => .bind (.lift _) fun m => ?_
  cases m.redeemMode with
  | direct => exact .fail _
  | payload sender buf => exact .fail _
  | relay gasDropoff relayingFee =>
    exact .bind (consumePreparedFill_keeping _ _) fun fillAmount =>
      .bind (relayUserAmount_keeping _ _ _ _) fun userAmount => settleRelay_keeping _ _ _

theorem initStagedInbound_keeping (payer k : Pubkey) (msg : SwapMessageV1) :
    Keeping C S (initStagedInbound x payer k msg) := by
  refine .bind .getBank fun b => ?_
  cases b.inbound k with
  | some _ => exact .pure _
  | none =>
    exact .bind (.lift _) fun size => .bind (.constraint _ _) fun _ => .payRent _ _ _

theorem initUsdcIfNeeded_keeping {payer k owner : Pubkey} (hC : C k) :
    Keeping C S (initUsdcIfNeeded d x payer k owner) := by
  refine .bind .getBank fun b => ?_
  cases b.tokens k with
  | some _ => exact .checkAssociated _ _ _ _
  | none => exact .bind (.constraint _ _) fun _ => .createToken hC

theorem completeTransferPayload_keeping {a : CompleteTransferPayload}
    (hC : C (d.stagedCustody (d.stagedInbound a.consumeSwapLayerFill.fill))) :
    Keeping C S (completeTransferPayload d x a) := by
  refine .bind (load_keeping _) fun ⟨f, m, p⟩ => .bind (.lift _) fun m => ?_
  refine .bind (initStagedInbound_keeping _ _ _) fun _ => .bind (initUsdcIfNeeded_keeping hC) fun _ => ?_
  refine .bind (.lift _) fun m => .bind (.check _ _) fun _ => ?_
  refine .bind (consumePreparedFill_keeping _ _) fun _ => .bind (.lift _) fun m => ?_
  refine .bind (.lift _) fun s => ?_
  exact .modifyBank (fun _ => rfl) fun _ => rfl

/-! ### Swaps -/

theorem handleLoad_keeping (a : HandleCompleteSwap) (msg : SwapMessageV1) :
    Keeping C S (a.load d x msg) :=
  .bind (.constraint _ _) fun _ => .bind (.lift _) fun _ => .bind (.checkAssociated _ _ _ _) fun _ =>
    .bind (.checkAssociated _ _ _ _) fun _ => .check _ _

theorem settleSource_keeping (a : HandleCompleteSwap) (dust : ℕ) :
    Keeping C S (settleSource d a dust) := by
  refine .bind ?_ fun _ => .cpi fun _ _ _ => .closeAccount
  unfold payDust
  split
  · exact .bind .getBank fun b => .cpi fun _ _ _ => .transfer
  · exact .pure _

theorem payRecipient_keeping (a : HandleCompleteSwap) (msg : SwapMessageV1)
    (recipient : Option RecipientAccounts) (amountOut gasDropoff : ℕ) :
    Keeping C S (payRecipient d a msg recipient amountOut gasDropoff) := by
  unfold payRecipient
  cases recipient with
  | none => exact .pure _
  | some r =>
    dsimp only
    split
    · exact .bind (.cpi fun _ _ _ => .closeAccount) fun _ => .bind (.check _ _) fun _ =>
        .systemTransfer _ _ _
    · refine .bind (.loadAccount _) fun t => .bind (.constraint _ _) fun _ => ?_
      refine .bind (.cpi fun _ _ _ => .transfer) fun _ => ?_
      exact .bind (.cpi fun _ _ _ => .closeAccount) fun _ => payGasDropoff_keeping _ _ _

theorem handleCompleteSwapJupV6_keeping {e : Error} (a : HandleCompleteSwap) (route : SharedAccountsRoute)
    (inAmount : ℕ) (msg : SwapMessageV1) (recipient : Option RecipientAccounts) (gasDropoff : ℕ) :
    Keeping C S (handleCompleteSwapJupV6 e d x a route inAmount msg recipient gasDropoff) := by
  refine .bind ?_ fun _ => .bind (.lift _) fun requested => ?_
  · unfold checkRecipient
    cases recipient with
    | none => exact .pure _
    | some r => exact .check _ _
  refine .bind (.reads fun _ _ _ h => setUp_ok h) fun dex => ?_
  refine .bind (.reads fun _ _ _ h => (verify_ok.1 h).2.2.2.2.2) fun _ => .bind (.lift _) fun r => ?_
  refine .bind (swapExactIn_keeping _ _ _) fun out => .bind (settleSource_keeping _ _) fun _ => ?_
  exact payRecipient_keeping _ _ _ _ _

theorem completeSwapLoad_keeping {e : Error} (a : CompleteSwap) : Keeping C S (a.load e d x) :=
  .bind (load_keeping _) fun _ => .bind (.lift _) fun _ => .bind (handleLoad_keeping _ _) fun _ =>
    .pure _

theorem completeSwapDirect_keeping (a : CompleteSwap) : Keeping C S (completeSwapDirect d x a) := by
  refine .bind (completeSwapLoad_keeping _) fun f => .bind (.lift _) fun m => ?_
  refine .bind (consumePreparedFill_keeping _ _) fun n => ?_
  cases m.redeemMode with
  | direct => exact handleCompleteSwapJupV6_keeping _ _ _ _ _ _
  | payload sender buf => exact .fail _
  | relay gasDropoff relayingFee => exact .fail _

theorem completeSwapRelay_keeping (a : CompleteSwap) : Keeping C S (completeSwapRelay d x a) := by
  refine .bind (completeSwapLoad_keeping _) fun f => .bind (.lift _) fun m => ?_
  cases m.redeemMode with
  | direct => exact .fail _
  | payload sender buf => exact .fail _
  | relay gasDropoff relayingFee =>
    exact .bind (consumePreparedFill_keeping _ _) fun n => .bind (.lift _) fun r =>
      handleCompleteSwapJupV6_keeping _ _ _ _ _ _

theorem completeSwapPayload_keeping (a : CompleteSwapPayload) :
    Keeping C S (completeSwapPayload d x a) := by
  refine .bind (load_keeping _) fun ⟨f, m, p⟩ => .bind (.lift _) fun m => ?_
  refine .bind (initStagedInbound_keeping _ _ _) fun _ => .bind (.lift _) fun m => ?_
  refine .bind (handleLoad_keeping _ _) fun _ => .bind (consumePreparedFill_keeping _ _) fun n => ?_
  refine .bind (.lift _) fun m => .bind (.lift _) fun s => ?_
  refine .bind (.modifyBank (fun _ => rfl) fun _ => rfl) fun _ => ?_
  exact handleCompleteSwapJupV6_keeping _ _ _ _ _ _

theorem releaseInbound_keeping (a : ReleaseInbound) : Keeping C S (releaseInbound d a) := by
  refine .bind (.loadAccount _) fun s => .bind (.loadAccount _) fun c => ?_
  refine .bind (.constraint _ _) fun _ => .bind (.constraint _ _) fun _ => ?_
  refine .bind (.constraint _ _) fun _ => .bind (.constraint _ _) fun _ => ?_
  refine .bind (.cpi fun _ _ _ => .transfer) fun _ => .bind (.cpi fun _ _ _ => .closeAccount) fun _ => ?_
  exact .bind (.closeData _ _) fun _ => .modifyBank (fun _ => rfl) fun _ => rfl

end Redemption

/-! ## The accounts that a step creates -/

section Creation

variable (d : Deployment)

/-- The token accounts that a completion may create; those of a swap must be there. -/
def Completion.creates : Completion → List Pubkey
  | transferRelay a => [a.completeToken d]
  | transferPayload a => [d.stagedCustody (d.stagedInbound a.consumeSwapLayerFill.fill)]
  | _ => []

def Call.creates : Call → List Pubkey
  | stageOutbound a _ => [d.stagedCustody a.stagedOutbound]
  | createToken _ account _ _ _ => [account]
  | _ => []

def Event.creates : Event → List Pubkey
  | complete c => c.creates d
  | call c => c.creates d
  | _ => []

/-- The staged transfers that a step may spend. -/
def Call.spends : Call → List Pubkey
  | initiateSwapExactIn a => [a.stagedOutbound]
  | _ => []

def Event.spends : Event → List Pubkey
  | call c => c.spends
  | _ => []

/-- The custody address of a staged transfer is derived from the staged account: no step creates an
account there, but one that stages under the same key again, which fails. -/
def Uncontested (b : Bank) (i : Externals × Event) : Prop :=
  ∀ k, b.outbound k ≠ none → d.stagedCustody k ∈ i.2.creates d →
    ∃ a args, i.2 = .call (.stageOutbound a args) ∧ a.stagedOutbound = k

end Creation

section Steps

variable {d : Deployment} {x : Externals} {S : Pubkey → Prop} {b b' : Bank} {u : Unit}

theorem Completion.keeping (c : Completion) :
    Keeping (· ∈ c.creates d) S (c.instruction d x) := by
  cases c with
  | transferDirect a => exact completeTransferDirect_keeping a
  | transferRelay a => exact completeTransferRelay_keeping (List.mem_singleton_self _)
  | transferPayload a => exact completeTransferPayload_keeping (List.mem_singleton_self _)
  | swapDirect a => exact completeSwapDirect_keeping a
  | swapRelay a => exact completeSwapRelay_keeping a
  | swapPayload a => exact completeSwapPayload_keeping a

theorem Call.keeping {c : Call} (hc : ∀ a args, c ≠ .stageOutbound a args) :
    Keeping (· ∈ c.creates d) (· ∈ c.spends) (c.instruction d x) := by
  cases c with
  | stageOutbound a args => exact absurd rfl (hc a args)
  | initiateTransfer a => exact initiateTransfer_keeping a
  | initiateSwapExactIn a => exact initiateSwapExactIn_keeping (List.mem_singleton_self _)
  | closeStagedOutbound a => exact closeStagedOutbound_keeping a
  | addPeer signer args => exact addPeer_keeping signer args
  | updatePeer signer args => exact updatePeer_keeping signer args
  | govern signer roles peers => exact .modifyBank (fun _ => rfl) fun _ => rfl
  | transfer program src dst authority n => exact .cpi fun _ _ _ => .transfer
  | closeAccount program account destination authority => exact .cpi fun _ _ _ => .closeAccount
  | setOwner program account authority newOwner => exact .cpi fun _ _ _ => .setOwner
  | approve program account delegate authority n => exact .cpi fun _ _ _ => .approve
  | syncNative program account => exact .cpi fun _ _ _ => .syncNative
  | createToken program account mint owner payer =>
    exact .createToken (List.mem_singleton_self _)
  | systemTransfer src dst n => exact .systemTransfer src dst n
  | deposit program dst mint n => exact .cpi fun _ _ _ => .transferIn
  | withdraw program src authority n => exact .cpi fun _ _ _ => .transferOut

/-- **What stages nothing keeps the records and the mints.** -/
theorem Event.keeping {ev : Event} (hev : ∀ a args, ev ≠ .call (.stageOutbound a args)) :
    Keeping (· ∈ ev.creates d) (· ∈ ev.spends) (ev.instruction d x) := by
  cases ev with
  | complete c => exact c.keeping
  | release a => exact releaseInbound_keeping a
  | prepareFill fill f => exact .modifyBank (fun _ => rfl) fun _ => rfl
  | call c => exact Call.keeping fun a args hc => hev a args (hc ▸ rfl)

/-! ## Records in order -/

/-- A record in order: its fee is a `Uint48`, and without a minimum its custody is USDC. -/
structure WellStaged (d : Deployment) (b : Bank) (k : Pubkey) (s : StagedOutbound) : Prop where
  fee : Unwrapping.FeeFits s
  mint : s.info.minAmountOut = none → ∀ c, b.tokens (d.stagedCustody k) = some c → c.mint = d.usdcMint

/-- Every record is in order. -/
def Sound (d : Deployment) (b : Bank) : Prop := ∀ k s, b.outbound k = some s → WellStaged d b k s

theorem WellStaged.follows {k : Pubkey} {s s' : StagedOutbound} {C : Pubkey → Prop} {spends : Prop}
    (h : WellStaged d b k s) (hf : Follows spends s s') (hm : Minted C b.accounts b'.accounts)
    (hk : ¬ C (d.stagedCustody k)) : WellStaged d b' k s' := by
  have hsame : s'.info.minAmountOut = s.info.minAmountOut := by
    rcases hf with rfl | ⟨-, rfl⟩ <;> rfl
  constructor
  · intro gasDropoff relayingFee hredeem
    rcases hf with rfl | ⟨-, rfl⟩
    · exact h.fee gasDropoff relayingFee hredeem
    · cases hredeem
  · intro hmin c' hc'
    obtain ⟨c, hc, hmint⟩ := hm _ c' hk hc'
    exact hmint.symm.trans (h.mint (hsame.symm.trans hmin) c hc)

/-- **A staging writes a record in order.** -/
theorem StagedAs.wellStaged {a : StageOutbound} {args : StageOutboundArgs} (g : StagedAs d a args b b') :
    WellStaged d b' a.stagedOutbound g.account := by
  constructor
  · intro gasDropoff relayingFee hredeem
    have hpriced := stagedRedeem_redeems g.priced
    rw [show g.redeem = .relay gasDropoff relayingFee from hredeem] at hpriced
    generalize args.redeemOption = option at hpriced
    cases hpriced with
    | relay hfee => exact calculateRelayerFee_lt hfee
  · intro hmin c hc
    have hmin' : args.minAmountOut = none := hmin
    have husdc := g.minAmount.resolve_left (by simp [hmin'])
    obtain rfl : g.custody = c := Option.some.inj (g.custodyOf.token.symm.trans hc)
    exact g.custodyOf.mint.trans husdc

/-- A staging leaves the other records alone. -/
theorem stageOutbound_others {a : StageOutbound} {args : StageOutboundArgs}
    (h : stageOutbound d x a args b = .ok (u, b')) :
    b.outbound a.stagedOutbound = none ∧
      Minted (· = d.stagedCustody a.stagedOutbound) b.accounts b'.accounts ∧
      ∀ k, k ≠ a.stagedOutbound → ∀ s', b'.outbound k = some s' →
        b.outbound k = some s' := by
  obtain ⟨peer, b₁, hinit, h₁⟩ := bind_ok.1 h
  have hfresh := initStaged_fresh hinit
  obtain ⟨token, _, htoken, h₂⟩ := bind_ok.1 h₁
  obtain ⟨-, rfl⟩ := lift_ok.1 htoken
  obtain ⟨_, _, hexact, h₃⟩ := bind_ok.1 h₂
  obtain ⟨-, rfl⟩ := check_ok.1 hexact
  obtain ⟨⟨n, redeem⟩, _, hpriced, h₄⟩ := bind_ok.1 h₃
  obtain ⟨-, rfl⟩ := lift_ok.1 hpriced
  obtain ⟨sender, b₂, hfund, h₅⟩ := bind_ok.1 h₄
  cases modifyBank_ok.1 h₅
  have hcreates := initStaged_keeping (C := (· = d.stagedCustody a.stagedOutbound))
    (S := fun _ => False) rfl _ _ _ hinit
  have hkept := hcreates.trans _ _ _ (fundCustody_keeping a n _ _ _ hfund)
  refine ⟨hfresh, hkept.minted, fun k hk s' hs' => ?_⟩
  obtain ⟨s, hs, rfl | ⟨hspent, -⟩⟩ := hkept.outbound k s' ((Function.update_of_ne hk ..).symm.trans hs')
  · exact hs
  · exact hspent.elim

/-- **Every step keeps the records in order.** -/
theorem sound_step {i : Externals × Event} (hb : Sound d b) (hfree : Uncontested d b i)
    (h : perform d i b = .ok b') : Sound d b' := by
  have hok := perform_ok.1 h
  by_cases hstages : ∃ a args, i.2 = .call (.stageOutbound a args)
  · obtain ⟨a, args, hi⟩ := hstages
    rw [hi] at hok
    obtain ⟨hfresh, hminted, hothers⟩ := stageOutbound_others hok
    obtain ⟨g⟩ := stageOutbound_ok hok
    intro k s' hs'
    by_cases hk : k = a.stagedOutbound
    · subst hk
      obtain rfl : g.account = s' := Option.some.inj (g.outbound.symm.trans hs')
      exact g.wellStaged
    · have hs := hothers k hk s' hs'
      refine (hb k s' hs).follows (.inl rfl : Follows False s' s') hminted fun he => hk ?_
      -- another staging would have the same custody address
      obtain ⟨a', args', hi', rfl⟩ := hfree k (hs ▸ Option.some_ne_none s')
        (by rw [hi, he]; exact List.mem_singleton_self _)
      cases hi.symm.trans hi'
      rfl
  · have hev : ∀ a args, i.2 ≠ .call (.stageOutbound a args) := fun a args hi =>
      hstages ⟨a, args, hi⟩
    have hkeeps := Event.keeping hev _ _ _ hok
    intro k s' hs'
    obtain ⟨s, hs, hf⟩ := hkeeps.outbound k s' hs'
    refine (hb k s hs).follows hf hkeeps.minted fun hcreated => ?_
    obtain ⟨a, args, hi, -⟩ := hfree k (hs ▸ Option.some_ne_none s) hcreated
    exact hev a args hi

end Steps

/-! ## Runs -/

/-- The states that runs lead to, from one in which nothing is staged. -/
def Operated (d : Deployment) (b : Bank) : Prop :=
  ∃ b₀ is, (∀ k, b₀.outbound k = none) ∧ Along (perform d) (Uncontested d) is b₀ ∧
    b = run (perform d) is b₀

/-- **In every state that runs lead to every record is in order.** -/
theorem sound_run {d : Deployment} {b : Bank} (h : Operated d b) : Sound d b := by
  obtain ⟨b₀, is, hnothing, hfree, rfl⟩ := h
  refine run_induction (fun _ _ _ hs hi hstep => sound_step hs hi hstep) is b₀ hfree ?_
  intro k s hs
  cases (hnothing k).symm.trans hs

/-- **No guarded unwrap fails**: in every state that runs lead to, whatever instruction comes next, with
whatever accounts and arguments. If an unwrap failed, the outcome would be `e`; it is the same for
all `e`. -/
theorem no_unwrap_fails {d : Deployment} {b : Bank} (hb : Operated d b) (e : Error) (x : Externals)
    (ev : Event) : ev.instructionOr e d x b = ev.instruction d x b := by
  have hsound := sound_run hb
  cases ev with
  | complete c => exact congrFun (Unwrapping.completion_eq c) b
  | release a => rfl
  | prepareFill fill f => rfl
  | call c =>
    cases c with
    | stageOutbound a args => exact congrFun (Unwrapping.stageOutbound_eq a args) b
    | initiateTransfer a => exact Unwrapping.initiateTransfer_eq fun s hs => (hsound _ s hs).fee
    | initiateSwapExactIn a =>
      exact Unwrapping.initiateSwapExactIn_eq (fun s hs => (hsound _ s hs).fee) fun s hs =>
        (hsound _ s hs).mint
    | _ => rfl

namespace Sample

/-- 100 USDC have been staged, and are to be sent. -/
theorem staged_unwraps :
    ((run (perform deployment) [(externals .token, .call (.stageOutbound (staging .token usdc)
        stagingArgs))] (bank .token usdc)).outbound staged).isSome = true ∧
      (Event.call (.initiateTransfer ⟨payer, staged, 2⟩)).instructionOr .tokenRouter deployment
          (externals .token)
          (run (perform deployment) [(externals .token, .call (.stageOutbound (staging .token usdc)
            stagingArgs))] (bank .token usdc)) =
        (Event.call (.initiateTransfer ⟨payer, staged, 2⟩)).instruction deployment (externals .token)
          (run (perform deployment) [(externals .token, .call (.stageOutbound (staging .token usdc)
            stagingArgs))] (bank .token usdc)) :=
  ⟨by decide +kernel,
    no_unwrap_fails ⟨bank .token usdc, [_], fun _ => rfl, ⟨fun _ h => absurd rfl h, trivial⟩, rfl⟩ _ _ _⟩

end Sample

end SwapLayer.Solana
