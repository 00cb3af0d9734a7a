import SwapLayer.Solana.Redemption
import SwapLayer.Solana.Initiate

/-!
# Whose accounts the program changes

The program signs for addresses that are derived from seeds, and its callers sign for themselves.
Every instruction is followed through its calls: the token accounts of everybody else at most gain
(`Acts`, with the signing keys in `P`). In one place the program appoints a delegate: the custodian
for the account of a swap authority.

Results:
* `stageOutbound_confined` and its companions: the outbound instructions act for other derived
  addresses than those of staged inbound transfers, and leave these and the fills alone (`Outbound`).
* `Completion.acts`, `releaseInbound_acts`: a completion acts for the staged transfer of its own fill,
  a release for the one that it releases.
-/

namespace SwapLayer.Solana

open ByteString Program SplToken Messages

/-! ## The keys that the program signs for -/

/-- The derived addresses that sign, except those of staged inbound transfers; swap authorities may
appoint delegates. -/
structure Signs (d : Deployment) (P Q : Pubkey → Prop) : Prop where
  custodian : P d.custodian
  peer : ∀ chain, P (d.peer chain)
  swapAuthority : ∀ k, P (d.swapAuthority k)
  transferAuthority : ∀ args, P (d.transferAuthority args)
  delegates : ∀ k, Q (d.swapAuthority k)

/-- What an outbound instruction does. -/
structure Outbound (P Q : Pubkey → Prop) (b b' : Bank) : Prop where
  acts : Acts P Q b.accounts b'.accounts
  fills : b'.fills = b.fills
  inbound : b'.inbound = b.inbound

theorem Outbound.refl {P Q : Pubkey → Prop} (b : Bank) : Outbound P Q b b := ⟨.refl _, rfl, rfl⟩

theorem Outbound.trans {P Q : Pubkey → Prop} (b b' b'' : Bank) (h : Outbound P Q b b')
    (h' : Outbound P Q b' b'') : Outbound P Q b b'' :=
  ⟨h.acts.trans h'.acts, h'.fills.trans h.fills, h'.inbound.trans h.inbound⟩

/-- A part of an outbound instruction. -/
def Confined {α : Type} (P Q : Pubkey → Prop) (i : Instruction α) : Prop := Guarantees (Outbound P Q) i

namespace Confined

variable {P Q : Pubkey → Prop} {α β : Type}

theorem bind {i : Instruction α} {j : α → Instruction β} (hi : Confined P Q i)
    (hj : ∀ a, Confined P Q (j a)) : Confined P Q (i >>= j) := Guarantees.bind Outbound.trans hi hj

theorem pure (a : α) : Confined P Q (Pure.pure a : Instruction α) := Guarantees.pure Outbound.refl a

theorem fail (e : Error) : Confined P Q (fail e : Instruction α) := Guarantees.fail e

theorem lift (i : Except Error α) : Confined P Q (lift i) := Guarantees.lift Outbound.refl i

theorem check (p : Prop) [Decidable p] (e : SwapLayerError) : Confined P Q (check p e) :=
  .require Outbound.refl _ _

theorem constraint (p : Prop) [Decidable p] (e : Error) : Confined P Q (constraint p e) :=
  .require Outbound.refl _ _

/-- A part that reads. -/
theorem reads {i : Instruction α} (h : ∀ b a b', i b = .ok (a, b') → b' = b) : Confined P Q i := by
  intro b a b' hi
  rw [h b a b' hi]
  exact .refl b

theorem loadAccount (f : Bank → Option α) : Confined P Q (loadAccount f) :=
  reads fun _ _ _ h => (loadAccount_ok.1 h).2

theorem tokenAccount (k : Pubkey) : Confined P Q (tokenAccount k) :=
  reads fun _ _ _ h => (tokenAccount_ok.1 h).2.2

theorem getBank : Confined P Q getBank := reads fun _ _ _ h => (getBank_ok.1 h).2

/-- A call of the token program or the system program. -/
theorem cpi {op : Op Pubkey α} (h : ∀ s a s', op s = .ok (a, s') → Acts P Q s s') :
    Confined P Q (cpi op) := by
  intro b a b' hop
  obtain ⟨s, hs, rfl⟩ := cpi_ok.1 hop
  exact ⟨h _ _ _ hs, rfl, rfl⟩

theorem systemTransfer (src dst : Pubkey) (n : ℕ) : Confined P Q (systemTransfer src dst n) :=
  .bind .getBank fun _ => .bind (.constraint _ _) fun _ => .cpi fun _ _ _ => .systemTransfer

theorem payRent (payer account : Pubkey) (rent : ℕ) : Confined P Q (payRent payer account rent) := by
  refine .bind .getBank fun b => ?_
  split
  · exact .systemTransfer _ _ _
  · exact .pure _

theorem createToken (native : Pubkey) (program : TokenProgram) (rent : ℕ)
    (account mint owner payer : Pubkey) :
    Confined P Q (createToken native program rent account mint owner payer) :=
  .bind (.payRent _ _ _) fun _ => .cpi fun _ _ _ => .initToken

/-- Tokens, fills and inbound transfers stay. -/
theorem modifyBank {f : Bank → Bank} (htokens : ∀ b, (f b).tokens = b.tokens)
    (hfills : ∀ b, (f b).fills = b.fills) (hinbound : ∀ b, (f b).inbound = b.inbound) :
    Confined P Q (modifyBank f) := by
  intro b u b' h
  cases modifyBank_ok.1 h
  exact ⟨.of_tokens (htokens b), hfills b, hinbound b⟩

theorem closeData (k destination : Pubkey) : Confined P Q (closeData k destination) :=
  modifyBank (fun _ => Accounts.moveLamports_tokens ..) (fun _ => rfl) fun _ => rfl

end Confined

/-! ## Outbound transfers -/

section Outbound

variable {d : Deployment} {x : Externals} {P Q : Pubkey → Prop}

theorem fundCustody_confined {a : StageOutbound} {n : ℕ} (hsender : ∀ k, a.sender = some k → P k)
    (hauthority : ∀ k, a.programTransferAuthority = some k → P k) :
    Confined P Q (fundCustody d x a n) := by
  unfold fundCustody
  cases ht : a.senderToken with
  | some senderToken =>
    cases hs : a.sender with
    | some sender =>
      cases a.programTransferAuthority with
      | none => exact .bind (.cpi fun _ _ _ => .transfer (hsender _ hs)) fun _ => .pure _
      | some authority => exact .fail _
    | none =>
      cases hp : a.programTransferAuthority with
      | none => exact .fail _
      | some authority =>
        exact .bind (.loadAccount _) fun _ => .bind (.check _ _) fun _ => .bind (.check _ _) fun _ =>
          .bind (.cpi fun _ _ _ => .transfer (hauthority _ hp)) fun _ => .pure _
  | none =>
    cases a.sender with
    | some sender =>
      exact .bind (.systemTransfer _ _ _) fun _ =>
        .bind (.cpi fun _ _ _ => .syncNative) fun _ => .pure _
    | none => exact .fail _

theorem initStaged_confined (a : StageOutbound) (args : StageOutboundArgs) :
    Confined P Q (initStaged d x a args) := by
  refine .bind (.reads fun _ _ _ h => checkTransferAuthority_ok h) fun _ => ?_
  refine .bind (.reads fun _ _ _ h => (checkSenderToken_ok h).1) fun _ => ?_
  refine .bind (.loadAccount _) fun peer => .bind (.check _ _) fun _ => ?_
  refine .bind (.tokenAccount _) fun refund => .bind (.lift _) fun size => ?_
  refine .bind .getBank fun b => .bind (.constraint _ _) fun _ => .bind (.constraint _ _) fun _ => ?_
  refine .bind (.payRent _ _ _) fun _ => ?_
  refine .bind (.check _ _) fun _ => .bind (.check _ _) fun _ => .bind (.check _ _) fun _ => ?_
  refine .bind (.constraint _ _) fun _ => .bind (.constraint _ _) fun _ => ?_
  refine .bind (.createToken _ _ _ _ _ _ _) fun _ => ?_
  exact .bind (.constraint _ _) fun _ => .bind (.constraint _ _) fun _ => .pure _

theorem stageOutbound_confined {a : StageOutbound} {args : StageOutboundArgs} (h : Signs d P Q)
    (hsender : ∀ k, a.sender = some k → P k) : Confined P Q (stageOutbound d x a args) := by
  intro b u b' hok
  obtain ⟨peer, b₁, hinit, h₁⟩ := bind_ok.1 hok
  have hauthority : ∀ k, a.programTransferAuthority = some k → P k := by
    intro k hk
    obtain ⟨_, _, hcheck, -⟩ := bind_ok.1 hinit
    unfold checkTransferAuthority at hcheck
    rw [hk] at hcheck
    obtain ⟨_, _, hseeds, -⟩ := bind_ok.1 hcheck
    rw [(constraint_ok.1 hseeds).1]
    exact h.transferAuthority args
  refine (initStaged_confined a args _ _ _ hinit).trans _ _ _ ?_
  refine Confined.bind (.lift _) (fun token => ?_) _ _ _ h₁
  refine .bind (.check _ _) fun _ => .bind (.lift _) fun r => ?_
  refine .bind (fundCustody_confined hsender hauthority) fun sender => ?_
  exact .modifyBank (fun _ => rfl) (fun _ => rfl) fun _ => rfl

theorem closeStaged_confined (k preparedBy : Pubkey) : Confined P Q (closeStaged k preparedBy) :=
  .bind (.closeData _ _) fun _ => .modifyBank (fun _ => rfl) (fun _ => rfl) fun _ => rfl

theorem prepareMarketOrder_confined (order : MarketOrder) (senderToken : Pubkey) {authority : Pubkey}
    (h : P authority) : Confined P Q (prepareMarketOrder d x order senderToken authority) :=
  .bind (.constraint _ _) fun _ => .bind (.cpi fun _ _ _ => .transferOut h) fun _ =>
    .modifyBank (fun _ => rfl) (fun _ => rfl) fun _ => rfl

theorem initiateTransfer_confined (h : Signs d P Q) (a : InitiateTransfer) :
    Confined P Q (initiateTransfer d x a) := by
  refine .bind (.loadAccount _) fun s => .bind (.tokenAccount _) fun c => ?_
  refine .bind (.constraint _ _) fun _ => .bind (.loadAccount _) fun peer => ?_
  refine .bind (.check _ _) fun _ => .bind (.lift _) fun r => .bind (.lift _) fun bytes => ?_
  refine .bind (.cpi fun _ _ _ => .setOwner (h.peer _)) fun _ => ?_
  refine .bind (prepareMarketOrder_confined _ _ h.custodian) fun _ => ?_
  exact .bind (.cpi fun _ _ _ => .closeAccount h.custodian) fun _ => closeStaged_confined _ _

theorem settleDust_confined (h : Signs d P Q) (a : InitiateSwapExactIn) (s : StagedOutbound) (n : ℕ) :
    Confined P Q (settleDust d a s n) := by
  have hauthority : P (a.swapAuthority d) := h.swapAuthority _
  unfold settleDust
  simp only
  split
  · exact .bind (.cpi fun _ _ _ => .closeAccount hauthority) fun _ =>
      .bind (.cpi fun _ _ _ => .closeAccount (h.peer _)) fun _ => closeStaged_confined _ _
  · exact .bind (.cpi fun _ _ _ => .transfer hauthority) fun _ =>
      .bind (.cpi fun _ _ _ => .closeAccount hauthority) fun _ =>
      .modifyBank (fun _ => rfl) (fun _ => rfl) fun _ => rfl

/-- The custodian becomes a delegate of the swap authority. -/
theorem sendSwapped_confined (h : Signs d P Q) (a : InitiateSwapExactIn) (s : StagedOutbound)
    (peer : Peer) (msg : SwapMessageV1) (n dust : ℕ) :
    Confined P Q (sendSwapped .panic d x a s peer msg n dust) := by
  have hauthority : P (a.swapAuthority d) := h.swapAuthority _
  unfold sendSwapped
  cases s.info.minAmountOut with
  | none => exact .fail _
  | some minAmountOut =>
    refine .bind (.check _ _) fun _ => ?_
    refine .bind (.cpi fun _ _ _ => .approve hauthority (h.delegates _)) fun _ => ?_
    refine .bind (.lift _) fun bytes => .bind (prepareMarketOrder_confined _ _ h.custodian) fun _ => ?_
    exact .bind (.cpi fun _ _ _ => .closeAccount hauthority) fun _ => settleDust_confined h a s dust

/-- Jupiter changes the two accounts of the swap authority. -/
theorem swapExactIn_outbound {r : SharedAccountsRoute} {args : SharedAccountsRouteArgs}
    {limit : Option ℕ} {result : ℕ × ℕ} {b b' : Bank}
    (hsrc : ∃ t, b.tokens r.srcCustodyToken = some t ∧ P t.owner)
    (hdst : ∃ t, b.tokens r.dstCustodyToken = some t ∧ P t.owner)
    (h : r.swapExactIn d x args limit b = .ok (result, b')) : Outbound P Q b b' := by
  obtain ⟨s, t, reply, hs, ht, -, -, -, -, rfl⟩ := swapExactIn_ok h
  obtain ⟨s', hs', hP⟩ := hsrc
  obtain ⟨t', ht', hP'⟩ := hdst
  obtain rfl : s = s' := Option.some.inj (hs.symm.trans hs')
  obtain rfl : t = t' := Option.some.inj (ht.symm.trans ht')
  refine ⟨?_, rfl, rfl⟩
  have hmid : Acts P Q b.accounts (setAmount d r.srcCustodyToken s reply.srcAmount b.accounts) :=
    .setAmount hs hP setAmount_tokens
  by_cases he : r.srcCustodyToken = r.dstCustodyToken
  · refine hmid.trans (.setAmount (a := { s with amount := reply.srcAmount }) (n := reply.dstAmount)
      setAmount_self hP ?_)
    obtain rfl : s = t := Option.some.inj (hs.symm.trans (he ▸ ht))
    rw [Bank.withAccounts_accounts, he, swapped_tokens, setAmount_tokens]
  · refine hmid.trans (.setAmount (a := t) (n := reply.dstAmount)
      ((setAmount_other (Ne.symm he)).trans ht) hP' ?_)
    rw [Bank.withAccounts_accounts, swapped_tokens, setAmount_tokens]

theorem initiateSwapExactIn_confined (h : Signs d P Q) (a : InitiateSwapExactIn) :
    Confined P Q (initiateSwapExactIn d x a) := by
  intro b u b' hok
  obtain ⟨s, s', c, peer, msg, out, dust, b₁, b₂, hk, htransfer, hrsrc, hrdst, -, hswap, hsend⟩ :=
    initiateSwapExactIn_stages hok
  have hmoved := Confined.cpi (fun _ _ _ => Acts.transfer (P := P) (Q := Q) (h.peer _)) _ _ _ htransfer
  -- the owners of the two accounts are still what the constraints say
  have howner : ∀ k, (∃ t, b.tokens k = some t ∧ t.owner = a.swapAuthority d) →
      ∃ t, b₁.tokens k = some t ∧ P t.owner := by
    rintro k ⟨t, ht, ho⟩
    obtain ⟨_, hop, rfl⟩ := cpi_ok.1 htransfer
    obtain ⟨t', ht', ho'⟩ := transfer_owner hop ht
    exact ⟨t', ht', (ho'.trans ho).symm ▸ h.swapAuthority _⟩
  obtain ⟨tsrc, htsrc, -, hosrc⟩ := hk.src
  obtain ⟨tdst, htdst, -, hodst⟩ := hk.dst
  have hswapped := swapExactIn_outbound (Q := Q) (hrsrc ▸ howner _ ⟨tsrc, htsrc, hosrc⟩)
    (hrdst ▸ howner _ ⟨tdst, htdst, hodst⟩) hswap
  exact hmoved.trans _ _ _ (hswapped.trans _ _ _ (sendSwapped_confined h a _ peer msg out dust _ _ _ hsend))

theorem closeStagedOutbound_confined (h : Signs d P Q) (a : CloseStagedOutbound) :
    Confined P Q (closeStagedOutbound d a) := by
  refine .bind (.loadAccount _) fun s => .bind (.constraint _ _) fun _ => ?_
  refine .bind (.loadAccount _) fun peer => .bind (.tokenAccount _) fun c => ?_
  refine .bind (.constraint _ _) fun _ => .bind ?_ fun _ => closeStaged_confined _ _
  unfold refundCustody
  cases a.senderToken with
  | some senderToken =>
    exact .bind (.cpi fun _ _ _ => .transfer (h.peer _)) fun _ =>
      .cpi fun _ _ _ => .closeAccount (h.peer _)
  | none =>
    refine .bind .getBank fun b => .bind (.cpi fun _ _ _ => .closeAccount (h.peer _)) fun _ => ?_
    split
    · exact .systemTransfer _ _ _
    · exact .pure _

theorem addPeer_confined (signer : Pubkey) (args : AddPeerArgs) :
    Confined P Q (addPeer signer args) := by
  intro b u b' h
  rw [addPeer_ok h]
  exact ⟨.refl _, rfl, rfl⟩

theorem updatePeer_confined (signer : Pubkey) (args : AddPeerArgs) :
    Confined P Q (updatePeer signer args) := by
  intro b u b' h
  rw [updatePeer_ok h]
  exact ⟨.refl _, rfl, rfl⟩

end Outbound

/-! ## Redemptions -/

section Redemption

variable {d : Deployment} {x : Externals} {P Q : Pubkey → Prop} {b b' : Bank} {u : Unit}

/-- A swap and the settling of its source change the accounts of its authority. -/
theorem acts_swapped {a : HandleCompleteSwap} {s t : TokenAccount Pubkey} {fee : Pubkey} {dust n : ℕ}
    (hacc : SwapAccounts d a b s t) (h : P a.swapAuthority)
    (htokens : b'.tokens = Function.update (Function.update (credited b.tokens fee dust)
      (a.srcSwapToken d) none) (a.dstSwapToken d) (some { t with amount := n })) :
    Acts P Q b.accounts b'.accounts := by
  obtain ⟨r, -, hr⟩ : ∃ r, s.amount ≤ r ∧ credited b.tokens fee dust (a.srcSwapToken d) =
    some { s with amount := r } := credited_grows hacc.src.token
  obtain ⟨q, -, hq⟩ : ∃ q, t.amount ≤ q ∧ credited b.tokens fee dust (a.dstSwapToken d) =
    some { t with amount := q } := credited_grows hacc.dst.token
  let paid : Accounts Pubkey := ⟨credited b.tokens fee dust, b.lamports⟩
  have hpaid : Acts P Q b.accounts paid := .credited rfl
  have hclosed : Acts P Q paid (paid.setToken (a.srcSwapToken d) none) :=
    .remove hr (hacc.src.owner.symm ▸ h) rfl
  refine hpaid.trans (hclosed.trans (.setAmount (k := a.dstSwapToken d) (n := n)
    (a := { t with amount := q }) ?_ (hacc.dst.owner.symm ▸ h) htokens))
  exact (Function.update_of_ne hacc.ne.symm ..).trans hq

theorem acts_consumed {c : ConsumeSwapLayerFill} {dst : Pubkey} {t : TokenAccount Pubkey} {n : ℕ}
    (ht : b.tokens dst = some t) : Acts P Q b.accounts (c.consumed dst t n b).accounts :=
  .gain ht (ConsumeSwapLayerFill.consumed_tokens ..)

theorem payRecipient_acts {a : HandleCompleteSwap} {msg : SwapMessageV1}
    {recipient : Option RecipientAccounts} {n gasDropoff : ℕ} (h : P a.swapAuthority) :
    Confined P Q (payRecipient d a msg recipient n gasDropoff) := by
  have hclose : Confined P Q (cpi (closeAccount d.nativeMint a.dstTokenProgram (a.dstSwapToken d)
      a.payer a.swapAuthority)) := .cpi fun _ _ _ => .closeAccount h
  cases recipient with
  | none => exact .pure _
  | some r =>
    cases hnative : isNative msg.outputToken with
    | true =>
      rw [payRecipient_native hnative]
      exact .bind hclose fun _ => .bind (.check _ _) fun _ => .systemTransfer _ _ _
    | false =>
      rw [payRecipient_other hnative]
      refine .bind (.loadAccount _) fun t => .bind (.constraint _ _) fun _ => ?_
      refine .bind (.cpi fun _ _ _ => .transfer h) fun _ => .bind hclose fun _ => ?_
      unfold payGasDropoff
      split
      · exact .systemTransfer _ _ _
      · exact .pure _

theorem SwapCompleted.acts {a : CompleteSwap} {f : PreparedFill} {m : SwapMessageV1} {p : Peer}
    {s t : TokenAccount Pubkey} {reply : JupiterReply} {inAmount gasDropoff : ℕ} {b₁ : Bank}
    (hswap : SwapCompleted d x a f m p s t reply inAmount gasDropoff b b₁ b')
    (h : P (d.swapAuthority a.consumeSwapLayerFill.fill)) : Acts P Q b.accounts b'.accounts :=
  (acts_swapped hswap.accounts h hswap.tokens).trans
    (payRecipient_acts (P := P) (Q := Q) h _ _ _ hswap.paid).acts

/-- **A completion acts for the custodian, the swap authority and the staged transfer of its fill**. -/
theorem Completion.acts {c : Completion} (h : Signs d P Q) (hstaged : P (d.stagedInbound c.fill))
    (hok : c.instruction d x b = .ok (u, b')) : Acts P Q b.accounts b'.accounts := by
  cases c with
  | transferDirect a =>
    obtain ⟨f, m, p, t, -, ht, -, -, -, -, rfl⟩ := completeTransferDirect_ok.1 hok
    exact acts_consumed ht.token
  | transferRelay a =>
    obtain ⟨f, m, p, t, e, _, _, n, -, -, -, -, hrelayed⟩ := completeTransferRelay_ok hok
    let paid : Accounts Pubkey :=
      ⟨credited b.tokens (recipientTokenAccount d a.recipient) n, b.lamports⟩
    have hpaid : Acts P Q b.accounts paid := .credited rfl
    exact hpaid.trans (.credited hrelayed.tokens)
  | transferPayload a =>
    obtain ⟨f, m, p, _, _, t, s, -, -, -, -, hbefore, -, hstagedAs⟩ := completeTransferPayload_ok hok
    rcases hbefore with hold | ⟨hnone, rfl⟩
    · exact .gain hold.token hstagedAs.tokens
    · refine .update hstagedAs.tokens (fun a' ha' => ?_) (fun a' ha' => ?_)
      · cases hnone.symm.trans ha'
      · cases ha'
        exact .inl rfl
  | swapDirect a =>
    obtain ⟨f, m, p, s, t, reply, b₁, -, hcompleted⟩ := completeSwapDirect_ok hok
    exact hcompleted.acts (h.swapAuthority _)
  | swapRelay a =>
    obtain ⟨f, m, p, s, t, reply, b₁, _, _, _, _, -, -, hcompleted, -⟩ := completeSwapRelay_ok hok
    exact hcompleted.acts (h.swapAuthority _)
  | swapPayload a =>
    obtain ⟨f, m, p, staged, s, t, reply, hstagedAs⟩ := completeSwapPayload_ok hok
    exact acts_swapped hstagedAs.accounts hstaged hstagedAs.tokens

/-- **A release** is signed by the recipient, acts for the staged transfer and ends it. -/
theorem releaseInbound_acts {a : ReleaseInbound} (h : P a.stagedInbound)
    (hok : releaseInbound d a b = .ok (u, b')) :
    (∃ s, b.inbound a.stagedInbound = some s ∧ a.recipient = s.recipient) ∧
      Acts P Q b.accounts b'.accounts ∧ b'.fills = b.fills ∧
      b'.inbound = Function.update b.inbound a.stagedInbound none := by
  obtain ⟨s, c, hchecked, hinbound, hfills, -⟩ := releaseInbound_ok hok
  refine ⟨⟨s, hchecked.staged, hchecked.recipient⟩, ?_, hfills, hinbound⟩
  obtain ⟨_, _, hload, h₁⟩ := bind_ok.1 hok
  obtain ⟨-, rfl⟩ := loadAccount_ok.1 hload
  obtain ⟨_, _, hload, h₂⟩ := bind_ok.1 h₁
  obtain ⟨-, rfl⟩ := interfaceTokenAccount_ok.1 hload
  obtain ⟨_, _, hcheck, h₃⟩ := bind_ok.1 h₂
  obtain ⟨-, rfl⟩ := constraint_ok.1 hcheck
  obtain ⟨_, _, hcheck, h₄⟩ := bind_ok.1 h₃
  obtain ⟨-, rfl⟩ := constraint_ok.1 hcheck
  obtain ⟨_, _, hcheck, h₅⟩ := bind_ok.1 h₄
  obtain ⟨-, rfl⟩ := constraint_ok.1 hcheck
  obtain ⟨_, _, hcheck, h₆⟩ := bind_ok.1 h₅
  obtain ⟨-, rfl⟩ := constraint_ok.1 hcheck
  obtain ⟨_, _, htransfer, h₇⟩ := bind_ok.1 h₆
  obtain ⟨_, hop₁, rfl⟩ := cpi_ok.1 htransfer
  obtain ⟨_, _, hclose, h₈⟩ := bind_ok.1 h₇
  obtain ⟨_, hop₂, rfl⟩ := cpi_ok.1 hclose
  obtain ⟨_, _, hdata, hset⟩ := bind_ok.1 h₈
  cases modifyBank_ok.1 hdata
  cases modifyBank_ok.1 hset
  exact (Acts.transfer h hop₁).trans
    ((Acts.closeAccount h hop₂).trans (.of_tokens (Accounts.moveLamports_tokens ..)))

end Redemption

end SwapLayer.Solana
