import SwapLayer.Lib.Delegation
import SwapLayer.Solana.TransferAuthority

/-!
# Staging by a transfer authority and by the owner

`stage_outbound` takes the tokens of a sender who signs, or of one who has delegated them to the address
that is derived from the arguments. The two ways are compared: the second leaves the same state as the
first does, down to the last lamport, but for the delegation, which is used up. It also asks for more:
the delegated amount has to be exactly what is transferred.

Results:
* `initStaged_revoke`: the account constraints do not look at delegations.
* `stageOutbound_byAuthority_iff`: the staging by the transfer authority as the one that the owner signs.
* `transfers_amountIn_iff`: when what is transferred is the amount in.
-/

namespace SwapLayer.Solana

open ByteString Program SplToken Messages

/-- The staging with the transfer authority of the arguments. -/
def StageOutbound.byAuthority (a : StageOutbound) (d : Deployment) (args : StageOutboundArgs) :
    StageOutbound :=
  { a with
    sender := none
    programTransferAuthority := some (d.transferAuthority args) }

/-- The staging with the signature of `owner`. -/
def StageOutbound.signedBy (a : StageOutbound) (owner : Pubkey) : StageOutbound :=
  { a with
    sender := some owner
    programTransferAuthority := none }

/-- The delegate of a token account is dismissed. -/
def Bank.revoke (b : Bank) (k : Pubkey) : Bank := b.withAccounts (b.accounts.redelegate k none 0)

/-! ## What does not look at the delegation -/

section Revoke

variable {α : Type} {k k' : Pubkey}

theorem Bank.revoke_tokens (b : Bank) (k k' : Pubkey) : (b.revoke k).tokens k' =
    if k' = k then (b.tokens k').map fun t => t.delegated none 0 else b.tokens k' := by
  split
  · rename_i h
    subst h
    exact Accounts.redelegate_tokens_self
  · rename_i h
    exact Accounts.redelegate_tokens_of_ne h

theorem commutes_cpi {op : Op Pubkey α}
    (h : Commutes (fun s : Accounts Pubkey => s.redelegate k none 0) op) :
    Commutes (fun b : Bank => b.revoke k) (cpi op) := by
  intro b
  have hop : op (b.revoke k).accounts = _ := h b.accounts
  dsimp only [cpi]
  rw [hop]
  cases op b.accounts <;> rfl

theorem commutes_loadAccount {f : Bank → Option α} (h : ∀ b : Bank, f (b.revoke k) = f b) :
    Commutes (fun b : Bank => b.revoke k) (loadAccount f) := by
  intro b
  unfold loadAccount
  rw [h b]
  cases f b <;> rfl

/-- What is done with a token account may depend on all of it but its delegation. -/
theorem commutes_interfaceTokenAccount {f : TokenAccount Pubkey → Instruction α}
    (hread : ∀ t, f (t.delegated none 0) = f t) (hf : ∀ t, Commutes (fun b : Bank => b.revoke k) (f t)) :
    Commutes (fun b : Bank => b.revoke k) (interfaceTokenAccount k' >>= f) := by
  intro b
  rw [bind_apply, bind_apply]
  dsimp only [interfaceTokenAccount, loadAccount]
  rw [Bank.revoke_tokens]
  cases b.tokens k' with
  | none => simp [Except.map]
  | some t =>
    by_cases h : k' = k
    · rw [if_pos h]
      exact (congrFun (hread t) _).trans (hf t b)
    · rw [if_neg h]
      exact hf t b

theorem commutes_getBank {f : Bank → Instruction α} (hread : ∀ b : Bank, f (b.revoke k) = f b)
    (hf : ∀ c, Commutes (fun b : Bank => b.revoke k) (f c)) :
    Commutes (fun b : Bank => b.revoke k) (getBank >>= f) :=
  fun b => (congrFun (hread b) _).trans (hf b b)

theorem commutes_systemTransfer (src dst : Pubkey) (n : ℕ) :
    Commutes (fun b : Bank => b.revoke k) (systemTransfer src dst n) :=
  commutes_getBank (fun _ => rfl) fun _ => .bind (.require _ _) fun _ =>
    commutes_cpi SplToken.commutes_systemTransfer

theorem commutes_payRent (payer account : Pubkey) (rent : ℕ) :
    Commutes (fun b : Bank => b.revoke k) (payRent payer account rent) := by
  refine commutes_getBank (fun _ => rfl) fun b => ?_
  split
  · exact commutes_systemTransfer _ _ _
  · exact .pure _

end Revoke

section Staging

variable {d : Deployment} {x : Externals} {a : StageOutbound} {args : StageOutboundArgs}
  {b b' c : Bank} {k owner : Pubkey} {t : TokenAccount Pubkey} {n : ℕ}

/-- **The account constraints do not look at delegations.** -/
theorem initStaged_revoke (hk : d.stagedCustody a.stagedOutbound ≠ k) :
    Commutes (fun b : Bank => b.revoke k) (initStaged d x a args) := by
  refine .bind ?_ fun _ => .bind ?_ fun _ => .bind (commutes_loadAccount fun _ => rfl) fun peer => ?_
  · unfold checkTransferAuthority
    split
    · exact .bind (.require _ _) fun _ => .require _ _
    · exact .pure _
  · unfold checkSenderToken
    split
    · exact commutes_interfaceTokenAccount (fun _ => rfl) fun t =>
        .bind (.require _ _) fun _ => .require _ _
    · exact .require _ _
  refine .bind (.require _ _) fun _ => ?_
  simp only [tokenAccount, bind_assoc, pure_bind]
  refine commutes_interfaceTokenAccount (fun _ => rfl) fun refund => .bind (.require _ _) fun _ => ?_
  refine .bind (.lift _) fun size => commutes_getBank (fun _ => rfl) fun b => ?_
  refine .bind (.require _ _) fun _ => .bind (.require _ _) fun _ => ?_
  refine .bind (commutes_payRent _ _ _) fun _ => .bind (.require _ _) fun _ => ?_
  refine .bind (.require _ _) fun _ => .bind (.require _ _) fun _ => .bind (.require _ _) fun _ => ?_
  refine .bind (.require _ _) fun _ => .bind ?_ fun _ => ?_
  · exact .bind (commutes_payRent _ _ _) fun _ => commutes_cpi (commutes_initToken hk)
  exact .bind (.require _ _) fun _ => .bind (.require _ _) fun _ => .pure _

/-- The transfer authority of the arguments passes its constraints. -/
theorem initStaged_byAuthority (htoken : a.senderToken = some k) :
    initStaged d x (a.byAuthority d args) args = initStaged d x (a.signedBy owner) args := by
  have hpass : checkTransferAuthority d (a.byAuthority d args) args = pure () := by
    funext b
    have hsome : a.senderToken.isSome = true := by rw [htoken]; rfl
    simp [checkTransferAuthority, StageOutbound.byAuthority, constraint, check, require, hsome, bind_apply]
    rfl
  unfold initStaged
  rw [hpass]
  rfl

/-- **Custody is funded alike**, where the delegated amount is what is transferred. -/
theorem fundCustody_byAuthority (htoken : a.senderToken = some k)
    (hk : k ≠ d.stagedCustody a.stagedOutbound) (ht : c.tokens k = some t)
    (hdelegate : t.delegate = some (d.transferAuthority args)) {r : Pubkey × Bank} :
    fundCustody d x (a.byAuthority d args) n c = .ok r ↔
      t.delegatedAmount = n ∧ fundCustody d x (a.signedBy t.owner) n (c.revoke k) = .ok r := by
  obtain ⟨sender, b'⟩ := r
  unfold fundCustody StageOutbound.byAuthority StageOutbound.signedBy
  simp only [htoken, bind_ok, interfaceTokenAccount_ok, check_ok, cpi_ok, pure_ok]
  constructor
  · rintro ⟨t₁, _, ⟨ht₁, rfl⟩, _, _, ⟨hamount, rfl⟩, _, _, ⟨-, rfl⟩, _, _, ⟨s, hop, rfl⟩, rfl, rfl⟩
    cases ht.symm.trans ht₁
    subst hamount
    exact ⟨rfl, (), _, ⟨s, (transfer_delegate_iff hk ht hdelegate).1 hop, rfl⟩, rfl, rfl⟩
  · rintro ⟨rfl, u, _, ⟨s, hop, rfl⟩, rfl, rfl⟩
    exact ⟨t, c, ⟨ht, rfl⟩, (), c, ⟨rfl, rfl⟩, (), c, ⟨hdelegate, rfl⟩, (), _,
      ⟨s, (transfer_delegate_iff hk ht hdelegate).2 hop, rfl⟩, rfl, rfl⟩

/-- What a staging is to transfer, by the peers that are registered. -/
structure Transfers (d : Deployment) (peers : ℕ → Option Peer) (a : StageOutbound)
    (args : StageOutboundArgs) (n : ℕ) where
  peer : Peer
  outputToken : OutputToken
  redeem : StagedRedeem
  registered : peers a.targetPeer = some peer
  decoded : readOutputToken args.outputToken .panic = .ok outputToken
  priced : stagedRedeem .panic d a args peer.relayParams outputToken = .ok (n, redeem)

/-- A staging, step by step: what is to be transferred, and the state behind each part. -/
structure Stages (d : Deployment) (x : Externals) (a : StageOutbound) (args : StageOutboundArgs)
    (b b' : Bank) where
  peer : Peer
  outputToken : OutputToken
  amount : ℕ
  redeem : StagedRedeem
  sender : Pubkey
  checked : Bank
  funded : Bank
  init : initStaged d x a args b = .ok (peer, checked)
  decoded : readOutputToken args.outputToken .panic = .ok outputToken
  exactIn : a.srcMint = d.usdcMint ∨ args.isExactIn = true
  priced : stagedRedeem .panic d a args peer.relayParams outputToken = .ok (amount, redeem)
  fund : fundCustody d x a amount checked = .ok (sender, funded)
  written : b' = funded.setOutbound a.stagedOutbound (some (stagedAccount a args sender redeem))

theorem stageOutbound_iff :
    stageOutbound d x a args b = .ok ((), b') ↔ Nonempty (Stages d x a args b b') := by
  constructor
  · intro h
    obtain ⟨peer, c, hinit, h₁⟩ := bind_ok.1 h
    obtain ⟨token, _, hread, h₂⟩ := bind_ok.1 h₁
    obtain ⟨hdecoded, rfl⟩ := lift_ok.1 hread
    obtain ⟨_, _, hcheck, h₃⟩ := bind_ok.1 h₂
    obtain ⟨hexact, rfl⟩ := check_ok.1 hcheck
    obtain ⟨⟨n, redeem⟩, _, hredeem, h₄⟩ := bind_ok.1 h₃
    obtain ⟨hpriced, rfl⟩ := lift_ok.1 hredeem
    obtain ⟨sender, c', hfund, hwritten⟩ := bind_ok.1 h₄
    exact ⟨⟨peer, token, n, redeem, sender, _, c', hinit, hdecoded, hexact, hpriced, hfund,
      modifyBank_ok.1 hwritten⟩⟩
  · rintro ⟨s⟩
    refine bind_ok.2 ⟨s.peer, s.checked, s.init, ?_⟩
    refine bind_ok.2 ⟨s.outputToken, s.checked, lift_ok.2 ⟨s.decoded, rfl⟩, ?_⟩
    refine bind_ok.2 ⟨(), s.checked, check_ok.2 ⟨s.exactIn, rfl⟩, ?_⟩
    refine bind_ok.2 ⟨(s.amount, s.redeem), s.checked, lift_ok.2 ⟨s.priced, rfl⟩, ?_⟩
    exact bind_ok.2 ⟨s.sender, s.funded, s.fund, modifyBank_ok.2 s.written⟩

/-- Without a sender there is a transfer authority, and a token account. -/
theorem Stages.unsigned (s : Stages d x a args b b') (hsender : a.sender = none) :
    ∃ authority senderToken, a.programTransferAuthority = some authority ∧
      a.senderToken = some senderToken := by
  have hfund := s.fund
  unfold fundCustody at hfund
  rw [hsender] at hfund
  cases htoken : a.senderToken with
  | none =>
    rw [htoken] at hfund
    exact (fail_ok.1 hfund).elim
  | some senderToken =>
    rw [htoken] at hfund
    cases hauthority : a.programTransferAuthority with
    | none =>
      rw [hauthority] at hfund
      exact (fail_ok.1 hfund).elim
    | some authority => exact ⟨authority, senderToken, rfl, rfl⟩

/-- The custody account is not there yet, the account of the sender is. -/
theorem initStaged_senderToken {peer : Peer} (htoken : a.senderToken = some k)
    (h : initStaged d x a args b = .ok (peer, b')) : k ≠ d.stagedCustody a.stagedOutbound := by
  obtain ⟨-, -, -, -, -, hne, -⟩ := initStaged_ok h
  exact fun he => hne (he ▸ htoken)

/-- What is transferred. -/
def Stages.transfers (s : Stages d x a args b b') : Transfers d b.peers a args s.amount :=
  ⟨s.peer, s.outputToken, s.redeem, (initStaged_ok s.init).1, s.decoded, s.priced⟩

/-- **A staging by the transfer authority is one that the owner signs**: it goes through iff the
delegated amount is what is transferred and the other one, with the delegate dismissed, goes through;
and both leave the same state. -/
theorem stageOutbound_byAuthority_iff (htoken : a.senderToken = some k) (ht : b.tokens k = some t)
    (hdelegate : t.delegate = some (d.transferAuthority args)) :
    stageOutbound d x (a.byAuthority d args) args b = .ok ((), b') ↔
      Nonempty (Transfers d b.peers a args t.delegatedAmount) ∧
        stageOutbound d x (a.signedBy t.owner) args (b.revoke k) = .ok ((), b') := by
  have hinits : initStaged d x (a.byAuthority d args) args = initStaged d x (a.signedBy t.owner) args :=
    initStaged_byAuthority htoken
  have hcommutes (hk : k ≠ d.stagedCustody a.stagedOutbound) :
      Commutes (fun b : Bank => b.revoke k) (initStaged d x (a.signedBy t.owner) args) :=
    initStaged_revoke (Ne.symm hk)
  rw [stageOutbound_iff, stageOutbound_iff]
  constructor
  · rintro ⟨s⟩
    have hinit := hinits ▸ s.init
    have hk := initStaged_senderToken (a := a.byAuthority d args) htoken s.init
    have htc := initStaged_keeps _ _ _ hinit _ _ ht
    obtain ⟨hamount, hfund⟩ := (fundCustody_byAuthority htoken hk htc hdelegate).1 s.fund
    rw [hamount]
    exact ⟨⟨⟨s.peer, s.outputToken, s.redeem, (initStaged_ok hinit).1, s.decoded, s.priced⟩⟩, ⟨{
      s with
      checked := s.checked.revoke k
      init := (hcommutes hk).ok_iff.2 ⟨_, hinit, rfl⟩
      fund := hfund }⟩⟩
  · rintro ⟨⟨m⟩, ⟨s⟩⟩
    have hk := initStaged_senderToken (a := a.signedBy t.owner) htoken s.init
    obtain ⟨c, hinit, hchecked⟩ := (hcommutes hk).ok_iff.1 s.init
    have htc := initStaged_keeps _ _ _ hinit _ _ ht
    -- both price the same staging
    have hpeer : m.peer = s.peer :=
      Option.some.inj (m.registered.symm.trans (initStaged_ok hinit).1)
    have htoken' : m.outputToken = s.outputToken := Except.ok.inj (m.decoded.symm.trans s.decoded)
    have hpriced := m.priced
    rw [hpeer, htoken'] at hpriced
    have hamount : t.delegatedAmount = s.amount :=
      congrArg Prod.fst (Except.ok.inj (hpriced.symm.trans s.priced))
    exact ⟨{
      s with
      checked := c
      init := hinits ▸ hinit
      fund := (fundCustody_byAuthority htoken hk htc hdelegate).2 ⟨hamount, hchecked ▸ s.fund⟩ }⟩

/-! ## What is transferred -/

/-- A relay of USDC whose fee comes on top of the amount in. -/
structure FeeOnTop (d : Deployment) (peers : ℕ → Option Peer) (a : StageOutbound)
    (args : StageOutboundArgs) where
  peer : Peer
  outputToken : OutputToken
  gasDropoff : Uint 4
  maxRelayerFee : ℕ
  fee : ℕ
  registered : peers a.targetPeer = some peer
  decoded : readOutputToken args.outputToken .panic = .ok outputToken
  option : args.redeemOption = some (.relay gasDropoff maxRelayerFee)
  priced : calculateRelayerFee peer.relayParams gasDropoff outputToken = .ok fee
  fee_ne_zero : fee ≠ 0
  usdc : a.srcMint = d.usdcMint
  exactOut : args.isExactIn = false

/-- The amount in is transferred, or the fee comes on top of it. -/
theorem relayTransferAmount_cases {fee : ℕ} (h : relayTransferAmount .panic d a args fee = .ok n) :
    n = args.amountIn ∧ ¬(a.srcMint = d.usdcMint ∧ args.isExactIn = false) ∨
      n = args.amountIn + fee ∧ a.srcMint = d.usdcMint ∧ args.isExactIn = false := by
  unfold relayTransferAmount at h
  by_cases husdc : a.srcMint = d.usdcMint
  · rw [if_pos husdc] at h
    cases hexact : args.isExactIn with
    | true =>
      rw [hexact, if_pos rfl] at h
      split at h
      · cases h
        exact .inl ⟨rfl, fun hne => absurd hne.2 (by simp)⟩
      · cases h
    | false =>
      rw [hexact, if_neg (by simp)] at h
      split at h
      · cases h
        exact .inr ⟨rfl, husdc, rfl⟩
      · cases h
  · rw [if_neg husdc] at h
    split at h
    · split at h
      · cases h
        exact .inl ⟨rfl, fun hne => husdc hne.1⟩
      · cases h
    · cases h

/-- **What is transferred is the amount in**, unless a fee comes on top of it. -/
theorem transfers_amountIn_iff {peers : ℕ → Option Peer} (m : Transfers d peers a args n) :
    n = args.amountIn ↔ ¬Nonempty (FeeOnTop d peers a args) := by
  obtain ⟨peer, token, redeem, hreg, hdecoded, hpriced⟩ := m
  unfold stagedRedeem at hpriced
  cases hoption : args.redeemOption with
  | none =>
    rw [hoption] at hpriced
    cases hpriced
    exact ⟨fun _ ⟨f⟩ => (by cases hoption.symm.trans f.option), fun _ => rfl⟩
  | some option =>
    rw [hoption] at hpriced
    cases option with
    | payload buf =>
      cases hpriced
      exact ⟨fun _ ⟨f⟩ => (by cases hoption.symm.trans f.option), fun _ => rfl⟩
    | relay gasDropoff maxRelayerFee =>
      obtain ⟨fee, hfee, h₁⟩ := except_bind_ok.1 hpriced
      obtain ⟨_, -, h₂⟩ := except_bind_ok.1 h₁
      obtain ⟨amount, hamount, h₃⟩ := except_bind_ok.1 h₂
      obtain ⟨rfl, -⟩ := Prod.mk.inj (except_pure_ok.1 h₃)
      rcases relayTransferAmount_cases hamount with ⟨rfl, hnot⟩ | ⟨rfl, husdc, hexact⟩
      · exact ⟨fun _ ⟨f⟩ => hnot ⟨f.usdc, f.exactOut⟩, fun _ => rfl⟩
      · constructor
        · rintro hzero ⟨f⟩
          cases hreg.symm.trans f.registered
          cases hdecoded.symm.trans f.decoded
          cases hoption.symm.trans f.option
          cases hfee.symm.trans f.priced
          exact f.fee_ne_zero (by omega)
        · intro hno
          by_cases hzero : fee = 0
          · rw [hzero, Nat.add_zero]
          · exact absurd ⟨⟨peer, token, gasDropoff, maxRelayerFee, fee, hreg, hdecoded, hoption, hfee,
              hzero, husdc, hexact⟩⟩ hno

end Staging

end SwapLayer.Solana
