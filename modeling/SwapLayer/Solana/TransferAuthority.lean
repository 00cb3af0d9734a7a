import SwapLayer.Solana.StagedRuns

/-!
# What a transfer authority binds

A user can authorise a staging without signing it: he delegates tokens to an address that is derived
from the arguments of `stage_outbound`, and then anyone may submit it (`processor/stage_outbound.rs`).
Two submissions are compared here, by different payers and with different accounts, for the same
address and the same token account.

The address is a hash of the arguments. That the two lists of arguments do not collide is assumed.

Results:
* `stageOutbound_delegated`: what a staging by the transfer authority reads and writes down.
* `transferAuthority_binds`: the two records agree but for who prepared them and the account that USDC
  is refunded to; this account is one of USDC that the submitter names.
* `Sample.refund_unbound`: two submissions of one authority with different refund accounts.
-/

namespace SwapLayer.Solana

open ByteString Program SplToken Messages

/-! ## Token accounts that exist stay -/

/-- The token accounts there were are as they were. -/
def KeepsTokens (b b' : Bank) : Prop := ∀ k t, b.tokens k = some t → b'.tokens k = some t

namespace KeepsTokens

theorem refl (b : Bank) : KeepsTokens b b := fun _ _ h => h

theorem trans (b b' b'' : Bank) (h : KeepsTokens b b') (h' : KeepsTokens b' b'') :
    KeepsTokens b b'' := fun k t ht => h' k t (h k t ht)

theorem reads {α : Type} {i : Instruction α} (h : ∀ b a b', i b = .ok (a, b') → b' = b) :
    Guarantees KeepsTokens i := by
  intro b a b' hi
  rw [h b a b' hi]
  exact .refl b

theorem payRent (payer account : Pubkey) (rent : ℕ) :
    Guarantees KeepsTokens (payRent payer account rent) := by
  intro b u b' h
  obtain ⟨-, rfl⟩ := payRent_ok.1 h
  intro k t ht
  exact (congrFun (Accounts.moveLamports_tokens ..) k).trans ht

theorem createToken (native : Pubkey) (program : TokenProgram) (rent : ℕ)
    (account mint owner payer : Pubkey) :
    Guarantees KeepsTokens (createToken native program rent account mint owner payer) := by
  refine .bind .trans (.payRent _ _ _) fun _ => ?_
  intro b u b' h
  obtain ⟨s, hop, rfl⟩ := cpi_ok.1 h
  obtain ⟨hnone, -, rfl⟩ := initToken_ok.1 hop
  intro k t ht
  have hne : k ≠ account := by
    rintro rfl
    cases hnone.symm.trans ht
  exact (Function.update_of_ne hne ..).trans ht

end KeepsTokens

section Delegated

variable {d : Deployment} {x : Externals} {a : StageOutbound} {args : StageOutboundArgs} {b b' : Bank}
  {authority senderToken : Pubkey}

theorem initStaged_keeps : Guarantees KeepsTokens (initStaged d x a args) := by
  refine .bind .trans (.reads fun _ _ _ h => checkTransferAuthority_ok h) fun _ => ?_
  refine .bind .trans (.reads fun _ _ _ h => (checkSenderToken_ok h).1) fun _ => ?_
  refine .bind .trans (.reads fun _ _ _ h => (loadAccount_ok.1 h).2) fun peer => ?_
  refine .bind .trans (.require .refl _ _) fun _ => ?_
  refine .bind .trans (.reads fun _ _ _ h => (tokenAccount_ok.1 h).2.2) fun refund => ?_
  refine .bind .trans (.lift .refl _) fun size => ?_
  refine .bind .trans (.reads fun _ _ _ h => (getBank_ok.1 h).2) fun b => ?_
  refine .bind .trans (.require .refl _ _) fun _ => .bind .trans (.require .refl _ _) fun _ => ?_
  refine .bind .trans (.payRent _ _ _) fun _ => .bind .trans (.require .refl _ _) fun _ => ?_
  refine .bind .trans (.require .refl _ _) fun _ => .bind .trans (.require .refl _ _) fun _ => ?_
  refine .bind .trans (.require .refl _ _) fun _ => .bind .trans (.require .refl _ _) fun _ => ?_
  refine .bind .trans (.createToken _ _ _ _ _ _ _) fun _ => ?_
  exact .bind .trans (.require .refl _ _) fun _ => .bind .trans (.require .refl _ _) fun _ =>
    .pure .refl _

/-- A token account from before the staging, when the custody is funded. -/
theorem fundCustody_delegated {n : ℕ} {sender : Pubkey}
    (hauthority : a.programTransferAuthority = some authority)
    (htoken : a.senderToken = some senderToken) (h : fundCustody d x a n b = .ok (sender, b')) :
    ∃ t, b.tokens senderToken = some t ∧ t.delegate = some authority ∧ t.delegatedAmount = n ∧
      sender = t.owner := by
  unfold fundCustody at h
  rw [htoken, hauthority] at h
  cases hs : a.sender with
  | some k =>
    rw [hs] at h
    exact (fail_ok.1 h).elim
  | none =>
    rw [hs] at h
    obtain ⟨t, _, hload, h₁⟩ := bind_ok.1 h
    obtain ⟨ht, rfl⟩ := interfaceTokenAccount_ok.1 hload
    obtain ⟨_, _, hcheck, h₂⟩ := bind_ok.1 h₁
    obtain ⟨hamount, rfl⟩ := check_ok.1 hcheck
    obtain ⟨_, _, hcheck, h₃⟩ := bind_ok.1 h₂
    obtain ⟨hdelegate, rfl⟩ := check_ok.1 hcheck
    obtain ⟨_, _, -, hret⟩ := bind_ok.1 h₃
    exact ⟨t, ht, hdelegate, hamount, (pure_ok.1 hret).1⟩

/-- **A staging by a transfer authority**: the authority is the address of the arguments and the
delegate of the account `t`, for exactly what is transferred. -/
structure DelegatedAs (d : Deployment) (a : StageOutbound) (args : StageOutboundArgs)
    (authority : Pubkey) (t : TokenAccount Pubkey) (b b' : Bank) where
  peer : Peer
  outputToken : OutputToken
  redeem : StagedRedeem
  derived : authority = d.transferAuthority args
  delegate : t.delegate = some authority
  registered : b.peers args.targetChain = some peer
  decoded : readOutputToken args.outputToken .panic = .ok outputToken
  priced : stagedRedeem .panic d a args peer.relayParams outputToken = .ok (t.delegatedAmount, redeem)
  outbound : b'.outbound a.stagedOutbound = some (stagedAccount a args t.owner redeem)

/-- What a staging by the transfer authority reads and writes down. -/
theorem stageOutbound_delegated (hauthority : a.programTransferAuthority = some authority)
    (htoken : a.senderToken = some senderToken) (h : stageOutbound d x a args b = .ok ((), b')) :
    ∃ t, b.tokens senderToken = some t ∧ Nonempty (DelegatedAs d a args authority t b b') := by
  obtain ⟨peer, b₁, hinit, h₁⟩ := bind_ok.1 h
  obtain ⟨hregistered, hchain, -, -, -, hne, -⟩ := initStaged_ok hinit
  obtain ⟨token, _, htoken', h₂⟩ := bind_ok.1 h₁
  obtain ⟨hdecoded, rfl⟩ := lift_ok.1 htoken'
  obtain ⟨_, _, hexact, h₃⟩ := bind_ok.1 h₂
  obtain ⟨-, rfl⟩ := check_ok.1 hexact
  obtain ⟨⟨amount, redeem⟩, _, hredeem, h₄⟩ := bind_ok.1 h₃
  obtain ⟨hpriced, rfl⟩ := lift_ok.1 hredeem
  obtain ⟨sender, b₂, hfund, h₅⟩ := bind_ok.1 h₄
  obtain ⟨t', ht', hdelegate, hamount, rfl⟩ := fundCustody_delegated hauthority htoken hfund
  subst hamount
  cases modifyBank_ok.1 h₅
  -- the constraints come first: the account exists and the address is that of the arguments
  obtain ⟨_, _, hseeds, hrest⟩ := bind_ok.1 hinit
  have hderived : authority = d.transferAuthority args := by
    unfold checkTransferAuthority at hseeds
    rw [hauthority] at hseeds
    obtain ⟨_, _, hderived, -⟩ := bind_ok.1 hseeds
    exact (constraint_ok.1 hderived).1
  cases checkTransferAuthority_ok hseeds
  obtain ⟨_, _, hsender, -⟩ := bind_ok.1 hrest
  obtain ⟨t, ht⟩ := Option.ne_none_iff_exists'.1 ((checkSenderToken_ok hsender).2.1 _ htoken)
  obtain rfl : t = t' :=
    Option.some.inj ((initStaged_keeps _ _ _ hinit _ _ ht).symm.trans ht')
  exact ⟨t, ht, ⟨{
    peer := peer
    outputToken := token
    redeem := redeem
    derived := hderived
    delegate := hdelegate
    registered := hchain ▸ hregistered
    decoded := hdecoded
    priced := hpriced
    outbound := Function.update_self .. }⟩⟩

end Delegated

/-! ## Two submissions -/

/-- Two records that say the same but for who prepared them and where USDC is refunded to. -/
structure SameStaging (s s' : StagedOutbound) : Prop where
  sender : s'.info.sender = s.info.sender
  targetChain : s'.info.targetChain = s.info.targetChain
  recipient : s'.info.recipient = s.info.recipient
  isExactIn : s'.info.isExactIn = s.info.isExactIn
  minAmountOut : s'.info.minAmountOut = s.info.minAmountOut
  stagedRedeem : s'.stagedRedeem = s.stagedRedeem
  encodedOutputToken : s'.encodedOutputToken = s.encodedOutputToken

/-- **A transfer authority binds the staging, not the refund.** Two submissions for one authority and
one token account have the same arguments, and their records agree; the account that USDC is
refunded to is the one that each submitter names. -/
theorem transferAuthority_binds {d : Deployment} {x x' : Externals} {a a' : StageOutbound}
    {args args' : StageOutboundArgs} {b b' c c' : Bank} {authority senderToken : Pubkey}
    (h : stageOutbound d x a args b = .ok ((), c)) (h' : stageOutbound d x' a' args' b' = .ok ((), c'))
    (hauthority : a.programTransferAuthority = some authority)
    (hauthority' : a'.programTransferAuthority = some authority)
    (htoken : a.senderToken = some senderToken) (htoken' : a'.senderToken = some senderToken)
    (haccount : b'.tokens senderToken = b.tokens senderToken) (hpeers : b'.peers = b.peers)
    (hhash : d.transferAuthority args = d.transferAuthority args' → args = args') :
    args = args' ∧ ∃ s s', c.outbound a.stagedOutbound = some s ∧
      c'.outbound a'.stagedOutbound = some s' ∧ SameStaging s s' ∧
      s.info.usdcRefundToken = a.usdcRefundToken ∧ s'.info.usdcRefundToken = a'.usdcRefundToken := by
  obtain ⟨t, ht, ⟨g⟩⟩ := stageOutbound_delegated hauthority htoken h
  obtain ⟨t', ht', ⟨g'⟩⟩ := stageOutbound_delegated hauthority' htoken' h'
  obtain rfl : t = t' := Option.some.inj (ht.symm.trans (haccount.symm.trans ht'))
  obtain rfl : args = args' := hhash (g.derived.symm.trans g'.derived)
  have hpeer : g.peer = g'.peer := by
    have hregistered := g'.registered
    rw [hpeers] at hregistered
    exact Option.some.inj (g.registered.symm.trans hregistered)
  have hdecoded : g.outputToken = g'.outputToken :=
    Except.ok.inj (g.decoded.symm.trans g'.decoded)
  have hpriced := g'.priced
  rw [← hpeer, ← hdecoded] at hpriced
  exact ⟨rfl, _, _, g.outbound, g'.outbound,
    ⟨rfl, rfl, rfl, rfl, rfl, (stagedRedeem_redeems g.priced).unique (stagedRedeem_redeems hpriced), rfl⟩,
      rfl, rfl⟩

namespace Sample

/-- The sender has delegated 100 USDC to the address of `stagingArgs`. -/
def delegatedBank : Bank :=
  (bank .token usdc).withAccounts
    { tokens := fun k =>
        if k = senderToken then some ⟨.token, usdc, sender, 1000, some (key 8), 100⟩
        else (bank .token usdc).tokens k
      lamports := (bank .token usdc).lamports }

/-- A third party submits the staging, with his own account for refunds or with that of the sender. -/
def submission (usdcRefundToken : Pubkey) : StageOutbound :=
  ⟨thirdParty, none, some (key 8), some senderToken, 2, staged, usdcRefundToken, usdc, .token⟩

/-- The submission succeeds with either account. -/
theorem submission_ok (refund : Pubkey) (h : refund = key 24 ∨ refund = thirdPartyToken) :
    ∃ b', stageOutbound deployment (externals .token) (submission refund) stagingArgs delegatedBank
      = .ok ((), b') ∧ (b'.outbound staged).map (fun s => s.info.usdcRefundToken) = some refund := by
  have hrun : (stageOutbound deployment (externals .token) (submission refund) stagingArgs
      delegatedBank).toOption.map (fun r => (r.2.outbound staged).map fun s => s.info.usdcRefundToken)
        = some (some refund) := by
    rcases h with rfl | rfl <;> decide +kernel
  obtain ⟨⟨u, b'⟩, hok, hrefund⟩ := Option.map_eq_some_iff.1 hrun
  exact ⟨b', toOption_eq_some.1 hok, hrefund⟩

/-- **The refund account is not bound**: the records of two submissions for one authority need not
agree on it. -/
theorem refund_unbound :
    ¬ ∀ (d : Deployment) (x x' : Externals) (a a' : StageOutbound) (args : StageOutboundArgs)
      (b b' c c' : Bank) (authority senderToken : Pubkey),
      stageOutbound d x a args b = .ok ((), c) → stageOutbound d x' a' args b' = .ok ((), c') →
      a.programTransferAuthority = some authority → a'.programTransferAuthority = some authority →
      a.senderToken = some senderToken → a'.senderToken = some senderToken →
      b'.tokens senderToken = b.tokens senderToken → b'.peers = b.peers →
      ∀ s s', c.outbound a.stagedOutbound = some s → c'.outbound a'.stagedOutbound = some s' →
        s'.info.usdcRefundToken = s.info.usdcRefundToken := by
  intro hall
  obtain ⟨c, hok, hrefund⟩ := submission_ok (key 24) (.inl rfl)
  obtain ⟨c', hok', hrefund'⟩ := submission_ok thirdPartyToken (.inr rfl)
  obtain ⟨s, hs, hkey⟩ := Option.map_eq_some_iff.1 hrefund
  obtain ⟨s', hs', hkey'⟩ := Option.map_eq_some_iff.1 hrefund'
  have hsame := hall _ _ _ _ _ _ _ _ _ _ _ _ hok hok' rfl rfl rfl rfl rfl rfl s s' hs hs'
  rw [hkey, hkey'] at hsame
  exact absurd hsame (by decide)

/-- The two submissions agree on everything else. -/
theorem submissions_agree : ∃ c c' : Bank, ∃ s s' : StagedOutbound,
    stageOutbound deployment (externals .token) (submission (key 24)) stagingArgs delegatedBank
      = .ok ((), c) ∧
    stageOutbound deployment (externals .token) (submission thirdPartyToken) stagingArgs delegatedBank
      = .ok ((), c') ∧
    c.outbound staged = some s ∧ c'.outbound staged = some s' ∧ SameStaging s s' ∧
      s.info.usdcRefundToken = key 24 ∧ s'.info.usdcRefundToken = thirdPartyToken := by
  obtain ⟨c, hok, -⟩ := submission_ok (key 24) (.inl rfl)
  obtain ⟨c', hok', -⟩ := submission_ok thirdPartyToken (.inr rfl)
  have hagree := transferAuthority_binds
    hok hok' (rfl : (submission (key 24)).programTransferAuthority = some (key 8))
    (rfl : (submission thirdPartyToken).programTransferAuthority = some (key 8))
    (rfl : (submission (key 24)).senderToken = some senderToken) rfl rfl rfl fun _ => rfl
  obtain ⟨-, s, s', hs, hs', hsame, hrefund, hrefund'⟩ := hagree
  refine ⟨c, c', s, s', hok, hok', ?_, ?_, hsame, ?_, ?_⟩
  · exact hs
  · exact hs'
  · exact hrefund
  · exact hrefund'

end Sample

end SwapLayer.Solana
