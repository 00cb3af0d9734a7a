import SwapLayer.Solana.Initiate

/-!
# Runs of a staged transfer

What becomes of one staged account and its custody account after `stage_outbound`, whatever order
things happen in and whoever calls: transfers, swaps, closes, registrations of peers, donations of
tokens and lamports, and everything that happens elsewhere. Other programs and the clock may
answer differently at every step.

A staging stands at one of three points (`Standing`): fresh, spent by a swap that left dust, or
closed. Staging itself reaches the first (`standing_stageOutbound`), and every step keeps to
them (`standing_step`).

Results:
* `standing_run`: the same for runs.
* `step_transition`: the four things a step can do to a staging.
* `staged_once`: along every run at most one order is prepared, as it was staged; the custody
  leaves only with it or in a close that the recorded sender signs.
-/

namespace SwapLayer.Solana

open ByteString Program SplToken Messages

/-! ## The machine -/

/-- What can happen. The accounts of the staging are meant where an instruction takes them. -/
inductive Act
  | transfer (payer : Pubkey) (targetPeer : ℕ)
  | swap (payer : Pubkey) (targetPeer : ℕ) (srcMint : Pubkey) (srcTokenProgram : TokenProgram)
      (route : SharedAccountsRoute)
  | close (sender : Pubkey) (targetPeer : ℕ) (senderToken : Option Pubkey)
  | addPeer (signer : Pubkey) (args : AddPeerArgs)
  | updatePeer (signer : Pubkey) (args : AddPeerArgs)
  /-- Tokens are sent to the custody account. -/
  | donate (program : TokenProgram) (src authority : Pubkey) (amount : ℕ)
  /-- Anyone can have a native account count its lamports. -/
  | sync (program : TokenProgram)
  | elsewhere (e : Bank)

/-- The acts that prepare orders. -/
def Act.Initiates : Act → Prop
  | .transfer .. => True
  | .swap .. => True
  | _ => False

section Machine

variable (d : Deployment) (k : Pubkey)

/-- Everything but the staging changes to what `e` has: other accounts, other stagings and their
orders. Lamports may be paid to the two accounts of the staging. -/
def elsewhere (b e : Bank) : Bank where
  accounts :=
    { tokens := Function.update e.tokens (d.stagedCustody k) (b.tokens (d.stagedCustody k))
      lamports := fun k' =>
        if k' = k ∨ k' = d.stagedCustody k then b.lamports k' + e.lamports k' else e.lamports k' }
  custodian := e.custodian
  peers := b.peers
  outbound := Function.update e.outbound k (b.outbound k)
  inbound := e.inbound
  fills := e.fills
  orders := b.orders ++ e.orders.filter fun o => o.preparedOrder ≠ d.preparedOrder k

def act (x : Externals) : Act → Instruction Unit
  | .transfer payer targetPeer => initiateTransfer d x ⟨payer, k, targetPeer⟩
  | .swap payer targetPeer srcMint srcTokenProgram route =>
    initiateSwapExactIn d x ⟨payer, k, targetPeer, srcMint, srcTokenProgram, route⟩
  | .close sender targetPeer senderToken => closeStagedOutbound d ⟨sender, targetPeer, k, senderToken⟩
  | .addPeer signer args => addPeer signer args
  | .updatePeer signer args => updatePeer signer args
  | .donate program src authority amount =>
    cpi (SplToken.transfer d.nativeMint program src (d.stagedCustody k) authority amount)
  | .sync program => cpi (syncNative d.nativeMint program x.tokenRent (d.stagedCustody k))
  | .elsewhere e => modifyBank fun b => elsewhere d k b e

/-- One step, with what the other programs answer to it. -/
def step (i : Externals × Act) (b : Bank) : Except Error Bank :=
  (act d k i.1 i.2 b).map Prod.snd

/-- The orders that the prepared order address of the staging has seen. -/
def ordersOf (b : Bank) : List MarketOrder :=
  b.orders.filter fun o => o.preparedOrder = d.preparedOrder k

variable {d k}

theorem step_ok {i : Externals × Act} {b b' : Bank} :
    step d k i b = .ok b' ↔ act d k i.1 i.2 b = .ok ((), b') := by
  unfold step
  rw [except_map_ok]
  constructor
  · rintro ⟨⟨u, c⟩, h, rfl⟩
    exact h
  · intro h
    exact ⟨_, h, rfl⟩

theorem ordersOf_eq {b b' : Bank} (h : b'.orders = b.orders) : ordersOf d k b' = ordersOf d k b := by
  rw [ordersOf, h, ordersOf]

theorem ordersOf_append {b b' : Bank} {o : MarketOrder} (h : b'.orders = b.orders ++ [o])
    (ho : o.preparedOrder = d.preparedOrder k) : ordersOf d k b' = ordersOf d k b ++ [o] := by
  rw [ordersOf, h, List.filter_append, List.filter_singleton]
  simp [ho, ordersOf]

theorem ordersOf_elsewhere (b e : Bank) : ordersOf d k (elsewhere d k b e) = ordersOf d k b := by
  simp [ordersOf, elsewhere, List.filter_filter]

end Machine

/-! ## What an order says -/

/-- An order carries what the staged account says. -/
structure Carries (s : StagedOutbound) (o : MarketOrder) : Prop where
  chain : o.targetChain = s.info.targetChain
  message : ∃ mode token, s.redeemMode = .ok mode ∧
    readOutputToken s.encodedOutputToken (.swapLayer .invalidOutputToken) = .ok token ∧
    SwapMessageV1.readSlice o.redeemerMessage = .ok ⟨s.info.recipient, mode, token⟩

/-- What `to_vec` writes is read back. -/
theorem messageToVec_ok {msg : SwapMessageV1} {bytes : Bytes} :
    messageToVec msg = .ok bytes ↔ SwapMessageV1.readSlice bytes = .ok msg := by
  rw [SwapMessageV1.readSlice_iff_toVec, messageToVec, messageToVecOr]
  cases msg.toVec with
  | error e => exact ⟨nofun, nofun⟩
  | ok bs =>
    constructor <;>
    · intro h
      cases h
      rfl

theorem OrderOf.carries {d : Deployment} {k : Pubkey} {s : StagedOutbound}
    {peers : ℕ → Option Peer} {n : ℕ} {o : MarketOrder} (h : OrderOf d k s peers n o) :
    Carries s o ∧ o.amountIn = n ∧ o.preparedOrder = d.preparedOrder k := by
  obtain ⟨_, peer, msg, s', bytes, -, hmsg, hbytes, rfl⟩ := h.written
  obtain ⟨mode, token, hmode, htoken, rfl, -⟩ := StagedOutbound.toSwapMessageV1_ok.1 hmsg
  exact ⟨⟨rfl, mode, token, hmode, htoken, messageToVec_ok.1 hbytes⟩, rfl, rfl⟩

/-- The redeem mode that a redeem option asks for. A relayer fee is that of the given parameters. -/
def Requested (params : RelayParams) (token : OutputToken) (sender : Pubkey) :
    Option RedeemOption → RedeemMode → Prop
  | none, mode => mode = .direct
  | some (.relay gasDropoff _), mode =>
    ∃ fee : Uint 6, calculateRelayerFee params gasDropoff token = .ok fee ∧
      mode = .relay gasDropoff fee
  | some (.payload buf), mode => ∃ h : buf.length < 256 ^ 2, mode = .payload sender ⟨buf, h⟩

section AsStaged

variable {d : Deployment} {a : StageOutbound} {args : StageOutboundArgs} {b b' : Bank}

/-- The account that a staging has written. -/
def StagedAs.account (g : StagedAs d a args b b') : StagedOutbound :=
  stagedAccount a args g.sender g.redeem

/-- An order as it was staged: target chain, recipient, redeem mode and output token are those of
the arguments, the relayer fee that of the time of staging. -/
structure StagedAs.Ordered (g : StagedAs d a args b b') (o : MarketOrder) : Prop where
  chain : o.targetChain = args.targetChain
  message : ∃ mode, Requested g.peer.relayParams g.outputToken g.sender args.redeemOption mode ∧
    SwapMessageV1.readSlice o.redeemerMessage = .ok ⟨args.recipient, mode, g.outputToken⟩

theorem readOutputToken_ok {bs : Bytes} {e : Error} {token : OutputToken} :
    readOutputToken bs e = .ok token ↔ ∃ rest, OutputToken.read bs = .ok (token, rest) := by
  unfold readOutputToken
  cases OutputToken.read bs with
  | error e => exact ⟨nofun, nofun⟩
  | ok r =>
    constructor
    · intro h
      cases h
      exact ⟨r.2, rfl⟩
    · rintro ⟨rest, h⟩
      cases h
      rfl

/-- The redeem mode of the staged account is the requested one. -/
theorem StagedAs.requested (g : StagedAs d a args b b') {mode : RedeemMode}
    (hmode : g.account.redeemMode = .ok mode) :
    Requested g.peer.relayParams g.outputToken g.sender args.redeemOption mode := by
  have hpriced := stagedRedeem_redeems g.priced
  unfold StagedOutbound.redeemMode StagedOutbound.redeemModeOr StagedAs.account stagedAccount at hmode
  revert hmode hpriced
  generalize args.redeemOption = option, g.redeem = redeem
  intro hmode hpriced
  cases hpriced with
  | direct => exact (Except.ok.inj hmode).symm
  | payload buf =>
    dsimp only at hmode
    split at hmode
    · rename_i hlen
      exact ⟨hlen, (Except.ok.inj hmode).symm⟩
    · cases hmode
  | relay hfee =>
    have hlt := calculateRelayerFee_lt hfee
    simp only [dif_pos hlt] at hmode
    exact ⟨⟨_, hlt⟩, hfee, (Except.ok.inj hmode).symm⟩

/-- **What carries the staged account was ordered as staged.** -/
theorem StagedAs.ordered (g : StagedAs d a args b b') {o : MarketOrder}
    (h : Carries g.account o) : g.Ordered o := by
  obtain ⟨mode, token, hmode, htoken, hread⟩ := h.message
  obtain ⟨rest, hrest⟩ := readOutputToken_ok.1 htoken
  obtain ⟨rest', hrest'⟩ := readOutputToken_ok.1 g.decoded
  cases hrest.symm.trans hrest'
  exact ⟨h.chain, mode, g.requested hmode, hread⟩

end AsStaged

/-! ## Where a staging stands -/

section Standing

variable (d : Deployment) (a : StageOutbound) (s₀ : StagedOutbound) (old : List MarketOrder)

/-- The staged account is untouched, spent by a swap with dust, or closed; `old` are the orders
from before the staging. -/
inductive Standing (b : Bank) : Prop
  | fresh (c : TokenAccount Pubkey) (staged : b.outbound a.stagedOutbound = some s₀)
      (custody : CustodyOf d a b c) (registered : b.peers a.targetPeer ≠ none)
      (orders : ordersOf d a.stagedOutbound b = old) (payer : s₀.info.preparedBy ≠ a.stagedOutbound)
  | spent (c : TokenAccount Pubkey) (o : MarketOrder)
      (staged : b.outbound a.stagedOutbound = some s₀.spent) (custody : CustodyOf d a b c)
      (registered : b.peers a.targetPeer ≠ none) (mint : a.srcMint ≠ d.usdcMint)
      (orders : ordersOf d a.stagedOutbound b = old ++ [o])
      (carries : Carries s₀ o) (payer : s₀.info.preparedBy ≠ a.stagedOutbound)
  | closed (new : List MarketOrder) (closed : Closed d a.stagedOutbound b)
      (orders : ordersOf d a.stagedOutbound b = old ++ new) (once : new.length ≤ 1)
      (carries : ∀ o ∈ new, Carries s₀ o)

/-- An account that has at most gained tokens. -/
def Grows : Option (TokenAccount Pubkey) → Option (TokenAccount Pubkey) → Prop
  | some c, c' => ∃ n, c.amount ≤ n ∧ c' = some { c with amount := n }
  | none, c' => c' = none

/-- Nothing happens to the staging but that its custody account may gain. -/
structure Idle (k : Pubkey) (b b' : Bank) : Prop where
  staged : b'.outbound k = b.outbound k
  registered : ∀ chain, b.peers chain ≠ none → b'.peers chain ≠ none
  orders : ordersOf d k b' = ordersOf d k b
  custody : Grows (b.tokens (d.stagedCustody k)) (b'.tokens (d.stagedCustody k))
  covered : ∀ c c', b.tokens (d.stagedCustody k) = some c → Covered d b (d.stagedCustody k) c →
    b'.tokens (d.stagedCustody k) = some c' → Covered d b' (d.stagedCustody k) c'

/-- **What a step can do to a staging.** -/
inductive Transition (i : Externals × Act) (b b' : Bank) : Prop
  | idle (act : ¬ i.2.Initiates) (quiet : Idle d a.stagedOutbound b b')
  /-- A transfer takes the whole custody, which is USDC. -/
  | sent (payer : Pubkey) (targetPeer : ℕ) (c : TokenAccount Pubkey) (o : MarketOrder)
      (act : i.2 = .transfer payer targetPeer)
      (staged : b.outbound a.stagedOutbound = some s₀)
      (custody : b.tokens (d.stagedCustody a.stagedOutbound) = some c)
      (usdc : c.mint = d.usdcMint) (amount : o.amountIn = c.amount) (carries : Carries s₀ o)
      (orders : ordersOf d a.stagedOutbound b' = ordersOf d a.stagedOutbound b ++ [o])
      (closed : Closed d a.stagedOutbound b')
  /-- A swap of another mint sends what Jupiter pays, at least the staged minimum; what Jupiter
  leaves of the source goes back to custody. -/
  | swapped (payer : Pubkey) (targetPeer : ℕ) (srcMint : Pubkey) (srcTokenProgram : TokenProgram)
      (route : SharedAccountsRoute) (c : TokenAccount Pubkey) (o : MarketOrder)
      (call : JupiterCall) (reply : JupiterReply) (minAmountOut : ℕ)
      (act : i.2 = .swap payer targetPeer srcMint srcTokenProgram route)
      (staged : b.outbound a.stagedOutbound = some s₀)
      (custody : b.tokens (d.stagedCustody a.stagedOutbound) = some c)
      (notUsdc : c.mint ≠ d.usdcMint) (answered : i.1.jupiter call = some reply)
      (stagedMin : s₀.info.minAmountOut = some minAmountOut)
      (enough : minAmountOut ≤ reply.dstAmount) (amount : o.amountIn = reply.dstAmount)
      (carries : Carries s₀ o)
      (orders : ordersOf d a.stagedOutbound b' = ordersOf d a.stagedOutbound b ++ [o])
      (left : Leftover d a.stagedOutbound s₀ c reply.srcAmount b')
  /-- A close pays the whole custody out, as its signer, the recorded sender, says. -/
  | refunded (sender : Pubkey) (targetPeer : ℕ) (senderToken : Option Pubkey)
      (c : TokenAccount Pubkey) (act : i.2 = .close sender targetPeer senderToken)
      (custody : b.tokens (d.stagedCustody a.stagedOutbound) = some c)
      (signed : sender = s₀.info.sender)
      (refunded : Refunded d ⟨sender, targetPeer, a.stagedOutbound, senderToken⟩ c b b')
      (orders : ordersOf d a.stagedOutbound b' = ordersOf d a.stagedOutbound b)
      (closed : Closed d a.stagedOutbound b')

variable {d a s₀ old} {b b' : Bank} {i : Externals × Act}

theorem Grows.refl (c : Option (TokenAccount Pubkey)) : Grows c c := by
  cases c with
  | none => rfl
  | some c => exact ⟨c.amount, Nat.le_refl _, rfl⟩

/-- Custody that grows is custody still. -/
theorem Idle.custodyOf {c : TokenAccount Pubkey} (h : Idle d a.stagedOutbound b b')
    (hc : CustodyOf d a b c) : ∃ c', CustodyOf d a b' c' := by
  have hgrows := h.custody
  rw [hc.token] at hgrows
  obtain ⟨n, -, hc'⟩ := hgrows
  exact ⟨_, hc', hc.program, hc.mint, hc.owner, hc.delegate, h.covered _ _ hc.token hc.covered hc'⟩

/-- **An idle step keeps a staging where it stands.** -/
theorem Standing.idle (hs : Standing d a s₀ old b) (h : Idle d a.stagedOutbound b b') :
    Standing d a s₀ old b' := by
  cases hs with
  | fresh c staged custody registered orders payer =>
    obtain ⟨c', hc'⟩ := h.custodyOf custody
    exact .fresh c' (h.staged.trans staged) hc' (h.registered _ registered) (h.orders.trans orders) payer
  | spent c o staged custody registered mint orders carries payer =>
    obtain ⟨c', hc'⟩ := h.custodyOf custody
    exact .spent c' o (h.staged.trans staged) hc' (h.registered _ registered) mint
      (h.orders.trans orders) carries payer
  | closed new closed orders once carries =>
    have hgrows := h.custody
    rw [closed.custody] at hgrows
    exact .closed new ⟨h.staged.trans closed.outbound, hgrows⟩ (h.orders.trans orders) once carries

/-! ### Steps that leave the staging alone -/

/-- A step that leaves the custody account, the staged account and the orders as they were. -/
theorem Idle.of_kept {k : Pubkey} (h : Kept (d.stagedCustody k) b.accounts b'.accounts)
    (hstaged : b'.outbound k = b.outbound k)
    (hregistered : ∀ chain, b.peers chain ≠ none → b'.peers chain ≠ none)
    (horders : ordersOf d k b' = ordersOf d k b) : Idle d k b b' := by
  have htokens : b'.tokens (d.stagedCustody k) = b.tokens (d.stagedCustody k) := h.tokens
  refine ⟨hstaged, hregistered, horders, htokens.symm ▸ .refl _, ?_⟩
  intro c c' hc hcov hc'
  obtain rfl : c = c' := Option.some.inj (hc.symm.trans (htokens.symm.trans hc'))
  exact fun hm => Nat.le_trans (hcov hm) h.lamports

theorem Idle.refl (k : Pubkey) (b : Bank) : Idle d k b b :=
  .of_kept (.refl _ _) rfl (fun _ h => h) rfl

theorem Idle.elsewhere {k : Pubkey} (b e : Bank) : Idle d k b (elsewhere d k b e) := by
  refine .of_kept ⟨Function.update_self .., ?_⟩ (Function.update_self ..) (fun _ h => h)
    (ordersOf_elsewhere b e)
  show _ ≤ if _ then _ else _
  rw [if_pos (.inr rfl)]
  exact Nat.le_add_right _ _

theorem Idle.setPeer {k : Pubkey} (b : Bank) (chain : ℕ) (p : Peer) :
    Idle d k b (b.setPeer chain p) := by
  refine .of_kept (.refl _ _) rfl (fun chain' h => ?_) rfl
  show Function.update b.peers chain (some p) chain' ≠ none
  by_cases he : chain' = chain
  · rw [he, Function.update_self]
    exact Option.some_ne_none p
  · rwa [Function.update_of_ne he]

/-- Tokens that are sent to the custody account stay there. -/
theorem Idle.donate {k : Pubkey} {program : TokenProgram} {src authority : Pubkey} {n : ℕ}
    {u : Unit} (h : cpi (transfer d.nativeMint program src (d.stagedCustody k) authority n) b
      = .ok (u, b')) : Idle d k b b' := by
  obtain ⟨s, hop, rfl⟩ := cpi_ok.1 h
  by_cases hne : src = d.stagedCustody k
  · rw [hne] at hop
    cases transfer_self hop
    exact .refl k b
  · obtain ⟨t, t', c, -, hc, -, -, hm, -, hauth, rfl⟩ := (transfer_ok hne).1 hop
    have hc' : b.tokens (d.stagedCustody k) = some c := hc
    refine ⟨rfl, fun _ h => h, rfl, ?_, ?_⟩
    · rw [hc', Bank.withAccounts_tokens, transferred_dst]
      exact ⟨_, Nat.le_add_right _ n, rfl⟩
    · intro c₁ c₂ hc₁ hcov hc₂
      obtain rfl : c = c₁ := Option.some.inj (hc'.symm.trans hc₁)
      cases transferred_dst.symm.trans hc₂
      intro hnative
      have hsrc : t'.mint = d.nativeMint := by
        rw [(authorize_ok hauth).2.2.1, hm]
        exact hnative
      rw [Bank.withAccounts_lamports, transferred_lamports_dst hne hsrc]
      exact Nat.add_le_add_right (hcov hnative) n

/-- Counting the lamports of a native custody account only adds to it. -/
theorem Idle.sync {k : Pubkey} {program : TokenProgram} {rent : ℕ} {u : Unit}
    (h : cpi (syncNative d.nativeMint program rent (d.stagedCustody k)) b = .ok (u, b')) :
    Idle d k b b' := by
  obtain ⟨s, hop, rfl⟩ := cpi_ok.1 h
  obtain ⟨c, hc, -, -, hle, rfl⟩ := syncNative_ok.1 hop
  have hc' : b.tokens (d.stagedCustody k) = some c := hc
  refine ⟨rfl, fun _ h => h, rfl, ?_, ?_⟩
  · rw [hc', Bank.withAccounts_tokens, Accounts.setToken_tokens, Function.update_self]
    exact ⟨_, Nat.le_sub_of_add_le hle, rfl⟩
  · intro c₁ c₂ hc₁ _ hc₂
    rw [Bank.withAccounts_tokens, Accounts.setToken_tokens, Function.update_self] at hc₂
    cases hc₂
    exact fun _ => Nat.sub_le _ _

/-! ### One step -/

theorem standing_transfer {payer : Pubkey} {targetPeer : ℕ} (hs : Standing d a s₀ old b)
    (hi : i.2 = .transfer payer targetPeer)
    (h : initiateTransfer d i.1 ⟨payer, a.stagedOutbound, targetPeer⟩ b = .ok ((), b')) :
    Standing d a s₀ old b' ∧ Transition d a s₀ i b b' := by
  obtain ⟨s, c, o, hstaged, hc, hmint, horder, horders, hclosed, -⟩ := initiateTransfer_ok h
  obtain ⟨hcarries, hamount, hprepared⟩ := horder.carries
  have hnew := ordersOf_append horders hprepared
  cases hs with
  | fresh c' staged custody registered orders =>
    obtain rfl : s₀ = s := Option.some.inj (staged.symm.trans hstaged)
    refine ⟨.closed [o] hclosed (hnew.trans (by rw [orders])) (Nat.le_refl 1) ?_,
      .sent payer targetPeer c o hi staged hc hmint hamount hcarries hnew hclosed⟩
    intro o' ho'
    rw [List.mem_singleton.1 ho']
    exact hcarries
  | spent c' o' staged custody registered mint orders carries =>
    -- the custody account of a spent staging is not one of USDC
    obtain rfl : c' = c := Option.some.inj (custody.token.symm.trans hc)
    exact absurd (custody.mint.symm.trans hmint) mint
  | closed new closed orders once carries =>
    cases closed.outbound.symm.trans hstaged

theorem standing_swap {payer srcMint : Pubkey} {targetPeer : ℕ} {srcTokenProgram : TokenProgram}
    {route : SharedAccountsRoute} (hs : Standing d a s₀ old b)
    (hi : i.2 = .swap payer targetPeer srcMint srcTokenProgram route)
    (h : initiateSwapExactIn d i.1 ⟨payer, a.stagedOutbound, targetPeer, srcMint, srcTokenProgram,
      route⟩ b = .ok ((), b')) :
    Standing d a s₀ old b' ∧ Transition d a s₀ i b b' := by
  cases hs with
  | fresh c staged custody registered orders prepared =>
    obtain ⟨s, o, call, reply, minAmountOut, hstaged, -, hmint, hj, hmin, hle, horder, horders,
      hleft, hpeers⟩ := initiateSwapExactIn_ok custody.token custody.delegate h
    obtain rfl : s₀ = s := Option.some.inj (staged.symm.trans hstaged)
    obtain ⟨hcarries, hamount, hprepared⟩ := horder.carries
    have hnew := ordersOf_append horders hprepared
    refine ⟨?_, .swapped payer targetPeer srcMint srcTokenProgram route c o call reply minAmountOut
      hi staged custody.token hmint hj hmin hle hamount hcarries hnew hleft⟩
    have hnew' : ordersOf d a.stagedOutbound b' = old ++ [o] := hnew.trans (by rw [orders])
    unfold Leftover at hleft
    split at hleft
    · refine .closed [o] hleft hnew' (Nat.le_refl 1) ?_
      intro o' ho'
      rw [List.mem_singleton.1 ho']
      exact hcarries
    · obtain ⟨hspent, hcustody, hcovered⟩ := hleft
      exact .spent _ o hspent ⟨hcustody, custody.program, custody.mint, custody.owner,
        custody.delegate, hcovered⟩ (hpeers ▸ registered) 
        (fun hm => hmint (custody.mint.trans hm)) hnew' hcarries prepared
  | spent c o staged custody registered mint orders carries =>
    -- the zero recipient stops a second swap
    obtain ⟨s, c', peer, hk⟩ := initiateSwapExactIn_checked h
    obtain rfl : s₀.spent = s := Option.some.inj (staged.symm.trans hk.staged)
    exact absurd rfl hk.recipient
  | closed new closed orders once carries =>
    obtain ⟨s, c', peer, hk⟩ := initiateSwapExactIn_checked h
    cases closed.outbound.symm.trans hk.staged

theorem standing_close {sender : Pubkey} {targetPeer : ℕ} {senderToken : Option Pubkey}
    (hs : Standing d a s₀ old b) (hi : i.2 = .close sender targetPeer senderToken)
    (h : closeStagedOutbound d ⟨sender, targetPeer, a.stagedOutbound, senderToken⟩ b
      = .ok ((), b')) :
    Standing d a s₀ old b' ∧ Transition d a s₀ i b b' := by
  obtain ⟨s, c, hstaged, hc, -, hsender, -, hrefunded, hclosed, horders, -⟩ := closeStagedOutbound_ok h
  have hsame := ordersOf_eq (d := d) (k := a.stagedOutbound) horders
  cases hs with
  | fresh c' staged custody registered orders payer =>
    obtain rfl : s₀ = s := Option.some.inj (staged.symm.trans hstaged)
    obtain rfl : c' = c := Option.some.inj (custody.token.symm.trans hc)
    exact ⟨.closed [] hclosed (hsame.trans (orders.trans (List.append_nil old).symm))
      (Nat.zero_le 1) nofun, .refunded sender targetPeer senderToken c' hi hc hsender
        (hrefunded payer custody.covered) hsame hclosed⟩
  | spent c' o staged custody registered mint orders carries payer =>
    obtain rfl : s₀.spent = s := Option.some.inj (staged.symm.trans hstaged)
    obtain rfl : c' = c := Option.some.inj (custody.token.symm.trans hc)
    refine ⟨.closed [o] hclosed (hsame.trans orders) (Nat.le_refl 1) ?_,
      .refunded sender targetPeer senderToken c' hi hc hsender (hrefunded payer custody.covered)
        hsame hclosed⟩
    intro o' ho'
    rw [List.mem_singleton.1 ho']
    exact carries
  | closed new closed orders once carries =>
    cases closed.outbound.symm.trans hstaged

theorem standing_idle (hs : Standing d a s₀ old b) (hi : ¬ i.2.Initiates)
    (h : Idle d a.stagedOutbound b b') :
    Standing d a s₀ old b' ∧ Transition d a s₀ i b b' := ⟨hs.idle h, .idle hi h⟩

/-- **Every step keeps a staging at one of its points**, and is one of the four transitions. -/
theorem standing_step (hs : Standing d a s₀ old b) (h : step d a.stagedOutbound i b = .ok b') :
    Standing d a s₀ old b' ∧ Transition d a s₀ i b b' := by
  have hact := step_ok.1 h
  cases hi : i.2 with
  | transfer payer targetPeer =>
    rw [hi] at hact
    exact standing_transfer hs hi hact
  | swap payer targetPeer srcMint srcTokenProgram route =>
    rw [hi] at hact
    exact standing_swap hs hi hact
  | close sender targetPeer senderToken =>
    rw [hi] at hact
    exact standing_close hs hi hact
  | addPeer signer args =>
    rw [hi] at hact
    rw [addPeer_ok hact]
    exact standing_idle hs (by rw [hi]; exact id) (.setPeer b _ _)
  | updatePeer signer args =>
    rw [hi] at hact
    rw [updatePeer_ok hact]
    exact standing_idle hs (by rw [hi]; exact id) (.setPeer b _ _)
  | donate program src authority amount =>
    rw [hi] at hact
    exact standing_idle hs (by rw [hi]; exact id) (.donate hact)
  | sync program =>
    rw [hi] at hact
    exact standing_idle hs (by rw [hi]; exact id) (.sync hact)
  | elsewhere e =>
    rw [hi] at hact
    rw [modifyBank_ok.1 hact]
    exact standing_idle hs (by rw [hi]; exact id) (.elsewhere b e)

/-! ## Runs -/

theorem standing_stageOutbound {args : StageOutboundArgs} {b₀ : Bank}
    (g : StagedAs d a args b b₀) :
    Standing d a g.account (ordersOf d a.stagedOutbound b₀) b₀ :=
  .fresh g.custody g.outbound g.custodyOf
    (by rw [g.peers, g.registered]; exact Option.some_ne_none _) rfl g.payer_ne_staged

theorem standing_run (hs : Standing d a s₀ old b) (is : List (Externals × Act)) :
    Standing d a s₀ old (run (step d a.stagedOutbound) is b) :=
  run_invariant (fun _ _ _ hs h => (standing_step hs h).1) is b hs

/-- The orders of a staging: those from before it, and at most one that carries it. -/
theorem Standing.once (hs : Standing d a s₀ old b) :
    ∃ new, ordersOf d a.stagedOutbound b = old ++ new ∧ new.length ≤ 1 ∧
      ∀ o ∈ new, Carries s₀ o := by
  cases hs with
  | fresh c staged custody registered orders => exact ⟨[], orders.trans (List.append_nil old).symm,
      Nat.zero_le 1, nofun⟩
  | spent c o staged custody registered mint orders carries =>
    refine ⟨[o], orders, Nat.le_refl 1, ?_⟩
    intro o' ho'
    rw [List.mem_singleton.1 ho']
    exact carries
  | closed new closed orders once carries => exact ⟨new, orders, once, carries⟩

/-- **After its order a staging has no other**: what could prepare one fails. -/
theorem Standing.no_second (hs : Standing d a s₀ old b) (hi : i.2.Initiates)
    (hnew : ordersOf d a.stagedOutbound b ≠ old) : ∃ e, step d a.stagedOutbound i b = .error e := by
  cases hstep : step d a.stagedOutbound i b with
  | error e => exact ⟨e, rfl⟩
  | ok b' =>
    exfalso
    obtain ⟨hs', htransition⟩ := standing_step hs hstep
    obtain ⟨new, horders, -, -⟩ := hs.once
    obtain ⟨new', horders', hle, -⟩ := hs'.once
    have hpos : 0 < new.length := by
      refine List.length_pos_of_ne_nil fun he => hnew ?_
      rw [horders, he, List.append_nil]
    have happend : ∀ o, ordersOf d a.stagedOutbound b' ≠ ordersOf d a.stagedOutbound b ++ [o] := by
      intro o ho
      have hlength := congrArg List.length ho
      rw [horders, horders'] at hlength
      simp only [List.length_append, List.length_singleton] at hlength
      omega
    cases htransition with
    | idle act quiet => exact act hi
    | sent payer targetPeer c o act staged custody usdc amount carries orders closed =>
      exact happend o orders
    | swapped payer targetPeer srcMint srcTokenProgram route c o call reply minAmountOut act staged
        custody notUsdc answered stagedMin enough amount carries orders left =>
      exact happend o orders
    | refunded sender targetPeer senderToken c act custody signed refunded orders closed =>
      rw [act] at hi
      exact hi

/-- **The orders of a run** from a successful `stage_outbound`: at most one more, as staged. -/
theorem ordered_run {args : StageOutboundArgs} {b₀ : Bank} (g : StagedAs d a args b b₀)
    (is : List (Externals × Act)) :
    ∃ new, ordersOf d a.stagedOutbound (run (step d a.stagedOutbound) is b₀) =
      ordersOf d a.stagedOutbound b₀ ++ new ∧ new.length ≤ 1 ∧ ∀ o ∈ new, g.Ordered o := by
  obtain ⟨new, horders, hle, hcarries⟩ := (standing_run (standing_stageOutbound g) is).once
  exact ⟨new, horders, hle, fun o ho => g.ordered (hcarries o ho)⟩

/-- **A staging is used at most once, and as it was staged.** After every run from a successful
`stage_outbound`, at most one order has been prepared, with the staged target chain, recipient,
redeem mode and output token; the next step idles, sends or swaps the custody, or is a close of
the recorded sender; and after the order no initiation succeeds. -/
theorem staged_once {x : Externals} {args : StageOutboundArgs} {b₀ : Bank}
    (h : stageOutbound d x a args b = .ok ((), b₀)) :
    ∃ g : StagedAs d a args b b₀, ∀ is : List (Externals × Act),
      (∃ new, ordersOf d a.stagedOutbound (run (step d a.stagedOutbound) is b₀) =
          ordersOf d a.stagedOutbound b₀ ++ new ∧ new.length ≤ 1 ∧ ∀ o ∈ new, g.Ordered o) ∧
      (∀ i b', step d a.stagedOutbound i (run (step d a.stagedOutbound) is b₀) = .ok b' →
        Transition d a g.account i (run (step d a.stagedOutbound) is b₀) b') ∧
      (ordersOf d a.stagedOutbound (run (step d a.stagedOutbound) is b₀) ≠
          ordersOf d a.stagedOutbound b₀ →
        ∀ i : Externals × Act, i.2.Initiates →
          ∃ e, step d a.stagedOutbound i (run (step d a.stagedOutbound) is b₀) = .error e) := by
  obtain ⟨g⟩ := stageOutbound_ok h
  refine ⟨g, fun is => ?_⟩
  have hs := standing_run (standing_stageOutbound g) is
  exact ⟨ordered_run g is, fun i b' hstep => (standing_step hs hstep).2,
    fun hnew i hi => hs.no_second hi hnew⟩

end Standing

namespace Sample

/-- A key ending in `n`. -/
def key (n : UInt8) : Pubkey := ⟨List.replicate 31 0 ++ [n], rfl⟩

def usdc : Pubkey := key 1
def wrappedSol : Pubkey := key 2
def sender : Pubkey := key 21
def senderToken : Pubkey := key 22
def payer : Pubkey := key 23
def thirdParty : Pubkey := key 31
def thirdPartyToken : Pubkey := key 32
def staged : Pubkey := key 60

def deployment : Deployment where
  usdcMint := usdc
  nativeMint := wrappedSol
  usdc_ne_native := by decide
  custodian := key 3
  peer _ := key 4
  stagedCustody _ := key 5
  preparedOrder _ := key 6
  swapAuthority _ := key 7
  transferAuthority _ := key 8
  completeToken _ := key 9
  stagedInbound _ := key 10
  associatedToken _ mint _ := if mint = usdc then key 11 else key 12
  peer_ne_swapAuthority _ _ := by decide

def externals (program : TokenProgram) : Externals where
  mintProgram _ := some program
  rent size := 10 * size
  unixTimestamp := 0
  acceptsOrder _ := true
  acceptsFill _ := true
  jupiter _ := none

def account (program : TokenProgram) (mint owner : Pubkey) (amount : ℕ) : TokenAccount Pubkey :=
  ⟨program, mint, owner, amount, none, 0⟩

def relayParams : RelayParams := ⟨10, 1, 100, 0, .evm 1 0, ⟨1, 1⟩⟩

/-- The sender holds 1000 of `mint`, a third party nothing; one peer is registered. -/
def bank (program : TokenProgram) (mint : Pubkey) : Bank where
  accounts :=
    { tokens := fun k =>
        if k = senderToken then some (account program mint sender 1000)
        else if k = thirdPartyToken then some (account program mint thirdParty 0)
        else if k = key 24 then some (account .token usdc sender 0)
        else none
      lamports := fun _ => 1000000 }
  custodian := ⟨key 40, key 41, key 42⟩
  peers chain := if chain = 2 then some ⟨key 50, relayParams⟩ else none
  outbound _ := none
  inbound _ := none
  fills _ := none
  orders := []

/-- 100 of the sender's tokens. -/
def staging (program : TokenProgram) (mint : Pubkey) : StageOutbound :=
  ⟨payer, some sender, none, some senderToken, 2, staged, key 24, mint, program⟩

/-- They go to an address on chain 2, as USDC. -/
def stagingArgs : StageOutboundArgs := ⟨100, some 1, true, 2, key 70, none, none⟩

/-- The sender may name any token account in a close: here that of a third party. -/
theorem close_pays_third_party :
    ∃ b₀ b', stageOutbound deployment (externals .token) (staging .token usdc) stagingArgs
        (bank .token usdc) = .ok ((), b₀) ∧
      step deployment staged (externals .token, .close sender 2 (some thirdPartyToken)) b₀ = .ok b' ∧
      (b₀.tokens (key 5)).map TokenAccount.amount = some 100 ∧
      b'.tokens thirdPartyToken = some (account .token usdc thirdParty 100) ∧
      b'.tokens senderToken = b₀.tokens senderToken ∧ b'.tokens (key 24) = b₀.tokens (key 24) ∧
      b'.lamports sender = b₀.lamports sender := by
  have hrun : ((stageOutbound deployment (externals .token) (staging .token usdc) stagingArgs
      (bank .token usdc)).toOption.bind fun r =>
        (step deployment staged (externals .token, .close sender 2 (some thirdPartyToken)) r.2).toOption.map
          fun b' => decide ((r.2.tokens (key 5)).map TokenAccount.amount = some 100 ∧
            b'.tokens thirdPartyToken = some (account .token usdc thirdParty 100) ∧
            b'.tokens senderToken = r.2.tokens senderToken ∧
            b'.tokens (key 24) = r.2.tokens (key 24) ∧
            b'.lamports sender = r.2.lamports sender)) = some true := by decide +kernel
  obtain ⟨⟨u, b₀⟩, hstage, hrest⟩ := Option.bind_eq_some_iff.1 hrun
  obtain ⟨b', hclose, hb'⟩ := Option.map_eq_some_iff.1 hrest
  exact ⟨b₀, b', toOption_eq_some.1 hstage, toOption_eq_some.1 hclose, of_decide_eq_true hb'⟩

/-- A staging of 100 USDC: its one order. -/
theorem usdc_staged_once :
    ∃ b₀, stageOutbound deployment (externals .token) (staging .token usdc) stagingArgs (bank .token usdc)
        = .ok ((), b₀) ∧
      ∀ is, (ordersOf deployment staged (run (step deployment staged) is b₀)).length ≤ 1 := by
  have hrun : (stageOutbound deployment (externals .token) (staging .token usdc) stagingArgs
      (bank .token usdc)).toOption.map (fun r => ordersOf deployment staged r.2) = some [] := by
    decide +kernel
  obtain ⟨⟨u, b₀⟩, hok, hnone⟩ := Option.map_eq_some_iff.1 hrun
  have hstage := toOption_eq_some.1 hok
  obtain ⟨g, hg⟩ := staged_once hstage
  refine ⟨b₀, hstage, fun is => ?_⟩
  obtain ⟨⟨new, horders, hle, -⟩, -, -⟩ := hg is
  have horders' := horders.trans (congrArg (· ++ new) hnone)
  exact (congrArg List.length horders').trans_le hle

end Sample

end SwapLayer.Solana
