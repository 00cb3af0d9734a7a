import SwapLayer.Network.Safety

/-!
# What is redeemed was asked for

Behind every redemption stands somebody who asked a swap layer for it: a call of `initiate` on an EVM
chain, or a staging on Solana (`Asks`), earlier in the history. The message carries the request to the
redeemer unchanged, whatever happens in between, so that the redemption does what the request says
(`Serves`).

Results:
* `recorded_step`: what the history explains, and that a step keeps it.
* `redeemed_as_requested`: every redemption serves a request that was made before.
* `network_refines`: redemptions, over all chains and in any order, are those of a mailbox, and pay no
  more than was sent.
-/

namespace SwapLayer.Network

open ByteString Program Messages

variable {n : Sites} {s s' : Net n}

/-! ## Requests -/

/-- What is asked for: who is to get the money, where, how, and in which form. -/
structure Request where
  targetChain : ℕ
  recipient : Fixed 32
  redeem : Evm.RedeemFields
  output : List UInt8

/-- The request as a message. -/
def Request.message (q : Request) : List UInt8 :=
  Evm.encodeSwapMessage q.recipient q.redeem.mode q.redeem.encode q.output

/-- The deed asks a swap layer for the transfer `m`. -/
inductive Asks (n : Sites) (m : Transfer) : Request → Deed n → Prop
  /-- A call of `initiate`, which sends it. -/
  | initiated (chain : ℕ) (t : Evm.Transaction (n.evm chain)) (w w' : Evm.World) (targetChain : ℕ)
      (recipient : Fixed 32) (params : Evm.Bytes)
      (hcall : t.call = .initiate targetChain recipient params) (hexec : Evm.execute t w = .ok w')
      (i : Evm.Initiated (n.evm chain) t.externals t.msg targetChain recipient params w)
      (hresult : w' = i.result) (hsent : m = n.ofOrder chain i.order) :
      Asks n m ⟨targetChain, recipient, i.fields, Evm.outputSwapSection i.mos params⟩
        (.transaction chain t w w')
  /-- A staging, from which it is sent later. -/
  | staged (x : Solana.Externals) (a : Solana.StageOutbound) (args : Solana.StageOutboundArgs)
      (b b' : Solana.Bank) (g : Solana.StagedAs n.solana a args b b') (o : Solana.MarketOrder)
      (mode : RedeemMode) (output : List UInt8)
      (hexec : Solana.perform n.solana (x, .call (.stageOutbound a args)) b = .ok b')
      (hmode : Solana.Requested g.peer.relayParams g.outputToken g.sender args.redeemOption mode)
      (houtput : g.outputToken.write = .ok output) (hchain : o.targetChain = args.targetChain)
      (hmessage : SwapMessageV1.readSlice o.redeemerMessage =
        .ok ⟨args.recipient, mode, g.outputToken⟩)
      (hsent : m = n.ofMarketOrder o) :
      Asks n m ⟨args.targetChain, args.recipient, Bridge.redeemFields mode, output⟩
        (.event x (.call (.stageOutbound a args)) b b')

/-- **The message is the request**, and the target chain is that of the request. -/
theorem Asks.message_eq {m : Transfer} {q : Request} {e : Deed n} (h : Asks n m q e) :
    m.message = q.message ∧ m.targetChain = q.targetChain := by
  cases h with
  | initiated chain t w w' targetChain recipient params hcall hexec i hresult hsent =>
    rw [hsent]
    exact ⟨i.message_eq, rfl⟩
  | staged x a args b b' g o mode output hexec hmode houtput hchain hmessage hsent =>
    obtain ⟨out, hout, hbytes⟩ := Bridge.toVec_ok.1 (SwapMessageV1.readSlice_iff_toVec.1 hmessage)
    obtain rfl := Except.ok.inj (hout.symm.trans houtput)
    rw [hsent]
    exact ⟨hbytes, hchain⟩

/-! ## What redemptions do -/

/-- **The redemption does what the request asks for.** -/
inductive Serves (n : Sites) (q : Request) : Redemption n → Prop
  /-- The contract pays the fee of a relay, and otherwise nobody but the recipient: in USDC all that is
  left, if no swap is in force. Payloads, and parameters of his own, are for the recipient. -/
  | evm (key chain : ℕ) (x : Evm.Externals) (msg : Evm.Msg (n.evm chain))
      (params attestations ret : Evm.Bytes) (w w' : Evm.World) (fill : Evm.Fill) (addr : Evm.Address)
      (ps : List Evm.Payout)
      (hexec : Evm.redeem (n.evm chain) x msg params attestations w = .ok (ret, w'))
      (hfill : x.redeemFill attestations = some fill) (hmessage : fill.message = q.message)
      (hrecipient : q.recipient = Evm.toUniversalAddress addr)
      (hfee : Evm.feeDue msg addr q.redeem ≤ fill.amount)
      (hpayload : q.redeem.mode = .payload → msg.sender = addr)
      (hoverride : params ≠ [] → msg.sender = addr)
      (hpaid : w'.payouts = w.payouts ++ Evm.feePayouts msg addr q.redeem w ++ ps)
      (hto : ∀ p ∈ ps, p.recipient = addr)
      (husdc : Evm.swapInForce x msg params attestations = none → ∀ a, Evm.totalOf ps a =
        (Pi.single (.erc20 (n.evm chain).usdc) (Evm.usdcDue msg addr q.redeem fill) :
          Evm.Asset → ℕ) a + (Pi.single .eth (Evm.dropoffDue msg addr q.redeem) : Evm.Asset → ℕ) a) :
      Serves n q (.evm key chain x msg params attestations w w')
  /-- The program completes the fill as the message says, unless the recipient signs. -/
  | solana (key : ℕ) (x : Solana.Externals) (c : Solana.Completion) (b b' : Solana.Bank)
      (f : Solana.PreparedFill) (m : SwapMessageV1)
      (hexec : Solana.perform n.solana (x, .complete c) b = .ok b')
      (hfill : b.fills c.fill = some f) (hmessage : f.redeemerMessage = q.message)
      (hread : SwapMessageV1.readSlice f.redeemerMessage = .ok m) (hrecipient : m.recipient = q.recipient)
      (hmode : Bridge.redeemFields m.redeemMode = q.redeem) (houtput : m.outputToken.write = .ok q.output)
      (hredeemed : m.recipient ∉ c.signers → m.recipient ≠ n.solana.swapAuthority c.fill →
        ∃ p, Solana.Redeemed n.solana x c.fill f m p b b') :
      Serves n q (.solana key x c b b')

/-- **A call of `redeem`** on the message of a request serves it. -/
theorem serves_evm {q : Request} (key : ℕ) {chain : ℕ} {x : Evm.Externals} {msg : Evm.Msg (n.evm chain)}
    {params attestations ret : Evm.Bytes} {w w' : Evm.World} {fill : Evm.Fill}
    (hfill : x.redeemFill attestations = some fill) (hmessage : fill.message = q.message)
    (h : Evm.redeem (n.evm chain) x msg params attestations w = .ok (ret, w')) :
    Serves n q (.evm key chain x msg params attestations w w') := by
  obtain ⟨r, -, hresult⟩ := Evm.redeem_ok.1 h
  obtain rfl : r.fill = fill := Option.some.inj (r.delivered.symm.trans hfill)
  -- the recipient of the request has an EVM address
  have hparsed := r.parsed
  rw [hmessage, Request.message, Evm.parseSwapMessageStructure_encode] at hparsed
  obtain ⟨addr, haddr, -⟩ := except_map_ok.1 hparsed
  have hrecipient := Evm.fromUniversalAddress_ok.1 haddr
  have hmsg : r.fill.message = Evm.encodeSwapMessage (Evm.toUniversalAddress addr) q.redeem.mode
      q.redeem.encode q.output := by
    rw [hmessage, Request.message, hrecipient]
  obtain ⟨-, hfee, hpayload, hoverride, -⟩ := r.plan_eq hmsg
  obtain ⟨ps, hpaid, hto, husdc⟩ := r.recipient_payouts hmsg
  exact .evm key chain x msg params attestations ret w w' r.fill addr ps h hfill hmessage hrecipient hfee
    hpayload hoverride (hresult ▸ hpaid) hto husdc

/-- **A completion** of a fill with the message of a request serves it. -/
theorem serves_solana {q : Request} (key : ℕ) {x : Solana.Externals} {c : Solana.Completion}
    {b b' : Solana.Bank} {f : Solana.PreparedFill} (hfill : b.fills c.fill = some f)
    (hmessage : f.redeemerMessage = q.message)
    (h : Solana.perform n.solana (x, .complete c) b = .ok b') : Serves n q (.solana key x c b b') := by
  have hok := Solana.perform_ok.1 h
  obtain ⟨⟨f', m, p, hloads⟩, -⟩ := Solana.Completion.takes hok
  obtain rfl : f' = f := Option.some.inj (hloads.fill.symm.trans hfill)
  have hread := hloads.message
  obtain ⟨houtput, hrecipient, hmode⟩ := Bridge.readSlice_encode.1 (hmessage ▸ hread)
  refine .solana key x c b b' f' m h hfill hmessage hread hrecipient ?_ houtput fun hsigners hauthority => ?_
  · rw [hmode, Bridge.redeemFields_redeemMode]
  · obtain ⟨p', -, hredeemed⟩ := Solana.redeemed hfill hread hsigners hauthority hok
    exact ⟨p', hredeemed⟩

/-- **What a redemption pays in USDC**: no more than it was delivered, unless a contract was to swap into
USDC, and just that if no swap was asked for. -/
theorem Serves.usdcPaid {q : Request} {r : Redemption n} (h : Serves n q r) :
    (r.swapsToUsdc = false → r.usdcPaid ≤ r.delivered) ∧ (r.swap = none → r.usdcPaid = r.delivered) := by
  cases h with
  | evm key chain x msg params attestations ret w w' fill addr ps hexec hfill =>
    obtain ⟨r, -, rfl⟩ := Evm.redeem_ok.1 hexec
    have hdelivered : (Redemption.evm key chain x msg params attestations w r.result).delivered =
        r.fill.amount := by
      rw [Redemption.delivered, r.delivered]
      rfl
    rw [hdelivered]
    refine ⟨fun hswap => r.usdcPaid_le fun o ho => ?_, r.usdcPaid_eq⟩
    have hany : (some o).any (fun o => decide (o.token = (n.evm chain).usdc)) = false := ho ▸ hswap
    simpa using hany
  | solana key x c b b' f m hexec hfill =>
    have htakes := (Solana.Completion.takes (Solana.perform_ok.1 hexec)).2.fills
    have hafter : filledAmount b' c.fill = 0 := by
      rw [filledAmount, htakes, Function.update_self]
      rfl
    have hpaid : (Redemption.solana key x c b b' : Redemption n).usdcPaid = filledAmount b c.fill := by
      rw [Redemption.usdcPaid, hafter, Nat.sub_zero]
    exact ⟨fun _ => Nat.le_of_eq hpaid, fun _ => hpaid⟩

/-! ## What the history explains -/

/-- The redemption `r` of the transfer `m` serves the request `q`, which one of the deeds before has
made. -/
structure Answers (n : Sites) (wire : Mailbox ℕ Transfer) (before : List (Deed n)) (r : Redemption n)
    (m : Transfer) (q : Request) : Prop where
  asked : ∃ e ∈ before, Asks n m q e
  posted : (r.key, m) ∈ wire.posted
  sent : n.Sent m
  message : m.message = q.message
  chain : r.chain = q.targetChain
  amount : r.delivered ≤ m.amount
  served : Serves n q r

/-- The deed stages the record `s₀`. -/
inductive Staging (n : Sites) (k : Solana.Pubkey) (s₀ : Solana.StagedOutbound) : Deed n → Prop
  | event (x : Solana.Externals) (e : Solana.Event) (b b' : Solana.Bank)
      (hexec : Solana.perform n.solana (x, e) b = .ok b')
      (hstages : Solana.StagesAs n.solana b b' k s₀ e) : Staging n k s₀ (.event x e b b')

/-- **What the history explains**: the transfers of swap layers, the staged records, and the
redemptions. -/
structure Recorded (n : Sites) (s : Net n) : Prop where
  asked : ∀ k m, (k, m) ∈ s.wire.posted → n.Sent m → ∃ e ∈ s.history, ∃ q, Asks n m q e
  staged : Solana.Traced n.solana (fun k s₀ => ∃ e ∈ s.history, Staging n k s₀ e) s.solana
  served : ∀ before r, before ++ [.redemption r] <+: s.history → ∃ m q, Answers n s.wire before r m q

theorem Start.recorded (h : Start n s) : Recorded n s where
  asked k m hm := by simp [h.wire, Mailbox.empty] at hm
  staged k s₀ hs := by
    rw [h.outbound] at hs
    cases hs
  served before r hprefix := by simp [h.history] at hprefix

/-- A redemption in a longer history was there before, or is the last deed. -/
theorem redemption_prefix {before history : List (Deed n)} {r : Redemption n} {d : Deed n}
    (h : before ++ [.redemption r] <+: history ++ [d]) :
    before ++ [.redemption r] <+: history ∨ before = history ∧ d = .redemption r := by
  rcases List.prefix_concat_iff.1 h with heq | hold
  · obtain ⟨hbefore, hlast⟩ := List.append_inj' heq rfl
    exact .inr ⟨hbefore, (List.cons.inj hlast).1.symm⟩
  · exact .inl hold

theorem Answers.later {wire wire' : Mailbox ℕ Transfer} {before : List (Deed n)} {r : Redemption n}
    {m : Transfer} {q : Request} (h : Answers n wire before r m q)
    (hposted : ∀ p ∈ wire.posted, p ∈ wire'.posted) : Answers n wire' before r m q :=
  { h with posted := hposted _ h.posted }

/-- A step that is not noted. -/
theorem Recorded.kept (hr : Recorded n s) (hhistory : s'.history = s.history)
    (hposted : ∀ p ∈ s.wire.posted, p ∈ s'.wire.posted)
    (hasked : ∀ k m, (k, m) ∈ s'.wire.posted → n.Sent m → (k, m) ∈ s.wire.posted)
    (hstaged : Solana.Traced n.solana (fun k s₀ => ∃ e ∈ s.history, Staging n k s₀ e) s'.solana) :
    Recorded n s' where
  asked k m hm hsent := by
    rw [hhistory]
    exact hr.asked k m (hasked k m hm hsent) hsent
  staged := by
    rw [hhistory]
    exact hstaged
  served before r hprefix := by
    rw [hhistory] at hprefix
    obtain ⟨m, q, h⟩ := hr.served before r hprefix
    exact ⟨m, q, h.later hposted⟩

/-- A step that is noted. -/
theorem Recorded.noted (hr : Recorded n s) {d : Deed n} (hhistory : s'.history = s.history ++ [d])
    (hposted : ∀ p ∈ s.wire.posted, p ∈ s'.wire.posted)
    (hasked : ∀ k m, (k, m) ∈ s'.wire.posted → n.Sent m →
      (k, m) ∈ s.wire.posted ∨ ∃ e ∈ s.history ++ [d], ∃ q, Asks n m q e)
    (hstaged : Solana.Traced n.solana
      (fun k s₀ => ∃ e ∈ s.history ++ [d], Staging n k s₀ e) s'.solana)
    (hserved : ∀ r, d = .redemption r → ∃ m q, Answers n s'.wire s.history r m q) :
    Recorded n s' where
  asked k m hm hsent := by
    rw [hhistory]
    rcases hasked k m hm hsent with hold | hnew
    · obtain ⟨e, he, hq⟩ := hr.asked k m hold hsent
      exact ⟨e, List.mem_append_left _ he, hq⟩
    · exact hnew
  staged := by
    rw [hhistory]
    exact hstaged
  served before r hprefix := by
    rw [hhistory] at hprefix
    rcases redemption_prefix hprefix with hold | ⟨rfl, hlast⟩
    · obtain ⟨m, q, h⟩ := hr.served before r hold
      exact ⟨m, q, h.later hposted⟩
    · exact hserved r hlast

/-! ### The steps -/

/-- **An order on Solana was staged**, by a deed of the history. -/
theorem Recorded.ordered (hr : Recorded n s) {x : Solana.Externals} {e : Solana.Event} {b : Solana.Bank}
    (hok : Solana.perform n.solana (x, e) s.solana = .ok b) {new : List Solana.MarketOrder}
    (hnew : b.orders = s.solana.orders ++ new) {o : Solana.MarketOrder} (ho : o ∈ new) :
    ∃ e ∈ s.history, ∃ q, Asks n (n.ofMarketOrder o) q e := by
  cases Solana.Event.ordered (Solana.perform_ok.1 hok) with
  | none horders =>
    rw [horders, List.self_eq_append_right] at hnew
    rw [hnew] at ho
    cases ho
  | one k st amount o' hstaged hunspent hordered horders =>
    rw [horders, List.append_cancel_left_eq] at hnew
    rw [← hnew] at ho
    obtain rfl := List.mem_singleton.1 ho
    obtain ⟨e₀, he₀, hstaging⟩ := hr.staged.ordered hstaged hunspent
    cases hstaging with
    | event x₀ ev b₀ b₁ hexec hstages =>
      cases hstages with
      | staged a args g hkey haccount =>
        obtain ⟨hchain, mode, hmode, hread⟩ := g.ordered (haccount ▸ hordered.carries.1)
        obtain ⟨output, houtput, -⟩ := Bridge.toVec_ok.1 (SwapMessageV1.readSlice_iff_toVec.1 hread)
        exact ⟨_, he₀, _, .staged x₀ a args b₀ b₁ g o mode output hexec hmode houtput hchain hread rfl⟩

/-- The records after a step of the program. -/
theorem Recorded.traced (hr : Recorded n s) {x : Solana.Externals} {e : Solana.Event} {b : Solana.Bank}
    (hfree : Solana.Uncontested n.solana s.solana (x, e))
    (hok : Solana.perform n.solana (x, e) s.solana = .ok b) {d : Deed n}
    (hd : ∀ k s₀, Solana.StagesAs n.solana s.solana b k s₀ e → Staging n k s₀ d) :
    Solana.Traced n.solana (fun k s₀ => ∃ e ∈ s.history ++ [d], Staging n k s₀ e) b := by
  intro k s₀ hs₀
  obtain ⟨s₁, hP, hfrom⟩ := Solana.traced_step hr.staged hfree hok k s₀ hs₀
  refine ⟨s₁, ?_, hfrom⟩
  rcases hP with ⟨e, he, hstaging⟩ | hnew
  · exact ⟨e, List.mem_append_left _ he, hstaging⟩
  · exact ⟨d, List.mem_append_right _ (List.mem_singleton_self d), hd k s₁ hnew⟩

/-- Steps elsewhere leave the records alone. -/
theorem Recorded.elsewhere (hr : Recorded n s) (d : Deed n) :
    Solana.Traced n.solana (fun k s₀ => ∃ e ∈ s.history ++ [d], Staging n k s₀ e) s.solana := by
  intro k s₀ hs₀
  obtain ⟨s₁, ⟨e, he, hstaging⟩, hfrom⟩ := hr.staged k s₀ hs₀
  exact ⟨s₁, ⟨e, List.mem_append_left _ he, hstaging⟩, hfrom⟩

/-- **Every step keeps what the history explains.** -/
theorem recorded_step (hs : Inv n s) (hr : Recorded n s) (hstep : Step n s s') : Recorded n s' := by
  cases hstep with
  | transact chain t w new wire hchain hcall hexec hkept hnew hposts =>
    refine hr.noted rfl (fun p hp => hposts.posted_of_mem hp) (fun k m hm hsent => ?_)
      (hr.elsewhere _) (fun r hd => by cases hd)
    refine (hposts.mem hm).imp_right fun hmem => ?_
    obtain ⟨o, ho, rfl⟩ := List.mem_map.1 hmem
    rcases Evm.execute_orders hexec with
      hsame | ⟨targetChain, recipient, params, hinitiate, i, hresult, horders⟩
    · rw [hsame, List.self_eq_append_right] at hnew
      rw [hnew] at ho
      cases ho
    · rw [horders, List.append_cancel_left_eq] at hnew
      rw [← hnew] at ho
      exact ⟨_, List.mem_append_right _ (List.mem_singleton_self _), _,
        .initiated chain t _ w targetChain recipient params hinitiate hexec i hresult
          (List.mem_singleton.1 ho ▸ rfl)⟩
  | redeem chain x msg params attestations ret w k m amount hchain hopen haddressed hamount hfill
      hredeem =>
    refine hr.noted rfl (fun p hp => hp) (fun k m hm _ => .inl hm) (hr.elsewhere _) fun r hd => ?_
    cases hd
    have hsent := hs.sent_of_redeem hchain hopen.posted hfill hredeem
    obtain ⟨e, he, q, hasks⟩ := hr.asked k m hopen.posted hsent
    obtain ⟨hmessage, htarget⟩ := hasks.message_eq
    have hdelivered : (Redemption.evm k chain x msg params attestations (s.evm chain) w).delivered =
        amount := by
      rw [Redemption.delivered, hfill]
      rfl
    exact ⟨m, q, ⟨e, he, hasks⟩, hopen.posted, hsent, hmessage,
      haddressed.targetChain.symm.trans htarget, hdelivered ▸ hamount,
      serves_evm k hfill hmessage hredeem⟩
  | donate chain asset amount =>
    exact hr.kept rfl (fun p hp => hp) (fun k m hm _ => hm) hr.staged
  | perform x e b new wire hcomplete hprepare hfree hok hnew hposts =>
    refine hr.noted rfl (fun p hp => hposts.posted_of_mem hp) (fun k m hm hsent => ?_)
      (hr.traced hfree hok fun k s₀ hstages => .event x e s.solana b hok hstages)
      (fun r hd => by cases hd)
    refine (hposts.mem hm).imp_right fun hmem => ?_
    obtain ⟨o, ho, rfl⟩ := List.mem_map.1 hmem
    obtain ⟨e₀, he₀, hq⟩ := hr.ordered hok hnew ho
    exact ⟨e₀, List.mem_append_left _ he₀, hq⟩
  | prepareFill x fill k m amount fillType timestamp b hunused hopen haddressed hamount hok =>
    refine hr.kept rfl (fun p hp => hp) (fun k m hm _ => hm) ?_
    obtain rfl := Solana.Event.prepareFill_ok (Solana.perform_ok.1 hok)
    exact hr.staged.of_same rfl rfl
  | complete x c b k hprepared hfree hok =>
    refine hr.noted rfl (fun p hp => hp) (fun k m hm _ => .inl hm)
      (hr.traced hfree hok fun k s₀ hstages => by cases hstages) fun r hd => ?_
    cases hd
    obtain ⟨⟨f, m₀, p, hloads⟩, -⟩ := Solana.Completion.takes (Solana.perform_ok.1 hok)
    have hfill : s.solana.fills c.fill = some f := hloads.fill
    obtain ⟨k', m, hfrom⟩ := hs.fills _ f hfill
    obtain rfl : k = k' := Option.some.inj (hprepared.symm.trans hfrom.prepared)
    obtain ⟨m', hm', hamount⟩ := hs.sound.covered _ _ hfrom.taken
    obtain rfl := hs.sound.unique hm' hfrom.posted
    have hsent := hs.sent_of_complete hfill hfrom hok
    obtain ⟨e, he, q, hasks⟩ := hr.asked k m' hfrom.posted hsent
    obtain ⟨hmessage, htarget⟩ := hasks.message_eq
    have hdelivered : (Redemption.solana k x c s.solana b : Redemption n).delivered = f.amount := by
      rw [Redemption.delivered, filledAmount, hfill]
      rfl
    exact ⟨m', q, ⟨e, he, hasks⟩, hfrom.posted, hsent, hmessage,
      hfrom.addressed.targetChain.symm.trans htarget, hdelivered ▸ hamount,
      serves_solana k hfill (hfrom.message.trans hmessage) hok⟩
  | foreign k m hfresh hforeign hsender =>
    refine hr.kept rfl (fun p hp => List.mem_append_left _ hp) (fun k' m' hm hsent => ?_) hr.staged
    rcases List.mem_append.1 hm with hold | hnew
    · exact hold
    · obtain ⟨rfl, rfl⟩ := Prod.mk.inj (List.mem_singleton.1 hnew)
      exact absurd hsent hforeign

/-- **In every state the history explains what there is.** -/
theorem Reachable.recorded (h : Reachable n s) : Recorded n s := by
  obtain ⟨s₀, hstart, hrun⟩ := h
  induction hrun with
  | refl => exact hstart.recorded
  | tail hprefix hnext ih => exact recorded_step (Reachable.inv ⟨s₀, hstart, hprefix⟩) ih hnext.1

/-! ## Every redemption -/

/-- **Nothing is redeemed that was not asked for.** In every state of the network, before every
redemption on every chain somebody has made a request to a swap layer, by calling `initiate` or by staging
a transfer. The redemption took place on the target chain of the request, for at most the amount that was
sent, and did what the request asks for. -/
theorem redeemed_as_requested (h : Reachable n s) (before after : List (Deed n)) (r : Redemption n)
    (hhistory : s.history = before ++ .redemption r :: after) :
    ∃ m q, Answers n s.wire before r m q :=
  h.recorded.served before r ⟨after, by rw [hhistory]; simp⟩

theorem mem_redemptions {r : Redemption n} : r ∈ s.redemptions ↔ .redemption r ∈ s.history := by
  rw [Net.redemptions, List.mem_filterMap]
  constructor
  · rintro ⟨d, hd, hr⟩
    cases d with
    | redemption r' =>
      obtain rfl := Option.some.inj hr
      exact hd
    | _ => cases hr
  · exact fun h => ⟨_, h, rfl⟩

/-- Every redemption serves a request. -/
theorem Reachable.answered (h : Reachable n s) {r : Redemption n} (hr : r ∈ s.redemptions) :
    ∃ before m q, Answers n s.wire before r m q := by
  obtain ⟨before, after, hhistory⟩ := List.append_of_mem (mem_redemptions.1 hr)
  obtain ⟨m, q, hanswers⟩ := h.recorded.served before r ⟨after, by rw [hhistory]; simp⟩
  exact ⟨before, m, q, hanswers⟩

/-! ## The network as a whole -/

/-- The redemption took place on the target chain of the transfer `m`, for at most its amount. Without a
swap it paid just the USDC that was delivered, with one no more: but what a swap of USDC into USDC pays is
up to the router. -/
structure Redeems (n : Sites) (s : Net n) (r : Redemption n) (m : Transfer) : Prop where
  posted : (r.key, m) ∈ (board n s).posted
  chain : m.targetChain = r.chain
  amount : r.delivered ≤ m.amount
  paid : r.swapsToUsdc = false → r.usdcPaid ≤ r.delivered
  unswapped : r.swap = none → r.usdcPaid = r.delivered

theorem Reachable.redeems (h : Reachable n s) {r : Redemption n} (hr : r ∈ s.redemptions) :
    ∃ m, Redeems n s r m := by
  obtain ⟨before, m, q, hanswers⟩ := h.answered hr
  obtain ⟨e, -, hasks⟩ := hanswers.asked
  obtain ⟨hpaid, hunswapped⟩ := hanswers.served.usdcPaid
  exact ⟨m, mem_board.2 ⟨hanswers.posted, hanswers.sent⟩, hasks.message_eq.2.trans hanswers.chain.symm,
    hanswers.amount, hpaid, hunswapped⟩

/-- The redemptions on one chain but for swaps into USDC. -/
def Net.plainOn (s : Net n) (chain : ℕ) : List (Redemption n) :=
  s.redemptions.filter fun r => r.chain = chain ∧ r.swapsToUsdc = false

/-- **The network refines a mailbox.** Whatever happens, in any order and on any number of chains, the
redemptions are those of a mailbox of what swap layers have sent: each transfer is redeemed at most once,
on its target chain and for at most its amount, and no chain pays out more than the swap layers have sent
to it. -/
theorem network_refines (h : Reachable n s) :
    Relation.ReflTransGen (Mailbox.Step Transfer.amount) .empty (board n s) ∧
      (s.redemptions.map Redemption.key).Nodup ∧
      (∀ r ∈ s.redemptions, ∃ m, Redeems n s r m) ∧
      ∀ chain, ((s.plainOn chain).map Redemption.usdcPaid).sum ≤
        (((board n s).posted.filter fun p => p.2.targetChain = chain).map fun p => p.2.amount).sum := by
  have hboard := h.board
  have hnodup : (s.redemptions.map Redemption.key).Nodup := by
    have honce := (Mailbox.sound_of_reachable hboard).once
    simpa [board, Mailbox.sift, Function.comp_def] using honce
  refine ⟨hboard, hnodup, fun r hr => h.redeems hr, fun chain => ?_⟩
  have hsum : (((s.plainOn chain).map fun r => (r.key, r.usdcPaid)).map Prod.snd).sum ≤
      (((board n s).posted.filter fun p => p.2.targetChain = chain).map fun p =>
        Transfer.amount p.2).sum := Mailbox.sum_le_of_covered ?_ ?_
  · simpa [Function.comp_def] using hsum
  · rw [List.map_map]
    exact hnodup.sublist (List.filter_sublist.map _)
  · rintro k amount hmem
    obtain ⟨r, hr, he⟩ := List.mem_map.1 hmem
    obtain ⟨rfl, rfl⟩ := Prod.mk.inj he
    obtain ⟨hr, hplain⟩ := List.mem_filter.1 hr
    obtain ⟨hchain, hswap⟩ := of_decide_eq_true hplain
    obtain ⟨m, hm⟩ := h.redeems hr
    exact ⟨m, List.mem_filter.2 ⟨hm.posted, decide_eq_true (hm.chain.trans hchain)⟩,
      (hm.paid hswap).trans hm.amount⟩

namespace Sample

open Evm.Sample (address recipient externals)

/-- A contract on every EVM chain, under the same address. -/
def swapLayers : Sites where
  evm chain := { Evm.Sample.deployment with chainId := chain }
  solana := Solana.Sample.deployment
  self_ne_zero _ := show Evm.Sample.deployment.self ≠ Evm.zeroAddress by decide
  custodian_ne_zero := by decide

theorem caller_ne_self : address 0xca11e4 ≠ Evm.Sample.deployment.self := by decide

theorem caller_ne_zero : address 0xca11e4 ≠ Evm.zeroAddress := by decide

def caller (chain : ℕ) : Evm.Msg (swapLayers.evm chain) :=
  ⟨address 0xca11e4, 0, caller_ne_self, caller_ne_zero⟩

/-- The contracts on the chains 2 and 3 are registered everywhere. -/
def contract : Evm.World where
  held _ := 0
  storage := { Evm.Sample.storage with
    peers := fun chain => if chain = 2 ∨ chain = 3 then Evm.toUniversalAddress (address 0x5e1f)
      else Evm.zeroBytes32 }
  trace := []

def newNet : Net swapLayers where
  evm _ := contract
  solana := { Solana.Sample.bank .token Solana.Sample.usdc with peers := fun _ => none }
  wire := .empty
  prepared _ := none
  history := []

/-- Contracts with the storage that they have in the beginning register honestly. -/
theorem honest_of_storage {s : Net swapLayers} (hstorage : ∀ chain, (s.evm chain).storage = contract.storage)
    (hsolana : s.solana = newNet.solana) : Honest swapLayers s := by
  constructor
  · intro chain hchain peerChain hpeer
    rw [hstorage] at hpeer ⊢
    by_cases hc : peerChain = 2 ∨ peerChain = 3
    · have hne : peerChain ≠ Solana.SOLANA_CHAIN := by
        rintro rfl
        revert hc
        decide
      rw [Sites.address_evm _ hne]
      exact if_pos hc
    · exact absurd (if_neg hc) hpeer
  · intro peerChain p hp
    rw [hsolana] at hp
    cases hp

/-- A call that leaves the storage of its contract alone. -/
theorem storage_withEvm {s : Net swapLayers} {chain : ℕ} {w : Evm.World} (hw : w.storage = contract.storage)
    (hs : ∀ c, (s.evm c).storage = contract.storage) (c : ℕ) :
    ((s.withEvm chain w).evm c).storage = contract.storage := by
  show (Function.update s.evm chain w c).storage = _
  by_cases hc : c = chain
  · rw [hc, Function.update_self, hw]
  · rw [Function.update_of_ne hc, hs]

/-- Slow, direct: 10 units of USDC as USDC. -/
def tenUsdc : Evm.Bytes := [0, 0, 1, 0] ++ toBE 16 10 ++ [0] ++ [0]

def tenUsdcOrder : Evm.Order where
  amount := 10
  targetChain := 3
  redeemer := Evm.toUniversalAddress (address 0x5e1f)
  redeemerMessage := Evm.encodeSwapMessage (Evm.toUniversalAddress recipient) .direct [] [0]
  fast := none
  value := 0

def tenUsdcTransfer : Transfer := swapLayers.ofOrder 2 tenUsdcOrder

/-- The 10 units have been sent from chain 2. -/
theorem tenUsdc_sent : ∃ s, Reachable swapLayers s ∧ s.wire = ⟨[(0, tenUsdcTransfer)], []⟩ ∧
    s.redemptions = [] ∧ s.evm 3 = contract ∧ (∀ c, (s.evm c).storage = contract.storage) ∧
    s.solana = newNet.solana := by
  have hrun : (Evm.initiate (swapLayers.evm 2) (externals 0 0) (caller 2) 3
      (Evm.toUniversalAddress recipient) tenUsdc contract).toOption.map (fun r => r.2.orders) =
      some [tenUsdcOrder] := by decide +kernel
  obtain ⟨⟨ret, w⟩, hok, horders⟩ := Option.map_eq_some_iff.1 hrun
  have hinitiate := toOption_eq_some.1 hok
  have hstorage : w.storage = contract.storage := Evm.initiate_storage _ _ _ _ _ _ hinitiate
  let t : Evm.Transaction (swapLayers.evm 2) :=
    ⟨caller 2, externals 0 0, .initiate 3 (Evm.toUniversalAddress recipient) tenUsdc⟩
  have hexec : Evm.execute t contract = .ok w := by
    simp [t, Evm.execute, Evm.Transaction.body, bind_apply, hinitiate, pure_apply, Except.map]
  have hsent : Step swapLayers newNet
      ((newNet.executed 2 t w).withWire (newNet.wire.post 0 tenUsdcTransfer)) :=
    .transact newNet 2 t w [tenUsdcOrder] _ (by decide) (fun _ _ => nofun) hexec
      (congrArg Evm.Storage.implementation hstorage) horders
      (.cons 0 tenUsdcTransfer (by simp [Mailbox.Fresh, newNet, Mailbox.empty]) (.nil _))
  have hkept (c : ℕ) : ((newNet.withEvm 2 w).evm c).storage = contract.storage :=
    storage_withEvm hstorage (fun _ => rfl) c
  have hstart : Start swapLayers newNet :=
    ⟨rfl, fun _ => rfl, fun _ => rfl, rfl, honest_of_storage (fun _ => rfl) rfl⟩
  exact ⟨_, ⟨newNet, hstart, .single ⟨hsent, honest_of_storage hkept rfl⟩⟩, rfl, rfl, rfl, hkept, rfl⟩

/-- A liquidity layer that delivers them. -/
def delivering : Evm.Externals :=
  { externals 0 0 with redeemFill := fun _ => some (tenUsdcTransfer.fill 10) }

/-- They have been redeemed on chain 3. -/
theorem tenUsdc_redeemed : ∃ s before r, Reachable swapLayers s ∧
    s.history = before ++ [.redemption r] ∧ s.redemptions = [r] ∧ r.chain = 3 ∧ r.usdcPaid = 10 := by
  obtain ⟨s, ⟨s₀, hstart, hrun⟩, hwire, hnone, hevm, hstorage, hsolana⟩ := tenUsdc_sent
  have hpaid : (Evm.redeem (swapLayers.evm 3) delivering (caller 3) [] [] contract).toOption.map
      (fun r => Evm.usdcPaid (swapLayers.evm 3) contract r.2) = some 10 := by decide +kernel
  obtain ⟨⟨ret, w⟩, hok, husdc⟩ := Option.map_eq_some_iff.1 hpaid
  have hredeem := toOption_eq_some.1 hok
  have hkept : w.storage = contract.storage := Evm.redeem_storage _ _ _ _ _ hredeem
  have hopen : s.wire.Open 0 tenUsdcTransfer := by
    rw [hwire]
    exact ⟨List.mem_singleton_self _, by simp⟩
  have hredeemed := Step.redeem (n := swapLayers) s 3 delivering (caller 3) [] [] ret w 0
    tenUsdcTransfer 10 (by decide) hopen ⟨rfl, rfl⟩ (by decide) rfl (hevm ▸ hredeem)
  refine ⟨_, s.history, _, ⟨s₀, hstart, hrun.tail ⟨hredeemed, honest_of_storage
    (storage_withEvm hkept hstorage) hsolana⟩⟩, rfl, ?_, rfl, ?_⟩
  · rw [redemptions_note_redemption]
    exact congrArg (· ++ [_]) hnone
  · rw [Redemption.usdcPaid, hevm]
    exact husdc

/-- They were asked for. -/
theorem tenUsdc_requested : ∃ s before r m q, Reachable swapLayers s ∧
    s.history = before ++ [.redemption r] ∧ r.usdcPaid = 10 ∧ Answers swapLayers s.wire before r m q := by
  obtain ⟨s, before, r, hreach, hhistory, -, -, hpaid⟩ := tenUsdc_redeemed
  obtain ⟨m, q, hanswers⟩ := redeemed_as_requested hreach before [] r hhistory
  exact ⟨s, before, r, m, q, hreach, hhistory, hpaid, hanswers⟩

/-- And taken out of the mailbox once. -/
theorem tenUsdc_refines : ∃ s r, Reachable swapLayers s ∧ s.redemptions = [r] ∧ r.usdcPaid = 10 ∧
    Relation.ReflTransGen (Mailbox.Step Transfer.amount) .empty (board swapLayers s) ∧
    (s.redemptions.map Redemption.key).Nodup ∧
    (∀ r ∈ s.redemptions, ∃ m, Redeems swapLayers s r m) ∧
    ∀ chain, ((s.plainOn chain).map Redemption.usdcPaid).sum ≤
      (((board swapLayers s).posted.filter fun p => p.2.targetChain = chain).map
        fun p => p.2.amount).sum := by
  obtain ⟨s, before, r, hreach, -, hredemptions, -, hpaid⟩ := tenUsdc_redeemed
  exact ⟨s, r, hreach, hredemptions, hpaid, network_refines hreach⟩

end Sample

end SwapLayer.Network
