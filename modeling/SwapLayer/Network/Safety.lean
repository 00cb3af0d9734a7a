import SwapLayer.Network.System

/-!
# The network is a mailbox

What the swap layers send each other, and what they redeem, whatever else happens: every run of the
network is a run of a mailbox (`board`) whose messages are the transfers that swap layers have sent.
So each of them is redeemed at most once, on its target chain and for at most its amount, and
nothing else is redeemed.

That a redemption is of such a transfer is up to the swap layers: anybody can place an order with
any message, and it is delivered like any other. The contract compares the sender of the fill with
the registered peer, which is zero if there is none; the program loads the registered peer, which
must exist. `Inv` is what both rely on.

Results:
* `step_simulates`: a step of the network is a step of the mailbox, or several, or none.
* `run_simulates`: so is a run.
-/

namespace SwapLayer.Network

open ByteString Program Messages

variable {n : Sites} {s s' : Net n}

/-! ## Addresses -/

theorem Sites.address_solana (n : Sites) : n.address Solana.SOLANA_CHAIN = n.solana.custodian :=
  if_pos rfl

theorem Sites.address_evm (n : Sites) {chain : ℕ} (h : chain ≠ Solana.SOLANA_CHAIN) :
    n.address chain = Evm.toUniversalAddress (n.evm chain).self := if_neg h

/-- No swap layer has the address zero. -/
theorem Sites.address_ne_zero (n : Sites) (chain : ℕ) : n.address chain ≠ Evm.zeroBytes32 := by
  by_cases hchain : chain = Solana.SOLANA_CHAIN
  · rw [hchain, n.address_solana]
    exact fun h => n.custodian_ne_zero (h.trans (by decide))
  · rw [n.address_evm hchain]
    intro h
    have hzero : Evm.toUniversalAddress (n.evm chain).self = Evm.toUniversalAddress Evm.zeroAddress :=
      h.trans (by decide)
    exact n.self_ne_zero chain (Evm.toUniversalAddress_injective hzero)

instance (n : Sites) (m : Transfer) : Decidable (n.Sent m) :=
  inferInstanceAs (Decidable (_ = _))

/-! ## The redemptions of a history -/

theorem redemptions_note_redemption {r : Redemption n} :
    (s.note (.redemption r)).redemptions = s.redemptions ++ [r] := by
  simp [Net.redemptions, Net.note, Deed.redeemed]

theorem redemptions_note (s : Net n) {d : Deed n} (hd : d.redeemed = none) :
    (s.note d).redemptions = s.redemptions := by
  simp [Net.redemptions, Net.note, hd]

/-- A redemption that is noted is the last one. -/
theorem mem_redemptions_concat {r r' : Redemption n} (h : r' ∈ s.redemptions ++ [r]) :
    r' ∈ s.redemptions ∨ r' = r :=
  (List.mem_append.1 h).imp_right List.mem_singleton.1

/-! ## The abstract network -/

/-- What was sent by swap layers, and what was redeemed of it. -/
def board (n : Sites) (s : Net n) : Mailbox ℕ Transfer :=
  s.wire.sift (fun m => n.Sent m) (s.redemptions.map fun r => (r.key, r.delivered))

theorem mem_board {k : ℕ} {m : Transfer} :
    (k, m) ∈ (board n s).posted ↔ (k, m) ∈ s.wire.posted ∧ n.Sent m := by
  rw [board, Mailbox.mem_sift, decide_eq_true_eq]

/-- A fill that has been prepared on Solana: an unredeemed transfer that was taken for it. -/
structure PreparedFrom (n : Sites) (s : Net n) (fill : Solana.Pubkey) (f : Solana.PreparedFill) (k : ℕ)
    (m : Transfer) : Prop where
  prepared : s.prepared fill = some k
  posted : (k, m) ∈ s.wire.posted
  taken : (k, f.amount) ∈ s.wire.taken
  addressed : n.Addressed Solana.SOLANA_CHAIN m
  sourceChain : f.sourceChain = m.sourceChain
  sender : f.orderSender = m.sender
  message : f.redeemerMessage = m.message
  unredeemed : ∀ r ∈ s.redemptions, r.key ≠ k

/-- **What every step keeps.** -/
structure Inv (n : Sites) (s : Net n) : Prop where
  sound : s.wire.Sound Transfer.amount
  honest : Honest n s
  senders : ∀ k m, (k, m) ∈ s.wire.posted → m.sender ≠ Evm.zeroBytes32
  fills : ∀ fill f, s.solana.fills fill = some f → ∃ k m, PreparedFrom n s fill f k m
  distinct : ∀ fill fill' f f', s.solana.fills fill = some f → s.solana.fills fill' = some f' →
    s.prepared fill = s.prepared fill' → fill = fill'
  redemptions : ∀ r ∈ s.redemptions, (r.key, r.delivered) ∈ s.wire.taken

theorem Start.redemptions_eq (h : Start n s) : s.redemptions = [] := by
  rw [Net.redemptions, h.history]
  rfl

theorem Start.inv (h : Start n s) : Inv n s where
  sound := h.wire ▸ Mailbox.sound_empty
  honest := h.honest
  senders k m hm := by simp [h.wire, Mailbox.empty] at hm
  fills fill f hf := by simp [h.fills] at hf
  distinct fill fill' f f' hf := by simp [h.fills] at hf
  redemptions r hr := by simp [h.redemptions_eq] at hr

theorem Start.board_eq (h : Start n s) : board n s = .empty := by
  simp [board, Mailbox.sift, Mailbox.empty, h.wire, h.redemptions_eq]

/-! ## Who sent what is redeemed -/

/-- **The contract redeems what a swap layer has sent**: the sender is the registered peer, which is
not zero since the sender is not. -/
theorem Inv.sent_of_redeem (hs : Inv n s) {chain k amount : ℕ} {m : Transfer} {x : Evm.Externals}
    {msg : Evm.Msg (n.evm chain)} {params attestations ret : Evm.Bytes} {w : Evm.World}
    (hchain : chain ≠ Solana.SOLANA_CHAIN) (hposted : (k, m) ∈ s.wire.posted)
    (hfill : x.redeemFill attestations = some (m.fill amount))
    (hredeem : Evm.redeem (n.evm chain) x msg params attestations (s.evm chain) = .ok (ret, w)) :
    n.Sent m := by
  obtain ⟨r, -, -⟩ := Evm.redeem_ok.1 hredeem
  obtain hr : r.fill = m.fill amount := Option.some.inj (r.delivered.symm.trans hfill)
  have hpeer := r.peer
  rw [hr] at hpeer
  have hregistered : (s.evm chain).storage.peers m.sourceChain ≠ Evm.zeroBytes32 :=
    fun hz => hs.senders k m hposted (hpeer.trans hz)
  exact hpeer.trans (hs.honest.evm chain hchain _ hregistered)

/-- **The program completes what a swap layer has sent**: the peer must be registered. -/
theorem Inv.sent_of_complete (hs : Inv n s) {x : Solana.Externals} {c : Solana.Completion}
    {b : Solana.Bank} {f : Solana.PreparedFill} {k : ℕ} {m : Transfer}
    (hfill : s.solana.fills c.fill = some f) (hfrom : PreparedFrom n s c.fill f k m)
    (hok : Solana.perform n.solana (x, .complete c) s.solana = .ok b) : n.Sent m := by
  obtain ⟨⟨f', m', p, hloads⟩, -⟩ := Solana.Completion.takes (Solana.perform_ok.1 hok)
  obtain rfl : f' = f := Option.some.inj (hloads.fill.symm.trans hfill)
  have hpeer := hs.honest.solana _ p hloads.peer
  rw [Sites.Sent, ← hfrom.sender, hloads.sender, hpeer, hloads.chain, hfrom.sourceChain]

/-! ## Steps -/

/-- What was prepared stays prepared while transfers are posted. -/
theorem PreparedFrom.posts {fill : Solana.Pubkey} {f : Solana.PreparedFill} {k : ℕ} {m : Transfer}
    (h : PreparedFrom n s fill f k m) {ms : List Transfer} {wire : Mailbox ℕ Transfer}
    (hposts : Mailbox.Posts s.wire ms wire) (hprepared : s'.prepared = s.prepared)
    (hwire : s'.wire = wire) (hsame : s'.redemptions = s.redemptions) : PreparedFrom n s' fill f k m :=
  { h with
    prepared := hprepared ▸ h.prepared
    posted := hwire ▸ hposts.posted_of_mem h.posted
    taken := by rw [hwire, hposts.taken_eq]; exact h.taken
    unredeemed := hsame ▸ h.unredeemed }

/-- **A step that only posts** keeps the invariant, and posts what swap layers have sent. -/
theorem Inv.posts (hs : Inv n s) {ms : List Transfer} (hposts : Mailbox.Posts s.wire ms s'.wire)
    (hsenders : ∀ m ∈ ms, m.sender ≠ Evm.zeroBytes32) (hhonest : Honest n s')
    (hfills : s'.solana.fills = s.solana.fills) (hprepared : s'.prepared = s.prepared)
    (hsame : s'.redemptions = s.redemptions) :
    Inv n s' ∧ Relation.ReflTransGen (Mailbox.Step Transfer.amount) (board n s) (board n s') := by
  constructor
  · constructor
    · exact hposts.sound hs.sound
    · exact hhonest
    · intro k m hm
      rcases hposts.mem hm with hold | hnew
      · exact hs.senders k m hold
      · exact hsenders m hnew
    · intro fill f hf
      rw [hfills] at hf
      obtain ⟨k, m, hfrom⟩ := hs.fills fill f hf
      exact ⟨k, m, hfrom.posts hposts hprepared rfl hsame⟩
    · rw [hfills, hprepared]
      exact hs.distinct
    · rw [hsame, hposts.taken_eq]
      exact hs.redemptions
  · rw [board, board, hsame]
    exact hposts.sift

/-- A transfer that was taken for nothing yet has not been redeemed. -/
theorem Inv.unredeemed_of_open (hs : Inv n s) {k : ℕ} {m : Transfer} (hopen : s.wire.Open k m) :
    ∀ r ∈ s.redemptions, r.key ≠ k := by
  rintro r hr rfl
  exact hopen.untaken _ (hs.redemptions r hr)

/-- A redemption of what a swap layer has sent takes it out of the mailbox. -/
theorem board_take {k : ℕ} {m : Transfer} {r : Redemption n} (hkey : r.key = k)
    (hposted : (k, m) ∈ s.wire.posted) (hsent : n.Sent m) (hamount : r.delivered ≤ m.amount)
    (hunredeemed : ∀ r' ∈ s.redemptions, r'.key ≠ k) (hwire : s'.wire.posted = s.wire.posted)
    (hredemptions : s'.redemptions = s.redemptions ++ [r]) :
    Mailbox.Step Transfer.amount (board n s) (board n s') := by
  have hboard : board n s' = (board n s).take k r.delivered := by
    simp [board, Mailbox.sift, Mailbox.take, hwire, hredemptions, hkey]
  rw [hboard]
  refine .take _ k m r.delivered ⟨mem_board.2 ⟨hposted, hsent⟩, fun n' hn' => ?_⟩ hamount
  obtain ⟨r', hr', he⟩ := List.mem_map.1 hn'
  exact hunredeemed r' hr' (Prod.mk.inj he).1

/-- What was prepared stays prepared while another transfer is taken. -/
theorem PreparedFrom.take {fill : Solana.Pubkey} {f : Solana.PreparedFill} {k k' amount : ℕ}
    {m m' : Transfer} (h : PreparedFrom n s fill f k m) (hopen : s.wire.Open k' m')
    (hwire : s'.wire = s.wire.take k' amount) (hprepared : s'.prepared fill = s.prepared fill)
    (hredemptions : ∀ r ∈ s'.redemptions, r ∈ s.redemptions ∨ r.key = k') :
    PreparedFrom n s' fill f k m :=
  { h with
    prepared := hprepared ▸ h.prepared
    posted := hwire ▸ h.posted
    taken := by rw [hwire]; exact List.mem_append_left _ h.taken
    unredeemed := by
      intro r hr
      rcases hredemptions r hr with hold | hnew
      · exact h.unredeemed r hold
      · rintro rfl
        exact hopen.untaken _ (hnew ▸ h.taken) }

/-- **A redemption on an EVM chain.** -/
theorem Inv.redeem (hs : Inv n s) {k amount : ℕ} {m : Transfer} {r : Redemption n}
    (hkey : r.key = k) (hdelivered : r.delivered = amount) (hopen : s.wire.Open k m)
    (hamount : amount ≤ m.amount) (hsent : n.Sent m) {chain : ℕ} {w : Evm.World} (hhonest : Honest n s')
    (hs' : s' = ((s.withEvm chain w).withWire (s.wire.take k amount)).note (.redemption r)) :
    Inv n s' ∧ Mailbox.Step Transfer.amount (board n s) (board n s') := by
  have hredemptions : s'.redemptions = s.redemptions ++ [r] := hs' ▸ redemptions_note_redemption
  subst hs'
  refine ⟨⟨hs.sound.take hopen hamount, hhonest, hs.senders, fun fill f hf => ?_, hs.distinct, ?_⟩,
    board_take hkey hopen.posted hsent (hdelivered ▸ hamount) (hs.unredeemed_of_open hopen) rfl
      hredemptions⟩
  · obtain ⟨k', m', hfrom⟩ := hs.fills fill f hf
    refine ⟨k', m', hfrom.take hopen rfl rfl fun r' hr' => ?_⟩
    rw [hredemptions] at hr'
    exact (mem_redemptions_concat hr').imp_right fun he => (congrArg Redemption.key he).trans hkey
  · intro r' hr'
    rw [hredemptions] at hr'
    rcases mem_redemptions_concat hr' with hold | rfl
    · exact List.mem_append_left _ (hs.redemptions r' hold)
    · rw [hkey, hdelivered]
      exact List.mem_append_right _ (List.mem_singleton_self _)

/-- **A fill that is prepared** has not been redeemed, and no other fill is of the same transfer. -/
theorem Inv.prepareFill (hs : Inv n s) {x : Solana.Externals} {fill : Solana.Pubkey} {k amount : ℕ}
    {m : Transfer} {fillType : Solana.FillType} {timestamp : ℤ} {b : Solana.Bank}
    (hopen : s.wire.Open k m) (haddressed : n.Addressed Solana.SOLANA_CHAIN m)
    (hamount : amount ≤ m.amount)
    (hok : Solana.perform n.solana
      (x, .prepareFill fill (m.preparedFill amount fillType timestamp)) s.solana = .ok b)
    (hhonest : Honest n s')
    (hs' : s' = ((s.withSolana b).withWire (s.wire.take k amount)).prepare fill k) :
    Inv n s' ∧ board n s' = board n s := by
  obtain rfl := Solana.Event.prepareFill_ok (Solana.perform_ok.1 hok)
  subst hs'
  have hother : ∀ fill' f', s.solana.fills fill' = some f' → s.prepared fill' ≠ some k := by
    intro fill' f' hf' he
    obtain ⟨k', m', hfrom⟩ := hs.fills fill' f' hf'
    obtain rfl : k' = k := Option.some.inj (hfrom.prepared.symm.trans he)
    exact hopen.untaken _ hfrom.taken
  refine ⟨⟨hs.sound.take hopen hamount, hhonest, hs.senders, ?_, ?_, fun r hr =>
    List.mem_append_left _ (hs.redemptions r hr)⟩, rfl⟩
  · intro fill' f' hf'
    change Function.update s.solana.fills fill _ fill' = some f' at hf'
    by_cases hne : fill' = fill
    · rw [hne, Function.update_self] at hf'
      cases hf'
      exact ⟨k, m, hne ▸ Function.update_self .., hopen.posted,
        List.mem_append_right _ (List.mem_singleton_self _), haddressed, rfl, rfl, rfl,
        hs.unredeemed_of_open hopen⟩
    · rw [Function.update_of_ne hne] at hf'
      obtain ⟨k', m', hfrom⟩ := hs.fills fill' f' hf'
      exact ⟨k', m', hfrom.take hopen rfl (Function.update_of_ne hne ..) fun r hr => .inl hr⟩
  · intro fill₁ fill₂ f₁ f₂ hf₁ hf₂ he
    change Function.update s.solana.fills fill _ fill₁ = some f₁ at hf₁
    change Function.update s.solana.fills fill _ fill₂ = some f₂ at hf₂
    change Function.update s.prepared fill _ fill₁ = Function.update s.prepared fill _ fill₂ at he
    by_cases h₁ : fill₁ = fill <;> by_cases h₂ : fill₂ = fill
    · exact h₁.trans h₂.symm
    · rw [h₁, Function.update_self, Function.update_of_ne h₂] at he
      rw [Function.update_of_ne h₂] at hf₂
      exact absurd he.symm (hother fill₂ f₂ hf₂)
    · rw [h₂, Function.update_self, Function.update_of_ne h₁] at he
      rw [Function.update_of_ne h₁] at hf₁
      exact absurd he (hother fill₁ f₁ hf₁)
    · rw [Function.update_of_ne h₁] at hf₁ he
      rw [Function.update_of_ne h₂] at hf₂ he
      exact hs.distinct _ _ _ _ hf₁ hf₂ he

/-- **A completion** redeems the transfer of its fill, and the fill is gone. -/
theorem Inv.complete (hs : Inv n s) {x : Solana.Externals} {c : Solana.Completion} {b : Solana.Bank}
    {k : ℕ} (hprepared : s.prepared c.fill = some k)
    (hok : Solana.perform n.solana (x, .complete c) s.solana = .ok b) (hhonest : Honest n s')
    (hs' : s' = (s.withSolana b).note (.redemption (.solana k x c s.solana b))) :
    Inv n s' ∧ Mailbox.Step Transfer.amount (board n s) (board n s') := by
  have hredemptions : s'.redemptions = s.redemptions ++ [.solana k x c s.solana b] :=
    hs' ▸ redemptions_note_redemption
  subst hs'
  obtain ⟨⟨f, m₀, p, hloads⟩, htakes⟩ := Solana.Completion.takes (Solana.perform_ok.1 hok)
  have hfill : s.solana.fills c.fill = some f := hloads.fill
  have hdelivered : (Redemption.solana k x c s.solana b : Redemption n).delivered = f.amount := by
    rw [Redemption.delivered, filledAmount, hfill]
    rfl
  obtain ⟨k', m, hfrom⟩ := hs.fills _ f hfill
  obtain rfl : k = k' := Option.some.inj (hprepared.symm.trans hfrom.prepared)
  obtain ⟨m', hm', hamount⟩ := hs.sound.covered _ _ hfrom.taken
  obtain rfl := hs.sound.unique hm' hfrom.posted
  refine ⟨⟨hs.sound, hhonest, hs.senders, ?_, ?_, ?_⟩,
    board_take (r := .solana k x c s.solana b) rfl hfrom.posted (hs.sent_of_complete hfill hfrom hok)
      (hdelivered ▸ hamount) hfrom.unredeemed rfl hredemptions⟩
  · intro fill' f' hf'
    change b.fills fill' = some f' at hf'
    rw [htakes.fills] at hf'
    have hne : fill' ≠ c.fill := by
      rintro rfl
      rw [Function.update_self] at hf'
      cases hf'
    rw [Function.update_of_ne hne] at hf'
    obtain ⟨k₂, m₂, hfrom₂⟩ := hs.fills fill' f' hf'
    refine ⟨k₂, m₂, { hfrom₂ with unredeemed := fun r hr => ?_ }⟩
    rw [hredemptions] at hr
    rcases mem_redemptions_concat hr with hold | rfl
    · exact hfrom₂.unredeemed r hold
    · rintro rfl
      exact hne (hs.distinct _ _ _ _ hf' hfill (hfrom₂.prepared.trans hprepared.symm))
  · intro fill₁ fill₂ f₁ f₂ hf₁ hf₂ he
    change b.fills fill₁ = some f₁ at hf₁
    change b.fills fill₂ = some f₂ at hf₂
    have hkeep : ∀ fill' f', b.fills fill' = some f' → s.solana.fills fill' = some f' := by
      intro fill' f' hf'
      rw [htakes.fills] at hf'
      by_cases hne : fill' = c.fill
      · rw [hne, Function.update_self] at hf'
        cases hf'
      · rwa [Function.update_of_ne hne] at hf'
    exact hs.distinct _ _ _ _ (hkeep _ _ hf₁) (hkeep _ _ hf₂) he
  · intro r hr
    rw [hredemptions] at hr
    rcases mem_redemptions_concat hr with hold | rfl
    · exact hs.redemptions r hold
    · rw [hdelivered]
      exact hfrom.taken

/-- **A step of the network is a step of the mailbox**, or several, or none. -/
theorem step_simulates (hs : Inv n s) (hstep : Step n s s') (hhonest : Honest n s') :
    Inv n s' ∧ Relation.ReflTransGen (Mailbox.Step Transfer.amount) (board n s) (board n s') := by
  cases hstep with
  | transact chain t w new wire hchain hcall hexec hkept hnew hposts =>
    refine hs.posts hposts (fun m hm => ?_) hhonest rfl rfl (redemptions_note _ rfl)
    obtain ⟨o, -, rfl⟩ := List.mem_map.1 hm
    exact n.address_ne_zero chain
  | redeem chain x msg params attestations ret w k m amount hchain hopen haddressed hamount hfill
      hredeem =>
    have hsent := hs.sent_of_redeem hchain hopen.posted hfill hredeem
    have hdelivered : (Redemption.evm k chain x msg params attestations (s.evm chain) w).delivered =
        amount := by
      rw [Redemption.delivered, hfill]
      rfl
    obtain ⟨hinv, hboard⟩ := hs.redeem rfl hdelivered hopen hamount hsent hhonest rfl
    exact ⟨hinv, .single hboard⟩
  | donate chain asset amount =>
    exact hs.posts (.nil _) (by simp) hhonest rfl rfl rfl
  | perform x e b new wire hcomplete hprepare hfree hok hnew hposts =>
    have hfills : b.fills = s.solana.fills := by
      rcases Solana.Event.fills_of (Solana.perform_ok.1 hok) hprepare with ⟨c, hc, -⟩ | ⟨-, hf⟩
      · exact absurd hc (hcomplete c)
      · exact hf
    refine hs.posts hposts (fun m hm => ?_) hhonest hfills rfl (redemptions_note _ rfl)
    obtain ⟨o, -, rfl⟩ := List.mem_map.1 hm
    exact n.address_ne_zero Solana.SOLANA_CHAIN
  | prepareFill x fill k m amount fillType timestamp b hunused hopen haddressed hamount hok =>
    obtain ⟨hinv, hboard⟩ := hs.prepareFill hopen haddressed hamount hok hhonest rfl
    exact ⟨hinv, hboard ▸ .refl⟩
  | complete x c b k hprepared hfree hok =>
    obtain ⟨hinv, hboard⟩ := hs.complete hprepared hok hhonest rfl
    exact ⟨hinv, .single hboard⟩
  | foreign k m hfresh hsent hsender =>
    refine hs.posts (.cons k m hfresh (.nil _)) (fun m' hm' => ?_) hhonest rfl rfl rfl
    rwa [List.mem_singleton.1 hm']

/-! ## Runs -/

/-- A run from a state in which the invariant holds. -/
theorem run_simulates (hs : Inv n s) (h : Relation.ReflTransGen (Next n) s s') :
    Inv n s' ∧ Relation.ReflTransGen (Mailbox.Step Transfer.amount) (board n s) (board n s') := by
  induction h with
  | refl => exact ⟨hs, .refl⟩
  | tail _ hnext ih =>
    obtain ⟨hinv, hboard⟩ := step_simulates ih.1 hnext.1 hnext.2
    exact ⟨hinv, ih.2.trans hboard⟩

theorem Reachable.inv (h : Reachable n s) : Inv n s := by
  obtain ⟨s₀, hstart, hrun⟩ := h
  exact (run_simulates hstart.inv hrun).1

theorem Reachable.board (h : Reachable n s) :
    Relation.ReflTransGen (Mailbox.Step Transfer.amount) .empty (board n s) := by
  obtain ⟨s₀, hstart, hrun⟩ := h
  rw [← hstart.board_eq]
  exact (run_simulates hstart.inv hrun).2

end SwapLayer.Network
