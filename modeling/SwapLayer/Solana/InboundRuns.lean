import SwapLayer.Solana.Authority
import SwapLayer.Solana.Redeemable

/-!
# Runs of a staged inbound transfer

What becomes of a fill with a payload after it has been staged, whatever order things happen in and
whoever calls: every instruction of the program, the token programs and the system program, new
fills, other peers, other roles. Jupiter, the token router and the clock may answer differently at
every step.

A key signs for itself; the address of a staged transfer is nobody's key (`Quiet`), and the token
router does not prepare a fill again that was consumed. The delegate of an account could take its
tokens as well. No staged transfer has ever appointed one (`Reachable`).

Results:
* `Reachable.undelegated`: no account of a staged transfer has a delegate.
* `guarded_step`, `guarded_run`: without the signature of the recipient the staged transfer stays as
  it is, and its custody account only gains.
* `redemption_directed`: a completion that the recipient does not sign redeems the fill for him, and
  a staged payload stays until he signs.
-/

namespace SwapLayer.Solana

open ByteString Program SplToken Messages

/-! ## The machine -/

/-- What neither completes nor releases: the other instructions of the program, and what other
programs do to token accounts. -/
inductive Call
  | stageOutbound (a : StageOutbound) (args : StageOutboundArgs)
  | initiateTransfer (a : InitiateTransfer)
  | initiateSwapExactIn (a : InitiateSwapExactIn)
  | closeStagedOutbound (a : CloseStagedOutbound)
  | addPeer (signer : Pubkey) (args : AddPeerArgs)
  | updatePeer (signer : Pubkey) (args : AddPeerArgs)
  /-- Roles, peers and their relay parameters change. -/
  | govern (signer : Pubkey) (roles : Custodian) (peers : ℕ → Option Peer)
  | transfer (program : TokenProgram) (src dst authority : Pubkey) (n : ℕ)
  | closeAccount (program : TokenProgram) (account destination authority : Pubkey)
  | setOwner (program : TokenProgram) (account authority newOwner : Pubkey)
  | approve (program : TokenProgram) (account delegate authority : Pubkey) (n : ℕ)
  | syncNative (program : TokenProgram) (account : Pubkey)
  | createToken (program : TokenProgram) (account mint owner payer : Pubkey)
  | systemTransfer (src dst : Pubkey) (n : ℕ)
  /-- Tokens come from elsewhere, or are minted. -/
  | deposit (program : TokenProgram) (dst mint : Pubkey) (n : ℕ)
  /-- Tokens go elsewhere, or are burned. -/
  | withdraw (program : TokenProgram) (src authority : Pubkey) (n : ℕ)

namespace Call

def instructionOr (e : Error) (d : Deployment) (x : Externals) : Call → Instruction Unit
  | stageOutbound a args => stageOutboundOr e d x a args
  | initiateTransfer a => initiateTransferOr e d x a
  | initiateSwapExactIn a => initiateSwapExactInOr e d x a
  | closeStagedOutbound a => Solana.closeStagedOutbound d a
  | addPeer signer args => Solana.addPeer signer args
  | updatePeer signer args => Solana.updatePeer signer args
  | govern _ roles peers => modifyBank fun b => { b with custodian := roles, peers := peers }
  | transfer program src dst authority n =>
    cpi (SplToken.transfer d.nativeMint program src dst authority n)
  | closeAccount program account destination authority =>
    cpi (SplToken.closeAccount d.nativeMint program account destination authority)
  | setOwner program account authority newOwner =>
    cpi (SplToken.setOwner program account authority newOwner)
  | approve program account delegate authority n =>
    cpi (SplToken.approve program account delegate authority n)
  | syncNative program account => cpi (SplToken.syncNative d.nativeMint program x.tokenRent account)
  | createToken program account mint owner payer =>
    Solana.createToken d.nativeMint program x.tokenRent account mint owner payer
  | systemTransfer src dst n => Solana.systemTransfer src dst n
  | deposit program dst mint n => cpi (transferIn d.nativeMint program dst mint n)
  | withdraw program src authority n => cpi (transferOut d.nativeMint program src authority n)

def instruction : Deployment → Externals → Call → Instruction Unit := instructionOr .panic

def signers : Call → List Pubkey
  | stageOutbound a _ => a.payer :: a.sender.toList
  | initiateTransfer a => [a.payer]
  | initiateSwapExactIn a => [a.payer]
  | closeStagedOutbound a => [a.sender]
  | addPeer signer _ => [signer]
  | updatePeer signer _ => [signer]
  | govern signer _ _ => [signer]
  | transfer _ _ _ authority _ => [authority]
  | closeAccount _ _ _ authority => [authority]
  | setOwner _ _ authority _ => [authority]
  | approve _ _ _ authority _ => [authority]
  | syncNative .. => []
  | createToken _ _ _ _ payer => [payer]
  | systemTransfer src _ _ => [src]
  | deposit .. => []
  | withdraw _ _ authority _ => [authority]

variable {d : Deployment} {x : Externals} {P Q : Pubkey → Prop}

/-- A call acts for its signers and for addresses of outbound transfers. -/
theorem confined (h : Signs d P Q) {c : Call} (hsigners : ∀ k ∈ c.signers, P k ∧ Q k) :
    Confined P Q (c.instruction d x) := by
  cases c with
  | stageOutbound a args =>
    refine stageOutbound_confined h fun k hk => (hsigners k ?_).1
    rw [signers, hk]
    exact List.mem_cons_of_mem _ (List.mem_singleton_self k)
  | initiateTransfer a => exact initiateTransfer_confined h a
  | initiateSwapExactIn a => exact initiateSwapExactIn_confined h a
  | closeStagedOutbound a => exact closeStagedOutbound_confined h a
  | addPeer signer args => exact addPeer_confined signer args
  | updatePeer signer args => exact updatePeer_confined signer args
  | govern signer roles peers => exact .modifyBank (fun _ => rfl) (fun _ => rfl) fun _ => rfl
  | transfer program src dst authority n =>
    exact .cpi fun _ _ _ => .transfer (hsigners _ (List.mem_singleton_self _)).1
  | closeAccount program account destination authority =>
    exact .cpi fun _ _ _ => .closeAccount (hsigners _ (List.mem_singleton_self _)).1
  | setOwner program account authority newOwner =>
    exact .cpi fun _ _ _ => .setOwner (hsigners _ (List.mem_singleton_self _)).1
  | approve program account delegate authority n =>
    obtain ⟨hP, hQ⟩ := hsigners _ (List.mem_singleton_self _)
    exact .cpi fun _ _ _ => .approve hP hQ
  | syncNative program account => exact .cpi fun _ _ _ => .syncNative
  | createToken program account mint owner payer => exact .createToken _ _ _ _ _ _ _
  | systemTransfer src dst n => exact .systemTransfer _ _ _
  | deposit program dst mint n => exact .cpi fun _ _ _ => .transferIn
  | withdraw program src authority n =>
    exact .cpi fun _ _ _ => .transferOut (hsigners _ (List.mem_singleton_self _)).1

end Call

/-- What can happen. -/
inductive Event
  | complete (c : Completion)
  | release (a : ReleaseInbound)
  /-- The token router prepares a fill. -/
  | prepareFill (fill : Pubkey) (f : PreparedFill)
  | call (c : Call)

namespace Event

def instructionOr (e : Error) (d : Deployment) (x : Externals) : Event → Instruction Unit
  | complete c => c.instructionOr e d x
  | release a => releaseInbound d a
  | prepareFill fill f => modifyBank fun b => { b with fills := Function.update b.fills fill (some f) }
  | call c => c.instructionOr e d x

def instruction : Deployment → Externals → Event → Instruction Unit := instructionOr .panic

def signers : Event → List Pubkey
  | complete c => c.signers
  | release a => [a.recipient]
  | prepareFill .. => []
  | call c => c.signers

/-- The staged transfers that the program signs for. -/
def staged (d : Deployment) : Event → List Pubkey
  | complete c => [d.stagedInbound c.fill]
  | release a => [a.stagedInbound]
  | prepareFill .. => []
  | call _ => []

variable {d : Deployment} {x : Externals} {P Q : Pubkey → Prop} {b b' : Bank} {u : Unit}

theorem prepareFill_ok {fill : Pubkey} {f : PreparedFill}
    (h : (prepareFill fill f).instruction d x b = .ok (u, b')) :
    b' = { b with fills := Function.update b.fills fill (some f) } := by
  cases h
  rfl

/-- **An event acts for those who sign**, among them the program. -/
theorem acts (h : Signs d P Q) {e : Event} (hsigners : ∀ k ∈ e.signers, P k ∧ Q k)
    (hstaged : ∀ k ∈ e.staged d, P k) (hok : e.instruction d x b = .ok (u, b')) :
    Acts P Q b.accounts b'.accounts := by
  cases e with
  | complete c => exact Completion.acts h (hstaged _ (List.mem_singleton_self _)) hok
  | release a => exact (releaseInbound_acts (hstaged _ (List.mem_singleton_self _)) hok).2.1
  | prepareFill fill f =>
    rw [prepareFill_ok hok]
    exact .refl _
  | call c => exact (Call.confined h hsigners _ _ _ hok).acts

end Event

/-- One step, with what the other programs answer to it. -/
def perform (d : Deployment) (i : Externals × Event) (b : Bank) : Except Error Bank :=
  (i.2.instruction d i.1 b).map Prod.snd

theorem perform_ok {d : Deployment} {i : Externals × Event} {b b' : Bank} :
    perform d i b = .ok b' ↔ i.2.instruction d i.1 b = .ok ((), b') := by
  unfold perform
  rw [except_map_ok]
  constructor
  · rintro ⟨⟨u, c⟩, h, rfl⟩
    exact h
  · intro h
    exact ⟨_, h, rfl⟩

/-! ## Nobody else signs for a staged transfer -/

/-- The address of the staged transfer of a fill is not derived in any other way. -/
structure Derived (d : Deployment) (fill : Pubkey) : Prop where
  custodian : d.custodian ≠ d.stagedInbound fill
  peer : ∀ chain, d.peer chain ≠ d.stagedInbound fill
  swapAuthority : ∀ k, d.swapAuthority k ≠ d.stagedInbound fill
  transferAuthority : ∀ args, d.transferAuthority args ≠ d.stagedInbound fill
  stagedInbound : ∀ k, d.stagedInbound k = d.stagedInbound fill → k = fill

/-- The address of the staged transfer is nobody's key. -/
def Keyless (d : Deployment) (fill : Pubkey) (i : Externals × Event) : Prop :=
  d.stagedInbound fill ∉ i.2.signers

section Runs

variable {d : Deployment} {b b' : Bank} {i : Externals × Event} {fill recipient : Pubkey}

theorem Derived.signs (h : Derived d fill) {P : Pubkey → Prop}
    (hP : ∀ k, k ≠ d.stagedInbound fill → P k) : Signs d P (· ≠ d.stagedInbound fill) where
  custodian := hP _ h.custodian
  peer chain := hP _ (h.peer chain)
  swapAuthority k := hP _ (h.swapAuthority k)
  transferAuthority args := hP _ (h.transferAuthority args)
  delegates := h.swapAuthority

/-- **No step appoints a delegate of a staged transfer**, not even its own completion or release. -/
theorem undelegated_step (hd : Derived d fill) (hb : Undelegated (d.stagedInbound fill) b.accounts)
    (hkeyless : Keyless d fill i) (h : perform d i b = .ok b') :
    Undelegated (d.stagedInbound fill) b'.accounts := by
  have hacts : Acts (fun _ => True) (· ≠ d.stagedInbound fill) b.accounts b'.accounts :=
    Event.acts (hd.signs fun _ _ => trivial) (fun k hk => ⟨trivial, fun he => hkeyless (he ▸ hk)⟩)
      (fun _ _ => trivial) (perform_ok.1 h)
  exact hacts.undelegated (fun hne => hne rfl) hb

/-- The states that steps lead to. In the beginning the staged transfer has no delegate. -/
def Reachable (d : Deployment) (fill : Pubkey) (b : Bank) : Prop :=
  ∃ b₀ is, Undelegated (d.stagedInbound fill) b₀.accounts ∧
    Along (perform d) (fun _ => Keyless d fill) is b₀ ∧ b = run (perform d) is b₀

theorem Reachable.undelegated (hd : Derived d fill) (hb : Reachable d fill b) :
    Undelegated (d.stagedInbound fill) b.accounts := by
  obtain ⟨b₀, is, hgenesis, hkeyless, rfl⟩ := hb
  exact run_induction (P := fun b => Undelegated (d.stagedInbound fill) b.accounts)
    (fun _ _ _ hs hi h => undelegated_step hd hs hi h) is b₀ hkeyless hgenesis

/-! ## A staged transfer waits for its recipient -/

/-- A step without the recipient. The token router does not prepare a consumed fill again. -/
structure Quiet (d : Deployment) (fill recipient : Pubkey) (i : Externals × Event) : Prop where
  keyless : Keyless d fill i
  unsigned : recipient ∉ i.2.signers
  consumed : ∀ f, i.2 ≠ .prepareFill fill f

/-- **A staged transfer as it was staged**: its record is `s`, and its custody account is `t` but for
tokens that it has gained. -/
structure Guarded (d : Deployment) (fill : Pubkey) (s : StagedInbound) (t : TokenAccount Pubkey)
    (b : Bank) : Prop where
  consumed : b.fills fill = none
  record : b.inbound (d.stagedInbound fill) = some s
  custody : ∃ n, t.amount ≤ n ∧ b.tokens s.custodyToken = some { t with amount := n }

variable {s : StagedInbound} {t : TokenAccount Pubkey}

/-- A completion of another fill writes another record. -/
theorem Guarded.complete {c : Completion} {x : Externals} {u : Unit} (hd : Derived d fill)
    (hg : Guarded d fill s t b) (h : c.instruction d x b = .ok (u, b')) :
    c.fill ≠ fill ∧ b'.fills fill = none ∧ b'.inbound (d.stagedInbound fill) = some s := by
  obtain ⟨⟨f, m, p, hloads⟩, htakes⟩ := Completion.takes h
  have hne : c.fill ≠ fill := by
    rintro rfl
    cases hg.consumed.symm.trans hloads.fill
  refine ⟨hne, ?_, ?_⟩
  · rw [htakes.fills, Function.update_of_ne hne.symm]
    exact hg.consumed
  · rcases htakes.inbound with hsame | ⟨s', hnew⟩
    · rw [hsame]
      exact hg.record
    · rw [hnew, Function.update_of_ne fun he => hne (hd.stagedInbound _ he.symm)]
      exact hg.record

/-- **A step without the recipient leaves his staged transfer alone.** -/
theorem guarded_step (hd : Derived d fill) (howner : t.owner = d.stagedInbound fill)
    (hdelegate : t.delegate = none) (hrecipient : s.recipient = recipient)
    (hg : Guarded d fill s t b) (hquiet : Quiet d fill recipient i)
    (h : perform d i b = .ok b') : Guarded d fill s t b' := by
  have hok := perform_ok.1 h
  -- who signs is not the staged transfer
  have hacts : (∀ k ∈ i.2.staged d, k ≠ d.stagedInbound fill) →
      Acts (· ≠ d.stagedInbound fill) (· ≠ d.stagedInbound fill) b.accounts b'.accounts :=
    fun hstaged => Event.acts (hd.signs fun _ hk => hk)
      (fun k hk => ⟨fun he => hquiet.keyless (he ▸ hk), fun he => hquiet.keyless (he ▸ hk)⟩)
      hstaged hok
  have hcustody : (∀ k ∈ i.2.staged d, k ≠ d.stagedInbound fill) →
      ∃ n, t.amount ≤ n ∧ b'.tokens s.custodyToken = some { t with amount := n } := by
    intro hstaged
    obtain ⟨n, hn, hc⟩ := hg.custody
    obtain ⟨r, hr, hc'⟩ := (hacts hstaged).held _ _ hc (not_not.2 howner) hdelegate
    exact ⟨r, Nat.le_trans hn hr, hc'⟩
  cases hi : i.2 with
  | complete c =>
    rw [hi] at hok hcustody
    obtain ⟨hne, hfill, hrecord⟩ := hg.complete hd hok
    refine ⟨hfill, hrecord, hcustody fun k hk => ?_⟩
    rw [List.mem_singleton.1 hk]
    exact fun he => hne (hd.stagedInbound _ he)
  | release a =>
    rw [hi] at hok hcustody
    obtain ⟨⟨s', hs', hsigned⟩, -, hfills, hinbound⟩ :=
      releaseInbound_acts (P := fun _ => True) (Q := fun _ => True) trivial hok
    -- a release of this staged transfer is signed by its recipient
    have hne : a.stagedInbound ≠ d.stagedInbound fill := by
      intro he
      obtain rfl : s' = s := Option.some.inj (hs'.symm.trans (he ▸ hg.record))
      refine hquiet.unsigned ?_
      rw [hi, ← hrecipient, ← hsigned]
      exact List.mem_singleton_self _
    refine ⟨(congrFun hfills fill).trans hg.consumed, ?_, hcustody fun k hk => ?_⟩
    · rw [hinbound, Function.update_of_ne hne.symm]
      exact hg.record
    · rw [List.mem_singleton.1 hk]
      exact hne
  | prepareFill fill' f =>
    rw [hi] at hok hcustody
    have hne : fill ≠ fill' := by
      rintro rfl
      exact hquiet.consumed f hi
    obtain rfl := Event.prepareFill_ok hok
    exact ⟨(Function.update_of_ne hne ..).trans hg.consumed, hg.record, hcustody nofun⟩
  | call c =>
    rw [hi] at hok hcustody
    have houtbound : Outbound (fun _ => True) (· ≠ d.stagedInbound fill) b b' :=
      Call.confined (hd.signs fun _ _ => trivial) (fun k hk => ⟨trivial, fun he => ?_⟩) _ _ _ hok
    · exact ⟨(congrFun houtbound.fills fill).trans hg.consumed,
        (congrFun houtbound.inbound _).trans hg.record, hcustody nofun⟩
    · refine hquiet.keyless ?_
      rw [hi]
      exact he ▸ hk

/-- The same for runs. -/
theorem guarded_run (hd : Derived d fill) (howner : t.owner = d.stagedInbound fill)
    (hdelegate : t.delegate = none) (hg : Guarded d fill s t b) (is : List (Externals × Event))
    (hquiet : Along (perform d) (fun _ => Quiet d fill s.recipient) is b) :
    Guarded d fill s t (run (perform d) is b) :=
  run_induction (fun _ _ _ hg hi h => guarded_step hd howner hdelegate rfl hg hi h) is b hquiet hg

/-! ## Redemptions -/

/-- A payload that was redeemed is guarded from then on. -/
theorem Redeemed.guarded {x : Externals} {f : PreparedFill} {m : SwapMessageV1} {p : Peer}
    {sender : Fixed 32} {buf : Prefixed 2} (hr : Redeemed d x fill f m p b b')
    (hmode : m.redeemMode = .payload sender buf) (htaken : b'.fills fill = none)
    (hb : Undelegated (d.stagedInbound fill) b.accounts) :
    ∃ s t, s.recipient = m.recipient ∧ t.owner = d.stagedInbound fill ∧ t.delegate = none ∧
      b'.tokens s.custodyToken = some t ∧ Guarded d fill s t b' := by
  cases hr with
  | paid mode => cases mode.symm.trans hmode
  | relayed _ _ mode => cases mode.symm.trans hmode
  | swapped a swap reply mode => exact absurd hmode (mode sender buf)
  | staged sender buf s t mode output record recipient custody before tokens =>
    have hafter : b'.tokens s.custodyToken = some { t with amount := t.amount + f.amount } := by
      rw [tokens, Function.update_self]
    have hrecord : b'.inbound (d.stagedInbound fill) = some s := by
      rw [record, Function.update_self]
    have howner : t.owner = d.stagedInbound fill ∧ t.delegate = none := by
      rcases before with hold | ⟨-, rfl⟩
      · exact ⟨hold.owner, hb _ _ hold.token hold.owner⟩
      · exact ⟨rfl, rfl⟩
    exact ⟨s, { t with amount := t.amount + f.amount }, recipient, howner.1, howner.2, hafter,
      htaken, hrecord, _, Nat.le_refl _, hafter⟩
  | swapStaged a swap reply sender buf s t mode authority output answered limit record recipient
      custody before tokens =>
    have hafter : b'.tokens s.custodyToken = some { t with amount := reply.dstAmount } := by
      rw [tokens, Function.update_self]
    have hrecord : b'.inbound (d.stagedInbound fill) = some s := by
      rw [record, Function.update_self]
    have hdelegate : t.delegate = none := hb _ _ before.token before.owner
    exact ⟨s, { t with amount := reply.dstAmount }, recipient, before.owner, hdelegate, hafter,
      htaken, hrecord, _, Nat.le_refl _, hafter⟩

/-- **Third parties redeem for the recipient.** A completion that the recipient of the message does
not sign pays him, or stages the fill for him, as the message says; the recipient must not be the
swap authority of the fill itself. What is staged then stays, along every run, until the recipient
signs. -/
theorem redemption_directed {c : Completion} {x : Externals} {u : Unit} {f : PreparedFill}
    {m : SwapMessageV1} (hfill : b.fills c.fill = some f)
    (hmessage : SwapMessageV1.readSlice f.redeemerMessage = .ok m)
    (hsigners : m.recipient ∉ c.signers) (hauthority : m.recipient ≠ d.swapAuthority c.fill)
    (h : c.instruction d x b = .ok (u, b')) :
    (∃ p, b.peers f.sourceChain = some p ∧ Redeemed d x c.fill f m p b b') ∧
      ∀ sender buf, m.redeemMode = .payload sender buf → Derived d c.fill →
        Reachable d c.fill b →
        ∃ s t, s.recipient = m.recipient ∧ t.owner = d.stagedInbound c.fill ∧
          b'.tokens s.custodyToken = some t ∧
          ∀ is, Along (perform d) (fun _ => Quiet d c.fill m.recipient) is b' →
            Guarded d c.fill s t (run (perform d) is b') := by
  obtain ⟨p, hpeer, hr⟩ := redeemed hfill hmessage hsigners hauthority h
  refine ⟨⟨p, hpeer, hr⟩, fun sender buf hmode hd hb => ?_⟩
  have htaken : b'.fills c.fill = none := by
    rw [(Completion.takes h).2.fills, Function.update_self]
  obtain ⟨s, t, hrecipient, howner, hdelegate, hcustody, hg⟩ :=
    hr.guarded hmode htaken (hb.undelegated hd)
  refine ⟨s, t, hrecipient, howner, hcustody, fun is hquiet => ?_⟩
  exact guarded_run hd howner hdelegate hg is (hrecipient.symm ▸ hquiet)

end Runs

namespace Sample

/-- Staged transfers of different fills have different addresses, and so have the accounts of
different owners. -/
def inboundDeployment : Deployment :=
  { deployment with
    stagedInbound := fun k => if k = key 61 then key 10 else key 20
    associatedToken := fun owner mint _ =>
      if owner = key 7 then if mint = usdc then key 13 else key 14
      else if mint = usdc then key 11 else key 12 }

/-- Jupiter takes all of the source and pays 9. -/
def jupiter : Externals := { externals .token with jupiter := fun _ => some ⟨0, 9⟩ }

/-- A payload of USDC for the key 70. -/
def payloadMessage : SwapMessageV1 :=
  ⟨key 70, .payload (key 71) ⟨[1, 2], Nat.le_of_ble_eq_true rfl⟩, .usdc⟩

/-- At least 5 wrapped lamports, for the swap authority of the fill. -/
def misdirectedMessage : SwapMessageV1 :=
  ⟨key 7, .direct, .other wrappedSol ⟨uintAt 4 [0, 0, 0, 0] 0, uintAt 16 (toBE 16 5) 0,
    .jupiterV6 ⟨none⟩⟩⟩

/-- The accounts that a swap of the fill needs. -/
def swapBank (message : Bytes) : Bank :=
  (inboundBank message).withAccounts
    { tokens := fun k =>
        if k = key 13 then some (account .token usdc (key 7) 0)
        else if k = key 14 then some (account .token wrappedSol (key 7) 0)
        else if k = key 15 then some (account .token usdc (key 72) 0)
        else if k = key 16 then some (account .token wrappedSol (key 72) 0)
        else (inboundBank message).tokens k
      lamports := fun _ => 1000000 }

def swapRoute : SharedAccountsRoute :=
  ⟨⟨0, [[]], 0, 0, 0, 0⟩, key 7, key 13, key 15, key 16, key 14, usdc, wrappedSol, [key 73]⟩

def misdirectedSwap : Completion :=
  .swapDirect ⟨payer, consumeFill, wrappedSol, .token, key 7, swapRoute⟩

/-- The recipient is the swap authority: the payer closes its account and keeps what Jupiter paid. -/
theorem swap_misdirected :
    ∃ message b', SwapMessageV1.readSlice message = .ok misdirectedMessage ∧
      misdirectedMessage.recipient ∉ misdirectedSwap.signers ∧
      misdirectedSwap.instruction inboundDeployment jupiter (swapBank message) = .ok ((), b') ∧
      b'.tokens (key 14) = none ∧ b'.lamports (key 7) = (swapBank message).lamports (key 7) ∧
      b'.lamports payer = (swapBank message).lamports payer + 3 * 1000000 + 9 ∧
      ∀ p, ¬ Redeemed inboundDeployment jupiter misdirectedSwap.fill (fill message)
        misdirectedMessage p (swapBank message) b' := by
  have hrun : (misdirectedMessage.toVec.toOption.bind fun message =>
      (misdirectedSwap.instruction inboundDeployment jupiter (swapBank message)).toOption.map
        fun r => (message, r.2, decide (r.2.tokens (key 14) = none ∧
          r.2.lamports (key 7) = (swapBank message).lamports (key 7) ∧
          r.2.lamports payer = (swapBank message).lamports payer + 3 * 1000000 + 9))).map
      (fun r => r.2.2) = some true := by decide +kernel
  obtain ⟨⟨message, b', result⟩, hr, hresult⟩ := Option.map_eq_some_iff.1 hrun
  obtain ⟨message', hwritten, hrest⟩ := Option.bind_eq_some_iff.1 hr
  obtain ⟨r, hok, hpair⟩ := Option.map_eq_some_iff.1 hrest
  cases hpair
  obtain ⟨hclosed, hnothing, hpayer⟩ := of_decide_eq_true hresult
  refine ⟨message, r.2, SwapMessageV1.readSlice_iff_toVec.2 (toOption_eq_some.1 hwritten), by decide,
    toOption_eq_some.1 hok, hclosed, hnothing, hpayer, fun p hredeemed => ?_⟩
  cases hredeemed with
  | paid mode output => cases output
  | relayed _ _ mode => cases mode
  | staged _ _ _ _ mode => cases mode
  | swapStaged _ _ _ _ _ _ _ mode => cases mode
  | swapped a swap reply mode authority output answered limit paid =>
    have hmint : wrappedSol = a.dstMint := congrArg Prod.fst (Option.some.inj output)
    cases paid with
    | gas native => cases native
    | token other received =>
      obtain ⟨_, e, -, he, -⟩ := received
      have hkey : inboundDeployment.associatedToken (key 7) a.dstMint a.dstTokenProgram = key 14 := by
        rw [← hmint]
        rfl
      have hpaid := he.token
      change r.2.tokens (inboundDeployment.associatedToken (key 7) _ _) = some e at hpaid
      rw [hkey, hclosed] at hpaid
      cases hpaid

/-- A third party stages the payload, and the 100 USDC stay in custody. -/
theorem payload_directed :
    ∃ message b' s t, SwapMessageV1.readSlice message = .ok payloadMessage ∧
      completeTransferPayload inboundDeployment (externals .token) ⟨payer, payer, consumeFill⟩
        (inboundBank message) = .ok ((), b') ∧
      s.recipient = key 70 ∧ b'.tokens s.custodyToken = some t ∧
      ∀ is, Along (perform inboundDeployment)
          (fun _ => Quiet inboundDeployment (key 61) (key 70)) is b' →
        Guarded inboundDeployment (key 61) s t (run (perform inboundDeployment) is b') := by
  have hrun : (payloadMessage.toVec.toOption.bind fun message =>
      (completeTransferPayload inboundDeployment (externals .token) ⟨payer, payer, consumeFill⟩
        (inboundBank message)).toOption).isSome = true := by decide +kernel
  obtain ⟨r, hr⟩ := Option.isSome_iff_exists.1 hrun
  obtain ⟨message, hwritten, hcomplete⟩ := Option.bind_eq_some_iff.1 hr
  have hmessage := SwapMessageV1.readSlice_iff_toVec.2 (toOption_eq_some.1 hwritten)
  have hok : completeTransferPayload inboundDeployment (externals .token) ⟨payer, payer, consumeFill⟩
      (inboundBank message) = .ok ((), r.2) := toOption_eq_some.1 hcomplete
  have hderived : Derived inboundDeployment (key 61) :=
    ⟨by decide, fun _ => (by decide : key 4 ≠ key 10), fun _ => (by decide : key 7 ≠ key 10),
      fun _ => (by decide : key 8 ≠ key 10), fun k hk => by
        by_contra hne
        exact absurd ((if_neg hne).symm.trans hk) (by decide : key 20 ≠ key 10)⟩
  have hfresh : Undelegated (key 10) (inboundBank message).accounts := by
    intro k a ha _
    change (if k = key 11 then _ else if k = key 42 then _ else _) = some a at ha
    split at ha
    · cases ha
      rfl
    · split at ha
      · cases ha
        rfl
      · cases ha
  obtain ⟨-, hpayload⟩ := redemption_directed (c := .transferPayload ⟨payer, payer, consumeFill⟩)
    (f := fill message) (b := inboundBank message) rfl hmessage (by decide) (by decide) hok
  obtain ⟨s, t, hrecipient, -, hcustody, hguarded⟩ :=
    hpayload _ _ rfl hderived ⟨_, [], hfresh, trivial, rfl⟩
  exact ⟨message, r.2, s, t, hmessage, hok, hrecipient, hcustody, hguarded⟩

end Sample

end SwapLayer.Solana
