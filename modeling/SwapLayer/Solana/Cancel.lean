import SwapLayer.Solana.StagedRuns

/-!
# Cancelling a staged transfer

Whether the recorded sender can close a staging and get everything back, at any point of any run
at which it is open. `stage_outbound` and `initiate_swap_exact_in` take token accounts of both
token programs; `close_staged_outbound` takes accounts of the original one only.

Results:
* `close_into_token`, `close_into_lamports`: a close that finds its accounts in order succeeds, and
  what it returns.
* `cancel_iff`: an open staging can be cancelled iff its mint is one of the original token program.
-/

namespace SwapLayer.Solana

open Program SplToken

/-! ## What a close returns -/

/-- The lamports of a custody account that are tokens. -/
def principal (d : Deployment) (c : TokenAccount Pubkey) : ℕ :=
  if c.mint = d.nativeMint then c.amount else 0

/-- The whole of the custody account `c` is with the sender, as tokens or as lamports, and the rent
of both accounts with who prepared the staging. -/
structure Returned (d : Deployment) (k : Pubkey) (s : StagedOutbound)
    (senderToken : Option Pubkey) (c : TokenAccount Pubkey) (b b' : Bank) : Prop where
  closed : Closed d k b'
  tokens : ∀ dest, senderToken = some dest → ∃ t, b.tokens dest = some t ∧
    t.owner = s.info.sender ∧ b'.tokens dest = some { t with amount := t.amount + c.amount }
  lamports : senderToken = none →
    c.mint = d.nativeMint ∧ b.lamports s.info.sender + c.amount ≤ b'.lamports s.info.sender
  rent : b.lamports s.info.preparedBy + (b.lamports (d.stagedCustody k) - principal d c) +
    b.lamports k ≤ b'.lamports s.info.preparedBy
  /-- One who both sent and prepared it gets principal and rent. -/
  both : senderToken = none → s.info.sender = s.info.preparedBy →
    b.lamports s.info.preparedBy + b.lamports (d.stagedCustody k) + b.lamports k ≤
      b'.lamports s.info.preparedBy

/-- The recorded sender has a close that succeeds and returns everything. -/
def Cancellable (d : Deployment) (k : Pubkey) (s : StagedOutbound) (b : Bank) : Prop :=
  ∃ targetPeer senderToken c b', b.tokens (d.stagedCustody k) = some c ∧
    closeStagedOutbound d ⟨s.info.sender, targetPeer, k, senderToken⟩ b = .ok ((), b') ∧
    Returned d k s senderToken c b b'

section Close

variable {d : Deployment} {b b₁ : Bank} {k : Pubkey} {s : StagedOutbound}
  {c : TokenAccount Pubkey} {targetPeer : ℕ} {senderToken : Option Pubkey}

/-- The accounts of a close are in order. -/
structure InOrder (d : Deployment) (k : Pubkey) (targetPeer : ℕ) (s : StagedOutbound)
    (c : TokenAccount Pubkey) (b : Bank) : Prop where
  staged : b.outbound k = some s
  registered : b.peers targetPeer ≠ none
  custody : b.tokens (d.stagedCustody k) = some c
  program : c.program = .token
  owner : c.owner = d.peer targetPeer
  delegate : c.delegate = none
  covered : Covered d b (d.stagedCustody k) c
  staged_ne_custody : k ≠ d.stagedCustody k
  preparedBy_ne_staged : s.info.preparedBy ≠ k
  preparedBy_ne_custody : s.info.preparedBy ≠ d.stagedCustody k

/-- What is left of a bank when the staged account is closed. -/
def withoutStaged (k preparedBy : Pubkey) (b : Bank) : Bank :=
  (b.withAccounts (b.accounts.moveLamports k preparedBy (b.lamports k))).setOutbound k none

/-- A close succeeds if its refund does. -/
theorem closeStagedOutbound_of_refund (h : InOrder d k targetPeer s c b)
    (hrefund : refundCustody d ⟨s.info.sender, targetPeer, k, senderToken⟩ s c b
      = .ok ((), b₁)) :
    closeStagedOutbound d ⟨s.info.sender, targetPeer, k, senderToken⟩ b =
      .ok ((), withoutStaged k s.info.preparedBy b₁) := by
  obtain ⟨peer, hpeer⟩ := Option.ne_none_iff_exists'.1 h.registered
  refine bind_ok.2 ⟨s, b, loadAccount_ok.2 ⟨h.staged, rfl⟩, ?_⟩
  refine bind_ok.2 ⟨(), b, constraint_ok.2 ⟨rfl, rfl⟩, ?_⟩
  refine bind_ok.2 ⟨peer, b, loadAccount_ok.2 ⟨hpeer, rfl⟩, ?_⟩
  refine bind_ok.2 ⟨c, b, tokenAccount_ok.2 ⟨h.custody, h.program, rfl⟩, ?_⟩
  refine bind_ok.2 ⟨(), b, constraint_ok.2 ⟨h.owner, rfl⟩, ?_⟩
  exact bind_ok.2 ⟨(), b₁, hrefund, closeStaged_ok.2 rfl⟩

theorem withoutStaged_preparedBy {preparedBy : Pubkey} (hne : preparedBy ≠ k) :
    (withoutStaged k preparedBy b).lamports preparedBy =
      b.lamports preparedBy + b.lamports k :=
  Accounts.moveLamports_dst _ hne.symm _

theorem withoutStaged_le {preparedBy k' : Pubkey} (hne : k' ≠ k) :
    b.lamports k' ≤ (withoutStaged k preparedBy b).lamports k' :=
  (Kept.moveLamports hne).lamports

theorem withoutStaged_tokens {preparedBy : Pubkey} :
    (withoutStaged k preparedBy b).tokens = b.tokens :=
  Accounts.moveLamports_tokens ..

/-! ### Into a token account -/

/-- The custody account is transferred out. -/
theorem transfer_custody {dest : Pubkey} {t : TokenAccount Pubkey}
    (h : InOrder d k targetPeer s c b) (ht : b.tokens dest = some t)
    (hprogram : t.program = c.program) (hmint : t.mint = c.mint) (hne : dest ≠ d.stagedCustody k) :
    ∃ s₁, transfer d.nativeMint .token (d.stagedCustody k) dest (d.peer targetPeer) c.amount
        b.accounts = .ok ((), s₁) ∧
      s₁.tokens (d.stagedCustody k) = some { c with amount := 0 } ∧
      s₁.tokens dest = some { t with amount := t.amount + c.amount } ∧
      s₁.lamports (d.stagedCustody k) = b.lamports (d.stagedCustody k) - principal d c ∧
      ∀ k', k' ≠ d.stagedCustody k → b.lamports k' ≤ s₁.lamports k' := by
  have hundelegated : c.delegate ≠ some (d.peer targetPeer) := by rw [h.delegate]; exact nofun
  refine ⟨transferred d.nativeMint (d.stagedCustody k) dest c t c.amount b.accounts,
    (transfer_ok hne.symm).2 ⟨c, c, t, h.custody, ht, h.program, hprogram.trans h.program,
      hmint.symm, Nat.le_refl _, authorize_owner hundelegated h.owner c.amount, rfl⟩,
    ?_, transferred_dst, ?_, ?_⟩
  · rw [transferred_src hne.symm, Nat.sub_self]
  · unfold principal
    split
    · rename_i hm
      exact transferred_lamports_src hne.symm hm
    · rename_i hm
      rw [transferred_lamports_of_ne hm]
      rfl
  · intro k' hk'
    by_cases hm : c.mint = d.nativeMint
    · rw [transferred, Accounts.moveNative, if_pos hm]
      exact (Kept.moveLamports (s := (b.accounts.setToken _ _).setToken dest _) hk').lamports
    · rw [transferred_lamports_of_ne hm]
      exact Nat.le_refl _

/-- An account is closed. -/
theorem close_custody (s₁ : Accounts Pubkey) {account dest owner : Pubkey}
    {c : TokenAccount Pubkey} (hc : s₁.tokens account = some c) (hprogram : c.program = .token)
    (hzero : c.mint = d.nativeMint ∨ c.amount = 0) (howner : c.owner = owner)
    (hne : dest ≠ account) :
    ∃ s₂, closeAccount d.nativeMint .token account dest owner s₁ = .ok ((), s₂) ∧
      s₂.tokens = Function.update s₁.tokens account none ∧
      s₂.lamports dest = s₁.lamports dest + s₁.lamports account ∧
      ∀ k', k' ≠ account → s₁.lamports k' ≤ s₂.lamports k' :=
  ⟨_, closeAccount_ok.2 ⟨hne.symm, c, hc, hprogram, hzero, howner, rfl⟩,
    Accounts.moveLamports_tokens .., Accounts.moveLamports_dst _ hne.symm _,
    fun _ hk' => (Kept.moveLamports (s := s₁.setToken account none) hk').lamports⟩

/-- **A close into a token account** of the custody's mint and program returns everything. -/
theorem close_into_token {dest : Pubkey} {t : TokenAccount Pubkey}
    (h : InOrder d k targetPeer s c b) (ht : b.tokens dest = some t)
    (hprogram : t.program = c.program) (hmint : t.mint = c.mint) (howner : t.owner = s.info.sender)
    (hne : dest ≠ d.stagedCustody k) :
    ∃ b', closeStagedOutbound d ⟨s.info.sender, targetPeer, k, some dest⟩ b = .ok ((), b') ∧
      Returned d k s (some dest) c b b' := by
  obtain ⟨s₁, htransfer, hcustody, hdest, hlamports, hle₁⟩ :=
    transfer_custody h ht hprogram hmint hne
  obtain ⟨s₂, hclose, htokens, hpaid, hle₂⟩ :=
    close_custody s₁ hcustody h.program (.inr rfl) h.owner h.preparedBy_ne_custody
  have hrefund : refundCustody d ⟨s.info.sender, targetPeer, k, some dest⟩ s c b =
      .ok ((), b.withAccounts s₂) :=
    bind_ok.2 ⟨(), _, cpi_ok.2 ⟨s₁, htransfer, rfl⟩, cpi_ok.2 ⟨s₂, hclose, rfl⟩⟩
  refine ⟨_, closeStagedOutbound_of_refund h hrefund, ⟨Function.update_self .., ?_⟩, ?_, nofun, ?_,
    nofun⟩
  · rw [withoutStaged_tokens, Bank.withAccounts_tokens, htokens, Function.update_self]
  · intro dest' hdest'
    cases hdest'
    refine ⟨t, ht, howner, ?_⟩
    rw [withoutStaged_tokens, Bank.withAccounts_tokens, htokens, Function.update_of_ne hne, hdest]
  · have hp := hle₁ _ h.preparedBy_ne_custody
    have hk := Nat.le_trans (hle₁ _ h.staged_ne_custody) (hle₂ _ h.staged_ne_custody)
    rw [withoutStaged_preparedBy h.preparedBy_ne_staged, Bank.withAccounts_lamports, hpaid,
      hlamports]
    omega

/-! ### Into lamports -/

/-- A sender who can pass the rent on is neither account of the staging. -/
theorem InOrder.sender_ne (h : InOrder d k targetPeer s c b)
    (hsender : s.info.sender = s.info.preparedBy ∨ b.Plain s.info.sender) :
    s.info.sender ≠ d.stagedCustody k ∧ s.info.sender ≠ k := by
  rcases hsender with hsame | hplain
  · exact ⟨hsame ▸ h.preparedBy_ne_custody, hsame ▸ h.preparedBy_ne_staged⟩
  constructor <;> intro he
  · cases hplain.token.symm.trans (he ▸ h.custody)
  · have hrecord := hplain.record
    rw [he, Bank.hasRecord, h.staged] at hrecord
    cases hrecord

/-- **A close of native tokens without a token account** returns everything as lamports. -/
theorem close_into_lamports (h : InOrder d k targetPeer s c b) (hnative : c.mint = d.nativeMint)
    (hsender : s.info.sender = s.info.preparedBy ∨ b.Plain s.info.sender) :
    ∃ b', closeStagedOutbound d ⟨s.info.sender, targetPeer, k, none⟩ b = .ok ((), b') ∧
      Returned d k s none c b b' := by
  have hcovered := h.covered hnative
  have hprincipal : principal d c = c.amount := if_pos hnative
  obtain ⟨hcustody, hstaged⟩ := h.sender_ne hsender
  obtain ⟨s₁, hclose, htokens, hpaid, hle₁⟩ :=
    close_custody b.accounts h.custody h.program (.inl hnative) h.owner hcustody
  have hp := hle₁ _ h.preparedBy_ne_custody
  have hk := hle₁ _ h.staged_ne_custody
  have hcpi : cpi (closeAccount d.nativeMint .token (d.stagedCustody k) s.info.sender
      (d.peer targetPeer)) b = .ok ((), b.withAccounts s₁) := cpi_ok.2 ⟨s₁, hclose, rfl⟩
  by_cases hsame : s.info.sender = s.info.preparedBy
  · have hrefund : refundCustody d ⟨s.info.sender, targetPeer, k, none⟩ s c b =
        .ok ((), b.withAccounts s₁) := by
      refine bind_ok.2 ⟨b, b, getBank_ok.2 ⟨rfl, rfl⟩, bind_ok.2 ⟨(), _, hcpi, ?_⟩⟩
      rw [if_neg (not_not_intro hsame)]
      rfl
    have hpb : (withoutStaged k s.info.preparedBy (b.withAccounts s₁)).lamports s.info.preparedBy =
        s₁.lamports s.info.preparedBy + s₁.lamports k :=
      withoutStaged_preparedBy h.preparedBy_ne_staged
    rw [hsame] at hpaid
    refine ⟨_, closeStagedOutbound_of_refund h hrefund, ⟨Function.update_self .., ?_⟩, nofun,
      fun _ => ⟨hnative, ?_⟩, ?_, fun _ _ => ?_⟩
    · rw [withoutStaged_tokens, Bank.withAccounts_tokens, htokens, Function.update_self]
    · rw [hsame, hpb, hpaid]
      exact Nat.le_trans (Nat.add_le_add_left hcovered _) (Nat.le_add_right _ _)
    · rw [hpb, hpaid]
      exact Nat.add_le_add (Nat.add_le_add_left (Nat.sub_le _ _) _) hk
    · rw [hpb, hpaid]
      exact Nat.add_le_add_left hk _
  · have hplain := hsender.resolve_left hsame
    have hno : s₁.tokens s.info.sender = none := by
      rw [htokens, Function.update_of_ne hcustody]
      exact hplain.token
    have henough : b.lamports (d.stagedCustody k) - c.amount ≤ s₁.lamports s.info.sender := by
      rw [hpaid]
      exact Nat.le_trans (Nat.sub_le _ _) (Nat.le_add_left _ _)
    have hrefund : refundCustody d ⟨s.info.sender, targetPeer, k, none⟩ s c b =
        .ok ((), b.withAccounts (s₁.moveLamports s.info.sender s.info.preparedBy
          (b.lamports (d.stagedCustody k) - c.amount))) := by
      refine bind_ok.2 ⟨b, b, getBank_ok.2 ⟨rfl, rfl⟩, bind_ok.2 ⟨(), _, hcpi, ?_⟩⟩
      rw [if_pos hsame]
      exact systemTransfer_ok.2 ⟨⟨hno, hplain.record⟩, henough, rfl⟩
    have hrent : s₁.lamports k ≤ (s₁.moveLamports s.info.sender s.info.preparedBy
      (b.lamports (d.stagedCustody k) - c.amount)).lamports k :=
      (Kept.moveLamports hstaged.symm).lamports
    refine ⟨_, closeStagedOutbound_of_refund h hrefund, ⟨Function.update_self .., ?_⟩, nofun,
      fun _ => ⟨hnative, ?_⟩, ?_, fun _ he => absurd he hsame⟩
    · rw [withoutStaged_tokens, Bank.withAccounts_tokens, Accounts.moveLamports_tokens, htokens,
        Function.update_self]
    · refine Nat.le_trans ?_ (withoutStaged_le hstaged)
      rw [Bank.withAccounts_lamports, Accounts.moveLamports_src _ hsame, hpaid]
      show b.accounts.lamports _ + _ ≤ b.accounts.lamports _ + b.accounts.lamports _ - (_ - _)
      change c.amount ≤ b.accounts.lamports (d.stagedCustody k) at hcovered
      change _ ≤ _ + _ - (b.accounts.lamports (d.stagedCustody k) - _)
      omega
    · rw [withoutStaged_preparedBy h.preparedBy_ne_staged, Bank.withAccounts_lamports,
        Accounts.moveLamports_dst _ hsame, hprincipal]
      change b.lamports s.info.preparedBy ≤ _ at hp
      change b.lamports k ≤ _ at hk
      omega

end Close

/-! ## Along a run -/

section Run

variable {d : Deployment} {a : StageOutbound} {args : StageOutboundArgs} {b b₀ b₁ : Bank}

/-- What an open staging still has, wherever it stands. -/
theorem Standing.of_open {s₀ s : StagedOutbound} {old : List MarketOrder}
    (hs : Standing d a s₀ old b) (hopen : b.outbound a.stagedOutbound = some s) :
    ∃ c, CustodyOf d a b c ∧ b.peers a.targetPeer ≠ none ∧ s.info.sender = s₀.info.sender ∧
      s.info.preparedBy = s₀.info.preparedBy := by
  cases hs with
  | fresh c staged custody registered orders =>
    cases staged.symm.trans hopen
    exact ⟨c, custody, registered, rfl, rfl⟩
  | spent c o staged custody registered mint orders carries =>
    cases staged.symm.trans hopen
    exact ⟨c, custody, registered, rfl, rfl⟩
  | closed new closed orders once carries => cases closed.outbound.symm.trans hopen

/-- A token account of the sender, for the mint that was staged. -/
structure DestinationToken (d : Deployment) (a : StageOutbound) (s : StagedOutbound) (b : Bank)
    (dest : Pubkey) (t : TokenAccount Pubkey) : Prop where
  token : b.tokens dest = some t
  program : t.program = a.srcTokenProgram
  mint : t.mint = a.srcMint
  owner : t.owner = s.info.sender
  other : dest ≠ d.stagedCustody a.stagedOutbound

/-- **A staging can be cancelled iff its mint is one of the original token program.** At every
point of every run from a successful `stage_outbound` at which the staged account is open and the
sender has a token account for the mint, the recorded sender has a close that returns everything
iff the source token program is the original one; a staging of native tokens can then also be
closed into lamports, iff the sender can pass the rent on to another payer: a key without data. -/
theorem cancel_iff {x : Externals} (h : stageOutbound d x a args b = .ok ((), b₀)) :
    ∃ g : StagedAs d a args b b₀, ∀ (is : List (Externals × Act)) (s : StagedOutbound),
      (run (step d a.stagedOutbound) is b₀).outbound a.stagedOutbound = some s →
      s.info.sender = g.sender ∧ s.info.preparedBy = a.payer ∧
      (∀ dest t, DestinationToken d a s (run (step d a.stagedOutbound) is b₀) dest t →
        (Cancellable d a.stagedOutbound s (run (step d a.stagedOutbound) is b₀) ↔
          a.srcTokenProgram = .token)) ∧
      (a.srcTokenProgram = .token → a.srcMint = d.nativeMint →
        ((∃ c b', closeStagedOutbound d ⟨s.info.sender, a.targetPeer, a.stagedOutbound, none⟩
            (run (step d a.stagedOutbound) is b₀) = .ok ((), b') ∧
          Returned d a.stagedOutbound s none c (run (step d a.stagedOutbound) is b₀) b') ↔
          s.info.sender = s.info.preparedBy ∨
            (run (step d a.stagedOutbound) is b₀).Plain s.info.sender)) := by
  obtain ⟨g⟩ := stageOutbound_ok h
  refine ⟨g, fun is s hopen => ?_⟩
  have hs := standing_run (standing_stageOutbound g) is
  obtain ⟨c, hc, hregistered, hsender, hprepared⟩ := hs.of_open hopen
  have hpayer : s.info.preparedBy = a.payer := hprepared
  have horder : a.srcTokenProgram = .token → InOrder d a.stagedOutbound a.targetPeer s c
      (run (step d a.stagedOutbound) is b₀) := fun hprogram =>
    ⟨hopen, hregistered, hc.token, hc.program.trans hprogram, hc.owner, hc.delegate, hc.covered,
      g.staged_ne_custody, hpayer ▸ g.payer_ne_staged, hpayer ▸ g.payer_ne_custody⟩
  refine ⟨hsender, hpayer, fun dest t ht => ⟨?_, fun hprogram => ?_⟩, ?_⟩
  · -- a close that succeeds has found an account of the original program
    rintro ⟨targetPeer, senderToken, c', b', -, hclose, -⟩
    obtain ⟨-, c'', -, hc'', hprogram, -⟩ := closeStagedOutbound_ok hclose
    obtain rfl : c'' = c := Option.some.inj (hc''.symm.trans hc.token)
    exact hc.program.symm.trans hprogram
  · obtain ⟨b', hclose, hreturned⟩ := close_into_token (horder hprogram) ht.token
      (ht.program.trans hc.program.symm) (ht.mint.trans hc.mint.symm) ht.owner ht.other
    exact ⟨a.targetPeer, some dest, c, b', hc.token, hclose, hreturned⟩
  · intro hprogram hnative
    constructor
    · rintro ⟨_, _, hclose, -⟩
      obtain ⟨s', -, hs', -, -, -, hpays, -⟩ := closeStagedOutbound_ok hclose
      obtain rfl : s' = s := Option.some.inj (hs'.symm.trans hopen)
      exact hpays rfl
    · intro hsender
      obtain ⟨b', hclose, hreturned⟩ := close_into_lamports (horder hprogram)
        (hc.mint.trans hnative) hsender
      exact ⟨c, b', hclose, hreturned⟩

end Run

namespace Sample

/-- A Token-2022 mint. -/
def mint2022 : Pubkey := key 13

/-- Tokens of Token-2022 are staged, and the sender cannot close the staging. -/
theorem token2022_not_cancellable :
    ∃ b₀ t, stageOutbound deployment (externals .token2022) (staging .token2022 mint2022)
        stagingArgs (bank .token2022 mint2022) = .ok ((), b₀) ∧
      b₀.tokens senderToken = some t ∧ t.program = .token2022 ∧ t.mint = mint2022 ∧
      t.owner = sender ∧
      ∀ targetPeer destination, ∃ e,
        closeStagedOutbound deployment ⟨sender, targetPeer, staged, destination⟩ b₀ = .error e := by
  have hrun : (stageOutbound deployment (externals .token2022) (staging .token2022 mint2022)
      stagingArgs (bank .token2022 mint2022)).toOption.map (fun r =>
        (r.2.tokens senderToken, (r.2.tokens (key 5)).map TokenAccount.program)) =
      some (some (account .token2022 mint2022 sender 900), some .token2022) := by decide +kernel
  obtain ⟨⟨u, b₀⟩, hok, hrest⟩ := Option.map_eq_some_iff.1 hrun
  obtain ⟨htoken, hcustody⟩ := Prod.mk.inj hrest
  refine ⟨b₀, _, toOption_eq_some.1 hok, htoken, rfl, rfl, rfl, fun targetPeer destination => ?_⟩
  cases hclose : closeStagedOutbound deployment ⟨sender, targetPeer, staged, destination⟩ b₀ with
  | error e => exact ⟨e, rfl⟩
  | ok r =>
    obtain ⟨s, c, -, hc, hprogram, -⟩ := closeStagedOutbound_ok hclose
    have hc' : b₀.tokens (key 5) = some c := hc
    rw [hc', Option.map_some, hprogram] at hcustody
    cases hcustody

/-- USDC can be cancelled. -/
theorem usdc_cancellable :
    ∃ b₀ s, stageOutbound deployment (externals .token) (staging .token usdc) stagingArgs
        (bank .token usdc) = .ok ((), b₀) ∧ Cancellable deployment staged s b₀ := by
  have hrun : (stageOutbound deployment (externals .token) (staging .token usdc) stagingArgs
      (bank .token usdc)).toOption.map (fun r => (r.2.outbound staged, r.2.tokens senderToken)) =
      some (some (stagedAccount (staging .token usdc) stagingArgs sender .direct),
        some (account .token usdc sender 900)) := by decide +kernel
  obtain ⟨⟨u, b₀⟩, hok, hrest⟩ := Option.map_eq_some_iff.1 hrun
  obtain ⟨hstaged, htoken⟩ := Prod.mk.inj hrest
  have hstage := toOption_eq_some.1 hok
  obtain ⟨g, hg⟩ := cancel_iff hstage
  obtain ⟨-, -, hiff, -⟩ := hg [] _ hstaged
  refine ⟨b₀, _, hstage, (hiff senderToken _ ⟨htoken, rfl, rfl, rfl, ?_⟩).2 rfl⟩
  decide

end Sample

end SwapLayer.Solana
