import SwapLayer.Solana.CompleteSwap

/-!
# Where a redemption sends the money

The six completions side by side. Whoever calls one, with whatever accounts and whatever route for
Jupiter: what the fill holds, and what it is swapped for, ends up in one of the places that the
message names (`Redeemed`).

The recipient of a message may be any key, also that of an account of the program. A swap is paid
from an account of the swap authority of its fill; if the recipient is that authority, its token
account is the one that the swap closes.

Results:
* `redeemed`: a completion that the recipient does not sign redeems the fill for him, or stages it.
* `Completion.takes`: a completion takes its fill, and writes at most the staged transfer that belongs
  to it.
-/

namespace SwapLayer.Solana

open ByteString Program SplToken Messages

/-! ## The completions -/

inductive Completion
  | transferDirect (a : CompleteTransferDirect)
  | transferRelay (a : CompleteTransferRelay)
  | transferPayload (a : CompleteTransferPayload)
  | swapDirect (a : CompleteSwap)
  | swapRelay (a : CompleteSwap)
  | swapPayload (a : CompleteSwapPayload)

namespace Completion

def instructionOr (e : Error) (d : Deployment) (x : Externals) : Completion → Instruction Unit
  | transferDirect a => completeTransferDirectOr e d x a
  | transferRelay a => completeTransferRelayOr e d x a
  | transferPayload a => completeTransferPayloadOr e d x a
  | swapDirect a => completeSwapDirectOr e d x a
  | swapRelay a => completeSwapRelayOr e d x a
  | swapPayload a => completeSwapPayloadOr e d x a

def instruction : Deployment → Externals → Completion → Instruction Unit := instructionOr .panic

def signers : Completion → List Pubkey
  | transferDirect a => [a.redeemer]
  | transferRelay a => [a.payer, a.redeemer]
  | transferPayload a => [a.payer, a.redeemer]
  | swapDirect a => [a.payer]
  | swapRelay a => [a.payer]
  | swapPayload a => [a.payer]

def consumeSwapLayerFill : Completion → ConsumeSwapLayerFill
  | transferDirect a => a.consumeSwapLayerFill
  | transferRelay a => a.consumeSwapLayerFill
  | transferPayload a => a.consumeSwapLayerFill
  | swapDirect a => a.consumeSwapLayerFill
  | swapRelay a => a.consumeSwapLayerFill
  | swapPayload a => a.consumeSwapLayerFill

def fill (c : Completion) : Pubkey := c.consumeSwapLayerFill.fill

end Completion

/-! ## Where the money is -/

/-- An account of an owner has received at least `n`. -/
def Received (k mint owner : Pubkey) (program : TokenProgram) (n : ℕ) (b b' : Bank) : Prop :=
  ∃ e e', TokenOf b k mint owner program e ∧ TokenOf b' k mint owner program e' ∧
    e.amount + n ≤ e'.amount

/-- The token accounts without the two of a swap. -/
def HandleCompleteSwap.closed (d : Deployment) (a : HandleCompleteSwap)
    (tokens : Pubkey → Option (TokenAccount Pubkey)) : Pubkey → Option (TokenAccount Pubkey) :=
  Function.update (Function.update tokens (a.srcSwapToken d) none) (a.dstSwapToken d) none

/-- How the output of a swap is paid: `n` of it to the recipient, `dust` USDC to the fee recipient,
and no tokens to anybody else. -/
inductive OutputPaid (d : Deployment) (a : HandleCompleteSwap) (fill : Pubkey) (m : SwapMessageV1)
    (n dust : ℕ) (b b' : Bank) : Prop
  /-- In lamports. -/
  | gas (native : isNative m.outputToken = true)
      (tokens : b'.tokens = a.closed d (credited b.tokens b.custodian.feeRecipientToken dust))
      (paid : n ≤ b'.lamports m.recipient)
      (gained : m.recipient ≠ fill → m.recipient ≠ a.srcSwapToken d →
        m.recipient ≠ a.dstSwapToken d → b.lamports m.recipient + n ≤ b'.lamports m.recipient)
  /-- In tokens, to the associated account of the recipient, who owns it. -/
  | token (other : isNative m.outputToken = false)
      (received : Received (d.associatedToken m.recipient a.dstMint a.dstTokenProgram) a.dstMint
        m.recipient a.dstTokenProgram n b b')
      (tokens : b'.tokens = a.closed d (credited
        (credited b.tokens b.custodian.feeRecipientToken dust)
        (d.associatedToken m.recipient a.dstMint a.dstTokenProgram) n))

/-- **What has become of a fill** with the message `m`. -/
inductive Redeemed (d : Deployment) (x : Externals) (fill : Pubkey) (f : PreparedFill)
    (m : SwapMessageV1) (p : Peer) (b b' : Bank) : Prop
  /-- All of the USDC is in the account of the recipient. -/
  | paid (mode : m.redeemMode = .direct) (output : m.outputToken = .usdc)
      (received : Received (recipientTokenAccount d m.recipient) d.usdcMint m.recipient .token
        f.amount b b')
      (tokens : b'.tokens = credited b.tokens (recipientTokenAccount d m.recipient) f.amount)
  /-- The USDC is in the account of the recipient, but for the fee of the relay. If a swap was asked
  for, its time limit has passed. -/
  | relayed (gasDropoff : Uint 4) (relayingFee : Uint 6)
      (mode : m.redeemMode = .relay gasDropoff relayingFee)
      (limit : m.outputToken ≠ .usdc →
        swapTimeLimitExceeded x f p.relayParams.swapTimeLimit = .ok ())
      (covered : (relayingFee : ℕ) ≤ f.amount)
      (received : Received (recipientTokenAccount d m.recipient) d.usdcMint m.recipient .token
        (f.amount - (relayingFee : ℕ)) b b')
      (tokens : b'.tokens = credited (credited b.tokens (recipientTokenAccount d m.recipient)
        (f.amount - (relayingFee : ℕ))) b.custodian.feeRecipientToken relayingFee)
  /-- All of the USDC is in the custody of a staged transfer to the recipient. -/
  | staged (sender : Fixed 32) (buf : Prefixed 2) (s : StagedInbound) (t : TokenAccount Pubkey)
      (mode : m.redeemMode = .payload sender buf) (output : m.outputToken = .usdc)
      (record : b'.inbound = Function.update b.inbound (d.stagedInbound fill) (some s))
      (recipient : s.recipient = m.recipient)
      (custody : s.custodyToken = d.stagedCustody (d.stagedInbound fill))
      (before : CustodyBefore d (d.stagedInbound fill) b t)
      (tokens : b'.tokens = Function.update b.tokens s.custodyToken
        (some { t with amount := t.amount + f.amount }))
  /-- The recipient has got what Jupiter paid, in the mint that was asked for and at least the limit
  of the message. -/
  | swapped (a : HandleCompleteSwap) (swap : OutputSwap) (reply : JupiterReply)
      (mode : ∀ sender buf, m.redeemMode ≠ .payload sender buf)
      (authority : a.swapAuthority = d.swapAuthority fill)
      (output : outputSwap d m.outputToken = some (a.dstMint, swap))
      (answered : ∃ call, x.jupiter call = some reply)
      (limit : (swap.limitAmount : ℕ) ≤ reply.dstAmount)
      (paid : OutputPaid d a fill m reply.dstAmount reply.srcAmount b b')
  /-- What Jupiter paid is in the custody of a staged transfer to the recipient. -/
  | swapStaged (a : HandleCompleteSwap) (swap : OutputSwap) (reply : JupiterReply)
      (sender : Fixed 32) (buf : Prefixed 2) (s : StagedInbound) (t : TokenAccount Pubkey)
      (mode : m.redeemMode = .payload sender buf)
      (authority : a.swapAuthority = d.stagedInbound fill)
      (output : outputSwap d m.outputToken = some (a.dstMint, swap))
      (answered : ∃ call, x.jupiter call = some reply)
      (limit : (swap.limitAmount : ℕ) ≤ reply.dstAmount)
      (record : b'.inbound = Function.update b.inbound (d.stagedInbound fill) (some s))
      (recipient : s.recipient = m.recipient) (custody : s.custodyToken = a.dstSwapToken d)
      (before : TokenOf b s.custodyToken a.dstMint (d.stagedInbound fill) a.dstTokenProgram t)
      (tokens : b'.tokens = Function.update (Function.update
        (credited b.tokens b.custodian.feeRecipientToken reply.srcAmount) (a.srcSwapToken d) none)
        s.custodyToken (some { t with amount := reply.dstAmount }))

section Redeemed

variable {d : Deployment} {x : Externals} {b b' : Bank} {u : Unit} {f : PreparedFill}
  {m : SwapMessageV1} {p : Peer}

theorem received_of_credited {k mint owner : Pubkey} {program : TokenProgram} {n : ℕ}
    {t : TokenAccount Pubkey} (ht : TokenOf b k mint owner program t)
    (h : b'.tokens = credited b.tokens k n) : Received k mint owner program n b b' := by
  refine ⟨t, { t with amount := t.amount + n }, ht, ⟨?_, ht.program, ht.mint, ht.owner⟩,
    Nat.le_refl _⟩
  rw [h]
  exact credited_self ht.token

/-- Whoever gets a credit as well. -/
theorem received_of_credited_twice {k k' mint owner : Pubkey} {program : TokenProgram} {n n' : ℕ}
    {t : TokenAccount Pubkey} (ht : TokenOf b k mint owner program t)
    (h : b'.tokens = credited (credited b.tokens k n) k' n') :
    Received k mint owner program n b b' := by
  obtain ⟨r, hle, hr⟩ : ∃ r, t.amount + n ≤ r ∧ credited (credited b.tokens k n) k' n' k =
    some { t with amount := r } := credited_grows (credited_self ht.token)
  refine ⟨t, { t with amount := r }, ht, ⟨?_, ht.program, ht.mint, ht.owner⟩, hle⟩
  rw [h]
  exact hr

/-! ### The fill -/

/-- What a completion does to the accounts of the program. -/
structure Takes (d : Deployment) (fill : Pubkey) (b b' : Bank) : Prop where
  fills : b'.fills = Function.update b.fills fill none
  inbound : b'.inbound = b.inbound ∨
    ∃ s, b'.inbound = Function.update b.inbound (d.stagedInbound fill) (some s)

theorem SwapCompleted.takes {a : CompleteSwap} {s t : TokenAccount Pubkey} {reply : JupiterReply}
    {inAmount gasDropoff : ℕ} {b₁ : Bank}
    (h : SwapCompleted d x a f m p s t reply inAmount gasDropoff b b₁ b') :
    Takes d a.consumeSwapLayerFill.fill b b' := by
  have hsame := h.swapped.state.trans _ _ _ (payRecipient_sameState _ _ _ _ _ _ _ h.paid)
  exact ⟨hsame.fills, .inl hsame.inbound⟩

/-- **A completion takes the fill of its message**, and writes at most its own staged transfer. -/
theorem Completion.takes {c : Completion} (h : c.instruction d x b = .ok (u, b')) :
    (∃ f m p, c.consumeSwapLayerFill.Loads b f m p) ∧ Takes d c.fill b b' := by
  cases c with
  | transferDirect a =>
    obtain ⟨f, m, p, t, hloads, -, -, -, -, -, rfl⟩ := completeTransferDirect_ok.1 h
    exact ⟨⟨f, m, p, hloads⟩, rfl, .inl rfl⟩
  | transferRelay a =>
    obtain ⟨f, m, p, t, e, _, _, n, hchecked, -, -, -, hrelayed⟩ := completeTransferRelay_ok h
    exact ⟨⟨f, m, p, hchecked.loads⟩, hrelayed.fills, .inl hrelayed.inbound⟩
  | transferPayload a =>
    obtain ⟨f, m, p, _, _, t, s, hloads, -, -, -, -, -, hstaged⟩ := completeTransferPayload_ok h
    exact ⟨⟨f, m, p, hloads⟩, hstaged.fills, .inr ⟨s, hstaged.inbound⟩⟩
  | swapDirect a =>
    obtain ⟨f, m, p, s, t, reply, b₁, -, hcompleted⟩ := completeSwapDirect_ok h
    exact ⟨⟨f, m, p, hcompleted.loads⟩, hcompleted.takes⟩
  | swapRelay a =>
    obtain ⟨f, m, p, s, t, reply, b₁, _, _, _, _, -, -, hcompleted, -⟩ := completeSwapRelay_ok h
    exact ⟨⟨f, m, p, hcompleted.loads⟩, hcompleted.takes⟩
  | swapPayload a =>
    obtain ⟨f, m, p, staged, s, t, reply, hstaged⟩ := completeSwapPayload_ok h
    exact ⟨⟨f, m, p, hstaged.loads⟩, hstaged.fills, .inr ⟨staged, hstaged.inbound⟩⟩

/-- The fill that is there is the one that is taken. -/
theorem Completion.loads {c : Completion} (h : c.instruction d x b = .ok (u, b'))
    (hfill : b.fills c.fill = some f) (hmessage : SwapMessageV1.readSlice f.redeemerMessage = .ok m) :
    ∃ p, c.consumeSwapLayerFill.Loads b f m p := by
  obtain ⟨⟨f', m', p, hloads⟩, -⟩ := Completion.takes h
  obtain rfl := Option.some.inj (hfill.symm.trans hloads.fill)
  obtain rfl := Except.ok.inj (hmessage.symm.trans hloads.message)
  exact ⟨p, hloads⟩

/-! ### Transfers -/

theorem redeemed_transferDirect {a : CompleteTransferDirect}
    (hloads : a.consumeSwapLayerFill.Loads b f m p) (hsigner : m.recipient ≠ a.redeemer)
    (h : completeTransferDirect d x a b = .ok (u, b')) :
    Redeemed d x a.consumeSwapLayerFill.fill f m p b b' := by
  obtain ⟨f', m', p', t, hloads', ht, hrecipient, hredeemer, hmode, -, rfl⟩ :=
    completeTransferDirect_ok.1 h
  obtain ⟨rfl, rfl, -⟩ := hloads.unique hloads'
  have hout := hredeemer.resolve_right fun he => hsigner (hrecipient.symm.trans he.symm)
  rw [hrecipient] at ht
  rw [hrecipient]
  have htokens := ConsumeSwapLayerFill.consumed_credited (a := a.consumeSwapLayerFill)
    (n := f.amount) ht.token
  exact .paid hmode hout (received_of_credited ht htokens) htokens

theorem redeemed_transferRelay {a : CompleteTransferRelay}
    (hloads : a.consumeSwapLayerFill.Loads b f m p) (hsigner : m.recipient ≠ a.redeemer)
    (h : completeTransferRelay d x a b = .ok (u, b')) :
    Redeemed d x a.consumeSwapLayerFill.fill f m p b b' := by
  obtain ⟨f', m', p', t, e, gasDropoff, relayingFee, n, hchecked, hmode, -, hn, hrelayed⟩ :=
    completeTransferRelay_ok h
  obtain ⟨rfl, rfl, rfl⟩ := hloads.unique hchecked.loads
  have hother : a.redeemer ≠ a.recipient :=
    fun he => hsigner (hchecked.recipient.symm.trans he.symm)
  rw [if_neg hother] at hn
  obtain ⟨hcovered, rfl⟩ := hn
  have ht := hchecked.account
  have htokens := hrelayed.tokens
  rw [Nat.sub_sub_self hcovered] at htokens
  rw [hchecked.recipient] at ht htokens
  exact .relayed gasDropoff relayingFee hmode (fun hout => hchecked.timeLimit hout hother) hcovered
    (received_of_credited_twice ht htokens) htokens

theorem redeemed_transferPayload {a : CompleteTransferPayload}
    (hloads : a.consumeSwapLayerFill.Loads b f m p) (hsigner : m.recipient ≠ a.redeemer)
    (h : completeTransferPayload d x a b = .ok (u, b')) :
    Redeemed d x a.consumeSwapLayerFill.fill f m p b b' := by
  obtain ⟨f', m', p', sender, buf, t, s, hloads', hmode, hredeemer, -, hbefore, rfl, hstaged⟩ :=
    completeTransferPayload_ok h
  obtain ⟨rfl, rfl, -⟩ := hloads.unique hloads'
  have hout := hredeemer.resolve_right fun he => hsigner he.symm
  exact .staged sender buf _ t hmode hout hstaged.inbound rfl rfl hbefore hstaged.tokens

/-! ### Swaps -/

section Swap

variable {a : CompleteSwap} {s t : TokenAccount Pubkey} {reply : JupiterReply}
  {inAmount gasDropoff : ℕ} {b₁ : Bank}

/-- The token accounts between the swap and the payment of its output. -/
theorem SwapCompleted.tokens
    (h : SwapCompleted d x a f m p s t reply inAmount gasDropoff b b₁ b') :
    b₁.tokens = Function.update (Function.update
      (credited b.tokens b.custodian.feeRecipientToken reply.srcAmount)
      ((a.accounts d).srcSwapToken d) none) ((a.accounts d).dstSwapToken d)
      (some { t with amount := reply.dstAmount }) := by
  rw [h.swapped.tokens, ConsumeSwapLayerFill.consumed_custodian,
    ConsumeSwapLayerFill.consumed_tokens, update_credited_update]

/-- Who is not an account of the swap has lost no lamports. -/
theorem SwapCompleted.lamports
    (h : SwapCompleted d x a f m p s t reply inAmount gasDropoff b b₁ b') {k : Pubkey}
    (hfill : k ≠ a.consumeSwapLayerFill.fill) (hsrc : k ≠ (a.accounts d).srcSwapToken d)
    (hdst : k ≠ (a.accounts d).dstSwapToken d) : b.lamports k ≤ b₁.lamports k := by
  refine Nat.le_trans ?_ (h.swapped.lamports k hsrc hdst)
  exact (Kept.moveLamports (s := b.accounts.setToken _ _) hfill).lamports

theorem SwapCompleted.gas (h : SwapCompleted d x a f m p s t reply inAmount gasDropoff b b₁ b')
    (hpayer : m.recipient ≠ a.payer) (hnative : isNative m.outputToken = true) :
    OutputPaid d (a.accounts d) a.consumeSwapLayerFill.fill m reply.dstAmount reply.srcAmount b b' := by
  have hpaid := h.paid
  rw [payRecipient_native hnative, h.recipient] at hpaid
  obtain ⟨htokens, ⟨c, hc, hlamports⟩, -⟩ := payGas_ok hpaid
  have hgain : b'.lamports m.recipient = c.lamports m.recipient + (reply.dstAmount + gasDropoff) :=
    (congrFun hlamports _).trans (Accounts.moveLamports_dst _ (Ne.symm hpayer) _)
  refine .gas hnative ?_ (by omega) fun hfill hsrc hdst => ?_
  · rw [htokens, h.tokens, Function.update_idem]
    rfl
  · have hbefore := h.lamports hfill hsrc hdst
    have hclosed : b₁.lamports m.recipient ≤ c.lamports m.recipient := by
      rw [hc]
      exact (Kept.moveLamports hdst).lamports
    omega

/-- What the destination holds when the output is paid. -/
theorem SwapCompleted.destination
    (h : SwapCompleted d x a f m p s t reply inAmount gasDropoff b b₁ b') :
    TokenOf b₁ ((a.accounts d).dstSwapToken d) a.dstMint (a.accounts d).swapAuthority
      a.dstTokenProgram { t with amount := reply.dstAmount } := by
  refine ⟨?_, h.accounts.dst.program, h.accounts.dst.mint, h.accounts.dst.owner⟩
  rw [h.tokens, Function.update_self]

/-- The source is gone when the output is paid. -/
theorem SwapCompleted.ne_source
    (h : SwapCompleted d x a f m p s t reply inAmount gasDropoff b b₁ b') {k : Pubkey}
    {e : TokenAccount Pubkey} (hk : b₁.tokens k = some e) : (a.accounts d).srcSwapToken d ≠ k := by
  rintro rfl
  rw [h.tokens, Function.update_of_ne h.accounts.ne, Function.update_self] at hk
  cases hk

/-- Any other account was there before the swap. -/
theorem SwapCompleted.before
    (h : SwapCompleted d x a f m p s t reply inAmount gasDropoff b b₁ b') {k : Pubkey}
    {e : TokenAccount Pubkey} (hk : b₁.tokens k = some e) (hdst : (a.accounts d).dstSwapToken d ≠ k) :
    credited b.tokens b.custodian.feeRecipientToken reply.srcAmount k = some e := by
  have hsrc := h.ne_source hk
  rwa [h.tokens, Function.update_of_ne hdst.symm, Function.update_of_ne hsrc.symm] at hk

/-- It was an account of the same owner, with no more in it. -/
theorem SwapCompleted.tokenOf_before
    (h : SwapCompleted d x a f m p s t reply inAmount gasDropoff b b₁ b') {k mint owner : Pubkey}
    {program : TokenProgram} {e : TokenAccount Pubkey} (hk : TokenOf b₁ k mint owner program e)
    (hdst : (a.accounts d).dstSwapToken d ≠ k) :
    ∃ e₀, TokenOf b k mint owner program e₀ ∧ e₀.amount ≤ e.amount := by
  obtain ⟨e₀, he₀, hle, hsame⟩ := credited_eq_some (h.before hk.token hdst)
  refine ⟨e₀, ⟨he₀, ?_, ?_, ?_⟩, hle⟩
  · exact (congrArg TokenAccount.program hsame).symm.trans hk.program
  · exact (congrArg TokenAccount.mint hsame).symm.trans hk.mint
  · exact (congrArg TokenAccount.owner hsame).symm.trans hk.owner

/-- The token accounts after other tokens were paid to the recipient. -/
theorem SwapCompleted.tokenPaid
    (h : SwapCompleted d x a f m p s t reply inAmount gasDropoff b b₁ b')
    (hne : (a.accounts d).dstSwapToken d ≠ a.recipientToken d)
    (hother : isNative m.outputToken = false) :
    ∃ e, TokenOf b₁ (a.recipientToken d) a.dstMint a.recipient a.dstTokenProgram e ∧
      b'.tokens = (a.accounts d).closed d (credited
        (credited b.tokens b.custodian.feeRecipientToken reply.srcAmount) (a.recipientToken d)
        reply.dstAmount) := by
  have hpaid := h.paid
  rw [payRecipient_other hother] at hpaid
  obtain ⟨e, he, htokens, -⟩ := payToken_ok h.destination hne hpaid
  refine ⟨e, he, ?_⟩
  rw [htokens, h.tokens, credited_update hne, credited_update (h.ne_source he.token),
    Function.update_idem]
  rfl

theorem SwapCompleted.token (h : SwapCompleted d x a f m p s t reply inAmount gasDropoff b b₁ b')
    (hauthority : m.recipient ≠ d.swapAuthority a.consumeSwapLayerFill.fill)
    (hother : isNative m.outputToken = false) :
    OutputPaid d (a.accounts d) a.consumeSwapLayerFill.fill m reply.dstAmount reply.srcAmount b b' := by
  have hpaid := h.paid
  rw [payRecipient_other hother] at hpaid
  have hne : (a.accounts d).dstSwapToken d ≠ a.recipientToken d :=
    payToken_ne h.destination (h.recipient ▸ hauthority) hpaid
  obtain ⟨e, he, htokens⟩ := h.tokenPaid hne hother
  have hrecipient : d.associatedToken m.recipient a.dstMint a.dstTokenProgram = a.recipientToken d := by
    rw [← h.recipient]
    rfl
  have hsrc : a.recipientToken d ≠ (a.accounts d).srcSwapToken d := (h.ne_source he.token).symm
  obtain ⟨e₀, he₀, hle⟩ := h.tokenOf_before he hne
  have hafter : b'.tokens (a.recipientToken d) =
      some { e with amount := e.amount + reply.dstAmount } := by
    rw [htokens, HandleCompleteSwap.closed, Function.update_of_ne hne.symm,
      Function.update_of_ne hsrc]
    exact credited_self (h.before he.token hne)
  refine .token hother ?_ ?_
  · show Received (d.associatedToken m.recipient a.dstMint a.dstTokenProgram) _ _ _ _ _ _
    rw [hrecipient, ← h.recipient]
    exact ⟨e₀, _, he₀, ⟨hafter, he.program, he.mint, he.owner⟩, Nat.add_le_add_right hle _⟩
  · show b'.tokens = (a.accounts d).closed d (credited _ (d.associatedToken m.recipient a.dstMint
      a.dstTokenProgram) _)
    rw [hrecipient, htokens]

/-- A swap that somebody else completes is the swap of the message. -/
theorem SwapCompleted.redeemed
    (h : SwapCompleted d x a f m p s t reply inAmount gasDropoff b b₁ b')
    (hmode : ∀ sender buf, m.redeemMode ≠ .payload sender buf) (hpayer : m.recipient ≠ a.payer)
    (hauthority : m.recipient ≠ d.swapAuthority a.consumeSwapLayerFill.fill) :
    Redeemed d x a.consumeSwapLayerFill.fill f m p b b' := by
  obtain ⟨requested, hrequested, hlimit⟩ := h.requested
  obtain ⟨call, -, -, -, hj⟩ := h.swapped.answered
  cases hout : outputSwap d m.outputToken with
  | none =>
    obtain ⟨r, hr, hself⟩ := requestedSwap_none hout hrequested
    cases hr
    exact absurd (h.recipient.symm.trans hself.symm) hpayer
  | some r =>
    obtain ⟨mint, swap⟩ := r
    obtain ⟨parameters, rfl⟩ := requestedSwap_some hout hrequested
    have hvalid := (isValidOutputSwap_ok.1 h.valid).2 mint swap hout
    refine .swapped (a.accounts d) swap reply hmode rfl (by rw [hout, ← hvalid.mint]; rfl) ⟨call, hj⟩
      (hlimit _ _ rfl) ?_
    cases hnative : isNative m.outputToken with
    | true => exact h.gas hpayer hnative
    | false => exact h.token hauthority hnative

end Swap

theorem redeemed_swapPayload {a : CompleteSwapPayload}
    (hloads : a.consumeSwapLayerFill.Loads b f m p)
    (h : completeSwapPayload d x a b = .ok (u, b')) :
    Redeemed d x a.consumeSwapLayerFill.fill f m p b b' := by
  obtain ⟨f', m', p', staged, s, t, reply, hstaged⟩ := completeSwapPayload_ok h
  obtain ⟨rfl, rfl, -⟩ := hloads.unique hstaged.loads
  obtain ⟨sender, buf, hmode, rfl⟩ := hstaged.state
  obtain ⟨mint, swap, hout, hlimit⟩ := hstaged.limit
  have hvalid := (isValidOutputSwap_ok.1 hstaged.valid).2 mint swap hout
  exact .swapStaged (a.accounts d) swap reply sender buf _ t hmode rfl
    (by rw [hout, ← hvalid.mint]; rfl) hstaged.answered hlimit hstaged.inbound rfl rfl
    hstaged.accounts.dst hstaged.tokens

/-! ### All of them -/

/-- **Who is not the recipient redeems a fill for the recipient**, whatever the instruction, the
accounts and the route. -/
theorem redeemed {c : Completion} (hfill : b.fills c.fill = some f)
    (hmessage : SwapMessageV1.readSlice f.redeemerMessage = .ok m)
    (hsigners : m.recipient ∉ c.signers) (hauthority : m.recipient ≠ d.swapAuthority c.fill)
    (h : c.instruction d x b = .ok (u, b')) :
    ∃ p, b.peers f.sourceChain = some p ∧ Redeemed d x c.fill f m p b b' := by
  obtain ⟨p, hloads⟩ := Completion.loads h hfill hmessage
  refine ⟨p, hloads.chain ▸ hloads.peer, ?_⟩
  cases c with
  | transferDirect a =>
    exact redeemed_transferDirect hloads (List.ne_of_not_mem_cons hsigners) h
  | transferRelay a =>
    exact redeemed_transferRelay hloads
      (List.ne_of_not_mem_cons (List.not_mem_of_not_mem_cons hsigners)) h
  | transferPayload a =>
    exact redeemed_transferPayload hloads
      (List.ne_of_not_mem_cons (List.not_mem_of_not_mem_cons hsigners)) h
  | swapDirect a =>
    obtain ⟨f', m', p', s, t, reply, b₁, hmode, hcompleted⟩ := completeSwapDirect_ok h
    obtain ⟨rfl, rfl, rfl⟩ := hloads.unique hcompleted.loads
    exact hcompleted.redeemed (by rw [hmode]; exact nofun) (List.ne_of_not_mem_cons hsigners)
      hauthority
  | swapRelay a =>
    obtain ⟨f', m', p', s, t, reply, b₁, _, _, _, _, hmode, -, hcompleted, -⟩ :=
      completeSwapRelay_ok h
    obtain ⟨rfl, rfl, rfl⟩ := hloads.unique hcompleted.loads
    exact hcompleted.redeemed (by rw [hmode]; exact nofun) (List.ne_of_not_mem_cons hsigners)
      hauthority
  | swapPayload a => exact redeemed_swapPayload hloads h

end Redeemed

end SwapLayer.Solana
