import SwapLayer.Solana.FeeFormula
import SwapLayer.Solana.InboundRuns

/-!
# The books of a relay

Where the money of a relayed fill goes, in both completions, to the last unit. The caller who is
compared with the recipient is the redeemer of a transfer and the payer of a swap; if they differ he
is charged the gas dropoff of the message and is owed its fee.

A transfer splits what the account of the fill holds. A swap keeps the fee back instead: Jupiter is
asked for the rest, and what it leaves of the source goes to the fee recipient. Both come to the
same as long as Jupiter spends at most what it was asked to (`SpendsAtMost`).

Lamports are accounted for as movements; besides the dropoff and a swap for gas only rents move,
and the wrapped lamports of the destination of a swap.

Results:
* `completeTransferRelay_accounted`, `completeSwapRelay_accounted`: the books after a success.
* `relay_accounting`: both, and that a fee which is not covered lets the instruction fail.
-/

namespace SwapLayer.Solana

open ByteString Program SplToken Messages

/-! ## The books -/

/-- Only a caller who is not the recipient is charged. -/
def charged (caller recipient : Pubkey) (n : ℕ) : ℕ := if caller = recipient then 0 else n

/-- The fill of a completion comes with the message. -/
def FillCarries (c : ConsumeSwapLayerFill) (b : Bank) (m : SwapMessageV1) : Prop :=
  ∃ f, b.fills c.fill = some f ∧ SwapMessageV1.readSlice f.redeemerMessage = .ok m

/-- Jupiter spends at most what it is asked to swap. -/
def SpendsAtMost (x : Externals) : Prop :=
  ∀ call reply, x.jupiter call = some reply →
    ∃ spent, spent ≤ call.args.inAmount ∧ reply.srcAmount + spent = call.srcAmount

/-- **The books of a relayed transfer** of `amount`, charged with `dropoff` and `fee`. -/
structure TransferAccounted (d : Deployment) (a : CompleteTransferRelay) (m : SwapMessageV1)
    (amount dropoff fee : ℕ) (b b' : Bank) : Prop where
  addressee : a.recipient = m.recipient
  covered : fee ≤ amount
  recipient : ∃ e, TokenOf b (recipientTokenAccount d a.recipient) d.usdcMint a.recipient .token e
  feeRecipient : ∃ e, b.tokens b.custodian.feeRecipientToken = some e
  tokens : b'.tokens = credited (credited b.tokens (recipientTokenAccount d a.recipient)
    (amount - fee)) b.custodian.feeRecipientToken fee
  emptied : b'.tokens (a.completeToken d) = none
  lamports : ∃ opening fillRent closing, Ledger.Moves b.lamports b'.lamports
    (Pi.single (a.completeToken d) opening + Pi.single a.consumeSwapLayerFill.beneficiary fillRent +
      Pi.single a.recipient dropoff + Pi.single a.payer closing)
    (Pi.single a.payer opening + Pi.single a.consumeSwapLayerFill.fill fillRent +
      Pi.single a.payer dropoff + Pi.single (a.completeToken d) closing)

/-- What of an output is paid in lamports. -/
def gasOutput (m : SwapMessageV1) (n : ℕ) : ℕ := if isNative m.outputToken = true then n else 0

/-- What of an output is paid in tokens. -/
def tokenOutput (m : SwapMessageV1) (n : ℕ) : ℕ := if isNative m.outputToken = true then 0 else n

/-- Tokens of the native mint carry their lamports along. -/
def wrapped (d : Deployment) (mint : Pubkey) (n : ℕ) : ℕ := if mint = d.nativeMint then n else 0

/-- **The books of a relayed swap** of what the source holds, `amount`: all of it but `fee` was to be
swapped, `spent` was, and `amountOut` was paid for it. -/
structure SwapAccounted (d : Deployment) (x : Externals) (a : CompleteSwap) (m : SwapMessageV1)
    (amount dropoff fee spent amountOut : ℕ) (b b' : Bank) : Prop where
  addressee : a.recipient = m.recipient
  covered : fee ≤ amount
  swapped : ∃ call reply, x.jupiter call = some reply ∧ call.args.inAmount = amount - fee ∧
    call.srcAmount = amount ∧ reply.srcAmount = amount - spent ∧ reply.dstAmount = amountOut
  spent_le : spent ≤ amount - fee
  residual : fee ≤ amount - spent
  recipient : 0 < tokenOutput m amountOut → (a.accounts d).Stays d b (a.recipientToken d) ∧
    ∃ e, TokenOf b (a.recipientToken d) a.dstMint a.recipient a.dstTokenProgram e
  feeRecipient : 0 < amount - spent → (a.accounts d).Stays d b b.custodian.feeRecipientToken
  tokens : b'.tokens = (a.accounts d).closed d (credited
    (credited b.tokens b.custodian.feeRecipientToken (amount - spent)) (a.recipientToken d)
    (tokenOutput m amountOut))
  emptied : b'.tokens ((a.accounts d).srcSwapToken d) = none
  lamports : ∃ fillRent rent payout i o, Ledger.Moves b.lamports b'.lamports
    (Pi.single a.recipient (gasOutput m amountOut + dropoff) +
      Pi.single (a.recipientToken d) (wrapped d a.dstMint (tokenOutput m amountOut)) +
      Pi.single a.consumeSwapLayerFill.beneficiary fillRent + Pi.single a.payer (rent + payout) +
      Pi.single ((a.accounts d).dstSwapToken d) i)
    (Pi.single a.payer (gasOutput m amountOut + dropoff) +
      Pi.single a.consumeSwapLayerFill.fill fillRent +
      Pi.single ((a.accounts d).srcSwapToken d) rent +
      Pi.single ((a.accounts d).dstSwapToken d) (o + payout))

/-- Wrapped lamports for the authority of the swap itself: the account they are to be paid to is the
one that is closed. -/
def PaysItself (d : Deployment) (a : CompleteSwap) (m : SwapMessageV1) : Prop :=
  (∃ swap, m.outputToken = .other d.nativeMint swap) ∧
    m.recipient = d.swapAuthority a.consumeSwapLayerFill.fill

section Books

variable {d : Deployment} {x : Externals} {b b' : Bank} {u : Unit} {m : SwapMessageV1}
  {caller recipient : Pubkey}

theorem charged_self (h : caller = recipient) (n : ℕ) : charged caller recipient n = 0 := if_pos h

theorem charged_other (h : caller ≠ recipient) (n : ℕ) : charged caller recipient n = n := if_neg h

/-- The message of a fill is the one that a completion has loaded. -/
theorem FillCarries.eq {c : ConsumeSwapLayerFill} {f : PreparedFill} {m' : SwapMessageV1} {p : Peer}
    (h : FillCarries c b m) (hloads : c.Loads b f m' p) : m' = m := by
  obtain ⟨f', hfill, hmessage⟩ := h
  obtain rfl := Option.some.inj (hfill.symm.trans hloads.fill)
  exact Except.ok.inj (hloads.message.symm.trans hmessage)

/-! ## Lamports -/

/-- The payer tops a new account up to the rent. -/
theorem opened_moves {k owner payer : Pubkey} (hrent : x.tokenRent - b.lamports k ≤ b.lamports payer) :
    Ledger.Moves b.lamports (opened d x k owner payer b).lamports
      (Pi.single k (x.tokenRent - b.lamports k)) (Pi.single payer (x.tokenRent - b.lamports k)) :=
  Accounts.moveLamports_moves hrent k

/-- The beneficiary gets the lamports of a fill that is consumed. -/
theorem consumed_moves (c : ConsumeSwapLayerFill) (dst : Pubkey) (t : TokenAccount Pubkey) (n : ℕ)
    (b : Bank) : Ledger.Moves b.lamports (c.consumed dst t n b).lamports
      (Pi.single c.beneficiary (b.lamports c.fill)) (Pi.single c.fill (b.lamports c.fill)) :=
  Accounts.moveLamports_moves (s := b.accounts.setToken dst _) (Nat.le_refl _) c.beneficiary

theorem close_moves {program : TokenProgram} {k authority destination : Pubkey}
    (h : cpi (closeAccount d.nativeMint program k destination authority) b = .ok (u, b')) :
    Ledger.Moves b.lamports b'.lamports (Pi.single destination (b.lamports k))
      (Pi.single k (b.lamports k)) := by
  obtain ⟨-, -, -, hlamports, -⟩ := close_tokens h
  rw [hlamports]
  exact Accounts.moveLamports_moves (Nat.le_refl _) destination

theorem payGasDropoff_moves {payer recipient : Pubkey} {gasDropoff : ℕ}
    (h : payGasDropoff payer recipient gasDropoff b = .ok (u, b')) :
    Ledger.Moves b.lamports b'.lamports (Pi.single recipient gasDropoff)
      (Pi.single payer gasDropoff) := by
  obtain ⟨⟨-, hle⟩, rfl⟩ := payGasDropoff_ok.1 h
  exact Accounts.moveLamports_moves hle recipient

section Output

variable {a : HandleCompleteSwap} {t : TokenAccount Pubkey} {r : RecipientAccounts}
  {n gasDropoff : ℕ}

theorem gasOutput_native (h : isNative m.outputToken = true) (n : ℕ) : gasOutput m n = n := if_pos h

theorem gasOutput_other (h : isNative m.outputToken = false) (n : ℕ) : gasOutput m n = 0 :=
  if_neg (by rw [h]; exact Bool.false_ne_true)

theorem tokenOutput_native (h : isNative m.outputToken = true) (n : ℕ) : tokenOutput m n = 0 :=
  if_pos h

theorem tokenOutput_other (h : isNative m.outputToken = false) (n : ℕ) : tokenOutput m n = n :=
  if_neg (by rw [h]; exact Bool.false_ne_true)

/-- Gas goes from the payer to the recipient, and the destination to the payer. -/
theorem payGas_moves {k : Pubkey} (h : payGas d a k n gasDropoff b = .ok (u, b')) :
    ∃ payout, Ledger.Moves b.lamports b'.lamports
      (Pi.single a.payer payout + Pi.single k (n + gasDropoff))
      (Pi.single (a.dstSwapToken d) payout + Pi.single a.payer (n + gasDropoff)) := by
  obtain ⟨b₁, hclose, hle, rfl⟩ := payGas_stages h
  exact ⟨_, (close_moves hclose).trans (Accounts.moveLamports_moves hle k)⟩

/-- Tokens go to the account of the recipient, the dropoff from the payer to the recipient, and the
destination to the payer. -/
theorem payToken_moves
    (ht : TokenOf b (a.dstSwapToken d) a.dstMint a.swapAuthority a.dstTokenProgram t)
    (h : payToken d a r n gasDropoff b = .ok (u, b')) :
    ∃ i o payout, Ledger.Moves b.lamports b'.lamports
      (Pi.single r.recipientToken (wrapped d a.dstMint n) + Pi.single (a.dstSwapToken d) i +
        Pi.single a.payer payout + Pi.single r.recipient gasDropoff)
      (Pi.single (a.dstSwapToken d) o + Pi.single (a.dstSwapToken d) payout +
        Pi.single a.payer gasDropoff) := by
  obtain ⟨e, b₁, b₂, -, -, hpay, hclose, hdropoff⟩ := payToken_stages h
  obtain ⟨_, hop, rfl⟩ := cpi_ok.1 hpay
  obtain ⟨i, o, hmoves⟩ := transfer_moves ht.token hop
  rw [ht.mint] at hmoves
  exact ⟨i, o, _, (hmoves.trans (close_moves hclose)).trans (payGasDropoff_moves hdropoff)⟩

/-- **The lamports of an output**, whatever is asked for. -/
theorem payRecipient_moves
    (ht : TokenOf b (a.dstSwapToken d) a.dstMint a.swapAuthority a.dstTokenProgram t)
    (h : payRecipient d a m (some r) n gasDropoff b = .ok (u, b')) :
    ∃ i o payout, Ledger.Moves b.lamports b'.lamports
      (Pi.single r.recipient (gasOutput m n + gasDropoff) +
        Pi.single r.recipientToken (wrapped d a.dstMint (tokenOutput m n)) +
        Pi.single a.payer payout + Pi.single (a.dstSwapToken d) i)
      (Pi.single a.payer (gasOutput m n + gasDropoff) + Pi.single (a.dstSwapToken d) (o + payout)) := by
  cases hnative : isNative m.outputToken with
  | true =>
    rw [payRecipient_native hnative] at h
    rw [gasOutput_native hnative, tokenOutput_native hnative]
    obtain ⟨payout, hmoves⟩ := payGas_moves h
    refine ⟨0, 0, payout, fun k => ?_⟩
    have hk := hmoves k
    have hzero : wrapped d a.dstMint 0 = 0 := ite_self 0
    simp only [Pi.add_apply, Ledger.single_add_apply, hzero, Pi.single_zero, Pi.zero_apply] at hk ⊢
    omega
  | false =>
    rw [payRecipient_other hnative] at h
    rw [gasOutput_other hnative, tokenOutput_other hnative]
    obtain ⟨i, o, payout, hmoves⟩ := payToken_moves ht h
    refine ⟨i, o, payout, fun k => ?_⟩
    have hk := hmoves k
    simp only [Pi.add_apply, Ledger.single_add_apply, Pi.single_zero, Pi.zero_apply] at hk ⊢
    omega

end Output

/-! ## Transfers -/

section Transfer

variable {a : CompleteTransferRelay} {gasDropoff : Uint 4} {relayingFee : Uint 6}

/-- What the recipient gets, and the dropoff that was paid for it. -/
theorem relayUserAmount_moves {dropoff fee amount n : ℕ}
    (h : relayUserAmount a dropoff fee amount b = .ok (n, b')) :
    charged a.redeemer a.recipient fee ≤ amount ∧
      n = amount - charged a.redeemer a.recipient fee ∧
      Ledger.Moves b.lamports b'.lamports
        (Pi.single a.recipient (charged a.redeemer a.recipient dropoff))
        (Pi.single a.payer (charged a.redeemer a.recipient dropoff)) := by
  by_cases hself : a.redeemer = a.recipient
  · obtain ⟨rfl, rfl⟩ := (relayUserAmount_self hself).1 h
    rw [charged_self hself, charged_self hself, Pi.single_zero, Pi.single_zero]
    exact ⟨Nat.zero_le _, rfl, .refl _⟩
  · obtain ⟨hfee, hle, rfl, rfl⟩ := (relayUserAmount_other hself).1 h
    rw [charged_other hself, charged_other hself]
    exact ⟨hfee, rfl, Accounts.moveLamports_moves hle.enough a.recipient⟩

/-- **A relayed transfer** leaves the books of what its account held. -/
theorem completeTransferRelay_accounted (hcarries : FillCarries a.consumeSwapLayerFill b m)
    (hmode : m.redeemMode = .relay gasDropoff relayingFee)
    (h : completeTransferRelay d x a b = .ok (u, b')) :
    ∃ amount b₁, a.consumeSwapLayerFill.consumePreparedFill d x (a.completeToken d)
        (opened d x (a.completeToken d) d.custodian a.payer b) = .ok (amount, b₁) ∧
      TransferAccounted d a m amount (charged a.redeemer a.recipient (1000 * gasDropoff))
        (charged a.redeemer a.recipient relayingFee) b b' := by
  obtain ⟨f, m', p, t, e, g, fee, n, b₁, hchecked, hmode', haccepts, hamount, hsettled⟩ :=
    completeTransferRelay_stages h
  obtain rfl := hcarries.eq hchecked.loads
  obtain ⟨rfl, rfl⟩ := RedeemMode.relay.inj (hmode.symm.trans hmode')
  obtain ⟨-, htokens₁, hsame⟩ := relayUserAmount_ok hamount
  obtain ⟨hcovered, rfl, hdropoff⟩ := relayUserAmount_moves hamount
  rw [denormalizeGasDropoff_eq gasDropoff.isLt] at hdropoff
  have htokens := hchecked.settled_tokens htokens₁ hsame.custodian hsettled
  rw [Nat.sub_sub_self hcovered] at htokens
  refine ⟨f.amount, relayConsumed d x a f b, (consumeRelay_ok hchecked).2 ⟨haccepts, rfl, rfl⟩,
    hchecked.recipient, hcovered, ⟨t, hchecked.account⟩, ⟨e, hchecked.feeRecipient⟩, htokens, ?_, ?_⟩
  · rw [htokens, credited_other (hchecked.complete_ne hchecked.feeRecipient),
      credited_other (hchecked.complete_ne hchecked.account.token), hchecked.fresh]
  · rw [hsettled.lamports]
    exact ⟨_, _, _, (((opened_moves hchecked.rent.enough).trans (consumed_moves _ _ _ _ _)).trans
      hdropoff).trans (Accounts.moveLamports_moves (Nat.le_refl _) a.payer)⟩

end Transfer

/-! ## Swaps -/

section Swap

variable {a : CompleteSwap} {f : PreparedFill} {p : Peer} {s t : TokenAccount Pubkey}
  {reply : JupiterReply} {inAmount dropoff : ℕ} {b₁ : Bank}

/-- Where the output went. If the recipient is the authority of the swap, its account is the
destination itself, and for other tokens than wrapped lamports there was no output. -/
theorem SwapCompleted.output
    (h : SwapCompleted d x a f m p s t reply inAmount dropoff b b₁ b')
    (hmode : m.redeemMode ≠ .direct) (hitself : ¬ PaysItself d a m) :
    (0 < tokenOutput m reply.dstAmount → (a.accounts d).Stays d b (a.recipientToken d) ∧
        ∃ e, TokenOf b (a.recipientToken d) a.dstMint a.recipient a.dstTokenProgram e) ∧
      b'.tokens = (a.accounts d).closed d (credited
        (credited b.tokens b.custodian.feeRecipientToken reply.srcAmount) (a.recipientToken d)
        (tokenOutput m reply.dstAmount)) := by
  have hpaid := h.paid
  cases hnative : isNative m.outputToken with
  | true =>
    rw [payRecipient_native hnative] at hpaid
    obtain ⟨htokens, -, -⟩ := payGas_ok hpaid
    rw [tokenOutput_native hnative, credited_zero, htokens, h.tokens, Function.update_idem]
    exact ⟨fun h => absurd h (Nat.lt_irrefl 0), rfl⟩
  | false =>
    rw [tokenOutput_other hnative]
    by_cases hdst : (a.accounts d).dstSwapToken d = a.recipientToken d
    · rw [payRecipient_other hnative] at hpaid
      obtain ⟨hz, htokens⟩ := payToken_self h.destination hdst hpaid
      have hself : m.recipient = d.swapAuthority a.consumeSwapLayerFill.fill := by
        by_contra hne
        exact payToken_ne h.destination (h.recipient ▸ hne) hpaid hdst
      have hasks := isValidOutputSwap_asks h.valid hmode hnative
      have hzero : reply.dstAmount = 0 := hz.resolve_left fun hm =>
        hitself ⟨(show a.dstMint = d.nativeMint from hm) ▸ hasks, hself⟩
      rw [hzero, credited_zero, htokens, h.tokens, Function.update_idem]
      exact ⟨fun h => absurd h (Nat.lt_irrefl 0), rfl⟩
    · obtain ⟨e, he, htokens⟩ := h.tokenPaid hdst hnative
      obtain ⟨e₀, he₀, -⟩ := h.tokenOf_before he hdst
      exact ⟨fun _ => ⟨⟨(h.ne_source he.token).symm, Ne.symm hdst, e₀, he₀.token⟩, e₀, he₀⟩, htokens⟩

/-- The lamports of a swap, from the fill to the output. -/
theorem SwapCompleted.moves
    (h : SwapCompleted d x a f m p s t reply inAmount dropoff b b₁ b')
    (hsettled : SwapSettled d (a.accounts d) reply.srcAmount
      (a.consumeSwapLayerFill.consumed ((a.accounts d).srcSwapToken d) s f.amount b) b₁) :
    ∃ fillRent rent payout i o, Ledger.Moves b.lamports b'.lamports
      (Pi.single a.recipient (gasOutput m reply.dstAmount + dropoff) +
        Pi.single (a.recipientToken d) (wrapped d a.dstMint (tokenOutput m reply.dstAmount)) +
        Pi.single a.consumeSwapLayerFill.beneficiary fillRent + Pi.single a.payer (rent + payout) +
        Pi.single ((a.accounts d).dstSwapToken d) i)
      (Pi.single a.payer (gasOutput m reply.dstAmount + dropoff) +
        Pi.single a.consumeSwapLayerFill.fill fillRent +
        Pi.single ((a.accounts d).srcSwapToken d) rent +
        Pi.single ((a.accounts d).dstSwapToken d) (o + payout)) := by
  obtain ⟨i, o, rent, hswap⟩ := hsettled.lamports
  obtain ⟨i', o', payout, hpaid⟩ := payRecipient_moves h.destination h.paid
  have hmoves := ((consumed_moves a.consumeSwapLayerFill _ _ _ _).trans hswap).trans hpaid
  refine ⟨b.lamports a.consumeSwapLayerFill.fill, rent, payout, i + i', o + o', fun k => ?_⟩
  have hk := hmoves k
  simp only [CompleteSwap.accounts, Pi.add_apply, Ledger.single_add_apply] at hk ⊢
  omega

/-- A relayed swap is one of what the source held, but for what the payer is owed. -/
theorem completeSwapRelay_amounts {gasDropoff : Uint 4} {relayingFee : Uint 6}
    (hcarries : FillCarries a.consumeSwapLayerFill b m)
    (hmode : m.redeemMode = .relay gasDropoff relayingFee)
    (h : completeSwapRelay d x a b = .ok (u, b')) :
    ∃ f p s t reply b₁ b₂,
      a.consumeSwapLayerFill.consumePreparedFill d x ((a.accounts d).srcSwapToken d) b
        = .ok (s.amount + f.amount, b₂) ∧
      charged a.payer a.recipient relayingFee ≤ s.amount + f.amount ∧
      SwapCompleted d x a f m p s t reply
        (s.amount + f.amount - charged a.payer a.recipient relayingFee)
        (charged a.payer a.recipient (1000 * gasDropoff)) b b₁ b' ∧
      SwapSettled d (a.accounts d) reply.srcAmount
        (a.consumeSwapLayerFill.consumed ((a.accounts d).srcSwapToken d) s f.amount b) b₁ := by
  obtain ⟨f, m', p, s, t, reply, b₁, g, fee, inAmount, dropoff, hmode', hamounts, hcompleted,
    hsettled⟩ := completeSwapRelay_ok h
  obtain rfl := hcarries.eq hcompleted.loads
  obtain ⟨rfl, rfl⟩ := RedeemMode.relay.inj (hmode.symm.trans hmode')
  rw [denormalizeGasDropoff_eq gasDropoff.isLt] at hamounts
  have hsrc := hcompleted.accounts.src
  refine ⟨f, p, s, t, reply, b₁, _, ConsumeSwapLayerFill.consumePreparedFill_ok.2
    ⟨hcompleted.accepts, f, s, hcompleted.loads.fill, ⟨hsrc.token, hsrc.program, hsrc.mint, rfl⟩,
      rfl, rfl⟩, ?_⟩
  by_cases hself : a.payer = a.recipient
  · rw [if_pos hself] at hamounts
    obtain ⟨rfl, rfl⟩ := hamounts
    rw [charged_self hself, charged_self hself]
    exact ⟨Nat.zero_le _, hcompleted, hsettled⟩
  · rw [if_neg hself] at hamounts
    obtain ⟨hcovered, rfl, rfl⟩ := hamounts
    rw [charged_other hself, charged_other hself]
    exact ⟨hcovered, hcompleted, hsettled⟩

/-- **A relayed swap** leaves the books of what its source held. -/
theorem completeSwapRelay_accounted {gasDropoff : Uint 4} {relayingFee : Uint 6}
    (hspends : SpendsAtMost x) (hcarries : FillCarries a.consumeSwapLayerFill b m)
    (hmode : m.redeemMode = .relay gasDropoff relayingFee)
    (hitself : ¬ PaysItself d a m) (h : completeSwapRelay d x a b = .ok (u, b')) :
    ∃ amount b₁, a.consumeSwapLayerFill.consumePreparedFill d x ((a.accounts d).srcSwapToken d) b
        = .ok (amount, b₁) ∧
      ∃ spent amountOut, SwapAccounted d x a m amount
        (charged a.payer a.recipient (1000 * gasDropoff)) (charged a.payer a.recipient relayingFee)
        spent amountOut b b' := by
  obtain ⟨f, p, s, t, reply, b₁, b₂, hconsume, hcovered, hcompleted, hsettled⟩ :=
    completeSwapRelay_amounts hcarries hmode h
  obtain ⟨call, hin, hsrc, -, hj⟩ := hcompleted.swapped.answered
  obtain ⟨spent, hspent, hleft⟩ := hspends call reply hj
  rw [hin] at hspent
  rw [hsrc] at hleft
  change reply.srcAmount + spent = s.amount + f.amount at hleft
  -- what Jupiter leaves of the source is the fee and what it did not spend of the rest
  have hdust : reply.srcAmount = s.amount + f.amount - spent := by omega
  obtain ⟨hrecipient, htokens⟩ := hcompleted.output (by rw [hmode]; exact nofun) hitself
  refine ⟨_, b₂, hconsume, spent, reply.dstAmount, hcompleted.recipient, hcovered,
    ⟨call, reply, hj, hin, hsrc, hdust, rfl⟩, hspent, by omega, hrecipient, fun hpos => ?_,
    hdust ▸ htokens, ?_, hcompleted.moves hsettled⟩
  · obtain ⟨hsrc', hdst', e, he⟩ := hsettled.fee (hdust ▸ hpos)
    refine ⟨hsrc', hdst', e, ?_⟩
    rwa [ConsumeSwapLayerFill.consumed_tokens, Function.update_of_ne hsrc'] at he
  · rw [htokens, HandleCompleteSwap.closed, Function.update_of_ne hcompleted.accounts.ne,
      Function.update_self]

end Swap

/-! ## Both -/

/-- **A relay is booked the same way on both paths.** If the instruction succeeds, its books are those
of what its account held, with the dropoff and the fee charged to a caller who is not the
recipient; if the fee is not covered, it fails. -/
theorem relay_accounting (d : Deployment) (x : Externals) (b : Bank) (m : SwapMessageV1)
    (gasDropoff : Uint 4) (relayingFee : Uint 6) (hspends : SpendsAtMost x)
    (hmode : m.redeemMode = .relay gasDropoff relayingFee) :
    (∀ a : CompleteTransferRelay, FillCarries a.consumeSwapLayerFill b m →
      (∀ b', completeTransferRelay d x a b = .ok ((), b') →
        ∃ amount b₁, a.consumeSwapLayerFill.consumePreparedFill d x (a.completeToken d)
            (opened d x (a.completeToken d) d.custodian a.payer b) = .ok (amount, b₁) ∧
          TransferAccounted d a m amount (charged a.redeemer a.recipient (1000 * gasDropoff))
            (charged a.redeemer a.recipient relayingFee) b b') ∧
      ∀ amount b₁, a.consumeSwapLayerFill.consumePreparedFill d x (a.completeToken d)
          (opened d x (a.completeToken d) d.custodian a.payer b) = .ok (amount, b₁) →
        amount < relayingFee → a.redeemer ≠ a.recipient →
          ∃ e, completeTransferRelay d x a b = .error e) ∧
    ∀ a : CompleteSwap, FillCarries a.consumeSwapLayerFill b m →
      (¬ PaysItself d a m → ∀ b', completeSwapRelay d x a b = .ok ((), b') →
        ∃ amount b₁, a.consumeSwapLayerFill.consumePreparedFill d x ((a.accounts d).srcSwapToken d) b
            = .ok (amount, b₁) ∧
          ∃ spent amountOut, SwapAccounted d x a m amount
            (charged a.payer a.recipient (1000 * gasDropoff))
            (charged a.payer a.recipient relayingFee) spent amountOut b b') ∧
      ∀ amount b₁, a.consumeSwapLayerFill.consumePreparedFill d x ((a.accounts d).srcSwapToken d) b
          = .ok (amount, b₁) →
        amount < relayingFee → a.payer ≠ a.recipient → ∃ e, completeSwapRelay d x a b = .error e := by
  refine ⟨fun a hcarries => ⟨fun b' h => completeTransferRelay_accounted hcarries hmode h, ?_⟩,
    fun a hcarries => ⟨fun hitself b' h =>
      completeSwapRelay_accounted hspends hcarries hmode hitself h, ?_⟩⟩
  · intro amount b₁ hconsume hlt hother
    cases hrun : completeTransferRelay d x a b with
    | error e => exact ⟨e, rfl⟩
    | ok r =>
      have hok : completeTransferRelay d x a b = .ok ((), r.2) := hrun
      obtain ⟨amount', b₁', hconsume', haccounted⟩ :=
        completeTransferRelay_accounted hcarries hmode hok
      cases hconsume.symm.trans hconsume'
      have hcovered := haccounted.covered
      rw [charged_other hother] at hcovered
      omega
  · intro amount b₁ hconsume hlt hother
    cases hrun : completeSwapRelay d x a b with
    | error e => exact ⟨e, rfl⟩
    | ok r =>
      have hok : completeSwapRelay d x a b = .ok ((), r.2) := hrun
      obtain ⟨f, p, s, t, reply, b₁', b₂, hconsume', hcovered, -, -⟩ :=
        completeSwapRelay_amounts hcarries hmode hok
      cases hconsume.symm.trans hconsume'
      rw [charged_other hother] at hcovered
      omega

end Books

namespace Sample

/-- Jupiter takes what it is asked to swap, and pays 9. -/
def exactJupiter : Externals :=
  { externals .token with jupiter := fun call => some ⟨call.srcAmount - call.args.inAmount, 9⟩ }

theorem exactJupiter_spends : SpendsAtMost exactJupiter := by
  intro call reply h
  cases h
  refine ⟨min call.args.inAmount call.srcAmount, Nat.min_le_left _ _, ?_⟩
  show call.srcAmount - call.args.inAmount + _ = _
  omega

/-- A swap that is relayed for 30 USDC, with a dropoff of 2000 lamports. -/
def relayedMessage (recipient : Pubkey) (outputToken : OutputToken) : SwapMessageV1 :=
  ⟨recipient, .relay (uintAt 4 [0, 0, 0, 2] 0) (uintAt 6 [0, 0, 0, 0, 0, 30] 0), outputToken⟩

/-- Jupiter pays at least 5. -/
def outputOfFive : OutputSwap :=
  ⟨uintAt 4 [0, 0, 0, 0] 0, uintAt 16 (toBE 16 5) 0, .jupiterV6 ⟨none⟩⟩

def relayedSwap (recipient : Pubkey) : CompleteSwap :=
  ⟨payer, consumeFill, wrappedSol, .token, recipient, swapRoute⟩

/-- The recipient is the authority of the swap: he gets the dropoff, but the payer closes the account
that holds the output. -/
theorem relay_misbooked : ∃ message b', SwapMessageV1.readSlice message
      = .ok (relayedMessage (key 7) (.other wrappedSol outputOfFive)) ∧
    completeSwapRelay inboundDeployment exactJupiter (relayedSwap (key 7)) (swapBank message)
      = .ok ((), b') ∧
    SpendsAtMost exactJupiter ∧ (relayedSwap (key 7)).payer ≠ key 7 ∧
    b'.tokens ((relayedSwap (key 7)).recipientToken inboundDeployment) = none ∧
    b'.lamports (key 7) = (swapBank message).lamports (key 7) + 2000 ∧
    b'.lamports payer + 2000 = (swapBank message).lamports payer + 3 * 1000000 + 9 ∧
    ∀ amount spent amountOut, ¬ SwapAccounted inboundDeployment exactJupiter (relayedSwap (key 7))
      (relayedMessage (key 7) (.other wrappedSol outputOfFive)) amount 2000 30 spent amountOut
      (swapBank message) b' := by
  have hrun : ((relayedMessage (key 7) (.other wrappedSol outputOfFive)).toVec.toOption.bind
      fun message => (completeSwapRelay inboundDeployment exactJupiter (relayedSwap (key 7))
        (swapBank message)).toOption.map fun r => (message, r.2, decide (
          r.2.tokens ((relayedSwap (key 7)).recipientToken inboundDeployment) = none ∧
          r.2.lamports (key 7) = (swapBank message).lamports (key 7) + 2000 ∧
          r.2.lamports payer + 2000 = (swapBank message).lamports payer + 3 * 1000000 + 9))).map
      (fun r => r.2.2) = some true := by decide +kernel
  obtain ⟨⟨message, b', result⟩, hr, hresult⟩ := Option.map_eq_some_iff.1 hrun
  obtain ⟨message', hwritten, hrest⟩ := Option.bind_eq_some_iff.1 hr
  obtain ⟨r, hok, hpair⟩ := Option.map_eq_some_iff.1 hrest
  cases hpair
  obtain ⟨hclosed, hrecipient, hpayer⟩ := of_decide_eq_true hresult
  refine ⟨message, r.2, SwapMessageV1.readSlice_iff_toVec.2 (toOption_eq_some.1 hwritten),
    toOption_eq_some.1 hok, exactJupiter_spends, by decide, hclosed, hrecipient, hpayer,
    fun amount spent amountOut haccounted => ?_⟩
  -- an output of 9 would have to be in an account that is still there
  obtain ⟨call, reply, hj, -, -, -, hout⟩ := haccounted.swapped
  cases hj
  obtain rfl : 9 = amountOut := hout
  exact (haccounted.recipient (by decide)).1.dst rfl

/-- Of the 100 USDC 70 are swapped for gas, and the relayer is owed 30. -/
theorem relay_booked : ∃ message b', SwapMessageV1.readSlice message
      = .ok (relayedMessage (key 70) (.gas outputOfFive)) ∧
    completeSwapRelay inboundDeployment exactJupiter (relayedSwap (key 70)) (swapBank message)
      = .ok ((), b') ∧
    ∃ amount spent amountOut, SwapAccounted inboundDeployment exactJupiter (relayedSwap (key 70))
      (relayedMessage (key 70) (.gas outputOfFive)) amount 2000 30 spent amountOut
      (swapBank message) b' := by
  have hrun : ((relayedMessage (key 70) (.gas outputOfFive)).toVec.toOption.bind fun message =>
      (completeSwapRelay inboundDeployment exactJupiter (relayedSwap (key 70))
        (swapBank message)).toOption).isSome = true := by decide +kernel
  obtain ⟨r, hr⟩ := Option.isSome_iff_exists.1 hrun
  obtain ⟨message, hwritten, hcomplete⟩ := Option.bind_eq_some_iff.1 hr
  have hmessage := SwapMessageV1.readSlice_iff_toVec.2 (toOption_eq_some.1 hwritten)
  obtain ⟨-, hswap⟩ := relay_accounting inboundDeployment exactJupiter (swapBank message)
    (relayedMessage (key 70) (.gas outputOfFive)) _ _ exactJupiter_spends rfl
  obtain ⟨amount, -, -, spent, amountOut, haccounted⟩ :=
    (hswap (relayedSwap (key 70)) ⟨fill message, rfl, hmessage⟩).1 (fun h => nomatch h.1) r.2
      (toOption_eq_some.1 hcomplete)
  rw [charged_other (by decide), charged_other (by decide)] at haccounted
  exact ⟨message, r.2, hmessage, toOption_eq_some.1 hcomplete, amount, spent, amountOut, haccounted⟩

end Sample

end SwapLayer.Solana
