import SwapLayer.Solana.Complete
import SwapLayer.Solana.StagedRuns

/-!
# What a recipient can always redeem

Whatever a message says about output tokens, swaps, deadlines, limits, gas dropoffs and fees: its
recipient may take the fill as USDC. Each redeem mode has its instruction; a payload is staged
first, and then released.

A relay needs the token account of the fee recipient, which it lists although no fee is taken from
the recipient. Its owner may close that account.

Results:
* `recipient_redeems`: the recipient receives the whole fill, and nobody else anything.
* `closed_feeRecipient_blocks`: without the account of the fee recipient a relay cannot be redeemed.
-/

namespace SwapLayer.Solana

open ByteString Program SplToken Messages

variable {d : Deployment} {x : Externals} {b b' : Bank}

/-- The accounts that a redemption creates do not exist yet, and a system account pays for them. -/
structure Fresh (d : Deployment) (x : Externals) (fill payer : Pubkey) (m : SwapMessageV1) (b : Bank) :
    Prop where
  complete : b.tokens (d.completeToken fill) = none
  inbound : b.inbound (d.stagedInbound fill) = none
  custody : b.tokens (d.stagedCustody (d.stagedInbound fill)) = none
  plain : b.Plain payer
  payer_ne_complete : payer ≠ d.completeToken fill
  payer_ne_inbound : payer ≠ d.stagedInbound fill
  payer_ne_custody : payer ≠ d.stagedCustody (d.stagedInbound fill)
  tokenRent : x.tokenRent ≤ b.lamports payer
  payloadRent : ∀ size, StagedInbound.tryComputeSize m = .ok size →
    x.rent size + x.tokenRent ≤ b.lamports payer

/-- The fill is gone, `n` USDC are in the account of the recipient, and nothing else has moved. -/
structure Delivered (d : Deployment) (fill recipient : Pubkey) (n : ℕ) (b b' : Bank) : Prop where
  tokens : b'.tokens = credited b.tokens (recipientTokenAccount d recipient) n
  fills : b'.fills = Function.update b.fills fill none

section Recipient

variable {a : ConsumeSwapLayerFill} {f : PreparedFill} {m : SwapMessageV1} {p : Peer}
  {t : TokenAccount Pubkey} {payer : Pubkey}

theorem direct_redeems (hloads : a.Loads b f m p) (haccepts : x.acceptsFill a.fill = true)
    (ht : TokenOf b (recipientTokenAccount d m.recipient) d.usdcMint m.recipient .token t)
    (hmode : m.redeemMode = .direct) :
    ∃ b', completeTransferDirect d x ⟨m.recipient, a, m.recipient⟩ b = .ok ((), b') ∧
      Delivered d a.fill m.recipient f.amount b b' :=
  ⟨_, completeTransferDirect_ok.2
    ⟨f, m, p, t, hloads, ht, rfl, .inr rfl, hmode, haccepts, rfl⟩,
    ConsumeSwapLayerFill.consumed_credited ht.token, rfl⟩

/-- A relayed fill, whatever its fee. -/
theorem relay_redeems (hloads : a.Loads b f m p) (haccepts : x.acceptsFill a.fill = true)
    (ht : TokenOf b (recipientTokenAccount d m.recipient) d.usdcMint m.recipient .token t)
    (hfresh : Fresh d x a.fill payer m b) {gasDropoff : Uint 4} {relayingFee : Uint 6}
    (hmode : m.redeemMode = .relay gasDropoff relayingFee) {e : TokenAccount Pubkey}
    (he : b.tokens b.custodian.feeRecipientToken = some e) (hep : e.program = .token) :
    ∃ b', completeTransferRelay d x ⟨payer, m.recipient, a, m.recipient⟩ b = .ok ((), b') ∧
      Delivered d a.fill m.recipient f.amount b b' := by
  have hchecked : RelayChecked d x ⟨payer, m.recipient, a, m.recipient⟩ b f m p t e :=
    ⟨hloads, ht, he, hep, hfresh.payer_ne_complete, hfresh.complete,
      .of_le hfresh.plain hfresh.tokenRent (Nat.sub_le _ _), rfl, fun _ hother => absurd rfl hother⟩
  obtain ⟨b', hok⟩ := completeTransferRelay_exists hchecked hmode haccepts rfl
  obtain ⟨f', m', p', t', e', _, _, n, hchecked', -, -, hn, hrelayed⟩ := completeTransferRelay_ok hok
  obtain rfl := Option.some.inj (hloads.fill.symm.trans hchecked'.loads.fill)
  rw [if_pos rfl] at hn
  subst hn
  refine ⟨b', hok, ?_, hrelayed.fills⟩
  rw [hrelayed.tokens, Nat.sub_self, credited_zero]

/-- A payload is staged, and released to its recipient. -/
theorem payload_redeems (hloads : a.Loads b f m p) (haccepts : x.acceptsFill a.fill = true)
    (ht : TokenOf b (recipientTokenAccount d m.recipient) d.usdcMint m.recipient .token t)
    (hfresh : Fresh d x a.fill payer m b) {sender : Fixed 32} {buf : Prefixed 2}
    (hmode : m.redeemMode = .payload sender buf) :
    ∃ b₁ b', completeTransferPayload d x ⟨payer, m.recipient, a⟩ b = .ok ((), b₁) ∧
      releaseInbound d ⟨m.recipient, payer, d.stagedInbound a.fill,
        recipientTokenAccount d m.recipient, d.usdcMint, .token⟩ b₁ = .ok ((), b') ∧
      Delivered d a.fill m.recipient f.amount b b' := by
  obtain ⟨b₁, hstage⟩ := completeTransferPayload_exists (a := ⟨payer, m.recipient, a⟩) hloads hmode
    rfl haccepts hfresh.inbound hfresh.custody hfresh.payer_ne_inbound hfresh.payer_ne_custody hfresh.plain
    (hfresh.payloadRent _ (by rw [StagedInbound.tryComputeSize, hmode]))
  obtain ⟨f', m', p', _, _, c, s, hloads', -, -, -, hbefore, rfl, hstaged⟩ :=
    completeTransferPayload_ok hstage
  obtain rfl := Option.some.inj (hloads.fill.symm.trans hloads'.fill)
  obtain rfl := Except.ok.inj (hloads.message.symm.trans hloads'.message)
  rcases hbefore with hold | ⟨-, rfl⟩
  · cases hold.token.symm.trans hfresh.custody
  have hne : d.stagedCustody (d.stagedInbound a.fill) ≠ recipientTokenAccount d m.recipient := by
    intro he
    cases hfresh.custody.symm.trans (he ▸ ht.token)
  have hcustody := hstaged.tokens
  have hc : b₁.tokens (d.stagedCustody (d.stagedInbound a.fill)) =
      some ⟨.token, d.usdcMint, d.stagedInbound a.fill, f.amount, none, 0⟩ := by
    rw [hcustody, Function.update_self, Nat.zero_add]
  have ht₁ : b₁.tokens (recipientTokenAccount d m.recipient) = some t := by
    rw [hcustody, Function.update_of_ne hne.symm]
    exact ht.token
  have hstagedAt := (congrFun hstaged.inbound _).trans (Function.update_self ..)
  obtain ⟨b', hrelease⟩ := releaseInbound_exists (a := ⟨m.recipient, payer, d.stagedInbound a.fill,
    recipientTokenAccount d m.recipient, d.usdcMint, .token⟩)
    ⟨hstagedAt, hc, rfl, hfresh.payer_ne_inbound, rfl, rfl⟩ rfl hne rfl rfl ht₁ ht.program
    ht.mint.symm hfresh.payer_ne_custody.symm
  obtain ⟨s', c', hchecked, -, hfills, htokens⟩ := releaseInbound_ok hrelease
  obtain rfl := Option.some.inj (hstagedAt.symm.trans hchecked.staged)
  obtain rfl := Option.some.inj (hc.symm.trans hchecked.custody)
  refine ⟨b₁, b', hstage, hrelease, ?_, hfills.trans hstaged.fills⟩
  rw [htokens rfl hne, hcustody, credited_update hne, Function.update_idem,
    Function.update_eq_self_iff, credited_other hne, hfresh.custody]

/-- **A recipient can always redeem the full amount as USDC**, with the instruction of the redeem mode.
The output token, the time, the fee and the gas dropoff do not matter; a relay needs the token
account of the fee recipient. -/
theorem recipient_redeems (hloads : a.Loads b f m p) (haccepts : x.acceptsFill a.fill = true)
    (ht : TokenOf b (recipientTokenAccount d m.recipient) d.usdcMint m.recipient .token t)
    (hfresh : Fresh d x a.fill payer m b)
    (hfee : ∀ gasDropoff relayingFee, m.redeemMode = .relay gasDropoff relayingFee →
      ∃ e, b.tokens b.custodian.feeRecipientToken = some e ∧ e.program = .token) :
    match m.redeemMode with
    | .direct => ∃ b', completeTransferDirect d x ⟨m.recipient, a, m.recipient⟩ b = .ok ((), b') ∧
        Delivered d a.fill m.recipient f.amount b b'
    | .relay _ _ =>
      ∃ b', completeTransferRelay d x ⟨payer, m.recipient, a, m.recipient⟩ b = .ok ((), b') ∧
        Delivered d a.fill m.recipient f.amount b b'
    | .payload _ _ =>
      ∃ b₁ b', completeTransferPayload d x ⟨payer, m.recipient, a⟩ b = .ok ((), b₁) ∧
        releaseInbound d ⟨m.recipient, payer, d.stagedInbound a.fill,
          recipientTokenAccount d m.recipient, d.usdcMint, .token⟩ b₁ = .ok ((), b') ∧
        Delivered d a.fill m.recipient f.amount b b' := by
  cases hmode : m.redeemMode with
  | direct => exact direct_redeems hloads haccepts ht hmode
  | relay gasDropoff relayingFee =>
    obtain ⟨e, he, hep⟩ := hfee _ _ hmode
    exact relay_redeems hloads haccepts ht hfresh hmode he hep
  | payload sender buf => exact payload_redeems hloads haccepts ht hfresh hmode

end Recipient

/-- Without the account of the fee recipient nobody completes a relay. -/
theorem closed_feeRecipient_blocks (h : b.tokens b.custodian.feeRecipientToken = none)
    (a : CompleteTransferRelay) : ∃ e, completeTransferRelay d x a b = .error e := by
  cases hok : completeTransferRelay d x a b with
  | error e => exact ⟨e, rfl⟩
  | ok r =>
    obtain ⟨_, _, _, _, e, _, _, _, hchecked, -⟩ := completeTransferRelay_ok hok
    cases h.symm.trans hchecked.feeRecipient

namespace Sample

/-- A relay with a fee above the fill, and a swap that only EVM chains know, past its deadline. -/
def relayMessage : SwapMessageV1 :=
  ⟨key 70, .relay (uintAt 4 [0, 0, 0, 5] 0) (uintAt 6 [0, 0, 0, 0, 3, 232] 0),
    .gas ⟨uintAt 4 [0, 0, 0, 1] 0, uintAt 16 (toBE 16 5) 0, .uniswapV3 ⟨uintAt 3 [0, 1, 244] 0, []⟩⟩⟩

def fill (message : Bytes) : PreparedFill := ⟨.unset, 2, key 50, message, 0, 100⟩

def consumeFill : ConsumeSwapLayerFill := ⟨key 61, 2, payer⟩

/-- A fill of 100 USDC from the peer; the recipient and the fee recipient have accounts. -/
def inboundBank (message : Bytes) : Bank where
  accounts :=
    { tokens := fun k =>
        if k = key 11 then some (account .token usdc (key 70) 0)
        else if k = key 42 then some (account .token usdc (key 43) 0)
        else none
      lamports := fun _ => 1000000 }
  custodian := ⟨key 40, key 41, key 42⟩
  peers chain := if chain = 2 then some ⟨key 50, relayParams⟩ else none
  outbound _ := none
  inbound _ := none
  fills k := if k = key 61 then some (fill message) else none
  orders := []

theorem relayMessage_written : ∃ message, SwapMessageV1.readSlice message = .ok relayMessage := by
  have hwritten : relayMessage.toVec.toOption.isSome = true := by decide +kernel
  obtain ⟨message, hmessage⟩ := Option.isSome_iff_exists.1 hwritten
  exact ⟨message, SwapMessageV1.readSlice_iff_toVec.2 (toOption_eq_some.1 hmessage)⟩

theorem relay_loads {message : Bytes} (h : SwapMessageV1.readSlice message = .ok relayMessage)
    (s : Accounts Pubkey) :
    consumeFill.Loads ((inboundBank message).withAccounts s) (fill message) relayMessage
      ⟨key 50, relayParams⟩ :=
  ⟨rfl, h, rfl, rfl, rfl⟩

/-- The recipient takes the 100 USDC. -/
theorem relay_redeemed :
    ∃ message b', SwapMessageV1.readSlice message = .ok relayMessage ∧
      completeTransferRelay deployment (externals .token) ⟨payer, key 70, consumeFill, key 70⟩
        (inboundBank message) = .ok ((), b') ∧
      (b'.tokens (key 11)).map TokenAccount.amount = some 100 := by
  obtain ⟨message, hmessage⟩ := relayMessage_written
  have ht : TokenOf (inboundBank message) (key 11) usdc (key 70) .token
      (account .token usdc (key 70) 0) := ⟨rfl, rfl, rfl, rfl⟩
  have hfresh : Fresh deployment (externals .token) (key 61) payer relayMessage
      (inboundBank message) :=
    ⟨rfl, rfl, rfl, ⟨rfl, rfl⟩, by decide, by decide, by decide, Nat.le_of_ble_eq_true rfl, nofun⟩
  obtain ⟨b', hok, hdelivered⟩ := recipient_redeems (d := deployment) (x := externals .token)
    (relay_loads hmessage _) rfl ht hfresh fun _ _ _ => ⟨_, rfl, rfl⟩
  refine ⟨message, b', hmessage, hok, ?_⟩
  rw [hdelivered.tokens]
  exact congrArg (Option.map TokenAccount.amount) (credited_self ht.token)

/-- The fee recipient closes its account; then everything is in place and the recipient gets nothing. -/
theorem relay_blocked :
    ∃ message b₁, SwapMessageV1.readSlice message = .ok relayMessage ∧
      cpi (closeAccount wrappedSol .token (key 42) (key 43) (key 43)) (inboundBank message) =
        .ok ((), b₁) ∧
      consumeFill.Loads b₁ (fill message) relayMessage ⟨key 50, relayParams⟩ ∧
      (externals .token).acceptsFill (key 61) = true ∧
      TokenOf b₁ (recipientTokenAccount deployment (key 70)) usdc (key 70) .token
        (account .token usdc (key 70) 0) ∧
      Fresh deployment (externals .token) (key 61) payer relayMessage b₁ ∧
      ∀ a : CompleteTransferRelay, ∃ e,
        completeTransferRelay deployment (externals .token) a b₁ = .error e := by
  obtain ⟨message, hmessage⟩ := relayMessage_written
  have hclose : cpi (closeAccount wrappedSol .token (key 42) (key 43) (key 43))
      (inboundBank message) = .ok ((), (inboundBank message).withAccounts
        (((inboundBank message).accounts.setToken (key 42) none).moveLamports (key 42) (key 43)
          1000000)) := rfl
  exact ⟨message, _, hmessage, hclose, relay_loads hmessage _, rfl, ⟨rfl, rfl, rfl, rfl⟩,
    ⟨rfl, rfl, rfl, ⟨rfl, rfl⟩, by decide, by decide, by decide, Nat.le_of_ble_eq_true rfl, nofun⟩,
    closed_feeRecipient_blocks rfl⟩

end Sample

end SwapLayer.Solana
