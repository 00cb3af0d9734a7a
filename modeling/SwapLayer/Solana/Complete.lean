import SwapLayer.Solana.Peers

/-!
# Completing a transfer

Model of `ConsumeSwapLayerFill` in `composite/mod.rs`, of `processor/complete/transfer` and of
`processor/release_inbound.rs`: a fill that the token router has prepared is consumed, and its USDC
goes to the recipient, with a fee for a relayer, or into the custody account of a staged inbound
transfer that only the recipient can release.

Accounts are loaded before any is created, then come the other constraints, then the instruction.
The token router pays out what the fill says (`transferIn`); its own accounts are not represented.
The message is read in the constraints of the fill, and again wherever the source does. That and other
unwraps end in an error `e` if they fail; an instruction is that with `panic` for `e`.

Results:
* `ConsumeSwapLayerFill.load_ok`, `ConsumeSwapLayerFill.consumePreparedFill_ok`: what every completion
  checks, and what consuming the fill does.
* `completeTransferDirect_ok`, `completeTransferRelay_ok`, `completeTransferPayload_ok`,
  `releaseInbound_ok`: what a successful instruction has checked, and what it pays to whom.
* `completeTransferRelay_exists`, `completeTransferPayload_exists`, `releaseInbound_exists`: when the
  recipient gets through.
-/

namespace SwapLayer.Solana

open ByteString Program SplToken Messages

/-! ## Consuming a fill -/

/-- `ConsumeSwapLayerFill`; the peer is given by its chain. -/
structure ConsumeSwapLayerFill where
  fill : Pubkey
  sourcePeer : ℕ
  beneficiary : Pubkey

def Bank.removeFill (b : Bank) (k : Pubkey) : Bank :=
  { b with fills := Function.update b.fills k none }

namespace ConsumeSwapLayerFill

variable (d : Deployment) (x : Externals) (a : ConsumeSwapLayerFill)

/-- The account constraints. -/
def load : Instruction (PreparedFill × SwapMessageV1 × Peer) := do
  let fill ← loadAccount fun b => b.fills a.fill
  let peer ← registeredPeer a.sourcePeer
  let msg ← lift (match SwapMessageV1.readSlice fill.redeemerMessage with
    | .ok msg => .ok msg
    | .error _ => .error (.swapLayer .invalidSwapMessage))
  check (a.sourcePeer = fill.sourceChain) .invalidPeer
  check (fill.orderSender = peer.address) .invalidPeer
  return (fill, msg, peer)

/-- `consume_prepared_fill`: the token router pays the fill out, or fails. The amount is everything
that the destination then holds. -/
def consumePreparedFill (dstToken : Pubkey) : Instruction ℕ := do
  constraint (x.acceptsFill a.fill = true) .tokenRouter
  let fill ← loadAccount fun b => b.fills a.fill
  cpi (transferIn d.nativeMint .token dstToken d.usdcMint fill.amount)
  closeData a.fill a.beneficiary
  modifyBank fun b => b.removeFill a.fill
  let t ← interfaceTokenAccount dstToken
  return t.amount

end ConsumeSwapLayerFill

section Definitions

variable (e : Error) (d : Deployment) (x : Externals)

/-- `read_message_unchecked`. -/
def readMessageUnchecked (fill : PreparedFill) : Except Error SwapMessageV1 :=
  match SwapMessageV1.readSlice fill.redeemerMessage with
  | .ok msg => .ok msg
  | .error _ => .error e

/-! ## `complete_transfer_direct` -/

structure CompleteTransferDirect where
  redeemer : Pubkey
  consumeSwapLayerFill : ConsumeSwapLayerFill
  recipient : Pubkey

/-- The USDC account of a recipient. -/
def recipientTokenAccount (recipient : Pubkey) : Pubkey :=
  d.associatedToken recipient d.usdcMint .token

def completeTransferDirectOr (a : CompleteTransferDirect) : Instruction Unit := do
  let (fill, _, _) ← a.consumeSwapLayerFill.load
  checkAssociated (recipientTokenAccount d a.recipient) d.usdcMint a.recipient .token
  let msg ← lift (readMessageUnchecked e fill)
  check (a.recipient = msg.recipient) .invalidRecipient
  check (msg.outputToken = .usdc ∨ a.redeemer = a.recipient) .invalidRedeemer
  -- the handler
  let msg ← lift (readMessageUnchecked e fill)
  match msg.redeemMode with
  | .direct => do
    let _ ← a.consumeSwapLayerFill.consumePreparedFill d x (recipientTokenAccount d a.recipient)
  | _ => fail (.swapLayer .invalidRedeemMode)

def completeTransferDirect : CompleteTransferDirect → Instruction Unit :=
  completeTransferDirectOr .panic d x

/-! ## `complete_transfer_relay` -/

structure CompleteTransferRelay where
  payer : Pubkey
  redeemer : Pubkey
  consumeSwapLayerFill : ConsumeSwapLayerFill
  recipient : Pubkey

/-- The account that takes the fill; it is closed again at the end. -/
def CompleteTransferRelay.completeToken (a : CompleteTransferRelay) : Pubkey :=
  d.completeToken a.consumeSwapLayerFill.fill

/-- `i64::saturating_sub`. -/
def saturatingSub (m n : ℤ) : ℤ := max (-2 ^ 63) (min (2 ^ 63 - 1) (m - n))

/-- The time limit of a swap has passed, so that USDC may be paid instead. -/
def swapTimeLimitExceeded (fill : PreparedFill) (limit : SwapTimeLimit) : Except Error Unit :=
  let timeDiff := saturatingSub x.unixTimestamp fill.timestamp
  match fill.fillType with
  | .fastFill => ensure (limit.fastLimit ≤ timeDiff) (.swapLayer .swapTimeLimitNotExceeded)
  | .wormholeCctpDeposit =>
    ensure (limit.finalizedLimit ≤ timeDiff) (.swapLayer .swapTimeLimitNotExceeded)
  | .unset => .error (.swapLayer .unsupportedFillType)

/-- Who is not the recipient has to wait before a swap is given up. -/
def checkTimeLimit (a : CompleteTransferRelay) (fill : PreparedFill) (msg : SwapMessageV1)
    (peer : Peer) : Instruction Unit :=
  if msg.outputToken ≠ .usdc ∧ a.redeemer ≠ a.recipient then
    lift (swapTimeLimitExceeded x fill peer.relayParams.swapTimeLimit)
  else pure ()

/-- The gas dropoff, if there is one. -/
def payGasDropoff (payer recipient : Pubkey) (gasDropoff : ℕ) : Instruction Unit :=
  if 0 < gasDropoff then systemTransfer payer recipient gasDropoff else pure ()

/-- What the recipient gets; a relayer pays the gas dropoff and is owed the fee. -/
def relayUserAmount (a : CompleteTransferRelay) (gasDropoff relayingFee fillAmount : ℕ) :
    Instruction ℕ :=
  if a.redeemer = a.recipient then pure fillAmount
  else do
    payGasDropoff a.payer a.recipient gasDropoff
    check (relayingFee ≤ fillAmount) .invalidRelayerFee
    return fillAmount - relayingFee

/-- `checked_sub`, unwrapped. -/
def subUnwrap (m n : ℕ) : Except Error ℕ := if n ≤ m then .ok (m - n) else .error e

/-- The rest of what the recipient does not get is the fee. -/
def payFeeRecipient (a : CompleteTransferRelay) (fillAmount userAmount : ℕ) : Instruction Unit :=
  if userAmount ≠ fillAmount then do
    let b ← getBank
    let fee ← lift (subUnwrap e fillAmount userAmount)
    cpi (transfer d.nativeMint .token (a.completeToken d) b.custodian.feeRecipientToken d.custodian fee)
  else pure ()

/-- The account that took the fill is emptied and closed. -/
def settleRelay (a : CompleteTransferRelay) (fillAmount userAmount : ℕ) : Instruction Unit := do
  cpi (transfer d.nativeMint .token (a.completeToken d) (recipientTokenAccount d a.recipient)
    d.custodian userAmount)
  payFeeRecipient e d a fillAmount userAmount
  cpi (closeAccount d.nativeMint .token (a.completeToken d) a.payer d.custodian)

def handleCompleteTransferRelay (a : CompleteTransferRelay) (gasDropoff relayingFee : ℕ) :
    Instruction Unit := do
  let fillAmount ← a.consumeSwapLayerFill.consumePreparedFill d x (a.completeToken d)
  let userAmount ← relayUserAmount a gasDropoff relayingFee fillAmount
  settleRelay e d a fillAmount userAmount

/-- The account constraints, and the creation of the account that takes the fill. -/
def initCompleteRelay (a : CompleteTransferRelay) : Instruction PreparedFill := do
  let (fill, _, peer) ← a.consumeSwapLayerFill.load
  checkAssociated (recipientTokenAccount d a.recipient) d.usdcMint a.recipient .token
  let b ← getBank
  let _ ← tokenAccount b.custodian.feeRecipientToken
  constraint (a.payer ≠ a.completeToken d) .tryingToInitPayerAsProgramAccount
  createToken d.nativeMint .token x.tokenRent (a.completeToken d) d.usdcMint d.custodian a.payer
  let msg ← lift (readMessageUnchecked e fill)
  check (a.recipient = msg.recipient) .invalidRecipient
  checkTimeLimit x a fill msg peer
  return fill

def completeTransferRelayOr (a : CompleteTransferRelay) : Instruction Unit := do
  let fill ← initCompleteRelay e d x a
  let msg ← lift (readMessageUnchecked e fill)
  match msg.redeemMode with
  | .relay gasDropoff relayingFee =>
    handleCompleteTransferRelay e d x a (denormalizeGasDropoff gasDropoff) relayingFee
  | _ => fail (.swapLayer .invalidRedeemMode)

def completeTransferRelay : CompleteTransferRelay → Instruction Unit := completeTransferRelayOr .panic d x

/-! ## `complete_transfer_payload` -/

/-- `DISCRIMINATOR`, the seeds, the info and the length of the payload. -/
def STAGED_INBOUND_BASE_SIZE : ℕ := 8 + 33 + 131 + 4

/-- `StagedInbound::try_compute_size`. -/
def StagedInbound.tryComputeSize (msg : SwapMessageV1) : Except Error ℕ :=
  match msg.redeemMode with
  | .payload _ buf => .ok (buf.val.length + STAGED_INBOUND_BASE_SIZE)
  | _ => .error (.swapLayer .invalidRedeemMode)

/-- `init_if_needed` of a staged inbound transfer. -/
def initStagedInbound (payer k : Pubkey) (msg : SwapMessageV1) : Instruction Unit := do
  let b ← getBank
  match b.inbound k with
  | some _ => pure ()
  | none => do
    let size ← lift (StagedInbound.tryComputeSize msg)
    constraint (payer ≠ k) .tryingToInitPayerAsProgramAccount
    payRent payer k (x.rent size)

/-- `init_if_needed` of a USDC account. -/
def initUsdcIfNeeded (payer k owner : Pubkey) : Instruction Unit := do
  let b ← getBank
  match b.tokens k with
  | some _ => checkAssociated k d.usdcMint owner .token
  | none => do
    constraint (payer ≠ k) .tryingToInitPayerAsProgramAccount
    createToken d.nativeMint .token x.tokenRent k d.usdcMint owner payer

/-- What is written down for the recipient; without a payload there is nothing to stage. -/
def stagedInbound (a : ConsumeSwapLayerFill) (payer custodyToken : Pubkey) (fill : PreparedFill)
    (msg : SwapMessageV1) (isNative : Bool) : Except Error StagedInbound :=
  match msg.redeemMode with
  | .payload sender buf => .ok
    { preparedFill := a.fill
      custodyToken := custodyToken
      stagedBy := payer
      sourceChain := fill.sourceChain
      sender := sender
      recipient := msg.recipient
      isNative := isNative
      recipientPayload := buf.val }
  | _ => .error (.swapLayer .invalidRedeemMode)

structure CompleteTransferPayload where
  payer : Pubkey
  redeemer : Pubkey
  consumeSwapLayerFill : ConsumeSwapLayerFill

def completeTransferPayloadOr (a : CompleteTransferPayload) : Instruction Unit := do
  let k := d.stagedInbound a.consumeSwapLayerFill.fill
  let (fill, _, _) ← a.consumeSwapLayerFill.load
  let msg ← lift (readMessageUnchecked e fill)
  initStagedInbound x a.payer k msg
  initUsdcIfNeeded d x a.payer (d.stagedCustody k) k
  let msg ← lift (readMessageUnchecked e fill)
  check (msg.outputToken = .usdc ∨ a.redeemer = msg.recipient) .invalidRedeemer
  -- the handler
  let _ ← a.consumeSwapLayerFill.consumePreparedFill d x (d.stagedCustody k)
  let msg ← lift (readMessageUnchecked e fill)
  let s ← lift (stagedInbound a.consumeSwapLayerFill a.payer (d.stagedCustody k) fill msg false)
  modifyBank fun b => b.setInbound k (some s)

def completeTransferPayload : CompleteTransferPayload → Instruction Unit :=
  completeTransferPayloadOr .panic d x

/-! ## `release_inbound` -/

structure ReleaseInbound where
  recipient : Pubkey
  beneficiary : Pubkey
  stagedInbound : Pubkey
  dstToken : Pubkey
  mint : Pubkey
  tokenProgram : TokenProgram

/-- `release_inbound`, signed by `recipient`. -/
def releaseInbound (a : ReleaseInbound) : Instruction Unit := do
  let s ← loadAccount fun b => b.inbound a.stagedInbound
  let custodyToken ← interfaceTokenAccount s.custodyToken
  constraint (a.recipient = s.recipient) .constraintAddress
  constraint (a.beneficiary ≠ a.stagedInbound) .constraintClose
  constraint (custodyToken.mint = a.mint) .constraintTokenMint
  -- the program signs for the address that belongs to the recorded fill
  constraint (a.stagedInbound = d.stagedInbound s.preparedFill) .constraintSeeds
  cpi (transfer d.nativeMint a.tokenProgram s.custodyToken a.dstToken a.stagedInbound
    custodyToken.amount)
  cpi (closeAccount d.nativeMint a.tokenProgram s.custodyToken a.beneficiary a.stagedInbound)
  closeData a.stagedInbound a.beneficiary
  modifyBank fun b => b.setInbound a.stagedInbound none

end Definitions

/-! ## What the stages do -/

namespace ConsumeSwapLayerFill

variable {d : Deployment} {x : Externals} {a : ConsumeSwapLayerFill} {b b' : Bank}

/-- What every completion has checked: the fill has a message that can be read, and comes from the
registered peer. -/
structure Loads (a : ConsumeSwapLayerFill) (b : Bank) (f : PreparedFill) (m : SwapMessageV1)
    (p : Peer) : Prop where
  fill : b.fills a.fill = some f
  message : SwapMessageV1.readSlice f.redeemerMessage = .ok m
  peer : b.peers a.sourcePeer = some p
  chain : a.sourcePeer = f.sourceChain
  sender : f.orderSender = p.address

/-- A fill has one message and one peer. -/
theorem Loads.unique {f f' : PreparedFill} {m m' : SwapMessageV1} {p p' : Peer} (h : a.Loads b f m p)
    (h' : a.Loads b f' m' p') : f = f' ∧ m = m' ∧ p = p' := by
  obtain rfl := Option.some.inj (h.fill.symm.trans h'.fill)
  obtain rfl := Except.ok.inj (h.message.symm.trans h'.message)
  obtain rfl := Option.some.inj (h.peer.symm.trans h'.peer)
  exact ⟨rfl, rfl, rfl⟩

/-- **Every further read succeeds**, and reads the same. -/
theorem Loads.read {f : PreparedFill} {m : SwapMessageV1} {p : Peer} {e : Error} (h : a.Loads b f m p) :
    readMessageUnchecked e f = .ok m := by
  rw [readMessageUnchecked, h.message]

theorem Loads.read_ok {f : PreparedFill} {m m' : SwapMessageV1} {p : Peer} {e : Error} {c c' : Bank}
    (h : a.Loads b f m p) : lift (readMessageUnchecked e f) c = .ok (m', c') ↔ m' = m ∧ c' = c := by
  rw [h.read, lift_ok, Except.ok.injEq, eq_comm]

theorem readMessage_ok {bs : Bytes} {m : SwapMessageV1} :
    (match SwapMessageV1.readSlice bs with
      | .ok msg => .ok msg
      | .error _ => .error (Error.swapLayer .invalidSwapMessage)) = Except.ok m ↔
      SwapMessageV1.readSlice bs = .ok m := by
  cases SwapMessageV1.readSlice bs with
  | error e => exact ⟨nofun, nofun⟩
  | ok r =>
    constructor <;>
    · intro h
      cases h
      rfl

theorem load_ok {f : PreparedFill} {m : SwapMessageV1} {p : Peer} :
    a.load b = .ok ((f, m, p), b') ↔ a.Loads b f m p ∧ b' = b := by
  simp only [load, bind_ok, loadAccount_ok, registeredPeer, lift_ok, check_ok, pure_ok,
    readMessage_ok, Prod.mk.injEq]
  constructor
  · rintro ⟨f', _, ⟨hf, rfl⟩, p', _, ⟨hp, rfl⟩, m', _, ⟨hm, rfl⟩, _, _, ⟨hchain, rfl⟩, _, _,
      ⟨hsender, rfl⟩, ⟨rfl, rfl, rfl⟩, rfl⟩
    exact ⟨⟨hf, hm, hp, hchain, hsender⟩, rfl⟩
  · rintro ⟨h, rfl⟩
    exact ⟨f, _, ⟨h.fill, rfl⟩, p, _, ⟨h.peer, rfl⟩, m, _, ⟨h.message, rfl⟩, (), _, ⟨h.chain, rfl⟩,
      (), _, ⟨h.sender, rfl⟩, ⟨rfl, rfl, rfl⟩, rfl⟩

/-- The state after a fill of `n` has been consumed into the token account `dst`. -/
def consumed (a : ConsumeSwapLayerFill) (dst : Pubkey) (t : TokenAccount Pubkey) (n : ℕ) (b : Bank) :
    Bank :=
  (b.withAccounts ((b.accounts.setToken dst (some { t with amount := t.amount + n })).moveLamports
    a.fill a.beneficiary (b.lamports a.fill))).removeFill a.fill

@[simp] theorem consumed_tokens (dst : Pubkey) (t : TokenAccount Pubkey) (n : ℕ) :
    (a.consumed dst t n b).tokens =
      Function.update b.tokens dst (some { t with amount := t.amount + n }) :=
  Accounts.moveLamports_tokens ..

theorem consumed_credited {dst : Pubkey} {t : TokenAccount Pubkey} {n : ℕ}
    (ht : b.tokens dst = some t) : (a.consumed dst t n b).tokens = credited b.tokens dst n := by
  rw [consumed_tokens, credited, ht]
  rfl

theorem consumed_dst {dst : Pubkey} {t : TokenAccount Pubkey} {n : ℕ} :
    (a.consumed dst t n b).tokens dst = some { t with amount := t.amount + n } := by
  rw [consumed_tokens, Function.update_self]

@[simp] theorem consumed_fills (dst : Pubkey) (t : TokenAccount Pubkey) (n : ℕ) :
    (a.consumed dst t n b).fills a.fill = none := Function.update_self ..

@[simp] theorem consumed_inbound (dst : Pubkey) (t : TokenAccount Pubkey) (n : ℕ) :
    (a.consumed dst t n b).inbound = b.inbound := rfl

@[simp] theorem consumed_custodian (dst : Pubkey) (t : TokenAccount Pubkey) (n : ℕ) :
    (a.consumed dst t n b).custodian = b.custodian := rfl

/-- **Consuming a fill** pays it into a USDC account, and it is gone. -/
theorem consumePreparedFill_ok {dst : Pubkey} {n : ℕ} :
    a.consumePreparedFill d x dst b = .ok (n, b') ↔
      x.acceptsFill a.fill = true ∧ ∃ f t, b.fills a.fill = some f ∧
        TokenOf b dst d.usdcMint t.owner .token t ∧ n = t.amount + f.amount ∧
        b' = a.consumed dst t f.amount b := by
  simp only [consumePreparedFill, closeData, bind_ok, constraint_ok, loadAccount_ok, cpi_ok,
    transferIn_ok, modifyBank_ok, interfaceTokenAccount_ok, pure_ok]
  constructor
  · rintro ⟨_, _, ⟨haccepts, rfl⟩, f, _, ⟨hf, rfl⟩, _, _, ⟨_, ⟨t, ht, hp, hm, -, rfl⟩, rfl⟩, _, _, rfl,
      _, _, rfl, t', _, ⟨ht', rfl⟩, rfl, rfl⟩
    cases ht'.symm.trans (consumed_dst (a := a))
    exact ⟨haccepts, f, t, hf, ⟨ht, hp, hm, rfl⟩, rfl, rfl⟩
  · rintro ⟨haccepts, f, t, hf, ⟨ht, hp, hm, -⟩, rfl, rfl⟩
    refine ⟨(), _, ⟨haccepts, rfl⟩, f, _, ⟨hf, rfl⟩, (), _,
      ⟨_, ⟨t, ht, hp, hm, d.usdc_ne_native, rfl⟩, rfl⟩, (), _, rfl, (), _, rfl,
      { t with amount := t.amount + f.amount }, _, ⟨?_, rfl⟩, rfl, rfl⟩
    exact consumed_dst

end ConsumeSwapLayerFill

/-! ## What the instructions do -/

section Ok

variable {d : Deployment} {x : Externals} {b b' : Bank} {u : Unit}

/-- **`complete_transfer_direct`** pays the fill to the recipient's account. -/
theorem completeTransferDirect_ok {a : CompleteTransferDirect} :
    completeTransferDirect d x a b = .ok (u, b') ↔
      ∃ f m p t, a.consumeSwapLayerFill.Loads b f m p ∧
        TokenOf b (recipientTokenAccount d a.recipient) d.usdcMint a.recipient .token t ∧
        a.recipient = m.recipient ∧ (m.outputToken = .usdc ∨ a.redeemer = a.recipient) ∧
        m.redeemMode = .direct ∧ x.acceptsFill a.consumeSwapLayerFill.fill = true ∧
        b' = a.consumeSwapLayerFill.consumed (recipientTokenAccount d a.recipient) t f.amount b := by
  constructor
  · intro h
    obtain ⟨⟨f, m, p⟩, _, hload, h₁⟩ := bind_ok.1 h
    obtain ⟨hloads, rfl⟩ := ConsumeSwapLayerFill.load_ok.1 hload
    obtain ⟨_, _, haccount, h₂⟩ := bind_ok.1 h₁
    obtain ⟨⟨t, ht⟩, rfl⟩ := checkAssociated_ok.1 haccount
    obtain ⟨m', _, hread, h₃⟩ := bind_ok.1 h₂
    obtain ⟨rfl, rfl⟩ := hloads.read_ok.1 hread
    obtain ⟨_, _, hcheck, h₄⟩ := bind_ok.1 h₃
    obtain ⟨hrecipient, rfl⟩ := check_ok.1 hcheck
    obtain ⟨_, _, hcheck, h₅⟩ := bind_ok.1 h₄
    obtain ⟨hredeemer, rfl⟩ := check_ok.1 hcheck
    obtain ⟨m, _, hread, h₆⟩ := bind_ok.1 h₅
    obtain ⟨rfl, rfl⟩ := hloads.read_ok.1 hread
    cases hmode : m.redeemMode with
    | direct =>
      rw [hmode] at h₆
      obtain ⟨n, _, hconsume, hret⟩ := bind_ok.1 h₆
      obtain ⟨haccepts, f', t', hf', ht', -, rfl⟩ := ConsumeSwapLayerFill.consumePreparedFill_ok.1 hconsume
      obtain ⟨-, rfl⟩ := pure_ok.1 hret
      obtain rfl := Option.some.inj (hloads.fill.symm.trans hf')
      obtain rfl := Option.some.inj (ht.token.symm.trans ht'.token)
      exact ⟨f, m, p, t, hloads, ht, hrecipient, hredeemer, hmode, haccepts, rfl⟩
    | payload sender buf =>
      rw [hmode] at h₆
      exact (fail_ok.1 h₆).elim
    | relay gasDropoff relayingFee =>
      rw [hmode] at h₆
      exact (fail_ok.1 h₆).elim
  · rintro ⟨f, m, p, t, hloads, ht, hrecipient, hredeemer, hmode, haccepts, rfl⟩
    refine bind_ok.2 ⟨(f, m, p), b, ConsumeSwapLayerFill.load_ok.2 ⟨hloads, rfl⟩, ?_⟩
    refine bind_ok.2 ⟨(), b, checkAssociated_ok.2 ⟨⟨t, ht⟩, rfl⟩, ?_⟩
    refine bind_ok.2 ⟨m, b, hloads.read_ok.2 ⟨rfl, rfl⟩, ?_⟩
    refine bind_ok.2 ⟨(), b, check_ok.2 ⟨hrecipient, rfl⟩, ?_⟩
    refine bind_ok.2 ⟨(), b, check_ok.2 ⟨hredeemer, rfl⟩, ?_⟩
    refine bind_ok.2 ⟨m, b, hloads.read_ok.2 ⟨rfl, rfl⟩, ?_⟩
    simp only [hmode]
    exact bind_ok.2 ⟨_, _, ConsumeSwapLayerFill.consumePreparedFill_ok.2
      ⟨haccepts, f, t, hloads.fill, ⟨ht.token, ht.program, ht.mint, rfl⟩, rfl, rfl⟩, rfl⟩

/-- The state after a USDC account has been created. -/
def opened (d : Deployment) (x : Externals) (k owner payer : Pubkey) (b : Bank) : Bank :=
  b.withAccounts ((b.accounts.moveLamports payer k (x.tokenRent - b.lamports k)).setToken k
    (some ⟨.token, d.usdcMint, owner, 0, none, 0⟩))

@[simp] theorem opened_tokens (k owner payer : Pubkey) :
    (opened d x k owner payer b).tokens =
      Function.update b.tokens k (some ⟨.token, d.usdcMint, owner, 0, none, 0⟩) := by
  show Function.update (b.accounts.moveLamports payer k _).tokens k _ = _
  rw [Accounts.moveLamports_tokens]
  rfl

theorem createUsdc_ok {k owner payer : Pubkey} (hne : payer ≠ k) :
    createToken d.nativeMint .token x.tokenRent k d.usdcMint owner payer b = .ok (u, b') ↔
      b.tokens k = none ∧ Affords payer (x.tokenRent - b.lamports k) b ∧
        b' = opened d x k owner payer b := by
  rw [createToken_ok hne, if_neg d.usdc_ne_native]
  rfl

/-! ### Relays -/

/-- What the account constraints of a relay say: the accounts exist, the account that takes the fill
does not yet, and who is not the recipient waits for the time limit of a swap. -/
structure RelayChecked (d : Deployment) (x : Externals) (a : CompleteTransferRelay) (b : Bank)
    (f : PreparedFill) (m : SwapMessageV1) (p : Peer) (t e : TokenAccount Pubkey) : Prop where
  loads : a.consumeSwapLayerFill.Loads b f m p
  account : TokenOf b (recipientTokenAccount d a.recipient) d.usdcMint a.recipient .token t
  feeRecipient : b.tokens b.custodian.feeRecipientToken = some e
  feeProgram : e.program = .token
  payer : a.payer ≠ a.completeToken d
  fresh : b.tokens (a.completeToken d) = none
  rent : Affords a.payer (x.tokenRent - b.lamports (a.completeToken d)) b
  recipient : a.recipient = m.recipient
  timeLimit : m.outputToken ≠ .usdc → a.redeemer ≠ a.recipient →
    swapTimeLimitExceeded x f p.relayParams.swapTimeLimit = .ok ()

theorem checkTimeLimit_ok {a : CompleteTransferRelay} {f : PreparedFill} {m : SwapMessageV1}
    {p : Peer} : checkTimeLimit x a f m p b = .ok (u, b') ↔
      (m.outputToken ≠ .usdc → a.redeemer ≠ a.recipient →
        swapTimeLimitExceeded x f p.relayParams.swapTimeLimit = .ok ()) ∧ b' = b := by
  unfold checkTimeLimit
  split
  · rename_i hwait
    rw [lift_ok]
    exact ⟨fun h => ⟨fun _ _ => h.1, h.2⟩, fun h => ⟨h.1 hwait.1 hwait.2, h.2⟩⟩
  · rename_i hfree
    rw [pure_ok]
    exact ⟨fun h => ⟨fun hswap hother => absurd ⟨hswap, hother⟩ hfree, h.2⟩, fun h => ⟨rfl, h.2⟩⟩

theorem initCompleteRelay_ok {r : Error} {a : CompleteTransferRelay} {f : PreparedFill} :
    initCompleteRelay r d x a b = .ok (f, b') ↔ (∃ m p t e, RelayChecked d x a b f m p t e) ∧
      b' = opened d x (a.completeToken d) d.custodian a.payer b := by
  constructor
  · intro h
    obtain ⟨⟨f', m, p⟩, _, hload, h₁⟩ := bind_ok.1 h
    obtain ⟨hloads, rfl⟩ := ConsumeSwapLayerFill.load_ok.1 hload
    obtain ⟨_, _, haccount, h₂⟩ := bind_ok.1 h₁
    obtain ⟨⟨t, ht⟩, rfl⟩ := checkAssociated_ok.1 haccount
    obtain ⟨_, _, hget, h₃⟩ := bind_ok.1 h₂
    obtain ⟨rfl, rfl⟩ := getBank_ok.1 hget
    obtain ⟨e, _, hfee, h₄⟩ := bind_ok.1 h₃
    obtain ⟨he, hep, rfl⟩ := tokenAccount_ok.1 hfee
    obtain ⟨_, _, hcheck, h₅⟩ := bind_ok.1 h₄
    obtain ⟨hpayer, rfl⟩ := constraint_ok.1 hcheck
    obtain ⟨_, _, hinit, h₆⟩ := bind_ok.1 h₅
    obtain ⟨hnone, hrent, rfl⟩ := (createUsdc_ok hpayer).1 hinit
    obtain ⟨m', _, hread, h₇⟩ := bind_ok.1 h₆
    obtain ⟨rfl, rfl⟩ := hloads.read_ok.1 hread
    obtain ⟨_, _, hcheck, h₈⟩ := bind_ok.1 h₇
    obtain ⟨hrecipient, rfl⟩ := check_ok.1 hcheck
    obtain ⟨_, _, hlimit, hret⟩ := bind_ok.1 h₈
    obtain ⟨rfl, rfl⟩ := pure_ok.1 hret
    obtain ⟨hexceeded, rfl⟩ := checkTimeLimit_ok.1 hlimit
    exact ⟨⟨_, p, t, e, hloads, ht, he, hep, hpayer, hnone, hrent, hrecipient, hexceeded⟩, rfl⟩
  · rintro ⟨⟨m, p, t, e, h⟩, rfl⟩
    refine bind_ok.2 ⟨(f, m, p), b, ConsumeSwapLayerFill.load_ok.2 ⟨h.loads, rfl⟩, ?_⟩
    refine bind_ok.2 ⟨(), b, checkAssociated_ok.2 ⟨⟨t, h.account⟩, rfl⟩, ?_⟩
    refine bind_ok.2 ⟨b, b, rfl, ?_⟩
    refine bind_ok.2 ⟨e, b, tokenAccount_ok.2 ⟨h.feeRecipient, h.feeProgram, rfl⟩, ?_⟩
    refine bind_ok.2 ⟨(), b, constraint_ok.2 ⟨h.payer, rfl⟩, ?_⟩
    refine bind_ok.2 ⟨(), _, (createUsdc_ok h.payer).2 ⟨h.fresh, h.rent, rfl⟩, ?_⟩
    refine bind_ok.2 ⟨m, _, h.loads.read_ok.2 ⟨rfl, rfl⟩, ?_⟩
    refine bind_ok.2 ⟨(), _, check_ok.2 ⟨h.recipient, rfl⟩, ?_⟩
    exact bind_ok.2 ⟨(), _, checkTimeLimit_ok.2 ⟨h.timeLimit, rfl⟩, rfl⟩

theorem payGasDropoff_ok {payer recipient : Pubkey} {gasDropoff : ℕ} :
    payGasDropoff payer recipient gasDropoff b = .ok (u, b') ↔ Affords payer gasDropoff b ∧
      b' = b.withAccounts (b.accounts.moveLamports payer recipient gasDropoff) := by
  unfold payGasDropoff
  split
  · rename_i hpositive
    rw [systemTransfer_ok]
    exact ⟨fun ⟨hplain, hle, h⟩ => ⟨⟨fun _ => hplain, hle⟩, h⟩,
      fun ⟨haffords, h⟩ => ⟨haffords.plain hpositive, haffords.enough, h⟩⟩
  · rename_i hzero
    obtain rfl : gasDropoff = 0 := by omega
    rw [Accounts.moveLamports_zero, pure_ok]
    exact ⟨fun h => ⟨⟨fun hlt => absurd hlt hzero, Nat.zero_le _⟩, h.2⟩, fun h => ⟨rfl, h.2⟩⟩

theorem relayUserAmount_self {a : CompleteTransferRelay} {gasDropoff relayingFee fillAmount n : ℕ}
    (hself : a.redeemer = a.recipient) :
    relayUserAmount a gasDropoff relayingFee fillAmount b = .ok (n, b') ↔
      n = fillAmount ∧ b' = b := by
  rw [relayUserAmount, if_pos hself, pure_ok]

/-- A relayer pays the gas dropoff, and leaves the fill without the fee. -/
theorem relayUserAmount_other {a : CompleteTransferRelay} {gasDropoff relayingFee fillAmount n : ℕ}
    (hother : a.redeemer ≠ a.recipient) :
    relayUserAmount a gasDropoff relayingFee fillAmount b = .ok (n, b') ↔
      relayingFee ≤ fillAmount ∧ Affords a.payer gasDropoff b ∧ n = fillAmount - relayingFee ∧
        b' = b.withAccounts (b.accounts.moveLamports a.payer a.recipient gasDropoff) := by
  rw [relayUserAmount, if_neg hother]
  simp only [bind_ok, payGasDropoff_ok, check_ok, pure_ok]
  constructor
  · rintro ⟨_, _, ⟨hle, rfl⟩, _, _, ⟨hfee, rfl⟩, rfl, rfl⟩
    exact ⟨hfee, hle, rfl, rfl⟩
  · rintro ⟨hfee, hle, rfl, rfl⟩
    exact ⟨(), _, ⟨hle, rfl⟩, (), _, ⟨hfee, rfl⟩, rfl, rfl⟩

/-- The recipient's share; no tokens move yet. -/
theorem relayUserAmount_ok {a : CompleteTransferRelay} {gasDropoff relayingFee fillAmount n : ℕ}
    (h : relayUserAmount a gasDropoff relayingFee fillAmount b = .ok (n, b')) :
    (if a.redeemer = a.recipient then n = fillAmount
      else relayingFee ≤ fillAmount ∧ n = fillAmount - relayingFee) ∧
      b'.tokens = b.tokens ∧ SameState b b' := by
  by_cases hself : a.redeemer = a.recipient
  · obtain ⟨hn, rfl⟩ := (relayUserAmount_self hself).1 h
    rw [if_pos hself]
    exact ⟨hn, rfl, .refl _⟩
  · obtain ⟨hfee, -, hn, rfl⟩ := (relayUserAmount_other hself).1 h
    rw [if_neg hself]
    exact ⟨⟨hfee, hn⟩, Accounts.moveLamports_tokens .., .withAccounts _ _⟩

/-- The account that took the fill, with `n` left in it. -/
def completeAccount (d : Deployment) (n : ℕ) : TokenAccount Pubkey :=
  ⟨.token, d.usdcMint, d.custodian, n, none, 0⟩

/-- **How a relay is settled**: `n` for the recipient, what is missing to `total` for the fee
recipient, and the rent for the payer. -/
structure RelaySettled (d : Deployment) (a : CompleteTransferRelay) (total n : ℕ) (b b' : Bank) :
    Prop where
  le : n ≤ total
  tokens : b'.tokens = Function.update
    (credited (credited b.tokens (recipientTokenAccount d a.recipient) n)
      b.custodian.feeRecipientToken (total - n)) (a.completeToken d) none
  lamports : b'.lamports =
    (b.accounts.moveLamports (a.completeToken d) a.payer (b.lamports (a.completeToken d))).lamports
  state : SameState b b'

theorem subUnwrap_ok {e : Error} {m n k : ℕ} : subUnwrap e m n = .ok k ↔ n ≤ m ∧ k = m - n := by
  unfold subUnwrap
  split
  · rename_i hle
    rw [Except.ok.injEq, eq_comm]
    exact ⟨fun h => ⟨hle, h⟩, fun h => h.2⟩
  · rename_i hlt
    exact ⟨nofun, fun h => absurd h.1 hlt⟩

section Settle

variable {r : Error} {a : CompleteTransferRelay} {total n : ℕ}

/-- Tokens that leave the account of the fill. -/
theorem payComplete_ok {dst : Pubkey} {left : ℕ} (hne : a.completeToken d ≠ dst)
    (hc : b.tokens (a.completeToken d) = some (completeAccount d left))
    (h : cpi (transfer d.nativeMint .token (a.completeToken d) dst d.custodian n) b = .ok (u, b')) :
    n ≤ left ∧ b'.tokens = Function.update (credited b.tokens dst n) (a.completeToken d)
        (some (completeAccount d (left - n))) ∧ b'.lamports = b.lamports ∧ SameState b b' := by
  obtain ⟨_, hop, rfl⟩ := cpi_ok.1 h
  obtain ⟨-, -, hle, t, ht, -, -, rfl⟩ := (transfer_owner_ok hne hc rfl).1 hop
  exact ⟨hle, transferred_tokens hne ht, transferred_lamports_of_ne d.usdc_ne_native,
    .withAccounts _ _⟩

/-- What the fee recipient gets empties the account. -/
theorem payFeeRecipient_ok (hfee : a.completeToken d ≠ b.custodian.feeRecipientToken)
    (hc : b.tokens (a.completeToken d) = some (completeAccount d (total - n)))
    (h : payFeeRecipient r d a total n b = .ok (u, b')) :
    b'.tokens = Function.update (credited b.tokens b.custodian.feeRecipientToken (total - n))
        (a.completeToken d) (some (completeAccount d 0)) ∧
      b'.lamports = b.lamports ∧ SameState b b' := by
  unfold payFeeRecipient at h
  split at h
  · obtain ⟨_, _, hget, h₁⟩ := bind_ok.1 h
    obtain ⟨rfl, rfl⟩ := getBank_ok.1 hget
    obtain ⟨fee, _, hsub, hpay⟩ := bind_ok.1 h₁
    obtain ⟨hfee', rfl⟩ := lift_ok.1 hsub
    obtain ⟨-, rfl⟩ := subUnwrap_ok.1 hfee'
    obtain ⟨-, htokens, hlamports, hsame⟩ := payComplete_ok hfee hc hpay
    rw [Nat.sub_self] at htokens
    exact ⟨htokens, hlamports, hsame⟩
  · rename_i hall
    obtain ⟨-, rfl⟩ := pure_ok.1 h
    have hzero : total - n = 0 := by omega
    rw [hzero, credited_zero]
    refine ⟨?_, rfl, .refl _⟩
    rw [hzero] at hc
    exact (Function.update_eq_self_iff.2 hc.symm).symm

theorem payFeeRecipient_none : payFeeRecipient r d a total total b = .ok ((), b) :=
  congrFun (if_neg (not_not.2 rfl)) b

theorem settleRelay_ok (hne : a.completeToken d ≠ recipientTokenAccount d a.recipient)
    (hfee : a.completeToken d ≠ b.custodian.feeRecipientToken)
    (hc : b.tokens (a.completeToken d) = some (completeAccount d total))
    (h : settleRelay r d a total n b = .ok (u, b')) : RelaySettled d a total n b b' := by
  obtain ⟨_, b₁, hpay, h₁⟩ := bind_ok.1 h
  obtain ⟨hle, htokens₁, hlamports₁, hsame₁⟩ := payComplete_ok hne hc hpay
  obtain ⟨_, b₂, hfeePaid, hclose⟩ := bind_ok.1 h₁
  have hc₁ : b₁.tokens (a.completeToken d) = some (completeAccount d (total - n)) := by
    rw [htokens₁, Function.update_self]
  obtain ⟨htokens₂, hlamports₂, hsame₂⟩ :=
    payFeeRecipient_ok (hsame₁.custodian.symm ▸ hfee) hc₁ hfeePaid
  obtain ⟨_, hop, rfl⟩ := cpi_ok.1 hclose
  obtain ⟨-, _, -, -, -, -, rfl⟩ := closeAccount_ok.1 hop
  refine ⟨hle, ?_, ?_, ?_⟩
  · rw [Bank.withAccounts_tokens, Accounts.moveLamports_tokens, Accounts.setToken_tokens]
    show Function.update b₂.tokens _ _ = _
    rw [htokens₂, hsame₁.custodian, htokens₁, credited_update hfee, Function.update_idem,
      Function.update_idem]
  · have hlamports := hlamports₂.trans hlamports₁
    rw [← congrFun hlamports]
    exact Accounts.moveLamports_congr
      (show (b₂.accounts.setToken (a.completeToken d) none).lamports = b.accounts.lamports
        from hlamports) _ _ _
  · exact hsame₁.trans _ _ _ (hsame₂.trans _ _ _ (.withAccounts _ _))

/-- Without a fee the account is emptied at once, and nothing is in the way of closing it. -/
theorem settleRelay_exists {t : TokenAccount Pubkey}
    (hne : a.completeToken d ≠ recipientTokenAccount d a.recipient) (hpayer : a.payer ≠ a.completeToken d)
    (hc : b.tokens (a.completeToken d) = some (completeAccount d total))
    (ht : TokenOf b (recipientTokenAccount d a.recipient) d.usdcMint a.recipient .token t) :
    ∃ b', settleRelay r d a total total b = .ok ((), b') := by
  have hpay : transfer d.nativeMint .token (a.completeToken d)
      (recipientTokenAccount d a.recipient) d.custodian total b.accounts = .ok ((), transferred
        d.nativeMint (a.completeToken d) (recipientTokenAccount d a.recipient)
        (completeAccount d total) t total b.accounts) :=
    (transfer_owner_ok hne hc rfl).2
      ⟨rfl, rfl, Nat.le_refl total, t, ht.token, ht.program, ht.mint.symm, rfl⟩
  refine ⟨_, bind_ok.2 ⟨(), _, cpi_ok.2 ⟨_, hpay, rfl⟩, bind_ok.2 ⟨(), _, payFeeRecipient_none,
    cpi_ok.2 ⟨_, closeAccount_ok.2 ⟨hpayer.symm, completeAccount d 0, ?_, rfl, .inr rfl, rfl, rfl⟩,
      rfl⟩⟩⟩⟩
  exact (transferred_src hne).trans (by rw [completeAccount, Nat.sub_self, completeAccount])

end Settle

section Relay

variable {a : CompleteTransferRelay} {f : PreparedFill} {m : SwapMessageV1} {p : Peer}
  {t e : TokenAccount Pubkey}

/-- An account that exists is not the one that takes the fill. -/
theorem RelayChecked.complete_ne (h : RelayChecked d x a b f m p t e) {k : Pubkey}
    {c : TokenAccount Pubkey} (hk : b.tokens k = some c) : a.completeToken d ≠ k := by
  intro he
  have hfresh := h.fresh
  rw [he, hk] at hfresh
  cases hfresh

/-- The state after the fill has been consumed into the new account. -/
def relayConsumed (d : Deployment) (x : Externals) (a : CompleteTransferRelay) (f : PreparedFill)
    (b : Bank) : Bank :=
  a.consumeSwapLayerFill.consumed (a.completeToken d) (completeAccount d 0) f.amount
    (opened d x (a.completeToken d) d.custodian a.payer b)

theorem relayConsumed_tokens : (relayConsumed d x a f b).tokens =
    Function.update b.tokens (a.completeToken d) (some (completeAccount d f.amount)) := by
  rw [relayConsumed, ConsumeSwapLayerFill.consumed_tokens, opened_tokens, Function.update_idem]
  simp [completeAccount]

/-- Consuming the fill into the new account. -/
theorem consumeRelay_ok {n : ℕ} (h : RelayChecked d x a b f m p t e) :
    a.consumeSwapLayerFill.consumePreparedFill d x (a.completeToken d)
        (opened d x (a.completeToken d) d.custodian a.payer b) = .ok (n, b') ↔
      x.acceptsFill a.consumeSwapLayerFill.fill = true ∧ n = f.amount ∧
        b' = relayConsumed d x a f b := by
  have hopened : (opened d x (a.completeToken d) d.custodian a.payer b).tokens (a.completeToken d) =
      some (completeAccount d 0) := by
    rw [opened_tokens, Function.update_self, completeAccount]
  rw [ConsumeSwapLayerFill.consumePreparedFill_ok]
  constructor
  · rintro ⟨haccepts, f', t', hf', ht', rfl, rfl⟩
    obtain rfl := Option.some.inj (h.loads.fill.symm.trans hf')
    obtain rfl := Option.some.inj (hopened.symm.trans ht'.token)
    exact ⟨haccepts, Nat.zero_add _, rfl⟩
  · rintro ⟨haccepts, rfl, rfl⟩
    exact ⟨haccepts, f, completeAccount d 0, h.loads.fill, ⟨hopened, rfl, rfl, rfl⟩,
      (Nat.zero_add _).symm, rfl⟩

/-- The token accounts after a relay: the one that took the fill is gone again. -/
theorem RelayChecked.settled_tokens {n : ℕ} {b₁ : Bank} (h : RelayChecked d x a b f m p t e)
    (htokens : b₁.tokens = (relayConsumed d x a f b).tokens)
    (hcustodian : b₁.custodian = b.custodian) (hsettled : RelaySettled d a f.amount n b₁ b') :
    b'.tokens = credited (credited b.tokens (recipientTokenAccount d a.recipient) n)
      b.custodian.feeRecipientToken (f.amount - n) := by
  have hne := h.complete_ne h.account.token
  have hfee := h.complete_ne h.feeRecipient
  rw [hsettled.tokens, hcustodian, htokens, relayConsumed_tokens, credited_update hne,
    credited_update hfee, Function.update_idem, Function.update_eq_self_iff, credited_other hfee,
    credited_other hne, h.fresh]

/-- What a relay pays: `n` to the recipient, and the rest of the fill to the fee recipient. -/
structure Relayed (d : Deployment) (a : CompleteTransferRelay) (f : PreparedFill) (n : ℕ)
    (b b' : Bank) : Prop where
  le : n ≤ f.amount
  tokens : b'.tokens = credited (credited b.tokens (recipientTokenAccount d a.recipient) n)
    b.custodian.feeRecipientToken (f.amount - n)
  fills : b'.fills = Function.update b.fills a.consumeSwapLayerFill.fill none
  inbound : b'.inbound = b.inbound

/-- The stages of a relay: the checks, the fill in the new account, the share of the recipient, and the
settlement. -/
theorem completeTransferRelay_stages (h : completeTransferRelay d x a b = .ok (u, b')) :
    ∃ f m p t e, ∃ gasDropoff : Uint 4, ∃ relayingFee : Uint 6, ∃ n b₁, RelayChecked d x a b f m p t e ∧
      m.redeemMode = .relay gasDropoff relayingFee ∧
      x.acceptsFill a.consumeSwapLayerFill.fill = true ∧
      relayUserAmount a (denormalizeGasDropoff gasDropoff) relayingFee f.amount
        (relayConsumed d x a f b) = .ok (n, b₁) ∧
      RelaySettled d a f.amount n b₁ b' := by
  obtain ⟨f, _, hinit, h₁⟩ := bind_ok.1 h
  obtain ⟨⟨m, p, t, e, hchecked⟩, rfl⟩ := initCompleteRelay_ok.1 hinit
  obtain ⟨m', _, hread, h₂⟩ := bind_ok.1 h₁
  obtain ⟨rfl, rfl⟩ := hchecked.loads.read_ok.1 hread
  cases hmode : m'.redeemMode with
  | direct =>
    rw [hmode] at h₂
    exact (fail_ok.1 h₂).elim
  | payload sender buf =>
    rw [hmode] at h₂
    exact (fail_ok.1 h₂).elim
  | relay gasDropoff relayingFee =>
    rw [hmode] at h₂
    obtain ⟨_, _, hconsume, h₃⟩ := bind_ok.1 h₂
    obtain ⟨haccepts, rfl, rfl⟩ := (consumeRelay_ok hchecked).1 hconsume
    obtain ⟨n, b₁, hamount, hsettle⟩ := bind_ok.1 h₃
    obtain ⟨-, htokens, hsame⟩ := relayUserAmount_ok hamount
    have hcustodian : b₁.custodian = b.custodian := hsame.custodian
    have hc : b₁.tokens (a.completeToken d) = some (completeAccount d f.amount) := by
      rw [htokens, relayConsumed_tokens, Function.update_self]
    exact ⟨f, _, p, t, e, gasDropoff, relayingFee, n, b₁, hchecked, hmode, haccepts, hamount,
      settleRelay_ok (hchecked.complete_ne hchecked.account.token)
        (hcustodian ▸ hchecked.complete_ne hchecked.feeRecipient) hc hsettle⟩

/-- **`complete_transfer_relay`** leaves the recipient all of the fill, or all but the fee if somebody
else redeems. -/
theorem completeTransferRelay_ok (h : completeTransferRelay d x a b = .ok (u, b')) :
    ∃ f m p t e gasDropoff relayingFee n, RelayChecked d x a b f m p t e ∧
      m.redeemMode = .relay gasDropoff relayingFee ∧
      x.acceptsFill a.consumeSwapLayerFill.fill = true ∧
      (if a.redeemer = a.recipient then n = f.amount
        else relayingFee ≤ f.amount ∧ n = f.amount - relayingFee) ∧ Relayed d a f n b b' := by
  obtain ⟨f, m, p, t, e, gasDropoff, relayingFee, n, b₁, hchecked, hmode, haccepts, hamount,
    hsettled⟩ := completeTransferRelay_stages h
  obtain ⟨hn, htokens, hsame⟩ := relayUserAmount_ok hamount
  exact ⟨f, m, p, t, e, gasDropoff, relayingFee, n, hchecked, hmode, haccepts, hn, hsettled.le,
    hchecked.settled_tokens htokens hsame.custodian hsettled,
    hsettled.state.fills.trans hsame.fills, hsettled.state.inbound.trans hsame.inbound⟩

/-- The recipient gets through, whatever the fee and the gas dropoff. -/
theorem completeTransferRelay_exists {gasDropoff : Uint 4} {relayingFee : Uint 6}
    (h : RelayChecked d x a b f m p t e) (hmode : m.redeemMode = .relay gasDropoff relayingFee)
    (haccepts : x.acceptsFill a.consumeSwapLayerFill.fill = true) (hself : a.redeemer = a.recipient) :
    ∃ b', completeTransferRelay d x a b = .ok ((), b') := by
  have hne := h.complete_ne h.account.token
  have hc : (relayConsumed d x a f b).tokens (a.completeToken d) =
      some (completeAccount d f.amount) := by
    rw [relayConsumed_tokens, Function.update_self]
  have ht : TokenOf (relayConsumed d x a f b) (recipientTokenAccount d a.recipient) d.usdcMint
      a.recipient .token t := by
    refine ⟨?_, h.account.program, h.account.mint, h.account.owner⟩
    rw [relayConsumed_tokens, Function.update_of_ne hne.symm]
    exact h.account.token
  obtain ⟨b', hsettle⟩ := settleRelay_exists (r := .panic) hne h.payer hc ht
  refine ⟨b', bind_ok.2 ⟨f, _, initCompleteRelay_ok.2 ⟨⟨m, p, t, e, h⟩, rfl⟩, ?_⟩⟩
  refine bind_ok.2 ⟨m, _, h.loads.read_ok.2 ⟨rfl, rfl⟩, ?_⟩
  simp only [hmode]
  exact bind_ok.2 ⟨_, _, (consumeRelay_ok h).2 ⟨haccepts, rfl, rfl⟩,
    bind_ok.2 ⟨_, _, (relayUserAmount_self hself).2 ⟨rfl, rfl⟩, hsettle⟩⟩

end Relay

/-! ### Payloads -/

theorem initStagedInbound_ok {payer k : Pubkey} {m : SwapMessageV1}
    (h : initStagedInbound x payer k m b = .ok (u, b')) : b'.tokens = b.tokens ∧ SameState b b' := by
  obtain ⟨c, c', hget, h₁⟩ := bind_ok.1 h
  obtain ⟨rfl, rfl⟩ := getBank_ok.1 hget
  cases hk : c'.inbound k with
  | some s =>
    simp only [hk] at h₁
    obtain ⟨-, rfl⟩ := pure_ok.1 h₁
    exact ⟨rfl, .refl _⟩
  | none =>
    simp only [hk] at h₁
    obtain ⟨size, _, hsize, h₂⟩ := bind_ok.1 h₁
    obtain ⟨-, rfl⟩ := lift_ok.1 hsize
    obtain ⟨_, _, hcheck, h₃⟩ := bind_ok.1 h₂
    obtain ⟨-, rfl⟩ := constraint_ok.1 hcheck
    obtain ⟨-, rfl⟩ := payRent_ok.1 h₃
    exact ⟨Accounts.moveLamports_tokens .., .withAccounts _ _⟩

theorem initStagedInbound_new {payer k : Pubkey} {m : SwapMessageV1} {size : ℕ}
    (hnone : b.inbound k = none) (hsize : StagedInbound.tryComputeSize m = .ok size)
    (hpayer : payer ≠ k) (hrent : Affords payer (x.rent size - b.lamports k) b) :
    initStagedInbound x payer k m b = .ok ((), b.withAccounts
      (b.accounts.moveLamports payer k (x.rent size - b.lamports k))) := by
  refine bind_ok.2 ⟨b, b, rfl, ?_⟩
  simp only [hnone]
  exact bind_ok.2 ⟨size, b, lift_ok.2 ⟨hsize, rfl⟩, bind_ok.2 ⟨(), b,
    constraint_ok.2 ⟨hpayer, rfl⟩, payRent_ok.2 ⟨hrent, rfl⟩⟩⟩

/-- A USDC account of an owner, whether it exists already or is created. -/
theorem initUsdcIfNeeded_ok {payer k owner : Pubkey} :
    initUsdcIfNeeded d x payer k owner b = .ok (u, b') ↔
      (∃ t, TokenOf b k d.usdcMint owner .token t ∧ b' = b) ∨
        (b.tokens k = none ∧ payer ≠ k ∧ Affords payer (x.tokenRent - b.lamports k) b ∧
          b' = opened d x k owner payer b) := by
  simp only [initUsdcIfNeeded, bind_ok, getBank_ok]
  constructor
  · rintro ⟨c, c', ⟨rfl, rfl⟩, h⟩
    cases hk : c'.tokens k with
    | some t =>
      simp only [hk] at h
      obtain ⟨⟨t, ht⟩, rfl⟩ := checkAssociated_ok.1 h
      exact .inl ⟨t, ht, rfl⟩
    | none =>
      simp only [hk] at h
      obtain ⟨_, _, hcheck, hinit⟩ := bind_ok.1 h
      obtain ⟨hpayer, rfl⟩ := constraint_ok.1 hcheck
      obtain ⟨-, hrent, rfl⟩ := (createUsdc_ok hpayer).1 hinit
      exact .inr ⟨rfl, hpayer, hrent, rfl⟩
  · rintro (⟨t, ht, rfl⟩ | ⟨hnone, hpayer, hrent, rfl⟩)
    · refine ⟨_, _, ⟨rfl, rfl⟩, ?_⟩
      rw [ht.token]
      exact checkAssociated_ok.2 ⟨⟨t, ht⟩, rfl⟩
    · refine ⟨b, b, ⟨rfl, rfl⟩, ?_⟩
      rw [hnone]
      exact bind_ok.2 ⟨(), b, constraint_ok.2 ⟨hpayer, rfl⟩, (createUsdc_ok hpayer).2 ⟨hnone, hrent, rfl⟩⟩

theorem stagedInbound_ok {a : ConsumeSwapLayerFill} {payer custody : Pubkey} {f : PreparedFill}
    {m : SwapMessageV1} {isNative : Bool} {s : StagedInbound} :
    stagedInbound a payer custody f m isNative = .ok s ↔ ∃ sender buf,
      m.redeemMode = .payload sender buf ∧ s = ⟨a.fill, custody, payer, f.sourceChain, sender,
        m.recipient, isNative, buf.val⟩ := by
  unfold stagedInbound
  cases m.redeemMode with
  | direct => exact ⟨nofun, nofun⟩
  | relay gasDropoff relayingFee => exact ⟨nofun, nofun⟩
  | payload sender buf =>
    constructor
    · intro h
      cases h
      exact ⟨sender, buf, rfl, rfl⟩
    · rintro ⟨_, _, h, rfl⟩
      cases h
      rfl

/-- What a staged payload leaves: the fill is in the custody account of a staged transfer to the
recipient. -/
structure PayloadStaged (d : Deployment) (a : CompleteTransferPayload) (f : PreparedFill)
    (t : TokenAccount Pubkey) (s : StagedInbound) (b b' : Bank) : Prop where
  inbound : b'.inbound = Function.update b.inbound (d.stagedInbound a.consumeSwapLayerFill.fill)
    (some s)
  tokens : b'.tokens = Function.update b.tokens
    (d.stagedCustody (d.stagedInbound a.consumeSwapLayerFill.fill))
    (some { t with amount := t.amount + f.amount })
  fills : b'.fills = Function.update b.fills a.consumeSwapLayerFill.fill none

/-- The custody account before the fill arrives: as it is, or new. -/
def CustodyBefore (d : Deployment) (k : Pubkey) (b : Bank) (t : TokenAccount Pubkey) : Prop :=
  TokenOf b (d.stagedCustody k) d.usdcMint k .token t ∨
    (b.tokens (d.stagedCustody k) = none ∧ t = ⟨.token, d.usdcMint, k, 0, none, 0⟩)

section Payload

variable {a : CompleteTransferPayload}

/-- **`complete_transfer_payload`** stages the fill for its recipient, who has to redeem if a swap was
asked for. -/
theorem completeTransferPayload_ok (h : completeTransferPayload d x a b = .ok (u, b')) :
    ∃ f m p sender buf t s, a.consumeSwapLayerFill.Loads b f m p ∧
      m.redeemMode = .payload sender buf ∧
      (m.outputToken = .usdc ∨ a.redeemer = m.recipient) ∧
      x.acceptsFill a.consumeSwapLayerFill.fill = true ∧
      CustodyBefore d (d.stagedInbound a.consumeSwapLayerFill.fill) b t ∧
      s = ⟨a.consumeSwapLayerFill.fill, d.stagedCustody (d.stagedInbound a.consumeSwapLayerFill.fill),
        a.payer, f.sourceChain, sender, m.recipient, false, buf.val⟩ ∧
      PayloadStaged d a f t s b b' := by
  obtain ⟨⟨f, m, p⟩, _, hload, h₁⟩ := bind_ok.1 h
  obtain ⟨hloads, rfl⟩ := ConsumeSwapLayerFill.load_ok.1 hload
  obtain ⟨_, _, hread, h₂⟩ := bind_ok.1 h₁
  obtain ⟨rfl, rfl⟩ := hloads.read_ok.1 hread
  obtain ⟨_, b₁, hinit, h₃⟩ := bind_ok.1 h₂
  obtain ⟨htokens₁, hsame₁⟩ := initStagedInbound_ok hinit
  obtain ⟨_, b₂, hcustody, h₄⟩ := bind_ok.1 h₃
  obtain ⟨_, _, hread, h₅⟩ := bind_ok.1 h₄
  obtain ⟨rfl, rfl⟩ := hloads.read_ok.1 hread
  obtain ⟨_, _, hcheck, h₆⟩ := bind_ok.1 h₅
  obtain ⟨hredeemer, rfl⟩ := check_ok.1 hcheck
  obtain ⟨n, _, hconsume, h₇⟩ := bind_ok.1 h₆
  obtain ⟨haccepts, f', t, hf', ht, -, rfl⟩ := ConsumeSwapLayerFill.consumePreparedFill_ok.1 hconsume
  obtain ⟨m, _, hread, h₈⟩ := bind_ok.1 h₇
  obtain ⟨rfl, rfl⟩ := hloads.read_ok.1 hread
  obtain ⟨s, _, hstage, hset⟩ := bind_ok.1 h₈
  obtain ⟨hs, rfl⟩ := lift_ok.1 hstage
  obtain ⟨sender, buf, hmode, rfl⟩ := stagedInbound_ok.1 hs
  have hb' := modifyBank_ok.1 hset
  subst hb'
  have hfill := hloads.fill
  rw [← hsame₁.fills] at hfill
  rcases initUsdcIfNeeded_ok.1 hcustody with ⟨t₀, ht₀, rfl⟩ | ⟨hnone, -, -, rfl⟩
  · obtain rfl := Option.some.inj (hfill.symm.trans hf')
    obtain rfl := Option.some.inj (ht₀.token.symm.trans ht.token)
    refine ⟨f, m, p, sender, buf, t₀, _, hloads, hmode, hredeemer, haccepts,
      .inl ⟨?_, ht₀.program, ht₀.mint, ht₀.owner⟩, rfl, ?_, ?_, ?_⟩
    · rw [← htokens₁]
      exact ht₀.token
    · exact congrArg (Function.update · _ _) hsame₁.inbound
    · exact (ConsumeSwapLayerFill.consumed_tokens ..).trans (by rw [htokens₁])
    · exact congrArg (Function.update · _ _) hsame₁.fills
  · obtain rfl := Option.some.inj (hfill.symm.trans hf')
    obtain rfl := Option.some.inj
      (((congrFun (opened_tokens ..) _).trans (Function.update_self ..)).symm.trans ht.token)
    refine ⟨f, m, p, sender, buf, _, _, hloads, hmode, hredeemer, haccepts,
      .inr ⟨htokens₁ ▸ hnone, rfl⟩, rfl, ?_, ?_, ?_⟩
    · exact congrArg (Function.update · _ _) hsame₁.inbound
    · exact (ConsumeSwapLayerFill.consumed_tokens ..).trans
        (by rw [opened_tokens, Function.update_idem, htokens₁])
    · exact congrArg (Function.update · _ _) hsame₁.fills

/-- A payload whose accounts are all new is staged, if the recipient redeems. -/
theorem completeTransferPayload_exists {f : PreparedFill} {m : SwapMessageV1} {p : Peer}
    {sender : Fixed 32} {buf : Prefixed 2} (hloads : a.consumeSwapLayerFill.Loads b f m p)
    (hmode : m.redeemMode = .payload sender buf) (hredeemer : a.redeemer = m.recipient)
    (haccepts : x.acceptsFill a.consumeSwapLayerFill.fill = true)
    (hinbound : b.inbound (d.stagedInbound a.consumeSwapLayerFill.fill) = none)
    (hcustody : b.tokens (d.stagedCustody (d.stagedInbound a.consumeSwapLayerFill.fill)) = none)
    (hpayer : a.payer ≠ d.stagedInbound a.consumeSwapLayerFill.fill)
    (hpayer' : a.payer ≠ d.stagedCustody (d.stagedInbound a.consumeSwapLayerFill.fill))
    (hplain : b.Plain a.payer)
    (hrent : x.rent (buf.val.length + STAGED_INBOUND_BASE_SIZE) + x.tokenRent ≤ b.lamports a.payer) :
    ∃ b', completeTransferPayload d x a b = .ok ((), b') := by
  have hsize : StagedInbound.tryComputeSize m = .ok (buf.val.length + STAGED_INBOUND_BASE_SIZE) := by
    rw [StagedInbound.tryComputeSize, hmode]
  have hinit := initStagedInbound_new (x := x) hinbound hsize hpayer
    (.of_le hplain (Nat.le_of_add_right_le hrent) (Nat.sub_le _ _))
  refine ⟨_, bind_ok.2 ⟨(f, m, p), b, ConsumeSwapLayerFill.load_ok.2 ⟨hloads, rfl⟩,
    bind_ok.2 ⟨m, _, hloads.read_ok.2 ⟨rfl, rfl⟩, bind_ok.2 ⟨(), _, hinit,
    bind_ok.2 ⟨(), _, initUsdcIfNeeded_ok.2 (.inr ⟨?_, hpayer', ?_, rfl⟩),
    bind_ok.2 ⟨m, _, hloads.read_ok.2 ⟨rfl, rfl⟩,
    bind_ok.2 ⟨(), _, check_ok.2 ⟨.inr hredeemer, rfl⟩, bind_ok.2 ⟨_, _,
    ConsumeSwapLayerFill.consumePreparedFill_ok.2 ⟨haccepts, f, _, hloads.fill,
      ⟨(congrFun (opened_tokens ..) _).trans (Function.update_self ..), rfl, rfl, rfl⟩, rfl, rfl⟩,
    bind_ok.2 ⟨m, _, hloads.read_ok.2 ⟨rfl, rfl⟩,
    bind_ok.2 ⟨_, _, lift_ok.2 ⟨stagedInbound_ok.2 ⟨sender, buf, hmode, rfl⟩, rfl⟩,
      modifyBank_ok.2 rfl⟩⟩⟩⟩⟩⟩⟩⟩⟩⟩
  · rw [Bank.withAccounts_tokens, Accounts.moveLamports_tokens]
    exact hcustody
  · refine ⟨fun _ => hplain.withAccounts (Accounts.moveLamports_tokens ..), ?_⟩
    rw [Bank.withAccounts_lamports, Accounts.moveLamports_src _ hpayer]
    refine Nat.le_trans (Nat.sub_le _ _) ?_
    show _ ≤ b.lamports a.payer - _
    omega

end Payload

/-! ### Releases -/

section Release

variable {a : ReleaseInbound}

/-- What a release has checked: the recipient signs. -/
structure ReleaseChecked (d : Deployment) (a : ReleaseInbound) (b : Bank) (s : StagedInbound)
    (c : TokenAccount Pubkey) : Prop where
  staged : b.inbound a.stagedInbound = some s
  custody : b.tokens s.custodyToken = some c
  recipient : a.recipient = s.recipient
  beneficiary : a.beneficiary ≠ a.stagedInbound
  mint : c.mint = a.mint
  seeds : a.stagedInbound = d.stagedInbound s.preparedFill

/-- **`release_inbound`** is signed by the recipient, and pays all of the custody out. -/
theorem releaseInbound_ok (h : releaseInbound d a b = .ok (u, b')) :
    ∃ s c, ReleaseChecked d a b s c ∧ b'.inbound = Function.update b.inbound a.stagedInbound none ∧
      b'.fills = b.fills ∧ (c.delegate = none → s.custodyToken ≠ a.dstToken → b'.tokens =
        Function.update (credited b.tokens a.dstToken c.amount) s.custodyToken none) := by
  obtain ⟨s, _, hstaged, h₁⟩ := bind_ok.1 h
  obtain ⟨hs, rfl⟩ := loadAccount_ok.1 hstaged
  obtain ⟨c, _, hcustody, h₂⟩ := bind_ok.1 h₁
  obtain ⟨hc, rfl⟩ := interfaceTokenAccount_ok.1 hcustody
  obtain ⟨_, _, hcheck, h₃⟩ := bind_ok.1 h₂
  obtain ⟨hrecipient, rfl⟩ := constraint_ok.1 hcheck
  obtain ⟨_, _, hcheck, h₄⟩ := bind_ok.1 h₃
  obtain ⟨hbeneficiary, rfl⟩ := constraint_ok.1 hcheck
  obtain ⟨_, _, hcheck, h₅⟩ := bind_ok.1 h₄
  obtain ⟨hmint, rfl⟩ := constraint_ok.1 hcheck
  obtain ⟨_, _, hcheck, h₆⟩ := bind_ok.1 h₅
  obtain ⟨hseeds, rfl⟩ := constraint_ok.1 hcheck
  obtain ⟨_, b₁, htransfer, h₇⟩ := bind_ok.1 h₆
  obtain ⟨s₁, hop₁, rfl⟩ := cpi_ok.1 htransfer
  obtain ⟨_, b₂, hclose, h₈⟩ := bind_ok.1 h₇
  obtain ⟨s₂, hop₂, rfl⟩ := cpi_ok.1 hclose
  obtain ⟨-, _, -, -, -, -, rfl⟩ := closeAccount_ok.1 hop₂
  obtain ⟨_, b₃, hdata, hset⟩ := bind_ok.1 h₈
  have hb₃ := modifyBank_ok.1 hdata
  have hb' := modifyBank_ok.1 hset
  subst hb₃ hb'
  refine ⟨s, c, ⟨hs, hc, hrecipient, hbeneficiary, hmint, hseeds⟩, rfl, rfl, fun hd hne => ?_⟩
  obtain ⟨-, -, -, t, ht, -, -, rfl⟩ := (transfer_owner_ok hne hc hd).1 hop₁
  show (Accounts.moveLamports _ _ _ _).tokens = _
  rw [Accounts.moveLamports_tokens, Bank.withAccounts_accounts, Accounts.moveLamports_tokens,
    Accounts.setToken_tokens]
  show Function.update (transferred _ _ _ _ _ _ _).tokens _ _ = _
  rw [transferred_tokens hne ht, Function.update_idem]
  rfl

/-- The recipient can release what is staged, into an account of the same mint. -/
theorem releaseInbound_exists {s : StagedInbound} {c t : TokenAccount Pubkey}
    (h : ReleaseChecked d a b s c) (hd : c.delegate = none) (hne : s.custodyToken ≠ a.dstToken)
    (hp : c.program = a.tokenProgram) (howner : c.owner = a.stagedInbound)
    (ht : b.tokens a.dstToken = some t) (htp : t.program = a.tokenProgram) (htm : c.mint = t.mint)
    (hbeneficiary : s.custodyToken ≠ a.beneficiary) :
    ∃ b', releaseInbound d a b = .ok ((), b') := by
  have hpay : transfer d.nativeMint a.tokenProgram s.custodyToken a.dstToken a.stagedInbound
      c.amount b.accounts = .ok ((), transferred d.nativeMint s.custodyToken a.dstToken c t c.amount
        b.accounts) :=
    (transfer_owner_ok hne h.custody hd).2 ⟨hp, howner, Nat.le_refl _, t, ht, htp, htm, rfl⟩
  refine ⟨_, bind_ok.2 ⟨s, b, loadAccount_ok.2 ⟨h.staged, rfl⟩,
    bind_ok.2 ⟨c, b, interfaceTokenAccount_ok.2 ⟨h.custody, rfl⟩,
    bind_ok.2 ⟨(), b, constraint_ok.2 ⟨h.recipient, rfl⟩,
    bind_ok.2 ⟨(), b, constraint_ok.2 ⟨h.beneficiary, rfl⟩,
    bind_ok.2 ⟨(), b, constraint_ok.2 ⟨h.mint, rfl⟩,
    bind_ok.2 ⟨(), b, constraint_ok.2 ⟨h.seeds, rfl⟩,
    bind_ok.2 ⟨(), _, cpi_ok.2 ⟨_, hpay, rfl⟩,
    bind_ok.2 ⟨(), _, cpi_ok.2 ⟨_, closeAccount_ok.2 ⟨hbeneficiary, { c with amount := 0 }, ?_, hp,
      .inr rfl, howner, rfl⟩, rfl⟩, rfl⟩⟩⟩⟩⟩⟩⟩⟩⟩
  exact (transferred_src hne).trans (by rw [Nat.sub_self])

end Release

end Ok

end SwapLayer.Solana
