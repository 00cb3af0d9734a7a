import SwapLayer.Solana.Peers

/-!
# `stage_outbound`

Model of `processor/stage_outbound.rs` and `state/staged/outbound.rs`: an outbound transfer is
staged by writing down what it is for and moving the source tokens into a custody account that the
peer of the target chain owns.

The account constraints of the source come first, in the order of its account list, then the
instruction. Accounts that a constraint pins are not arguments; the encoded output token is
validated, and later read, without a look at what follows it.

Results:
* `stageOutbound_ok`: what a successful call has checked, and the staged account and the custody
  account it leaves (`StagedAs`).
* `stageOutbound_funded`: the same with the amounts (`Funded`).
-/

namespace SwapLayer.Solana

open ByteString Program SplToken Messages

/-! ## The staged account -/

/-- `OutputToken::read` of a slice. -/
def readOutputToken (bs : Bytes) (e : Error) : Except Error OutputToken :=
  match OutputToken.read bs with
  | .ok (token, _) => .ok token
  | .error _ => .error e

/-- The encoded output token; `None` stands for USDC. -/
def StageOutboundArgs.outputToken (args : StageOutboundArgs) : Bytes :=
  args.encodedOutputToken.getD (writeUint OutputToken.USDC)

/-- `DISCRIMINATOR`, `StagedOutboundInfo::INIT_SPACE` and the discriminant of `StagedRedeem`. -/
def STAGED_OUTBOUND_BASE_SIZE : ℕ := 8 + 141 + 1

/-- `StagedOutbound::try_compute_size`. -/
def StagedOutbound.tryComputeSize (redeemOption : Option RedeemOption)
    (encodedOutputToken : Option Bytes) : Except Error ℕ := do
  let redeemSize := match redeemOption with
    | some (.relay ..) => 12
    | some (.payload payload) => payload.length + 4
    | none => 0
  match encodedOutputToken with
  | some encoded => do
    let _ ← readOutputToken encoded (.swapLayer .invalidOutputToken)
    return STAGED_OUTBOUND_BASE_SIZE + redeemSize + (encoded.length + 4)
  | none => return STAGED_OUTBOUND_BASE_SIZE + redeemSize + 5

/-! ## The instruction -/

/-- The accounts of `stage_outbound`. -/
structure StageOutbound where
  payer : Pubkey
  sender : Option Pubkey
  programTransferAuthority : Option Pubkey
  senderToken : Option Pubkey
  /-- The chain of the peer. -/
  targetPeer : ℕ
  stagedOutbound : Pubkey
  usdcRefundToken : Pubkey
  srcMint : Pubkey
  srcTokenProgram : TokenProgram

section Definitions

variable (e : Error) (d : Deployment) (x : Externals) (a : StageOutbound) (args : StageOutboundArgs)

/-- The transfer authority is derived from the arguments, and needs a token account. -/
def checkTransferAuthority : Instruction Unit :=
  match a.programTransferAuthority with
  | some authority => do
    constraint (authority = d.transferAuthority args) .constraintSeeds
    check (a.senderToken.isSome = true) .senderTokenRequired
  | none => pure ()

/-- The sender's token account holds the source mint; without one the mint is the native one. -/
def checkSenderToken : Instruction Unit :=
  match a.senderToken with
  | some senderToken => do
    let t ← interfaceTokenAccount senderToken
    constraint (t.mint = a.srcMint) .constraintTokenMint
    constraint (t.program = a.srcTokenProgram) .constraintTokenTokenProgram
  | none => check (a.srcMint = d.nativeMint) .invalidSourceMint

/-- The account constraints, and the creation of the staged account and the custody account. -/
def initStaged : Instruction Peer := do
  checkTransferAuthority d a args
  checkSenderToken d a
  let peer ← registeredPeer a.targetPeer
  check (args.targetChain = a.targetPeer) .invalidTargetChain
  let refund ← tokenAccount a.usdcRefundToken
  let size ← lift (StagedOutbound.tryComputeSize args.redeemOption args.encodedOutputToken)
  let b ← getBank
  constraint (b.outbound a.stagedOutbound = none) .accountAlreadyInUse
  constraint (a.payer ≠ a.stagedOutbound) .tryingToInitPayerAsProgramAccount
  payRent a.payer a.stagedOutbound (x.rent size)
  check (args.amountIn ≠ 0) .zeroAmountIn
  check (args.recipient ≠ zeroKey) .invalidRecipient
  check (args.minAmountOut.isSome = true ∨ a.srcMint = d.usdcMint) .minAmountOutRequired
  constraint (a.payer ≠ d.stagedCustody a.stagedOutbound) .tryingToInitPayerAsProgramAccount
  -- the staged account exists by now
  constraint (a.stagedOutbound ≠ d.stagedCustody a.stagedOutbound) .accountAlreadyInUse
  createToken d.nativeMint a.srcTokenProgram x.tokenRent (d.stagedCustody a.stagedOutbound)
    a.srcMint (d.peer a.targetPeer) a.payer
  constraint (refund.mint = d.usdcMint) .constraintTokenMint
  constraint (x.mintProgram a.srcMint = some a.srcTokenProgram) .constraintMintTokenProgram
  return peer

/-- The amount that is taken from the sender of a relay. -/
def relayTransferAmount (relayingFee : ℕ) : Except Error ℕ :=
  if a.srcMint = d.usdcMint then
    if args.isExactIn then
      if relayingFee < args.amountIn then .ok args.amountIn
      else .error (.swapLayer .insufficientAmountIn)
    else if args.amountIn + relayingFee < U64 then .ok (args.amountIn + relayingFee)
    else .error (.swapLayer .u64Overflow)
  else
    match args.minAmountOut with
    | some minAmountOut =>
      if relayingFee < minAmountOut then .ok args.amountIn
      else .error (.swapLayer .insufficientAmountOut)
    | none => .error e

/-- The amount that is taken from the sender, and the redeem mode with its fee. -/
def stagedRedeem (params : RelayParams) (outputToken : OutputToken) :
    Except Error (ℕ × StagedRedeem) :=
  match args.redeemOption with
  | some (.relay gasDropoff maxRelayerFee) => do
    let relayingFee ← calculateRelayerFee params gasDropoff outputToken
    ensure (relayingFee ≤ maxRelayerFee) (.swapLayer .exceedsMaxRelayingFee)
    let transferAmount ← relayTransferAmount e d a args relayingFee
    return (transferAmount, .relay gasDropoff relayingFee)
  | some (.payload buf) => .ok (args.amountIn, .payload buf)
  | none => .ok (args.amountIn, .direct)

/-- Move the source tokens into custody; the sender that is recorded. -/
def fundCustody (transferAmount : ℕ) : Instruction Pubkey :=
  let custody := d.stagedCustody a.stagedOutbound
  match a.senderToken with
  | some senderToken =>
    match a.sender, a.programTransferAuthority with
    | some sender, none => do
      cpi (transfer d.nativeMint a.srcTokenProgram senderToken custody sender transferAmount)
      return sender
    | none, some authority => do
      let t ← interfaceTokenAccount senderToken
      check (t.delegatedAmount = transferAmount) .delegatedAmountMismatch
      check (t.delegate = some authority) .notProgramTransferAuthority
      cpi (transfer d.nativeMint a.srcTokenProgram senderToken custody authority transferAmount)
      return t.owner
    | _, _ => fail (.swapLayer .eitherSenderOrProgramTransferAuthority)
  | none =>
    match a.sender with
    | some sender => do
      systemTransfer sender custody transferAmount
      cpi (syncNative d.nativeMint a.srcTokenProgram x.tokenRent custody)
      return sender
    | none => fail (.swapLayer .senderRequired)

/-- What is written down. -/
def stagedAccount (sender : Pubkey) (redeem : StagedRedeem) : StagedOutbound where
  info :=
    { preparedBy := a.payer
      sender := sender
      targetChain := args.targetChain
      recipient := args.recipient
      isExactIn := args.isExactIn
      usdcRefundToken := a.usdcRefundToken
      minAmountOut := args.minAmountOut }
  stagedRedeem := redeem
  encodedOutputToken := args.outputToken

/-- `stage_outbound`; reading the output token again and `min_amount_out` are unwrapped, and end in
`e` if they fail. -/
def stageOutboundOr : Instruction Unit := do
  let peer ← initStaged d x a args
  let outputToken ← lift (readOutputToken args.outputToken e)
  check (a.srcMint = d.usdcMint ∨ args.isExactIn = true) .exactInRequired
  let (transferAmount, redeem) ← lift (stagedRedeem e d a args peer.relayParams outputToken)
  let sender ← fundCustody d x a transferAmount
  modifyBank fun b => b.setOutbound a.stagedOutbound (some (stagedAccount a args sender redeem))

def stageOutbound : Instruction Unit := stageOutboundOr .panic d x a args

end Definitions

/-! ## What staging leaves -/

section Staged

variable {d : Deployment} {x : Externals} {a : StageOutbound} {args : StageOutboundArgs}
  {b b' : Bank} {u : Unit}

/-- A native account holds its tokens in lamports. -/
def Covered (d : Deployment) (b : Bank) (k : Pubkey) (t : TokenAccount Pubkey) : Prop :=
  t.mint = d.nativeMint → t.amount ≤ b.lamports k

/-- The custody account of a staging. -/
structure CustodyOf (d : Deployment) (a : StageOutbound) (b : Bank) (c : TokenAccount Pubkey) :
    Prop where
  token : b.tokens (d.stagedCustody a.stagedOutbound) = some c
  program : c.program = a.srcTokenProgram
  mint : c.mint = a.srcMint
  owner : c.owner = d.peer a.targetPeer
  delegate : c.delegate = none
  covered : Covered d b (d.stagedCustody a.stagedOutbound) c

/-- What a successful `stage_outbound` has checked and left behind. -/
structure StagedAs (d : Deployment) (a : StageOutbound) (args : StageOutboundArgs)
    (b b' : Bank) where
  peer : Peer
  outputToken : OutputToken
  transferAmount : ℕ
  redeem : StagedRedeem
  sender : Pubkey
  custody : TokenAccount Pubkey
  registered : b.peers a.targetPeer = some peer
  chain : args.targetChain = a.targetPeer
  recipient : args.recipient ≠ zeroKey
  payer_ne_staged : a.payer ≠ a.stagedOutbound
  payer_ne_custody : a.payer ≠ d.stagedCustody a.stagedOutbound
  staged_ne_custody : a.stagedOutbound ≠ d.stagedCustody a.stagedOutbound
  minAmount : args.minAmountOut.isSome = true ∨ a.srcMint = d.usdcMint
  decoded : readOutputToken args.outputToken .panic = .ok outputToken
  exactIn : a.srcMint = d.usdcMint ∨ args.isExactIn = true
  priced : stagedRedeem .panic d a args peer.relayParams outputToken = .ok (transferAmount, redeem)
  signed : ∀ k, a.sender = some k → k = sender
  outbound : b'.outbound a.stagedOutbound = some (stagedAccount a args sender redeem)
  custodyOf : CustodyOf d a b' custody
  peers : b'.peers = b.peers
  orders : b'.orders = b.orders
  roles : b'.custodian = b.custodian

/-- A staging, with its amounts: a positive one was asked for, and the custody account of a USDC
staging has received what was to be transferred. -/
structure Funded (d : Deployment) (a : StageOutbound) (args : StageOutboundArgs) (b b' : Bank)
    extends StagedAs d a args b b' where
  positive : args.amountIn ≠ 0
  funded : a.srcMint = d.usdcMint → transferAmount ≤ custody.amount

/-- The redeem mode that is staged for a redeem option; a relayer fee is that of the given
parameters. -/
inductive RedeemsAs (params : RelayParams) (token : OutputToken) :
    Option RedeemOption → StagedRedeem → Prop
  | direct : RedeemsAs params token none .direct
  | payload (buf : Bytes) : RedeemsAs params token (some (.payload buf)) (.payload buf)
  | relay {gasDropoff : Uint 4} {maxRelayerFee fee : ℕ}
    (h : calculateRelayerFee params gasDropoff token = .ok fee) :
    RedeemsAs params token (some (.relay gasDropoff maxRelayerFee)) (.relay gasDropoff fee)

theorem stagedRedeem_redeems {params : RelayParams} {token : OutputToken} {n : ℕ}
    {redeem : StagedRedeem} (h : stagedRedeem .panic d a args params token = .ok (n, redeem)) :
    RedeemsAs params token args.redeemOption redeem := by
  unfold stagedRedeem at h
  cases hoption : args.redeemOption with
  | none =>
    rw [hoption] at h
    cases h
    exact .direct
  | some option =>
    rw [hoption] at h
    cases option with
    | payload buf =>
      cases h
      exact .payload buf
    | relay gasDropoff maxRelayerFee =>
      obtain ⟨fee, hfee, h₁⟩ := except_bind_ok.1 h
      obtain ⟨_, -, h₂⟩ := except_bind_ok.1 h₁
      obtain ⟨amount, -, h₃⟩ := except_bind_ok.1 h₂
      cases except_pure_ok.1 h₃
      exact .relay hfee

/-- What is staged does not depend on the accounts. -/
theorem RedeemsAs.unique {params : RelayParams} {token : OutputToken} {option : Option RedeemOption}
    {redeem redeem' : StagedRedeem} (h : RedeemsAs params token option redeem)
    (h' : RedeemsAs params token option redeem') : redeem' = redeem := by
  cases h with
  | direct =>
    cases h'
    rfl
  | payload buf =>
    cases h'
    rfl
  | relay hfee =>
    cases h' with
    | relay hfee' =>
      obtain rfl := Except.ok.inj (hfee.symm.trans hfee')
      rfl

theorem checkTransferAuthority_ok (h : checkTransferAuthority d a args b = .ok (u, b')) :
    b' = b := by
  unfold checkTransferAuthority at h
  cases hk : a.programTransferAuthority with
  | none =>
    rw [hk] at h
    exact (pure_ok.1 h).2
  | some k =>
    rw [hk] at h
    obtain ⟨_, _, hseeds, h₁⟩ := bind_ok.1 h
    obtain ⟨-, rfl⟩ := constraint_ok.1 hseeds
    exact (check_ok.1 h₁).2

/-- Where there is a sender's token account, it exists. -/
theorem checkSenderToken_ok (h : checkSenderToken d a b = .ok (u, b')) :
    b' = b ∧ (∀ k, a.senderToken = some k → b.tokens k ≠ none) ∧
      (a.senderToken = none → a.srcMint = d.nativeMint) := by
  unfold checkSenderToken at h
  cases hk : a.senderToken with
  | none =>
    rw [hk] at h
    obtain ⟨hm, rfl⟩ := check_ok.1 h
    exact ⟨rfl, fun k hk' => (by cases hk'), fun _ => hm⟩
  | some k =>
    rw [hk] at h
    obtain ⟨t, _, hload, h₁⟩ := bind_ok.1 h
    obtain ⟨ht, rfl⟩ := interfaceTokenAccount_ok.1 hload
    obtain ⟨_, _, hmint, h₂⟩ := bind_ok.1 h₁
    obtain ⟨-, rfl⟩ := constraint_ok.1 hmint
    refine ⟨(constraint_ok.1 h₂).2, fun k' hk' => ?_, fun hn => by cases hn⟩
    cases hk'
    rw [ht]
    exact Option.some_ne_none t

/-- **The account constraints**: what they check, and the empty custody account they leave. -/
theorem initStaged_ok {peer : Peer} (h : initStaged d x a args b = .ok (peer, b')) :
    b.peers a.targetPeer = some peer ∧ args.targetChain = a.targetPeer ∧ args.amountIn ≠ 0 ∧
      args.recipient ≠ zeroKey ∧ (args.minAmountOut.isSome = true ∨ a.srcMint = d.usdcMint) ∧
      a.senderToken ≠ some (d.stagedCustody a.stagedOutbound) ∧
      a.payer ≠ a.stagedOutbound ∧ a.payer ≠ d.stagedCustody a.stagedOutbound ∧
      a.stagedOutbound ≠ d.stagedCustody a.stagedOutbound ∧
      (∃ c, CustodyOf d a b' c) ∧ SameState b b' := by
  obtain ⟨_, b₁, hauth, h₁⟩ := bind_ok.1 h
  cases checkTransferAuthority_ok hauth
  obtain ⟨_, b₂, hsender, h₂⟩ := bind_ok.1 h₁
  obtain ⟨rfl, hexists, -⟩ := checkSenderToken_ok hsender
  obtain ⟨p, b₃, hpeer, h₃⟩ := bind_ok.1 h₂
  obtain ⟨hreg, rfl⟩ := loadAccount_ok.1 hpeer
  obtain ⟨_, b₄, hcheck, h₄⟩ := bind_ok.1 h₃
  obtain ⟨hchain, rfl⟩ := check_ok.1 hcheck
  obtain ⟨refund, _, hrefund, h₅⟩ := bind_ok.1 h₄
  obtain ⟨-, -, rfl⟩ := tokenAccount_ok.1 hrefund
  obtain ⟨size, _, hsize, h₆⟩ := bind_ok.1 h₅
  obtain ⟨-, rfl⟩ := lift_ok.1 hsize
  obtain ⟨_, _, hget, h₇⟩ := bind_ok.1 h₆
  obtain ⟨rfl, rfl⟩ := getBank_ok.1 hget
  obtain ⟨_, _, hnew, h₈⟩ := bind_ok.1 h₇
  obtain ⟨-, rfl⟩ := constraint_ok.1 hnew
  obtain ⟨_, _, hpayer, h₉⟩ := bind_ok.1 h₈
  obtain ⟨hstaged, rfl⟩ := constraint_ok.1 hpayer
  obtain ⟨_, _, hpay, h₁₀⟩ := bind_ok.1 h₉
  obtain ⟨-, rfl⟩ := payRent_ok.1 hpay
  obtain ⟨_, _, hamount, h₁₁⟩ := bind_ok.1 h₁₀
  obtain ⟨hpositive, rfl⟩ := check_ok.1 hamount
  obtain ⟨_, _, hcheck, h₁₂⟩ := bind_ok.1 h₁₁
  obtain ⟨hrecipient, rfl⟩ := check_ok.1 hcheck
  obtain ⟨_, _, hcheck, h₁₃⟩ := bind_ok.1 h₁₂
  obtain ⟨hmin, rfl⟩ := check_ok.1 hcheck
  obtain ⟨_, _, hpayer, h₁₄⟩ := bind_ok.1 h₁₃
  obtain ⟨hcustody, rfl⟩ := constraint_ok.1 hpayer
  obtain ⟨_, _, hinUse, h₁₅⟩ := bind_ok.1 h₁₄
  obtain ⟨hdistinct, rfl⟩ := constraint_ok.1 hinUse
  obtain ⟨_, _, hinit, h₁₆⟩ := bind_ok.1 h₁₅
  obtain ⟨hnone, -, rfl⟩ := (createToken_ok hcustody).1 hinit
  obtain ⟨_, _, hmint, h₁₇⟩ := bind_ok.1 h₁₆
  obtain ⟨-, rfl⟩ := constraint_ok.1 hmint
  obtain ⟨_, _, hprog, hret⟩ := bind_ok.1 h₁₇
  obtain ⟨-, rfl⟩ := constraint_ok.1 hprog
  obtain ⟨rfl, rfl⟩ := pure_ok.1 hret
  refine ⟨hreg, hchain, hpositive, hrecipient, hmin, fun hk => ?_, hstaged, hcustody, hdistinct,
    ?_, ?_⟩
  · refine hexists _ hk ?_
    rw [Bank.withAccounts_tokens, Accounts.moveLamports_tokens] at hnone
    exact hnone
  · refine ⟨_, ⟨Function.update_self .., rfl, rfl, rfl, rfl, fun hnative => ?_⟩⟩
    rw [if_pos hnative]
    exact Nat.le_trans (Nat.sub_le _ _) (Kept.moveLamports hcustody.symm).lamports
  · exact ⟨rfl, rfl, rfl, rfl, rfl, rfl⟩

/-- A transfer into custody. -/
theorem CustodyOf.transfer {program : TokenProgram} {src authority : Pubkey} {n : ℕ}
    {c : TokenAccount Pubkey} (hc : CustodyOf d a b c)
    (hne : src ≠ d.stagedCustody a.stagedOutbound)
    (h : cpi (transfer d.nativeMint program src (d.stagedCustody a.stagedOutbound)
      authority n) b = .ok (u, b')) :
    CustodyOf d a b' { c with amount := c.amount + n } ∧ SameState b b' := by
  obtain ⟨s, hop, rfl⟩ := cpi_ok.1 h
  obtain ⟨t, t', c', ht, hc', hp, hq, hm, hn, hauth, rfl⟩ := (transfer_ok hne).1 hop
  have hcc : c' = c := Option.some.inj (hc'.symm.trans hc.token)
  subst hcc
  refine ⟨⟨transferred_dst, hc.program, hc.mint, hc.owner, hc.delegate, fun hnative => ?_⟩,
    .withAccounts _ _⟩
  have hsrc : t'.mint = d.nativeMint := by
    rw [(authorize_ok hauth).2.2.1, hm]
    exact hnative
  have hle := hc.covered hnative
  have hlam := transferred_lamports_dst (b := c') (n := n) (s := b.accounts) hne hsrc
  rw [Bank.withAccounts_lamports, hlam]
  exact Nat.add_le_add_right hle n

/-- **Funding the custody account** keeps it what it is. -/
theorem fundCustody_ok {transferAmount : ℕ} {sender : Pubkey} {c : TokenAccount Pubkey}
    (hc : CustodyOf d a b c) (hne : a.senderToken ≠ some (d.stagedCustody a.stagedOutbound))
    (h : fundCustody d x a transferAmount b = .ok (sender, b')) :
    (∃ c', CustodyOf d a b' c' ∧
        (a.srcMint ≠ d.nativeMint → c'.amount = c.amount + transferAmount)) ∧
      (∀ k, a.sender = some k → k = sender) ∧ SameState b b' := by
  unfold fundCustody at h
  cases ht : a.senderToken with
  | some senderToken =>
    have hne' : senderToken ≠ d.stagedCustody a.stagedOutbound := fun he => hne (he ▸ ht)
    cases hs : a.sender with
    | some k =>
      cases hp : a.programTransferAuthority with
      | none =>
        rw [ht, hs, hp] at h
        obtain ⟨_, b₁, htransfer, hret⟩ := bind_ok.1 h
        obtain ⟨rfl, rfl⟩ := pure_ok.1 hret
        obtain ⟨hc', hsame⟩ := hc.transfer hne' htransfer
        exact ⟨⟨_, hc', fun _ => rfl⟩, fun _ hk => (Option.some.inj hk).symm, hsame⟩
      | some k' =>
        rw [ht, hs, hp] at h
        exact (fail_ok.1 h).elim
    | none =>
      cases hp : a.programTransferAuthority with
      | none =>
        rw [ht, hs, hp] at h
        exact (fail_ok.1 h).elim
      | some authority =>
        rw [ht, hs, hp] at h
        obtain ⟨t, b₁, hload, h₁⟩ := bind_ok.1 h
        obtain ⟨-, rfl⟩ := interfaceTokenAccount_ok.1 hload
        obtain ⟨_, b₂, hcheck, h₂⟩ := bind_ok.1 h₁
        obtain ⟨-, rfl⟩ := check_ok.1 hcheck
        obtain ⟨_, b₃, hcheck, h₃⟩ := bind_ok.1 h₂
        obtain ⟨-, rfl⟩ := check_ok.1 hcheck
        obtain ⟨_, b₄, htransfer, hret⟩ := bind_ok.1 h₃
        obtain ⟨-, rfl⟩ := pure_ok.1 hret
        obtain ⟨hc', hsame⟩ := hc.transfer hne' htransfer
        exact ⟨⟨_, hc', fun _ => rfl⟩, nofun, hsame⟩
  | none =>
    cases hs : a.sender with
    | none =>
      rw [ht, hs] at h
      exact (fail_ok.1 h).elim
    | some k =>
      rw [ht, hs] at h
      obtain ⟨_, b₁, hpay, h₁⟩ := bind_ok.1 h
      obtain ⟨-, -, rfl⟩ := systemTransfer_ok.1 hpay
      obtain ⟨_, b₂, hsync, hret⟩ := bind_ok.1 h₁
      obtain ⟨s₂, hop, rfl⟩ := cpi_ok.1 hsync
      obtain ⟨c', hc', hp, hm, -, rfl⟩ := syncNative_ok.1 hop
      obtain ⟨rfl, rfl⟩ := pure_ok.1 hret
      rw [Bank.withAccounts_accounts, Accounts.moveLamports_tokens] at hc'
      have hcc : c' = c := Option.some.inj (hc'.symm.trans hc.token)
      subst hcc
      -- without a token account the lamports of the sender are the native tokens
      have hnative := hc.mint.symm.trans hm
      exact ⟨⟨_, ⟨Function.update_self .., hc.program, hc.mint, hc.owner, hc.delegate,
        fun _ => Nat.sub_le _ _⟩, fun hne => absurd hnative hne⟩,
        fun _ hk => (Option.some.inj hk).symm, ⟨rfl, rfl, rfl, rfl, rfl, rfl⟩⟩

/-- **A successful `stage_outbound`**, with its amounts. -/
theorem stageOutbound_funded (h : stageOutbound d x a args b = .ok (u, b')) :
    Nonempty (Funded d a args b b') := by
  obtain ⟨peer, b₁, hinit, h₁⟩ := bind_ok.1 h
  obtain ⟨hreg, hchain, hpositive, hrecipient, hmin, hne, hstaged, hcustody, hdistinct, ⟨c, hc⟩, hsame⟩ :=
    initStaged_ok hinit
  obtain ⟨token, b₂, htoken, h₂⟩ := bind_ok.1 h₁
  obtain ⟨hdecoded, rfl⟩ := lift_ok.1 htoken
  obtain ⟨_, b₃, hexact, h₃⟩ := bind_ok.1 h₂
  obtain ⟨hexactIn, rfl⟩ := check_ok.1 hexact
  obtain ⟨⟨amount, redeem⟩, b₄, hredeem, h₄⟩ := bind_ok.1 h₃
  obtain ⟨hpriced, rfl⟩ := lift_ok.1 hredeem
  obtain ⟨sender, b₅, hfund, h₅⟩ := bind_ok.1 h₄
  obtain ⟨⟨c', hc', hamount⟩, hsigned, hsame'⟩ := fundCustody_ok hc hne hfund
  have hb' := modifyBank_ok.1 h₅
  have hstate := SameState.trans _ _ _ hsame hsame'
  subst hb'
  exact ⟨{
    peer := peer
    outputToken := token
    transferAmount := amount
    redeem := redeem
    sender := sender
    custody := c'
    registered := hreg
    chain := hchain
    recipient := hrecipient
    payer_ne_staged := hstaged
    payer_ne_custody := hcustody
    staged_ne_custody := hdistinct
    minAmount := hmin
    decoded := hdecoded
    exactIn := hexactIn
    priced := hpriced
    signed := hsigned
    outbound := Function.update_self ..
    custodyOf := ⟨hc'.token, hc'.program, hc'.mint, hc'.owner, hc'.delegate, hc'.covered⟩
    peers := hstate.peers
    orders := hstate.orders
    roles := hstate.custodian
    positive := hpositive
    funded := fun husdc => (hamount (husdc ▸ d.usdc_ne_native)).symm ▸ Nat.le_add_left _ _ }⟩

/-- **A successful `stage_outbound`.** -/
theorem stageOutbound_ok (h : stageOutbound d x a args b = .ok (u, b')) :
    Nonempty (StagedAs d a args b b') := by
  obtain ⟨g⟩ := stageOutbound_funded h
  exact ⟨g.toStagedAs⟩

end Staged

end SwapLayer.Solana
