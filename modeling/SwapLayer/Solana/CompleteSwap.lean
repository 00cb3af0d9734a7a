import SwapLayer.Solana.Complete
import SwapLayer.Solana.Jupiter

/-!
# Completing a swap

Model of `CompleteSwap`, `is_valid_output_swap` and `handle_complete_swap_jup_v6`
(`composite/mod.rs`), and of `processor/complete/swap`: a fill is consumed into an account of a swap
authority, swapped through Jupiter, and what the swap pays goes to the recipient or stays in the
custody of a staged inbound transfer.

The caller brings the route. What the swap leaves of the USDC goes to the fee recipient, and the
rent of the two accounts to the payer.

Results:
* `isValidOutputSwap_ok`: the mint, the program and the deadline of a swap are those of the message.
* `settleSource_ok`, `payGas_ok`, `payToken_ok`: the payments after a swap.
* `handleCompleteSwapJupV6_ok`: a swap pays at least the limit of the message.
* `completeSwapDirect_ok`, `completeSwapRelay_ok`, `completeSwapPayload_ok`.
-/

namespace SwapLayer.Solana

open ByteString Program SplToken Messages

section Definitions

variable (e : Error) (d : Deployment) (x : Externals)

/-! ## The swap that is asked for -/

/-- The mint that a message asks for, and the swap to it. -/
def outputSwap : OutputToken → Option (Pubkey × OutputSwap)
  | .usdc => none
  | .gas swap => some (d.nativeMint, swap)
  | .other address swap => some (address, swap)

/-- `SwapType::JupiterV6`. -/
def jupiterParameters : SwapType → Option JupiterV6SwapParameters
  | .jupiterV6 parameters => some parameters
  | _ => none

/-- What `is_valid_output_swap` checks of a swap. -/
def checkOutputSwap (expectedDstMint : Pubkey) (swap : OutputSwap) (dstMint : Pubkey) :
    Except Error Unit := do
  ensure (dstMint = expectedDstMint) (.swapLayer .invalidDestinationMint)
  ensure ((jupiterParameters swap.swapType).isSome = true) (.swapLayer .invalidSwapType)
  ensure ((swap.deadline : ℕ) = 0 ∨ x.unixTimestamp ≤ (swap.deadline : ℕ))
    (.swapLayer .swapPastDeadline)
  ensure ((swap.limitAmount : ℕ) < U64) (.swapLayer .invalidLimitAmount)

/-- `is_valid_output_swap`: without a swap in the message the recipient may bring his own, but only
for a direct redemption. -/
def isValidOutputSwap (msg : SwapMessageV1) (dstMint : Pubkey) : Except Error Unit :=
  match outputSwap d msg.outputToken with
  | none => ensure (msg.redeemMode = .direct) (.swapLayer .invalidRedeemMode)
  | some (expectedDstMint, swap) => checkOutputSwap x expectedDstMint swap dstMint

/-! ## The accounts -/

/-- `HandleCompleteSwap`: the authority signs for the two accounts that the swap is between. -/
structure HandleCompleteSwap where
  payer : Pubkey
  swapAuthority : Pubkey
  dstMint : Pubkey
  dstTokenProgram : TokenProgram

namespace HandleCompleteSwap

variable (a : HandleCompleteSwap)

def srcSwapToken : Pubkey := d.associatedToken a.swapAuthority d.usdcMint .token

def dstSwapToken : Pubkey := d.associatedToken a.swapAuthority a.dstMint a.dstTokenProgram

/-- The account constraints that the completions share. -/
def load (msg : SwapMessageV1) : Instruction Unit := do
  constraint (x.mintProgram a.dstMint ≠ none) .accountNotInitialized
  lift (isValidOutputSwap d x msg a.dstMint)
  checkAssociated (a.srcSwapToken d) d.usdcMint a.swapAuthority .token
  checkAssociated (a.dstSwapToken d) a.dstMint a.swapAuthority a.dstTokenProgram
  check (d.usdcMint ≠ a.dstMint) .sameMint

end HandleCompleteSwap

/-! ## `handle_complete_swap_jup_v6` -/

/-- `RecipientAccounts`. -/
structure RecipientAccounts where
  recipient : Pubkey
  recipientToken : Pubkey

/-- A recipient that is given must be the one of the message. -/
def checkRecipient (msg : SwapMessageV1) (recipient : Option RecipientAccounts) : Instruction Unit :=
  match recipient with
  | some r => check (r.recipient = msg.recipient) .invalidRecipient
  | none => pure ()

/-- The limit and the parameters of a swap to Jupiter; the limit as a `u64` is unwrapped. -/
def limitAndParams (swap : OutputSwap) : Except Error (ℕ × JupiterV6SwapParameters) :=
  match jupiterParameters swap.swapType with
  | some parameters =>
    if (swap.limitAmount : ℕ) < U64 then .ok (swap.limitAmount, parameters) else .error e
  | none => .error (.swapLayer .invalidOutputToken)

/-- The limit and the parameters of the swap. Without a swap the recipient must be the payer. -/
def requestedSwap (payer : Pubkey) (msg : SwapMessageV1) (recipient : Option RecipientAccounts) :
    Except Error (Option (ℕ × JupiterV6SwapParameters)) :=
  match outputSwap d msg.outputToken with
  | some (_, swap) => (limitAndParams e swap).map some
  | none =>
    match recipient with
    | some r => do
      ensure (payer = r.recipient) (.swapLayer .invalidRecipient)
      return none
    | none => .error (.swapLayer .invalidOutputToken)

/-- The dex that the message insists on is the only one of the route. -/
def checkDex (args : SharedAccountsRouteArgs) (firstDexProgramId : Pubkey) :
    Option (Fixed 32) → Except Error Unit
  | some dexProgramId => do
    ensure (args.routePlan.length = 1) (.swapLayer .notJupiterV6DirectRoute)
    ensure (firstDexProgramId = dexProgramId) (.swapLayer .jupiterV6DexProgramMismatch)
  | none => .ok ()

/-- The arguments for Jupiter and the limit: those of the message override the caller's. -/
def swapArguments (args : SharedAccountsRouteArgs) (firstDexProgramId : Pubkey) (inAmount : ℕ) :
    Option (ℕ × JupiterV6SwapParameters) → Except Error (SharedAccountsRouteArgs × Option ℕ)
  | some (limitAmount, parameters) => do
    checkDex args firstDexProgramId parameters.dexProgramId
    return ({ args with inAmount := inAmount, quotedOutAmount := limitAmount, slippageBps := 0 },
      some limitAmount)
  | none => do
    ensure (args.inAmount = inAmount) (.swapLayer .invalidSwapInAmount)
    return (args, none)

/-- What is left of the USDC goes to the fee recipient. -/
def payDust (a : HandleCompleteSwap) (usdcDust : ℕ) : Instruction Unit :=
  if 0 < usdcDust then do
    let b ← getBank
    cpi (transfer d.nativeMint .token (a.srcSwapToken d) b.custodian.feeRecipientToken
      a.swapAuthority usdcDust)
  else pure ()

/-- The source account is emptied and closed. -/
def settleSource (a : HandleCompleteSwap) (usdcDust : ℕ) : Instruction Unit := do
  payDust d a usdcDust
  cpi (closeAccount d.nativeMint .token (a.srcSwapToken d) a.payer a.swapAuthority)

/-- Gas: the payer gets all lamports of the destination account, and pays the recipient. -/
def payGas (a : HandleCompleteSwap) (recipient : Pubkey) (amountOut gasDropoff : ℕ) :
    Instruction Unit := do
  cpi (closeAccount d.nativeMint a.dstTokenProgram (a.dstSwapToken d) a.payer a.swapAuthority)
  check (amountOut + gasDropoff < U64) .u64Overflow
  systemTransfer a.payer recipient (amountOut + gasDropoff)

/-- Other tokens go to the token account of the recipient, who must own it. -/
def payToken (a : HandleCompleteSwap) (r : RecipientAccounts) (amountOut gasDropoff : ℕ) :
    Instruction Unit := do
  let t ← interfaceTokenAccount r.recipientToken
  constraint (t.owner = r.recipient) .constraintTokenOwner
  cpi (transfer d.nativeMint a.dstTokenProgram (a.dstSwapToken d) r.recipientToken a.swapAuthority
    amountOut)
  cpi (closeAccount d.nativeMint a.dstTokenProgram (a.dstSwapToken d) a.payer a.swapAuthority)
  payGasDropoff a.payer r.recipient gasDropoff

/-- Whether the output is paid in lamports. -/
def isNative : OutputToken → Bool
  | .gas _ => true
  | _ => false

/-- Without a recipient the output stays where it is. -/
def payRecipient (a : HandleCompleteSwap) (msg : SwapMessageV1) (recipient : Option RecipientAccounts)
    (amountOut gasDropoff : ℕ) : Instruction Unit :=
  match recipient with
  | none => pure ()
  | some r =>
    if isNative msg.outputToken = true then payGas d a r.recipient amountOut gasDropoff
    else payToken d a r amountOut gasDropoff

/-- `handle_complete_swap_jup_v6`. -/
def handleCompleteSwapJupV6 (a : HandleCompleteSwap) (route : SharedAccountsRoute) (inAmount : ℕ)
    (msg : SwapMessageV1) (recipient : Option RecipientAccounts) (gasDropoff : ℕ) :
    Instruction Unit := do
  checkRecipient msg recipient
  let requested ← lift (requestedSwap e d a.payer msg recipient)
  let firstDexProgramId ← route.setUp
  route.verify a.swapAuthority (a.srcSwapToken d) (a.dstSwapToken d) d.usdcMint a.dstMint
  let (args, limitAmount) ← lift (swapArguments route.args firstDexProgramId inAmount requested)
  let (amountOut, usdcDust) ← route.swapExactIn d x args limitAmount
  settleSource d a usdcDust
  payRecipient d a msg recipient amountOut gasDropoff

/-! ## The instructions -/

/-- `CompleteSwap`, and the recipient of a direct or a relayed redemption. The route is what the
caller passes along for Jupiter. -/
structure CompleteSwap where
  payer : Pubkey
  consumeSwapLayerFill : ConsumeSwapLayerFill
  dstMint : Pubkey
  dstTokenProgram : TokenProgram
  recipient : Pubkey
  route : SharedAccountsRoute

namespace CompleteSwap

variable (a : CompleteSwap)

def accounts : HandleCompleteSwap :=
  ⟨a.payer, d.swapAuthority a.consumeSwapLayerFill.fill, a.dstMint, a.dstTokenProgram⟩

def recipientToken : Pubkey := d.associatedToken a.recipient a.dstMint a.dstTokenProgram

/-- The account constraints; `is_valid_output_swap` reads the message. -/
def load : Instruction PreparedFill := do
  let (fill, _, _) ← a.consumeSwapLayerFill.load
  let msg ← lift (readMessageUnchecked e fill)
  (a.accounts d).load d x msg
  return fill

/-- `complete_swap_jup_v6`. -/
def completeSwapJupV6 (inAmount : ℕ) (msg : SwapMessageV1) (gasDropoff : ℕ) : Instruction Unit :=
  handleCompleteSwapJupV6 e d x (a.accounts d) a.route inAmount msg
    (some ⟨a.recipient, a.recipientToken d⟩) gasDropoff

/-- What is swapped, and the gas dropoff; the fee is not swapped unless the payer is the
recipient. -/
def relayAmounts (fillAmount gasDropoff relayingFee : ℕ) : Except Error (ℕ × ℕ) :=
  if a.payer ≠ a.recipient then do
    ensure (relayingFee ≤ fillAmount) (.swapLayer .invalidRelayerFee)
    return (fillAmount - relayingFee, gasDropoff)
  else .ok (fillAmount, 0)

end CompleteSwap

def completeSwapDirectOr (a : CompleteSwap) : Instruction Unit := do
  let fill ← a.load e d x
  let msg ← lift (readMessageUnchecked e fill)
  let inAmount ← a.consumeSwapLayerFill.consumePreparedFill d x ((a.accounts d).srcSwapToken d)
  match msg.redeemMode with
  | .direct => a.completeSwapJupV6 e d x inAmount msg 0
  | _ => fail (.swapLayer .invalidRedeemMode)

def completeSwapDirect : CompleteSwap → Instruction Unit := completeSwapDirectOr .panic d x

def handleCompleteSwapRelay (a : CompleteSwap) (msg : SwapMessageV1) (gasDropoff relayingFee : ℕ) :
    Instruction Unit := do
  let fillAmount ← a.consumeSwapLayerFill.consumePreparedFill d x ((a.accounts d).srcSwapToken d)
  let (inAmount, gasDropoff) ← lift (a.relayAmounts fillAmount gasDropoff relayingFee)
  a.completeSwapJupV6 e d x inAmount msg gasDropoff

def completeSwapRelayOr (a : CompleteSwap) : Instruction Unit := do
  let fill ← a.load e d x
  let msg ← lift (readMessageUnchecked e fill)
  match msg.redeemMode with
  | .relay gasDropoff relayingFee =>
    handleCompleteSwapRelay e d x a msg (denormalizeGasDropoff gasDropoff) relayingFee
  | _ => fail (.swapLayer .invalidRedeemMode)

def completeSwapRelay : CompleteSwap → Instruction Unit := completeSwapRelayOr .panic d x

structure CompleteSwapPayload where
  payer : Pubkey
  consumeSwapLayerFill : ConsumeSwapLayerFill
  dstMint : Pubkey
  dstTokenProgram : TokenProgram
  route : SharedAccountsRoute

/-- The staged transfer is the authority of the swap, whose output stays in its custody. -/
def CompleteSwapPayload.accounts (a : CompleteSwapPayload) : HandleCompleteSwap :=
  ⟨a.payer, d.stagedInbound a.consumeSwapLayerFill.fill, a.dstMint, a.dstTokenProgram⟩

def completeSwapPayloadOr (a : CompleteSwapPayload) : Instruction Unit := do
  let k := d.stagedInbound a.consumeSwapLayerFill.fill
  let (fill, _, _) ← a.consumeSwapLayerFill.load
  let msg ← lift (readMessageUnchecked e fill)
  initStagedInbound x a.payer k msg
  let msg ← lift (readMessageUnchecked e fill)
  (a.accounts d).load d x msg
  -- the handler
  let inAmount ← a.consumeSwapLayerFill.consumePreparedFill d x ((a.accounts d).srcSwapToken d)
  let msg ← lift (readMessageUnchecked e fill)
  let s ← lift (stagedInbound a.consumeSwapLayerFill a.payer ((a.accounts d).dstSwapToken d) fill msg
    (isNative msg.outputToken))
  modifyBank fun b => b.setInbound k (some s)
  handleCompleteSwapJupV6 e d x (a.accounts d) a.route inAmount msg none 0

def completeSwapPayload : CompleteSwapPayload → Instruction Unit := completeSwapPayloadOr .panic d x

end Definitions

/-! ## What the checks say -/

section Checks

variable {d : Deployment} {x : Externals} {a : HandleCompleteSwap} {b b' : Bank} {u : Unit}
  {msg : SwapMessageV1} {dstMint : Pubkey}

/-- A swap that may be completed: its mint, its program, its deadline and its limit. -/
structure Completable (x : Externals) (expectedDstMint : Pubkey) (swap : OutputSwap)
    (dstMint : Pubkey) : Prop where
  mint : dstMint = expectedDstMint
  jupiter : (jupiterParameters swap.swapType).isSome = true
  deadline : (swap.deadline : ℕ) = 0 ∨ x.unixTimestamp ≤ (swap.deadline : ℕ)
  limit : (swap.limitAmount : ℕ) < U64

theorem checkOutputSwap_ok {mint : Pubkey} {swap : OutputSwap} :
    checkOutputSwap x mint swap dstMint = .ok u ↔ Completable x mint swap dstMint := by
  simp only [checkOutputSwap, except_bind_ok, ensure_ok]
  constructor
  · rintro ⟨_, hmint, _, hjupiter, _, hdeadline, hlimit⟩
    exact ⟨hmint, hjupiter, hdeadline, hlimit⟩
  · rintro ⟨hmint, hjupiter, hdeadline, hlimit⟩
    exact ⟨(), hmint, (), hjupiter, (), hdeadline, hlimit⟩

/-- **A swap is completed as the message asks**; without one in the message it is a direct
redemption. -/
theorem isValidOutputSwap_ok : isValidOutputSwap d x msg dstMint = .ok u ↔
    (outputSwap d msg.outputToken = none → msg.redeemMode = .direct) ∧
      ∀ mint swap, outputSwap d msg.outputToken = some (mint, swap) →
        Completable x mint swap dstMint := by
  unfold isValidOutputSwap
  cases outputSwap d msg.outputToken with
  | none =>
    rw [ensure_ok]
    exact ⟨fun h => ⟨fun _ => h, nofun⟩, fun h => h.1 rfl⟩
  | some r =>
    obtain ⟨mint, swap⟩ := r
    rw [checkOutputSwap_ok]
    constructor
    · intro h
      refine ⟨nofun, fun mint' swap' he => ?_⟩
      cases he
      exact h
    · intro h
      exact h.2 mint swap rfl

/-- Beyond direct redemptions the mint of a swap is the one that the message names. -/
theorem isValidOutputSwap_asks (h : isValidOutputSwap d x msg dstMint = .ok u)
    (hmode : msg.redeemMode ≠ .direct) (hother : isNative msg.outputToken = false) :
    ∃ swap, msg.outputToken = .other dstMint swap := by
  obtain ⟨hnone, hsome⟩ := isValidOutputSwap_ok.1 h
  cases hout : msg.outputToken with
  | usdc => exact absurd (hnone (by rw [hout]; rfl)) hmode
  | gas swap =>
    rw [hout] at hother
    cases hother
  | other address swap =>
    obtain rfl : dstMint = address := (hsome address swap (by rw [hout]; rfl)).mint
    exact ⟨swap, rfl⟩

/-- The accounts of a swap belong to its authority. -/
structure SwapAccounts (d : Deployment) (a : HandleCompleteSwap) (b : Bank)
    (s t : TokenAccount Pubkey) : Prop where
  src : TokenOf b (a.srcSwapToken d) d.usdcMint a.swapAuthority .token s
  dst : TokenOf b (a.dstSwapToken d) a.dstMint a.swapAuthority a.dstTokenProgram t
  mints : d.usdcMint ≠ a.dstMint

theorem SwapAccounts.ne {s t : TokenAccount Pubkey} (h : SwapAccounts d a b s t) :
    a.srcSwapToken d ≠ a.dstSwapToken d := by
  intro he
  obtain rfl : s = t := Option.some.inj ((he ▸ h.src.token).symm.trans h.dst.token)
  exact h.mints (h.src.mint.symm.trans h.dst.mint)

theorem SwapAccounts.of_tokens {s t : TokenAccount Pubkey} (h : SwapAccounts d a b s t)
    (htokens : b'.tokens = b.tokens) : SwapAccounts d a b' s t where
  src := ⟨(congrFun htokens _).trans h.src.token, h.src.program, h.src.mint, h.src.owner⟩
  dst := ⟨(congrFun htokens _).trans h.dst.token, h.dst.program, h.dst.mint, h.dst.owner⟩
  mints := h.mints

theorem HandleCompleteSwap.load_ok : a.load d x msg b = .ok (u, b') ↔
    (x.mintProgram a.dstMint ≠ none ∧ isValidOutputSwap d x msg a.dstMint = .ok () ∧
      ∃ s t, SwapAccounts d a b s t) ∧ b' = b := by
  simp only [HandleCompleteSwap.load, bind_ok, constraint_ok, lift_ok, checkAssociated_ok, check_ok]
  constructor
  · rintro ⟨_, _, ⟨hmint, rfl⟩, _, _, ⟨hvalid, rfl⟩, _, _, ⟨⟨s, hs⟩, rfl⟩, _, _, ⟨⟨t, ht⟩, rfl⟩, hne,
      rfl⟩
    exact ⟨⟨hmint, hvalid, s, t, hs, ht, hne⟩, rfl⟩
  · rintro ⟨⟨hmint, hvalid, s, t, h⟩, rfl⟩
    exact ⟨(), _, ⟨hmint, rfl⟩, (), _, ⟨hvalid, rfl⟩, (), _, ⟨⟨s, h.src⟩, rfl⟩, (), _,
      ⟨⟨t, h.dst⟩, rfl⟩, h.mints, rfl⟩

theorem checkRecipient_ok {recipient : Option RecipientAccounts} :
    checkRecipient msg recipient b = .ok (u, b') ↔
      (∀ r, recipient = some r → r.recipient = msg.recipient) ∧ b' = b := by
  unfold checkRecipient
  cases recipient with
  | none =>
    rw [pure_ok]
    exact ⟨fun h => ⟨nofun, h.2⟩, fun h => ⟨rfl, h.2⟩⟩
  | some r =>
    rw [check_ok]
    constructor
    · rintro ⟨h, hb⟩
      refine ⟨fun r' he => ?_, hb⟩
      cases he
      exact h
    · rintro ⟨h, hb⟩
      exact ⟨h r rfl, hb⟩

/-- A swap of the message sets the limit, in its own parameters. -/
theorem requestedSwap_some {r : Error} {payer mint : Pubkey} {swap : OutputSwap}
    {recipient : Option RecipientAccounts} {requested : Option (ℕ × JupiterV6SwapParameters)}
    (hswap : outputSwap d msg.outputToken = some (mint, swap))
    (h : requestedSwap r d payer msg recipient = .ok requested) :
    ∃ parameters, requested = some ((swap.limitAmount : ℕ), parameters) := by
  unfold requestedSwap at h
  rw [hswap] at h
  obtain ⟨asked, hr, rfl⟩ := except_map_ok.1 h
  unfold limitAndParams at hr
  cases hp : jupiterParameters swap.swapType with
  | none =>
    rw [hp] at hr
    cases hr
  | some parameters =>
    simp only [hp] at hr
    split at hr
    · cases hr
      exact ⟨parameters, rfl⟩
    · cases hr

/-- Without a swap in the message the payer is the recipient. -/
theorem requestedSwap_none {r : Error} {payer : Pubkey} {recipient : Option RecipientAccounts}
    {requested : Option (ℕ × JupiterV6SwapParameters)}
    (hswap : outputSwap d msg.outputToken = none)
    (h : requestedSwap r d payer msg recipient = .ok requested) :
    ∃ accounts, recipient = some accounts ∧ payer = accounts.recipient := by
  unfold requestedSwap at h
  rw [hswap] at h
  cases recipient with
  | none => cases h
  | some accounts =>
    obtain ⟨_, hpayer, -⟩ := except_bind_ok.1 h
    exact ⟨accounts, rfl, ensure_ok.1 hpayer⟩

/-- Jupiter is asked to swap all of the amount, and a limit of the message is its limit. -/
theorem swapArguments_ok {args args' : SharedAccountsRouteArgs} {first : Pubkey} {inAmount : ℕ}
    {requested : Option (ℕ × JupiterV6SwapParameters)} {limitAmount : Option ℕ}
    (h : swapArguments args first inAmount requested = .ok (args', limitAmount)) :
    args'.inAmount = inAmount ∧ limitAmount = requested.map Prod.fst := by
  cases requested with
  | none =>
    obtain ⟨_, hamount, hret⟩ := except_bind_ok.1 h
    cases hret
    exact ⟨ensure_ok.1 hamount, rfl⟩
  | some r =>
    obtain ⟨_, -, hret⟩ := except_bind_ok.1 h
    cases hret
    exact ⟨rfl, rfl⟩

end Checks

/-! ## What the payments do -/

section Payments

variable {d : Deployment} {x : Externals} {a : HandleCompleteSwap} {b b' : Bank} {u : Unit}
  {s t : TokenAccount Pubkey}

/-- What a transfer between accounts of different owners or mints does to the token accounts, if the
source is closed afterwards. -/
theorem transfer_tokens {program : TokenProgram} {src dst authority : Pubkey} {n : ℕ}
    (hne : src ≠ dst)
    (h : cpi (transfer d.nativeMint program src dst authority n) b = .ok (u, b')) :
    ∃ s s' e, b.tokens src = some s ∧ b.tokens dst = some e ∧ s.mint = e.mint ∧
      e.program = program ∧ b'.tokens = Function.update (credited b.tokens dst n) src (some s') ∧
      (s.mint ≠ d.nativeMint → b'.lamports = b.lamports) ∧ SameState b b' := by
  obtain ⟨_, hop, rfl⟩ := cpi_ok.1 h
  obtain ⟨s, s', e, hs, he, -, hp, hm, -, hauth, rfl⟩ := (transfer_ok hne).1 hop
  refine ⟨s, _, e, hs, he, hm, hp, transferred_tokens hne he, fun hn => ?_, .withAccounts _ _⟩
  exact transferred_lamports_of_ne (by rwa [(authorize_ok hauth).2.2.1])

/-- Closing an account of the authority. -/
theorem close_tokens {program : TokenProgram} {k authority : Pubkey} {destination : Pubkey}
    (h : cpi (closeAccount d.nativeMint program k destination authority) b = .ok (u, b')) :
    k ≠ destination ∧ (∃ s, b.tokens k = some s ∧ (s.mint = d.nativeMint ∨ s.amount = 0)) ∧
      b'.tokens = Function.update b.tokens k none ∧
      b'.lamports = (b.accounts.moveLamports k destination (b.lamports k)).lamports ∧
      SameState b b' := by
  obtain ⟨_, hop, rfl⟩ := cpi_ok.1 h
  obtain ⟨hne, s, hs, -, hz, -, rfl⟩ := closeAccount_ok.1 hop
  refine ⟨hne, ⟨s, hs, hz⟩, ?_, ?_, .withAccounts _ _⟩
  · rw [Bank.withAccounts_tokens, Accounts.moveLamports_tokens]
    rfl
  · exact Accounts.moveLamports_congr (Accounts.setToken_lamports ..) _ _ _

/-- What the payments after a swap make of the source: it is closed, and what was left of it is with
the fee recipient. -/
structure SourceSettled (d : Deployment) (a : HandleCompleteSwap) (dust : ℕ) (b b' : Bank) : Prop where
  tokens : b'.tokens = Function.update (credited b.tokens b.custodian.feeRecipientToken dust)
    (a.srcSwapToken d) none
  fee : 0 < dust → ∃ e, b.tokens b.custodian.feeRecipientToken = some e ∧ e.mint = d.usdcMint
  lamports : b'.lamports =
    (b.accounts.moveLamports (a.srcSwapToken d) a.payer (b.lamports (a.srcSwapToken d))).lamports
  state : SameState b b'

/-- A transfer of the dust to itself leaves it there, and then the source cannot be closed. -/
theorem settleSource_ne (hs : TokenOf b (a.srcSwapToken d) d.usdcMint a.swapAuthority .token s)
    (hpos : 0 < s.amount) (h : settleSource d a s.amount b = .ok (u, b')) :
    a.srcSwapToken d ≠ b.custodian.feeRecipientToken := by
  intro he
  obtain ⟨_, b₁, hdust, hclose⟩ := bind_ok.1 h
  obtain ⟨-, ⟨s', hs', hz⟩, -⟩ := close_tokens hclose
  rw [payDust, if_pos hpos] at hdust
  obtain ⟨c, b₀, hget, hpay⟩ := bind_ok.1 hdust
  obtain ⟨rfl, rfl⟩ := getBank_ok.1 hget
  obtain ⟨_, hop, rfl⟩ := cpi_ok.1 hpay
  rw [← he] at hop
  rw [transfer_self hop] at hs'
  obtain rfl : s = s' := Option.some.inj (hs.token.symm.trans hs')
  rcases hz with hm | hz
  · exact d.usdc_ne_native (hs.mint.symm.trans hm)
  · omega

theorem settleSource_ok (hs : TokenOf b (a.srcSwapToken d) d.usdcMint a.swapAuthority .token s)
    (h : settleSource d a s.amount b = .ok (u, b')) : SourceSettled d a s.amount b b' := by
  obtain ⟨_, b₁, hdust, hclose⟩ := bind_ok.1 h
  obtain ⟨-, -, htokens, hlamports, hsame⟩ := close_tokens hclose
  unfold payDust at hdust
  by_cases hpos : 0 < s.amount
  · have hne := settleSource_ne hs hpos h
    rw [if_pos hpos] at hdust
    obtain ⟨c, b₀, hget, hpay⟩ := bind_ok.1 hdust
    obtain ⟨rfl, rfl⟩ := getBank_ok.1 hget
    obtain ⟨s₁, s₁', e, hs₁, he, hm, -, htokens₁, hlamports₁, hsame₁⟩ := transfer_tokens hne hpay
    obtain rfl : s = s₁ := Option.some.inj (hs.token.symm.trans hs₁)
    have hl := hlamports₁ (hs.mint ▸ d.usdc_ne_native)
    refine ⟨?_, fun _ => ⟨e, he, hm.symm.trans hs.mint⟩, ?_, hsame₁.trans _ _ _ hsame⟩
    · rw [htokens, htokens₁, Function.update_idem]
    · rw [hlamports, ← congrFun hl]
      exact Accounts.moveLamports_congr hl _ _ _
  · rw [if_neg hpos] at hdust
    obtain ⟨-, rfl⟩ := pure_ok.1 hdust
    obtain hzero : s.amount = 0 := by omega
    refine ⟨?_, fun h => absurd h hpos, hlamports, hsame⟩
    rw [hzero, credited_zero, htokens]

theorem payRecipient_native {m : SwapMessageV1} (h : isNative m.outputToken = true)
    (r : RecipientAccounts) (n gasDropoff : ℕ) :
    payRecipient d a m (some r) n gasDropoff = payGas d a r.recipient n gasDropoff := if_pos h

theorem payRecipient_other {m : SwapMessageV1} (h : isNative m.outputToken = false)
    (r : RecipientAccounts) (n gasDropoff : ℕ) :
    payRecipient d a m (some r) n gasDropoff = payToken d a r n gasDropoff :=
  if_neg (by rw [h]; exact Bool.false_ne_true)

theorem payRecipient_sameState (m : SwapMessageV1) (recipient : Option RecipientAccounts)
    (n gasDropoff : ℕ) : Guarantees SameState (payRecipient d a m recipient n gasDropoff) := by
  have hclose := cpi_sameState (closeAccount d.nativeMint a.dstTokenProgram (a.dstSwapToken d) a.payer
    a.swapAuthority)
  cases recipient with
  | none => exact .pure SameState.refl ()
  | some r =>
    cases hnative : isNative m.outputToken with
    | true =>
      rw [payRecipient_native hnative]
      exact hclose.bind SameState.trans fun _ =>
        (check_sameState _ _).bind SameState.trans fun _ => systemTransfer_sameState _ _ _
    | false =>
      rw [payRecipient_other hnative]
      refine (loadAccount_sameState _).bind SameState.trans fun _ =>
        (constraint_sameState _ _).bind SameState.trans fun _ =>
        (cpi_sameState _).bind SameState.trans fun _ => hclose.bind SameState.trans fun _ => ?_
      intro c u c' h
      obtain ⟨-, rfl⟩ := payGasDropoff_ok.1 h
      exact .withAccounts _ _

/-- The payments of gas, one after the other. -/
theorem payGas_stages {recipient : Pubkey} {n gasDropoff : ℕ}
    (h : payGas d a recipient n gasDropoff b = .ok (u, b')) :
    ∃ b₁, cpi (closeAccount d.nativeMint a.dstTokenProgram (a.dstSwapToken d) a.payer a.swapAuthority)
        b = .ok ((), b₁) ∧ n + gasDropoff ≤ b₁.lamports a.payer ∧
      b' = b₁.withAccounts (b₁.accounts.moveLamports a.payer recipient (n + gasDropoff)) := by
  obtain ⟨_, b₁, hclose, h₁⟩ := bind_ok.1 h
  obtain ⟨_, _, hcheck, hpay⟩ := bind_ok.1 h₁
  obtain ⟨-, rfl⟩ := check_ok.1 hcheck
  obtain ⟨-, hle, rfl⟩ := systemTransfer_ok.1 hpay
  exact ⟨_, hclose, hle, rfl⟩

/-- **Gas** is paid from the lamports of the payer, who has received those of the account. -/
theorem payGas_ok {recipient : Pubkey} {n gasDropoff : ℕ}
    (h : payGas d a recipient n gasDropoff b = .ok (u, b')) :
    b'.tokens = Function.update b.tokens (a.dstSwapToken d) none ∧
      (∃ s : Accounts Pubkey, s.lamports =
          (b.accounts.moveLamports (a.dstSwapToken d) a.payer
            (b.lamports (a.dstSwapToken d))).lamports ∧
        b'.lamports = (s.moveLamports a.payer recipient (n + gasDropoff)).lamports) ∧
      SameState b b' := by
  obtain ⟨b₁, hclose, -, rfl⟩ := payGas_stages h
  obtain ⟨-, -, htokens, hlamports, hsame⟩ := close_tokens hclose
  refine ⟨?_, ⟨_, hlamports, rfl⟩, hsame.trans _ _ _ (.withAccounts _ _)⟩
  rw [Bank.withAccounts_tokens, Accounts.moveLamports_tokens]
  exact htokens

/-- The payments of a token output, one after the other. -/
theorem payToken_stages {r : RecipientAccounts} {n gasDropoff : ℕ}
    (h : payToken d a r n gasDropoff b = .ok (u, b')) :
    ∃ e b₁ b₂, b.tokens r.recipientToken = some e ∧ e.owner = r.recipient ∧
      cpi (transfer d.nativeMint a.dstTokenProgram (a.dstSwapToken d) r.recipientToken
        a.swapAuthority n) b = .ok ((), b₁) ∧
      cpi (closeAccount d.nativeMint a.dstTokenProgram (a.dstSwapToken d) a.payer a.swapAuthority) b₁
        = .ok ((), b₂) ∧
      payGasDropoff a.payer r.recipient gasDropoff b₂ = .ok (u, b') := by
  obtain ⟨e, _, hload, h₁⟩ := bind_ok.1 h
  obtain ⟨he, rfl⟩ := interfaceTokenAccount_ok.1 hload
  obtain ⟨_, _, hcheck, h₂⟩ := bind_ok.1 h₁
  obtain ⟨howner, rfl⟩ := constraint_ok.1 hcheck
  obtain ⟨_, b₁, hpay, h₃⟩ := bind_ok.1 h₂
  obtain ⟨_, b₂, hclose, hdropoff⟩ := bind_ok.1 h₃
  exact ⟨e, b₁, b₂, he, howner, hpay, hclose, hdropoff⟩

/-- Only the authority of the swap owns the account that is closed. -/
theorem payToken_ne {r : RecipientAccounts} {n gasDropoff : ℕ}
    (ht : TokenOf b (a.dstSwapToken d) a.dstMint a.swapAuthority a.dstTokenProgram t)
    (hne : r.recipient ≠ a.swapAuthority) (h : payToken d a r n gasDropoff b = .ok (u, b')) :
    a.dstSwapToken d ≠ r.recipientToken := by
  intro hk
  obtain ⟨e, b₁, b₂, he, howner, -, -, -⟩ := payToken_stages h
  obtain rfl : t = e := Option.some.inj ((hk ▸ ht.token).symm.trans he)
  exact hne (howner.symm.trans ht.owner)

/-- **Other tokens** are paid into the account of the recipient, if it is not the account that is
closed. -/
theorem payToken_ok {r : RecipientAccounts} {n gasDropoff : ℕ}
    (ht : TokenOf b (a.dstSwapToken d) a.dstMint a.swapAuthority a.dstTokenProgram t)
    (hdst : a.dstSwapToken d ≠ r.recipientToken) (h : payToken d a r n gasDropoff b = .ok (u, b')) :
    ∃ e, TokenOf b r.recipientToken a.dstMint r.recipient a.dstTokenProgram e ∧
      b'.tokens = Function.update (credited b.tokens r.recipientToken n) (a.dstSwapToken d) none ∧
      SameState b b' := by
  obtain ⟨e, b₁, b₂, he, howner, hpay, hclose, hdropoff⟩ := payToken_stages h
  obtain ⟨t', t'', e', ht', he', hm, hp, htokens, -, hsame⟩ := transfer_tokens hdst hpay
  obtain rfl : t = t' := Option.some.inj (ht.token.symm.trans ht')
  obtain rfl : e = e' := Option.some.inj (he.symm.trans he')
  obtain ⟨-, -, htokens', -, hsame'⟩ := close_tokens hclose
  obtain ⟨-, rfl⟩ := payGasDropoff_ok.1 hdropoff
  refine ⟨e, ⟨he, hp, hm.symm.trans ht.mint, howner⟩, ?_,
    hsame.trans _ _ _ (hsame'.trans _ _ _ (.withAccounts _ _))⟩
  rw [Bank.withAccounts_tokens, Accounts.moveLamports_tokens]
  show b₂.tokens = _
  rw [htokens', htokens, Function.update_idem]

/-- Tokens that are paid into the account that is closed stay there, so unless they are lamports
there are none. -/
theorem payToken_self {r : RecipientAccounts} {n gasDropoff : ℕ}
    (ht : TokenOf b (a.dstSwapToken d) a.dstMint a.swapAuthority a.dstTokenProgram t)
    (hdst : a.dstSwapToken d = r.recipientToken) (h : payToken d a r n gasDropoff b = .ok (u, b')) :
    (a.dstMint = d.nativeMint ∨ t.amount = 0) ∧
      b'.tokens = Function.update b.tokens (a.dstSwapToken d) none := by
  obtain ⟨e, b₁, b₂, he, howner, hpay, hclose, hdropoff⟩ := payToken_stages h
  obtain ⟨_, hop, rfl⟩ := cpi_ok.1 hpay
  rw [← hdst] at hop
  rw [transfer_self hop] at hclose
  obtain ⟨-, ⟨t', ht', hz⟩, htokens, -, -⟩ := close_tokens hclose
  obtain rfl : t = t' := Option.some.inj (ht.token.symm.trans ht')
  obtain ⟨-, rfl⟩ := payGasDropoff_ok.1 hdropoff
  refine ⟨hz.imp_left fun hm => ht.mint.symm.trans hm, ?_⟩
  rw [Bank.withAccounts_tokens, Accounts.moveLamports_tokens]
  exact htokens

end Payments

/-! ## What a swap does -/

section Swap

variable {d : Deployment} {x : Externals} {a : HandleCompleteSwap} {b b' : Bank} {u : Unit}
  {s t : TokenAccount Pubkey} {route : SharedAccountsRoute} {msg : SwapMessageV1} {inAmount : ℕ}

/-- **A swap before its output is paid out**: Jupiter was asked for `inAmount` and has answered; the
source is closed, what was left of it is with the fee recipient, and the destination holds what
the swap has paid. -/
structure Swapped (d : Deployment) (x : Externals) (a : HandleCompleteSwap) (s t : TokenAccount Pubkey)
    (inAmount : ℕ) (reply : JupiterReply) (b b' : Bank) : Prop where
  answered : ∃ call, call.args.inAmount = inAmount ∧ call.srcAmount = s.amount ∧
    call.dstAmount = t.amount ∧ x.jupiter call = some reply
  tokens : b'.tokens = Function.update (Function.update
    (credited b.tokens b.custodian.feeRecipientToken reply.srcAmount) (a.srcSwapToken d) none)
    (a.dstSwapToken d) (some { t with amount := reply.dstAmount })
  lamports : ∀ k, k ≠ a.srcSwapToken d → k ≠ a.dstSwapToken d → b.lamports k ≤ b'.lamports k
  state : SameState b b'

/-- A token account that is there, and is not one of the two of a swap. -/
structure HandleCompleteSwap.Stays (d : Deployment) (a : HandleCompleteSwap) (b : Bank) (k : Pubkey) :
    Prop where
  src : k ≠ a.srcSwapToken d
  dst : k ≠ a.dstSwapToken d
  token : ∃ e, b.tokens k = some e

/-- **Who else a swap concerns** before its output is paid out: the payer gets the lamports of the
source, and the account of the fee recipient takes what was left of it. -/
structure SwapSettled (d : Deployment) (a : HandleCompleteSwap) (dust : ℕ) (b b' : Bank) : Prop where
  lamports : ∃ i o c, Ledger.Moves b.lamports b'.lamports
    (Pi.single (a.dstSwapToken d) i + Pi.single a.payer c)
    (Pi.single (a.dstSwapToken d) o + Pi.single (a.srcSwapToken d) c)
  fee : 0 < dust → a.Stays d b b.custodian.feeRecipientToken

section Settled

variable {reply : JupiterReply}

/-- What the source holds after Jupiter has answered. -/
theorem SwapAccounts.swapped (hacc : SwapAccounts d a b s t) (reply : JupiterReply) :
    TokenOf (b.withAccounts (swapped d (a.srcSwapToken d) (a.dstSwapToken d) s t reply b.accounts))
      (a.srcSwapToken d) d.usdcMint a.swapAuthority .token { s with amount := reply.srcAmount } :=
  ⟨swapped_src hacc.ne, hacc.src.program, hacc.src.mint, hacc.src.owner⟩

/-- The account that takes the dust is not the destination, which has another mint. -/
theorem settleSwapped_stays (hacc : SwapAccounts d a b s t) (hpos : 0 < reply.srcAmount)
    (h : settleSource d a reply.srcAmount
      (b.withAccounts (swapped d (a.srcSwapToken d) (a.dstSwapToken d) s t reply b.accounts))
      = .ok (u, b')) : a.Stays d b b.custodian.feeRecipientToken := by
  have hsrc : b.custodian.feeRecipientToken ≠ a.srcSwapToken d :=
    (settleSource_ne (hacc.swapped reply) hpos h).symm
  obtain ⟨e, hfee, hm⟩ := (settleSource_ok (hacc.swapped reply) h).fee hpos
  change (swapped d _ _ s t reply b.accounts).tokens b.custodian.feeRecipientToken = _ at hfee
  have hdst : b.custodian.feeRecipientToken ≠ a.dstSwapToken d := by
    intro he
    rw [he, swapped_dst] at hfee
    cases hfee
    exact hacc.mints (hm.symm.trans hacc.dst.mint)
  exact ⟨hsrc, hdst, e, (swapped_other hsrc hdst).symm.trans hfee⟩

theorem settleSwapped_settled (hacc : SwapAccounts d a b s t)
    (h : settleSource d a reply.srcAmount
      (b.withAccounts (swapped d (a.srcSwapToken d) (a.dstSwapToken d) s t reply b.accounts))
      = .ok (u, b')) : SwapSettled d a reply.srcAmount b b' := by
  refine ⟨?_, fun hpos => settleSwapped_stays hacc hpos h⟩
  obtain ⟨i, o, hswap⟩ := swapped_moves (a.srcSwapToken d) (a.dstSwapToken d) t reply b.accounts
    (s := s) (hacc.src.mint ▸ d.usdc_ne_native)
  have hclose := Accounts.moveLamports_moves (Nat.le_refl ((swapped d (a.srcSwapToken d)
    (a.dstSwapToken d) s t reply b.accounts).lamports (a.srcSwapToken d))) a.payer
  rw [(settleSource_ok (hacc.swapped reply) h).lamports]
  exact ⟨i, o, _, hswap.trans hclose⟩

/-- The source is settled right after Jupiter has answered. -/
theorem settleSwapped_ok (hacc : SwapAccounts d a b s t)
    (h : settleSource d a reply.srcAmount
      (b.withAccounts (swapped d (a.srcSwapToken d) (a.dstSwapToken d) s t reply b.accounts))
      = .ok (u, b')) :
    b'.tokens = Function.update (Function.update
        (credited b.tokens b.custodian.feeRecipientToken reply.srcAmount) (a.srcSwapToken d) none)
        (a.dstSwapToken d) (some { t with amount := reply.dstAmount }) ∧
      (∀ k, k ≠ a.srcSwapToken d → k ≠ a.dstSwapToken d → b.lamports k ≤ b'.lamports k) ∧
      SameState b b' := by
  have hne := hacc.ne
  have hsettled := settleSource_ok (hacc.swapped reply) h
  refine ⟨?_, fun k hk hk' => ?_, (SameState.withAccounts _ _).trans _ _ _ hsettled.state⟩
  · have htokens := hsettled.tokens
    simp only [Bank.withAccounts_tokens, swapped_tokens] at htokens
    rw [htokens]
    show Function.update (credited _ b.custodian.feeRecipientToken _) _ _ = _
    rcases Nat.eq_zero_or_pos reply.srcAmount with hzero | hpos
    · rw [hzero, credited_zero, credited_zero, Function.update_comm hne.symm, Function.update_idem]
      rfl
    · have hdst := (settleSwapped_stays hacc hpos h).dst
      rw [credited_update hdst.symm, Function.update_comm hne.symm, update_credited_update]
      rfl
  · rw [hsettled.lamports]
    refine Nat.le_trans ?_ (Kept.moveLamports hk).lamports
    exact (swapped_kept hk hk').lamports

end Settled

/-- **A swap pays at least the limit of the message.** -/
theorem handleCompleteSwapJupV6_ok {e : Error} {recipient : Option RecipientAccounts} {gasDropoff : ℕ}
    (h : handleCompleteSwapJupV6 e d x a route inAmount msg recipient gasDropoff b = .ok (u, b'))
    (hacc : SwapAccounts d a b s t) :
    ∃ requested reply b₁, (∀ r, recipient = some r → r.recipient = msg.recipient) ∧
      requestedSwap e d a.payer msg recipient = .ok requested ∧
      (∀ limit parameters, requested = some (limit, parameters) → limit ≤ reply.dstAmount) ∧
      Swapped d x a s t inAmount reply b b₁ ∧ SwapSettled d a reply.srcAmount b b₁ ∧
      payRecipient d a msg recipient reply.dstAmount gasDropoff b₁ = .ok (u, b') := by
  obtain ⟨_, _, hcheck, h₁⟩ := bind_ok.1 h
  obtain ⟨hrecipient, rfl⟩ := checkRecipient_ok.1 hcheck
  obtain ⟨requested, _, hlift, h₂⟩ := bind_ok.1 h₁
  obtain ⟨hrequested, rfl⟩ := lift_ok.1 hlift
  obtain ⟨first, _, hsetup, h₃⟩ := bind_ok.1 h₂
  cases setUp_ok hsetup
  obtain ⟨_, _, hverify, h₄⟩ := bind_ok.1 h₃
  obtain ⟨-, hsrc, hdst, -, -, rfl⟩ := verify_ok.1 hverify
  obtain ⟨⟨args, limitAmount⟩, _, hargs, h₅⟩ := bind_ok.1 h₄
  obtain ⟨hswapArgs, rfl⟩ := lift_ok.1 hargs
  obtain ⟨hin, rfl⟩ := swapArguments_ok hswapArgs
  obtain ⟨⟨out, dust⟩, _, hswap, h₆⟩ := bind_ok.1 h₅
  obtain ⟨s', t', reply, hs', ht', hj, rfl, rfl, hlimit, rfl⟩ := swapExactIn_ok hswap
  rw [hsrc] at hs'
  rw [hdst] at ht'
  obtain rfl : s = s' := Option.some.inj (hacc.src.token.symm.trans hs')
  obtain rfl : t = t' := Option.some.inj (hacc.dst.token.symm.trans ht')
  obtain ⟨_, b₁, hsettle, hpay⟩ := bind_ok.1 h₆
  rw [hsrc, hdst] at hsettle
  obtain ⟨htokens, hlamports, hsame⟩ := settleSwapped_ok hacc hsettle
  refine ⟨requested, reply, b₁, hrecipient, hrequested, fun limit parameters hlim => ?_,
    ⟨⟨_, hin, rfl, rfl, hj⟩, htokens, hlamports, hsame⟩, settleSwapped_settled hacc hsettle, hpay⟩
  rw [hlim] at hlimit
  exact hlimit

end Swap

/-! ## What the instructions do -/

section Instructions

variable {d : Deployment} {x : Externals} {b b' : Bank} {u : Unit}

/-- The accounts of a swap when the fill has arrived in the source. -/
theorem SwapAccounts.consumed {a : HandleCompleteSwap} {s t : TokenAccount Pubkey}
    (h : SwapAccounts d a b s t) (c : ConsumeSwapLayerFill) (n : ℕ) :
    SwapAccounts d a (c.consumed (a.srcSwapToken d) s n b) { s with amount := s.amount + n } t where
  src := ⟨ConsumeSwapLayerFill.consumed_dst, h.src.program, h.src.mint, h.src.owner⟩
  dst := by
    refine ⟨?_, h.dst.program, h.dst.mint, h.dst.owner⟩
    rw [ConsumeSwapLayerFill.consumed_tokens, Function.update_of_ne h.ne.symm]
    exact h.dst.token
  mints := h.mints

/-- Consuming the fill into the source of a swap. -/
theorem SwapAccounts.consume_ok {a : HandleCompleteSwap} {s t : TokenAccount Pubkey}
    {c : ConsumeSwapLayerFill} {f : PreparedFill} {n : ℕ} (h : SwapAccounts d a b s t)
    (hf : b.fills c.fill = some f)
    (hconsume : c.consumePreparedFill d x (a.srcSwapToken d) b = .ok (n, b')) :
    x.acceptsFill c.fill = true ∧ n = s.amount + f.amount ∧
      b' = c.consumed (a.srcSwapToken d) s f.amount b := by
  obtain ⟨haccepts, f', s', hf', hs', hn, hb'⟩ :=
    ConsumeSwapLayerFill.consumePreparedFill_ok.1 hconsume
  obtain rfl := Option.some.inj (hf.symm.trans hf')
  obtain rfl := Option.some.inj (h.src.token.symm.trans hs'.token)
  exact ⟨haccepts, hn, hb'⟩

/-- What a swap that was completed for a recipient has checked and done: the fill was consumed into
the source, `inAmount` of it swapped, and the output is paid from the state `b₁`. -/
structure SwapCompleted (d : Deployment) (x : Externals) (a : CompleteSwap) (f : PreparedFill)
    (m : SwapMessageV1) (p : Peer) (s t : TokenAccount Pubkey) (reply : JupiterReply)
    (inAmount gasDropoff : ℕ) (b b₁ b' : Bank) : Prop where
  loads : a.consumeSwapLayerFill.Loads b f m p
  valid : isValidOutputSwap d x m a.dstMint = .ok ()
  accounts : SwapAccounts d (a.accounts d) b s t
  accepts : x.acceptsFill a.consumeSwapLayerFill.fill = true
  recipient : a.recipient = m.recipient
  requested : ∃ requested, requestedSwap .panic d a.payer m (some ⟨a.recipient, a.recipientToken d⟩)
      = .ok requested ∧
    ∀ limit parameters, requested = some (limit, parameters) → limit ≤ reply.dstAmount
  swapped : Swapped d x (a.accounts d) { s with amount := s.amount + f.amount } t inAmount reply
    (a.consumeSwapLayerFill.consumed ((a.accounts d).srcSwapToken d) s f.amount b) b₁
  paid : payRecipient d (a.accounts d) m (some ⟨a.recipient, a.recipientToken d⟩) reply.dstAmount
    gasDropoff b₁ = .ok ((), b')

section Recipient

variable {a : CompleteSwap}

theorem CompleteSwap.load_ok {e : Error} {f : PreparedFill} (h : a.load e d x b = .ok (f, b')) :
    (∃ m p s t, a.consumeSwapLayerFill.Loads b f m p ∧
      isValidOutputSwap d x m a.dstMint = .ok () ∧ SwapAccounts d (a.accounts d) b s t) ∧
      b' = b := by
  obtain ⟨⟨f', m, p⟩, _, hload, h₁⟩ := bind_ok.1 h
  obtain ⟨hloads, rfl⟩ := ConsumeSwapLayerFill.load_ok.1 hload
  obtain ⟨m', _, hread, h₂⟩ := bind_ok.1 h₁
  obtain ⟨rfl, rfl⟩ := hloads.read_ok.1 hread
  obtain ⟨_, _, hchecked, hret⟩ := bind_ok.1 h₂
  obtain ⟨⟨-, hvalid, s, t, hacc⟩, rfl⟩ := HandleCompleteSwap.load_ok.1 hchecked
  obtain ⟨rfl, rfl⟩ := pure_ok.1 hret
  exact ⟨⟨_, p, s, t, hloads, hvalid, hacc⟩, rfl⟩

/-- The stages that a direct and a relayed redemption share. -/
theorem CompleteSwap.completed {f : PreparedFill} {m : SwapMessageV1} {p : Peer}
    {s t : TokenAccount Pubkey} {inAmount gasDropoff : ℕ}
    (hloads : a.consumeSwapLayerFill.Loads b f m p)
    (hvalid : isValidOutputSwap d x m a.dstMint = .ok ())
    (hacc : SwapAccounts d (a.accounts d) b s t)
    (haccepts : x.acceptsFill a.consumeSwapLayerFill.fill = true)
    (h : a.completeSwapJupV6 .panic d x inAmount m gasDropoff
      (a.consumeSwapLayerFill.consumed ((a.accounts d).srcSwapToken d) s f.amount b) = .ok (u, b')) :
    ∃ reply b₁, SwapCompleted d x a f m p s t reply inAmount gasDropoff b b₁ b' ∧
      SwapSettled d (a.accounts d) reply.srcAmount
        (a.consumeSwapLayerFill.consumed ((a.accounts d).srcSwapToken d) s f.amount b) b₁ := by
  obtain ⟨requested, reply, b₁, hrecipient, hrequested, hlimit, hswapped, hsettled, hpaid⟩ :=
    handleCompleteSwapJupV6_ok h (hacc.consumed _ _)
  exact ⟨reply, b₁, ⟨hloads, hvalid, hacc, haccepts, hrecipient _ rfl,
    ⟨requested, hrequested, hlimit⟩, hswapped, hpaid⟩, hsettled⟩

/-- **`complete_swap_direct`** swaps all of the fill. -/
theorem completeSwapDirect_ok (h : completeSwapDirect d x a b = .ok (u, b')) :
    ∃ f m p s t reply b₁, m.redeemMode = .direct ∧
      SwapCompleted d x a f m p s t reply (s.amount + f.amount) 0 b b₁ b' := by
  obtain ⟨f, _, hload, h₁⟩ := bind_ok.1 h
  obtain ⟨⟨m, p, s, t, hloads, hvalid, hacc⟩, rfl⟩ := CompleteSwap.load_ok hload
  obtain ⟨m', _, hread, h₂⟩ := bind_ok.1 h₁
  obtain ⟨rfl, rfl⟩ := hloads.read_ok.1 hread
  obtain ⟨n, _, hconsume, h₃⟩ := bind_ok.1 h₂
  obtain ⟨haccepts, rfl, rfl⟩ := hacc.consume_ok hloads.fill hconsume
  cases hmode : m'.redeemMode with
  | direct =>
    rw [hmode] at h₃
    obtain ⟨reply, b₁, hcompleted, -⟩ := CompleteSwap.completed hloads hvalid hacc haccepts h₃
    exact ⟨f, m', p, s, t, reply, b₁, hmode, hcompleted⟩
  | payload sender buf =>
    rw [hmode] at h₃
    exact (fail_ok.1 h₃).elim
  | relay gasDropoff relayingFee =>
    rw [hmode] at h₃
    exact (fail_ok.1 h₃).elim

theorem CompleteSwap.relayAmounts_ok {fillAmount gasDropoff relayingFee n m : ℕ}
    (h : a.relayAmounts fillAmount gasDropoff relayingFee = .ok (n, m)) :
    if a.payer = a.recipient then n = fillAmount ∧ m = 0
      else relayingFee ≤ fillAmount ∧ n = fillAmount - relayingFee ∧ m = gasDropoff := by
  unfold CompleteSwap.relayAmounts at h
  by_cases hself : a.payer = a.recipient
  · rw [if_neg (not_not.2 hself)] at h
    rw [if_pos hself]
    cases h
    exact ⟨rfl, rfl⟩
  · rw [if_pos hself] at h
    rw [if_neg hself]
    obtain ⟨_, hfee, hret⟩ := except_bind_ok.1 h
    cases hret
    exact ⟨ensure_ok.1 hfee, rfl, rfl⟩

/-- **`complete_swap_relay`** swaps the fill without the fee, unless the payer is the recipient. -/
theorem completeSwapRelay_ok (h : completeSwapRelay d x a b = .ok (u, b')) :
    ∃ f m p s t reply b₁, ∃ gasDropoff : Uint 4, ∃ relayingFee : Uint 6, ∃ inAmount dropoff : ℕ,
      m.redeemMode = .relay gasDropoff relayingFee ∧
      (if a.payer = a.recipient then inAmount = s.amount + f.amount ∧ dropoff = 0
        else (relayingFee : ℕ) ≤ s.amount + f.amount ∧
          inAmount = s.amount + f.amount - (relayingFee : ℕ) ∧
          dropoff = denormalizeGasDropoff gasDropoff) ∧
      SwapCompleted d x a f m p s t reply inAmount dropoff b b₁ b' ∧
      SwapSettled d (a.accounts d) reply.srcAmount
        (a.consumeSwapLayerFill.consumed ((a.accounts d).srcSwapToken d) s f.amount b) b₁ := by
  obtain ⟨f, _, hload, h₁⟩ := bind_ok.1 h
  obtain ⟨⟨m, p, s, t, hloads, hvalid, hacc⟩, rfl⟩ := CompleteSwap.load_ok hload
  obtain ⟨m', _, hread, h₂⟩ := bind_ok.1 h₁
  obtain ⟨rfl, rfl⟩ := hloads.read_ok.1 hread
  cases hmode : m'.redeemMode with
  | direct =>
    rw [hmode] at h₂
    exact (fail_ok.1 h₂).elim
  | payload sender buf =>
    rw [hmode] at h₂
    exact (fail_ok.1 h₂).elim
  | relay gasDropoff relayingFee =>
    rw [hmode] at h₂
    obtain ⟨n, _, hconsume, h₃⟩ := bind_ok.1 h₂
    obtain ⟨haccepts, rfl, rfl⟩ := hacc.consume_ok hloads.fill hconsume
    obtain ⟨⟨inAmount, dropoff⟩, _, hamounts, h₄⟩ := bind_ok.1 h₃
    obtain ⟨hrelay, rfl⟩ := lift_ok.1 hamounts
    obtain ⟨reply, b₁, hcompleted, hsettled⟩ :=
      CompleteSwap.completed hloads hvalid hacc haccepts h₄
    exact ⟨f, m', p, s, t, reply, b₁, gasDropoff, relayingFee, inAmount, dropoff, hmode,
      CompleteSwap.relayAmounts_ok hrelay, hcompleted, hsettled⟩

end Recipient

/-- What a staged swap has checked and done: its output is the custody of the staged transfer. -/
structure SwapStaged (d : Deployment) (x : Externals) (a : CompleteSwapPayload) (f : PreparedFill)
    (m : SwapMessageV1) (p : Peer) (staged : StagedInbound) (s t : TokenAccount Pubkey)
    (reply : JupiterReply) (b b' : Bank) : Prop where
  loads : a.consumeSwapLayerFill.Loads b f m p
  valid : isValidOutputSwap d x m a.dstMint = .ok ()
  accepts : x.acceptsFill a.consumeSwapLayerFill.fill = true
  accounts : SwapAccounts d (a.accounts d) b s t
  answered : ∃ call, x.jupiter call = some reply
  limit : ∃ mint swap, outputSwap d m.outputToken = some (mint, swap) ∧
    (swap.limitAmount : ℕ) ≤ reply.dstAmount
  tokens : b'.tokens = Function.update (Function.update
    (credited b.tokens b.custodian.feeRecipientToken reply.srcAmount)
    ((a.accounts d).srcSwapToken d) none) ((a.accounts d).dstSwapToken d)
    (some { t with amount := reply.dstAmount })
  fills : b'.fills = Function.update b.fills a.consumeSwapLayerFill.fill none
  inbound : b'.inbound = Function.update b.inbound (d.stagedInbound a.consumeSwapLayerFill.fill)
    (some staged)
  state : ∃ sender buf, m.redeemMode = .payload sender buf ∧
    staged = ⟨a.consumeSwapLayerFill.fill, (a.accounts d).dstSwapToken d, a.payer, f.sourceChain,
      sender, m.recipient, isNative m.outputToken, buf.val⟩

/-- **`complete_swap_payload`** leaves the output of a swap of the message in custody. -/
theorem completeSwapPayload_ok {a : CompleteSwapPayload}
    (h : completeSwapPayload d x a b = .ok (u, b')) :
    ∃ f m p staged s t reply, SwapStaged d x a f m p staged s t reply b b' := by
  obtain ⟨⟨f, m, p⟩, _, hload, h₁⟩ := bind_ok.1 h
  obtain ⟨hloads, rfl⟩ := ConsumeSwapLayerFill.load_ok.1 hload
  obtain ⟨_, _, hread, h₂⟩ := bind_ok.1 h₁
  obtain ⟨rfl, rfl⟩ := hloads.read_ok.1 hread
  obtain ⟨_, b₁, hinit, h₃⟩ := bind_ok.1 h₂
  obtain ⟨htokens₁, hsame₁⟩ := initStagedInbound_ok hinit
  obtain ⟨_, _, hread, h₄⟩ := bind_ok.1 h₃
  obtain ⟨rfl, rfl⟩ := hloads.read_ok.1 hread
  obtain ⟨_, b₂, hchecked, h₅⟩ := bind_ok.1 h₄
  obtain ⟨⟨-, hvalid, s, t, hacc⟩, rfl⟩ := HandleCompleteSwap.load_ok.1 hchecked
  obtain ⟨n, _, hconsume, h₆⟩ := bind_ok.1 h₅
  obtain ⟨haccepts, rfl, rfl⟩ := hacc.consume_ok ((congrFun hsame₁.fills _).trans hloads.fill) hconsume
  obtain ⟨m, _, hread, h₇⟩ := bind_ok.1 h₆
  obtain ⟨rfl, rfl⟩ := hloads.read_ok.1 hread
  obtain ⟨staged, _, hlift, h₈⟩ := bind_ok.1 h₇
  obtain ⟨hstaged, rfl⟩ := lift_ok.1 hlift
  obtain ⟨sender, buf, hmode, rfl⟩ := stagedInbound_ok.1 hstaged
  obtain ⟨_, b₃, hset, h₉⟩ := bind_ok.1 h₈
  have hb₃ := modifyBank_ok.1 hset
  subst hb₃
  have hacc' := hacc.consumed a.consumeSwapLayerFill f.amount
  obtain ⟨requested, reply, b₄, -, hrequested, hlimit, hswapped, -, hpaid⟩ :=
    handleCompleteSwapJupV6_ok h₉ (hacc'.of_tokens rfl)
  obtain ⟨-, rfl⟩ := pure_ok.1 hpaid
  obtain ⟨call, -, -, -, hj⟩ := hswapped.answered
  have hanswered : ∃ call, x.jupiter call = some reply := ⟨call, hj⟩
  have htokens := hswapped.tokens
  refine ⟨f, m, p, _, s, t, reply, hloads, hvalid, haccepts, hacc.of_tokens htokens₁.symm, hanswered,
    ?_, ?_, ?_, ?_, sender, buf, hmode, rfl⟩
  · cases hswap : outputSwap d m.outputToken with
    | none =>
      obtain ⟨_, hnone, -⟩ := requestedSwap_none hswap hrequested
      cases hnone
    | some r =>
      obtain ⟨parameters, rfl⟩ := requestedSwap_some hswap hrequested
      exact ⟨r.1, r.2, rfl, hlimit _ _ rfl⟩
  · rw [htokens]
    show Function.update (Function.update (credited (a.consumeSwapLayerFill.consumed _ s f.amount
      b₂).tokens b₂.custodian.feeRecipientToken _) _ none) _ _ = _
    rw [ConsumeSwapLayerFill.consumed_tokens, update_credited_update, htokens₁, hsame₁.custodian]
  · exact hswapped.state.fills.trans (congrArg (Function.update · _ _) hsame₁.fills)
  · exact hswapped.state.inbound.trans (congrArg (Function.update · _ _) hsame₁.inbound)

end Instructions

end SwapLayer.Solana
