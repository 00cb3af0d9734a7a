import SwapLayer.Solana.Jupiter
import SwapLayer.Solana.StageOutbound

/-!
# Initiating and cancelling a staged transfer

Model of `processor/initiate/transfer.rs`, `processor/initiate/swap/exact_in.rs` and
`processor/close_staged_outbound.rs`, and of `to_swap_message_v1` (`state/staged/outbound.rs`). Anyone
may initiate; only the recorded sender may close.

Results: for each instruction, what a success has checked and what it leaves of the staged account,
the custody account and the orders:
* `initiateTransfer_ok`, `initiateSwapExactIn_ok`, `closeStagedOutbound_ok`.
-/

namespace SwapLayer.Solana

open ByteString Program SplToken Messages

/-! ## The message of a staged transfer -/

namespace StagedOutbound

/-- The redeem mode of the message. -/
def redeemModeOr (e : Error) (s : StagedOutbound) : Except Error RedeemMode :=
  match s.stagedRedeem with
  | .direct => .ok .direct
  | .payload buf =>
    if h : buf.length < 256 ^ 2 then .ok (.payload s.info.sender ⟨buf, h⟩)
    else .error (.swapLayer .payloadTooLarge)
  | .relay gasDropoff relayingFee =>
    if h : relayingFee < 256 ^ 6 then .ok (.relay gasDropoff ⟨relayingFee, h⟩)
    else .error e

def redeemMode : StagedOutbound → Except Error RedeemMode := redeemModeOr .panic

/-- `to_swap_message_v1`: the redeem mode is taken out of the account. -/
def toSwapMessageV1Or (e : Error) (s : StagedOutbound) :
    Except Error (SwapMessageV1 × StagedOutbound) := do
  let mode ← s.redeemModeOr e
  let token ← readOutputToken s.encodedOutputToken (.swapLayer .invalidOutputToken)
  return (⟨s.info.recipient, mode, token⟩, { s with stagedRedeem := .direct })

def toSwapMessageV1 : StagedOutbound → Except Error (SwapMessageV1 × StagedOutbound) :=
  toSwapMessageV1Or .panic

theorem toSwapMessageV1_ok {s s' : StagedOutbound} {msg : SwapMessageV1} :
    s.toSwapMessageV1 = .ok (msg, s') ↔
      ∃ mode token, s.redeemMode = .ok mode ∧
        readOutputToken s.encodedOutputToken (.swapLayer .invalidOutputToken) = .ok token ∧
        msg = ⟨s.info.recipient, mode, token⟩ ∧ s' = { s with stagedRedeem := .direct } := by
  simp only [toSwapMessageV1, toSwapMessageV1Or, redeemMode, except_bind_ok, except_pure_ok, Prod.mk.injEq]
  constructor
  · rintro ⟨mode, hmode, token, htoken, rfl, rfl⟩
    exact ⟨mode, token, hmode, htoken, rfl, rfl⟩
  · rintro ⟨mode, token, hmode, htoken, rfl, rfl⟩
    exact ⟨mode, hmode, token, htoken, rfl, rfl⟩

/-- What a swap with dust leaves of a staged account. -/
def spent (s : StagedOutbound) : StagedOutbound :=
  { s with stagedRedeem := .direct, info := { s.info with recipient := zeroKey } }

end StagedOutbound

/-- `to_vec`, unwrapped. -/
def messageToVecOr (e : Error) (m : SwapMessageV1) : Except Error Bytes :=
  match m.toVec with
  | .ok bytes => .ok bytes
  | .error _ => .error e

def messageToVec : SwapMessageV1 → Except Error Bytes := messageToVecOr .panic

section Definitions

variable (e : Error) (d : Deployment) (x : Externals)

/-- `prepare_market_order` of the token router: it takes the USDC, or fails. -/
def prepareMarketOrder (order : MarketOrder) (senderToken authority : Pubkey) :
    Instruction Unit := do
  constraint (x.acceptsOrder order = true) .tokenRouter
  cpi (transferOut d.nativeMint .token senderToken authority order.amountIn)
  modifyBank fun b => { b with orders := b.orders ++ [order] }

/-- `close = prepared_by` of the staged account. -/
def closeStaged (stagedOutbound preparedBy : Pubkey) : Instruction Unit := do
  closeData stagedOutbound preparedBy
  modifyBank fun b => b.setOutbound stagedOutbound none

/-! ## `initiate_transfer` -/

structure InitiateTransfer where
  payer : Pubkey
  stagedOutbound : Pubkey
  targetPeer : ℕ

/-- The order that is prepared for a staged transfer. -/
def marketOrder (stagedOutbound : Pubkey) (s : StagedOutbound) (peer : Peer) (amountIn : ℕ)
    (redeemerMessage : Bytes) : MarketOrder where
  preparedOrder := d.preparedOrder stagedOutbound
  refundToken := s.info.usdcRefundToken
  amountIn := amountIn
  targetChain := s.info.targetChain
  redeemer := peer.address
  redeemerMessage := redeemerMessage

def initiateTransferOr (a : InitiateTransfer) : Instruction Unit := do
  let s ← stagedOutboundAccount a.stagedOutbound
  let custodyToken ← tokenAccount (d.stagedCustody a.stagedOutbound)
  constraint (custodyToken.mint = d.usdcMint) .constraintTokenMint
  let peer ← registeredPeer a.targetPeer
  check (s.info.targetChain = a.targetPeer) .invalidPeer
  let (msg, _) ← lift (s.toSwapMessageV1Or e)
  let redeemerMessage ← lift (messageToVecOr e msg)
  cpi (setOwner .token (d.stagedCustody a.stagedOutbound) (d.peer a.targetPeer) d.custodian)
  prepareMarketOrder d x (marketOrder d a.stagedOutbound s peer custodyToken.amount redeemerMessage)
    (d.stagedCustody a.stagedOutbound) d.custodian
  cpi (closeAccount d.nativeMint .token (d.stagedCustody a.stagedOutbound) s.info.preparedBy
    d.custodian)
  closeStaged a.stagedOutbound s.info.preparedBy

def initiateTransfer : InitiateTransfer → Instruction Unit := initiateTransferOr .panic d x

/-! ## `initiate_swap_exact_in` -/

structure InitiateSwapExactIn where
  payer : Pubkey
  stagedOutbound : Pubkey
  targetPeer : ℕ
  srcMint : Pubkey
  srcTokenProgram : TokenProgram
  route : SharedAccountsRoute

namespace InitiateSwapExactIn

variable (a : InitiateSwapExactIn)

def swapAuthority : Pubkey := d.swapAuthority (d.preparedOrder a.stagedOutbound)

def srcSwapToken : Pubkey := d.associatedToken (a.swapAuthority d) a.srcMint a.srcTokenProgram

def dstSwapToken : Pubkey := d.associatedToken (a.swapAuthority d) d.usdcMint .token

end InitiateSwapExactIn

/-- The account constraints of a swap. -/
def checkInitiateSwap (a : InitiateSwapExactIn) :
    Instruction (StagedOutbound × TokenAccount Pubkey × Peer) := do
  let s ← stagedOutboundAccount a.stagedOutbound
  check (s.info.isExactIn = true) .exactInRequired
  check (s.info.recipient ≠ zeroKey) .invalidRecipient
  let custodyToken ← interfaceTokenAccount (d.stagedCustody a.stagedOutbound)
  constraint (custodyToken.mint = a.srcMint) .constraintTokenMint
  constraint (custodyToken.owner = d.peer a.targetPeer) .constraintTokenOwner
  constraint (custodyToken.program = a.srcTokenProgram) .constraintTokenTokenProgram
  let peer ← registeredPeer a.targetPeer
  checkAssociated (a.srcSwapToken d) a.srcMint (a.swapAuthority d) a.srcTokenProgram
  checkAssociated (a.dstSwapToken d) d.usdcMint (a.swapAuthority d) .token
  check (a.srcMint ≠ d.usdcMint) .sameMint
  return (s, custodyToken, peer)

/-- The end of a swap: without dust everything is closed, with dust the account is spent. -/
def settleDust (a : InitiateSwapExactIn) (s : StagedOutbound) (srcDust : ℕ) : Instruction Unit :=
  let custody := d.stagedCustody a.stagedOutbound
  if srcDust = 0 then do
    cpi (closeAccount d.nativeMint a.srcTokenProgram (a.srcSwapToken d) a.payer (a.swapAuthority d))
    cpi (closeAccount d.nativeMint a.srcTokenProgram custody s.info.preparedBy
      (d.peer a.targetPeer))
    closeStaged a.stagedOutbound s.info.preparedBy
  else do
    cpi (transfer d.nativeMint a.srcTokenProgram (a.srcSwapToken d) custody (a.swapAuthority d)
      srcDust)
    cpi (closeAccount d.nativeMint a.srcTokenProgram (a.srcSwapToken d) a.payer (a.swapAuthority d))
    modifyBank fun b => b.setOutbound a.stagedOutbound
      (some { s with info := { s.info with recipient := zeroKey } })

/-- What follows the swap: the order takes what Jupiter paid, then the source is settled. -/
def sendSwapped (a : InitiateSwapExactIn) (s : StagedOutbound) (peer : Peer) (msg : SwapMessageV1)
    (usdcAmountOut srcDust : ℕ) : Instruction Unit :=
  match s.info.minAmountOut with
  | none => fail e
  | some minAmountOut => do
    check (minAmountOut ≤ usdcAmountOut) .insufficientAmountOut
    cpi (approve .token (a.dstSwapToken d) d.custodian (a.swapAuthority d) usdcAmountOut)
    let redeemerMessage ← lift (messageToVecOr e msg)
    prepareMarketOrder d x (marketOrder d a.stagedOutbound s peer usdcAmountOut redeemerMessage)
      (a.dstSwapToken d) d.custodian
    cpi (closeAccount d.nativeMint .token (a.dstSwapToken d) a.payer (a.swapAuthority d))
    settleDust d a s srcDust

/-- `initiate_swap_exact_in`. -/
def initiateSwapExactInOr (a : InitiateSwapExactIn) : Instruction Unit := do
  let (s, custodyToken, peer) ← checkInitiateSwap d a
  cpi (transfer d.nativeMint a.srcTokenProgram (d.stagedCustody a.stagedOutbound)
    (a.srcSwapToken d) (d.peer a.targetPeer) custodyToken.amount)
  let _ ← a.route.setUp
  a.route.verify (a.swapAuthority d) (a.srcSwapToken d) (a.dstSwapToken d) a.srcMint d.usdcMint
  let (msg, s') ← lift (s.toSwapMessageV1Or e)
  let (usdcAmountOut, srcDust) ← a.route.swapExactIn d x a.route.args none
  sendSwapped e d x a s' peer msg usdcAmountOut srcDust

def initiateSwapExactIn : InitiateSwapExactIn → Instruction Unit := initiateSwapExactInOr .panic d x

/-! ## `close_staged_outbound` -/

structure CloseStagedOutbound where
  sender : Pubkey
  targetPeer : ℕ
  stagedOutbound : Pubkey
  senderToken : Option Pubkey

/-- With a token account the tokens go there and the rent to who prepared the transfer; without
one the sender gets the lamports and passes the rent on. -/
def refundCustody (a : CloseStagedOutbound) (s : StagedOutbound)
    (custodyToken : TokenAccount Pubkey) : Instruction Unit :=
  let custody := d.stagedCustody a.stagedOutbound
  match a.senderToken with
  | some senderToken => do
    cpi (transfer d.nativeMint .token custody senderToken (d.peer a.targetPeer) custodyToken.amount)
    cpi (closeAccount d.nativeMint .token custody s.info.preparedBy (d.peer a.targetPeer))
  | none => do
    let b ← getBank
    cpi (closeAccount d.nativeMint .token custody a.sender (d.peer a.targetPeer))
    if a.sender ≠ s.info.preparedBy then
      systemTransfer a.sender s.info.preparedBy (b.lamports custody - custodyToken.amount)
    else pure ()

/-- `close_staged_outbound`, signed by `sender`. -/
def closeStagedOutbound (a : CloseStagedOutbound) : Instruction Unit := do
  let s ← stagedOutboundAccount a.stagedOutbound
  constraint (a.sender = s.info.sender) .constraintAddress
  let _ ← registeredPeer a.targetPeer
  let custodyToken ← tokenAccount (d.stagedCustody a.stagedOutbound)
  constraint (custodyToken.owner = d.peer a.targetPeer) .constraintTokenOwner
  refundCustody d a s custodyToken
  closeStaged a.stagedOutbound s.info.preparedBy

end Definitions

/-! ## What a success leaves -/

section Ok

variable {d : Deployment} {x : Externals} {b b' : Bank} {u : Unit} {k : Pubkey}

theorem prepareMarketOrder_ok {order : MarketOrder} {senderToken authority : Pubkey}
    (h : prepareMarketOrder d x order senderToken authority b = .ok (u, b')) :
    ∃ s, transferOut d.nativeMint .token senderToken authority order.amountIn b.accounts
        = .ok ((), s) ∧ b' = { b.withAccounts s with orders := b.orders ++ [order] } := by
  obtain ⟨_, _, haccept, h₁⟩ := bind_ok.1 h
  obtain ⟨-, rfl⟩ := constraint_ok.1 haccept
  obtain ⟨_, _, hout, h₂⟩ := bind_ok.1 h₁
  obtain ⟨s, hop, rfl⟩ := cpi_ok.1 hout
  exact ⟨s, hop, modifyBank_ok.1 h₂⟩

theorem closeStaged_ok {preparedBy : Pubkey} : closeStaged k preparedBy b = .ok (u, b') ↔
    b' = (b.withAccounts (b.accounts.moveLamports k preparedBy (b.lamports k))).setOutbound k
      none := by
  simp only [closeStaged, closeData, bind_ok, modifyBank_ok]
  exact ⟨fun ⟨_, _, h, h'⟩ => by rw [h', h], fun h => ⟨(), _, rfl, h⟩⟩

/-- An order with the message of the staged account `s`, to a registered peer. -/
structure OrderOf (d : Deployment) (k : Pubkey) (s : StagedOutbound) (peers : ℕ → Option Peer)
    (amountIn : ℕ) (o : MarketOrder) : Prop where
  written : ∃ chain peer msg s' bytes, peers chain = some peer ∧
    s.toSwapMessageV1 = .ok (msg, s') ∧ messageToVec msg = .ok bytes ∧
    o = marketOrder d k s peer amountIn bytes

/-- The staging is over. -/
structure Closed (d : Deployment) (k : Pubkey) (b : Bank) : Prop where
  outbound : b.outbound k = none
  custody : b.tokens (d.stagedCustody k) = none

/-- **A transfer** sends all of the USDC in custody and closes the staging. -/
theorem initiateTransfer_ok {a : InitiateTransfer} (h : initiateTransfer d x a b = .ok (u, b')) :
    ∃ s c o, b.outbound a.stagedOutbound = some s ∧
      b.tokens (d.stagedCustody a.stagedOutbound) = some c ∧ c.mint = d.usdcMint ∧
      OrderOf d a.stagedOutbound s b.peers c.amount o ∧ b'.orders = b.orders ++ [o] ∧
      Closed d a.stagedOutbound b' ∧ b'.peers = b.peers := by
  obtain ⟨s, _, hs, h₁⟩ := bind_ok.1 h
  obtain ⟨hs, rfl⟩ := loadAccount_ok.1 hs
  obtain ⟨c, _, hc, h₂⟩ := bind_ok.1 h₁
  obtain ⟨hc, -, rfl⟩ := tokenAccount_ok.1 hc
  obtain ⟨_, _, hmint', h₃⟩ := bind_ok.1 h₂
  obtain ⟨hmint, rfl⟩ := constraint_ok.1 hmint'
  obtain ⟨peer, _, hpeer, h₄⟩ := bind_ok.1 h₃
  obtain ⟨hpeer, rfl⟩ := loadAccount_ok.1 hpeer
  obtain ⟨_, _, hchain, h₅⟩ := bind_ok.1 h₄
  obtain ⟨-, rfl⟩ := check_ok.1 hchain
  obtain ⟨⟨msg, s'⟩, _, hmsg', h₆⟩ := bind_ok.1 h₅
  obtain ⟨hmsg, rfl⟩ := lift_ok.1 hmsg'
  obtain ⟨bytes, _, hbytes', h₇⟩ := bind_ok.1 h₆
  obtain ⟨hbytes, rfl⟩ := lift_ok.1 hbytes'
  obtain ⟨_, _, howner, h₈⟩ := bind_ok.1 h₇
  obtain ⟨s₁, -, rfl⟩ := cpi_ok.1 howner
  obtain ⟨_, _, horder, h₉⟩ := bind_ok.1 h₈
  obtain ⟨s₂, -, rfl⟩ := prepareMarketOrder_ok horder
  obtain ⟨_, _, hclose, h₁₀⟩ := bind_ok.1 h₉
  obtain ⟨s₃, hop, rfl⟩ := cpi_ok.1 hclose
  obtain ⟨-, _, -, -, -, -, rfl⟩ := closeAccount_ok.1 hop
  have hb' := closeStaged_ok.1 h₁₀
  subst hb'
  refine ⟨s, c, _, hs, hc, hmint, ⟨⟨_, peer, msg, s', bytes, hpeer, hmsg, hbytes, rfl⟩⟩, rfl,
    ⟨Function.update_self .., ?_⟩, rfl⟩
  show ((((_ : Accounts Pubkey).moveLamports _ _ _).moveLamports _ _ _).tokens _) = none
  rw [Accounts.moveLamports_tokens, Accounts.moveLamports_tokens]
  exact Function.update_self ..

/-- Where a close leaves the tokens: in the token account that it names, or as lamports with the
sender. -/
structure Refunded (d : Deployment) (a : CloseStagedOutbound) (c : TokenAccount Pubkey)
    (b b' : Bank) : Prop where
  tokens : ∀ k, a.senderToken = some k → k ≠ d.stagedCustody a.stagedOutbound →
    ∃ t, b.tokens k = some t ∧ b'.tokens k = some { t with amount := t.amount + c.amount }
  lamports : a.senderToken = none → (c.mint = d.nativeMint ∨ c.amount = 0) ∧
    b.lamports a.sender + c.amount ≤ b'.lamports a.sender

/-- The lamports of the sender after a refund without a token account. -/
theorem refund_lamports {s : Accounts Pubkey} {custody sender preparedBy : Pubkey} {n : ℕ}
    (hne : custody ≠ sender) (hn : n ≤ s.lamports custody) (hp : sender ≠ preparedBy) :
    s.lamports sender + n ≤
      (((s.setToken custody none).moveLamports custody sender (s.lamports custody)).moveLamports
        sender preparedBy (s.lamports custody - n)).lamports sender := by
  rw [Accounts.moveLamports_src _ hp, Accounts.moveLamports_dst _ hne, Accounts.setToken_lamports]
  omega

/-- A sender without a token account who did not pay for the staging himself passes its rent on, and
holds no data then. -/
theorem refundCustody_ok {a : CloseStagedOutbound} {s : StagedOutbound}
    {c : TokenAccount Pubkey} (hc : b.tokens (d.stagedCustody a.stagedOutbound) = some c)
    (h : refundCustody d a s c b = .ok (u, b')) :
    (Covered d b (d.stagedCustody a.stagedOutbound) c → Refunded d a c b b') ∧
      (a.senderToken = none → a.sender = s.info.preparedBy ∨ b.Plain a.sender) ∧
      b'.tokens (d.stagedCustody a.stagedOutbound) = none ∧ SameState b b' := by
  unfold refundCustody at h
  cases ht : a.senderToken with
  | some k =>
    rw [ht] at h
    obtain ⟨_, _, htransfer, hclose⟩ := bind_ok.1 h
    obtain ⟨s₁, hop₁, rfl⟩ := cpi_ok.1 htransfer
    obtain ⟨s₂, hop₂, rfl⟩ := cpi_ok.1 hclose
    obtain ⟨-, _, -, -, -, -, rfl⟩ := closeAccount_ok.1 hop₂
    refine ⟨fun _ => ⟨fun k' hk' hne => ?_, fun hn => absurd (ht.symm.trans hn) nofun⟩, nofun, ?_,
      rfl, rfl, rfl, rfl, rfl, rfl⟩
    · obtain rfl : k = k' := Option.some.inj (ht.symm.trans hk')
      obtain ⟨_, _, t, -, ht, -, -, -, -, -, rfl⟩ := (transfer_ok hne.symm).1 hop₁
      refine ⟨t, ht, ?_⟩
      rw [Bank.withAccounts_tokens, Accounts.moveLamports_tokens, Accounts.setToken_tokens,
        Function.update_of_ne hne]
      exact transferred_dst
    · rw [Bank.withAccounts_tokens, Accounts.moveLamports_tokens]
      exact Function.update_self ..
  | none =>
    have htoken : ∀ k, a.senderToken ≠ some k := fun k hk => nomatch ht.symm.trans hk
    have hheld (hz : c.mint = d.nativeMint ∨ c.amount = 0)
        (hcovered : Covered d b (d.stagedCustody a.stagedOutbound) c) :
        c.amount ≤ b.lamports (d.stagedCustody a.stagedOutbound) :=
      hz.elim hcovered fun hzero => hzero ▸ Nat.zero_le _
    rw [ht] at h
    obtain ⟨_, _, hget, h₁⟩ := bind_ok.1 h
    obtain ⟨rfl, rfl⟩ := getBank_ok.1 hget
    obtain ⟨_, b₁, hclose, h₂⟩ := bind_ok.1 h₁
    obtain ⟨s₁, hop, rfl⟩ := cpi_ok.1 hclose
    obtain ⟨hne, c', hc', -, hz, -, rfl⟩ := closeAccount_ok.1 hop
    obtain rfl : c' = c := Option.some.inj (hc'.symm.trans hc)
    split at h₂
    · rename_i hp
      obtain ⟨hplain, -, rfl⟩ := systemTransfer_ok.1 h₂
      refine ⟨fun hcovered => ⟨fun k hk => absurd hk (htoken k),
          fun _ => ⟨hz, refund_lamports hne (hheld hz hcovered) hp⟩⟩,
        fun _ => .inr ⟨?_, hplain.record⟩, ?_, rfl, rfl, rfl, rfl, rfl, rfl⟩
      · have htoken := hplain.token
        rw [Bank.withAccounts_tokens, Accounts.moveLamports_tokens, Accounts.setToken_tokens,
          Function.update_of_ne hne.symm] at htoken
        exact htoken
      · rw [Bank.withAccounts_tokens, Accounts.moveLamports_tokens, Bank.withAccounts_accounts,
          Accounts.moveLamports_tokens]
        exact Function.update_self ..
    · rename_i hp
      obtain ⟨-, rfl⟩ := pure_ok.1 h₂
      refine ⟨fun hcovered => ⟨fun k hk => absurd hk (htoken k), fun _ => ⟨hz, ?_⟩⟩,
        fun _ => .inl (not_not.1 hp), ?_, rfl, rfl,
        rfl, rfl, rfl, rfl⟩
      · rw [Bank.withAccounts_lamports, Accounts.moveLamports_dst _ hne]
        exact Nat.add_le_add_left (hheld hz hcovered) _
      · rw [Bank.withAccounts_tokens, Accounts.moveLamports_tokens]
        exact Function.update_self ..

/-- **A close** is signed by the recorded sender, refunds all of the custody and ends the
staging. The sender is not the staged account: that one has data. -/
theorem closeStagedOutbound_ok {a : CloseStagedOutbound}
    (h : closeStagedOutbound d a b = .ok (u, b')) :
    ∃ s c, b.outbound a.stagedOutbound = some s ∧
      b.tokens (d.stagedCustody a.stagedOutbound) = some c ∧ c.program = .token ∧
      a.sender = s.info.sender ∧
      (a.senderToken = none → a.sender = s.info.preparedBy ∨ b.Plain a.sender) ∧
      (s.info.preparedBy ≠ a.stagedOutbound →
        Covered d b (d.stagedCustody a.stagedOutbound) c → Refunded d a c b b') ∧
      Closed d a.stagedOutbound b' ∧
      b'.orders = b.orders ∧ b'.peers = b.peers := by
  obtain ⟨s, _, hstaged, h₁⟩ := bind_ok.1 h
  obtain ⟨hs, rfl⟩ := loadAccount_ok.1 hstaged
  obtain ⟨_, _, hsign, h₂⟩ := bind_ok.1 h₁
  obtain ⟨hsender, rfl⟩ := constraint_ok.1 hsign
  obtain ⟨_, _, hpeer, h₃⟩ := bind_ok.1 h₂
  obtain ⟨-, rfl⟩ := loadAccount_ok.1 hpeer
  obtain ⟨c, _, hcustody, h₄⟩ := bind_ok.1 h₃
  obtain ⟨hc, hp, rfl⟩ := tokenAccount_ok.1 hcustody
  obtain ⟨_, _, howner, h₅⟩ := bind_ok.1 h₄
  obtain ⟨-, rfl⟩ := constraint_ok.1 howner
  obtain ⟨_, b₁, hrefund, h₆⟩ := bind_ok.1 h₅
  obtain ⟨hrefunded, hpays, hnone, hsame⟩ := refundCustody_ok hc hrefund
  have hb' := closeStaged_ok.1 h₆
  subst hb'
  refine ⟨s, c, hs, hc, hp, hsender, hpays, fun hprepared hcovered => ⟨fun k hk hne => ?_, fun hn => ?_⟩,
    ⟨Function.update_self .., ?_⟩, hsame.orders, hsame.peers⟩
  · obtain ⟨t, ht, ht'⟩ := (hrefunded hcovered).tokens k hk hne
    refine ⟨t, ht, ?_⟩
    rw [← ht']
    exact congrFun (Accounts.moveLamports_tokens ..) k
  · obtain ⟨hz, hle⟩ := (hrefunded hcovered).lamports hn
    have hne : a.sender ≠ a.stagedOutbound := by
      intro he
      rcases hpays hn with hpayer | hplain
      · exact hprepared (hpayer.symm.trans he)
      · have hrecord := hplain.record
        rw [he, Bank.hasRecord, hs] at hrecord
        cases hrecord
    exact ⟨hz, Nat.le_trans hle (Kept.moveLamports hne).lamports⟩
  · rw [← hnone]
    exact congrFun (Accounts.moveLamports_tokens ..) _

/-! ### Swaps -/

/-- What the account constraints of a swap say about its accounts. -/
structure SwapChecked (d : Deployment) (a : InitiateSwapExactIn) (b : Bank) (s : StagedOutbound)
    (c : TokenAccount Pubkey) (peer : Peer) : Prop where
  staged : b.outbound a.stagedOutbound = some s
  recipient : s.info.recipient ≠ zeroKey
  custody : b.tokens (d.stagedCustody a.stagedOutbound) = some c
  mint : c.mint = a.srcMint
  owner : c.owner = d.peer a.targetPeer
  peer : b.peers a.targetPeer = some peer
  src : ∃ t, b.tokens (a.srcSwapToken d) = some t ∧ t.mint = a.srcMint ∧
    t.owner = a.swapAuthority d
  dst : ∃ t, b.tokens (a.dstSwapToken d) = some t ∧ t.mint = d.usdcMint ∧
    t.owner = a.swapAuthority d
  notUsdc : a.srcMint ≠ d.usdcMint

theorem checkInitiateSwap_ok {a : InitiateSwapExactIn} {s : StagedOutbound}
    {c : TokenAccount Pubkey} {peer : Peer}
    (h : checkInitiateSwap d a b = .ok ((s, c, peer), b')) :
    SwapChecked d a b s c peer ∧ b' = b := by
  obtain ⟨s, _, hstaged, h₁⟩ := bind_ok.1 h
  obtain ⟨hs, rfl⟩ := loadAccount_ok.1 hstaged
  obtain ⟨_, _, hexact, h₂⟩ := bind_ok.1 h₁
  obtain ⟨-, rfl⟩ := check_ok.1 hexact
  obtain ⟨_, _, hrecipient, h₃⟩ := bind_ok.1 h₂
  obtain ⟨hr, rfl⟩ := check_ok.1 hrecipient
  obtain ⟨c, _, hcustody, h₄⟩ := bind_ok.1 h₃
  obtain ⟨hc, rfl⟩ := interfaceTokenAccount_ok.1 hcustody
  obtain ⟨_, _, hmint, h₅⟩ := bind_ok.1 h₄
  obtain ⟨hm, rfl⟩ := constraint_ok.1 hmint
  obtain ⟨_, _, howner, h₆⟩ := bind_ok.1 h₅
  obtain ⟨ho, rfl⟩ := constraint_ok.1 howner
  obtain ⟨_, _, hprogram, h₇⟩ := bind_ok.1 h₆
  obtain ⟨-, rfl⟩ := constraint_ok.1 hprogram
  obtain ⟨peer, _, hpeer, h₈⟩ := bind_ok.1 h₇
  obtain ⟨hp, rfl⟩ := loadAccount_ok.1 hpeer
  obtain ⟨_, _, hsrc, h₉⟩ := bind_ok.1 h₈
  obtain ⟨⟨src, hsrc⟩, rfl⟩ := checkAssociated_ok.1 hsrc
  obtain ⟨_, _, hdst, h₁₀⟩ := bind_ok.1 h₉
  obtain ⟨⟨dst, hdst⟩, rfl⟩ := checkAssociated_ok.1 hdst
  obtain ⟨_, _, hsame, hret⟩ := bind_ok.1 h₁₀
  obtain ⟨hne, rfl⟩ := check_ok.1 hsame
  obtain ⟨hresult, rfl⟩ := pure_ok.1 hret
  cases hresult
  exact ⟨⟨hs, hr, hc, hm, ho, hp, ⟨src, hsrc.token, hsrc.mint, hsrc.owner⟩,
    ⟨dst, hdst.token, hdst.mint, hdst.owner⟩, hne⟩, rfl⟩

/-- The custody account is none of the swap authority's accounts. -/
theorem SwapChecked.custody_ne {a : InitiateSwapExactIn} {s : StagedOutbound}
    {c : TokenAccount Pubkey} {peer : Peer} (hk : SwapChecked d a b s c peer) {k : Pubkey}
    (ht : ∃ t, b.tokens k = some t ∧ t.owner = a.swapAuthority d) :
    d.stagedCustody a.stagedOutbound ≠ k := by
  intro he
  obtain ⟨t, ht, ho⟩ := ht
  obtain rfl : c = t := Option.some.inj (hk.custody.symm.trans (he ▸ ht))
  exact d.peer_ne_swapAuthority _ _ (hk.owner.symm.trans ho)

/-- The source that a swap leaves: nothing, and the staging is over, or dust in custody, and the
staged account is spent. -/
def Leftover (d : Deployment) (k : Pubkey) (s : StagedOutbound) (c : TokenAccount Pubkey)
    (dust : ℕ) (b' : Bank) : Prop :=
  if dust = 0 then Closed d k b'
  else b'.outbound k = some s.spent ∧
    b'.tokens (d.stagedCustody k) = some { c with amount := dust } ∧
    Covered d b' (d.stagedCustody k) { c with amount := dust }

theorem settleDust_ok {a : InitiateSwapExactIn} {s : StagedOutbound} {c : TokenAccount Pubkey}
    {dust : ℕ} (hne : d.stagedCustody a.stagedOutbound ≠ a.srcSwapToken d)
    (hc : b.tokens (d.stagedCustody a.stagedOutbound) = some { c with amount := 0 })
    (h : settleDust d a { s with stagedRedeem := .direct } dust b = .ok (u, b')) :
    Leftover d a.stagedOutbound s c dust b' ∧ b'.orders = b.orders ∧ b'.peers = b.peers := by
  unfold settleDust at h
  unfold Leftover
  by_cases hdust : dust = 0
  · rw [if_pos hdust] at h ⊢
    obtain ⟨_, _, hclose, h₁⟩ := bind_ok.1 h
    obtain ⟨s₁, -, rfl⟩ := cpi_ok.1 hclose
    obtain ⟨_, _, hclose', h₂⟩ := bind_ok.1 h₁
    obtain ⟨s₂, hop, rfl⟩ := cpi_ok.1 hclose'
    obtain ⟨-, _, -, -, -, -, rfl⟩ := closeAccount_ok.1 hop
    have hb' := closeStaged_ok.1 h₂
    subst hb'
    refine ⟨⟨Function.update_self .., ?_⟩, rfl, rfl⟩
    show ((((_ : Accounts Pubkey).moveLamports _ _ _).moveLamports _ _ _).tokens _) = none
    rw [Accounts.moveLamports_tokens, Accounts.moveLamports_tokens]
    exact Function.update_self ..
  · rw [if_neg hdust] at h ⊢
    obtain ⟨_, _, htransfer, h₁⟩ := bind_ok.1 h
    obtain ⟨s₁, hop, rfl⟩ := cpi_ok.1 htransfer
    obtain ⟨t, t', c', -, hc', -, -, hm, -, hauth, rfl⟩ := (transfer_ok hne.symm).1 hop
    obtain rfl : c' = { c with amount := 0 } := Option.some.inj (hc'.symm.trans hc)
    obtain ⟨_, _, hclose, h₂⟩ := bind_ok.1 h₁
    obtain ⟨s₂, hop₂, rfl⟩ := cpi_ok.1 hclose
    have hkept := Kept.closeAccount hne hop₂
    have hb' := modifyBank_ok.1 h₂
    subst hb'
    refine ⟨⟨Function.update_self .., ?_, fun hnative => ?_⟩, rfl, rfl⟩
    · show s₂.tokens _ = _
      rw [hkept.tokens, Bank.withAccounts_accounts, transferred_dst, Nat.zero_add]
    · have hsrc : t'.mint = d.nativeMint := by
        rw [(authorize_ok hauth).2.2.1, hm]
        exact hnative
      refine Nat.le_trans ?_ hkept.lamports
      rw [Bank.withAccounts_accounts, transferred_lamports_dst hne.symm hsrc]
      exact Nat.le_add_left dust _

theorem sendSwapped_ok {a : InitiateSwapExactIn} {s : StagedOutbound} {c : TokenAccount Pubkey}
    {peer : Peer} {msg : SwapMessageV1} {out dust : ℕ}
    (hsrc : d.stagedCustody a.stagedOutbound ≠ a.srcSwapToken d)
    (hdst : d.stagedCustody a.stagedOutbound ≠ a.dstSwapToken d)
    (hc : b.tokens (d.stagedCustody a.stagedOutbound) = some { c with amount := 0 })
    (h : sendSwapped .panic d x a { s with stagedRedeem := .direct } peer msg out dust b = .ok (u, b')) :
    ∃ minAmountOut bytes, s.info.minAmountOut = some minAmountOut ∧ minAmountOut ≤ out ∧
      messageToVec msg = .ok bytes ∧
      b'.orders = b.orders ++ [marketOrder d a.stagedOutbound s peer out bytes] ∧
      Leftover d a.stagedOutbound s c dust b' ∧ b'.peers = b.peers := by
  unfold sendSwapped at h
  cases hmin : s.info.minAmountOut with
  | none =>
    simp only [hmin] at h
    exact (fail_ok.1 h).elim
  | some minAmountOut =>
    simp only [hmin] at h
    obtain ⟨_, _, henough, h₁⟩ := bind_ok.1 h
    obtain ⟨hle, rfl⟩ := check_ok.1 henough
    obtain ⟨_, _, happrove, h₂⟩ := bind_ok.1 h₁
    obtain ⟨s₁, hop₁, rfl⟩ := cpi_ok.1 happrove
    obtain ⟨bytes, _, hbytes, h₃⟩ := bind_ok.1 h₂
    obtain ⟨hwritten, rfl⟩ := lift_ok.1 hbytes
    obtain ⟨_, _, horder, h₄⟩ := bind_ok.1 h₃
    obtain ⟨s₂, hop₂, rfl⟩ := prepareMarketOrder_ok horder
    obtain ⟨_, _, hclose, h₅⟩ := bind_ok.1 h₄
    obtain ⟨s₃, hop₃, rfl⟩ := cpi_ok.1 hclose
    -- none of this touches the custody account
    have hkept := ((Kept.approve hdst hop₁).trans (Kept.transferOut hdst hop₂)).trans
      (Kept.closeAccount hdst hop₃)
    obtain ⟨hleft, horders, hpeers⟩ :=
      settleDust_ok (c := c) hsrc (by exact hkept.tokens.trans hc) h₅
    exact ⟨minAmountOut, bytes, rfl, hle, hwritten, horders, hleft, hpeers⟩

/-- The stages of a swap: the custody is emptied into the account of the swap authority, Jupiter is
asked, and what it pays is sent. -/
theorem initiateSwapExactIn_stages {a : InitiateSwapExactIn}
    (h : initiateSwapExactIn d x a b = .ok (u, b')) :
    ∃ s s' c peer msg out dust b₁ b₂, SwapChecked d a b s c peer ∧
      cpi (transfer d.nativeMint a.srcTokenProgram (d.stagedCustody a.stagedOutbound)
        (a.srcSwapToken d) (d.peer a.targetPeer) c.amount) b = .ok ((), b₁) ∧
      a.route.srcCustodyToken = a.srcSwapToken d ∧ a.route.dstCustodyToken = a.dstSwapToken d ∧
      s.toSwapMessageV1 = .ok (msg, s') ∧
      a.route.swapExactIn d x a.route.args none b₁ = .ok ((out, dust), b₂) ∧
      sendSwapped .panic d x a s' peer msg out dust b₂ = .ok (u, b') := by
  obtain ⟨⟨s, c, peer⟩, _, hcheck, h₁⟩ := bind_ok.1 h
  obtain ⟨hk, rfl⟩ := checkInitiateSwap_ok hcheck
  obtain ⟨_, b₁, htransfer, h₂⟩ := bind_ok.1 h₁
  obtain ⟨_, _, hsetup, h₃⟩ := bind_ok.1 h₂
  cases setUp_ok hsetup
  obtain ⟨_, _, hverify, h₄⟩ := bind_ok.1 h₃
  obtain ⟨-, hsrc, hdst, -, -, rfl⟩ := verify_ok.1 hverify
  obtain ⟨⟨msg, s'⟩, _, hmsg, h₅⟩ := bind_ok.1 h₄
  obtain ⟨hmsg', rfl⟩ := lift_ok.1 hmsg
  obtain ⟨⟨out, dust⟩, b₂, hswap, h₆⟩ := bind_ok.1 h₅
  exact ⟨s, s', c, peer, msg, out, dust, _, b₂, hk, htransfer, hsrc, hdst, hmsg', hswap, h₆⟩

theorem initiateSwapExactIn_checked {a : InitiateSwapExactIn}
    (h : initiateSwapExactIn d x a b = .ok (u, b')) : ∃ s c peer, SwapChecked d a b s c peer := by
  obtain ⟨s, -, c, peer, -, -, -, -, -, hk, -⟩ := initiateSwapExactIn_stages h
  exact ⟨s, c, peer, hk⟩

/-- **A swap** sends what Jupiter pays, at least the staged minimum; what Jupiter leaves of the
source stays in custody. -/
theorem initiateSwapExactIn_ok {a : InitiateSwapExactIn} {c : TokenAccount Pubkey}
    (hc : b.tokens (d.stagedCustody a.stagedOutbound) = some c) (hd : c.delegate = none)
    (h : initiateSwapExactIn d x a b = .ok (u, b')) :
    ∃ s o call reply minAmountOut, b.outbound a.stagedOutbound = some s ∧
      s.info.recipient ≠ zeroKey ∧ c.mint ≠ d.usdcMint ∧ x.jupiter call = some reply ∧
      s.info.minAmountOut = some minAmountOut ∧ minAmountOut ≤ reply.dstAmount ∧
      OrderOf d a.stagedOutbound s b.peers reply.dstAmount o ∧ b'.orders = b.orders ++ [o] ∧
      Leftover d a.stagedOutbound s c reply.srcAmount b' ∧ b'.peers = b.peers := by
  obtain ⟨s, s', c', peer, msg, out, dust, b₁, b₂, hk, htransfer, hrsrc, hrdst, hmsg, hswap, hsend⟩ :=
    initiateSwapExactIn_stages h
  obtain rfl : c' = c := Option.some.inj (hk.custody.symm.trans hc)
  obtain ⟨tsrc, htsrc, -, hosrc⟩ := hk.src
  obtain ⟨tdst, htdst, -, hodst⟩ := hk.dst
  have hnsrc := hk.custody_ne ⟨tsrc, htsrc, hosrc⟩
  have hndst := hk.custody_ne ⟨tdst, htdst, hodst⟩
  -- the custody is emptied into the swap authority's account
  obtain ⟨s₁, hop₁, rfl⟩ := cpi_ok.1 htransfer
  obtain ⟨c₁, c₂, t₁, hc₁, -, -, -, -, -, hauth, rfl⟩ := (transfer_ok hnsrc).1 hop₁
  obtain rfl : c₁ = c' := Option.some.inj (hc₁.symm.trans hc)
  have hundelegated : c₁.delegate ≠ some (d.peer a.targetPeer) := by rw [hd]; exact nofun
  cases hauth.symm.trans (authorize_owner hundelegated hk.owner _)
  obtain ⟨mode, token, -, -, -, rfl⟩ := StagedOutbound.toSwapMessageV1_ok.1 hmsg
  obtain ⟨src, dst, reply, -, -, hj, rfl, rfl, -, rfl⟩ := swapExactIn_ok hswap
  have hcustody : (transferred d.nativeMint (d.stagedCustody a.stagedOutbound) (a.srcSwapToken d)
      c₁ t₁ c₁.amount b.accounts).tokens (d.stagedCustody a.stagedOutbound) =
      some { c₁ with amount := 0 } := by
    rw [transferred_src hnsrc, Nat.sub_self]
  have huntouched := swapped_other (d := d) (s := src) (t := dst) (r := reply)
    (hrsrc ▸ hnsrc) (hrdst ▸ hndst) |>.trans hcustody
  obtain ⟨minAmountOut, bytes, hmin, hle, hwritten, horders, hleft, hpeers⟩ :=
    sendSwapped_ok (c := c₁) hnsrc hndst (by exact huntouched) hsend
  exact ⟨s, _, _, reply, minAmountOut, hk.staged, hk.recipient,
    fun hm => hk.notUsdc (hk.mint.symm.trans hm), hj, hmin, hle,
    ⟨_, peer, msg, _, bytes, hk.peer, hmsg, hwritten, rfl⟩, horders, hleft, hpeers⟩

end Ok

end SwapLayer.Solana
