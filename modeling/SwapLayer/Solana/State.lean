import SwapLayer.Lib.SplToken
import SwapLayer.Messages.SwapMessage

/-!
# The Solana swap layer's surroundings: accounts, addresses and other programs

The accounts that the instructions of `solana/programs/swap-layer` work on, and everything outside
of the program that they call.

* `Bank` is the ledger of token accounts and lamports (`Lib/SplToken`), the program's own accounts
  by their addresses (`state/`), the fills that the token router has prepared for the program, and
  the market orders prepared with it.
* `Deployment` holds the addresses: the mints, and the accounts derived from seeds. The derived
  addresses are given functions; that two of them differ is a hypothesis where it matters.
* `Externals` answers for the token router, the Jupiter program and the clock. It is arbitrary.

An instruction is a program over `Bank` that may fail, and then has no effect. Accounts that the
runtime pins (programs, sysvars) and bump seeds are not represented; an account that an
instruction lists under a type is looked up under its address and must have that type. A call
that the program signs for names the signing address as the authority. Token transfers move the
stated amount. What other programs charge for the accounts they create is not represented.
-/

namespace SwapLayer.Solana

open ByteString Program SplToken

abbrev Pubkey := Fixed 32

abbrev Bytes := List UInt8

/-- `[0; 32]`. -/
def zeroKey : Pubkey := List.Vector.replicate 32 0

/-- `u64::MAX + 1`. -/
def U64 : ℕ := 2 ^ 64

def SOLANA_CHAIN : ℕ := 1

/-- Parts per hundred: 10,000.00 bps. -/
def MAX_BPS : ℕ := 1000000

/-! ## Errors -/

inductive SwapLayerError
  | u64Overflow
  | invalidTargetChain
  | relayerFeeOverflow
  | assistantZeroPubkey
  | feeRecipientZeroPubkey
  | feeUpdaterZeroPubkey
  | invalidRedeemMode
  | invalidOutputToken
  | invalidRelayerFee
  | invalidSwapMessage
  | invalidRecipient
  | invalidFeeUpdater
  | chainNotAllowed
  | invalidPeer
  | invalidGasDropoff
  | relayingDisabled
  | invalidExecutionParams
  | gasDropoffCalculationFailed
  | exceedsMaxRelayingFee
  | payloadTooLarge
  | unsupportedFillType
  | swapTimeLimitNotExceeded
  | immutableProgram
  | invalidRedeemer
  | invalidBaseFee
  | invalidGasPrice
  | invalidNativeTokenPrice
  | invalidMargin
  | evmGasCalculationFailed
  | eitherSenderOrProgramTransferAuthority
  | senderTokenRequired
  | senderRequired
  | zeroAmountIn
  | delegatedAmountMismatch
  | notProgramTransferAuthority
  | exactInRequired
  | insufficientAmountIn
  | swapPastDeadline
  | invalidLimitAmount
  | invalidSwapType
  | insufficientAmountOut
  | minAmountOutRequired
  | invalidJupiterV6AuthorityId
  | sameMint
  | invalidSwapAuthority
  | invalidSourceSwapToken
  | invalidDestinationSwapToken
  | invalidSourceMint
  | invalidDestinationMint
  | notJupiterV6DirectRoute
  | jupiterV6DexProgramMismatch
  | swapFailed
  | invalidSwapInAmount
  | noTransferOwnershipRequest
  | notPendingOwner
  | invalidNewOwner
  | alreadyOwner
  | ownerOnly
  | ownerOrAssistantOnly
  deriving DecidableEq

/-- Why an instruction fails: an error of the program, a constraint of the account list, an error
of a called program, or a panic. -/
inductive Error
  | swapLayer (e : SwapLayerError)
  | accountNotInitialized
  | accountAlreadyInUse
  | tryingToInitPayerAsProgramAccount
  | accountOwnedByWrongProgram
  | constraintOwner
  | constraintAddress
  | constraintSeeds
  | constraintAssociated
  | constraintClose
  | constraintTokenMint
  | constraintTokenOwner
  | constraintTokenTokenProgram
  | constraintMintTokenProgram
  | token (e : TokenError)
  | tokenRouter
  | jupiter
  | panic
  deriving DecidableEq

/-! ## Accounts of the program -/

inductive ExecutionParams
  | none
  | evm (gasPrice gasPriceMargin : ℕ)
  deriving DecidableEq

structure SwapTimeLimit where
  fastLimit : ℕ
  finalizedLimit : ℕ
  deriving DecidableEq

structure RelayParams where
  baseFee : ℕ
  nativeTokenPrice : ℕ
  maxGasDropoff : ℕ
  gasDropoffMargin : ℕ
  executionParams : ExecutionParams
  swapTimeLimit : SwapTimeLimit
  deriving DecidableEq

/-- A registered peer; its chain is the key under which it is kept. -/
structure Peer where
  address : Fixed 32
  relayParams : RelayParams
  deriving DecidableEq

structure Custodian where
  owner : Pubkey
  ownerAssistant : Pubkey
  feeRecipientToken : Pubkey
  deriving DecidableEq

inductive RedeemOption
  | relay (gasDropoff : Uint 4) (maxRelayerFee : ℕ)
  | payload (buf : Bytes)
  deriving DecidableEq

inductive StagedRedeem
  | direct
  | relay (gasDropoff : Uint 4) (relayingFee : ℕ)
  | payload (buf : Bytes)
  deriving DecidableEq

structure StagedOutboundInfo where
  preparedBy : Pubkey
  sender : Pubkey
  targetChain : ℕ
  recipient : Fixed 32
  isExactIn : Bool
  usdcRefundToken : Pubkey
  minAmountOut : Option ℕ
  deriving DecidableEq

structure StagedOutbound where
  info : StagedOutboundInfo
  stagedRedeem : StagedRedeem
  encodedOutputToken : Bytes
  deriving DecidableEq

structure StagedInbound where
  preparedFill : Pubkey
  custodyToken : Pubkey
  stagedBy : Pubkey
  sourceChain : ℕ
  sender : Fixed 32
  recipient : Pubkey
  isNative : Bool
  recipientPayload : Bytes
  deriving DecidableEq

/-- Arguments of `stage_outbound`. -/
structure StageOutboundArgs where
  amountIn : ℕ
  minAmountOut : Option ℕ
  isExactIn : Bool
  targetChain : ℕ
  recipient : Fixed 32
  redeemOption : Option RedeemOption
  encodedOutputToken : Option Bytes
  deriving DecidableEq

/-! ## Other programs -/

/-- `PrepareMarketOrderArgs` and the accounts that identify the order. -/
structure MarketOrder where
  preparedOrder : Pubkey
  refundToken : Pubkey
  amountIn : ℕ
  targetChain : ℕ
  redeemer : Fixed 32
  redeemerMessage : Bytes
  deriving DecidableEq

inductive FillType
  | unset
  | wormholeCctpDeposit
  | fastFill
  deriving DecidableEq

/-- A fill that the token router has prepared: the USDC in its custody and what it says. -/
structure PreparedFill where
  fillType : FillType
  sourceChain : ℕ
  orderSender : Fixed 32
  redeemerMessage : Bytes
  timestamp : ℤ
  amount : ℕ
  deriving DecidableEq

/-- `SharedAccountsRouteArgs`. -/
structure SharedAccountsRouteArgs where
  authorityId : ℕ
  routePlan : List Bytes
  inAmount : ℕ
  quotedOutAmount : ℕ
  slippageBps : ℕ
  platformFeeBps : ℕ
  deriving DecidableEq

/-- A swap that Jupiter is asked for: the arguments, the remaining accounts by address, and what
the two token accounts hold. -/
structure JupiterCall where
  args : SharedAccountsRouteArgs
  accounts : List Pubkey
  srcAmount : ℕ
  dstAmount : ℕ

/-- What the two token accounts hold after a swap. -/
structure JupiterReply where
  srcAmount : ℕ
  dstAmount : ℕ

structure Deployment where
  usdcMint : Pubkey
  nativeMint : Pubkey
  usdc_ne_native : usdcMint ≠ nativeMint
  /-- Seeds `["custodian"]`. -/
  custodian : Pubkey
  /-- Seeds `["peer", chain]`. -/
  peer : ℕ → Pubkey
  /-- Seeds `["staged-custody", staged]`. -/
  stagedCustody : Pubkey → Pubkey
  /-- Seeds `["prepared-order", staged_outbound]`. -/
  preparedOrder : Pubkey → Pubkey
  /-- Seeds `["swap-authority", prepared_order or prepared_fill]`. -/
  swapAuthority : Pubkey → Pubkey
  /-- Seeds `["transfer-authority", hash of the arguments]`. -/
  transferAuthority : StageOutboundArgs → Pubkey
  /-- Seeds `["complete", prepared_fill]`. -/
  completeToken : Pubkey → Pubkey
  /-- Seeds `["staged-inbound", prepared_fill]`. -/
  stagedInbound : Pubkey → Pubkey
  /-- The associated token account of an owner and a mint. -/
  associatedToken : Pubkey → Pubkey → TokenProgram → Pubkey
  peer_ne_swapAuthority : ∀ chain k, peer chain ≠ swapAuthority k

structure Externals where
  /-- The program that owns a mint. -/
  mintProgram : Pubkey → Option TokenProgram
  /-- Lamports that exempt an account of this size from rent. -/
  rent : ℕ → ℕ
  unixTimestamp : ℤ
  /-- Whether the token router prepares a market order. -/
  acceptsOrder : MarketOrder → Bool
  /-- Whether the token router lets a fill be consumed. -/
  acceptsFill : Pubkey → Bool
  jupiter : JupiterCall → Option JupiterReply

/-- The size of a token account. -/
def TOKEN_ACCOUNT_SIZE : ℕ := 165

def Externals.tokenRent (x : Externals) : ℕ := x.rent TOKEN_ACCOUNT_SIZE

/-! ## State -/

structure Bank where
  accounts : Accounts Pubkey
  custodian : Custodian
  /-- Peers by chain. -/
  peers : ℕ → Option Peer
  outbound : Pubkey → Option StagedOutbound
  inbound : Pubkey → Option StagedInbound
  fills : Pubkey → Option PreparedFill
  orders : List MarketOrder

namespace Bank

def tokens (b : Bank) : Pubkey → Option (TokenAccount Pubkey) := b.accounts.tokens

def lamports (b : Bank) : Pubkey → ℕ := b.accounts.lamports

def withAccounts (b : Bank) (s : Accounts Pubkey) : Bank := { b with accounts := s }

def setOutbound (b : Bank) (k : Pubkey) (s : Option StagedOutbound) : Bank :=
  { b with outbound := Function.update b.outbound k s }

def setInbound (b : Bank) (k : Pubkey) (s : Option StagedInbound) : Bank :=
  { b with inbound := Function.update b.inbound k s }

/-- Whether the account holds data of this program or of the token router. -/
def hasRecord (b : Bank) (k : Pubkey) : Bool :=
  (b.outbound k).isSome || (b.inbound k).isSome || (b.fills k).isSome

/-- Nothing but lamports is in the account. -/
structure Plain (b : Bank) (k : Pubkey) : Prop where
  token : b.tokens k = none
  record : b.hasRecord k = false

def setPeer (b : Bank) (chain : ℕ) (p : Peer) : Bank :=
  { b with peers := Function.update b.peers chain (some p) }

@[simp] theorem withAccounts_accounts (b : Bank) (s : Accounts Pubkey) :
    (b.withAccounts s).accounts = s := rfl

@[simp] theorem withAccounts_tokens (b : Bank) (s : Accounts Pubkey) :
    (b.withAccounts s).tokens = s.tokens := rfl

@[simp] theorem withAccounts_lamports (b : Bank) (s : Accounts Pubkey) :
    (b.withAccounts s).lamports = s.lamports := rfl

/-- Moving lamports leaves the data alone. -/
theorem Plain.withAccounts {b : Bank} {k : Pubkey} {s : Accounts Pubkey} (h : b.Plain k)
    (hs : s.tokens = b.tokens) : (b.withAccounts s).Plain k :=
  ⟨(congrFun hs k).trans h.token, h.record⟩

end Bank

/-- A part of an instruction. -/
abbrev Instruction (α : Type) := StateT Bank (Except Error) α

def getBank : Instruction Bank := fun b => .ok (b, b)

def modifyBank (f : Bank → Bank) : Instruction Unit := fun b => .ok ((), f b)

/-- `require!` with an error of the program. -/
def check (p : Prop) [Decidable p] (e : SwapLayerError) : Instruction Unit :=
  require p (.swapLayer e)

/-- A constraint of an account list. -/
def constraint (p : Prop) [Decidable p] (e : Error) : Instruction Unit := require p e

/-- Call a token program or the system program. -/
def cpi {α : Type} (op : Op Pubkey α) : Instruction α := fun b =>
  match op b.accounts with
  | .ok (a, s) => .ok (a, b.withAccounts s)
  | .error e => .error (.token e)

/-- An account that must exist. -/
def loadAccount {α : Type} (f : Bank → Option α) : Instruction α := fun b =>
  match f b with
  | some a => .ok (a, b)
  | none => .error .accountNotInitialized

/-- `InterfaceAccount<TokenAccount>`. -/
def interfaceTokenAccount (k : Pubkey) : Instruction (TokenAccount Pubkey) :=
  loadAccount fun b => b.tokens k

/-- `Account<token::TokenAccount>`: an account of the original token program. -/
def tokenAccount (k : Pubkey) : Instruction (TokenAccount Pubkey) := do
  let a ← interfaceTokenAccount k
  constraint (a.program = .token) .accountOwnedByWrongProgram
  return a

/-- An associated token account that must already exist. -/
def checkAssociated (k mint owner : Pubkey) (program : TokenProgram) : Instruction Unit := do
  let t ← interfaceTokenAccount k
  constraint (t.program = program) .constraintTokenTokenProgram
  constraint (t.mint = mint) .constraintTokenMint
  constraint (t.owner = owner) .constraintTokenOwner

/-- `system_program::transfer`: what holds data cannot pay. -/
def systemTransfer (src dst : Pubkey) (n : ℕ) : Instruction Unit := do
  let b ← getBank
  constraint (b.hasRecord src = false) (.token .invalidArgument)
  cpi (SplToken.systemTransfer src dst n)

/-- What a new account lacks of its rent is paid first. -/
def payRent (payer account : Pubkey) (rent : ℕ) : Instruction Unit := do
  let b ← getBank
  if b.lamports account < rent then systemTransfer payer account (rent - b.lamports account)
  else pure ()

/-- `init` of a token account. -/
def createToken (native : Pubkey) (program : TokenProgram) (rent : ℕ)
    (account mint owner payer : Pubkey) : Instruction Unit := do
  payRent payer account rent
  cpi (initToken native program rent account mint owner)

/-- `RegisteredPeer`. -/
def registeredPeer (chain : ℕ) : Instruction Peer := loadAccount fun b => b.peers chain

/-- `Account<StagedOutbound>`. -/
def stagedOutboundAccount (k : Pubkey) : Instruction StagedOutbound :=
  loadAccount fun b => b.outbound k

/-- Hand a closed account's lamports over. -/
def closeData (k destination : Pubkey) : Instruction Unit :=
  modifyBank fun b => b.withAccounts
    (b.accounts.moveLamports k destination (b.lamports k))

section Ok

variable {α : Type} {b b' : Bank} {u : Unit}

theorem getBank_ok {c : Bank} : getBank b = .ok (c, b') ↔ c = b ∧ b' = b :=
  ⟨fun h => by cases h; exact ⟨rfl, rfl⟩, fun ⟨h, h'⟩ => by rw [h, h']; rfl⟩

theorem modifyBank_ok {f : Bank → Bank} : modifyBank f b = .ok (u, b') ↔ b' = f b :=
  ⟨fun h => by cases h; rfl, fun h => by rw [h]; rfl⟩

theorem constraint_ok {p : Prop} [Decidable p] {e : Error} :
    constraint p e b = .ok (u, b') ↔ p ∧ b' = b := require_ok

theorem check_ok {p : Prop} [Decidable p] {e : SwapLayerError} :
    check p e b = .ok (u, b') ↔ p ∧ b' = b := require_ok

theorem cpi_ok {op : Op Pubkey α} {a : α} :
    cpi op b = .ok (a, b') ↔ ∃ s, op b.accounts = .ok (a, s) ∧ b' = b.withAccounts s := by
  unfold cpi
  cases op b.accounts with
  | error e => exact ⟨fun h => (by cases h), fun ⟨_, h, _⟩ => (by cases h)⟩
  | ok r =>
    constructor
    · intro h
      cases h
      exact ⟨r.2, rfl, rfl⟩
    · rintro ⟨s, h, rfl⟩
      cases h
      rfl

theorem loadAccount_ok {f : Bank → Option α} {a : α} :
    loadAccount f b = .ok (a, b') ↔ f b = some a ∧ b' = b := by
  unfold loadAccount
  cases f b with
  | none => exact ⟨fun h => (by cases h), fun ⟨h, _⟩ => (by cases h)⟩
  | some c =>
    constructor
    · intro h
      cases h
      exact ⟨rfl, rfl⟩
    · rintro ⟨h, rfl⟩
      cases h
      rfl

theorem interfaceTokenAccount_ok {k : Pubkey} {a : TokenAccount Pubkey} :
    interfaceTokenAccount k b = .ok (a, b') ↔ b.tokens k = some a ∧ b' = b := loadAccount_ok

theorem tokenAccount_ok {k : Pubkey} {a : TokenAccount Pubkey} :
    tokenAccount k b = .ok (a, b') ↔ b.tokens k = some a ∧ a.program = .token ∧ b' = b := by
  simp only [tokenAccount, bind_ok, interfaceTokenAccount_ok, constraint_ok, pure_ok]
  constructor
  · rintro ⟨c, _, ⟨hc, rfl⟩, _, _, ⟨hp, rfl⟩, rfl, rfl⟩
    exact ⟨hc, hp, rfl⟩
  · rintro ⟨hc, hp, rfl⟩
    exact ⟨a, _, ⟨hc, rfl⟩, (), _, ⟨hp, rfl⟩, rfl, rfl⟩

/-- The token account under `k`. -/
structure TokenOf (b : Bank) (k mint owner : Pubkey) (program : TokenProgram)
    (t : TokenAccount Pubkey) : Prop where
  token : b.tokens k = some t
  program : t.program = program
  mint : t.mint = mint
  owner : t.owner = owner

theorem checkAssociated_ok {k mint owner : Pubkey} {program : TokenProgram} :
    checkAssociated k mint owner program b = .ok (u, b') ↔
      (∃ t, TokenOf b k mint owner program t) ∧ b' = b := by
  simp only [checkAssociated, bind_ok, interfaceTokenAccount_ok, constraint_ok]
  constructor
  · rintro ⟨t, _, ⟨ht, rfl⟩, _, _, ⟨hp, rfl⟩, _, _, ⟨hm, rfl⟩, ho, rfl⟩
    exact ⟨⟨t, ht, hp, hm, ho⟩, rfl⟩
  · rintro ⟨⟨t, ht, hp, hm, ho⟩, rfl⟩
    exact ⟨t, _, ⟨ht, rfl⟩, (), _, ⟨hp, rfl⟩, (), _, ⟨hm, rfl⟩, ho, rfl⟩

theorem systemTransfer_ok {src dst : Pubkey} {n : ℕ} :
    systemTransfer src dst n b = .ok (u, b') ↔
      b.Plain src ∧ n ≤ b.lamports src ∧ b' = b.withAccounts (b.accounts.moveLamports src dst n) := by
  simp only [systemTransfer, bind_ok, getBank_ok, constraint_ok, cpi_ok, SplToken.systemTransfer_ok]
  constructor
  · rintro ⟨_, _, ⟨rfl, rfl⟩, _, _, ⟨hrecord, rfl⟩, _, ⟨htoken, hle, rfl⟩, rfl⟩
    exact ⟨⟨htoken, hrecord⟩, hle, rfl⟩
  · rintro ⟨hplain, hle, rfl⟩
    exact ⟨b, b, ⟨rfl, rfl⟩, (), b, ⟨hplain.record, rfl⟩, _, ⟨hplain.token, hle, rfl⟩, rfl⟩

/-- The payer can pay `n` lamports; who pays nothing is not looked at. -/
structure Affords (payer : Pubkey) (n : ℕ) (b : Bank) : Prop where
  plain : 0 < n → b.Plain payer
  enough : n ≤ b.lamports payer

theorem payRent_ok {payer account : Pubkey} {rent : ℕ} :
    payRent payer account rent b = .ok (u, b') ↔ Affords payer (rent - b.lamports account) b ∧
      b' = b.withAccounts (b.accounts.moveLamports payer account (rent - b.lamports account)) := by
  rw [payRent, bind_ok]
  constructor
  · rintro ⟨c, c', hget, h⟩
    obtain ⟨rfl, rfl⟩ := getBank_ok.1 hget
    split at h
    · obtain ⟨hplain, hle, rfl⟩ := systemTransfer_ok.1 h
      exact ⟨⟨fun _ => hplain, hle⟩, rfl⟩
    · rename_i hrent
      have hzero : rent - c'.lamports account = 0 := Nat.sub_eq_zero_of_le (Nat.le_of_not_lt hrent)
      rw [hzero, Accounts.moveLamports_zero]
      exact ⟨⟨fun hlt => absurd hlt (Nat.lt_irrefl 0), Nat.zero_le _⟩, (pure_ok.1 h).2⟩
  · rintro ⟨hpays, rfl⟩
    refine ⟨b, b, getBank_ok.2 ⟨rfl, rfl⟩, ?_⟩
    split
    · rename_i hlt
      exact systemTransfer_ok.2 ⟨hpays.plain (Nat.sub_pos_of_lt hlt), hpays.enough, rfl⟩
    · rename_i hrent
      rw [Nat.sub_eq_zero_of_le (Nat.le_of_not_lt hrent), Accounts.moveLamports_zero]
      rfl

theorem Affords.of_le {payer : Pubkey} {n m : ℕ} (hplain : b.Plain payer) (hm : m ≤ b.lamports payer)
    (hn : n ≤ m) : Affords payer n b := ⟨fun _ => hplain, Nat.le_trans hn hm⟩

/-- A new token account holds its rent; what it held beyond that counts as native tokens. -/
theorem createToken_ok {native account mint owner payer : Pubkey} {program : TokenProgram} {rent : ℕ}
    (hne : payer ≠ account) :
    createToken native program rent account mint owner payer b = .ok (u, b') ↔
      b.tokens account = none ∧ Affords payer (rent - b.lamports account) b ∧
        b' = b.withAccounts ((b.accounts.moveLamports payer account (rent - b.lamports account)).setToken
          account (some ⟨program, mint, owner,
            if mint = native then b.lamports account - rent else 0, none, 0⟩)) := by
  have hheld : (b.accounts.moveLamports payer account (rent - b.lamports account)).lamports account =
      b.lamports account + (rent - b.lamports account) := Accounts.moveLamports_dst _ hne _
  have hover : b.lamports account + (rent - b.lamports account) - rent = b.lamports account - rent := by
    omega
  simp only [createToken, bind_ok, payRent_ok, cpi_ok, initToken_ok]
  constructor
  · rintro ⟨_, _, ⟨hpays, rfl⟩, _, ⟨hnone, -, rfl⟩, rfl⟩
    rw [Bank.withAccounts_accounts, Accounts.moveLamports_tokens] at hnone
    rw [Bank.withAccounts_accounts, hheld, hover]
    exact ⟨hnone, hpays, rfl⟩
  · rintro ⟨hnone, hpays, rfl⟩
    refine ⟨(), _, ⟨hpays, rfl⟩, _, ⟨?_, ?_, rfl⟩, ?_⟩
    · exact (congrFun (Accounts.moveLamports_tokens ..) _).trans hnone
    · rw [Bank.withAccounts_accounts, hheld]
      omega
    · rw [Bank.withAccounts_accounts, hheld, hover]
      rfl

end Ok

/-! ## Frames -/

/-- The accounts of the program are as they were. -/
structure SameState (b b' : Bank) : Prop where
  custodian : b'.custodian = b.custodian
  peers : b'.peers = b.peers
  outbound : b'.outbound = b.outbound
  inbound : b'.inbound = b.inbound
  fills : b'.fills = b.fills
  orders : b'.orders = b.orders

namespace SameState

theorem refl (b : Bank) : SameState b b := ⟨rfl, rfl, rfl, rfl, rfl, rfl⟩

theorem trans (b b' b'' : Bank) (h : SameState b b') (h' : SameState b' b'') :
    SameState b b'' :=
  ⟨h'.custodian.trans h.custodian, h'.peers.trans h.peers, h'.outbound.trans h.outbound,
    h'.inbound.trans h.inbound, h'.fills.trans h.fills, h'.orders.trans h.orders⟩

theorem withAccounts (b : Bank) (s : Accounts Pubkey) : SameState b (b.withAccounts s) :=
  ⟨rfl, rfl, rfl, rfl, rfl, rfl⟩

end SameState

theorem cpi_sameState {α : Type} (op : Op Pubkey α) : Guarantees SameState (cpi op) := by
  intro b a b' h
  obtain ⟨s, -, rfl⟩ := cpi_ok.1 h
  exact .withAccounts b s

theorem systemTransfer_sameState (src dst : Pubkey) (n : ℕ) :
    Guarantees SameState (systemTransfer src dst n) := by
  intro b u b' h
  obtain ⟨-, -, rfl⟩ := systemTransfer_ok.1 h
  exact .withAccounts b _

theorem check_sameState (p : Prop) [Decidable p] (e : SwapLayerError) :
    Guarantees SameState (check p e) := .require SameState.refl _ _

theorem constraint_sameState (p : Prop) [Decidable p] (e : Error) :
    Guarantees SameState (constraint p e) := .require SameState.refl _ _

theorem loadAccount_sameState {α : Type} (f : Bank → Option α) :
    Guarantees SameState (loadAccount f) := by
  intro b a b' h
  obtain ⟨-, rfl⟩ := loadAccount_ok.1 h
  exact .refl _

end SwapLayer.Solana
