import SwapLayer.Lib.Ledger
import SwapLayer.Evm.InitiateParams

/-!
# The EVM swap layer's surroundings: state, callers and external contracts

The state of the contract and everything outside of it that its functions talk to.

* `World` is the contract's storage (`SwapLayerBase.sol:16-30`, `SwapLayerGovernance.sol:23-36`,
  `SwapLayerRelayingFees.sol:22-35`, the proxy's implementation slot), what it holds of each
  asset, and a trace of its effects: transfers out, approvals, orders and events.
* `Deployment` holds the immutables (`SwapLayerBase.sol:42-68`), `Msg` the caller. A caller is
  never the contract itself (it has no call to its own external functions) nor the zero address,
  which the type says.
* `Externals` answers for the code outside the repository: tokens, permit2, the two routers, the
  liquidity layer, wormhole. It is arbitrary, except that there is no code at the zero address; what
  a result assumes of it is a hypothesis of that result.

A function of the contract is a program over `World` that may revert, and then has no effect.
Tokens move exactly the stated amount. A token never credits an account beyond its supply, so
a credit that would exceed `supply` does not happen: the call that would have made it reverts.
Called contracts do not reenter and do not send funds of their own accord.
-/

namespace SwapLayer.Evm

open ByteString Program Ledger

/-! ## Assets and records of external calls -/

/-- What an account can hold. -/
inductive Asset
  | eth
  | erc20 (token : Address)
  deriving DecidableEq

/-- A transfer out of the contract. -/
structure Payout where
  recipient : Address
  asset : Asset
  amount : ℕ
  deriving DecidableEq

/-- An allowance the contract gives: on the token, or in permit2. -/
inductive Approval
  | token (token spender : Address)
  | permit2 (token spender : Address)
  deriving DecidableEq

/-- An order placed with the liquidity layer; `fast` holds the maximum fee and the deadline. -/
structure Order where
  amount : ℕ
  targetChain : ℕ
  redeemer : Bytes32
  redeemerMessage : Bytes
  fast : Option (ℕ × ℕ)
  value : ℕ
  deriving DecidableEq

/-- `RedeemedFill` of the liquidity layer. -/
structure Fill where
  sender : Bytes32
  senderChain : ℕ
  amount : ℕ
  message : Bytes

/-- How the input token is fetched from the caller. -/
inductive AcquireCall
  | transferFrom
  | permitAndTransferFrom (permit : Permit)
  | permitTransferFrom (permit : Permit2Transfer)
  | permit2AndTransferFrom (permit : Permit2Permit)
  deriving DecidableEq

/-- `IUniversalRouter.execute` with one command; the recipient is the contract, the payer too. -/
structure UniswapCall where
  command : ℕ
  recipient : Address
  inOutAmount : ℕ
  limitAmount : ℕ
  path : Bytes
  payerIsSender : Bool
  deriving DecidableEq

/-- `Path` of the TraderJoe router. -/
structure TraderJoePath where
  pairBinSteps : List ℕ
  versions : List ℕ
  tokenPath : List Address
  deriving DecidableEq

/-- `swapExactTokensForTokens` or `swapTokensForExactTokens`. -/
structure TraderJoeCall where
  isExactIn : Bool
  inOutAmount : ℕ
  limitAmount : ℕ
  path : TraderJoePath
  recipient : Address
  deadline : ℕ
  deriving DecidableEq

/-- What a router did: how much it pulled of the path's first token and how much it paid of the
last. -/
structure RouterReply where
  pulled : ℕ
  paid : ℕ
  deriving DecidableEq

/-- The TraderJoe router also returns amounts; `none` is return data that does not decode. -/
structure TraderJoeReply extends RouterReply where
  amounts : Option (List ℕ)
  deriving DecidableEq

/-! ## State -/

inductive Role
  | owner
  | assistant
  | feeUpdater
  | feeRecipient
  deriving DecidableEq

structure GovernanceState where
  owner : Address
  pendingOwner : Address
  assistant : Address
  feeUpdater : Address
  feeRecipient : Address
  deriving DecidableEq

/-- What the contract does that is seen from outside: the events it emits, and the calls that
move funds or give allowances. -/
inductive Effect
  | payout (p : Payout)
  | approval (a : Approval)
  | order (o : Order)
  | roleUpdated (role : Role) (oldAddress newAddress : Address) (timestamp : ℕ)
  | feeParamsUpdated (chainId : ℕ) (feeParams : BitVec 256)
  | redeemed (recipient : Address) (outputToken : Address) (outputAmount relayingFee : ℕ)
  deriving DecidableEq

/-- The contract's storage. -/
structure Storage where
  governance : GovernanceState
  peers : ℕ → Bytes32
  feeParams : ℕ → BitVec 256
  implementation : Address

/-- Storage, holdings and everything done so far. -/
structure World where
  held : Asset → ℕ
  storage : Storage
  trace : List Effect

namespace World

def withHeld (w : World) (held : Asset → ℕ) : World := { w with held := held }

def withStorage (w : World) (storage : Storage) : World := { w with storage := storage }

def record (w : World) (e : Effect) : World := { w with trace := w.trace ++ [e] }

/-- The transfers out of the contract, in order. -/
def payouts (w : World) : List Payout :=
  w.trace.filterMap fun
    | .payout p => some p
    | _ => none

/-- The orders placed, in order. -/
def orders (w : World) : List Order :=
  w.trace.filterMap fun
    | .order o => some o
    | _ => none

variable (w : World)

@[simp] theorem withHeld_held (h : Asset → ℕ) : (w.withHeld h).held = h := rfl
@[simp] theorem withHeld_storage (h : Asset → ℕ) : (w.withHeld h).storage = w.storage := rfl
@[simp] theorem withHeld_trace (h : Asset → ℕ) : (w.withHeld h).trace = w.trace := rfl
@[simp] theorem withStorage_held (s : Storage) : (w.withStorage s).held = w.held := rfl
@[simp] theorem withStorage_storage (s : Storage) : (w.withStorage s).storage = s := rfl
@[simp] theorem withStorage_trace (s : Storage) : (w.withStorage s).trace = w.trace := rfl
@[simp] theorem record_held (e : Effect) : (w.record e).held = w.held := rfl
@[simp] theorem record_storage (e : Effect) : (w.record e).storage = w.storage := rfl
@[simp] theorem record_trace (e : Effect) : (w.record e).trace = w.trace ++ [e] := rfl

end World

/-- The immutables, and the address of the contract. -/
structure Deployment where
  self : Address
  liquidityLayer : Address
  permit2 : Address
  wnative : Address
  usdc : Address
  chainId : ℕ
  uniswapRouter : Address
  traderJoeRouter : Address

/-- A call from outside. -/
structure Msg (d : Deployment) where
  sender : Address
  value : ℕ
  sender_ne_self : sender ≠ d.self
  sender_ne_zero : sender ≠ zeroAddress

/-- The answers of the code outside the repository during one call. -/
structure Externals where
  blockTimestamp : ℕ
  messageFee : ℕ
  supply : Address → ℕ
  supply_lt : ∀ token, supply token < 2 ^ 256
  isToken : Address → Bool
  hasCode : Address → Bool
  hasCode_zero : hasCode zeroAddress = false
  accepts : Payout → Bool
  pull : Address → Address → ℕ → AcquireCall → Bool
  uniswap : UniswapCall → Except Bytes RouterReply
  traderJoe : TraderJoeCall → Except Bytes TraderJoeReply
  allowance : Address → Address → ℕ
  permit2Allowance : Address → Address → ℕ
  approve : Approval → Bool
  placeOrder : Order → Option (ℕ × ℕ × ℕ)
  redeemFill : Bytes → Option Fill
  upgrade : Address → Bool

/-- A function of the contract: it reverts or returns a value and the state it leaves. -/
abbrev Contract (α : Type) := StateT World (Except Revert) α

/-! ## Arithmetic of `uint256` -/

/-- The value modulo `2^256`: arithmetic in an `unchecked` block. -/
def wrap (n : ℕ) : ℕ := n % 2 ^ 256

/-- `a - b` in an `unchecked` block. -/
def uncheckedSub (a b : ℕ) : ℕ := wrap (a + (2 ^ 256 - wrap b))

/-- `a - b` in checked arithmetic. -/
def checkedSub (a b : ℕ) : Except Revert ℕ :=
  if b ≤ a then .ok (a - b) else .error (.panic PANIC_ARITHMETIC)

/-- `a + b` in checked arithmetic. -/
def checkedAdd (a b : ℕ) : Except Revert ℕ :=
  if a + b < 2 ^ 256 then .ok (a + b) else .error (.panic PANIC_ARITHMETIC)

theorem wrap_of_lt {n : ℕ} (h : n < 2 ^ 256) : wrap n = n := Nat.mod_eq_of_lt h

/-- A difference that is not negative is exact. -/
theorem uncheckedSub_add_left {a n : ℕ} (h : n < 2 ^ 256) : uncheckedSub (a + n) a = n := by
  unfold uncheckedSub wrap
  omega

theorem uncheckedSub_self (a : ℕ) : uncheckedSub a a = 0 :=
  uncheckedSub_add_left (n := 0) (by decide)

theorem uncheckedSub_of_le {a b : ℕ} (hba : b ≤ a) (h : a - b < 2 ^ 256) :
    uncheckedSub a b = a - b := by
  have := uncheckedSub_add_left (a := b) h
  rwa [Nat.add_sub_of_le hba] at this

/-- A common summand of both sides cancels. -/
theorem uncheckedSub_shift {a p q : ℕ} (hp : p ≤ a) :
    uncheckedSub (a - p + q) a = uncheckedSub q p ∧
      uncheckedSub a (a - p + q) = uncheckedSub p q := by
  unfold uncheckedSub wrap
  omega

/-- A negative difference wraps around. -/
theorem uncheckedSub_of_lt {a b : ℕ} (hab : a < b) (h : b - a < 2 ^ 256) :
    uncheckedSub a b = 2 ^ 256 - (b - a) := by
  unfold uncheckedSub wrap
  omega

theorem checkedSub_ok {a b c : ℕ} : checkedSub a b = .ok c ↔ b ≤ a ∧ c = a - b := by
  unfold checkedSub
  split
  · rename_i h
    exact ⟨fun he => ⟨h, (Except.ok.inj he).symm⟩, fun ⟨_, he⟩ => he ▸ rfl⟩
  · rename_i h
    exact ⟨fun he => (by cases he), fun ⟨hle, _⟩ => absurd hle h⟩

theorem checkedAdd_ok {a b c : ℕ} : checkedAdd a b = .ok c ↔ a + b < 2 ^ 256 ∧ c = a + b := by
  unfold checkedAdd
  split
  · rename_i h
    exact ⟨fun he => ⟨h, (Except.ok.inj he).symm⟩, fun ⟨_, he⟩ => he ▸ rfl⟩
  · rename_i h
    exact ⟨fun he => (by cases he), fun ⟨hlt, _⟩ => absurd hlt h⟩

/-! ## Moving funds -/

section Moving

variable (d : Deployment) (x : Externals)

/-- The storage of the contract. -/
def getStorage : Contract Storage := fun w => .ok (w.storage, w)

/-- `balanceOf(address(this))`; the call reverts where there is no token to answer it. -/
def balanceOf (asset : Asset) : Contract ℕ := fun w =>
  match asset with
  | .eth => .ok (w.held .eth, w)
  | .erc20 token =>
    if x.isToken token then .ok (w.held (.erc20 token), w) else .error (.external .token)

/-- The contract receives `amount`; a token does not go beyond its supply. -/
def receive (asset : Asset) (amount : ℕ) (callee : Dependency) : Contract Unit := fun w =>
  match asset with
  | .eth => .ok ((), w.withHeld (credit w.held .eth amount))
  | .erc20 token =>
    if w.held asset + amount ≤ x.supply token then
      .ok ((), w.withHeld (credit w.held asset amount))
    else .error (.external callee)

/-- `amount` is taken from the contract. -/
def spend (asset : Asset) (amount : ℕ) (error : Revert) : Contract Unit := fun w =>
  if amount ≤ w.held asset then .ok ((), w.withHeld (debit w.held asset amount))
  else .error error

/-- A transfer; one to the contract itself leaves its holdings as they are. -/
def payOut (p : Payout) (error : Revert) : Contract Unit := fun w =>
  if p.amount ≤ w.held p.asset ∧ x.accepts p then
    .ok ((), (w.withHeld
      (if p.recipient = d.self then w.held else debit w.held p.asset p.amount)).record (.payout p))
  else .error error

/-- `SafeERC20.safeTransfer`. -/
def safeTransfer (token recipient : Address) (amount : ℕ) : Contract Unit :=
  payOut d x ⟨recipient, .erc20 token, amount⟩ (.external .token)

/-- `_transferEth`. -/
def transferEth (recipient : Address) (amount : ℕ) : Contract Unit :=
  payOut d x ⟨recipient, .eth, amount⟩ .ethTransferFailed

/-- `_wnative.deposit{value: amount}()`. -/
def wnativeDeposit (amount : ℕ) : Contract Unit := do
  spend .eth amount (.external .wnative)
  receive x (.erc20 d.wnative) amount .wnative

/-- `_wnative.withdraw(amount)`. -/
def wnativeWithdraw (amount : ℕ) : Contract Unit := do
  spend (.erc20 d.wnative) amount (.external .wnative)
  receive x .eth amount .wnative

/-- An approval, on the token or in permit2. -/
def approve (a : Approval) : Contract Unit := fun w =>
  if x.approve a then .ok ((), w.record (.approval a)) else .error (.external .token)

def emit (e : Effect) : Contract Unit := fun w => .ok ((), w.record e)

end Moving

/-! ## What each movement does -/

section MovingSpecs

variable {d : Deployment} {x : Externals} {w w' : World}

theorem receive_ok {asset : Asset} {amount : ℕ} {callee : Dependency}
    (h : receive x asset amount callee w = .ok ((), w')) :
    w' = w.withHeld (credit w.held asset amount) ∧
      ∀ token, asset = .erc20 token → w.held asset + amount ≤ x.supply token := by
  unfold receive at h
  cases asset with
  | eth =>
    cases h
    exact ⟨rfl, fun _ h => by cases h⟩
  | erc20 token =>
    simp only at h
    split at h
    · rename_i hle
      cases h
      exact ⟨rfl, fun t ht => by cases ht; exact hle⟩
    · cases h

theorem balanceOf_ok {asset : Asset} {n : ℕ} (h : balanceOf x asset w = .ok (n, w')) :
    w' = w ∧ ∀ token, asset = .erc20 token → x.isToken token = true := by
  cases asset with
  | eth =>
    cases h
    exact ⟨rfl, fun _ h => by cases h⟩
  | erc20 token =>
    simp only [balanceOf] at h
    split at h
    · rename_i htoken
      cases h
      exact ⟨rfl, fun t ht => by cases ht; exact htoken⟩
    · cases h

theorem spend_ok {asset : Asset} {amount : ℕ} {error : Revert} {u : Unit} :
    spend asset amount error w = .ok (u, w') ↔
      amount ≤ w.held asset ∧ w' = w.withHeld (debit w.held asset amount) := by
  unfold spend
  split
  · rename_i h
    exact ⟨fun he => by cases he; exact ⟨h, rfl⟩, fun ⟨_, he⟩ => by rw [he]⟩
  · rename_i h
    exact ⟨fun he => (by cases he), fun ⟨hle, _⟩ => absurd hle h⟩

theorem payOut_ok {p : Payout} {error : Revert} {u : Unit} :
    payOut d x p error w = .ok (u, w') ↔
      p.amount ≤ w.held p.asset ∧ x.accepts p = true ∧
        w' = (w.withHeld (if p.recipient = d.self then w.held
          else debit w.held p.asset p.amount)).record (.payout p) := by
  unfold payOut
  split
  · rename_i h
    exact ⟨fun he => by cases he; exact ⟨h.1, h.2, rfl⟩, fun ⟨_, _, he⟩ => by rw [he]⟩
  · rename_i h
    exact ⟨fun he => (by cases he), fun ⟨h₁, h₂, _⟩ => absurd ⟨h₁, h₂⟩ h⟩

/-- **A transfer to somebody else** takes the amount out of the holdings. -/
theorem payOut_moves {p : Payout} {error : Revert} {u : Unit} (hne : p.recipient ≠ d.self)
    (h : payOut d x p error w = .ok (u, w')) :
    Moves w.held w'.held 0 (Pi.single p.asset p.amount) := by
  obtain ⟨hle, -, rfl⟩ := payOut_ok.1 h
  rw [World.record_held, World.withHeld_held, if_neg hne]
  exact moves_debit hle

/-- Wrapping turns the contract's ETH into the wrapped token. -/
theorem wnativeDeposit_ok {amount : ℕ} {u : Unit}
    (h : wnativeDeposit d x amount w = .ok (u, w')) :
    amount ≤ w.held .eth ∧ w.held (.erc20 d.wnative) + amount ≤ x.supply d.wnative ∧
      w' = w.withHeld (credit (debit w.held .eth amount) (.erc20 d.wnative) amount) := by
  obtain ⟨_, w₁, hspend, hrec⟩ := bind_ok.1 h
  obtain ⟨hle, rfl⟩ := spend_ok.1 hspend
  obtain ⟨rfl, hcap⟩ := receive_ok hrec
  have := hcap d.wnative rfl
  rw [World.withHeld_held, debit_other _ (by simp)] at this
  exact ⟨hle, this, rfl⟩

/-- Unwrapping is always possible for what the contract holds. -/
theorem wnativeWithdraw_ok {amount : ℕ} {u : Unit} :
    wnativeWithdraw d x amount w = .ok (u, w') ↔
      amount ≤ w.held (.erc20 d.wnative) ∧
        w' = w.withHeld (credit (debit w.held (.erc20 d.wnative) amount) .eth amount) := by
  unfold wnativeWithdraw
  rw [bind_ok]
  constructor
  · rintro ⟨_, w₁, hspend, hrec⟩
    obtain ⟨hle, rfl⟩ := spend_ok.1 hspend
    exact ⟨hle, (receive_ok hrec).1⟩
  · rintro ⟨hle, rfl⟩
    exact ⟨(), _, spend_ok.2 ⟨hle, rfl⟩, rfl⟩

theorem approve_ok {a : Approval} {u : Unit} (h : approve x a w = .ok (u, w')) :
    w' = w.record (.approval a) := by
  unfold approve at h
  split at h
  · cases h
    rfl
  · cases h

/-! ### What movements leave alone -/

/-- Neither storage nor the orders placed changed. -/
structure SameStorage (w w' : World) : Prop where
  storage : w'.storage = w.storage
  orders : w'.orders = w.orders

theorem SameStorage.refl (w : World) : SameStorage w w := ⟨rfl, rfl⟩

theorem SameStorage.trans (w₁ w₂ w₃ : World) (h₁ : SameStorage w₁ w₂) (h₂ : SameStorage w₂ w₃) :
    SameStorage w₁ w₃ :=
  ⟨h₂.storage.trans h₁.storage, h₂.orders.trans h₁.orders⟩

theorem receive_sameStorage (asset : Asset) (amount : ℕ) (callee : Dependency) :
    Guarantees SameStorage (receive x asset amount callee) := by
  intro w u w' h
  obtain ⟨rfl, -⟩ := receive_ok h
  exact ⟨rfl, rfl⟩

theorem spend_sameStorage (asset : Asset) (amount : ℕ) (error : Revert) :
    Guarantees SameStorage (spend asset amount error) := by
  intro w u w' h
  obtain ⟨-, rfl⟩ := spend_ok.1 h
  exact ⟨rfl, rfl⟩

theorem payOut_sameStorage (p : Payout) (error : Revert) :
    Guarantees SameStorage (payOut d x p error) := by
  intro w u w' h
  obtain ⟨-, -, rfl⟩ := payOut_ok.1 h
  exact ⟨rfl, by simp [World.orders]⟩

theorem wnativeDeposit_sameStorage (amount : ℕ) :
    Guarantees SameStorage (wnativeDeposit d x amount) :=
  .bind SameStorage.trans (spend_sameStorage _ _ _) fun _ => receive_sameStorage _ _ _

theorem wnativeWithdraw_sameStorage (amount : ℕ) :
    Guarantees SameStorage (wnativeWithdraw d x amount) :=
  .bind SameStorage.trans (spend_sameStorage _ _ _) fun _ => receive_sameStorage _ _ _

theorem approve_sameStorage (a : Approval) : Guarantees SameStorage (approve x a) := by
  intro w u w' h
  obtain rfl := approve_ok h
  exact ⟨rfl, by simp [World.orders]⟩

end MovingSpecs

end SwapLayer.Evm
