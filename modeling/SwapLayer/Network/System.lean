import SwapLayer.Lib.Mailbox
import SwapLayer.Evm.Holdings
import SwapLayer.Evm.RedeemPayouts
import SwapLayer.Solana.StagedOrders
import SwapLayer.Bridge.Wire

/-!
# The network of swap layers

All swap layers together: one contract on each EVM chain, the program on Solana, and the liquidity
layer between them, which is not part of the repository and is a mailbox of transfers here. A
transfer is posted when an order is placed with the liquidity layer, by a swap layer or by anybody
else, and taken when it is redeemed on an EVM chain, or prepared as a fill on Solana. The liquidity
layer delivers a transfer once, on its target chain, to its redeemer, for at most its amount, and it
reports sender, source chain and message as they are.

Everything else is arbitrary (`Step`): who calls what and when, what the routers and tokens answer,
transfers of others with any content, donations. Peers may be registered and removed all the time,
but what is registered under a chain is the swap layer of that chain (`Honest`).

The history holds the calls that the swap layers have executed, each with the states before and after
it. What a redemption was delivered and what it paid is read off from these.
-/

namespace SwapLayer.Network

open ByteString Program Messages

/-! ## States -/

/-- Where the swap layers are. -/
structure Sites where
  evm : ℕ → Evm.Deployment
  solana : Solana.Deployment
  self_ne_zero : ∀ c, (evm c).self ≠ Evm.zeroAddress
  custodian_ne_zero : solana.custodian ≠ Solana.zeroKey

/-- The address under which the swap layer of a chain is registered with the others. -/
def Sites.address (n : Sites) (chain : ℕ) : Fixed 32 :=
  if chain = Solana.SOLANA_CHAIN then n.solana.custodian
  else Evm.toUniversalAddress (n.evm chain).self

/-- An order that was placed with the liquidity layer. -/
structure Transfer where
  sourceChain : ℕ
  sender : Fixed 32
  amount : ℕ
  targetChain : ℕ
  redeemer : Fixed 32
  message : List UInt8

/-- The order of a contract. -/
def Sites.ofOrder (n : Sites) (chain : ℕ) (o : Evm.Order) : Transfer :=
  ⟨chain, n.address chain, o.amount, o.targetChain, o.redeemer, o.redeemerMessage⟩

/-- An order that was prepared on Solana. -/
def Sites.ofMarketOrder (n : Sites) (o : Solana.MarketOrder) : Transfer :=
  ⟨Solana.SOLANA_CHAIN, n.address Solana.SOLANA_CHAIN, o.amountIn, o.targetChain, o.redeemer,
    o.redeemerMessage⟩

/-- A swap layer placed the order. -/
def Sites.Sent (n : Sites) (m : Transfer) : Prop := m.sender = n.address m.sourceChain

/-- The redeemer is the swap layer of `chain`. -/
structure Sites.Addressed (n : Sites) (chain : ℕ) (m : Transfer) : Prop where
  targetChain : m.targetChain = chain
  redeemer : m.redeemer = n.address chain

/-- The transfer as it is delivered to a contract. -/
def Transfer.fill (m : Transfer) (amount : ℕ) : Evm.Fill := ⟨m.sender, m.sourceChain, amount, m.message⟩

/-- The transfer as it is prepared on Solana. -/
def Transfer.preparedFill (m : Transfer) (amount : ℕ) (fillType : Solana.FillType) (timestamp : ℤ) :
    Solana.PreparedFill :=
  ⟨fillType, m.sourceChain, m.sender, m.message, timestamp, amount⟩

/-! ## What has been done -/

/-- A redemption of the transfer `key`: a call of `redeem`, or a completion on Solana, with the states
before and after it. -/
inductive Redemption (n : Sites)
  | evm (key chain : ℕ) (x : Evm.Externals) (msg : Evm.Msg (n.evm chain))
    (params attestations : Evm.Bytes) (w w' : Evm.World)
  | solana (key : ℕ) (x : Solana.Externals) (c : Solana.Completion) (b b' : Solana.Bank)

/-- The amount of a fill that has been prepared. -/
def filledAmount (b : Solana.Bank) (fill : Solana.Pubkey) : ℕ :=
  (b.fills fill).elim 0 Solana.PreparedFill.amount

namespace Redemption

variable {n : Sites}

def key : Redemption n → ℕ
  | evm key .. => key
  | solana key .. => key

def chain : Redemption n → ℕ
  | evm _ chain .. => chain
  | solana .. => Solana.SOLANA_CHAIN

/-- What the liquidity layer has delivered. -/
def delivered : Redemption n → ℕ
  | evm _ _ x _ _ attestations _ _ => (x.redeemFill attestations).elim 0 Evm.Fill.amount
  | solana _ _ c b _ => filledAmount b c.fill

/-- The USDC that was paid: out of the contract, or out of the prepared fill. -/
def usdcPaid : Redemption n → ℕ
  | evm _ chain _ _ _ _ w w' => Evm.usdcPaid (n.evm chain) w w'
  | solana _ _ c b b' => filledAmount b c.fill - filledAmount b' c.fill

/-- The swap with which a contract was to pay. -/
def swap : Redemption n → Option Evm.OutputSwap
  | evm _ _ x msg params attestations _ _ => Evm.swapInForce x msg params attestations
  | solana .. => none

/-- A contract was to swap the USDC into USDC. -/
def swapsToUsdc (r : Redemption n) : Bool := r.swap.any fun s => s.token = (n.evm r.chain).usdc

end Redemption

/-- What the swap layers have done. -/
inductive Deed (n : Sites)
  | transaction (chain : ℕ) (t : Evm.Transaction (n.evm chain)) (w w' : Evm.World)
  | event (x : Solana.Externals) (e : Solana.Event) (b b' : Solana.Bank)
  | redemption (r : Redemption n)

/-- The redemption of a deed that is one. -/
def Deed.redeemed {n : Sites} : Deed n → Option (Redemption n)
  | redemption r => some r
  | _ => none

/-- The contracts, the program, the liquidity layer, the transfers behind the prepared fills of
Solana, and the history. -/
structure Net (n : Sites) where
  evm : ℕ → Evm.World
  solana : Solana.Bank
  wire : Mailbox ℕ Transfer
  prepared : Solana.Pubkey → Option ℕ
  history : List (Deed n)

namespace Net

variable {n : Sites}

def withEvm (s : Net n) (chain : ℕ) (w : Evm.World) : Net n :=
  { s with evm := Function.update s.evm chain w }

def withSolana (s : Net n) (b : Solana.Bank) : Net n := { s with solana := b }

def withWire (s : Net n) (wire : Mailbox ℕ Transfer) : Net n := { s with wire := wire }

def prepare (s : Net n) (fill : Solana.Pubkey) (k : ℕ) : Net n :=
  { s with prepared := Function.update s.prepared fill (some k) }

def note (s : Net n) (d : Deed n) : Net n := { s with history := s.history ++ [d] }

/-- A contract has executed a transaction. -/
def executed (s : Net n) (chain : ℕ) (t : Evm.Transaction (n.evm chain)) (w : Evm.World) : Net n :=
  (s.withEvm chain w).note (.transaction chain t (s.evm chain) w)

/-- The redemptions so far. -/
def redemptions (s : Net n) : List (Redemption n) := s.history.filterMap Deed.redeemed

end Net

/-! ## Steps -/

section Steps

variable (n : Sites)

/-- **What can happen.** -/
inductive Step : Net n → Net n → Prop
  /-- A transaction that redeems nothing and does not replace the contract; its orders are posted. -/
  | transact (s : Net n) (chain : ℕ) (t : Evm.Transaction (n.evm chain)) (w : Evm.World)
      (new : List Evm.Order) (wire : Mailbox ℕ Transfer) (hchain : chain ≠ Solana.SOLANA_CHAIN)
      (hcall : ∀ params attestations, t.call ≠ .redeem params attestations)
      (hexec : Evm.execute t (s.evm chain) = .ok w)
      (hkept : w.storage.implementation = (s.evm chain).storage.implementation)
      (hnew : w.orders = (s.evm chain).orders ++ new)
      (hposts : Mailbox.Posts s.wire (new.map (n.ofOrder chain)) wire) :
      Step s ((s.executed chain t w).withWire wire)
  /-- A redemption on an EVM chain. -/
  | redeem (s : Net n) (chain : ℕ) (x : Evm.Externals) (msg : Evm.Msg (n.evm chain))
      (params attestations ret : Evm.Bytes) (w : Evm.World) (k : ℕ) (m : Transfer) (amount : ℕ)
      (hchain : chain ≠ Solana.SOLANA_CHAIN) (hopen : s.wire.Open k m)
      (haddressed : n.Addressed chain m) (hamount : amount ≤ m.amount)
      (hfill : x.redeemFill attestations = some (m.fill amount))
      (hredeem : Evm.redeem (n.evm chain) x msg params attestations (s.evm chain) = .ok (ret, w)) :
      Step s (((s.withEvm chain w).withWire (s.wire.take k amount)).note
        (.redemption (.evm k chain x msg params attestations (s.evm chain) w)))
  /-- A contract is sent tokens or ETH. -/
  | donate (s : Net n) (chain : ℕ) (asset : Evm.Asset) (amount : ℕ) :
      Step s (s.withEvm chain
        ((s.evm chain).withHeld (Ledger.credit (s.evm chain).held asset amount)))
  /-- Anything on Solana but fills; its orders are posted. -/
  | perform (s : Net n) (x : Solana.Externals) (e : Solana.Event) (b : Solana.Bank)
      (new : List Solana.MarketOrder) (wire : Mailbox ℕ Transfer)
      (hcomplete : ∀ c, e ≠ .complete c) (hprepare : ∀ fill f, e ≠ .prepareFill fill f)
      (hfree : Solana.Uncontested n.solana s.solana (x, e))
      (hok : Solana.perform n.solana (x, e) s.solana = .ok b)
      (hnew : b.orders = s.solana.orders ++ new)
      (hposts : Mailbox.Posts s.wire (new.map n.ofMarketOrder) wire) :
      Step s (((s.withSolana b).withWire wire).note (.event x e s.solana b))
  /-- The token router prepares a fill, under an address that has none. -/
  | prepareFill (s : Net n) (x : Solana.Externals) (fill : Solana.Pubkey) (k : ℕ) (m : Transfer)
      (amount : ℕ) (fillType : Solana.FillType) (timestamp : ℤ) (b : Solana.Bank)
      (hunused : s.solana.fills fill = none) (hopen : s.wire.Open k m)
      (haddressed : n.Addressed Solana.SOLANA_CHAIN m) (hamount : amount ≤ m.amount)
      (hok : Solana.perform n.solana
        (x, .prepareFill fill (m.preparedFill amount fillType timestamp)) s.solana = .ok b) :
      Step s (((s.withSolana b).withWire (s.wire.take k amount)).prepare fill k)
  /-- A prepared fill is completed. -/
  | complete (s : Net n) (x : Solana.Externals) (c : Solana.Completion) (b : Solana.Bank) (k : ℕ)
      (hprepared : s.prepared c.fill = some k)
      (hfree : Solana.Uncontested n.solana s.solana (x, .complete c))
      (hok : Solana.perform n.solana (x, .complete c) s.solana = .ok b) :
      Step s ((s.withSolana b).note (.redemption (.solana k x c s.solana b)))
  /-- Somebody else places an order. -/
  | foreign (s : Net n) (k : ℕ) (m : Transfer) (hfresh : s.wire.Fresh k) (hsent : ¬n.Sent m)
      (hsender : m.sender ≠ Evm.zeroBytes32) :
      Step s (s.withWire (s.wire.post k m))

/-- **What is registered under a chain is the swap layer of that chain.** -/
structure Honest (s : Net n) : Prop where
  evm : ∀ chain, chain ≠ Solana.SOLANA_CHAIN → ∀ peerChain,
    (s.evm chain).storage.peers peerChain ≠ Evm.zeroBytes32 →
      (s.evm chain).storage.peers peerChain = n.address peerChain
  solana : ∀ peerChain p, s.solana.peers peerChain = some p → p.address = n.address peerChain

/-- In the beginning nothing is under way. -/
structure Start (s : Net n) : Prop where
  wire : s.wire = .empty
  fills : ∀ k, s.solana.fills k = none
  outbound : ∀ k, s.solana.outbound k = none
  history : s.history = []
  honest : Honest n s

/-- A step after which peers are registered honestly. -/
def Next (s s' : Net n) : Prop := Step n s s' ∧ Honest n s'

/-- The states that steps lead to. -/
def Reachable (s : Net n) : Prop := ∃ s₀, Start n s₀ ∧ Relation.ReflTransGen (Next n) s₀ s

end Steps

end SwapLayer.Network
