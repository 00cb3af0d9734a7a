import SwapLayer.Network.Requests

/-!
# What was sent can be redeemed

A transfer between swap layers that has not been redeemed is not lost on an EVM chain, whatever its
message asks for: a swap that no router executes, a path that does not parse, a relaying fee that
eats it up. The recipient may redeem it himself and override the message. With the single byte for
USDC as parameters nothing is left that could fail but the transfer of the USDC.

Results:
* `redeem_overridden`: such a redemption goes through and pays the recipient all of the fill.
* `recipient_can_redeem`: so the recipient of a transfer can redeem it in every state of the network.
-/

namespace SwapLayer.Network

open ByteString Program Messages

/-! ## The contract -/

section Contract

open Evm

variable {d : Deployment} {x : Evm.Externals} {msg : Msg d} {w : World}

/-- The parameters that ask for USDC. -/
def usdcParams : Evm.Bytes := [0]

/-- The recipient pays no fee, needs no ETH, and may override the message. -/
theorem redeemPlan_overridden {fill : Fill} {sms : SwapMessageStructure}
    (hsender : msg.sender = sms.recipient) :
    redeemPlan d x msg fill sms usdcParams w = .ok (⟨0, 0, fill.amount, true⟩, w) := by
  have hrelays : ¬RelaysFor msg sms := fun h => h.2 hsender
  rw [redeemPlan, if_neg hrelays, redeemWithoutFee, if_pos hsender]
  rfl

/-- **An overridden redemption** pays its caller, the recipient, all of the fill, and leaves everything
else as it was. What the message asks for does not matter. -/
theorem redeem_overridden (msg : Msg d) {fill : Fill} {addr : Address} {attestations : Evm.Bytes}
    {sms : SwapMessageStructure} (hfill : x.redeemFill attestations = some fill)
    (hpeer : fill.sender = w.storage.peers fill.senderChain)
    (hwithin : w.held (.erc20 d.usdc) + fill.amount ≤ x.supply d.usdc)
    (hsms : parseSwapMessageStructure fill.message = .ok sms) (hrecipient : sms.recipient = addr)
    (hsender : msg.sender = addr) (hvalue : msg.value = 0)
    (haccepts : x.accepts ⟨addr, .erc20 d.usdc, fill.amount⟩ = true) :
    ∃ ret w', redeem d x msg usdcParams attestations w = .ok (ret, w') ∧
      w'.payouts = w.payouts ++ [⟨addr, .erc20 d.usdc, fill.amount⟩] ∧
      (∀ a, w'.held a = w.held a) ∧ w'.storage = w.storage := by
  subst hrecipient
  have hself : sms.recipient ≠ d.self := hsender ▸ msg.sender_ne_self
  -- the transfer to the recipient
  have hheld : fill.amount ≤ (filled d msg fill w).held (.erc20 d.usdc) := by
    simp [filled, Ledger.credit_apply]
  obtain ⟨w₁, hpaid⟩ := payOut_exists (d := d) (p := ⟨sms.recipient, .erc20 d.usdc, fill.amount⟩)
    (.external .token) haccepts hheld
  have hpay : payRecipient d x sms.recipient ⟨.usdc, d.usdc, fill.amount⟩ 0 (filled d msg fill w) =
      .ok ((d.usdc, fill.amount), w₁) :=
    bind_ok.2 ⟨(), _, rfl, bind_ok.2 ⟨(), w₁, hpaid, rfl⟩⟩
  let r : Redeemed d x msg usdcParams attestations w :=
    ⟨fill, sms, ⟨0, 0, fill.amount, true⟩, _, none, 1, _, _, _, w₁, hfill, hwithin, hpeer, hsms,
      redeemPlan_overridden hsender, hvalue, rfl, rfl, rfl, hpay⟩
  refine ⟨_, _, redeem_ok.2 ⟨r, rfl, rfl⟩, ?_, fun a => ?_, ?_⟩
  · have hpayouts := payOut_payouts hpaid
    simpa [Redeemed.result, r, World.payouts, filled] using hpayouts
  · have hmoves := payOut_moves hself hpaid a
    simp only [filled, World.withHeld_held, Ledger.credit_apply, hvalue, Pi.single_zero,
      Pi.zero_apply] at hmoves
    change w₁.held a = w.held a
    omega
  · exact (payOut_sameStorage _ _ _ _ _ hpaid).storage

end Contract

/-! ## The network -/

section Recipient

variable {n : Sites} {s s' : Net n}

/-- Peers that are not touched stay honest. -/
theorem Honest.of_peers (hs : Honest n s)
    (hevm : ∀ chain, (s'.evm chain).storage.peers = (s.evm chain).storage.peers)
    (hsolana : s'.solana.peers = s.solana.peers) : Honest n s' where
  evm chain hchain peerChain hpeer := by
    rw [hevm] at hpeer ⊢
    exact hs.evm chain hchain peerChain hpeer
  solana peerChain p hp := hs.solana peerChain p (hsolana ▸ hp)

/-- **Nothing that was sent is stuck.** In every state of the network, a transfer that a swap layer has
sent and nobody has redeemed can be redeemed by the recipient of its request, if he has an EVM address,
the contract of the target chain has the source chain registered, and USDC can be transferred: he gets
all of what the liquidity layer delivers, in USDC. -/
theorem recipient_can_redeem (h : Reachable n s) (chain amount : ℕ) (x : Evm.Externals)
    (attestations : Evm.Bytes) {k : ℕ} {m : Transfer} {q : Request} {e : Deed n} {addr : Evm.Address}
    (hopen : s.wire.Open k m) (hsent : n.Sent m) (haddressed : n.Addressed chain m)
    (hchain : chain ≠ Solana.SOLANA_CHAIN) (hasks : Asks n m q e)
    (hrecipient : q.recipient = Evm.toUniversalAddress addr) (hself : addr ≠ (n.evm chain).self)
    (hzero : addr ≠ Evm.zeroAddress)
    (hregistered : (s.evm chain).storage.peers m.sourceChain ≠ Evm.zeroBytes32)
    (hamount : amount ≤ m.amount) (hfill : x.redeemFill attestations = some (m.fill amount))
    (hwithin : (s.evm chain).held (.erc20 (n.evm chain).usdc) + amount ≤ x.supply (n.evm chain).usdc)
    (haccepts : x.accepts ⟨addr, .erc20 (n.evm chain).usdc, amount⟩ = true) :
    ∃ s' r, Next n s s' ∧ s'.history = s.history ++ [.redemption r] ∧ r.key = k ∧ r.chain = chain ∧
      r.delivered = amount ∧
      (s'.evm chain).payouts =
        (s.evm chain).payouts ++ [⟨addr, .erc20 (n.evm chain).usdc, amount⟩] ∧
      ∀ a, (s'.evm chain).held a = (s.evm chain).held a := by
  have hhonest := h.inv.honest
  have hpeer : m.sender = (s.evm chain).storage.peers m.sourceChain :=
    hsent.trans (hhonest.evm chain hchain _ hregistered).symm
  -- the message names the recipient
  have hsms : Evm.parseSwapMessageStructure m.message = .ok ⟨addr, q.redeem.mode, q.redeem.sender,
      q.redeem.bytes, Evm.REDEEM_OFFSET, Evm.REDEEM_OFFSET + q.redeem.encode.length⟩ := by
    rw [hasks.message_eq.1, Request.message, Evm.parseSwapMessageStructure_encode, hrecipient,
      Evm.fromUniversalAddress_toUniversalAddress]
    rfl
  let msg : Evm.Msg (n.evm chain) := ⟨addr, 0, hself, hzero⟩
  obtain ⟨ret, w, hredeem, hpayouts, hheld, hstorage⟩ :=
    redeem_overridden msg hfill hpeer hwithin hsms rfl rfl rfl haccepts
  have hstep := Step.redeem s chain x msg usdcParams attestations ret w k m amount hchain hopen
    haddressed hamount hfill hredeem
  refine ⟨_, _, ⟨hstep, hhonest.of_peers (fun c => ?_) rfl⟩, rfl, rfl, rfl, ?_, ?_, ?_⟩
  · show (Function.update s.evm chain w c).storage.peers = _
    by_cases hc : c = chain
    · rw [hc, Function.update_self, hstorage]
    · rw [Function.update_of_ne hc]
  · rw [Redemption.delivered, hfill]
    rfl
  · show (Function.update s.evm chain w chain).payouts = _
    rw [Function.update_self, hpayouts]
    rfl
  · show ∀ a, (Function.update s.evm chain w chain).held a = _
    rwa [Function.update_self]

end Recipient

namespace Sample

open Evm.Sample (recipient)

/-- The 10 units that were sent to chain 3 are there for their recipient. -/
theorem tenUsdc_can_be_redeemed : ∃ s s' r, Reachable swapLayers s ∧ s.redemptions = [] ∧
    Next swapLayers s s' ∧ s'.history = s.history ++ [.redemption r] ∧ r.delivered = 10 ∧
    (s'.evm 3).payouts = (s.evm 3).payouts ++ [⟨recipient, .erc20 (swapLayers.evm 3).usdc, 10⟩] := by
  obtain ⟨s, hreach, hwire, hnone, hevm, hstorage, -⟩ := tenUsdc_sent
  have hopen : s.wire.Open 0 tenUsdcTransfer := by
    rw [hwire]
    exact ⟨List.mem_singleton_self _, by simp⟩
  obtain ⟨e, -, q, hasks⟩ := hreach.recorded.asked 0 tenUsdcTransfer hopen.posted rfl
  have hrecipient : q.recipient = Evm.toUniversalAddress recipient := by
    have hparsed : Evm.parseSwapMessageStructure q.message =
        .ok ⟨recipient, .direct, Evm.zeroBytes32, [], 34, 34⟩ := by
      rw [← hasks.message_eq.1]
      exact Evm.parseSwapMessageStructure_encode (Evm.toUniversalAddress recipient) .direct [0]
    rw [Request.message, Evm.parseSwapMessageStructure_encode] at hparsed
    obtain ⟨addr, haddr, hsms⟩ := except_map_ok.1 hparsed
    obtain rfl : addr = recipient := congrArg Evm.SwapMessageStructure.recipient hsms
    exact Evm.fromUniversalAddress_ok.1 haddr
  obtain ⟨s', r, hnext, hhistory, -, -, hdelivered, hpayouts, -⟩ :=
    recipient_can_redeem hreach 3 10 delivering [] hopen rfl ⟨rfl, rfl⟩ (by decide) hasks hrecipient
      (show recipient ≠ Evm.Sample.deployment.self by decide) (by decide) (by rw [hstorage]; decide)
      (by decide) rfl (by rw [hevm]; decide) rfl
  exact ⟨s, s', r, hreach, hnone, hnext, hhistory, hdelivered, hpayouts⟩

end Sample

end SwapLayer.Network
