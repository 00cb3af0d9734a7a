import SwapLayer.Bridge.RustToEvm
import SwapLayer.Solana.RelayFee

/-!
# Messages to the EVM chains

A message that the Solana program puts into an order against the parser of `redeem`.

`stage_outbound` accepts every recipient but zero, whatever the target chain;
`parseSwapMessageStructure` reads the recipient as a universal address, and reverts unless its upper
12 bytes are zero. Everything else that can be staged is parsed (`Bridge/RustToEvm`).

Results:
* `order_redeemable_iff`: the message of every order prepared from a staging is parsed iff the
  staged recipient is an EVM address.
* `relay_order_covered`: every order of a relay exceeds its fee, so that `redeem` can subtract it.
-/

namespace SwapLayer.Bridge

open ByteString Program Messages

/-! ## Orders of a staging -/

section Order

open Solana

/-- **The orders of a staging are redeemable iff its recipient is an EVM address.** In every run
from a successful `stage_outbound`, the message of an order that is prepared from it goes through
the parsing of `redeem`, to its end, iff the upper 12 bytes of the staged recipient are zero. -/
theorem order_redeemable_iff (dE : Evm.Deployment) {d : Deployment} {x : Externals}
    {a : StageOutbound} {args : StageOutboundArgs} {b b₀ : Bank}
    (h : stageOutbound d x a args b = .ok ((), b₀)) (is : List (Externals × Act)) :
    ∃ new, ordersOf d a.stagedOutbound (run (step d a.stagedOutbound) is b₀) =
        ordersOf d a.stagedOutbound b₀ ++ new ∧
      ∀ o ∈ new, ((∃ r, redeemParse dE o.redeemerMessage = .ok r) ↔
          Evm.upperBytesZero args.recipient = true) ∧
        ∃ m, SwapMessageV1.readSlice o.redeemerMessage = .ok m ∧
          ∀ r, redeemParse dE o.redeemerMessage = .ok r → ReadAs o.redeemerMessage m r.1 := by
  obtain ⟨g⟩ := stageOutbound_ok h
  obtain ⟨new, horders, -, hordered⟩ := ordered_run g is
  refine ⟨new, horders, fun o ho => ?_⟩
  obtain ⟨mode, -, hread⟩ := (hordered o ho).message
  obtain ⟨hiff, hwhole⟩ := redeemParse_readSlice dE hread
  exact ⟨hiff, _, hread, fun r hr => (hwhole r hr).toReadAs⟩

/-- The fee that `redeem` reads from the message of a relay. -/
theorem parseRelayParams_readSlice (dE : Evm.Deployment) {bs : List UInt8} {recipient : Fixed 32}
    {gasDropoff : Uint 4} {fee : Uint 6} {token : OutputToken} {sms : Evm.SwapMessageStructure}
    (h : SwapMessageV1.readSlice bs = .ok ⟨recipient, .relay gasDropoff fee, token⟩)
    (hsms : Evm.parseSwapMessageStructure bs = .ok sms) :
    sms.redeemMode = .relay ∧
      Evm.parseRelayParams bs sms.redeemOffset = (gasDropoff.val, fee.val, sms.swapOffset) := by
  have hread := readWholly_of_structure dE h hsms
  exact ⟨hread.mode, hread.relay hread.mode⟩

/-- **Relay orders always cover their fee.** In every run from a successful `stage_outbound` of a
relay, each order that is prepared from it carries more than the fee in its message; the fee fits in
48 bits and is within the maximum given at staging; a USDC staging that is not exact-in leaves the
staged amount after the fee. So a relayer who redeems the full amount does not underflow. -/
theorem relay_order_covered {d : Deployment} {x : Externals} {a : StageOutbound}
    {args : StageOutboundArgs} {b b₀ : Bank} (h : stageOutbound d x a args b = .ok ((), b₀))
    {gasDropoff : Uint 4} {maxRelayerFee : ℕ}
    (hoption : args.redeemOption = some (.relay gasDropoff maxRelayerFee))
    (is : List (Externals × Act)) :
    ∃ new, ordersOf d a.stagedOutbound (run (step d a.stagedOutbound) is b₀) =
        ordersOf d a.stagedOutbound b₀ ++ new ∧
      ∀ o ∈ new, ∃ r : RelayOrdered d a args gasDropoff maxRelayerFee o, r.fee.val < 2 ^ 48 ∧
        ∀ (dE : Evm.Deployment) (xE : Evm.Externals) (fill : Evm.Fill)
          (sms : Evm.SwapMessageStructure) (params : Evm.Bytes) (w : Evm.World),
          fill.message = o.redeemerMessage → fill.amount = o.amountIn →
          Evm.parseSwapMessageStructure fill.message = .ok sms → sms.redeemMode = .relay ∧
            Evm.relayForOthers dE xE fill sms params w ≠ .error (.panic Evm.PANIC_ARITHMETIC) := by
  obtain ⟨new, hnew, hall⟩ := relay_ordered_run h hoption is
  refine ⟨new, hnew, fun o ho => ?_⟩
  obtain ⟨r⟩ := hall o ho
  refine ⟨r, r.fee.isLt, fun dE xE fill sms params w hmessage hamount hsms => ?_⟩
  obtain ⟨hmode, hparams⟩ := parseRelayParams_readSlice dE r.message (hmessage ▸ hsms)
  refine ⟨hmode, Evm.relayForOthers_no_underflow ?_⟩
  rw [hmessage, hparams, hamount]
  exact Nat.le_of_lt r.covered

end Order

namespace Sample

open Solana Solana.Sample

/-- A recipient that is no EVM address. -/
def farRecipient : Pubkey := ⟨1 :: List.replicate 31 0, rfl⟩

/-- 100 USDC for this recipient. -/
def farArgs : StageOutboundArgs := { stagingArgs with recipient := farRecipient }

/-- It is staged and sent, and no EVM contract parses the message. -/
theorem farRecipient_stranded :
    ∃ b₀ b₁ o, stageOutbound deployment (externals .token) (staging .token usdc) farArgs
        (bank .token usdc) = .ok ((), b₀) ∧
      step deployment staged (externals .token, .transfer payer 2) b₀ = .ok b₁ ∧
      b₁.orders = [o] ∧ o.amountIn = 100 ∧
      ∀ dE, redeemParse dE o.redeemerMessage = .error (.external .universalAddress) := by
  have hrun : ((stageOutbound deployment (externals .token) (staging .token usdc) farArgs
      (bank .token usdc)).toOption.bind fun r =>
        (step deployment staged (externals .token, .transfer payer 2) r.2).toOption.map
          fun b₁ => b₁.orders) =
      some [⟨key 6, key 24, 100, 2, key 50, [1] ++ farRecipient.toList ++ [0, 0]⟩] := by
    decide +kernel
  obtain ⟨⟨u, b₀⟩, hstage, hrest⟩ := Option.bind_eq_some_iff.1 hrun
  obtain ⟨b₁, htransfer, horders⟩ := Option.map_eq_some_iff.1 hrest
  exact ⟨b₀, b₁, _, toOption_eq_some.1 hstage, toOption_eq_some.1 htransfer, horders, rfl,
    fun dE => rfl⟩

theorem mem_of_only {all old new : List MarketOrder} {o : MarketOrder} (horders : all = old ++ new)
    (hnone : old = []) (ho : all = [o]) : o ∈ new := by
  rw [hnone, List.nil_append] at horders
  rw [← horders, ho]
  exact List.mem_singleton.2 rfl

/-- A message for an EVM address goes through. -/
theorem usdc_redeemable :
    ∃ b₀ o, stageOutbound deployment (externals .token) (staging .token usdc) stagingArgs
        (bank .token usdc) = .ok ((), b₀) ∧
      ordersOf deployment staged (run (step deployment staged)
        [(externals .token, .transfer payer 2)] b₀) = [o] ∧
      ∀ dE, ∃ r, redeemParse dE o.redeemerMessage = .ok r := by
  have hrun : (stageOutbound deployment (externals .token) (staging .token usdc) stagingArgs
      (bank .token usdc)).toOption.map (fun r => (ordersOf deployment staged r.2,
        (ordersOf deployment staged (run (step deployment staged)
          [(externals .token, .transfer payer 2)] r.2)).length)) = some ([], 1) := by
    decide +kernel
  obtain ⟨⟨u, b₀⟩, hok, hrest⟩ := Option.map_eq_some_iff.1 hrun
  obtain ⟨hnone, hone⟩ := Prod.mk.inj hrest
  have hstage := toOption_eq_some.1 hok
  obtain ⟨o, ho⟩ := List.length_eq_one_iff.1 hone
  refine ⟨b₀, o, hstage, ho, fun dE => ?_⟩
  obtain ⟨new, horders, hnew⟩ :=
    order_redeemable_iff dE hstage [(externals .token, .transfer payer 2)]
  exact (hnew o (mem_of_only horders hnone ho)).1.2 (by decide)

/-- 100 USDC for the recipient, and the fee of a relayer on top. -/
def relayArgs : StageOutboundArgs :=
  { stagingArgs with
    isExactIn := false
    redeemOption := some (.relay (uintAt 4 [0, 0, 0, 5] 0) 1000) }

/-- The order carries both. -/
theorem relay_covered :
    ∃ b₀ o, stageOutbound deployment (externals .token) (staging .token usdc) relayArgs
        (bank .token usdc) = .ok ((), b₀) ∧
      ordersOf deployment staged (run (step deployment staged)
        [(externals .token, .transfer payer 2)] b₀) = [o] ∧ o.amountIn = 110 ∧
      ∃ r : RelayOrdered deployment (staging .token usdc) relayArgs (uintAt 4 [0, 0, 0, 5] 0) 1000 o,
        r.fee.val < 110 := by
  have hrun : (stageOutbound deployment (externals .token) (staging .token usdc) relayArgs
      (bank .token usdc)).toOption.map (fun r => (ordersOf deployment staged r.2,
        (ordersOf deployment staged (run (step deployment staged)
          [(externals .token, .transfer payer 2)] r.2)).map MarketOrder.amountIn)) =
        some ([], [110]) := by
    decide +kernel
  obtain ⟨⟨u, b₀⟩, hok, hrest⟩ := Option.map_eq_some_iff.1 hrun
  obtain ⟨hnone, hone⟩ := Prod.mk.inj hrest
  have hstage := toOption_eq_some.1 hok
  obtain ⟨o, ho, hamount⟩ := List.map_eq_singleton_iff.1 hone
  obtain ⟨new, horders, hnew⟩ :=
    relay_order_covered hstage rfl [(externals .token, .transfer payer 2)]
  obtain ⟨r, -, -⟩ := hnew o (mem_of_only horders hnone ho)
  exact ⟨b₀, o, hstage, ho, hamount, r, hamount ▸ r.covered⟩

end Sample

end SwapLayer.Bridge
