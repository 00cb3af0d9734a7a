import SwapLayer.Evm.Message
import SwapLayer.Evm.Swap

/-!
# `redeem`

Model of `evm/src/assets/SwapLayerRedeem.sol`: redeem the fill with the liquidity layer, check
where it comes from, parse the message, pay the relayer's fee, swap if the message or the
recipient asks for it, and pay the recipient.

The source is one function; its stages are separate definitions here, in the source's order:
`redeemPlan` decides who gets what (lines 57-84), `parseOutput` and `redeemOutput` parse the output
section and swap (lines 90-136), `payRecipient` makes the transfers (lines 140-151). Its arithmetic
is checked.

Results:
* `redeem_ok`: a call succeeds iff its stages do.
* `redeemPlan_ok`: what callers get through, and what each is allowed.
* `OutputSwap.swapOutput_eq`, `OutputSwap.swapOutput_ok`: what the output swap does.
* `payRecipient_payouts`, `payRecipient_moves`, `payRecipient_exists`: what the transfers do, and
  when they go through.
-/

namespace SwapLayer.Evm

open ByteString Program Ledger

/-- A relayer redeems for somebody else, who pays a fee. -/
def RelaysFor {d : Deployment} (msg : Msg d) (sms : SwapMessageStructure) : Prop :=
  sms.redeemMode = .relay ∧ msg.sender ≠ sms.recipient

instance {d : Deployment} (msg : Msg d) (sms : SwapMessageStructure) :
    Decidable (RelaysFor msg sms) :=
  inferInstanceAs (Decidable (_ ∧ _))

section Definitions

variable (d : Deployment) (x : Externals) (msg : Msg d)

/-- What a redemption pays to whom, before the output swap. -/
structure RedeemPlan where
  relayingFee : ℕ
  gasDropoff : ℕ
  usdcAmount : ℕ
  overrideMsg : Bool
  deriving DecidableEq

/-- A relayer redeems: the fee goes to the fee recipient, no extra parameters are allowed. -/
def relayForOthers (fill : Fill) (sms : SwapMessageStructure) (params : Bytes) :
    Contract RedeemPlan := do
  let (gasDropoff_, relayingFee, _) := parseRelayParams fill.message sms.redeemOffset
  let storage ← getStorage
  safeTransfer d x d.usdc storage.governance.feeRecipient relayingFee
  let usdcAmount ← lift (checkedSub fill.amount relayingFee)
  require (params.length = 0) .noExtraParamsAllowed
  return ⟨relayingFee, gasDropoffFrom gasDropoff_, usdcAmount, false⟩

/-- Any other redemption: only the recipient may override, or redeem a payload. -/
def redeemWithoutFee (fill : Fill) (sms : SwapMessageStructure) (params : Bytes) :
    Except Revert RedeemPlan :=
  if msg.sender = sms.recipient then .ok ⟨0, 0, fill.amount, 0 < params.length⟩
  else if sms.redeemMode = .payload then .error (.senderNotRecipient msg.sender sms.recipient)
  else if params.length ≠ 0 then .error .noExtraParamsAllowed
  else .ok ⟨0, 0, fill.amount, false⟩

def redeemPlan (fill : Fill) (sms : SwapMessageStructure) (params : Bytes) :
    Contract RedeemPlan :=
  if RelaysFor msg sms then relayForOthers d x fill sms params
  else lift (redeemWithoutFee d msg fill sms params)

/-- The swap that an output section asks for. -/
structure OutputSwap where
  tokenType : IoToken
  token : Address
  params : EvmSwapParams

/-- The output section, parsed; USDC needs no swap. `behind` stands in memory behind the string. -/
def parseOutputIn (behind swapParams : Bytes) (offset : ℕ) :
    Except Revert (Option OutputSwap × ℕ) := do
  let (outputTokenType, offset) ← parseIoToken (swapParams ++ behind) offset
  match outputTokenType with
  | .usdc => return (none, offset)
  | .gas =>
    let (p, offset) := parseEvmSwapParamsIn behind d.usdc d.wnative swapParams offset
    return (some ⟨.gas, d.wnative, p⟩, offset)
  | .other =>
    -- skips the 12 upper bytes of the universal address
    let (outputToken, offset) :=
      parseIERC20 (swapParams ++ behind) (offset + (UNIVERSAL_ADDRESS_SIZE - ADDRESS_SIZE))
    let (p, offset) := parseEvmSwapParamsIn behind d.usdc outputToken swapParams offset
    return (some ⟨.other, outputToken, p⟩, offset)

/-- The output section, with zeros behind the string. -/
def parseOutput : Bytes → ℕ → Except Revert (Option OutputSwap × ℕ) := parseOutputIn d []

theorem parseOutput_eq (swapParams : Bytes) (offset : ℕ) :
    parseOutput d swapParams offset = do
      let (outputTokenType, offset) ← parseIoToken swapParams offset
      match outputTokenType with
      | .usdc => return (none, offset)
      | .gas =>
        let (p, offset) := parseEvmSwapParams d.usdc d.wnative swapParams offset
        return (some ⟨.gas, d.wnative, p⟩, offset)
      | .other =>
        let (outputToken, offset) :=
          parseIERC20 swapParams (offset + (UNIVERSAL_ADDRESS_SIZE - ADDRESS_SIZE))
        let (p, offset) := parseEvmSwapParams d.usdc outputToken swapParams offset
        return (some ⟨.other, outputToken, p⟩, offset) := by
  rw [parseOutput, parseOutputIn, List.append_nil]
  rfl

/-- The output of a redemption: token kind, token and amount. -/
structure Output where
  tokenType : IoToken
  token : Address
  amount : ℕ
  deriving DecidableEq

/-- The swap of the USDC; the amount zero means that it failed, and USDC is paid. -/
def swapOutput (s : OutputSwap) (usdcAmount : ℕ) : Contract Output := do
  let outputAmount ← swap d x s.params.swapType true usdcAmount s.params.outputAmount d.usdc s.token
    false false s.params.deadline s.params.path
  return if outputAmount = 0 then ⟨.usdc, d.usdc, usdcAmount⟩
    else ⟨s.tokenType, s.token, outputAmount⟩

def redeemOutput (s : Option OutputSwap) (usdcAmount : ℕ) : Contract Output :=
  match s with
  | none => pure ⟨.usdc, d.usdc, usdcAmount⟩
  | some s => swapOutput d x s usdcAmount

/-- The gas dropoff, if there is one. -/
def payGasDropoff (recipient : Address) (gasDropoff : ℕ) : Contract Unit :=
  if gasDropoff > 0 then transferEth d x recipient gasDropoff else pure ()

/-- The transfers to the recipient; the token and amount that are reported. -/
def payRecipient (recipient : Address) (output : Output) (gasDropoff : ℕ) :
    Contract (Address × ℕ) :=
  if output.tokenType = .gas then do
    wnativeWithdraw d x output.amount
    let outputAmount ← lift (checkedAdd output.amount gasDropoff)
    transferEth d x recipient outputAmount
    return (zeroAddress, outputAmount)
  else do
    payGasDropoff d x recipient gasDropoff
    safeTransfer d x output.token recipient output.amount
    return (output.token, output.amount)

/-- `_liquidityLayer.redeemFill(attestations)`: the fill's USDC arrives. -/
def redeemFill (attestations : Bytes) : Contract Fill :=
  match x.redeemFill attestations with
  | none => fail (.external .liquidityLayer)
  | some fill => do
    receive x (.erc20 d.usdc) fill.amount .liquidityLayer
    return fill

/-- `abi.encode` of the result. -/
def encodeRedeemResult (sms : SwapMessageStructure) (outputToken : Address) (outputAmount : ℕ) :
    Bytes :=
  let head := (toUniversalAddress outputToken).toList ++ toBE 32 outputAmount
  match sms.redeemMode with
  | .payload => head ++ sms.sender.toList ++ toBE 32 (4 * 32) ++ toBE 32 sms.payload.length ++
      sms.payload ++ List.replicate ((32 - sms.payload.length % 32) % 32) 0
  | _ => head

/-- Where the output section stands: in the message, or in the extra parameters. -/
def outputSection (fill : Fill) (sms : SwapMessageStructure) (params : Bytes)
    (overrideMsg : Bool) : Bytes × ℕ :=
  if overrideMsg then (params, 0) else (fill.message, sms.swapOffset)

/-- `redeem`, where `memory` gives what stands in memory behind a byte string: the reads of
`fill.message` and of `params` are unchecked. -/
def redeemIn (memory : Bytes → Bytes) (params attestations : Bytes) : Contract Bytes := do
  receive x .eth msg.value .token
  let fill ← redeemFill d x attestations
  let storage ← getStorage
  let expectedPeer := storage.peers fill.senderChain
  require (fill.sender = expectedPeer) (.invalidPeer fill.senderChain fill.sender expectedPeer)
  let seen := { fill with message := fill.message ++ memory fill.message }
  let sms ← lift (parseSwapMessageStructure seen.message)
  let plan ← redeemPlan d x msg seen sms params
  require (msg.value = plan.gasDropoff) (.invalidMsgValue msg.value plan.gasDropoff)
  let (swapParams, offset) := outputSection fill sms params plan.overrideMsg
  let (s, offset) ← lift (parseOutputIn d (memory swapParams) swapParams offset)
  let output ← redeemOutput d x s plan.usdcAmount
  lift (checkLength swapParams offset)
  let (outputToken, outputAmount) ← payRecipient d x sms.recipient output plan.gasDropoff
  emit (.redeemed sms.recipient outputToken outputAmount plan.relayingFee)
  return encodeRedeemResult sms outputToken outputAmount

/-- `redeem`, with zeros behind every byte string. -/
def redeem : Bytes → Bytes → Contract Bytes := redeemIn d x msg fun _ => []

end Definitions

/-! ## What was paid -/

/-- The total of some payouts in one asset. -/
def totalOf (ps : List Payout) (a : Asset) : ℕ :=
  (ps.map fun p => (Pi.single p.asset p.amount : Asset → ℕ) a).sum

@[simp] theorem totalOf_nil (a : Asset) : totalOf [] a = 0 := rfl

@[simp] theorem totalOf_cons (p : Payout) (ps : List Payout) (a : Asset) :
    totalOf (p :: ps) a = (Pi.single p.asset p.amount : Asset → ℕ) a + totalOf ps a := by
  simp [totalOf]

@[simp] theorem totalOf_append (ps qs : List Payout) (a : Asset) :
    totalOf (ps ++ qs) a = totalOf ps a + totalOf qs a := by
  simp [totalOf]

theorem payouts_record_payout (w : World) (p : Payout) :
    (w.record (.payout p)).payouts = w.payouts ++ [p] := by
  simp [World.payouts]

/-- The asset in which an output reaches the recipient. -/
def Output.asset (o : Output) : Asset :=
  if o.tokenType = .gas then .eth else .erc20 o.token

section Paying

variable {d : Deployment} {x : Externals} {w w' : World} {recipient : Address}

theorem payOut_payouts {p : Payout} {error : Revert} {u : Unit}
    (h : payOut d x p error w = .ok (u, w')) : w'.payouts = w.payouts ++ [p] := by
  obtain ⟨-, -, rfl⟩ := payOut_ok.1 h
  rw [payouts_record_payout]
  rfl

/-- A transfer touches no other asset. -/
theorem payOut_held_other {p : Payout} {error : Revert} {u : Unit} {a : Asset} (hne : a ≠ p.asset)
    (h : payOut d x p error w = .ok (u, w')) : w'.held a = w.held a := by
  obtain ⟨-, -, rfl⟩ := payOut_ok.1 h
  rw [World.record_held, World.withHeld_held]
  split
  · rfl
  · exact debit_other _ hne _

/-- The gas dropoff is paid to the recipient, and nothing happens if there is none. -/
theorem payGasDropoff_payouts {gasDropoff : ℕ} {u : Unit}
    (h : payGasDropoff d x recipient gasDropoff w = .ok (u, w')) :
    ∃ ps, w'.payouts = w.payouts ++ ps ∧ (∀ p ∈ ps, p.recipient = recipient) ∧
      (∀ a, totalOf ps a = (Pi.single .eth gasDropoff : Asset → ℕ) a) ∧
      ∀ token, w'.held (.erc20 token) = w.held (.erc20 token) := by
  unfold payGasDropoff at h
  split at h
  · exact ⟨[⟨recipient, .eth, gasDropoff⟩], payOut_payouts h, by simp, by simp,
      fun token => payOut_held_other (by simp) h⟩
  · rename_i hz
    obtain ⟨-, rfl⟩ := pure_ok.1 h
    have hzero : gasDropoff = 0 := by omega
    subst hzero
    exact ⟨[], by simp, by simp, by simp, fun _ => rfl⟩

/-- It leaves the contract unless the recipient is the contract. -/
theorem payGasDropoff_moves {gasDropoff : ℕ} {u : Unit} (hne : recipient ≠ d.self)
    (h : payGasDropoff d x recipient gasDropoff w = .ok (u, w')) :
    Moves w.held w'.held 0 (Pi.single .eth gasDropoff) := by
  unfold payGasDropoff at h
  split at h
  · exact payOut_moves hne h
  · rename_i hz
    obtain ⟨-, rfl⟩ := pure_ok.1 h
    have hzero : gasDropoff = 0 := by omega
    subst hzero
    intro a
    simp

/-- **What is paid to the recipient**: the output in its asset and the gas dropoff. -/
theorem payRecipient_payouts {output : Output} {gasDropoff : ℕ} {r : Address × ℕ}
    (h : payRecipient d x recipient output gasDropoff w = .ok (r, w')) :
    ∃ ps, w'.payouts = w.payouts ++ ps ∧ (∀ p ∈ ps, p.recipient = recipient) ∧
      (∀ a, totalOf ps a = (Pi.single output.asset output.amount : Asset → ℕ) a +
        (Pi.single .eth gasDropoff : Asset → ℕ) a) ∧
      (output.tokenType = .gas → output.amount + gasDropoff < 2 ^ 256) := by
  unfold payRecipient at h
  split at h
  · rename_i hkind
    obtain ⟨_, w₁, hwithdraw, h₁⟩ := bind_ok.1 h
    obtain ⟨-, rfl⟩ := wnativeWithdraw_ok.1 hwithdraw
    obtain ⟨total, w₂, hlift, h₂⟩ := bind_ok.1 h₁
    obtain ⟨hadd, rfl⟩ := lift_ok.1 hlift
    obtain ⟨hlt, rfl⟩ := checkedAdd_ok.1 hadd
    obtain ⟨_, w₃, hsend, hret⟩ := bind_ok.1 h₂
    obtain ⟨-, rfl⟩ := pure_ok.1 hret
    have hpayouts := payOut_payouts hsend
    refine ⟨[⟨recipient, .eth, output.amount + gasDropoff⟩], hpayouts, by simp, fun a => ?_,
      fun _ => hlt⟩
    simp only [totalOf_cons, totalOf_nil, Output.asset, if_pos hkind, single_add_apply]
    omega
  · rename_i hkind
    obtain ⟨_, w₁, hdrop, h₁⟩ := bind_ok.1 h
    obtain ⟨ps, hps, hto, htotal, -⟩ := payGasDropoff_payouts hdrop
    obtain ⟨_, w₂, hsend, hret⟩ := bind_ok.1 h₁
    obtain ⟨-, rfl⟩ := pure_ok.1 hret
    refine ⟨ps ++ [⟨recipient, .erc20 output.token, output.amount⟩], ?_, ?_, fun a => ?_,
      fun h => absurd h hkind⟩
    · rw [payOut_payouts hsend, hps, List.append_assoc]
    · intro p hp
      rcases List.mem_append.1 hp with hp | hp
      · exact hto p hp
      · rw [List.mem_singleton.1 hp]
    · have := htotal a
      simp only [totalOf, List.map_append, List.sum_append, List.map_cons, List.map_nil,
        List.sum_cons, List.sum_nil, Output.asset, if_neg hkind] at this ⊢
      omega

/-- **What leaves the contract** for a recipient that is not the contract: the output token and
the gas dropoff. -/
theorem payRecipient_moves {output : Output} {gasDropoff : ℕ} {r : Address × ℕ}
    (hne : recipient ≠ d.self) (hgas : output.tokenType = .gas → output.token = d.wnative)
    (h : payRecipient d x recipient output gasDropoff w = .ok (r, w')) :
    Moves w.held w'.held 0
      (Pi.single (.erc20 output.token) output.amount + Pi.single .eth gasDropoff) := by
  unfold payRecipient at h
  split at h
  · rename_i hkind
    obtain ⟨_, w₁, hwithdraw, h₁⟩ := bind_ok.1 h
    obtain ⟨hle, rfl⟩ := wnativeWithdraw_ok.1 hwithdraw
    obtain ⟨total, w₂, hlift, h₂⟩ := bind_ok.1 h₁
    obtain ⟨hadd, rfl⟩ := lift_ok.1 hlift
    obtain ⟨-, rfl⟩ := checkedAdd_ok.1 hadd
    obtain ⟨_, w₃, hsend, hret⟩ := bind_ok.1 h₂
    obtain ⟨-, rfl⟩ := pure_ok.1 hret
    intro a
    have h₁ := payOut_moves hne hsend a
    have h₂ := debit_add_apply hle a
    rw [World.withHeld_held, credit_apply] at h₁
    simp only [Pi.zero_apply, Pi.add_apply, single_add_apply, hgas hkind] at h₁ h₂ ⊢
    omega
  · obtain ⟨_, w₁, hdrop, h₁⟩ := bind_ok.1 h
    obtain ⟨_, w₂, hsend, hret⟩ := bind_ok.1 h₁
    obtain ⟨-, rfl⟩ := pure_ok.1 hret
    intro a
    have h₁ := payGasDropoff_moves hne hdrop a
    have h₂ := payOut_moves hne hsend a
    simp only [Pi.zero_apply, Pi.add_apply] at h₁ h₂ ⊢
    omega

/-- A transfer goes through when the balance covers it and the other side accepts it. -/
theorem payOut_exists {p : Payout} (error : Revert) (hacc : x.accepts p = true)
    (hle : p.amount ≤ w.held p.asset) : ∃ w', payOut d x p error w = .ok ((), w') :=
  ⟨_, payOut_ok.2 ⟨hle, hacc, rfl⟩⟩

/-- **Paying the recipient goes through** when the contract holds enough. -/
theorem payRecipient_exists {output : Output} (gasDropoff : ℕ)
    (hacc : ∀ p, x.accepts p = true)
    (hgas : output.tokenType = .gas → output.token = d.wnative)
    (htoken : output.amount ≤ w.held (.erc20 output.token)) (heth : gasDropoff ≤ w.held .eth)
    (hsum : output.tokenType = .gas → output.amount + gasDropoff < 2 ^ 256) :
    ∃ r w', payRecipient d x recipient output gasDropoff w = .ok (r, w') := by
  unfold payRecipient
  split
  · rename_i hkind
    have hw : wnativeWithdraw d x output.amount w = .ok ((), w.withHeld
        (credit (debit w.held (.erc20 d.wnative) output.amount) .eth output.amount)) :=
      wnativeWithdraw_ok.2 ⟨hgas hkind ▸ htoken, rfl⟩
    have hheld : output.amount + gasDropoff ≤ credit (debit w.held (.erc20 d.wnative)
        output.amount) .eth output.amount .eth := by
      rw [credit_self, debit_other _ (by simp)]
      omega
    have hsend := payOut_exists (d := d) (x := x)
      (w := w.withHeld (credit (debit w.held (.erc20 d.wnative) output.amount) .eth output.amount))
      (p := ⟨recipient, .eth, output.amount + gasDropoff⟩) Revert.ethTransferFailed
      (hacc _) hheld
    obtain ⟨w₁, hsend⟩ := hsend
    exact ⟨_, _, bind_ok.2 ⟨(), _, hw, bind_ok.2 ⟨_, _, lift_ok.2 ⟨checkedAdd_ok.2 ⟨hsum hkind, rfl⟩,
      rfl⟩, bind_ok.2 ⟨(), w₁, hsend, rfl⟩⟩⟩⟩
  · have hdrop : ∃ w₁, payGasDropoff d x recipient gasDropoff w = .ok ((), w₁) := by
      unfold payGasDropoff
      split
      · exact payOut_exists _ (hacc _) heth
      · exact ⟨w, rfl⟩
    obtain ⟨w₁, hdrop⟩ := hdrop
    obtain ⟨_, -, -, -, hkept⟩ := payGasDropoff_payouts hdrop
    have hleft : output.amount ≤ w₁.held (.erc20 output.token) := hkept output.token ▸ htoken
    have hsend := payOut_exists (d := d)
      (p := ⟨recipient, .erc20 output.token, output.amount⟩) (.external .token) (hacc _) hleft
    obtain ⟨w₂, hsend⟩ := hsend
    exact ⟨_, _, bind_ok.2 ⟨(), w₁, hdrop, bind_ok.2 ⟨(), w₂, hsend, rfl⟩⟩⟩

end Paying

/-! ## The output swap -/

section OutputSwap

namespace OutputSwap

variable (s : OutputSwap) (d : Deployment) (x : Externals)

/-- The deadline has passed. -/
def Expired : Prop := s.params.deadline ≠ 0 ∧ s.params.deadline < x.blockTimestamp

/-- The swap reverts although failures are let pass: Uniswap's output is measured in a token that
does not answer, or the missing TraderJoe router returned nothing to decode. -/
def Reverts : Prop :=
  ¬s.Expired x ∧ ((s.params.swapType = SWAP_TYPE_UNISWAPV3 ∧ x.isToken s.token = false) ∨
    (s.params.swapType = SWAP_TYPE_TRADERJOE ∧ x.hasCode d.traderJoeRouter = false))

/-- How a router executes the output swap, if one does. -/
def execution (usdcAmount : ℕ) (held : Asset → ℕ) : Option RouterReply :=
  if RouterDeployed d x s.params.swapType then
    Evm.execution d x s.params.swapType true usdcAmount s.params.outputAmount d.usdc s.token
      s.params.deadline s.params.path held
  else none

/-- A Uniswap swap from USDC to USDC: its balance difference mixes input and output. -/
def Mixed : Prop := s.params.swapType = SWAP_TYPE_UNISWAPV3 ∧ d.usdc = s.token

instance : Decidable (s.Mixed d) := inferInstanceAs (Decidable (_ ∧ _))

/-- The output of a swap as it is measured. -/
def measured (r : RouterReply) : ℕ := Evm.measured s.params.swapType true d.usdc s.token r

/-- What is paid out after the swap; an output measured as zero counts as no swap. -/
def outputOf (usdcAmount : ℕ) : Option RouterReply → Output
  | none => ⟨.usdc, d.usdc, usdcAmount⟩
  | some r =>
    if s.measured d r = 0 then ⟨.usdc, d.usdc, usdcAmount⟩ else ⟨s.tokenType, s.token, s.measured d r⟩

theorem outputOf_some (usdcAmount : ℕ) (r : RouterReply) :
    s.outputOf d usdcAmount (some r) =
      if s.measured d r = 0 then ⟨.usdc, d.usdc, usdcAmount⟩
      else ⟨s.tokenType, s.token, s.measured d r⟩ := rfl

/-- The holdings after the swap. -/
def heldAfter (held : Asset → ℕ) : Option RouterReply → Asset → ℕ
  | none => held
  | some r => settled d.usdc s.token r held

/-- The shape of the swaps that `parseOutput` returns: a path from USDC to the output token, which
for gas is the wrapped native token. -/
structure WellFormed : Prop where
  path : IsEvmSwapType s.params.swapType → IsSwapPath d.usdc s.token s.params.path
  gas : s.tokenType = .gas → s.token = d.wnative
  not_usdc : s.tokenType ≠ .usdc

end OutputSwap

variable {d : Deployment} {x : Externals} {w w' : World} {usdcAmount : ℕ} {s : OutputSwap}

theorem parseOutput_wellFormed {params : Bytes} {offset o : ℕ}
    (h : parseOutput d params offset = .ok (some s, o)) : s.WellFormed d := by
  rw [parseOutput_eq] at h
  obtain ⟨⟨t, o₁⟩, -, h⟩ := except_bind_ok.1 h
  cases t with
  | usdc => cases h
  | gas =>
    cases h
    exact ⟨parseEvmSwapParams_path _ _ _ _, fun _ => rfl, by simp⟩
  | other =>
    cases h
    exact ⟨parseEvmSwapParams_path _ _ _ _, fun h => (by cases h), by simp⟩

theorem settled_zero (tokenIn tokenOut : Address) (held : Asset → ℕ) :
    settled tokenIn tokenOut ⟨0, 0⟩ held = held := by
  funext a
  simp [settled, credit, debit]

/-- Without a Uniswap router the call succeeds and does nothing. -/
theorem uniswapSwap_undeployed {outputAmount : ℕ} {outputToken : Address} {path : Bytes}
    (hnone : x.hasCode d.uniswapRouter = false) (hp : IsSwapPath d.usdc outputToken path)
    (htoken : x.isToken outputToken = true) :
    uniswapSwap d x true usdcAmount outputAmount d.usdc outputToken false false path w =
      .ok (0, w) := by
  obtain ⟨c, hreq⟩ := uniswapRequest_exists d true usdcAmount outputAmount hp
  have hreply : uniswapReply d x c = .ok ⟨0, 0⟩ := if_pos hnone
  cases h : outcome x d.usdc outputToken id w.held (uniswapReply d x c) with
  | error reason => exact uniswapSwap_of_error hp htoken hreq h
  | ok r =>
    have hr : r = ⟨0, 0⟩ := by
      have := (outcome_ok.1 h).1
      rw [hreply] at this
      exact (Except.ok.inj this).symm
    subst hr
    rw [uniswapSwap_of_ok hp (by simp) htoken hreq h, settled_zero]
    simp only [Evm.measured, uncheckedSub_self, ite_self]
    rfl

/-- Without a TraderJoe router there is nothing to decode. -/
theorem traderJoeSwap_undeployed {outputAmount : ℕ} {outputToken : Address} {path : Bytes}
    (hnone : x.hasCode d.traderJoeRouter = false) (hp : IsSwapPath d.usdc outputToken path) :
    traderJoeSwap d x true usdcAmount outputAmount d.usdc outputToken false false path w =
      .error (.external .router) := by
  obtain ⟨hin, hout⟩ := traderJoeRequest_tokens d x true usdcAmount outputAmount hp
  have hreply : traderJoeReply d x (traderJoeRequest d x true usdcAmount outputAmount path) =
      .ok ⟨⟨0, 0⟩, none⟩ := if_pos hnone
  have hcheck : traderJoeApproveCheck d x false d.usdc usdcAmount w = .ok ((), w) := by
    simp [traderJoeApproveCheck, pure_apply]
  simp only [traderJoeSwap, bind_apply, hcheck, except_ok_bind, callTraderJoe, hin, hout, hreply,
    outcome, Feasible, Nat.zero_le, true_and, true_or, reduceIte]
  rfl

namespace OutputSwap

/-- **The output swap goes through** unless it is one that reverts: it settles what the router did
and yields the measured output, or leaves everything and yields the USDC. -/
theorem swapOutput_eq (hs : s.WellFormed d) (hamount : usdcAmount < 2 ^ 256)
    (hr : RoutersHonour d x)
    (hno : ¬s.Reverts d x) :
    swapOutput d x s usdcAmount w = .ok (s.outputOf d usdcAmount (s.execution d x usdcAmount w.held),
      w.withHeld (s.heldAfter d w.held (s.execution d x usdcAmount w.held))) := by
  have htoken (hu : s.params.swapType = SWAP_TYPE_UNISWAPV3) (hd : ¬s.Expired x) :
      x.isToken (measuredToken true d.usdc s.token) = true := by
    by_contra hf
    exact hno ⟨hd, .inl ⟨hu, by simpa [measuredToken] using hf⟩⟩
  unfold swapOutput
  rw [bind_apply]
  by_cases hdep : RouterDeployed d x s.params.swapType
  · rw [OutputSwap.execution, if_pos hdep]
    cases hex : Evm.execution d x s.params.swapType true usdcAmount s.params.outputAmount d.usdc
        s.token s.params.deadline s.params.path w.held with
    | none =>
      obtain ⟨e, he⟩ := swap_of_no_execution false hs.path htoken hex
      rw [he]
      rfl
    | some r =>
      rw [swap_of_execution (hr _) hdep.2 hs.path htoken hamount hex]
      rfl
  · rw [OutputSwap.execution, if_neg hdep]
    have hzero : swap d x s.params.swapType true usdcAmount s.params.outputAmount d.usdc s.token
        false false s.params.deadline s.params.path w = .ok (0, w) := by
      unfold swap
      by_cases hd : s.params.deadline ≠ 0 ∧ s.params.deadline < x.blockTimestamp
      · rw [if_pos hd]
        rfl
      rw [if_neg hd]
      by_cases hu : s.params.swapType = SWAP_TYPE_UNISWAPV3
      · rw [if_pos hu]
        refine uniswapSwap_undeployed (Bool.eq_false_iff.2 fun hcode => ?_) (hs.path (.inl hu))
          (htoken hu hd)
        exact hdep ⟨fun _ => hcode, fun ht => by rw [hu] at ht; cases ht⟩
      · rw [if_neg hu]
        by_cases ht : s.params.swapType = SWAP_TYPE_TRADERJOE
        · refine absurd ⟨hd, .inr ⟨ht, Bool.eq_false_iff.2 fun hcode => ?_⟩⟩ hno
          exact hdep ⟨fun h => absurd h hu, fun _ => hcode⟩
        · exact absurd ⟨fun h => absurd h hu, fun h => absurd h ht⟩ hdep
    rw [hzero]
    rfl

/-- **What a completed output swap did**: as in `swapOutput_eq`, and it is not one that reverts. -/
theorem swapOutput_ok {output : Output} (hs : s.WellFormed d) (hamount : usdcAmount < 2 ^ 256)
    (hr : RoutersHonour d x)
    (h : swapOutput d x s usdcAmount w = .ok (output, w')) :
    output = s.outputOf d usdcAmount (s.execution d x usdcAmount w.held) ∧
      w' = w.withHeld (s.heldAfter d w.held (s.execution d x usdcAmount w.held)) ∧
      ¬s.Reverts d x := by
  by_cases hno : s.Reverts d x
  · obtain ⟨hd, hcase⟩ := hno
    obtain ⟨n, w₁, hswap, -⟩ := bind_ok.1 h
    rcases hcase with ⟨hu, hf⟩ | ⟨ht, hnone⟩
    · rw [hu] at hswap
      have htoken : x.isToken s.token = true := swap_isToken hswap hd
      rw [hf] at htoken
      cases htoken
    · have hne : ¬s.params.swapType = SWAP_TYPE_UNISWAPV3 := by rw [ht]; decide
      have hopen : ¬(s.params.deadline ≠ 0 ∧ s.params.deadline < x.blockTimestamp) := hd
      rw [swap, if_neg hopen, if_neg hne, if_pos ht,
        traderJoeSwap_undeployed hnone (hs.path (.inr ht))] at hswap
      cases hswap
  · rw [swapOutput_eq hs hamount hr hno] at h
    cases h
    exact ⟨rfl, rfl, hno⟩

end OutputSwap

end OutputSwap

/-! ## A successful call, taken apart -/

section Success

variable {d : Deployment} {x : Externals} {msg : Msg d} {w w' : World} {fill : Fill}
  {sms : SwapMessageStructure} {params attestations : Bytes}

/-- The encoded gas dropoff, the encoded relaying fee and the offset behind. -/
abbrev relayParams (fill : Fill) (sms : SwapMessageStructure) : ℕ × ℕ × ℕ :=
  parseRelayParams fill.message sms.redeemOffset

theorem redeemWithoutFee_ok {plan : RedeemPlan} :
    redeemWithoutFee d msg fill sms params = .ok plan ↔
      (msg.sender = sms.recipient ∨ (sms.redeemMode ≠ .payload ∧ params = [])) ∧
        plan = ⟨0, 0, fill.amount, msg.sender = sms.recipient ∧ params ≠ []⟩ := by
  unfold redeemWithoutFee
  by_cases hself : msg.sender = sms.recipient
  · simp only [hself, reduceIte, true_or, true_and, Except.ok.injEq, List.length_pos_iff]
    exact eq_comm
  · simp only [hself, reduceIte, false_or, false_and, decide_false]
    by_cases hpayload : sms.redeemMode = .payload
    · simp [hpayload]
    · by_cases hempty : params = []
      · simp only [hpayload, hempty, reduceIte, List.length_nil, ne_eq, not_true_eq_false,
          not_false_eq_true, true_and, Except.ok.injEq]
        exact eq_comm
      · simp [hpayload, hempty]

/-- A relayer does not underflow where the fill covers the fee. -/
theorem relayForOthers_no_underflow {d : Deployment} {x : Externals} {fill : Fill}
    {sms : SwapMessageStructure} {params : Bytes} {w : World}
    (hfee : (parseRelayParams fill.message sms.redeemOffset).2.1 ≤ fill.amount) :
    relayForOthers d x fill sms params w ≠ .error (.panic PANIC_ARITHMETIC) := by
  intro h
  obtain hget | ⟨storage, w₀, hget, h₁⟩ := bind_error.1 h
  · cases hget
  cases hget
  obtain hpay | ⟨_, w₁, -, h₂⟩ := bind_error.1 h₁
  · unfold safeTransfer payOut at hpay
    split at hpay <;> cases hpay
  obtain hsub | ⟨amount, w₂, -, h₃⟩ := bind_error.1 h₂
  · cases hsub.symm.trans (lift_ok.2 ⟨checkedSub_ok.2 ⟨hfee, rfl⟩, rfl⟩)
  obtain hempty | ⟨_, w₃, -, hret⟩ := bind_error.1 h₃
  · unfold require at hempty
    split at hempty <;> cases hempty
  · cases hret

/-- **The plan of a redemption**: a relayer is paid its fee and brings the gas dropoff; anybody else
pays no fee, and only the recipient may bring parameters or redeem a payload. -/
theorem redeemPlan_ok {plan : RedeemPlan} :
    redeemPlan d x msg fill sms params w = .ok (plan, w') ↔
      if RelaysFor msg sms then
        safeTransfer d x d.usdc w.storage.governance.feeRecipient (relayParams fill sms).2.1 w =
            .ok ((), w') ∧
          (relayParams fill sms).2.1 ≤ fill.amount ∧ params = [] ∧
          plan = ⟨(relayParams fill sms).2.1, gasDropoffFrom (relayParams fill sms).1,
            fill.amount - (relayParams fill sms).2.1, false⟩
      else
        w' = w ∧ (msg.sender = sms.recipient ∨ (sms.redeemMode ≠ .payload ∧ params = [])) ∧
          plan = ⟨0, 0, fill.amount, msg.sender = sms.recipient ∧ params ≠ []⟩ := by
  unfold redeemPlan
  by_cases hrelay : RelaysFor msg sms
  · rw [if_pos hrelay, if_pos hrelay, relayForOthers, bind_ok]
    constructor
    · rintro ⟨storage, w₀, hget, h₁⟩
      cases hget
      obtain ⟨_, w₁, hpay, h₂⟩ := bind_ok.1 h₁
      obtain ⟨usdcAmount, w₂, hlift, h₃⟩ := bind_ok.1 h₂
      obtain ⟨hsub, rfl⟩ := lift_ok.1 hlift
      obtain ⟨hle, rfl⟩ := checkedSub_ok.1 hsub
      obtain ⟨_, w₃, hreq, hret⟩ := bind_ok.1 h₃
      obtain ⟨hempty, rfl⟩ := require_ok.1 hreq
      obtain ⟨rfl, rfl⟩ := pure_ok.1 hret
      exact ⟨hpay, hle, List.length_eq_zero_iff.1 hempty, rfl⟩
    · rintro ⟨hpay, hle, rfl, rfl⟩
      exact ⟨w.storage, w, rfl, bind_ok.2 ⟨(), w', hpay, bind_ok.2 ⟨_, w',
        lift_ok.2 ⟨checkedSub_ok.2 ⟨hle, rfl⟩, rfl⟩, bind_ok.2 ⟨(), w', require_ok.2 ⟨rfl, rfl⟩,
        rfl⟩⟩⟩⟩
  · rw [if_neg hrelay, if_neg hrelay, lift_ok, redeemWithoutFee_ok]
    exact ⟨fun ⟨h, hw⟩ => ⟨hw, h⟩, fun ⟨hw, h⟩ => ⟨h, hw⟩⟩

/-- The state after the attached ETH and the fill's USDC have arrived. -/
def filled (d : Deployment) (msg : Msg d) (fill : Fill) (w : World) : World :=
  w.withHeld (credit (credit w.held .eth msg.value) (.erc20 d.usdc) fill.amount)

/-- The stages of a successful call. -/
structure Redeemed (d : Deployment) (x : Externals) (msg : Msg d) (params attestations : Bytes)
    (w : World) where
  fill : Fill
  sms : SwapMessageStructure
  plan : RedeemPlan
  planned : World
  output : Option OutputSwap
  offset : ℕ
  paid : Output
  swapped : World
  reported : Address × ℕ
  finished : World
  delivered : x.redeemFill attestations = some fill
  within : w.held (.erc20 d.usdc) + fill.amount ≤ x.supply d.usdc
  peer : fill.sender = w.storage.peers fill.senderChain
  parsed : parseSwapMessageStructure fill.message = .ok sms
  planOk : redeemPlan d x msg fill sms params (filled d msg fill w) = .ok (plan, planned)
  value : msg.value = plan.gasDropoff
  outputOk : parseOutput d (outputSection fill sms params plan.overrideMsg).1
    (outputSection fill sms params plan.overrideMsg).2 = .ok (output, offset)
  swapOk : redeemOutput d x output plan.usdcAmount planned = .ok (paid, swapped)
  consumed : checkLength (outputSection fill sms params plan.overrideMsg).1 offset = .ok ()
  payOk : payRecipient d x sms.recipient paid plan.gasDropoff swapped = .ok (reported, finished)

namespace Redeemed

variable (r : Redeemed d x msg params attestations w)

/-- The state the call leaves. -/
def result : World :=
  r.finished.record
    (.redeemed r.sms.recipient r.reported.1 r.reported.2 r.plan.relayingFee)

/-- What the call returns. -/
def ret : Bytes := encodeRedeemResult r.sms r.reported.1 r.reported.2

end Redeemed

theorem redeemFill_ok :
    redeemFill d x attestations w = .ok (fill, w') ↔
      x.redeemFill attestations = some fill ∧
        w.held (.erc20 d.usdc) + fill.amount ≤ x.supply d.usdc ∧
        w' = w.withHeld (credit w.held (.erc20 d.usdc) fill.amount) := by
  unfold redeemFill
  cases hfill : x.redeemFill attestations with
  | none => exact ⟨fun h => (by cases h), fun ⟨h, _⟩ => (by cases h)⟩
  | some fill' =>
    simp only [Option.some.injEq]
    rw [bind_ok]
    constructor
    · rintro ⟨_, w₁, hrec, hret⟩
      obtain ⟨rfl, rfl⟩ := pure_ok.1 hret
      obtain ⟨rfl, hcap⟩ := receive_ok hrec
      exact ⟨rfl, hcap d.usdc rfl, rfl⟩
    · rintro ⟨rfl, hcap, rfl⟩
      exact ⟨(), _, if_pos hcap, rfl⟩

/-- **A successful `redeem`** is one whose stages all succeed. -/
theorem redeem_ok {ret : Bytes} : redeem d x msg params attestations w = .ok (ret, w') ↔
    ∃ r : Redeemed d x msg params attestations w, ret = r.ret ∧ w' = r.result := by
  constructor
  · intro h
    obtain ⟨_, w₀, hrec, h₁⟩ := bind_ok.1 h
    obtain ⟨rfl, -⟩ := receive_ok hrec
    obtain ⟨fill, w₁, hfill, h₂⟩ := bind_ok.1 h₁
    obtain ⟨hdelivered, hcap, rfl⟩ := redeemFill_ok.1 hfill
    obtain ⟨storage, w₂, hget, h₃⟩ := bind_ok.1 h₂
    cases hget
    obtain ⟨_, w₃, hreq, h₄⟩ := bind_ok.1 h₃
    obtain ⟨hpeer, rfl⟩ := require_ok.1 hreq
    simp only [List.append_nil] at h₄
    obtain ⟨sms, w₄, hlift, h₅⟩ := bind_ok.1 h₄
    obtain ⟨hparse, rfl⟩ := lift_ok.1 hlift
    obtain ⟨plan, planned, hplan, h₆⟩ := bind_ok.1 h₅
    obtain ⟨_, w₅, hreq, h₇⟩ := bind_ok.1 h₆
    obtain ⟨hvalue, rfl⟩ := require_ok.1 hreq
    obtain ⟨⟨output, offset⟩, w₆, hlift, h₈⟩ := bind_ok.1 h₇
    obtain ⟨houtput, rfl⟩ := lift_ok.1 hlift
    obtain ⟨paid, swapped, hswap, h₉⟩ := bind_ok.1 h₈
    obtain ⟨_, w₇, hlift, h₁₀⟩ := bind_ok.1 h₉
    obtain ⟨hcheck, rfl⟩ := lift_ok.1 hlift
    obtain ⟨reported, finished, hpay, h₁₁⟩ := bind_ok.1 h₁₀
    obtain ⟨_, w₈, hemit, hret⟩ := bind_ok.1 h₁₁
    cases hemit
    obtain ⟨rfl, rfl⟩ := pure_ok.1 hret
    rw [World.withHeld_held, credit_apply, single_other (by simp)] at hcap
    exact ⟨⟨fill, sms, plan, _, output, offset, paid, _, reported, finished, hdelivered, hcap,
      hpeer, hparse, hplan, hvalue, houtput, hswap, hcheck, hpay⟩, rfl, rfl⟩
  · rintro ⟨r, rfl, rfl⟩
    have hcap : (w.withHeld (credit w.held .eth msg.value)).held (.erc20 d.usdc) + r.fill.amount ≤
        x.supply d.usdc := by
      rw [World.withHeld_held, credit_apply, single_other (by simp)]
      exact r.within
    refine bind_ok.2 ⟨(), _, rfl, bind_ok.2 ⟨r.fill, _, redeemFill_ok.2 ⟨r.delivered, hcap, rfl⟩,
      bind_ok.2 ⟨w.storage, _, rfl, bind_ok.2 ⟨(), _, require_ok.2 ⟨r.peer, rfl⟩, ?_⟩⟩⟩⟩
    simp only [List.append_nil]
    refine bind_ok.2 ⟨r.sms, _, lift_ok.2 ⟨r.parsed, rfl⟩, bind_ok.2 ⟨r.plan, _, r.planOk,
      bind_ok.2 ⟨(), _, require_ok.2 ⟨r.value, rfl⟩, ?_⟩⟩⟩
    refine bind_ok.2 ⟨(r.output, r.offset), _, lift_ok.2 ⟨r.outputOk, rfl⟩, bind_ok.2 ⟨r.paid, _,
      r.swapOk, bind_ok.2 ⟨(), _, lift_ok.2 ⟨r.consumed, rfl⟩, ?_⟩⟩⟩
    exact bind_ok.2 ⟨r.reported, _, r.payOk, rfl⟩

end Success

namespace Sample

/-- An output token. -/
def token : Address := address 0x70ce4

/-- Another token through Uniswap, no deadline, any amount. -/
def anyAmountOut : Bytes :=
  [2] ++ (toUniversalAddress token).toList ++ toBE 4 0 ++ toBE 16 0 ++ [1] ++ toBE 3 500 ++ [0]

/-- A fill of 10 units of USDC from the peer, with a direct message and the output section `out`. -/
def fill (out : Bytes) : Fill where
  sender := toUniversalAddress (address 0x9ee4)
  senderChain := 3
  amount := 10
  message := encodeSwapMessage (toUniversalAddress recipient) .direct [] out

/-- The routers of `externals`, and a liquidity layer that delivers the fill. -/
def delivering (surplus : ℕ) (out : Bytes) : Externals :=
  { externals surplus 0 with redeemFill := fun _ => some (fill out) }

theorem delivering_honours (surplus swapType : ℕ) (out : Bytes) :
    RouterHonours deployment (delivering surplus out) swapType :=
  externals_honour surplus 0 swapType

end Sample

end SwapLayer.Evm
