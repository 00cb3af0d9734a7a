import SwapLayer.Evm.Message
import SwapLayer.Evm.Swap

/-!
# `initiate`

Model of `evm/src/assets/SwapLayerInitiate.sol`: parse the parameters, work out the fees, fetch
the caller's tokens, turn them into USDC, and hand USDC and swap message to the liquidity layer.

`initiate` runs in an `unchecked` block. `msg.value` is credited to the contract before anything
else. The permit calls are allowed to fail in the source and move no funds, so fetching tokens
is one question to the environment (`Externals.pull`): does the transfer from the caller go
through. `uint160(inputAmount)` and `uint64(finalAmount)` are cut to their widths.

Results:
* `initiate_ok`: a successful call, taken apart.
* `acquireFinal_usdc`, `acquireFinal_swapped`: what acquiring did to the contract's holdings.
* `Initiated.message_eq`: the message of the order is well-formed.
-/

namespace SwapLayer.Evm

open ByteString Program Ledger

section Definitions

variable (d : Deployment) (x : Externals) (msg : Msg d)

/-- Maximum fee and deadline of a fast transfer. -/
def fastTransferParams (mos : ModesOffsetsSizes) (params : Bytes) : ℕ × ℕ :=
  match mos.fastTransfer.mode with
  | .enabled =>
    let (maxFastFee, offset) := asUint48Unchecked params mos.fastTransfer.offset
    let (fastTransferDeadline, _) := asUint32Unchecked params offset
    (maxFastFee, fastTransferDeadline)
  | .disabled => (0, 0)

/-- The fast transfer part of an order: maximum fee and deadline. -/
def fastPart (mos : ModesOffsetsSizes) (params : Bytes) : Option (ℕ × ℕ) :=
  match mos.fastTransfer.mode with
  | .enabled => some (fastTransferParams mos params)
  | .disabled => none

/-- Where the output swap section starts. -/
def outputSwapOffset (mos : ModesOffsetsSizes) : ℕ :=
  match mos.output.mode with
  | .other => mos.output.offset + UNIVERSAL_ADDRESS_SIZE
  | _ => mos.output.offset

/-- Swap type and number of swaps of the output, zero for USDC. -/
def outputSwapTypeAndCount (mos : ModesOffsetsSizes) (params : Bytes) :
    Except Revert (ℕ × ℕ) :=
  match mos.output.mode with
  | .usdc => .ok (0, 0)
  | _ => do
    let (swapType, swapCount, _) ←
      parseSwapTypeAndCountAndSkipParams params (outputSwapOffset mos)
    return (swapType, swapCount)

/-- The relaying fee and the redeem parameters of the message. -/
def redeemParams (storage : Storage) (targetChain : ℕ) (mos : ModesOffsetsSizes) (params : Bytes)
    (sender : Address) : Except Revert (ℕ × Bytes) :=
  match mos.redeem.mode with
  | .relay => do
    let (gasDropoff, maxRelayingFee, _) := parseRelayParams params mos.redeem.offset
    let (swapType, swapCount) ← outputSwapTypeAndCount mos params
    let relayingFee ← calcRelayingFee (storage.feeParams targetChain) targetChain gasDropoff
      mos.output.mode swapCount swapType
    ensure (relayingFee ≤ maxRelayingFee) (.exceedsMaxRelayingFee relayingFee maxRelayingFee)
    return (relayingFee, encodeSwapMessageRelayParams gasDropoff relayingFee)
  | .payload =>
    let (senderPayload, _) := sliceUnchecked params mos.redeem.offset mos.redeem.size
    .ok (0, encodeSwapMessagePayloadParams sender senderPayload)
  | .direct => .ok (0, [])

/-- A transfer of `amount` from the caller, if the environment lets it through. -/
def pullFromCaller (inputToken : Address) (amount : ℕ) (call : AcquireCall) : Contract Unit := do
  require (x.pull msg.sender inputToken amount call = true) (.external .token)
  receive x (.erc20 inputToken) amount .token

/-- `_acquireInputTokens`. -/
def acquireInputTokens (inputAmount : ℕ) (inputToken : Address) (params : Bytes) (offset : ℕ) :
    Contract ℕ := do
  let (acquireMode, offset) ← lift (parseAcquireMode params offset)
  match acquireMode with
  | .preapproved => do
    pullFromCaller d x msg inputToken inputAmount .transferFrom
    return offset
  | .permit => do
    let (permit, offset) := parsePermit params offset
    pullFromCaller d x msg inputToken inputAmount (.permitAndTransferFrom permit)
    return offset
  | .permit2Transfer => do
    let (permit, offset) := parsePermit2Transfer params offset
    pullFromCaller d x msg inputToken inputAmount (.permitTransferFrom permit)
    return offset
  | .permit2Permit => do
    let (permit, offset) := parsePermit2Permit params offset
    pullFromCaller d x msg inputToken (inputAmount % 2 ^ 160) (.permit2AndTransferFrom permit)
    return offset

/-- Unspent input goes back to the caller, as ETH if it came as ETH. -/
def refundUnspent (inputTokenType : IoToken) (inputToken : Address)
    (inputAmount inOutAmount : ℕ) : Contract Unit :=
  if inOutAmount < inputAmount then
    if inputTokenType = .gas then do
      wnativeWithdraw d x (inputAmount - inOutAmount)
      transferEth d x msg.sender (inputAmount - inOutAmount)
    else safeTransfer d x inputToken msg.sender (inputAmount - inOutAmount)
  else pure ()

/-- The swap of the input token to USDC, and the refund of an exact-out swap. -/
def swapToUsdc (totalFee : ℕ) (mos : ModesOffsetsSizes) (params : Bytes) (inputToken : Address)
    (inputAmount : ℕ) (approveCheck : Bool) (offset : ℕ) : Contract ℕ := do
  let p := (parseEvmSwapParams inputToken d.usdc params offset).1
  let outputAmount := wrap (p.outputAmount + totalFee)
  let inOutAmount ← swap d x p.swapType mos.isExactIn inputAmount outputAmount inputToken d.usdc
    true approveCheck p.deadline p.path
  if mos.isExactIn then return inOutAmount
  else do
    refundUnspent d x msg mos.input.mode inputToken inputAmount inOutAmount
    return outputAmount

/-- The amount to fetch when the input is USDC. -/
def usdcInputAmount (isExactIn : Bool) (encoded totalFee : ℕ) : Except Revert ℕ :=
  if isExactIn then
    if encoded < totalFee then .error (.insufficientInputAmount encoded totalFee) else .ok encoded
  else .ok (wrap (encoded + totalFee))

/-- The wormhole fee when the input is ETH: a fast transfer emits two messages. -/
def gasWormholeFee (mode : FastTransferMode) : ℕ :=
  match mode with
  | .enabled => wrap (x.messageFee * 2)
  | .disabled => x.messageFee

/-- `_acquireUsdc` up to its last line: the final amount and the wormhole fee. -/
def acquireFinal (totalFee : ℕ) (mos : ModesOffsetsSizes) (params : Bytes) : Contract (ℕ × ℕ) :=
  match mos.input.mode with
  | .usdc => do
    let (encoded, offset) := asUint128Unchecked params mos.input.offset
    let finalAmount ← lift (usdcInputAmount mos.isExactIn encoded totalFee)
    let _ ← acquireInputTokens d x msg finalAmount d.usdc params offset
    return (finalAmount, msg.value)
  | .gas => do
    let wormholeFee := gasWormholeFee x mos.fastTransfer.mode
    require (wormholeFee ≤ msg.value) (.insufficientInputAmount msg.value wormholeFee)
    wnativeDeposit d x (msg.value - wormholeFee)
    let finalAmount ← swapToUsdc d x msg totalFee mos params d.wnative (msg.value - wormholeFee)
      false mos.input.offset
    return (finalAmount, wormholeFee)
  | .other => do
    let (approveCheck, offset) ← lift (asBoolUnchecked params mos.input.offset)
    let (inputToken, offset) := parseIERC20 params offset
    let (inputAmount, offset) := asUint128Unchecked params offset
    let offset ← acquireInputTokens d x msg inputAmount inputToken params offset
    let finalAmount ← swapToUsdc d x msg totalFee mos params inputToken inputAmount approveCheck
      offset
    return (finalAmount, msg.value)

/-- `_acquireUsdc`: the final amount is cut to `uint64`. -/
def acquireUsdc (totalFee : ℕ) (mos : ModesOffsetsSizes) (params : Bytes) : Contract (ℕ × ℕ) := do
  let (finalAmount, wormholeFee) ← acquireFinal d x msg totalFee mos params
  return (finalAmount % 2 ^ 64, wormholeFee)

/-- `placeMarketOrder` and `placeFastMarketOrder`: the liquidity layer takes the USDC and the
forwarded wormhole fee, or reverts. -/
def placeOrder (order : Order) : Contract (ℕ × ℕ × ℕ) := fun w =>
  match x.placeOrder order with
  | none => .error (.external .liquidityLayer)
  | some sequences =>
    if order.value ≤ w.held .eth ∧ order.amount ≤ w.held (.erc20 d.usdc) then
      .ok (sequences, (w.withHeld (debit (debit w.held .eth order.value) (.erc20 d.usdc)
        order.amount)).record (.order order))
    else .error (.external .liquidityLayer)

/-- `abi.encode` of the order's amount and sequence numbers. -/
def encodeOrderResult (fast : Bool) (usdcAmount : ℕ) (sequences : ℕ × ℕ × ℕ) : Bytes :=
  let (sequence, fastSequence, protocolSequence) := sequences
  toBE 32 usdcAmount ++ toBE 32 sequence ++ toBE 32 protocolSequence ++
    (if fast then toBE 32 fastSequence else [])

/-- The output section as it stands in the parameters, mode byte included. -/
def outputSwapSection (mos : ModesOffsetsSizes) (params : Bytes) : Bytes :=
  slice params (mos.output.offset - MODE_SIZE) (mos.output.size + MODE_SIZE)

/-- `initiate`. -/
def initiate (targetChain : ℕ) (recipient : Bytes32) (params : Bytes) : Contract Bytes := do
  receive x .eth msg.value .token
  lift (checkAddr targetChain recipient)
  let mos ← lift (parseParamBaseStructure targetChain params)
  let maxFastFee := (fastTransferParams mos params).1
  let storage ← getStorage
  let (relayingFee, redeemPayload) ←
    lift (redeemParams storage targetChain mos params msg.sender)
  let (usdcAmount, wormholeFee) ← acquireUsdc d x msg (wrap (maxFastFee + relayingFee)) mos params
  let storage ← getStorage
  let peer := storage.peers targetChain
  require (peer ≠ zeroBytes32) (.chainNotSupported targetChain)
  let swapMessage :=
    encodeSwapMessage recipient mos.redeem.mode redeemPayload (outputSwapSection mos params)
  let sequences ← placeOrder d x
    ⟨usdcAmount, targetChain, peer, swapMessage, fastPart mos params, wormholeFee⟩
  let ret := encodeOrderResult (fastPart mos params).isSome usdcAmount sequences
  return if mos.redeem.mode = .relay then ret ++ toBE 32 relayingFee else ret

end Definitions

/-! ## The input as the parameters describe it -/

section Input

variable (d : Deployment) (x : Externals) (msg : Msg d) (mos : ModesOffsetsSizes) (params : Bytes)

/-- The token that is swapped to USDC. -/
def inputToken : Address :=
  match mos.input.mode with
  | .usdc => d.usdc
  | .gas => d.wnative
  | .other => (parseIERC20 params (mos.input.offset + BOOL_SIZE)).1

/-- The encoded amount, or what is left of the attached ETH after the wormhole fee. -/
def inputAmount : ℕ :=
  match mos.input.mode with
  | .usdc => readBE 16 params mos.input.offset
  | .gas => msg.value - gasWormholeFee x mos.fastTransfer.mode
  | .other => readBE 16 params (mos.input.offset + (BOOL_SIZE + ADDRESS_SIZE))

/-- Where the swap section of the input starts: behind the acquire section, if there is one. -/
def inputSwapOffset : ℕ :=
  match mos.input.mode with
  | .other =>
    match skipAcquire params
        (mos.input.offset + (BOOL_SIZE + ADDRESS_SIZE + SWAP_PARAM_AMOUNT_SIZE)) with
    | .ok offset => offset
    | .error _ => 0
  | _ => mos.input.offset

/-- The input swap as encoded. -/
def inputSwap : EvmSwapParams :=
  (parseEvmSwapParams (inputToken d mos params) d.usdc params (inputSwapOffset mos params)).1

/-- How the router executes the input swap, if it does, when the fees come to `totalFee`. -/
def inputExecution (totalFee : ℕ) (held : Asset → ℕ) : Option RouterReply :=
  execution d x (inputSwap d mos params).swapType mos.isExactIn (inputAmount d x msg mos params)
    (wrap ((inputSwap d mos params).outputAmount + totalFee)) (inputToken d mos params) d.usdc
    (inputSwap d mos params).deadline (inputSwap d mos params).path held

end Input

/-- The unspent input of an exact-out swap. -/
def refundOf (isExactIn : Bool) (inputAmount inOutAmount : ℕ) : ℕ :=
  if isExactIn then 0 else inputAmount - inOutAmount

/-! ## What acquiring USDC does -/

section Acquire

variable {d : Deployment} {x : Externals} {msg : Msg d} {w w' : World} {mos : ModesOffsetsSizes}
  {params : Bytes}

theorem pullFromCaller_ok {token : Address} {amount : ℕ} {call : AcquireCall} {u : Unit}
    (h : pullFromCaller d x msg token amount call w = .ok (u, w')) :
    w' = w.withHeld (credit w.held (.erc20 token) amount) ∧
      w.held (.erc20 token) + amount ≤ x.supply token := by
  obtain ⟨_, w₁, hreq, hrec⟩ := bind_ok.1 h
  obtain ⟨-, rfl⟩ := require_ok.1 hreq
  obtain ⟨rfl, hcap⟩ := receive_ok hrec
  exact ⟨rfl, hcap token rfl⟩

/-- Fetching the input token skips the acquire section; only one mode cuts the amount. -/
theorem acquireInputTokens_pulled {amount : ℕ} {token : Address} {offset o : ℕ}
    (h : acquireInputTokens d x msg amount token params offset w = .ok (o, w')) :
    skipAcquire params offset = .ok o ∧ ∃ n, (n = amount ∨ n = amount % 2 ^ 160) ∧
      w' = w.withHeld (credit w.held (.erc20 token) n) ∧
      w.held (.erc20 token) + n ≤ x.supply token := by
  obtain ⟨⟨mode, o₁⟩, w₁, hlift, hrest⟩ := bind_ok.1 h
  obtain ⟨hmode, rfl⟩ := lift_ok.1 hlift
  have hskip : skipAcquire params offset = .ok (o₁ + acquireModeSize mode) := by
    rw [skipAcquire, hmode]
    rfl
  cases mode with
  | preapproved =>
    obtain ⟨_, w₂, hpull, hret⟩ := bind_ok.1 hrest
    obtain ⟨rfl, rfl⟩ := pure_ok.1 hret
    exact ⟨hskip, _, .inl rfl, pullFromCaller_ok hpull⟩
  | permit =>
    obtain ⟨_, w₂, hpull, hret⟩ := bind_ok.1 hrest
    obtain ⟨rfl, rfl⟩ := pure_ok.1 hret
    exact ⟨(parsePermit_offset params o₁).symm ▸ hskip, _, .inl rfl, pullFromCaller_ok hpull⟩
  | permit2Transfer =>
    obtain ⟨_, w₂, hpull, hret⟩ := bind_ok.1 hrest
    obtain ⟨rfl, rfl⟩ := pure_ok.1 hret
    exact ⟨(parsePermit2Transfer_offset params o₁).symm ▸ hskip, _, .inl rfl,
      pullFromCaller_ok hpull⟩
  | permit2Permit =>
    obtain ⟨_, w₂, hpull, hret⟩ := bind_ok.1 hrest
    obtain ⟨rfl, rfl⟩ := pure_ok.1 hret
    exact ⟨(parsePermit2Permit_offset params o₁).symm ▸ hskip, _, .inr rfl,
      pullFromCaller_ok hpull⟩

/-- **Fetching the input token** credits exactly the amount and skips the acquire section. -/
theorem acquireInputTokens_ok {amount : ℕ} {token : Address} {offset o : ℕ}
    (hamount : amount < 2 ^ 160)
    (h : acquireInputTokens d x msg amount token params offset w = .ok (o, w')) :
    skipAcquire params offset = .ok o ∧
      w' = w.withHeld (credit w.held (.erc20 token) amount) ∧
      w.held (.erc20 token) + amount ≤ x.supply token := by
  obtain ⟨hskip, n, hn, hw, hcap⟩ := acquireInputTokens_pulled h
  rw [Nat.mod_eq_of_lt hamount, or_self] at hn
  subst hn
  exact ⟨hskip, hw, hcap⟩

/-- **The refund** leaves the contract in the input token, unwrapped on the way if need be. -/
theorem refundUnspent_ok {mode : IoToken} {token : Address} {amount spent : ℕ} {u : Unit}
    (hgas : mode = .gas → token = d.wnative)
    (h : refundUnspent d x msg mode token amount spent w = .ok (u, w')) :
    Moves w.held w'.held 0 (Pi.single (.erc20 token) (amount - spent)) ∧ SameStorage w w' := by
  unfold refundUnspent at h
  split at h
  · split at h
    · rename_i hmode
      obtain ⟨_, w₁, hwithdraw, hsend⟩ := bind_ok.1 h
      obtain ⟨hle, rfl⟩ := wnativeWithdraw_ok.1 hwithdraw
      have hmoves := payOut_moves msg.sender_ne_self hsend
      have hsame := payOut_sameStorage _ _ _ _ _ hsend
      rw [hgas hmode]
      refine ⟨fun a => ?_, hsame.storage, hsame.orders⟩
      have h₁ := hmoves a
      have h₂ := debit_add_apply hle a
      rw [World.withHeld_held, credit_apply] at h₁
      simp only [Pi.zero_apply] at h₁ ⊢
      omega
    · exact ⟨payOut_moves msg.sender_ne_self h, payOut_sameStorage _ _ _ _ _ h⟩
  · rename_i hlt
    obtain ⟨-, rfl⟩ := pure_ok.1 h
    refine ⟨fun a => ?_, .refl _⟩
    rw [Nat.sub_eq_zero_of_le (by omega), Pi.single_zero]

/-- **The swap to USDC**: the router executed it, and the unspent input went back. -/
theorem swapToUsdc_ok {totalFee amount offset n : ℕ} {token : Address} {approveCheck : Bool}
    {p : EvmSwapParams} (hparse : (parseEvmSwapParams token d.usdc params offset).1 = p)
    (hr : RouterDeployed d x p.swapType → RouterHonours d x p.swapType) (hamount : amount < 2 ^ 256)
    (hgas : mos.input.mode = .gas → token = d.wnative)
    (h : swapToUsdc d x msg totalFee mos params token amount approveCheck offset w =
      .ok (n, w')) :
    ∃ r, execution d x p.swapType mos.isExactIn amount (wrap (p.outputAmount + totalFee)) token
        d.usdc p.deadline p.path w.held = some r ∧
      (p.swapType = SWAP_TYPE_TRADERJOE → x.hasCode d.traderJoeRouter = true) ∧
      n = (if mos.isExactIn then measured p.swapType true token d.usdc r
        else wrap (p.outputAmount + totalFee)) ∧
      Moves w.held w'.held (Pi.single (.erc20 d.usdc) r.paid)
        (Pi.single (.erc20 token) r.pulled + Pi.single (.erc20 token) (refundOf mos.isExactIn
          amount (measured p.swapType mos.isExactIn token d.usdc r))) ∧
      SameStorage w w' := by
  have hpath : IsEvmSwapType p.swapType → IsSwapPath token d.usdc p.path :=
    hparse ▸ parseEvmSwapParams_path token d.usdc params offset
  rw [swapToUsdc, hparse] at h
  obtain ⟨m, w₂, hswap, hrest⟩ := bind_ok.1 h
  obtain ⟨w₁, hsame, hswap⟩ := swap_approveCheck hswap
  have htoken (hu : p.swapType = SWAP_TYPE_UNISWAPV3)
      (hd : ¬(p.deadline ≠ 0 ∧ p.deadline < x.blockTimestamp)) :
      x.isToken (measuredToken mos.isExactIn token d.usdc) = true := by
    rw [hu] at hswap
    exact swap_isToken hswap hd
  have hjoe (ht : p.swapType = SWAP_TYPE_TRADERJOE) : x.hasCode d.traderJoeRouter = true := by
    by_contra hnone
    rw [ht] at hswap
    exact swap_traderJoe_absentRouter (Bool.eq_false_iff.2 hnone) hswap
  cases hex : execution d x p.swapType mos.isExactIn amount (wrap (p.outputAmount + totalFee))
      token d.usdc p.deadline p.path w₁.held with
  | none =>
    obtain ⟨e, he⟩ := swap_of_no_execution true hpath htoken hex
    rw [he] at hswap
    cases hswap
  | some r =>
    rw [swap_of_execution hr hjoe hpath htoken hamount hex] at hswap
    cases hswap
    have hf := execution_feasible hex
    rw [hsame.held] at hex hf
    have hsettle := settled_moves hf
    refine ⟨r, hex, hjoe, ?_⟩
    cases hdir : mos.isExactIn with
    | true =>
      rw [hdir] at hrest
      obtain ⟨rfl, rfl⟩ := pure_ok.1 hrest
      refine ⟨rfl, ?_, hsame.storage, hsame.orders⟩
      simpa only [World.withHeld_held, hsame.held, refundOf, reduceIte, Pi.single_zero, add_zero]
        using hsettle
    | false =>
      rw [hdir] at hrest
      obtain ⟨_, w₃, hrefund, hret⟩ := bind_ok.1 hrest
      obtain ⟨rfl, rfl⟩ := pure_ok.1 hret
      obtain ⟨hmoves, hkeep⟩ := refundUnspent_ok hgas hrefund
      refine ⟨rfl, ?_, hsame.storage ▸ hkeep.storage, hsame.orders ▸ hkeep.orders⟩
      rw [World.withHeld_held, hsame.held] at hmoves
      have := hsettle.trans hmoves
      rwa [add_zero] at this

theorem acquireInputTokens_sameStorage (amount : ℕ) (token : Address) (offset : ℕ) :
    Guarantees SameStorage (acquireInputTokens d x msg amount token params offset) := by
  have hpull (n : ℕ) (call : AcquireCall) :
      Guarantees SameStorage (pullFromCaller d x msg token n call) :=
    .bind SameStorage.trans (.require SameStorage.refl _ _) fun _ => receive_sameStorage _ _ _
  unfold acquireInputTokens
  refine .bind SameStorage.trans (.lift SameStorage.refl _) fun p => ?_
  obtain ⟨mode, o⟩ := p
  cases mode <;>
    exact .bind SameStorage.trans (hpull _ _) fun _ => .pure SameStorage.refl _

theorem refundUnspent_sameStorage (mode : IoToken) (token : Address) (amount spent : ℕ) :
    Guarantees SameStorage (refundUnspent d x msg mode token amount spent) := by
  unfold refundUnspent
  split
  · split
    · exact .bind SameStorage.trans (wnativeWithdraw_sameStorage _) fun _ => payOut_sameStorage _ _
    · exact payOut_sameStorage _ _
  · exact .pure SameStorage.refl _

theorem swapToUsdc_sameStorage (totalFee : ℕ) (token : Address) (amount : ℕ)
    (approveCheck : Bool) (offset : ℕ) :
    Guarantees SameStorage
      (swapToUsdc d x msg totalFee mos params token amount approveCheck offset) := by
  unfold swapToUsdc
  refine .bind SameStorage.trans swap_sameStorage fun n => ?_
  split
  · exact .pure SameStorage.refl _
  · exact .bind SameStorage.trans (refundUnspent_sameStorage _ _ _ _) fun _ =>
      .pure SameStorage.refl _

theorem acquireUsdc_ok {totalFee usdcAmount wormholeFee : ℕ} :
    acquireUsdc d x msg totalFee mos params w = .ok ((usdcAmount, wormholeFee), w') ↔
      ∃ finalAmount, acquireFinal d x msg totalFee mos params w =
        .ok ((finalAmount, wormholeFee), w') ∧ usdcAmount = finalAmount % 2 ^ 64 := by
  unfold acquireUsdc
  rw [bind_ok]
  constructor
  · rintro ⟨⟨finalAmount, fee⟩, w₁, hfinal, hret⟩
    obtain ⟨hres, rfl⟩ := pure_ok.1 hret
    obtain ⟨rfl, rfl⟩ := Prod.mk.inj hres
    exact ⟨finalAmount, hfinal, rfl⟩
  · rintro ⟨finalAmount, hfinal, rfl⟩
    exact ⟨_, w', hfinal, rfl⟩

theorem acquireFinal_sameStorage (totalFee : ℕ) :
    Guarantees SameStorage (acquireFinal d x msg totalFee mos params) := by
  unfold acquireFinal
  cases mos.input.mode with
  | usdc =>
    refine .bind SameStorage.trans (.lift SameStorage.refl _) fun _ => ?_
    exact .bind SameStorage.trans (acquireInputTokens_sameStorage _ _ _) fun _ =>
      .pure SameStorage.refl _
  | gas =>
    refine .bind SameStorage.trans (.require SameStorage.refl _ _) fun _ => ?_
    refine .bind SameStorage.trans (wnativeDeposit_sameStorage _) fun _ => ?_
    exact .bind SameStorage.trans (swapToUsdc_sameStorage _ _ _ _ _) fun _ =>
      .pure SameStorage.refl _
  | other =>
    refine .bind SameStorage.trans (.lift SameStorage.refl _) fun _ => ?_
    refine .bind SameStorage.trans (acquireInputTokens_sameStorage _ _ _) fun _ => ?_
    exact .bind SameStorage.trans (swapToUsdc_sameStorage _ _ _ _ _) fun _ =>
      .pure SameStorage.refl _

/-- **Acquiring USDC touches neither storage nor orders.** -/
theorem acquireUsdc_sameStorage (totalFee : ℕ) :
    Guarantees SameStorage (acquireUsdc d x msg totalFee mos params) :=
  .bind SameStorage.trans (acquireFinal_sameStorage _) fun _ => .pure SameStorage.refl _

/-- Exact-in checks that the fees are covered, exact-out adds them. -/
theorem usdcInputAmount_ok {isExactIn : Bool} {encoded totalFee n : ℕ} :
    usdcInputAmount isExactIn encoded totalFee = .ok n ↔
      if isExactIn then totalFee ≤ encoded ∧ n = encoded else n = wrap (encoded + totalFee) := by
  unfold usdcInputAmount
  cases isExactIn with
  | false => exact ⟨fun h => (Except.ok.inj h).symm, fun h => congrArg Except.ok (h : n = _).symm⟩
  | true =>
    simp only [reduceIte]
    by_cases hlt : encoded < totalFee
    · rw [if_pos hlt]
      exact ⟨fun h => (by cases h), fun ⟨hle, _⟩ => by omega⟩
    · rw [if_neg hlt]
      exact ⟨fun h => ⟨by omega, (Except.ok.inj h).symm⟩, fun ⟨_, h⟩ => congrArg Except.ok h.symm⟩

theorem usdcInputAmount_lt {isExactIn : Bool} {encoded totalFee n : ℕ} (henc : encoded < 256 ^ 16)
    (hfee : totalFee < 2 ^ 128) (h : usdcInputAmount isExactIn encoded totalFee = .ok n) :
    n < 2 ^ 160 := by
  have h' := usdcInputAmount_ok.1 h
  cases isExactIn with
  | true =>
    obtain ⟨-, rfl⟩ := h'
    omega
  | false =>
    have hw : wrap (encoded + totalFee) = encoded + totalFee := wrap_of_lt (by omega)
    have hn : n = wrap (encoded + totalFee) := h'
    omega

/-- **Acquiring USDC directly** credits the amount, and forwards the attached ETH. -/
theorem acquireFinal_usdc {totalFee finalAmount wormholeFee : ℕ} (hmode : mos.input.mode = .usdc)
    (hfee : totalFee < 2 ^ 128)
    (h : acquireFinal d x msg totalFee mos params w = .ok ((finalAmount, wormholeFee), w')) :
    usdcInputAmount mos.isExactIn (inputAmount d x msg mos params) totalFee = .ok finalAmount ∧
      wormholeFee = msg.value ∧ w.held (.erc20 d.usdc) + finalAmount ≤ x.supply d.usdc ∧
      Moves w.held w'.held (Pi.single (.erc20 d.usdc) finalAmount) 0 ∧ SameStorage w w' := by
  rw [acquireFinal, hmode] at h
  obtain ⟨n, w₁, hlift, hrest⟩ := bind_ok.1 h
  obtain ⟨hfinal, rfl⟩ := lift_ok.1 hlift
  obtain ⟨o, w₂, hacq, hret⟩ := bind_ok.1 hrest
  obtain ⟨hres, rfl⟩ := pure_ok.1 hret
  cases hres
  have hlt := usdcInputAmount_lt (readBE_lt ..) hfee hfinal
  obtain ⟨-, rfl, hcap⟩ := acquireInputTokens_ok hlt hacq
  refine ⟨?_, rfl, hcap, moves_credit _ _ _, rfl, rfl⟩
  rw [inputAmount, hmode]
  exact hfinal

/-- **Acquiring USDC through a swap**: the input comes in, the router executes the swap, unspent
input goes back. Of the attached ETH, what is not the wormhole fee is the input. -/
theorem acquireFinal_swapped {totalFee finalAmount wormholeFee : ℕ} (hmode : mos.input.mode ≠ .usdc)
    (hr : RouterDeployed d x (inputSwap d mos params).swapType →
      RouterHonours d x (inputSwap d mos params).swapType)
    (h : acquireFinal d x msg totalFee mos params w = .ok ((finalAmount, wormholeFee), w')) :
    ∃ (r : RouterReply) (held : Asset → ℕ) (ethIn : ℕ),
      inputExecution d x msg mos params totalFee held = some r ∧
      ((inputSwap d mos params).swapType = SWAP_TYPE_TRADERJOE →
        x.hasCode d.traderJoeRouter = true) ∧
      w.held (.erc20 (inputToken d mos params)) + inputAmount d x msg mos params ≤
        x.supply (inputToken d mos params) ∧
      finalAmount = (if mos.isExactIn then
          measured (inputSwap d mos params).swapType true (inputToken d mos params) d.usdc r
        else wrap ((inputSwap d mos params).outputAmount + totalFee)) ∧
      ethIn + wormholeFee = msg.value ∧
      Moves w.held w'.held
        (Pi.single (.erc20 (inputToken d mos params)) (inputAmount d x msg mos params) +
          Pi.single (.erc20 d.usdc) r.paid)
        (Pi.single .eth ethIn + (Pi.single (.erc20 (inputToken d mos params)) r.pulled +
          Pi.single (.erc20 (inputToken d mos params)) (refundOf mos.isExactIn
            (inputAmount d x msg mos params) (measured (inputSwap d mos params).swapType
              mos.isExactIn (inputToken d mos params) d.usdc r)))) ∧
      SameStorage w w' := by
  cases hm : mos.input.mode with
  | usdc => exact absurd hm hmode
  | gas =>
    have htoken : inputToken d mos params = d.wnative := by rw [inputToken, hm]
    have hamount : inputAmount d x msg mos params =
        msg.value - gasWormholeFee x mos.fastTransfer.mode := by rw [inputAmount, hm]
    have hoff : inputSwapOffset mos params = mos.input.offset := by rw [inputSwapOffset, hm]
    have hparse : (parseEvmSwapParams d.wnative d.usdc params mos.input.offset).1 =
        inputSwap d mos params := by rw [inputSwap, htoken, hoff]
    rw [acquireFinal, hm] at h
    obtain ⟨_, w₁, hreq, hrest⟩ := bind_ok.1 h
    obtain ⟨hvalue, rfl⟩ := require_ok.1 hreq
    obtain ⟨_, w₂, hdep, hrest⟩ := bind_ok.1 hrest
    obtain ⟨hle, hcap, rfl⟩ := wnativeDeposit_ok hdep
    obtain ⟨n, w₃, hswap, hret⟩ := bind_ok.1 hrest
    obtain ⟨hres, rfl⟩ := pure_ok.1 hret
    cases hres
    have hlt := x.supply_lt d.wnative
    obtain ⟨r, hex, hjoe, hn, hmoves, hsame⟩ := swapToUsdc_ok hparse hr (by omega) (fun _ => rfl) hswap
    have hin := (moves_debit hle).trans (moves_credit _ (.erc20 d.wnative)
      (msg.value - gasWormholeFee x mos.fastTransfer.mode))
    rw [zero_add, add_zero] at hin
    simp only [inputExecution, htoken, hamount]
    refine ⟨r, _, msg.value - gasWormholeFee x mos.fastTransfer.mode, hex, hjoe, hcap, hn, ?_,
      hin.trans hmoves, hsame.storage, hsame.orders⟩
    omega
  | other =>
    rw [acquireFinal, hm] at h
    obtain ⟨⟨approveCheck, o₁⟩, w₁, hlift, hrest⟩ := bind_ok.1 h
    obtain ⟨hbool, rfl⟩ := lift_ok.1 hlift
    obtain ⟨-, rfl⟩ := asBoolUnchecked_ok.1 hbool
    obtain ⟨o₂, w₂, hacq, hrest⟩ := bind_ok.1 hrest
    have hread : readBE 16 params (mos.input.offset + 1 + 20) < 256 ^ 16 := readBE_lt ..
    have hlt : readBE 16 params (mos.input.offset + 1 + 20) < 2 ^ 160 := by omega
    obtain ⟨hskip, rfl, hcap⟩ := acquireInputTokens_ok hlt hacq
    obtain ⟨n, w₃, hswap, hret⟩ := bind_ok.1 hrest
    obtain ⟨hres, rfl⟩ := pure_ok.1 hret
    cases hres
    have htoken : inputToken d mos params = (parseIERC20 params (mos.input.offset + 1)).1 := by
      rw [inputToken, hm]
      rfl
    have hamount : inputAmount d x msg mos params =
        readBE 16 params (mos.input.offset + 1 + 20) := by
      rw [inputAmount, hm]
      rfl
    have hoff : inputSwapOffset mos params = o₂ := by
      rw [inputSwapOffset, hm]
      have hskip' : skipAcquire params (mos.input.offset + (BOOL_SIZE + ADDRESS_SIZE +
          SWAP_PARAM_AMOUNT_SIZE)) = .ok o₂ := hskip
      simp only [hskip']
    have hparse : (parseEvmSwapParams (parseIERC20 params (mos.input.offset + 1)).1 d.usdc params
        o₂).1 = inputSwap d mos params := by rw [inputSwap, htoken, hoff]
    obtain ⟨r, hex, hjoe, hn, hmoves, hsame⟩ := swapToUsdc_ok hparse hr (by omega)
      (fun hgas => by rw [hm] at hgas; cases hgas) hswap
    simp only [inputExecution, htoken, hamount]
    refine ⟨r, _, 0, hex, hjoe, hcap, hn, Nat.zero_add _, ?_, hsame.storage, hsame.orders⟩
    have := (moves_credit w₁.held (.erc20 (parseIERC20 params (mos.input.offset + 1)).1)
      (readBE 16 params (mos.input.offset + 1 + 20))).trans hmoves
    rwa [Pi.single_zero]

end Acquire

/-! ## A successful call, taken apart -/

section Success

variable {d : Deployment} {x : Externals} {msg : Msg d} {w w' : World} {targetChain : ℕ}
  {recipient : Bytes32} {params : Bytes}

theorem placeOrder_ok {order : Order} {sequences : ℕ × ℕ × ℕ}
    (h : placeOrder d x order w = .ok (sequences, w')) :
    order.value ≤ w.held .eth ∧ order.amount ≤ w.held (.erc20 d.usdc) ∧
      w' = (w.withHeld (debit (debit w.held .eth order.value) (.erc20 d.usdc)
        order.amount)).record (.order order) := by
  unfold placeOrder at h
  split at h
  · cases h
  · split at h
    · rename_i hle
      cases h
      exact ⟨hle.1, hle.2, rfl⟩
    · cases h

/-- What a successful `initiate` did: the parameters it parsed, the fees it worked out, the state
after it acquired the USDC, and the order it placed. -/
structure Initiated (d : Deployment) (x : Externals) (msg : Msg d) (targetChain : ℕ)
    (recipient : Bytes32) (params : Bytes) (w : World) where
  mos : ModesOffsetsSizes
  relayingFee : ℕ
  redeemPayload : Bytes
  usdcAmount : ℕ
  wormholeFee : ℕ
  acquired : World
  checked : checkAddr targetChain recipient = .ok ()
  parsed : parseParamBaseStructure targetChain params = .ok mos
  redeem : redeemParams w.storage targetChain mos params msg.sender =
    .ok (relayingFee, redeemPayload)
  acquire : acquireUsdc d x msg (wrap ((fastTransferParams mos params).1 + relayingFee)) mos params
    (w.withHeld (credit w.held .eth msg.value)) = .ok ((usdcAmount, wormholeFee), acquired)
  peer : acquired.storage.peers targetChain ≠ zeroBytes32
  value_le : wormholeFee ≤ acquired.held .eth
  amount_le : usdcAmount ≤ acquired.held (.erc20 d.usdc)

namespace Initiated

variable (i : Initiated d x msg targetChain recipient params w)

/-- The message of the order. -/
def message : Bytes :=
  encodeSwapMessage recipient i.mos.redeem.mode i.redeemPayload (outputSwapSection i.mos params)

/-- The order handed to the liquidity layer. -/
def order : Order :=
  ⟨i.usdcAmount, targetChain, i.acquired.storage.peers targetChain, i.message,
    fastPart i.mos params, i.wormholeFee⟩

/-- `maxFastFee`. -/
def maxFastFee : ℕ := (fastTransferParams i.mos params).1

/-- The fees of the call. -/
def totalFee : ℕ := i.maxFastFee + i.relayingFee

/-- The USDC an input swap asks for, fees included. -/
def minUsdcOut : ℕ := (inputSwap d i.mos params).outputAmount + i.totalFee

/-- The state the call leaves: the liquidity layer has taken the USDC and the wormhole fee. -/
def result : World :=
  (i.acquired.withHeld (debit (debit i.acquired.held .eth i.wormholeFee) (.erc20 d.usdc)
    i.usdcAmount)).record (.order i.order)

end Initiated

/-- **A successful `initiate`** parses, acquires and places one order. -/
theorem initiate_ok {ret : Bytes}
    (h : initiate d x msg targetChain recipient params w = .ok (ret, w')) :
    ∃ i : Initiated d x msg targetChain recipient params w, w' = i.result := by
  obtain ⟨_, w₀, hrec, h₁⟩ := bind_ok.1 h
  obtain ⟨rfl, -⟩ := receive_ok hrec
  obtain ⟨_, w₁, hlift, h₂⟩ := bind_ok.1 h₁
  obtain ⟨hcheck, rfl⟩ := lift_ok.1 hlift
  obtain ⟨mos, w₂, hlift, h₃⟩ := bind_ok.1 h₂
  obtain ⟨hparse, rfl⟩ := lift_ok.1 hlift
  obtain ⟨storage, w₃, hget, h₄⟩ := bind_ok.1 h₃
  cases hget
  obtain ⟨⟨relayingFee, redeemPayload⟩, w₄, hlift, h₅⟩ := bind_ok.1 h₄
  obtain ⟨hredeem, rfl⟩ := lift_ok.1 hlift
  obtain ⟨⟨usdcAmount, wormholeFee⟩, w₅, hacquire, h₆⟩ := bind_ok.1 h₅
  obtain ⟨storage, w₆, hget, h₇⟩ := bind_ok.1 h₆
  cases hget
  obtain ⟨_, w₇, hreq, h₈⟩ := bind_ok.1 h₇
  obtain ⟨hpeer, rfl⟩ := require_ok.1 hreq
  obtain ⟨sequences, w₈, horder, hret⟩ := bind_ok.1 h₈
  obtain ⟨-, rfl⟩ := pure_ok.1 hret
  obtain ⟨hvalue, hamount, rfl⟩ := placeOrder_ok horder
  exact ⟨⟨mos, relayingFee, redeemPayload, usdcAmount, wormholeFee, _, hcheck, hparse, hredeem,
    hacquire, hpeer, hvalue, hamount⟩, rfl⟩

/-! ## The message of an order -/

theorem fastTransferParams_lt (mos : ModesOffsetsSizes) (params : Bytes) :
    (fastTransferParams mos params).1 < 256 ^ 6 := by
  unfold fastTransferParams
  split
  · exact readBE_lt ..
  · exact Nat.pos_of_ne_zero (by decide)

section RedeemFields

variable {storage : Storage} {mos : ModesOffsetsSizes} {sender : Address} {relayingFee : ℕ}
  {payload : Bytes}

/-- A relaying fee is at most the maximum in the parameters, which is 48 bits wide. -/
theorem redeemParams_fee_lt
    (h : redeemParams storage targetChain mos params sender = .ok (relayingFee, payload)) :
    relayingFee < 256 ^ 6 := by
  unfold redeemParams at h
  cases hmode : mos.redeem.mode with
  | relay =>
    rw [hmode] at h
    obtain ⟨swap, -, h₁⟩ := except_bind_ok.1 h
    obtain ⟨fee, -, h₂⟩ := except_bind_ok.1 h₁
    obtain ⟨_, hle, h₃⟩ := except_bind_ok.1 h₂
    cases h₃
    exact Nat.lt_of_le_of_lt (ensure_ok.1 hle) (readBE_lt 6 params (mos.redeem.offset + 4))
  | _ =>
    rw [hmode] at h
    cases h
    exact Nat.pos_of_ne_zero (by decide)

/-- The redeem parameters that go into the message. -/
def redeemFields (mos : ModesOffsetsSizes) (params : Bytes) (sender : Address) (relayingFee : ℕ)
    (hfee : relayingFee < 256 ^ 6) : RedeemFields :=
  match mos.redeem.mode with
  | .direct => .direct
  | .payload => .payload (toUniversalAddress sender)
      (slice params (mos.redeem.offset + 2) (readBE 2 params mos.redeem.offset))
      (by rw [length_slice]; exact readBE_lt 2 params mos.redeem.offset)
  | .relay => .relay (parseRelayParams params mos.redeem.offset).1 relayingFee
      (readBE_lt 4 params mos.redeem.offset) hfee

theorem redeemFields_mode (hfee : relayingFee < 256 ^ 6) :
    (redeemFields mos params sender relayingFee hfee).mode = mos.redeem.mode := by
  unfold redeemFields
  split <;> simp_all [RedeemFields.mode]

/-- **The redeem parameters of a message** are well-formed, and name the fee worked out. -/
theorem redeemFields_encode (hfee : relayingFee < 256 ^ 6)
    (hsize : mos.redeem.size = redeemSize mos.redeem.mode params mos.redeem.offset)
    (h : redeemParams storage targetChain mos params sender = .ok (relayingFee, payload)) :
    (redeemFields mos params sender relayingFee hfee).encode = payload ∧
      (redeemFields mos params sender relayingFee hfee).fee = relayingFee := by
  unfold redeemParams at h
  unfold redeemFields
  cases hmode : mos.redeem.mode with
  | direct =>
    rw [hmode] at h
    cases h
    exact ⟨rfl, rfl⟩
  | payload =>
    rw [hmode] at h hsize
    cases h
    refine ⟨?_, rfl⟩
    rw [hsize, redeemSize, slice_add]
    simp only [RedeemFields.encode, encodeSwapMessagePayloadParams, length_slice, toBE_readBE]
  | relay =>
    rw [hmode] at h
    obtain ⟨swap, -, h₁⟩ := except_bind_ok.1 h
    obtain ⟨fee, -, h₂⟩ := except_bind_ok.1 h₁
    obtain ⟨_, -, h₃⟩ := except_bind_ok.1 h₂
    cases h₃
    exact ⟨rfl, rfl⟩

end RedeemFields

namespace Initiated

variable (i : Initiated d x msg targetChain recipient params w)

/-- The redeem parameters in the message of the order. -/
def fields : RedeemFields :=
  redeemFields i.mos params msg.sender i.relayingFee (redeemParams_fee_lt i.redeem)

theorem fields_mode : i.fields.mode = i.mos.redeem.mode := redeemFields_mode _

theorem fields_fee : i.fields.fee = i.relayingFee :=
  (redeemFields_encode _ (redeem_in_range i.parsed).1 i.redeem).2

/-- **The message of an order** is an encoded message with the recipient and the output section
of the caller. -/
theorem message_eq : i.message =
    encodeSwapMessage recipient i.fields.mode i.fields.encode (outputSwapSection i.mos params) := by
  rw [Initiated.message, i.fields_mode]
  exact congrArg (encodeSwapMessage _ _ · _)
    (redeemFields_encode _ (redeem_in_range i.parsed).1 i.redeem).1.symm

end Initiated

/-- The fees of a successful call are added up without a wrap. -/
theorem Initiated.totalFee_eq (i : Initiated d x msg targetChain recipient params w) :
    wrap ((fastTransferParams i.mos params).1 + i.relayingFee) = i.totalFee ∧
      i.totalFee < 2 ^ 50 := by
  have h₁ : i.maxFastFee < 256 ^ 6 := fastTransferParams_lt i.mos params
  have h₂ := redeemParams_fee_lt i.redeem
  have hlt : i.maxFastFee + i.relayingFee < 2 ^ 50 := by omega
  exact ⟨wrap_of_lt (Nat.lt_trans hlt (by decide)), hlt⟩

/-- Neither is the output that an input swap asks for. -/
theorem Initiated.wrap_minUsdcOut (i : Initiated d x msg targetChain recipient params w) :
    wrap ((inputSwap d i.mos params).outputAmount + i.totalFee) = i.minUsdcOut := by
  have hread : (inputSwap d i.mos params).outputAmount < 256 ^ 16 := by
    rw [inputSwap, parseEvmSwapParams_outputAmount]
    exact readBE_lt ..
  have := i.totalFee_eq.2
  exact wrap_of_lt (by omega)

/-- The amount of the order is the final amount, cut to `uint64`. -/
theorem Initiated.acquire_final (i : Initiated d x msg targetChain recipient params w) :
    ∃ finalAmount, acquireFinal d x msg i.totalFee i.mos params
        (w.withHeld (credit w.held .eth msg.value)) =
          .ok ((finalAmount, i.wormholeFee), i.acquired) ∧
      i.usdcAmount = finalAmount % 2 ^ 64 := by
  have hacq := i.acquire
  rw [i.totalFee_eq.1] at hacq
  exact acquireUsdc_ok.1 hacq

/-- The order is the only one the call placed. -/
theorem Initiated.orders_eq (i : Initiated d x msg targetChain recipient params w) :
    i.result.orders = w.orders ++ [i.order] := by
  have hsame := acquireUsdc_sameStorage _ _ _ _ i.acquire
  have horders : i.acquired.orders = w.orders := hsame.orders
  rw [← horders]
  simp [World.orders, Initiated.result]

/-! ### All flows of a call -/

/-- The liquidity layer's share: the wormhole fee and the USDC of the order. -/
theorem Initiated.moves_order (i : Initiated d x msg targetChain recipient params w) :
    Moves i.acquired.held i.result.held 0
      (Pi.single .eth i.wormholeFee + Pi.single (.erc20 d.usdc) i.usdcAmount) := by
  have hne : (Asset.erc20 d.usdc) ≠ .eth := by simp
  have h₁ := moves_debit i.value_le
  have h₂ : i.usdcAmount ≤ debit i.acquired.held .eth i.wormholeFee (.erc20 d.usdc) := by
    rw [debit_other _ hne]
    exact i.amount_le
  have := h₁.trans (moves_debit h₂)
  rwa [add_zero] at this

/-- **All flows of a call for USDC input** cancel. -/
theorem Initiated.moves_usdc (i : Initiated d x msg targetChain recipient params w)
    (hcap : x.supply d.usdc < 2 ^ 64) (hmode : i.mos.input.mode = .usdc) :
    usdcInputAmount i.mos.isExactIn (inputAmount d x msg i.mos params) i.totalFee =
        .ok i.usdcAmount ∧
      Moves w.held i.result.held
        (Pi.single .eth msg.value + Pi.single (.erc20 d.usdc) i.usdcAmount)
        (Pi.single .eth msg.value + Pi.single (.erc20 d.usdc) i.usdcAmount) := by
  have hfee := i.totalFee_eq.2
  obtain ⟨finalAmount, hacq, hamount⟩ := i.acquire_final
  obtain ⟨hfin, hvalue, hle, hmoves, -⟩ := acquireFinal_usdc hmode (by omega) hacq
  have hfinal : i.usdcAmount = finalAmount := by
    rw [hamount, Nat.mod_eq_of_lt (by omega)]
  have hall := ((moves_credit w.held .eth msg.value).trans hmoves).trans i.moves_order
  simp only [zero_add, add_zero, hvalue, ← hfinal] at hall
  exact ⟨hfinal ▸ hfin, hall⟩

/-- The amount of an exact-in order whose balance difference mixed both sides of the swap: had the
router paid less than it pulled, the difference would wrap and exceed what the contract holds. -/
theorem mixed_amount {paid pulled amount usdcAmount before after cap : ℕ} (hcap : cap < 2 ^ 64)
    (hin : before + amount ≤ cap) (hpulled : pulled = amount) (hpaid : paid < 2 ^ 64)
    (hown : after + (pulled + usdcAmount) = before + (amount + paid))
    (hamount : usdcAmount = uncheckedSub paid pulled % 2 ^ 64) : usdcAmount + amount = paid := by
  rcases Nat.lt_or_ge paid pulled with hlt | hge
  · rw [uncheckedSub_of_lt hlt (by omega)] at hamount
    omega
  · rw [uncheckedSub_of_le hge (by omega), Nat.mod_eq_of_lt (by omega)] at hamount
    omega

/-- The limits of the input swap: exact-in, all of the input for at least the minimum; exact-out, at
most the input for exactly the minimum. -/
def Initiated.WithinLimits (i : Initiated d x msg targetChain recipient params w) (r : RouterReply) :
    Prop :=
  if i.mos.isExactIn then r.pulled = inputAmount d x msg i.mos params ∧ i.minUsdcOut ≤ r.paid
  else r.pulled ≤ inputAmount d x msg i.mos params ∧ r.paid = i.minUsdcOut

/-- A router that executes the input swap and honours its limits stays within those of the call. -/
theorem Initiated.withinLimits_of_honours (i : Initiated d x msg targetChain recipient params w)
    {r : RouterReply} {held : Asset → ℕ} (hr : RouterHonours d x (inputSwap d i.mos params).swapType)
    (hex : inputExecution d x msg i.mos params i.totalFee held = some r) : i.WithinLimits r := by
  have hlim := (execution_limits hr hex).2
  rw [i.wrap_minUsdcOut] at hlim
  exact hlim

/-- **All flows of a call for a swapped input.** The ETH that came in cancels; of the rest, the
input and what the router paid stand against what the router pulled, the refund and the order. -/
theorem Initiated.moves_swapped (i : Initiated d x msg targetChain recipient params w)
    (hcap : x.supply d.usdc < 2 ^ 64) (hmode : i.mos.input.mode ≠ .usdc)
    (hr : RouterDeployed d x (inputSwap d i.mos params).swapType →
      RouterHonours d x (inputSwap d i.mos params).swapType) :
    ∃ (r : RouterReply) (held : Asset → ℕ),
      inputExecution d x msg i.mos params i.totalFee held = some r ∧
      ((inputSwap d i.mos params).swapType = SWAP_TYPE_TRADERJOE →
        x.hasCode d.traderJoeRouter = true) ∧
      r.paid < 2 ^ 64 ∧
      w.held (.erc20 (inputToken d i.mos params)) + inputAmount d x msg i.mos params ≤
        x.supply (inputToken d i.mos params) ∧
      i.usdcAmount = (if i.mos.isExactIn then measured (inputSwap d i.mos params).swapType true
        (inputToken d i.mos params) d.usdc r else i.minUsdcOut) % 2 ^ 64 ∧
      Moves w.held i.result.held
        (Pi.single (.erc20 (inputToken d i.mos params)) (inputAmount d x msg i.mos params) +
          Pi.single (.erc20 d.usdc) r.paid)
        (Pi.single (.erc20 (inputToken d i.mos params)) (r.pulled + refundOf i.mos.isExactIn
            (inputAmount d x msg i.mos params) (measured (inputSwap d i.mos params).swapType
              i.mos.isExactIn (inputToken d i.mos params) d.usdc r)) +
          Pi.single (.erc20 d.usdc) i.usdcAmount) := by
  obtain ⟨finalAmount, hacq, hcut⟩ := i.acquire_final
  obtain ⟨r, held, ethIn, hex, hjoe, hin, hamount, heth, hmoves, -⟩ :=
    acquireFinal_swapped hmode hr hacq
  have hne : (Asset.erc20 (inputToken d i.mos params)) ≠ .eth := by simp
  rw [i.wrap_minUsdcOut] at hamount
  have hpaid : r.paid < 2 ^ 64 := Nat.lt_of_le_of_lt (execution_feasible hex).paid_le hcap
  rw [World.withHeld_held, credit_apply, single_other hne] at hin
  refine ⟨r, held, hex, hjoe, hpaid, hin, hamount ▸ hcut, fun a => ?_⟩
  have hall := (((moves_credit w.held .eth msg.value).trans hmoves).trans i.moves_order) a
  have hvalue := single_add_apply .eth ethIn i.wormholeFee a
  rw [heth] at hvalue
  simp only [Pi.add_apply, Pi.zero_apply, single_add_apply] at hall ⊢
  omega

end Success

end SwapLayer.Evm
