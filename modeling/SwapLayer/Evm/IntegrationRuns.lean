import SwapLayer.Evm.IntegrationCalls
import SwapLayer.Evm.Redeem
import SwapLayer.Evm.SentMessages
import SwapLayer.Lib.Abi

/-!
# Transfers through the integrator library

Model of the rest of `evm/src/SwapLayerIntegrationBase.sol`: the overloads of `_swapLayerInitiate` and
`_swapLayerRedeem`, which call the swap layer and decode what it returns, and the two getters
that they use.

* A call sends a message fee for every message that wormhole publishes, two for a fast transfer. Its amount
  is only known when the call is made; a composition has a placeholder for it.
* `_swapLayerInitiateRaw` and `_swapLayerRedeemRaw` catch a revert of the swap layer, and the functions
  that use them revert with it. The integrator has the ETH that it sends.
* The sequence numbers of the liquidity layer are of type `uint64`, but for that of CCTP.

Results:
* `swapLayerInitiate_iff`: when a transfer goes through and what comes of it.
* `swapLayerRedeem_iff`, `swapLayerRedeemWithPayload_iff`: the same for a redemption.
-/

namespace SwapLayer.Evm

/-- `uint8(query)`. -/
def QueryType.toUint8 : QueryType → ℕ
  | feeParams => 0
  | relayingFee => 1
  | peer => 2
  | immutable => 3
  | owner => 4
  | pendingOwner => 5
  | assistant => 6
  | feeUpdater => 7
  | feeRecipient => 8
  | implementation => 9

/-- `uint8(immutableType)`. -/
def ImmutableType.toUint8 : ImmutableType → ℕ
  | wormhole => 0
  | usdc => 1
  | wrappedNative => 2
  | permit2 => 3
  | uniswapRouter => 4
  | traderJoeRouter => 5
  | liquidityLayer => 6

theorem QueryType.ofUint8_toUint8 (q : QueryType) : QueryType.ofUint8 q.toUint8 = .ok q := by
  cases q <;> rfl

theorem QueryType.toUint8_lt (q : QueryType) : q.toUint8 < 256 ^ 1 := by
  cases q <;> decide

theorem ImmutableType.ofUint8_toUint8 (t : ImmutableType) : ImmutableType.ofUint8 t.toUint8 = .ok t := by
  cases t <;> rfl

theorem ImmutableType.toUint8_lt (t : ImmutableType) : t.toUint8 < 256 ^ 1 := by
  cases t <;> decide

end SwapLayer.Evm

namespace SwapLayer.Integration

open ByteString Program Evm

/-! ## Getters -/

section Getters

variable (d : Immutables) (w : World)

/-- `_getAddr`. -/
def getAddr (query : Bytes) : Except Revert Address := do
  let ret ← batchQueries d w query
  return (asAddressUnchecked ret 0).1

/-- `_getImmutable`. -/
def getImmutable (immutabl : ImmutableType) : Except Revert Address :=
  getAddr d w (toBE 1 QueryType.immutable.toUint8 ++ toBE 1 immutabl.toUint8)

def swapLayerUsdc : Except Revert Address := getImmutable d w .usdc

def swapLayerWrappedNative : Except Revert Address := getImmutable d w .wrappedNative

end Getters

section GetterSpecs

variable {d : Immutables} {w : World}

/-- The answer to a single query. -/
theorem batchQueries_single {query : Bytes} {answer : Except Revert Bytes}
    (h : AnsweredAs d w query answer) : batchQueries d w query = answer := by
  have hgather := batchQueries_gather (fun _ : Unit => h) [()]
  rw [List.flatMap_singleton] at hgather
  rw [hgather]
  cases answer with
  | error e => rfl
  | ok a => exact congrArg Except.ok (List.append_nil a)

theorem getAddr_eq {query : Bytes} {a : Address} (h : AnsweredAs d w query (.ok a.toList)) :
    getAddr d w query = .ok a := by
  have hread : sliceFixed 20 a.toList 0 = a := (holds_self _).sliceFixed
  rw [getAddr, batchQueries_single h, except_ok_bind]
  exact congrArg Except.ok hread

/-- A getter of an immutable. -/
theorem getImmutable_eq (t : ImmutableType) : getImmutable d w t = .ok (d.get t) := by
  refine getAddr_eq (answeredAs_append QueryType.immutable.toUint8_lt QueryType.immutable.ofUint8_toUint8
    fun {queries offset} h => ?_)
  have hread : readBE 1 queries offset = t.toUint8 := h.readBE t.toUint8_lt
  show (ImmutableType.ofUint8 (readBE 1 queries offset) >>= fun t =>
    Except.ok ((d.get t).toList, offset + 1)) = _
  rw [hread, t.ofUint8_toUint8]
  rfl

end GetterSpecs

/-! ## Calls -/

/-- Why a function of the library reverts. -/
inductive CallRevert
  | panic (code : ℕ)
  | library (e : IntegrationError)
  /-- A getter reverts. -/
  | getter (r : Revert)
  /-- `ExecutionFailed`, with what the swap layer reverted with. -/
  | executionFailed (errorData : Revert)
  /-- `abi.decode` reverts. -/
  | abiDecode

/-- A function of the library, which calls the swap layer. -/
abbrev Call (α : Type) := StateT World (Except CallRevert) α

/-- The contract that uses the library. -/
structure Integrator (d : Deployment) where
  address : Address
  ne_self : address ≠ d.self
  ne_zero : address ≠ zeroAddress

/-- A call of the swap layer, with this value. -/
def Integrator.msg {d : Deployment} (caller : Integrator d) (value : ℕ) : Msg d :=
  ⟨caller.address, value, caller.ne_self, caller.ne_zero⟩

def OFFSET_WORMHOLE_MESSAGE_FEE_PLACEHOLDER : ℕ := 2 ^ 256 - 3

/-- `_swapLayerReplaceFeePlaceholderUnchecked`. The placeholder is above the offset. -/
def replaceFeePlaceholderUnchecked (placeholder wormholeMsgFee : ℕ) : Except CallRevert ℕ :=
  if (placeholder - OFFSET_WORMHOLE_MESSAGE_FEE_PLACEHOLDER) * wormholeMsgFee < 2 ^ 256 then
    .ok ((placeholder - OFFSET_WORMHOLE_MESSAGE_FEE_PLACEHOLDER) * wormholeMsgFee)
  else .error (.panic PANIC_ARITHMETIC)

/-- `_swapLayerReplaceFeePlaceholderChecked`. -/
def replaceFeePlaceholderChecked (msgValueOrPlaceholder wormholeMsgFee : ℕ) : Except CallRevert ℕ :=
  if msgValueOrPlaceholder < SINGLE_WORMHOLE_MESSAGE_FEE_PLACEHOLDER then .ok msgValueOrPlaceholder
  else replaceFeePlaceholderUnchecked msgValueOrPlaceholder wormholeMsgFee

/-- What a call of `initiate` returns. -/
structure InitiateReturn where
  sentAmountUsdc : ℕ
  sequence : ℕ
  protocolSequence : ℕ
  fastSequence : Option ℕ
  relayingFeeUsdc : Option ℕ
  deriving DecidableEq

/-- The functions that decode it. -/
inductive InitiateKind
  | slow
  | relaySlow
  | fast
  | relayFast
  deriving DecidableEq

/-- `_swapLayerDecodeInitiateSlowReturn`. -/
def decodeInitiateSlowReturn (successData : Bytes) : Option InitiateReturn := do
  let sentAmountUsdc ← Abi.uint successData 0 8
  let sequence ← Abi.uint successData 1 8
  let protocolSequence ← Abi.uint successData 2 32
  return ⟨sentAmountUsdc, sequence, protocolSequence, none, none⟩

/-- `_swapLayerDecodeInitiateRelaySlowReturn`. Here the last value is called `fastSequence`, but the
overloads that return it call it the relaying fee. -/
def decodeInitiateRelaySlowReturn (successData : Bytes) : Option InitiateReturn := do
  let sentAmountUsdc ← Abi.uint successData 0 8
  let sequence ← Abi.uint successData 1 8
  let protocolSequence ← Abi.uint successData 2 32
  let relayingFeeUsdc ← Abi.uint successData 3 8
  return ⟨sentAmountUsdc, sequence, protocolSequence, none, some relayingFeeUsdc⟩

/-- `_swapLayerDecodeInitiateFastReturn`. -/
def decodeInitiateFastReturn (successData : Bytes) : Option InitiateReturn := do
  let sentAmountUsdc ← Abi.uint successData 0 8
  let sequence ← Abi.uint successData 1 8
  let protocolSequence ← Abi.uint successData 2 32
  let fastSequence ← Abi.uint successData 3 8
  return ⟨sentAmountUsdc, sequence, protocolSequence, some fastSequence, none⟩

/-- `_swapLayerDecodeInitiateRelayFastReturn`. -/
def decodeInitiateRelayFastReturn (successData : Bytes) : Option InitiateReturn := do
  let sentAmountUsdc ← Abi.uint successData 0 8
  let sequence ← Abi.uint successData 1 8
  let protocolSequence ← Abi.uint successData 2 32
  let fastSequence ← Abi.uint successData 3 8
  let relayingFeeUsdc ← Abi.uint successData 4 8
  return ⟨sentAmountUsdc, sequence, protocolSequence, some fastSequence, some relayingFeeUsdc⟩

def InitiateKind.decode : InitiateKind → Bytes → Option InitiateReturn
  | slow => decodeInitiateSlowReturn
  | relaySlow => decodeInitiateRelaySlowReturn
  | fast => decodeInitiateFastReturn
  | relayFast => decodeInitiateRelayFastReturn

/-- Which function an overload of `_swapLayerInitiate` calls. -/
def InitiateRequest.kind : InitiateRequest → InitiateKind
  | initiateNative .. => .slow
  | initiateUsdc .. => .slow
  | initiateToken .. => .slow
  | initiateRelayNative .. => .relaySlow
  | initiateRelayUsdc .. => .relaySlow
  | initiateRelayToken .. => .relaySlow
  | initiatePayloadNative .. => .slow
  | initiatePayloadUsdc .. => .slow
  | initiatePayloadToken .. => .slow
  | initiateNativeFast .. => .fast
  | initiateUsdcFast .. => .fast
  | initiateTokenFast .. => .fast
  | initiateNativeRelayFast .. => .relayFast
  | initiateUsdcRelayFast .. => .relayFast
  | initiateTokenRelayFast .. => .relayFast
  | initiateNativePayloadFast .. => .fast
  | initiateUsdcPayloadFast .. => .fast
  | initiateTokenPayloadFast .. => .fast

/-- The value of an ABI decoder. -/
def decoded {α : Type} : Option α → Except CallRevert α
  | some a => .ok a
  | none => .error .abiDecode

section Initiate

variable (d : Immutables) (x : Externals) (caller : Integrator d.toDeployment)

/-- `_swapLayerInitiateRaw` and `_swapLayerInitiate` of composed parameters. -/
def initiateComposed (params : ComposedInitiateParams) : Call Bytes := do
  let value ← lift (replaceFeePlaceholderChecked params.msgValueOrPlaceholder x.messageFee)
  fun w => (initiate d.toDeployment x (caller.msg value) params.targetParams.chainId
    params.targetParams.recipient params.params w).mapError .executionFailed

/-- The overloads of `_swapLayerComposeInitiate`, which ask for the tokens. -/
def composeWithGetters (w : World) (request : InitiateRequest) :
    Except CallRevert ComposedInitiateParams := do
  let wrappedNative ← (swapLayerWrappedNative d w).mapError .getter
  let usdc ← (swapLayerUsdc d w).mapError .getter
  (composeInitiate wrappedNative usdc request).mapError .library

/-- The overloads of `_swapLayerInitiate`. -/
def swapLayerInitiate (request : InitiateRequest) : Call InitiateReturn := do
  let w ← get
  let composed ← lift (composeWithGetters d w request)
  let successData ← initiateComposed d x caller composed
  lift (decoded (request.kind.decode successData))

end Initiate

/-- The values that the code outside returns are of their types: the sequence numbers of the liquidity
layer, and the amounts of the router of TraderJoe. -/
structure Typed (x : Externals) : Prop where
  sequences : ∀ {order sequences}, x.placeOrder order = some sequences →
    sequences.1 < 256 ^ 8 ∧ sequences.2.1 < 256 ^ 8 ∧ sequences.2.2 < 256 ^ 32
  amounts : ∀ {call reply amounts}, x.traderJoe call = .ok reply → reply.amounts = some amounts →
    ∀ amount ∈ amounts, amount < 2 ^ 256

def RedeemArg.mode : RedeemArg → RedeemMode
  | direct => .direct
  | relay _ => .relay
  | payload _ => .payload

def InputArg.tokenType : InputArg → IoToken
  | native _ => .gas
  | usdc _ => .usdc
  | token .. => .other

/-- The message fees of a transfer. -/
def Composition.wormholeFee (c : Composition) (x : Externals) : ℕ :=
  if c.fastTransfer.isSome then wrap (x.messageFee * 2) else x.messageFee

/-- What a call returns for an order. -/
def Composition.returned (c : Composition) (order : Order) (sequences : ℕ × ℕ × ℕ) (relayingFee : ℕ) :
    InitiateReturn where
  sentAmountUsdc := order.amount
  sequence := sequences.1
  protocolSequence := sequences.2.2
  fastSequence := if c.fastTransfer.isSome then some sequences.2.1 else none
  relayingFeeUsdc := if c.redeem.mode = .relay then some relayingFee else none

section InitiateSpecs

/-- The function for a mode. -/
def InitiateKind.of : Bool → RedeemMode → InitiateKind
  | false, .relay => .relaySlow
  | false, _ => .slow
  | true, .relay => .relayFast
  | true, _ => .fast

/-- The overloads call the function for their mode. -/
theorem InitiateRequest.kind_eq (r : InitiateRequest) :
    r.kind = .of r.composition.fastTransfer.isSome r.composition.redeem.mode := by
  cases r <;> rfl

/-- What an overload pays with: native tokens are the value themselves, and otherwise a placeholder stands
for a message fee, or for two. -/
theorem InitiateRequest.placeholder_eq (r : InitiateRequest) (h : r.composition.input.tokenType ≠ .gas) :
    r.composition.msgValueOrPlaceholder = if r.composition.fastTransfer.isSome then
      DOUBLE_WORMHOLE_MESSAGE_FEE_PLACEHOLDER else SINGLE_WORMHOLE_MESSAGE_FEE_PLACEHOLDER := by
  cases r <;> first | rfl | exact absurd rfl h

/-- A placeholder becomes the message fees. -/
theorem replaceFeePlaceholder_ok {fast : Bool} {fee value : ℕ}
    (h : replaceFeePlaceholderChecked (if fast then DOUBLE_WORMHOLE_MESSAGE_FEE_PLACEHOLDER else
      SINGLE_WORMHOLE_MESSAGE_FEE_PLACEHOLDER) fee = .ok value) :
    value = if fast then wrap (fee * 2) else fee := by
  have hunchecked {placeholder messages : ℕ}
      (hp : placeholder = OFFSET_WORMHOLE_MESSAGE_FEE_PLACEHOLDER + messages)
      (h : replaceFeePlaceholderUnchecked placeholder fee = .ok value) :
      messages * fee < 2 ^ 256 ∧ value = messages * fee := by
    unfold replaceFeePlaceholderUnchecked at h
    rw [hp, Nat.add_sub_cancel_left] at h
    split at h
    · rename_i hlt
      exact ⟨hlt, (Except.ok.inj h).symm⟩
    · cases h
  cases fast with
  | false =>
    have hp : SINGLE_WORMHOLE_MESSAGE_FEE_PLACEHOLDER = OFFSET_WORMHOLE_MESSAGE_FEE_PLACEHOLDER + 1 := by
      decide
    obtain ⟨-, hvalue⟩ := hunchecked hp h
    rw [hvalue, Nat.one_mul]
    rfl
  | true =>
    have hp : DOUBLE_WORMHOLE_MESSAGE_FEE_PLACEHOLDER = OFFSET_WORMHOLE_MESSAGE_FEE_PLACEHOLDER + 2 := by
      decide
    obtain ⟨hlt, hvalue⟩ := hunchecked hp h
    rw [Nat.mul_comm] at hlt hvalue
    rw [hvalue, if_pos rfl, wrap_of_lt hlt]

section Transfer

variable {d : Immutables} {x : Externals} {caller : Integrator d.toDeployment} {w w' : World} {value : ℕ}
  {chain : ℕ} {recipient : Bytes32} {c : Composition} {output : OutputParams}

theorem redeem_mode {bs : Bytes} {b : RedeemMOS} {r : RedeemArg} (h : RedeemReads bs b r.fields) :
    b.mode = r.mode := by
  cases r with
  | direct => exact h.1
  | relay => exact h.1
  | payload => exact h.1

theorem input_mode {bs : Bytes} {b : IoTokenMOS} {input : InputArg} (h : InputReads bs b input.fields) :
    b.mode = input.tokenType := by
  cases input with
  | native => exact h.1
  | usdc => exact h.1
  | token => exact h.1

/-- **What a call returns is decoded** by the function for its mode. -/
theorem decode_returned (htyped : Typed x) {params : Bytes}
    (i : Initiated d.toDeployment x (caller.msg value) chain recipient params w) {sequences : ℕ × ℕ × ℕ}
    (hplaced : x.placeOrder i.order = some sequences)
    (hfast : fastPart i.mos params = c.fastTransfer.map fun f => (f.maxFastFeeUsdc, f.auctionDeadline))
    (hmode : i.mos.redeem.mode = c.redeem.mode) :
    (InitiateKind.of c.fastTransfer.isSome c.redeem.mode).decode (i.returned sequences) =
      some (c.returned i.order sequences i.relayingFee) := by
  obtain ⟨hsequence, hfastSequence, hprotocolSequence⟩ := htyped.sequences hplaced
  have hamount : i.usdcAmount < 256 ^ 8 := (acquireUsdc_returned i.acquire).1
  have hfee : i.relayingFee < 256 ^ 8 := Nat.lt_trans (redeemParams_fee_lt i.redeem) (by decide)
  have hsome : (fastPart i.mos params).isSome = c.fastTransfer.isSome := by rw [hfast, Option.isSome_map]
  -- the words that are returned
  have hwords : i.returned sequences = ([i.usdcAmount, sequences.1, sequences.2.2] ++
      ((if c.fastTransfer.isSome then [sequences.2.1] else []) ++
        if c.redeem.mode = .relay then [i.relayingFee] else [])).flatMap (toBE 32) := by
    rw [Initiated.returned, hsome, hmode, encodeOrderResult]
    cases c.fastTransfer.isSome <;> by_cases hrelay : c.redeem.mode = .relay <;> simp [hrelay]
  rw [hwords]
  have h₀ (vs : List ℕ) : Abi.uint ((i.usdcAmount :: vs).flatMap (toBE 32)) 0 8 = some i.usdcAmount :=
    Abi.words_uint rfl (by decide) hamount
  have h₁ (v : ℕ) (vs : List ℕ) :
      Abi.uint ((v :: sequences.1 :: vs).flatMap (toBE 32)) 1 8 = some sequences.1 :=
    Abi.words_uint rfl (by decide) hsequence
  have h₂ (v v' : ℕ) (vs : List ℕ) :
      Abi.uint ((v :: v' :: sequences.2.2 :: vs).flatMap (toBE 32)) 2 32 = some sequences.2.2 :=
    Abi.words_uint rfl (by decide) hprotocolSequence
  have h₃ (v v' v'' : ℕ) {u : ℕ} (hu : u < 256 ^ 8) (vs : List ℕ) :
      Abi.uint ((v :: v' :: v'' :: u :: vs).flatMap (toBE 32)) 3 8 = some u :=
    Abi.words_uint rfl (by decide) hu
  have h₄ (v v' v'' u : ℕ) (vs : List ℕ) :
      Abi.uint ((v :: v' :: v'' :: u :: i.relayingFee :: vs).flatMap (toBE 32)) 4 8 = some i.relayingFee :=
    Abi.words_uint rfl (by decide) hfee
  unfold Composition.returned
  cases c.fastTransfer.isSome with
  | false =>
    have hslow : decodeInitiateSlowReturn ([i.usdcAmount, sequences.1, sequences.2.2].flatMap (toBE 32)) =
        some ⟨i.usdcAmount, sequences.1, sequences.2.2, none, none⟩ := by
      rw [decodeInitiateSlowReturn, h₀, h₁, h₂]
      rfl
    cases c.redeem.mode with
    | direct => exact hslow
    | payload => exact hslow
    | relay =>
      show decodeInitiateRelaySlowReturn
        ([i.usdcAmount, sequences.1, sequences.2.2, i.relayingFee].flatMap (toBE 32)) = _
      rw [decodeInitiateRelaySlowReturn, h₀, h₁, h₂, h₃ _ _ _ hfee]
      rfl
  | true =>
    have hfast : decodeInitiateFastReturn
        ([i.usdcAmount, sequences.1, sequences.2.2, sequences.2.1].flatMap (toBE 32)) =
          some ⟨i.usdcAmount, sequences.1, sequences.2.2, some sequences.2.1, none⟩ := by
      rw [decodeInitiateFastReturn, h₀, h₁, h₂, h₃ _ _ _ hfastSequence]
      rfl
    cases c.redeem.mode with
    | direct => exact hfast
    | payload => exact hfast
    | relay =>
      show decodeInitiateRelayFastReturn ([i.usdcAmount, sequences.1, sequences.2.2, sequences.2.1,
        i.relayingFee].flatMap (toBE 32)) = _
      rw [decodeInitiateRelayFastReturn, h₀, h₁, h₂, h₃ _ _ _ hfastSequence, h₄]
      rfl

/-- The order of a transfer is what was asked for. -/
structure Ordered (c : Composition) (output : OutputParams)
    (i : Initiated d.toDeployment x (caller.msg value) chain recipient (c.fields output).encode w) : Prop where
  reads : Reads (c.fields output).encode i.mos (c.fields output)
  value : i.order.value = c.wormholeFee x
  fast : i.order.fast = c.fastTransfer.map fun f => (f.maxFastFeeUsdc, f.auctionDeadline)
  message : i.order.redeemerMessage =
    encodeSwapMessage recipient i.fields.mode i.fields.encode output.fields.encode
  mode : i.fields.mode = c.redeem.mode
  payload : ∀ bytes, c.redeem = .payload bytes →
    i.fields.sender = toUniversalAddress caller.address ∧ i.fields.bytes = bytes
  relayingFee : ∀ params, c.redeem = .relay params → i.relayingFee ≤ params.maxRelayingFeeUsdc

/-- **An order is what was asked for**, if the value of the call is the message fees, or is swapped. -/
theorem ordered (haccepted : c.Accepted d.wnative d.usdc)
    (houtput : encodeOutputParams output = .ok c.outputParams) (hpayload : c.redeem.PayloadFits)
    (hvalue : c.input.tokenType ≠ .gas → value = c.wormholeFee x)
    (i : Initiated d.toDeployment x (caller.msg value) chain recipient (c.fields output).encode w) :
    Ordered c output i := by
  obtain ⟨hreads, hmessage⟩ := message_understood (haccepted.fits houtput hpayload) i
  obtain ⟨hfast, hfastMode⟩ := hreads.fastTransfer.fastPart
  have hmode : i.mos.redeem.mode = c.redeem.mode := redeem_mode hreads.redeem
  have hinput : i.mos.input.mode = c.input.tokenType := input_mode hreads.input
  refine ⟨hreads, ?_, hfast, hmessage, i.fields_mode.trans hmode, fun bytes hbytes => ?_,
    fun params hparams => ?_⟩
  · have hfee : i.wormholeFee = _ := (acquireUsdc_returned i.acquire).2
    show i.wormholeFee = _
    rw [hfee, hinput]
    split
    · rw [hfastMode, Composition.wormholeFee, Composition.fields, Option.isSome_map]
      cases c.fastTransfer.isSome <;> rfl
    · rename_i hgas
      exact hvalue hgas
  · have hredeem : RedeemReads _ i.mos.redeem c.redeem.fields := hreads.redeem
    rw [hbytes] at hredeem
    exact i.fields_payload hredeem
  · have hredeem : RedeemReads _ i.mos.redeem c.redeem.fields := hreads.redeem
    rw [hparams] at hredeem
    obtain ⟨hrelay, hread⟩ := hredeem
    obtain ⟨_, _, -, -, hmax⟩ := redeemParams_relay hrelay i.redeem
    rwa [hread] at hmax

/-- The swap layer gets the composition of an overload. -/
theorem composeWithGetters_ok {request : InitiateRequest} {composed : ComposedInitiateParams}
    (houtput : encodeOutputParams output = .ok request.composition.outputParams) :
    composeWithGetters d w request = .ok composed ↔
      request.composition.Accepted d.wnative d.usdc ∧ composed =
        ⟨request.composition.msgValueOrPlaceholder, request.composition.targetParams,
          (request.composition.fields output).encode⟩ := by
  have hnative : swapLayerWrappedNative d w = .ok d.wnative := getImmutable_eq .wrappedNative
  have husdc : swapLayerUsdc d w = .ok d.usdc := getImmutable_eq .usdc
  rw [composeWithGetters, hnative, husdc]
  exact except_mapError_ok.trans (compose_ok houtput)

/-- **A transfer through the library**, whatever the overload, goes through iff the library accepts the
arguments, the message fees fit, and the swap layer gets as far as an order that the liquidity layer
takes. The order is then what was asked for, and what the call returns are its amount, its sequence
numbers and the relaying fee. -/
theorem swapLayerInitiate_iff {request : InitiateRequest} {ret : InitiateReturn} (htyped : Typed x)
    (houtput : encodeOutputParams output = .ok request.composition.outputParams)
    (hpayload : request.composition.redeem.PayloadFits) :
    swapLayerInitiate d x caller request w = .ok (ret, w') ↔
      request.composition.Accepted d.wnative d.usdc ∧ ∃ value,
        replaceFeePlaceholderChecked request.composition.msgValueOrPlaceholder x.messageFee = .ok value ∧
        ∃ (i : Initiated d.toDeployment x (caller.msg value) request.composition.targetParams.chainId
            request.composition.targetParams.recipient (request.composition.fields output).encode w)
          (sequences : ℕ × ℕ × ℕ), x.placeOrder i.order = some sequences ∧ w' = i.result ∧
            Ordered request.composition output i ∧
            ret = request.composition.returned i.order sequences i.relayingFee := by
  -- the value of the call is the message fees, or is swapped
  have hfees {value : ℕ} (h : replaceFeePlaceholderChecked request.composition.msgValueOrPlaceholder
      x.messageFee = .ok value) (hgas : request.composition.input.tokenType ≠ .gas) :
      value = request.composition.wormholeFee x := by
    rw [request.placeholder_eq hgas] at h
    exact replaceFeePlaceholder_ok h
  have hdecode {value : ℕ} {i : Initiated d.toDeployment x (caller.msg value)
      request.composition.targetParams.chainId request.composition.targetParams.recipient
      (request.composition.fields output).encode w} {sequences : ℕ × ℕ × ℕ}
      (hplaced : x.placeOrder i.order = some sequences) (ho : Ordered request.composition output i) :
      request.kind.decode (i.returned sequences) =
        some (request.composition.returned i.order sequences i.relayingFee) := by
    rw [request.kind_eq]
    exact decode_returned htyped i hplaced ho.fast (i.fields_mode.symm.trans ho.mode)
  constructor
  · intro h
    obtain ⟨w₀, w₁, hget, h₁⟩ := bind_ok.1 h
    cases hget
    obtain ⟨composed, w₂, hcompose, h₂⟩ := bind_ok.1 h₁
    obtain ⟨hcomposed, rfl⟩ := lift_ok.1 hcompose
    obtain ⟨haccepted, rfl⟩ := (composeWithGetters_ok houtput).1 hcomposed
    obtain ⟨successData, w₃, hcall, h₃⟩ := bind_ok.1 h₂
    obtain ⟨value, w₄, hvalue, h₄⟩ := bind_ok.1 hcall
    obtain ⟨hreplaced, rfl⟩ := lift_ok.1 hvalue
    obtain ⟨i, sequences, hplaced, rfl, rfl⟩ := initiate_iff.1 (except_mapError_ok.1 h₄)
    have ho := ordered haccepted houtput hpayload (hfees hreplaced) i
    rw [hdecode hplaced ho] at h₃
    obtain ⟨hret, rfl⟩ := lift_ok.1 h₃
    exact ⟨haccepted, value, hreplaced, i, sequences, hplaced, rfl, ho, (Except.ok.inj hret).symm⟩
  · rintro ⟨haccepted, value, hreplaced, i, sequences, hplaced, rfl, ho, rfl⟩
    refine bind_ok.2 ⟨w, w, rfl, bind_ok.2 ⟨_, w, lift_ok.2 ⟨(composeWithGetters_ok houtput).2
      ⟨haccepted, rfl⟩, rfl⟩, bind_ok.2 ⟨i.returned sequences, i.result, bind_ok.2 ⟨value, w,
        lift_ok.2 ⟨hreplaced, rfl⟩, ?_⟩, lift_ok.2 ⟨?_, rfl⟩⟩⟩⟩
    · exact except_mapError_ok.2 (initiate_iff.2 ⟨i, sequences, hplaced, rfl, rfl⟩)
    · rw [hdecode hplaced ho]
      rfl

end Transfer

end InitiateSpecs

/-! ## Redemptions -/

structure ComposedRedeemParams where
  params : Bytes
  attestation : Bytes

/-- An argument struct of `_swapLayerComposeRedeem`. -/
inductive RedeemRequest
  | redeem (attestation : Bytes)
  | redeemOverride (outputSwap attestation : Bytes)

/-- The overloads of `_swapLayerComposeRedeem`. -/
def composeRedeem : RedeemRequest → ComposedRedeemParams
  | .redeem attestation => ⟨[], attestation⟩
  | .redeemOverride outputSwap attestation => ⟨outputSwap, attestation⟩

/-- `_swapLayerDecodeRedeem`. -/
def decodeRedeem (successData : Bytes) : Option (Address × ℕ) := do
  let outputToken ← Abi.address successData 0
  let outputAmount ← Abi.uint successData 1 32
  return (outputToken, outputAmount)

/-- `_swapLayerDecodeRedeemWithPayload`. -/
def decodeRedeemWithPayload (successData : Bytes) : Option (Address × ℕ × Bytes32 × Bytes) := do
  let outputToken ← Abi.address successData 0
  let outputAmount ← Abi.uint successData 1 32
  let sender ← Abi.bytes32 successData 2
  let payload ← Abi.bytes successData 3
  return (outputToken, outputAmount, sender, payload)

section Redeem

variable (d : Deployment) (x : Externals) (caller : Integrator d)

/-- `_swapLayerRedeemRaw` and `_swapLayerRedeem` of composed parameters: no value is sent. -/
def redeemComposed (params : ComposedRedeemParams) : Call Bytes := fun w =>
  (redeem d x (caller.msg 0) params.params params.attestation w).mapError .executionFailed

/-- The overloads of `_swapLayerRedeem`. -/
def swapLayerRedeem (request : RedeemRequest) : Call (Address × ℕ) := do
  let successData ← redeemComposed d x caller (composeRedeem request)
  lift (decoded (decodeRedeem successData))

/-- The overloads of `_swapLayerRedeemWithPayload`. -/
def swapLayerRedeemWithPayload (request : RedeemRequest) : Call (Address × ℕ × Bytes32 × Bytes) := do
  let successData ← redeemComposed d x caller (composeRedeem request)
  lift (decoded (decodeRedeemWithPayload successData))

end Redeem

section RedeemSpecs

variable {d : Deployment} {x : Externals} {msg : Msg d} {caller : Integrator d} {w w' : World}
  {params attestations : Bytes}

theorem wrap_lt (n : ℕ) : wrap n < 2 ^ 256 := Nat.mod_lt _ (by decide)

/-- A swap yields a number of 256 bits: a difference of balances, or what the router returns. -/
theorem swap_lt (htyped : Typed x) {swapType inputAmount outputAmount deadline n : ℕ} {isExactIn : Bool}
    {inputToken outputToken : Address} {revertOnFailure approveCheck : Bool} {path : Bytes}
    (h : swap d x swapType isExactIn inputAmount outputAmount inputToken outputToken revertOnFailure
      approveCheck deadline path w = .ok (n, w')) : n < 2 ^ 256 := by
  have hzero {w w' : World} (h : (pure 0 : Contract ℕ) w = .ok (n, w')) : n < 2 ^ 256 := by
    rw [(pure_ok.1 h).1]
    decide
  have hfail {e : Revert} {zero : Contract ℕ} {w w' : World}
      (hpure : zero w = .ok (n, w') → n < 2 ^ 256)
      (h : (if revertOnFailure then fail e else zero) w = .ok (n, w')) : n < 2 ^ 256 := by
    split at h
    · exact (fail_ok.1 h).elim
    · exact hpure h
  unfold swap at h
  split at h
  · exact hfail hzero h
  split at h
  · obtain ⟨_, _, -, h₁⟩ := bind_ok.1 h
    split at h₁
    · obtain ⟨⟨balanceBefore, balanceAfter⟩, _, -, hret⟩ := bind_ok.1 h₁
      rw [(pure_ok.1 hret).1]
      exact wrap_lt _
    · obtain ⟨_, _, -, h₂⟩ := bind_ok.1 h₁
      obtain ⟨⟨balanceBefore, balanceAfter⟩, _, -, hret⟩ := bind_ok.1 h₂
      rw [(pure_ok.1 hret).1]
      exact wrap_lt _
  split at h
  · obtain ⟨_, _, -, h₁⟩ := bind_ok.1 h
    obtain ⟨result, _, hcall, h₂⟩ := bind_ok.1 h₁
    cases result with
    | error reason => exact hfail hzero h₂
    | ok amounts =>
      obtain ⟨hamount, -⟩ := lift_ok.1 h₂
      unfold callTraderJoe at hcall
      split at hcall
      · cases hcall
      · rename_i reply houtcome
        cases hcall
        have hreply := (outcome_ok.1 houtcome).1
        unfold traderJoeReply at hreply
        split at hreply
        · cases hreply
          cases hamount
        · unfold decodeAmount at hamount
          split at hamount
          · cases hamount
          · cases hamount
          · rename_i hamounts
            cases hamount
            exact htyped.amounts hreply hamounts n (List.mem_cons_self ..)
  · exact hfail hzero h

/-- The amount that a redemption reports has 256 bits. -/
theorem reported_lt (htyped : Typed x) (r : Redeemed d x msg params attestations w) :
    r.reported.2 < 2 ^ 256 := by
  have hsupply := x.supply_lt d.usdc
  have hwithin := r.within
  have hplan : r.plan.usdcAmount ≤ r.fill.amount := by
    have h := redeemPlan_ok.1 r.planOk
    split at h
    · rw [h.2.2.2]
      exact Nat.sub_le ..
    · rw [h.2.2]
  have hpaid : r.paid.amount < 2 ^ 256 := by
    have h := r.swapOk
    cases houtput : r.output with
    | none =>
      rw [houtput] at h
      rw [(pure_ok.1 h).1]
      show r.plan.usdcAmount < 2 ^ 256
      omega
    | some s =>
      rw [houtput] at h
      obtain ⟨outputAmount, _, hswap, hret⟩ := bind_ok.1 h
      rw [(pure_ok.1 hret).1]
      split
      · show r.plan.usdcAmount < 2 ^ 256
        omega
      · exact swap_lt htyped hswap
  have h := r.payOk
  unfold payRecipient at h
  split at h
  · obtain ⟨_, _, -, h₁⟩ := bind_ok.1 h
    obtain ⟨outputAmount, _, hadd, h₂⟩ := bind_ok.1 h₁
    obtain ⟨_, _, -, hret⟩ := bind_ok.1 h₂
    obtain ⟨hlt, hsum⟩ := checkedAdd_ok.1 (lift_ok.1 hadd).1
    rw [(pure_ok.1 hret).1]
    show outputAmount < 2 ^ 256
    rwa [hsum]
  · obtain ⟨_, _, -, h₁⟩ := bind_ok.1 h
    obtain ⟨_, _, -, hret⟩ := bind_ok.1 h₁
    rw [(pure_ok.1 hret).1]
    exact hpaid

/-- Payloads are shorter than 2^16. -/
theorem payload_lt {message : Bytes} {sms : SwapMessageStructure}
    (h : parseSwapMessageStructure message = .ok sms) : sms.payload.length < 256 ^ 2 := by
  obtain ⟨_, -, h₁⟩ := except_bind_ok.1 h
  obtain ⟨_, -, h₂⟩ := except_bind_ok.1 h₁
  obtain ⟨⟨mode, offset⟩, -, h₃⟩ := except_bind_ok.1 h₂
  cases h₃
  show (parseRedeemParams mode message offset).2.1.length < 256 ^ 2
  cases mode with
  | payload =>
    show (slice message _ (readBE 2 message (offset + 32))).length < 256 ^ 2
    rw [length_slice]
    exact readBE_lt ..
  | _ => exact Nat.pos_of_ne_zero (by decide)

/-! ### What is returned -/

section Returned

variable {sms : SwapMessageStructure} {outputToken : Address} {outputAmount : ℕ}

theorem redeemResult_payload (h : sms.redeemMode = .payload) :
    encodeRedeemResult sms outputToken outputAmount = (toUniversalAddress outputToken).toList ++
      (toBE 32 outputAmount ++ (sms.sender.toList ++ (toBE 32 (4 * 32) ++
        ((toBE 32 sms.payload.length ++ sms.payload) ++
          List.replicate ((32 - sms.payload.length % 32) % 32) 0)))) := by
  simp only [encodeRedeemResult, h, List.append_assoc]

theorem redeemResult_other (h : sms.redeemMode ≠ .payload) :
    encodeRedeemResult sms outputToken outputAmount =
      (toUniversalAddress outputToken).toList ++ toBE 32 outputAmount := by
  unfold encodeRedeemResult
  split
  · rename_i hmode
    exact absurd hmode h
  · rfl

/-- Token and amount are decoded, whatever the mode. -/
theorem redeemResult_head (hamount : outputAmount < 2 ^ 256) :
    Abi.address (encodeRedeemResult sms outputToken outputAmount) 0 = some outputToken ∧
      Abi.uint (encodeRedeemResult sms outputToken outputAmount) 1 32 = some outputAmount := by
  obtain ⟨rest, hrest⟩ : ∃ rest, encodeRedeemResult sms outputToken outputAmount =
      (toUniversalAddress outputToken).toList ++ (toBE 32 outputAmount ++ rest) := by
    by_cases h : sms.redeemMode = .payload
    · exact ⟨_, redeemResult_payload h⟩
    · exact ⟨[], by rw [redeemResult_other h, List.append_nil]⟩
  have h := holds_of_eq hrest
  exact ⟨Abi.address_holds h.left,
    Abi.uint_holds (by decide) hamount (h.rest (toUniversalAddress outputToken).toList_length).left⟩

/-- The result of a redemption with a payload is decoded as such, and that of no other. -/
theorem decodeRedeemWithPayload_iff (hamount : outputAmount < 2 ^ 256)
    (hpayload : sms.payload.length < 256 ^ 2) {result : Address × ℕ × Bytes32 × Bytes} :
    decodeRedeemWithPayload (encodeRedeemResult sms outputToken outputAmount) = some result ↔
      sms.redeemMode = .payload ∧ result = (outputToken, outputAmount, sms.sender, sms.payload) := by
  have hhead : Abi.address (encodeRedeemResult sms outputToken outputAmount) 0 = some outputToken ∧
      Abi.uint (encodeRedeemResult sms outputToken outputAmount) 1 32 = some outputAmount :=
    redeemResult_head hamount
  rw [decodeRedeemWithPayload, hhead.1, hhead.2]
  by_cases h : sms.redeemMode = .payload
  · have hall : Holds (encodeRedeemResult sms outputToken outputAmount) 0 _ :=
      holds_of_eq (redeemResult_payload h)
    have hsender := (hall.rest (toUniversalAddress outputToken).toList_length).rest (length_toBE 32 _)
    have hoffset := hsender.rest sms.sender.toList_length
    have hbytes := hoffset.rest (length_toBE 32 _)
    rw [Abi.bytes32_holds hsender.left, Abi.bytes_holds (by decide) (Nat.lt_trans hpayload (by decide))
      hoffset.left hbytes.left]
    exact ⟨fun heq => ⟨h, (Option.some.inj heq).symm⟩, fun heq => congrArg some heq.2.symm⟩
  · -- the result ends before a sender
    have hnone : Abi.bytes32 (encodeRedeemResult sms outputToken outputAmount) 2 = none := by
      rw [redeemResult_other h, Abi.bytes32, Abi.word, if_neg]
      · rfl
      · rw [List.length_append, length_toBE, (toUniversalAddress outputToken).toList_length]
        decide
    rw [hnone]
    exact ⟨fun heq => (by cases heq), fun heq => absurd heq.1 h⟩

end Returned

/-- **A redemption through the library** goes through iff the swap layer redeems, and reports the token and
the amount that were paid out. -/
theorem swapLayerRedeem_iff (htyped : Typed x) {request : RedeemRequest} {result : Address × ℕ} :
    swapLayerRedeem d x caller request w = .ok (result, w') ↔
      ∃ r : Redeemed d x (caller.msg 0) (composeRedeem request).params (composeRedeem request).attestation w,
        w' = r.result ∧ result = r.reported := by
  have hdecode (r : Redeemed d x (caller.msg 0) (composeRedeem request).params
      (composeRedeem request).attestation w) : decodeRedeem r.ret = some r.reported := by
    have hhead : Abi.address r.ret 0 = some r.reported.1 ∧ Abi.uint r.ret 1 32 = some r.reported.2 :=
      redeemResult_head (reported_lt htyped r)
    rw [decodeRedeem, hhead.1, hhead.2]
    rfl
  constructor
  · intro h
    obtain ⟨successData, w₁, hcall, h₁⟩ := bind_ok.1 h
    obtain ⟨r, rfl, rfl⟩ := redeem_ok.1 (except_mapError_ok.1 hcall)
    rw [hdecode r] at h₁
    obtain ⟨hresult, rfl⟩ := lift_ok.1 h₁
    exact ⟨r, rfl, (Except.ok.inj hresult).symm⟩
  · rintro ⟨r, rfl, rfl⟩
    refine bind_ok.2 ⟨r.ret, r.result, except_mapError_ok.2 (redeem_ok.2 ⟨r, rfl, rfl⟩), ?_⟩
    rw [hdecode r]
    rfl

/-- **With a payload** only a message that has one is redeemed; sender and payload are those of the
message. -/
theorem swapLayerRedeemWithPayload_iff (htyped : Typed x) {request : RedeemRequest}
    {result : Address × ℕ × Bytes32 × Bytes} :
    swapLayerRedeemWithPayload d x caller request w = .ok (result, w') ↔
      ∃ r : Redeemed d x (caller.msg 0) (composeRedeem request).params (composeRedeem request).attestation w,
        r.sms.redeemMode = .payload ∧ w' = r.result ∧
          result = (r.reported.1, r.reported.2, r.sms.sender, r.sms.payload) := by
  have hdecode (r : Redeemed d x (caller.msg 0) (composeRedeem request).params
      (composeRedeem request).attestation w) : decodeRedeemWithPayload r.ret = some result ↔
        r.sms.redeemMode = .payload ∧
          result = (r.reported.1, r.reported.2, r.sms.sender, r.sms.payload) :=
    decodeRedeemWithPayload_iff (reported_lt htyped r) (payload_lt r.parsed)
  constructor
  · intro h
    obtain ⟨successData, w₁, hcall, h₁⟩ := bind_ok.1 h
    obtain ⟨r, rfl, rfl⟩ := redeem_ok.1 (except_mapError_ok.1 hcall)
    obtain ⟨hresult, rfl⟩ := lift_ok.1 h₁
    unfold decoded at hresult
    split at hresult
    · rename_i hsome
      cases hresult
      obtain ⟨hmode, heq⟩ := (hdecode r).1 hsome
      exact ⟨r, hmode, rfl, heq⟩
    · cases hresult
  · rintro ⟨r, hmode, rfl, heq⟩
    refine bind_ok.2 ⟨r.ret, r.result, except_mapError_ok.2 (redeem_ok.2 ⟨r, rfl, rfl⟩), ?_⟩
    rw [(hdecode r).2 ⟨hmode, heq⟩]
    rfl

end RedeemSpecs

end SwapLayer.Integration
