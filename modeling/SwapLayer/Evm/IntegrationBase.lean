import SwapLayer.Evm.Message
import SwapLayer.Evm.ParamLayout

/-!
# The integrator library

Model of the encoders of `evm/src/SwapLayerIntegrationBase.sol`, for contracts that call `initiate`.
`_swapLayerComposeInitiate` has eighteen overloads: three kinds of input token, three redeem modes, slow
and fast. An `InitiateRequest` is an argument of one of them. What an overload passes to
`abi.encodePacked` is its `composition`, and `compose` encodes that.

* `abi.encodePacked` concatenates its arguments, each in its own width.
* In Solidity, `+` binds tighter than `<<`, and a cast `uintN` cuts to `N` bits. Several fields are
  packed into one integer. The sums are checked and far below `2^256`.
* The addresses of USDC and of the wrapped native token are those that the library asks the swap layer
  for.
* Output parameters come from one of the helper functions (`encodeOutputParams`).

Each field has its width checked, except the length of a payload.

Results:
* `encodeSwapParams_ok`: which swaps are encoded, and as what; a full path is stripped of its tokens.
* `compose_ok`: what a composition is encoded as, if the checks let it through.
* `composeInitiate_understood_iff`: when the contract understands it.
-/

namespace SwapLayer.Integration

open ByteString Program Evm

inductive IntegrationError
  | invalidPathParams
  | exceedsMaximum (value maximum : ℕ)
  /-- Of `GasDropoffLib`. -/
  | exceedsMax (val : ℕ)

/-! ## Arguments -/

structure TargetParams where
  chainId : ℕ
  recipient : Bytes32

structure FastTransferParams where
  maxFastFeeUsdc : ℕ
  auctionDeadline : ℕ

structure RelayParams where
  gasDropoffWei : ℕ
  maxRelayingFeeUsdc : ℕ

/-- The path is either full, from token to token, or stripped of its first and last token. -/
structure EvmSwapParams where
  deadline : ℕ
  outputAmount : ℕ
  swapType : EvmSwapType
  path : Bytes

structure SolanaSwapParams where
  swapDeadline : ℕ
  outputAmount : ℕ
  withDex : Bool
  dex : Bytes32

structure ComposedInitiateParams where
  msgValueOrPlaceholder : ℕ
  targetParams : TargetParams
  params : Bytes

def DOUBLE_WORMHOLE_MESSAGE_FEE_PLACEHOLDER : ℕ := 2 ^ 256 - 1
def SINGLE_WORMHOLE_MESSAGE_FEE_PLACEHOLDER : ℕ := 2 ^ 256 - 2

/-! ## Encoders of fields -/

/-- `type(uintN).max`. -/
def uintMax (bits : ℕ) : ℕ := 2 ^ bits - 1

/-- `_checkMax`. -/
def checkMax (val max : ℕ) : Except IntegrationError Unit :=
  if val > max then .error (.exceedsMaximum val max) else .ok ()

/-- Wei in a unit of `GasDropoff`. -/
def GAS_DROPOFF_UNIT : ℕ := 10 ^ 12

/-- `GasDropoffLib.to`. -/
def gasDropoffTo (val : ℕ) : Except IntegrationError ℕ :=
  if val / GAS_DROPOFF_UNIT > uintMax 32 then .error (.exceedsMax val)
  else .ok (val / GAS_DROPOFF_UNIT)

/-- `uint(FastTransferMode.Enabled)`. -/
def FAST_TRANSFER_ENABLED : ℕ := 1

/-- `_encodeFastTransferParams`, a `uint88`. -/
def encodeFastTransferParams (params : FastTransferParams) : Except IntegrationError ℕ := do
  checkMax params.maxFastFeeUsdc (uintMax 48)
  checkMax params.auctionDeadline (uintMax 32)
  return ((((FAST_TRANSFER_ENABLED <<< (FAST_TRANSFER_MAX_FEE_SIZE * 8)) + params.maxFastFeeUsdc)
    <<< (FAST_TRANSFER_DEADLINE_SIZE * 8)) + params.auctionDeadline) % 2 ^ 88

/-- `_encodeRelayParams`, a `uint88`. -/
def encodeRelayParams (params : RelayParams) : Except IntegrationError ℕ := do
  checkMax params.maxRelayingFeeUsdc (uintMax 48)
  let gasDropoff ← gasDropoffTo params.gasDropoffWei
  return ((((RedeemMode.relay.toUint8 <<< (RELAY_GAS_DROPOFF_SIZE * 8)) + gasDropoff)
    <<< (RELAY_MAX_RELAYER_FEE_SIZE * 8)) + params.maxRelayingFeeUsdc) % 2 ^ 88

/-- `_encodePayloadParams`: the length is cast to `uint16`, without a check. -/
def encodePayloadParams (payload : Bytes) : Bytes :=
  toBE 1 RedeemMode.payload.toUint8 ++ (toBE 2 (payload.length % 2 ^ 16) ++ payload)

/-- `_encodeAmount`, a `uint128`. -/
def encodeAmount (amount : ℕ) : Except IntegrationError ℕ := do
  checkMax amount (uintMax 128)
  return amount % 2 ^ 128

/-- `_encodeAmountPreapproved`, a `uint136`. -/
def encodeAmountPreapproved (amount : ℕ) : Except IntegrationError ℕ := do
  let amount ← encodeAmount amount
  return ((amount <<< (MODE_SIZE * 8)) + AcquireMode.preapproved.toUint8) % 2 ^ 136

/-- `_encodeUsdcIn`, a `uint144`. -/
def encodeUsdcIn (amount : ℕ) : Except IntegrationError ℕ := do
  let preapproved ← encodeAmountPreapproved amount
  return ((IoToken.usdc.toUint8 <<< ((SWAP_PARAM_AMOUNT_SIZE + MODE_SIZE) * 8)) + preapproved) % 2 ^ 144

/-- `_encodeTokenIn`, a `uint176`. -/
def encodeTokenIn (inputToken : Address) (approveCheck : Bool) : ℕ :=
  ((((IoToken.other.toUint8 <<< (BOOL_SIZE * 8)) + (if approveCheck then 1 else 0))
    <<< (ADDRESS_SIZE * 8)) + ofBE inputToken.toList) % 2 ^ 176

/-- `_encodeSharedSwapParams`, a `uint160`. -/
def encodeSharedSwapParams (swapDeadline outputAmount : ℕ) : Except IntegrationError ℕ := do
  checkMax swapDeadline (uintMax 32)
  let amount ← encodeAmount outputAmount
  return ((swapDeadline <<< (SWAP_PARAM_AMOUNT_SIZE * 8)) + amount) % 2 ^ 160

/-- `_fullPathStripOffset`: where the first pool id stands. -/
def fullPathStripOffset (path : Bytes) (checkTokens : Bool) (fromToken toToken : Address) :
    Except IntegrationError ℕ :=
  if path.length = SHARED_POOL_ID_SIZE then .ok 0
  else if path.length ≥ SHARED_PATH_ELEMENT_SIZE then
    if (path.length - SHARED_POOL_ID_SIZE) % SHARED_PATH_ELEMENT_SIZE = 0 then .ok 0
    else if (path.length - ADDRESS_SIZE) % SHARED_PATH_ELEMENT_SIZE = 0 then
      if ¬checkTokens then .ok ADDRESS_SIZE
      else
        let (encodedFromToken, _) := asAddressUnchecked path 0
        let (encodedToToken, _) := asAddressUnchecked path (path.length - ADDRESS_SIZE)
        if encodedFromToken = fromToken ∧ encodedToToken = toToken then .ok ADDRESS_SIZE
        else .error .invalidPathParams
    else .error .invalidPathParams
  else .error .invalidPathParams

/-- `_encodeSwapParams` of a swap on an EVM chain. The path is long enough for the differences
(`fullPathStripOffset_ok`). -/
def encodeSwapParams (params : EvmSwapParams) (checkTokens : Bool) (fromToken toToken : Address) :
    Except IntegrationError Bytes := do
  let stripOffset ← fullPathStripOffset params.path checkTokens fromToken toToken
  let (firstPoolId, offset) := asUint24Unchecked params.path stripOffset
  let pathLength := (params.path.length - offset - stripOffset) / SHARED_PATH_ELEMENT_SIZE
  checkMax pathLength (uintMax 8)
  let (finalPath, _) :=
    sliceUnchecked params.path offset (pathLength * SHARED_PATH_ELEMENT_SIZE)
  let shared ← encodeSharedSwapParams params.deadline params.outputAmount
  return toBE 20 shared ++ (toBE 1 params.swapType.toUint8 ++ (toBE 3 firstPoolId ++
    (toBE 1 (pathLength % 2 ^ 8) ++ finalPath)))

/-- `_encodeSwapParams` of a swap on Solana. -/
def encodeSolanaSwapParams (params : SolanaSwapParams) : Except IntegrationError Bytes := do
  let shared ← encodeSharedSwapParams params.swapDeadline params.outputAmount
  return toBE 20 shared ++ (toBE 1 SWAP_TYPE_JUPITERV6 ++ (toBE 1 params.withDex.toNat ++
    (if params.withDex then params.dex.toList else [])))

/-! ## Output parameters -/

/-- A call of one of the helper functions for output parameters. -/
inductive OutputParams
  | usdc
  | nativeEvm (params : EvmSwapParams)
  | tokenEvm (outputToken : Address) (params : EvmSwapParams)
  | nativeSolana (params : SolanaSwapParams)
  | tokenSolana (outputTokenMint : Bytes32) (params : SolanaSwapParams)

/-- `_swapLayerEncodeOutputParamsUsdc`, `…Native` and `…Token`. -/
def encodeOutputParams : OutputParams → Except IntegrationError Bytes
  | .usdc => .ok (toBE 1 IoToken.usdc.toUint8)
  | .nativeEvm params => do
    let swap ← encodeSwapParams params false zeroAddress zeroAddress
    return toBE 1 IoToken.gas.toUint8 ++ swap
  | .tokenEvm outputToken params => do
    let swap ← encodeSwapParams params false zeroAddress zeroAddress
    return toBE 1 IoToken.other.toUint8 ++ ((toUniversalAddress outputToken).toList ++ swap)
  | .nativeSolana params => do
    let swap ← encodeSolanaSwapParams params
    return toBE 1 IoToken.gas.toUint8 ++ swap
  | .tokenSolana outputTokenMint params => do
    let swap ← encodeSolanaSwapParams params
    return toBE 1 IoToken.other.toUint8 ++ (outputTokenMint.toList ++ swap)

/-! ## Composing -/

/-- The second argument of `abi.encodePacked`. -/
inductive RedeemArg
  | direct
  | relay (params : RelayParams)
  | payload (bytes : Bytes)

/-- The arguments for the input token. -/
inductive InputArg
  | native (evmSwapParams : EvmSwapParams)
  | usdc (amount : ℕ)
  | token (inputToken : Address) (approveCheck : Bool) (amount : ℕ) (evmSwapParams : EvmSwapParams)

/-- What an overload of `_swapLayerComposeInitiate` puts together. -/
structure Composition where
  msgValueOrPlaceholder : ℕ
  targetParams : TargetParams
  fastTransfer : Option FastTransferParams
  redeem : RedeemArg
  isExactIn : Bool
  input : InputArg
  outputParams : Bytes

def encodeFastTransferArg : Option FastTransferParams → Except IntegrationError Bytes
  | none => .ok (toBE 1 0)
  | some params => do
    let encoded ← encodeFastTransferParams params
    return toBE 11 encoded

def RedeemArg.encode : RedeemArg → Except IntegrationError Bytes
  | direct => .ok (toBE 1 RedeemMode.direct.toUint8)
  | relay params => do
    let encoded ← encodeRelayParams params
    return toBE 11 encoded
  | payload bytes => .ok (encodePayloadParams bytes)

section Compose

variable (wrappedNative usdc : Address)

def InputArg.encode : InputArg → Except IntegrationError Bytes
  | .native evmSwapParams => do
    let swap ← encodeSwapParams evmSwapParams true wrappedNative usdc
    return toBE 1 IoToken.gas.toUint8 ++ swap
  | .usdc amount => do
    let encoded ← encodeUsdcIn amount
    return toBE 18 encoded
  | .token inputToken approveCheck amount evmSwapParams => do
    let encoded ← encodeAmountPreapproved amount
    let swap ← encodeSwapParams evmSwapParams true inputToken usdc
    return toBE 22 (encodeTokenIn inputToken approveCheck) ++ (toBE 17 encoded ++ swap)

def compose (c : Composition) : Except IntegrationError ComposedInitiateParams := do
  let fastTransfer ← encodeFastTransferArg c.fastTransfer
  let redeem ← c.redeem.encode
  let input ← c.input.encode wrappedNative usdc
  return ⟨c.msgValueOrPlaceholder, c.targetParams,
    fastTransfer ++ (redeem ++ (toBE 1 c.isExactIn.toNat ++ (input ++ c.outputParams)))⟩

end Compose

/-- An argument struct of `_swapLayerComposeInitiate`. -/
inductive InitiateRequest
  | initiateNative (targetParams : TargetParams) (amount : ℕ) (isExactIn : Bool)
      (evmSwapParams : EvmSwapParams) (outputParams : Bytes)
  | initiateUsdc (targetParams : TargetParams) (amount : ℕ) (outputParams : Bytes)
  | initiateToken (targetParams : TargetParams) (amount : ℕ) (isExactIn : Bool)
      (inputToken : Address) (approveCheck : Bool) (evmSwapParams : EvmSwapParams)
      (outputParams : Bytes)
  | initiateRelayNative (targetParams : TargetParams) (relayParams : RelayParams) (amount : ℕ)
      (isExactIn : Bool) (evmSwapParams : EvmSwapParams) (outputParams : Bytes)
  | initiateRelayUsdc (targetParams : TargetParams) (relayParams : RelayParams) (amount : ℕ)
      (isExactIn : Bool) (outputParams : Bytes)
  | initiateRelayToken (targetParams : TargetParams) (relayParams : RelayParams) (amount : ℕ)
      (isExactIn : Bool) (inputToken : Address) (approveCheck : Bool)
      (evmSwapParams : EvmSwapParams) (outputParams : Bytes)
  | initiatePayloadNative (targetParams : TargetParams) (payload : Bytes) (amount : ℕ)
      (isExactIn : Bool) (evmSwapParams : EvmSwapParams) (outputParams : Bytes)
  | initiatePayloadUsdc (targetParams : TargetParams) (payload : Bytes) (amount : ℕ)
      (outputParams : Bytes)
  | initiatePayloadToken (targetParams : TargetParams) (payload : Bytes) (amount : ℕ)
      (isExactIn : Bool) (inputToken : Address) (approveCheck : Bool)
      (evmSwapParams : EvmSwapParams) (outputParams : Bytes)
  | initiateNativeFast (targetParams : TargetParams) (fastTransferParams : FastTransferParams)
      (amount : ℕ) (isExactIn : Bool) (evmSwapParams : EvmSwapParams) (outputParams : Bytes)
  | initiateUsdcFast (targetParams : TargetParams) (fastTransferParams : FastTransferParams)
      (amount : ℕ) (isExactIn : Bool) (outputParams : Bytes)
  | initiateTokenFast (targetParams : TargetParams) (fastTransferParams : FastTransferParams)
      (amount : ℕ) (isExactIn : Bool) (inputToken : Address) (approveCheck : Bool)
      (evmSwapParams : EvmSwapParams) (outputParams : Bytes)
  | initiateNativeRelayFast (targetParams : TargetParams) (fastTransferParams : FastTransferParams)
      (relayParams : RelayParams) (amount : ℕ) (isExactIn : Bool) (evmSwapParams : EvmSwapParams)
      (outputParams : Bytes)
  | initiateUsdcRelayFast (targetParams : TargetParams) (fastTransferParams : FastTransferParams)
      (relayParams : RelayParams) (amount : ℕ) (isExactIn : Bool) (outputParams : Bytes)
  | initiateTokenRelayFast (targetParams : TargetParams) (fastTransferParams : FastTransferParams)
      (relayParams : RelayParams) (amount : ℕ) (isExactIn : Bool) (inputToken : Address)
      (approveCheck : Bool) (evmSwapParams : EvmSwapParams) (outputParams : Bytes)
  | initiateNativePayloadFast (targetParams : TargetParams) (fastTransferParams : FastTransferParams)
      (payload : Bytes) (amount : ℕ) (isExactIn : Bool) (evmSwapParams : EvmSwapParams)
      (outputParams : Bytes)
  | initiateUsdcPayloadFast (targetParams : TargetParams) (fastTransferParams : FastTransferParams)
      (payload : Bytes) (amount : ℕ) (isExactIn : Bool) (outputParams : Bytes)
  | initiateTokenPayloadFast (targetParams : TargetParams) (fastTransferParams : FastTransferParams)
      (payload : Bytes) (amount : ℕ) (isExactIn : Bool) (inputToken : Address)
      (approveCheck : Bool) (evmSwapParams : EvmSwapParams) (outputParams : Bytes)

/-- The overloads of `_swapLayerComposeInitiate`. The native amount is the value of the call; where
the struct has no `isExactIn`, zero is written. -/
def InitiateRequest.composition : InitiateRequest → Composition
  | initiateNative target amount isExactIn swap output =>
    ⟨amount, target, none, .direct, isExactIn, .native swap, output⟩
  | initiateUsdc target amount output =>
    ⟨SINGLE_WORMHOLE_MESSAGE_FEE_PLACEHOLDER, target, none, .direct, false, .usdc amount, output⟩
  | initiateToken target amount isExactIn token approveCheck swap output =>
    ⟨SINGLE_WORMHOLE_MESSAGE_FEE_PLACEHOLDER, target, none, .direct, isExactIn,
      .token token approveCheck amount swap, output⟩
  | initiateRelayNative target relay amount isExactIn swap output =>
    ⟨amount, target, none, .relay relay, isExactIn, .native swap, output⟩
  | initiateRelayUsdc target relay amount isExactIn output =>
    ⟨SINGLE_WORMHOLE_MESSAGE_FEE_PLACEHOLDER, target, none, .relay relay, isExactIn, .usdc amount,
      output⟩
  | initiateRelayToken target relay amount isExactIn token approveCheck swap output =>
    ⟨SINGLE_WORMHOLE_MESSAGE_FEE_PLACEHOLDER, target, none, .relay relay, isExactIn,
      .token token approveCheck amount swap, output⟩
  | initiatePayloadNative target payload amount isExactIn swap output =>
    ⟨amount, target, none, .payload payload, isExactIn, .native swap, output⟩
  | initiatePayloadUsdc target payload amount output =>
    ⟨SINGLE_WORMHOLE_MESSAGE_FEE_PLACEHOLDER, target, none, .payload payload, false, .usdc amount,
      output⟩
  | initiatePayloadToken target payload amount isExactIn token approveCheck swap output =>
    ⟨SINGLE_WORMHOLE_MESSAGE_FEE_PLACEHOLDER, target, none, .payload payload, isExactIn,
      .token token approveCheck amount swap, output⟩
  | initiateNativeFast target fast amount isExactIn swap output =>
    ⟨amount, target, some fast, .direct, isExactIn, .native swap, output⟩
  | initiateUsdcFast target fast amount isExactIn output =>
    ⟨DOUBLE_WORMHOLE_MESSAGE_FEE_PLACEHOLDER, target, some fast, .direct, isExactIn, .usdc amount,
      output⟩
  | initiateTokenFast target fast amount isExactIn token approveCheck swap output =>
    ⟨DOUBLE_WORMHOLE_MESSAGE_FEE_PLACEHOLDER, target, some fast, .direct, isExactIn,
      .token token approveCheck amount swap, output⟩
  | initiateNativeRelayFast target fast relay amount isExactIn swap output =>
    ⟨amount, target, some fast, .relay relay, isExactIn, .native swap, output⟩
  | initiateUsdcRelayFast target fast relay amount isExactIn output =>
    ⟨DOUBLE_WORMHOLE_MESSAGE_FEE_PLACEHOLDER, target, some fast, .relay relay, isExactIn,
      .usdc amount, output⟩
  | initiateTokenRelayFast target fast relay amount isExactIn token approveCheck swap output =>
    ⟨DOUBLE_WORMHOLE_MESSAGE_FEE_PLACEHOLDER, target, some fast, .relay relay, isExactIn,
      .token token approveCheck amount swap, output⟩
  | initiateNativePayloadFast target fast payload amount isExactIn swap output =>
    ⟨amount, target, some fast, .payload payload, isExactIn, .native swap, output⟩
  | initiateUsdcPayloadFast target fast payload amount isExactIn output =>
    ⟨DOUBLE_WORMHOLE_MESSAGE_FEE_PLACEHOLDER, target, some fast, .payload payload, isExactIn,
      .usdc amount, output⟩
  | initiateTokenPayloadFast target fast payload amount isExactIn token approveCheck swap output =>
    ⟨DOUBLE_WORMHOLE_MESSAGE_FEE_PLACEHOLDER, target, some fast, .payload payload, isExactIn,
      .token token approveCheck amount swap, output⟩

def composeInitiate (wrappedNative usdc : Address) (r : InitiateRequest) :
    Except IntegrationError ComposedInitiateParams :=
  compose wrappedNative usdc r.composition

/-! ## What the arguments ask for -/

/-- The part of a path that is encoded: a full path loses its first and last token. -/
def strippedPath (path : Bytes) : Bytes :=
  if path.length % SHARED_PATH_ELEMENT_SIZE = ADDRESS_SIZE then
    slice path ADDRESS_SIZE (path.length - 2 * ADDRESS_SIZE)
  else path

def EvmSwapParams.fields (params : EvmSwapParams) : SwapFields :=
  ⟨params.deadline, params.outputAmount, .evm params.swapType (strippedPath params.path)⟩

def SolanaSwapParams.fields (params : SolanaSwapParams) : SwapFields :=
  ⟨params.swapDeadline, params.outputAmount,
    .jupiter (if params.withDex then some params.dex else none)⟩

def OutputParams.fields : OutputParams → OutputFields
  | usdc => .usdc
  | nativeEvm params => .gas params.fields
  | tokenEvm outputToken params => .other (toUniversalAddress outputToken) params.fields
  | nativeSolana params => .gas params.fields
  | tokenSolana outputTokenMint params => .other outputTokenMint params.fields

def RedeemArg.fields : RedeemArg → RedeemParamFields
  | direct => .direct
  | relay params => .relay (params.gasDropoffWei / GAS_DROPOFF_UNIT) params.maxRelayingFeeUsdc
  | payload bytes => .payload bytes

def InputArg.fields : InputArg → InputFields
  | native evmSwapParams => .gas evmSwapParams.fields
  | usdc amount => .usdc amount .preapproved
  | token inputToken approveCheck amount evmSwapParams =>
    .other approveCheck inputToken amount .preapproved evmSwapParams.fields

/-- The given fields; those of the output section are given by its helper. -/
def Composition.fields (c : Composition) (output : OutputParams) : InitiateFields :=
  ⟨c.fastTransfer.map fun params => (params.maxFastFeeUsdc, params.auctionDeadline), c.redeem.fields,
    c.isExactIn, c.input.fields, output.fields⟩

/-! ## What the checks let through -/

/-- A swap that the library does not refuse: the path has one of the two forms, and a full one runs
between the tokens, if they are checked. -/
structure EvmSwapParams.Accepted (params : EvmSwapParams) (checkTokens : Bool)
    (fromToken toToken : Address) : Prop where
  deadline : params.deadline ≤ uintMax 32
  outputAmount : params.outputAmount ≤ uintMax 128
  path : ∃ stripOffset, fullPathStripOffset params.path checkTokens fromToken toToken = .ok stripOffset
  hops : hopCount (strippedPath params.path) ≤ uintMax 8

def RedeemArg.Accepted : RedeemArg → Prop
  | direct => True
  | relay params => params.maxRelayingFeeUsdc ≤ uintMax 48 ∧
      params.gasDropoffWei / GAS_DROPOFF_UNIT ≤ uintMax 32
  | payload _ => True

def InputArg.Accepted (wrappedNative usdcToken : Address) : InputArg → Prop
  | native evmSwapParams => evmSwapParams.Accepted true wrappedNative usdcToken
  | usdc amount => amount ≤ uintMax 128
  | token inputToken _ amount evmSwapParams =>
    amount ≤ uintMax 128 ∧ evmSwapParams.Accepted true inputToken usdcToken

structure Composition.Accepted (wrappedNative usdc : Address) (c : Composition) : Prop where
  fastTransfer : ∀ params, c.fastTransfer = some params →
    params.maxFastFeeUsdc ≤ uintMax 48 ∧ params.auctionDeadline ≤ uintMax 32
  redeem : c.redeem.Accepted
  input : c.input.Accepted wrappedNative usdc

/-- A payload whose length fits into its prefix. -/
def RedeemArg.PayloadFits : RedeemArg → Prop
  | payload bytes => bytes.length ≤ uintMax 16
  | _ => True

/-! ## Fields -/

theorem checkMax_ok {val max : ℕ} {u : Unit} : checkMax val max = .ok u ↔ val ≤ max := by
  unfold checkMax
  by_cases h : val > max
  · rw [if_pos h]
    exact ⟨fun h' => (by cases h'), fun hle => absurd h (Nat.not_lt.2 hle)⟩
  · rw [if_neg h]
    exact ⟨fun _ => Nat.le_of_not_lt h, fun _ => rfl⟩

theorem gasDropoffTo_ok {val r : ℕ} : gasDropoffTo val = .ok r ↔
    val / GAS_DROPOFF_UNIT ≤ uintMax 32 ∧ r = val / GAS_DROPOFF_UNIT := by
  unfold gasDropoffTo
  by_cases h : val / GAS_DROPOFF_UNIT > uintMax 32
  · rw [if_pos h]
    exact ⟨fun h' => (by cases h'), fun h' => absurd h (Nat.not_lt.2 h'.1)⟩
  · rw [if_neg h]
    exact ⟨fun h' => ⟨Nat.le_of_not_lt h, (Except.ok.inj h').symm⟩, fun h' => h'.2 ▸ rfl⟩

theorem encodeAmount_ok {amount r : ℕ} : encodeAmount amount = .ok r ↔
    amount ≤ uintMax 128 ∧ r = amount := by
  simp only [encodeAmount, except_bind_ok, except_pure_ok, checkMax_ok]
  constructor
  · rintro ⟨_, hle, rfl⟩
    exact ⟨hle, Nat.mod_eq_of_lt (Nat.lt_of_le_of_lt hle (by decide))⟩
  · rintro ⟨hle, rfl⟩
    exact ⟨(), hle, Nat.mod_eq_of_lt (Nat.lt_of_le_of_lt hle (by decide))⟩

theorem lt_of_le_uintMax {n val : ℕ} (h : val ≤ uintMax (n * 8)) : val < 256 ^ n := by
  have hpow : 256 ^ n = 2 ^ (n * 8) := by
    rw [Nat.mul_comm, Nat.pow_mul]
  have hpos : 0 < 2 ^ (n * 8) := Nat.pow_pos (by decide)
  unfold uintMax at h
  omega

/-- A value of `n` bytes cut to its width and written in it. -/
theorem toBE_cast (n v : ℕ) : toBE n (v % 2 ^ (n * 8)) = toBE n v := by
  rw [Nat.mul_comm, Nat.pow_mul]
  exact toBE_mod n v

theorem encodeFastTransferArg_ok {f : Option FastTransferParams} {bytes : Bytes} :
    encodeFastTransferArg f = .ok bytes ↔
      (∀ params, f = some params →
        params.maxFastFeeUsdc ≤ uintMax 48 ∧ params.auctionDeadline ≤ uintMax 32) ∧
      bytes = encodeFastTransfer
        (f.map fun params => (params.maxFastFeeUsdc, params.auctionDeadline)) := by
  cases f with
  | none =>
    constructor
    · intro h
      cases h
      exact ⟨fun _ h => (by cases h), rfl⟩
    · rintro ⟨-, rfl⟩
      rfl
  | some params =>
    have hpack : params.maxFastFeeUsdc ≤ uintMax 48 → params.auctionDeadline ≤ uintMax 32 →
        toBE 11 (((((FAST_TRANSFER_ENABLED <<< (FAST_TRANSFER_MAX_FEE_SIZE * 8)) +
          params.maxFastFeeUsdc) <<< (FAST_TRANSFER_DEADLINE_SIZE * 8)) + params.auctionDeadline) %
            2 ^ 88) = toBE 1 1 ++ (toBE 6 params.maxFastFeeUsdc ++ toBE 4 params.auctionDeadline) := by
      intro hfee hdeadline
      rw [toBE_cast 11, Nat.shiftLeft_eq, Nat.shiftLeft_eq]
      exact toBE_pack_three (m := 1) (n := 6) (k := 4) (a := 1) (by decide)
        (lt_of_le_uintMax (n := 6) hfee) (lt_of_le_uintMax (n := 4) hdeadline)
    simp only [encodeFastTransferArg, encodeFastTransferParams, except_bind_ok, except_pure_ok,
      checkMax_ok, Option.map_some, encodeFastTransfer]
    constructor
    · rintro ⟨_, ⟨_, hfee, _, hdeadline, rfl⟩, rfl⟩
      exact ⟨fun _ h => Option.some.inj h ▸ ⟨hfee, hdeadline⟩, hpack hfee hdeadline⟩
    · rintro ⟨h, rfl⟩
      obtain ⟨hfee, hdeadline⟩ := h params rfl
      exact ⟨_, ⟨(), hfee, (), hdeadline, rfl⟩, hpack hfee hdeadline⟩

theorem RedeemArg.encode_ok {r : RedeemArg} {bytes : Bytes} :
    r.encode = .ok bytes ↔ r.Accepted ∧ bytes = r.fields.encode := by
  cases r with
  | direct =>
    constructor
    · intro h
      cases h
      exact ⟨trivial, rfl⟩
    · rintro ⟨-, rfl⟩
      rfl
  | payload payload =>
    have hencode : encodePayloadParams payload = (RedeemArg.payload payload).fields.encode := by
      rw [encodePayloadParams, toBE_cast 2]
      rfl
    constructor
    · intro h
      cases h
      exact ⟨trivial, hencode⟩
    · rintro ⟨-, rfl⟩
      exact congrArg _ hencode
  | relay params =>
    have hpack : params.maxRelayingFeeUsdc ≤ uintMax 48 →
        params.gasDropoffWei / GAS_DROPOFF_UNIT ≤ uintMax 32 →
        toBE 11 (((((Evm.RedeemMode.relay.toUint8 <<< (RELAY_GAS_DROPOFF_SIZE * 8)) +
          params.gasDropoffWei / GAS_DROPOFF_UNIT) <<< (RELAY_MAX_RELAYER_FEE_SIZE * 8)) +
            params.maxRelayingFeeUsdc) % 2 ^ 88) =
          (RedeemArg.relay params).fields.encode := by
      intro hfee hdropoff
      rw [toBE_cast 11, Nat.shiftLeft_eq, Nat.shiftLeft_eq]
      exact toBE_pack_three (m := 1) (n := 4) (k := 6) (a := 2) (by decide)
        (lt_of_le_uintMax (n := 4) hdropoff) (lt_of_le_uintMax (n := 6) hfee)
    simp only [RedeemArg.encode, encodeRelayParams, except_bind_ok, except_pure_ok, checkMax_ok,
      gasDropoffTo_ok]
    constructor
    · rintro ⟨_, ⟨_, hfee, _, ⟨hdropoff, rfl⟩, rfl⟩, rfl⟩
      exact ⟨⟨hfee, hdropoff⟩, hpack hfee hdropoff⟩
    · rintro ⟨⟨hfee, hdropoff⟩, rfl⟩
      exact ⟨_, ⟨(), hfee, _, ⟨hdropoff, rfl⟩, rfl⟩, hpack hfee hdropoff⟩

/-! ## Swaps -/

theorem encodeSharedSwapParams_ok {swapDeadline outputAmount r : ℕ} :
    encodeSharedSwapParams swapDeadline outputAmount = .ok r ↔
      swapDeadline ≤ uintMax 32 ∧ outputAmount ≤ uintMax 128 ∧
        r = ((swapDeadline <<< (SWAP_PARAM_AMOUNT_SIZE * 8)) + outputAmount) % 2 ^ 160 := by
  simp only [encodeSharedSwapParams, except_bind_ok, except_pure_ok, checkMax_ok, encodeAmount_ok]
  constructor
  · rintro ⟨_, hdeadline, _, ⟨hamount, rfl⟩, rfl⟩
    exact ⟨hdeadline, hamount, rfl⟩
  · rintro ⟨hdeadline, hamount, rfl⟩
    exact ⟨(), hdeadline, _, ⟨hamount, rfl⟩, rfl⟩

/-- Deadline and amount are written one behind the other. -/
theorem toBE_shared {swapDeadline outputAmount : ℕ} (hdeadline : swapDeadline ≤ uintMax 32)
    (hamount : outputAmount ≤ uintMax 128) :
    toBE 20 (((swapDeadline <<< (SWAP_PARAM_AMOUNT_SIZE * 8)) + outputAmount) % 2 ^ 160) =
      toBE 4 swapDeadline ++ toBE 16 outputAmount := by
  rw [toBE_cast 20, Nat.shiftLeft_eq]
  exact toBE_pack (m := 4) (n := 16) (lt_of_le_uintMax (n := 4) hdeadline)
    (lt_of_le_uintMax (n := 16) hamount)

/-- `path` has a first pool and `k` hops between `stripOffset` bytes at either end. -/
def StrippedTo (path : Bytes) (stripOffset k : ℕ) : Prop :=
  path.length = 2 * stripOffset + (SHARED_POOL_ID_SIZE + k * SHARED_PATH_ELEMENT_SIZE) ∧
    strippedPath path = slice path stripOffset (SHARED_POOL_ID_SIZE + k * SHARED_PATH_ELEMENT_SIZE)

theorem strippedTo_partial {path : Bytes}
    (h : path.length % SHARED_PATH_ELEMENT_SIZE = SHARED_POOL_ID_SIZE) :
    StrippedTo path 0 (path.length / SHARED_PATH_ELEMENT_SIZE) := by
  have hlength : path.length = SHARED_POOL_ID_SIZE +
      path.length / SHARED_PATH_ELEMENT_SIZE * SHARED_PATH_ELEMENT_SIZE := by
    have := Nat.mod_add_div path.length SHARED_PATH_ELEMENT_SIZE
    rw [h, Nat.mul_comm] at this
    exact this.symm
  refine ⟨by omega, ?_⟩
  rw [← hlength, slice_self, strippedPath, h, if_neg (by decide)]

theorem strippedTo_full {path : Bytes} (hle : SHARED_PATH_ELEMENT_SIZE ≤ path.length)
    (h : path.length % SHARED_PATH_ELEMENT_SIZE = ADDRESS_SIZE) :
    StrippedTo path ADDRESS_SIZE (path.length / SHARED_PATH_ELEMENT_SIZE - 1) := by
  have hlength : path.length = 2 * ADDRESS_SIZE + (SHARED_POOL_ID_SIZE +
      (path.length / SHARED_PATH_ELEMENT_SIZE - 1) * SHARED_PATH_ELEMENT_SIZE) := by
    unfold SHARED_PATH_ELEMENT_SIZE ADDRESS_SIZE SHARED_POOL_ID_SIZE at *
    omega
  have hcut : path.length - 2 * ADDRESS_SIZE = SHARED_POOL_ID_SIZE +
      (path.length / SHARED_PATH_ELEMENT_SIZE - 1) * SHARED_PATH_ELEMENT_SIZE := by omega
  refine ⟨hlength, ?_⟩
  rw [strippedPath, if_pos h, hcut]

/-- **A path that is not refused** is partial, or full. -/
theorem fullPathStripOffset_ok {path : Bytes} {checkTokens : Bool} {fromToken toToken : Address}
    {stripOffset : ℕ}
    (h : fullPathStripOffset path checkTokens fromToken toToken = .ok stripOffset) :
    ∃ k, StrippedTo path stripOffset k := by
  unfold fullPathStripOffset at h
  by_cases hpool : path.length = SHARED_POOL_ID_SIZE
  · rw [if_pos hpool] at h
    cases h
    exact ⟨_, strippedTo_partial (by rw [hpool]; rfl)⟩
  · rw [if_neg hpool] at h
    by_cases hle : path.length ≥ SHARED_PATH_ELEMENT_SIZE
    · rw [if_pos hle] at h
      by_cases hpartial : (path.length - SHARED_POOL_ID_SIZE) % SHARED_PATH_ELEMENT_SIZE = 0
      · rw [if_pos hpartial] at h
        cases h
        refine ⟨_, strippedTo_partial ?_⟩
        unfold SHARED_PATH_ELEMENT_SIZE SHARED_POOL_ID_SIZE ADDRESS_SIZE at *
        omega
      · rw [if_neg hpartial] at h
        by_cases hfull : (path.length - ADDRESS_SIZE) % SHARED_PATH_ELEMENT_SIZE = 0
        · rw [if_pos hfull] at h
          have hstripped : StrippedTo path ADDRESS_SIZE
              (path.length / SHARED_PATH_ELEMENT_SIZE - 1) := by
            refine strippedTo_full hle ?_
            unfold SHARED_PATH_ELEMENT_SIZE SHARED_POOL_ID_SIZE ADDRESS_SIZE at *
            omega
          obtain rfl : ADDRESS_SIZE = stripOffset := by
            by_cases hcheck : ¬checkTokens
            · rw [if_pos hcheck] at h
              exact Except.ok.inj h
            · rw [if_neg hcheck] at h
              by_cases htokens : sliceFixed 20 path 0 = fromToken ∧
                  sliceFixed 20 path (path.length - ADDRESS_SIZE) = toToken
              · exact Except.ok.inj ((if_pos htokens).symm.trans h)
              · cases (if_neg htokens).symm.trans h
          exact ⟨_, hstripped⟩
        · rw [if_neg hfull] at h
          cases h
    · rw [if_neg hle] at h
      cases h

/-- A full path whose tokens are checked runs from the one to the other. -/
theorem fullPathStripOffset_tokens {path : Bytes} {fromToken toToken : Address}
    (h : fullPathStripOffset path true fromToken toToken = .ok ADDRESS_SIZE) :
    sliceFixed 20 path 0 = fromToken ∧
      sliceFixed 20 path (path.length - ADDRESS_SIZE) = toToken := by
  by_contra htokens
  simp only [fullPathStripOffset, asAddressUnchecked, htokens] at h
  split_ifs at h <;> simp_all [ADDRESS_SIZE]

/-- The encoded path: pool, number of hops and hops. -/
theorem StrippedTo.encoded {path : Bytes} {stripOffset k : ℕ} (h : StrippedTo path stripOffset k) :
    (path.length - (stripOffset + 3) - stripOffset) / SHARED_PATH_ELEMENT_SIZE = k ∧
      hopCount (strippedPath path) = k ∧
      (strippedPath path).length = SHARED_POOL_ID_SIZE + k * SHARED_PATH_ELEMENT_SIZE ∧
      (sliceFixed 3 (strippedPath path) 0).toList = toBE 3 (readBE 3 path stripOffset) ∧
      (strippedPath path).drop SHARED_POOL_ID_SIZE =
        slice path (stripOffset + 3) (k * SHARED_PATH_ELEMENT_SIZE) := by
  obtain ⟨hlength, hslice⟩ := h
  have hlen : (strippedPath path).length = SHARED_POOL_ID_SIZE + k * SHARED_PATH_ELEMENT_SIZE := by
    rw [hslice, length_slice]
  refine ⟨?_, ?_, hlen, ?_, ?_⟩
  · have hsub : path.length - (stripOffset + 3) - stripOffset = k * SHARED_PATH_ELEMENT_SIZE := by
      unfold SHARED_POOL_ID_SIZE at hlength
      omega
    rw [hsub, Nat.mul_div_cancel _ (by decide)]
  · rw [hopCount, hlen, Nat.add_sub_cancel_left, Nat.mul_div_cancel _ (by decide)]
  · have hpool : slice (strippedPath path) 0 3 = slice path stripOffset 3 := by
      rw [hslice, slice_slice (by unfold SHARED_POOL_ID_SIZE; omega), Nat.add_zero]
    exact hpool.trans (toBE_readBE 3 path stripOffset).symm
  · have hend : SHARED_POOL_ID_SIZE + k * SHARED_PATH_ELEMENT_SIZE = (strippedPath path).length :=
      hlen.symm
    rw [← slice_to_end hend, hslice, slice_slice (Nat.le_refl _)]
    rfl

/-- **The swaps that are encoded**, and as what. -/
theorem encodeSwapParams_ok {params : EvmSwapParams} {checkTokens : Bool}
    {fromToken toToken : Address} {bytes : Bytes} :
    encodeSwapParams params checkTokens fromToken toToken = .ok bytes ↔
      params.Accepted checkTokens fromToken toToken ∧ bytes = params.fields.encode := by
  have hencode : ∀ stripOffset k, StrippedTo params.path stripOffset k →
      params.deadline ≤ uintMax 32 → params.outputAmount ≤ uintMax 128 →
      toBE 20 (((params.deadline <<< (SWAP_PARAM_AMOUNT_SIZE * 8)) + params.outputAmount) % 2 ^ 160) ++
        (toBE 1 params.swapType.toUint8 ++ (toBE 3 (readBE 3 params.path stripOffset) ++
          (toBE 1 (k % 2 ^ 8) ++
            slice params.path (stripOffset + 3) (k * SHARED_PATH_ELEMENT_SIZE)))) =
        params.fields.encode := by
    intro stripOffset k hk hdeadline hamount
    obtain ⟨-, hhops, -, hpool, hdrop⟩ := hk.encoded
    rw [toBE_shared hdeadline hamount, toBE_cast 1]
    simp only [EvmSwapParams.fields, SwapFields.encode, encodeEvmSwap, encodeSwapHead, hhops, hpool,
      hdrop, List.append_assoc]
  simp only [encodeSwapParams, asUint24Unchecked, asUint, sliceUnchecked, except_bind_ok,
    except_pure_ok, checkMax_ok, encodeSharedSwapParams_ok]
  constructor
  · rintro ⟨stripOffset, hpath, _, hcount, _, ⟨hdeadline, hamount, rfl⟩, rfl⟩
    obtain ⟨k, hk⟩ := fullPathStripOffset_ok hpath
    obtain ⟨hlength, hhops, -, -, -⟩ := hk.encoded
    rw [hlength] at hcount ⊢
    exact ⟨⟨hdeadline, hamount, ⟨_, hpath⟩, hhops ▸ hcount⟩, (hencode _ _ hk hdeadline hamount)⟩
  · rintro ⟨⟨hdeadline, hamount, ⟨stripOffset, hpath⟩, hcount⟩, rfl⟩
    obtain ⟨k, hk⟩ := fullPathStripOffset_ok hpath
    obtain ⟨hlength, hhops, -, -, -⟩ := hk.encoded
    rw [hhops] at hcount
    refine ⟨stripOffset, hpath, (), ?_, _, ⟨hdeadline, hamount, rfl⟩, ?_⟩
    · rwa [hlength]
    · rw [hlength]
      exact hencode _ _ hk hdeadline hamount

theorem EvmSwapParams.Accepted.fits {params : EvmSwapParams} {checkTokens : Bool}
    {fromToken toToken : Address} (h : params.Accepted checkTokens fromToken toToken) :
    params.fields.Fits := by
  obtain ⟨stripOffset, hpath⟩ := h.path
  obtain ⟨k, hk⟩ := fullPathStripOffset_ok hpath
  obtain ⟨-, hhops, hlength, -, -⟩ := hk.encoded
  refine ⟨lt_of_le_uintMax (n := 4) h.deadline, lt_of_le_uintMax (n := 16) h.outputAmount,
    lt_of_le_uintMax (n := 1) h.hops, ?_⟩
  rw [hhops, hlength]

theorem encodeSolanaSwapParams_ok {params : SolanaSwapParams} {bytes : Bytes}
    (h : encodeSolanaSwapParams params = .ok bytes) :
    params.fields.Fits ∧ bytes = params.fields.encode := by
  simp only [encodeSolanaSwapParams, except_bind_ok, except_pure_ok, encodeSharedSwapParams_ok] at h
  obtain ⟨_, ⟨hdeadline, hamount, rfl⟩, rfl⟩ := h
  refine ⟨⟨lt_of_le_uintMax (n := 4) hdeadline, lt_of_le_uintMax (n := 16) hamount, trivial⟩, ?_⟩
  rw [toBE_shared hdeadline hamount]
  cases hdex : params.withDex <;>
    simp [SolanaSwapParams.fields, SwapFields.encode, encodeSwapHead, writeOption, hdex]

/-- What a helper function returns is the output section it is asked for. -/
theorem encodeOutputParams_ok {output : OutputParams} {bytes : Bytes}
    (h : encodeOutputParams output = .ok bytes) :
    output.fields.Fits ∧ bytes = output.fields.encode := by
  cases output with
  | usdc =>
    cases h
    exact ⟨trivial, rfl⟩
  | nativeEvm params =>
    obtain ⟨swap, hswap, hret⟩ := except_bind_ok.1 h
    cases hret
    obtain ⟨haccepted, rfl⟩ := encodeSwapParams_ok.1 hswap
    exact ⟨haccepted.fits, rfl⟩
  | tokenEvm outputToken params =>
    obtain ⟨swap, hswap, hret⟩ := except_bind_ok.1 h
    cases hret
    obtain ⟨haccepted, rfl⟩ := encodeSwapParams_ok.1 hswap
    exact ⟨haccepted.fits, rfl⟩
  | nativeSolana params =>
    obtain ⟨swap, hswap, hret⟩ := except_bind_ok.1 h
    cases hret
    obtain ⟨hfits, rfl⟩ := encodeSolanaSwapParams_ok hswap
    exact ⟨hfits, rfl⟩
  | tokenSolana outputTokenMint params =>
    obtain ⟨swap, hswap, hret⟩ := except_bind_ok.1 h
    cases hret
    obtain ⟨hfits, rfl⟩ := encodeSolanaSwapParams_ok hswap
    exact ⟨hfits, rfl⟩

/-! ## The input token -/

theorem encodeAmountPreapproved_ok {amount r : ℕ} : encodeAmountPreapproved amount = .ok r ↔
    amount ≤ uintMax 128 ∧
      r = ((amount <<< (MODE_SIZE * 8)) + AcquireMode.preapproved.toUint8) % 2 ^ 136 := by
  simp only [encodeAmountPreapproved, except_bind_ok, except_pure_ok, encodeAmount_ok]
  constructor
  · rintro ⟨_, ⟨hle, rfl⟩, rfl⟩
    exact ⟨hle, rfl⟩
  · rintro ⟨hle, rfl⟩
    exact ⟨_, ⟨hle, rfl⟩, rfl⟩

/-- The amount and the acquire mode behind it. -/
theorem toBE_preapproved {amount : ℕ} (h : amount ≤ uintMax 128) :
    toBE 17 (((amount <<< (MODE_SIZE * 8)) + AcquireMode.preapproved.toUint8) % 2 ^ 136) =
      toBE 16 amount ++ AcquireFields.preapproved.encode := by
  rw [toBE_cast 17, Nat.shiftLeft_eq]
  exact (toBE_pack (m := 16) (n := 1) (b := 0) (lt_of_le_uintMax (n := 16) h) (by decide)).trans
    (congrArg _ (List.append_nil _).symm)

/-- The token kind in front of them, which is zero. -/
theorem toBE_usdcIn {preapproved : ℕ} (h : preapproved < 2 ^ 136) :
    toBE 18 (((IoToken.usdc.toUint8 <<< ((SWAP_PARAM_AMOUNT_SIZE + MODE_SIZE) * 8)) + preapproved) %
      2 ^ 144) = toBE 1 IoToken.usdc.toUint8 ++ toBE 17 preapproved := by
  rw [toBE_cast 18, Nat.shiftLeft_eq]
  exact toBE_pack (m := 1) (n := 17) (a := 0) (by decide) h

theorem toBE_tokenIn (inputToken : Address) (approveCheck : Bool) :
    toBE 22 (encodeTokenIn inputToken approveCheck) = toBE 1 IoToken.other.toUint8 ++
      (toBE 1 approveCheck.toNat ++ inputToken.toList) := by
  have hflag : (if approveCheck then 1 else 0) = approveCheck.toNat := by
    cases approveCheck <;> rfl
  have haddress := toBE_ofBE inputToken.toList
  have hlt := ofBE_lt inputToken.toList
  rw [inputToken.toList_length] at haddress hlt
  have hpack := toBE_pack_three (m := 1) (n := 1) (k := 20) (a := 2) (by decide)
    (show approveCheck.toNat < 256 ^ 1 by cases approveCheck <;> decide) hlt
  rw [haddress] at hpack
  rw [encodeTokenIn, hflag, toBE_cast 22, Nat.shiftLeft_eq, Nat.shiftLeft_eq]
  exact hpack

theorem InputArg.encode_ok {wrappedNative usdcToken : Address} {i : InputArg} {bytes : Bytes} :
    i.encode wrappedNative usdcToken = .ok bytes ↔
      i.Accepted wrappedNative usdcToken ∧ bytes = i.fields.encode := by
  cases i with
  | native evmSwapParams =>
    simp only [InputArg.encode, except_bind_ok, except_pure_ok, encodeSwapParams_ok]
    constructor
    · rintro ⟨_, ⟨haccepted, rfl⟩, rfl⟩
      exact ⟨haccepted, rfl⟩
    · rintro ⟨haccepted, rfl⟩
      exact ⟨_, ⟨haccepted, rfl⟩, rfl⟩
  | usdc amount =>
    have hencode : amount ≤ uintMax 128 →
        toBE 18 (((IoToken.usdc.toUint8 <<< ((SWAP_PARAM_AMOUNT_SIZE + MODE_SIZE) * 8)) +
          ((amount <<< (MODE_SIZE * 8)) + AcquireMode.preapproved.toUint8) % 2 ^ 136) % 2 ^ 144) =
          (InputArg.usdc amount).fields.encode := by
      intro hle
      rw [toBE_usdcIn (Nat.mod_lt _ (by decide)), toBE_preapproved hle]
      rfl
    simp only [InputArg.encode, encodeUsdcIn, except_bind_ok, except_pure_ok,
      encodeAmountPreapproved_ok]
    constructor
    · rintro ⟨_, ⟨_, ⟨hle, rfl⟩, rfl⟩, rfl⟩
      exact ⟨hle, hencode hle⟩
    · rintro ⟨hle, rfl⟩
      exact ⟨_, ⟨_, ⟨hle, rfl⟩, rfl⟩, hencode hle⟩
  | token inputToken approveCheck amount evmSwapParams =>
    have hencode : amount ≤ uintMax 128 →
        toBE 22 (encodeTokenIn inputToken approveCheck) ++
          (toBE 17 (((amount <<< (MODE_SIZE * 8)) + AcquireMode.preapproved.toUint8) % 2 ^ 136) ++
            evmSwapParams.fields.encode) =
          (InputArg.token inputToken approveCheck amount evmSwapParams).fields.encode := by
      intro hle
      rw [toBE_tokenIn, toBE_preapproved hle]
      simp only [InputArg.fields, InputFields.encode, List.append_assoc]
    simp only [InputArg.encode, except_bind_ok, except_pure_ok, encodeAmountPreapproved_ok,
      encodeSwapParams_ok]
    constructor
    · rintro ⟨_, ⟨hle, rfl⟩, _, ⟨haccepted, rfl⟩, rfl⟩
      exact ⟨⟨hle, haccepted⟩, hencode hle⟩
    · rintro ⟨⟨hle, haccepted⟩, rfl⟩
      exact ⟨_, ⟨hle, rfl⟩, _, ⟨haccepted, rfl⟩, hencode hle⟩

/-! ## Compositions -/

section Composition

variable {wrappedNative usdc : Address} {c : Composition} {output : OutputParams}

/-- **What is composed**, if the checks let it through, is the encoding of the given fields. -/
theorem compose_ok (houtput : encodeOutputParams output = .ok c.outputParams)
    {r : ComposedInitiateParams} :
    compose wrappedNative usdc c = .ok r ↔ c.Accepted wrappedNative usdc ∧
      r = ⟨c.msgValueOrPlaceholder, c.targetParams, (c.fields output).encode⟩ := by
  have hout := (encodeOutputParams_ok houtput).2
  simp only [compose, except_bind_ok, except_pure_ok, encodeFastTransferArg_ok, RedeemArg.encode_ok,
    InputArg.encode_ok]
  constructor
  · rintro ⟨_, ⟨hfast, rfl⟩, _, ⟨hredeem, rfl⟩, _, ⟨hinput, rfl⟩, rfl⟩
    exact ⟨⟨hfast, hredeem, hinput⟩, by rw [hout]; rfl⟩
  · rintro ⟨⟨hfast, hredeem, hinput⟩, rfl⟩
    exact ⟨_, ⟨hfast, rfl⟩, _, ⟨hredeem, rfl⟩, _, ⟨hinput, rfl⟩, by rw [hout]; rfl⟩

theorem Composition.Accepted.fits (h : c.Accepted wrappedNative usdc)
    (houtput : encodeOutputParams output = .ok c.outputParams) (hpayload : c.redeem.PayloadFits) :
    (c.fields output).Fits := by
  refine ⟨fun maxFee deadline hfast => ?_, ?_, ?_, (encodeOutputParams_ok houtput).1⟩
  · obtain ⟨params, hparams, heq⟩ := Option.map_eq_some_iff.1 hfast
    obtain ⟨hfee, hdeadline⟩ := h.fastTransfer params hparams
    cases heq
    exact ⟨lt_of_le_uintMax (n := 6) hfee, lt_of_le_uintMax (n := 4) hdeadline⟩
  · have hredeem := h.redeem
    show c.redeem.fields.Fits
    cases hr : c.redeem with
    | direct => trivial
    | relay params =>
      rw [hr] at hredeem
      exact ⟨lt_of_le_uintMax (n := 4) hredeem.2, lt_of_le_uintMax (n := 6) hredeem.1⟩
    | payload bytes =>
      rw [hr] at hpayload
      exact lt_of_le_uintMax (n := 2) hpayload
  · have hinput := h.input
    show c.input.fields.Fits
    cases hi : c.input with
    | native evmSwapParams =>
      rw [hi] at hinput
      exact hinput.fits
    | usdc amount =>
      rw [hi] at hinput
      exact ⟨lt_of_le_uintMax (n := 16) hinput, trivial⟩
    | token inputToken approveCheck amount evmSwapParams =>
      rw [hi] at hinput
      exact ⟨lt_of_le_uintMax (n := 16) hinput.1, trivial, hinput.2.fits⟩

/-- What is composed is understood iff the payload fits and the output token is an address of the
target chain. -/
theorem compose_understood_iff (h : c.Accepted wrappedNative usdc)
    (houtput : encodeOutputParams output = .ok c.outputParams) :
    Understood c.targetParams.chainId (c.fields output).encode (c.fields output) ↔
      c.redeem.PayloadFits ∧ output.fields.ValidOn c.targetParams.chainId := by
  constructor
  · intro hunderstood
    refine ⟨?_, hunderstood.valid⟩
    cases hr : c.redeem with
    | direct => trivial
    | relay => trivial
    | payload bytes =>
      have hlt : bytes.length < 256 ^ 2 := hunderstood.payload_length (by rw [Composition.fields, hr]; rfl)
      exact Nat.le_of_lt_succ hlt
  · rintro ⟨hpayload, hvalid⟩
    exact understood_encode (h.fits houtput hpayload) hvalid

end Composition

/-- **When the contract understands what the library composes.** Whatever the overload, the bytes that
it returns are accepted and read as the given fields iff one of the checks of the library refuses the
arguments, or the payload is shorter than 65536 bytes and the output token is an address of the target
chain. -/
theorem composeInitiate_understood_iff (wrappedNative usdc : Address) (request : InitiateRequest)
    (output : OutputParams) (houtput : encodeOutputParams output = .ok request.composition.outputParams) :
    (∀ composed, composeInitiate wrappedNative usdc request = .ok composed →
      Understood composed.targetParams.chainId composed.params (request.composition.fields output)) ↔
    (request.composition.Accepted wrappedNative usdc → request.composition.redeem.PayloadFits ∧
      output.fields.ValidOn request.composition.targetParams.chainId) := by
  constructor
  · intro h haccepted
    have hunderstood := h _ ((compose_ok houtput).2 ⟨haccepted, rfl⟩)
    exact (compose_understood_iff haccepted houtput).1 hunderstood
  · intro h composed hcompose
    obtain ⟨haccepted, rfl⟩ := (compose_ok houtput).1 hcompose
    exact (compose_understood_iff haccepted houtput).2 (h haccepted)

namespace Sample

def usdc : Address := ⟨List.replicate 20 1, by simp⟩

def wrappedNative : Address := ⟨List.replicate 20 2, by simp⟩

def token : Address := ⟨List.replicate 20 3, by simp⟩

def target : TargetParams := ⟨3, toUniversalAddress token⟩

/-- A token that is swapped to USDC along a full path of two pools, sent with a payload of `n` bytes. -/
def payloadRequest (n : ℕ) (outputParams : Bytes) : InitiateRequest :=
  .initiateTokenPayloadFast target ⟨7, 90⟩ (List.replicate n 0) 1000 true token false
    ⟨60, 5, .traderJoe, token.toList ++ toBE 3 9 ++ wrappedNative.toList ++ toBE 3 8 ++ usdc.toList⟩
    outputParams

/-- The USDC is swapped to another token at the target, along a partial path. -/
def output : OutputParams := .tokenEvm token ⟨60, 5, .uniswapV3, toBE 3 500⟩

theorem payloadRequest_accepted (n : ℕ) (outputParams : Bytes) :
    (payloadRequest n outputParams).composition.Accepted wrappedNative usdc := by
  have hpath : (fullPathStripOffset
      (token.toList ++ toBE 3 9 ++ wrappedNative.toList ++ toBE 3 8 ++ usdc.toList) true token
        usdc).toOption = some 20 := by decide +kernel
  refine ⟨?_, trivial, by decide, by decide, by decide, ⟨20, toOption_eq_some.1 hpath⟩,
    by decide +kernel⟩
  rintro params ⟨⟩
  exact ⟨by decide, by decide⟩

/-- With a payload of two bytes, everything is understood. -/
theorem composed_understood :
    ∃ outputParams, encodeOutputParams output = .ok outputParams ∧
      ∃ composed, composeInitiate wrappedNative usdc (payloadRequest 2 outputParams) = .ok composed ∧
        Understood composed.targetParams.chainId composed.params
          ((payloadRequest 2 outputParams).composition.fields output) := by
  have hrun : (encodeOutputParams output).toOption.isSome = true := by decide +kernel
  obtain ⟨outputParams, hsome⟩ := Option.isSome_iff_exists.1 hrun
  have houtput := toOption_eq_some.1 hsome
  have haccepted := payloadRequest_accepted 2 outputParams
  have hcompose := (compose_ok houtput).2 ⟨haccepted, rfl⟩
  exact ⟨outputParams, houtput, _, hcompose,
    (composeInitiate_understood_iff wrappedNative usdc (payloadRequest 2 outputParams) output
      houtput).2 (fun _ => ⟨Nat.le_of_ble_eq_true rfl, checkAddr_ok.2
        ⟨by decide, fun _ => upperBytesZero_toUniversalAddress token⟩⟩) _ hcompose⟩

/-- A payload of 65536 bytes is composed with a length of zero, and not understood. -/
theorem long_payload_misread :
    ∃ outputParams, encodeOutputParams output = .ok outputParams ∧
      ∃ composed, composeInitiate wrappedNative usdc (payloadRequest 65536 outputParams) =
          .ok composed ∧
        ¬Understood composed.targetParams.chainId composed.params
          ((payloadRequest 65536 outputParams).composition.fields output) := by
  have hrun : (encodeOutputParams output).toOption.isSome = true := by decide +kernel
  obtain ⟨outputParams, hsome⟩ := Option.isSome_iff_exists.1 hrun
  have houtput := toOption_eq_some.1 hsome
  refine ⟨outputParams, houtput, _, (compose_ok houtput).2 ⟨payloadRequest_accepted _ _, rfl⟩, ?_⟩
  intro h
  have hlength := h.payload_length rfl
  rw [List.length_replicate] at hlength
  exact absurd hlength (by decide)

end Sample

end SwapLayer.Integration
