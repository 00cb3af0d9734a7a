import SwapLayer.Evm.Message
import SwapLayer.Evm.ParamLayout

/-!
# Initiate arguments of the TypeScript SDK

Model of `initiateArgsLayout` in `evm/ts-sdk/src/layout.ts`. A layout says at once what its values are
and how `serializeLayout` (outside the tree) writes them: the fields in order, integers big-endian in
the size given, the id in front of a switch case, the length in front of bytes and arrays. Here, each
layout item is a type and a writer with the item's name.

* Integers are `Uint n`, byte strings of fixed size `Fixed n`, length-prefixed ones `Prefixed n`:
  `serializeLayout` throws on other values. An EVM address is its 20 bytes.
* A gas dropoff is given in wei and written in its unit; it must fit there.

`InitiateArgs.toFields` are the arguments as the contract documents them. The redeem mode item is
shared with the layout of the swap message, where a payload comes with its sender. In the parameters
of `initiate` there is no sender: the contract takes it from the caller.

Results:
* `encodeInitiateArgs_eq`: without a payload, the bytes are the encoding that the contract documents.
* `length_encodeInitiateArgs_payload`: with a payload, they are 32 bytes longer.
* `encodeInitiateArgs_understood_iff`: the contract understands the arguments iff they carry no payload.
-/

namespace SwapLayer.Sdk

open ByteString

/-! ## Values -/

/-- Wei per unit of `gasDropoffItem`. -/
def gasDropoffUnit : ℕ := 10 ^ 12

/-- An amount of wei that fits into a `gasDropoffItem`. -/
abbrev GasDropoff := {dropoff : ℕ // dropoff / gasDropoffUnit < 256 ^ 4}

inductive FastTransferMode
  | disabled
  | enabled (maxFee : Uint 6) (deadline : Uint 4)

inductive RedeemMode
  | direct
  | payload (sender : Fixed 32) (bytes : Prefixed 2)
  | relay (gasDropoff : GasDropoff) (maxRelayingFee : Uint 6)

inductive AcquireMode
  | preapproved
  | permit (value deadline : Uint 32) (signature : Fixed 65)
  | permit2Transfer (amount nonce sigDeadline : Uint 32) (signature : Fixed 65)
  | permit2Permit (amount : Uint 20) (expiration nonce : Uint 6) (sigDeadline : Uint 32)
      (signature : Fixed 65)

/-- An element of `path`. -/
structure Hop where
  address : Fixed 20
  poolId : Uint 3

/-- The values of `sharedUniswapTraderJoeLayout`. -/
structure EvmPath where
  firstPoolId : Uint 3
  path : {hops : List Hop // hops.length < 256 ^ 1}

/-- The cases of `swapTypes`. -/
inductive SwapType
  | uniswapV3 (path : EvmPath)
  | traderJoe (path : EvmPath)
  | genericSolana (dexProgramId : Option (Fixed 32))

structure Swap where
  deadline : Uint 4
  limitAmount : Uint 16
  type : SwapType

inductive InputToken
  | usdc (amount : Uint 16) (acquireMode : AcquireMode)
  | gas (swap : Swap)
  | other (approveCheck : Bool) (address : Fixed 20) (amount : Uint 16) (acquireMode : AcquireMode)
      (swap : Swap)

inductive OutputToken
  | usdc
  | gas (swap : Swap)
  | other (address : Fixed 32) (swap : Swap)

structure InitiateArgs where
  fastTransferMode : FastTransferMode
  redeemMode : RedeemMode
  isExactIn : Bool
  inputToken : InputToken
  outputToken : OutputToken

/-! ## Layout items -/

def boolItem (val : Bool) : List UInt8 := toBE 1 val.toNat

def gasDropoffItem (dropoff : GasDropoff) : List UInt8 := toBE 4 (dropoff.val / gasDropoffUnit)

def fastTransferModeItem : FastTransferMode → List UInt8
  | .disabled => toBE 1 0
  | .enabled maxFee deadline => toBE 1 1 ++ (writeUint maxFee ++ writeUint deadline)

def redeemModeItem : RedeemMode → List UInt8
  | .direct => toBE 1 0
  | .payload sender bytes => toBE 1 1 ++ (sender.toList ++ writePrefixed bytes)
  | .relay gasDropoff maxRelayingFee =>
    toBE 1 2 ++ (gasDropoffItem gasDropoff ++ writeUint maxRelayingFee)

def acquireModeItem : AcquireMode → List UInt8
  | .preapproved => toBE 1 0
  | .permit value deadline signature =>
    toBE 1 1 ++ (writeUint value ++ (writeUint deadline ++ signature.toList))
  | .permit2Transfer amount nonce sigDeadline signature =>
    toBE 1 2 ++ (writeUint amount ++ (writeUint nonce ++ (writeUint sigDeadline ++ signature.toList)))
  | .permit2Permit amount expiration nonce sigDeadline signature =>
    toBE 1 3 ++ (writeUint amount ++ (writeUint expiration ++ (writeUint nonce ++
      (writeUint sigDeadline ++ signature.toList))))

def Hop.write (hop : Hop) : List UInt8 := hop.address.toList ++ writeUint hop.poolId

def sharedUniswapTraderJoeLayout (p : EvmPath) : List UInt8 :=
  writeUint p.firstPoolId ++ (toBE 1 p.path.val.length ++ p.path.val.flatMap Hop.write)

def jupiterV6SwapParametersLayout (dexProgramId : Option (Fixed 32)) : List UInt8 :=
  writeOption List.Vector.toList dexProgramId

/-- The switch over `swapTypes` and `swapItemLayouts`. -/
def swapTypeItem : SwapType → List UInt8
  | .uniswapV3 path => toBE 1 1 ++ sharedUniswapTraderJoeLayout path
  | .traderJoe path => toBE 1 2 ++ sharedUniswapTraderJoeLayout path
  | .genericSolana dexProgramId => toBE 1 16 ++ jupiterV6SwapParametersLayout dexProgramId

def swapItem (s : Swap) : List UInt8 :=
  writeUint s.deadline ++ (writeUint s.limitAmount ++ swapTypeItem s.type)

def inputTokenItem : InputToken → List UInt8
  | .usdc amount acquireMode => toBE 1 0 ++ (writeUint amount ++ acquireModeItem acquireMode)
  | .gas swap => toBE 1 1 ++ swapItem swap
  | .other approveCheck address amount acquireMode swap =>
    toBE 1 2 ++ (boolItem approveCheck ++ (address.toList ++ (writeUint amount ++
      (acquireModeItem acquireMode ++ swapItem swap))))

def outputTokenItem : OutputToken → List UInt8
  | .usdc => toBE 1 0
  | .gas swap => toBE 1 1 ++ swapItem swap
  | .other address swap => toBE 1 2 ++ (address.toList ++ swapItem swap)

def encodeInitiateArgs (args : InitiateArgs) : List UInt8 :=
  fastTransferModeItem args.fastTransferMode ++ (redeemModeItem args.redeemMode ++
    (boolItem args.isExactIn ++ (inputTokenItem args.inputToken ++ outputTokenItem args.outputToken)))

/-! ## What the arguments mean to the contract -/

def FastTransferMode.toFields : FastTransferMode → Option (ℕ × ℕ)
  | disabled => none
  | enabled maxFee deadline => some (maxFee, deadline)

/-- The sender is not a parameter. -/
def RedeemMode.toFields : RedeemMode → Evm.RedeemParamFields
  | direct => .direct
  | payload _ bytes => .payload bytes
  | relay gasDropoff maxRelayingFee => .relay (gasDropoff / gasDropoffUnit) maxRelayingFee

def AcquireMode.toFields : AcquireMode → Evm.AcquireFields
  | preapproved => .preapproved
  | permit value deadline signature => .permit value deadline signature
  | permit2Transfer amount nonce sigDeadline signature =>
    .permit2Transfer amount nonce sigDeadline signature
  | permit2Permit amount expiration nonce sigDeadline signature =>
    .permit2Permit amount expiration nonce sigDeadline signature

/-- First pool id and hops in a row. -/
def EvmPath.bytes (p : EvmPath) : List UInt8 :=
  writeUint p.firstPoolId ++ p.path.val.flatMap Hop.write

def SwapType.toRoute : SwapType → Evm.SwapRoute
  | uniswapV3 path => .evm .uniswapV3 path.bytes
  | traderJoe path => .evm .traderJoe path.bytes
  | genericSolana dexProgramId => .jupiter dexProgramId

def Swap.toFields (s : Swap) : Evm.SwapFields := ⟨s.deadline, s.limitAmount, s.type.toRoute⟩

def InputToken.toFields : InputToken → Evm.InputFields
  | usdc amount acquireMode => .usdc amount acquireMode.toFields
  | gas swap => .gas swap.toFields
  | other approveCheck address amount acquireMode swap =>
    .other approveCheck address amount acquireMode.toFields swap.toFields

def OutputToken.toFields : OutputToken → Evm.OutputFields
  | usdc => .usdc
  | gas swap => .gas swap.toFields
  | other address swap => .other address swap.toFields

def InitiateArgs.toFields (args : InitiateArgs) : Evm.InitiateFields :=
  ⟨args.fastTransferMode.toFields, args.redeemMode.toFields, args.isExactIn, args.inputToken.toFields,
    args.outputToken.toFields⟩

def RedeemMode.IsPayload : RedeemMode → Prop
  | payload .. => True
  | _ => False

instance (m : RedeemMode) : Decidable m.IsPayload :=
  match m with
  | .direct => isFalse id
  | .payload .. => isTrue trivial
  | .relay .. => isFalse id

/-! ## Items and blocks -/

theorem Hop.length_write (hop : Hop) : hop.write.length = Evm.SHARED_PATH_ELEMENT_SIZE := by
  simp [Hop.write, writeUint, Evm.SHARED_PATH_ELEMENT_SIZE, Evm.ADDRESS_SIZE, Evm.SHARED_POOL_ID_SIZE]

namespace EvmPath

variable (p : EvmPath)

theorem length_bytes : p.bytes.length =
    Evm.SHARED_POOL_ID_SIZE + p.path.val.length * Evm.SHARED_PATH_ELEMENT_SIZE := by
  simp only [bytes, writeUint, List.length_append, length_toBE, length_flatMap_const Hop.length_write]
  rfl

@[simp] theorem hopCount_bytes : Evm.hopCount p.bytes = p.path.val.length := by
  rw [Evm.hopCount, length_bytes, Nat.add_sub_cancel_left, Nat.mul_div_cancel _ (by decide)]

theorem pool_bytes : (sliceFixed 3 p.bytes 0).toList = writeUint p.firstPoolId := by
  have := slice_head (writeUint p.firstPoolId) (p.path.val.flatMap Hop.write)
  rwa [show (writeUint p.firstPoolId).length = 3 from length_toBE ..] at this

theorem drop_bytes : p.bytes.drop Evm.SHARED_POOL_ID_SIZE = p.path.val.flatMap Hop.write := by
  refine List.drop_left' ?_
  exact length_toBE ..

theorem fits (swapType : Evm.EvmSwapType) : (Evm.SwapRoute.evm swapType p.bytes).Fits := by
  refine ⟨?_, ?_⟩
  · rw [hopCount_bytes]
    exact p.path.property
  · rw [hopCount_bytes, length_bytes]

end EvmPath

theorem swapItem_eq (s : Swap) : swapItem s = s.toFields.encode := by
  obtain ⟨deadline, limitAmount, type⟩ := s
  cases type with
  | uniswapV3 p =>
    simp only [swapItem, swapTypeItem, sharedUniswapTraderJoeLayout, Swap.toFields, SwapType.toRoute,
      Evm.SwapFields.encode, Evm.encodeEvmSwap, Evm.encodeSwapHead, p.pool_bytes, p.drop_bytes,
      p.hopCount_bytes, List.append_assoc]
    rfl
  | traderJoe p =>
    simp only [swapItem, swapTypeItem, sharedUniswapTraderJoeLayout, Swap.toFields, SwapType.toRoute,
      Evm.SwapFields.encode, Evm.encodeEvmSwap, Evm.encodeSwapHead, p.pool_bytes, p.drop_bytes,
      p.hopCount_bytes, List.append_assoc]
    rfl
  | genericSolana dexProgramId =>
    simp only [swapItem, swapTypeItem, Swap.toFields, SwapType.toRoute, Evm.SwapFields.encode,
      Evm.encodeSwapHead, List.append_assoc]
    rfl

theorem Swap.fits (s : Swap) : s.toFields.Fits := by
  refine ⟨s.deadline.isLt, s.limitAmount.isLt, ?_⟩
  obtain ⟨deadline, limitAmount, type⟩ := s
  cases type with
  | uniswapV3 p => exact p.fits .uniswapV3
  | traderJoe p => exact p.fits .traderJoe
  | genericSolana => trivial

theorem acquireModeItem_eq (a : AcquireMode) : acquireModeItem a = a.toFields.encode := by
  cases a with
  | preapproved => exact (List.append_nil _).symm
  | permit => rfl
  | permit2Transfer => rfl
  | permit2Permit => rfl

theorem AcquireMode.fits (a : AcquireMode) : a.toFields.Fits := by
  cases a with
  | preapproved => trivial
  | permit value deadline => exact ⟨value.isLt, deadline.isLt⟩
  | permit2Transfer amount nonce sigDeadline => exact ⟨amount.isLt, nonce.isLt, sigDeadline.isLt⟩
  | permit2Permit amount expiration nonce sigDeadline =>
    exact ⟨amount.isLt, expiration.isLt, nonce.isLt, sigDeadline.isLt⟩

theorem inputTokenItem_eq (i : InputToken) : inputTokenItem i = i.toFields.encode := by
  cases i with
  | usdc amount acquireMode =>
    rw [inputTokenItem, acquireModeItem_eq]
    rfl
  | gas swap =>
    rw [inputTokenItem, swapItem_eq]
    rfl
  | other approveCheck address amount acquireMode swap =>
    rw [inputTokenItem, acquireModeItem_eq, swapItem_eq]
    rfl

theorem InputToken.fits (i : InputToken) : i.toFields.Fits := by
  cases i with
  | usdc amount acquireMode => exact ⟨amount.isLt, acquireMode.fits⟩
  | gas swap => exact swap.fits
  | other approveCheck address amount acquireMode swap =>
    exact ⟨amount.isLt, acquireMode.fits, swap.fits⟩

theorem outputTokenItem_eq (o : OutputToken) : outputTokenItem o = o.toFields.encode := by
  cases o with
  | usdc => rfl
  | gas swap =>
    rw [outputTokenItem, swapItem_eq]
    rfl
  | other address swap =>
    rw [outputTokenItem, swapItem_eq]
    rfl

theorem OutputToken.fits (o : OutputToken) : o.toFields.Fits := by
  cases o with
  | usdc => trivial
  | gas swap => exact swap.fits
  | other address swap => exact swap.fits

theorem fastTransferModeItem_eq (m : FastTransferMode) :
    fastTransferModeItem m = Evm.encodeFastTransfer m.toFields := by
  cases m <;> rfl

theorem InitiateArgs.fits (args : InitiateArgs) : args.toFields.Fits := by
  refine ⟨fun maxFee deadline h => ?_, ?_, args.inputToken.fits, args.outputToken.fits⟩
  · cases hmode : args.fastTransferMode with
    | disabled =>
      rw [InitiateArgs.toFields, hmode] at h
      cases h
    | enabled fee time =>
      rw [InitiateArgs.toFields, hmode] at h
      cases h
      exact ⟨fee.isLt, time.isLt⟩
  · show args.redeemMode.toFields.Fits
    cases args.redeemMode with
    | direct => trivial
    | payload sender bytes => exact bytes.property
    | relay gasDropoff maxRelayingFee => exact ⟨gasDropoff.property, maxRelayingFee.isLt⟩

/-! ## Whole arguments -/

/-- **Without a payload, the SDK writes what the contract documents.** -/
theorem encodeInitiateArgs_eq {args : InitiateArgs} (h : ¬args.redeemMode.IsPayload) :
    encodeInitiateArgs args = args.toFields.encode := by
  have hredeem : redeemModeItem args.redeemMode = args.redeemMode.toFields.encode := by
    cases hmode : args.redeemMode with
    | direct => rfl
    | payload sender bytes =>
      rw [hmode] at h
      exact absurd trivial h
    | relay gasDropoff maxRelayingFee => rfl
  rw [encodeInitiateArgs, fastTransferModeItem_eq, hredeem, inputTokenItem_eq, outputTokenItem_eq]
  rfl

/-- With a payload, it writes the sender, too. -/
theorem length_encodeInitiateArgs_payload {args : InitiateArgs} (h : args.redeemMode.IsPayload) :
    (encodeInitiateArgs args).length = args.toFields.encode.length + 32 := by
  have hredeem : (redeemModeItem args.redeemMode).length =
      args.redeemMode.toFields.encode.length + 32 := by
    cases hmode : args.redeemMode with
    | payload sender bytes =>
      simp only [redeemModeItem, RedeemMode.toFields, Evm.RedeemParamFields.encode, writePrefixed,
        List.length_append, length_toBE, sender.toList_length]
      omega
    | direct =>
      rw [hmode] at h
      exact h.elim
    | relay =>
      rw [hmode] at h
      exact h.elim
  rw [encodeInitiateArgs, fastTransferModeItem_eq, inputTokenItem_eq, outputTokenItem_eq,
    Evm.InitiateFields.encode]
  simp only [List.length_append, hredeem, boolItem, length_toBE, InitiateArgs.toFields]
  omega

/-- **The contract understands the arguments of the SDK iff they carry no payload**: on a chain that
the output token is an address of, the bytes are accepted and every field is read as it was given. -/
theorem encodeInitiateArgs_understood_iff {targetChain : ℕ} (args : InitiateArgs)
    (hvalid : args.toFields.output.ValidOn targetChain) :
    Evm.Understood targetChain (encodeInitiateArgs args) args.toFields ↔
      ¬args.redeemMode.IsPayload := by
  constructor
  · intro hunderstood hpayload
    have hlength := hunderstood.length args.fits
    rw [length_encodeInitiateArgs_payload hpayload] at hlength
    omega
  · intro h
    rw [encodeInitiateArgs_eq h]
    exact Evm.understood_encode args.fits hvalid

namespace Sample

def token : Fixed 20 := ⟨List.replicate 20 7, by simp⟩

def caller : Fixed 20 := ⟨List.replicate 20 0x99, by simp⟩

/-- A swap over two pools. -/
def swap : Swap :=
  ⟨uintAt 4 [0, 0, 0, 60] 0, uintAt 16 (toBE 16 5) 0,
    .uniswapV3 ⟨uintAt 3 [0, 1, 244] 0, ⟨[⟨token, uintAt 3 [0, 11, 184] 0⟩], by decide⟩⟩⟩

/-- A relayed fast transfer of a token with a permit, to another token. -/
def relayArgs : InitiateArgs :=
  ⟨.enabled (uintAt 6 [0, 0, 0, 0, 1, 0] 0) (uintAt 4 [0, 0, 0, 90] 0),
    .relay ⟨3 * gasDropoffUnit + 1, by decide⟩ (uintAt 6 [0, 0, 0, 0, 0, 9] 0), true,
    .other true token (uintAt 16 (toBE 16 1000) 0)
      (.permit (uintAt 32 (toBE 32 1000) 0) (uintAt 32 (toBE 32 80) 0)
        ⟨List.replicate 65 5, by simp⟩) swap,
    .other (Evm.toUniversalAddress token) swap⟩

/-- It is understood. -/
theorem relay_understood :
    Evm.Understood 3 (encodeInitiateArgs relayArgs) relayArgs.toFields :=
  (encodeInitiateArgs_understood_iff relayArgs (Evm.checkAddr_ok.2
    ⟨by decide, fun _ => Evm.upperBytesZero_toUniversalAddress token⟩)).2 id

/-- USDC with a payload of two bytes. -/
def payloadArgs : InitiateArgs :=
  ⟨.disabled, .payload (Evm.toUniversalAddress caller) ⟨[1, 2], by decide⟩, true,
    .usdc (uintAt 16 (toBE 16 1000) 0) .preapproved, .usdc⟩

/-- The contract takes the first bytes of the sender for the length of the payload, and rejects what
it finds behind it. -/
theorem payload_not_understood :
    payloadArgs.toFields.output.ValidOn 3 ∧
      ¬Evm.Understood 3 (encodeInitiateArgs payloadArgs) payloadArgs.toFields := by
  refine ⟨trivial, ?_⟩
  rintro ⟨mos, hparse, -⟩
  have hreject : (Evm.parseParamBaseStructure 3 (encodeInitiateArgs payloadArgs)).toOption = none := by
    decide +kernel
  rw [hparse] at hreject
  cases hreject

end Sample

end SwapLayer.Sdk
