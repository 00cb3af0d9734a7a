import SwapLayer.Evm.ParamBlocks
import SwapLayer.Lib.Reader

/-!
# The layout of the parameters of `initiate`

The layout that `evm/src/assets/InitiateParams.sol` documents above its parser, as a data type
(`InitiateFields`) and what its readers make of it. Two encoders outside the contract write this
layout: the TypeScript SDK and the Solidity integrator library.

The fields are plain numbers and byte strings, so that an encoder can be asked for more than the layout
holds; `Fits` are the widths. A path is the first pool id and, for each further hop, address and pool
id.

`Reads` says of each block which fields `initiate` finds in it, by the functions that it reads them
with, and that the last of them stops where the block ends. `Understood` adds that the parser accepts
the string.

Results:
* `understood_encode`: fields that fit are understood, if the output token is an address of the target
  chain.
* `Understood.length`, `Understood.payload_length`, `Understood.valid`: what is understood as given
  fields is as long as their encoding, its payload fits, and its output token was accepted.
-/

namespace SwapLayer.Evm

open ByteString Program

/-! ## Fields -/

inductive EvmSwapType
  | uniswapV3
  | traderJoe
  deriving DecidableEq, Repr

def EvmSwapType.toUint8 : EvmSwapType → ℕ
  | .uniswapV3 => SWAP_TYPE_UNISWAPV3
  | .traderJoe => SWAP_TYPE_TRADERJOE

/-- What follows the numbers of a swap: a path through the pools of an EVM router, or the dex that
Jupiter is bound to, if it is. -/
inductive SwapRoute
  | evm (swapType : EvmSwapType) (path : Bytes)
  | jupiter (dex : Option Bytes32)

structure SwapFields where
  deadline : ℕ
  limitAmount : ℕ
  route : SwapRoute

inductive AcquireFields
  | preapproved
  | permit (value deadline : ℕ) (signature : Fixed 65)
  | permit2Transfer (amount nonce sigDeadline : ℕ) (signature : Fixed 65)
  | permit2Permit (amount expiration nonce sigDeadline : ℕ) (signature : Fixed 65)

inductive RedeemParamFields
  | direct
  | payload (bytes : Bytes)
  | relay (gasDropoff maxRelayerFee : ℕ)

inductive InputFields
  | usdc (amount : ℕ) (acquire : AcquireFields)
  | gas (swap : SwapFields)
  | other (approveCheck : Bool) (token : Address) (amount : ℕ) (acquire : AcquireFields)
      (swap : SwapFields)

inductive OutputFields
  | usdc
  | gas (swap : SwapFields)
  | other (token : Bytes32) (swap : SwapFields)

/-- The content of a parameter string; a fast transfer has a maximum fee and a deadline. -/
structure InitiateFields where
  fastTransfer : Option (ℕ × ℕ)
  redeem : RedeemParamFields
  isExactIn : Bool
  input : InputFields
  output : OutputFields

/-- The number of hops of a path behind its first pool. -/
def hopCount (path : Bytes) : ℕ := (path.length - SHARED_POOL_ID_SIZE) / SHARED_PATH_ELEMENT_SIZE

/-! ## Encoding -/

def SwapFields.encode (s : SwapFields) : Bytes :=
  match s.route with
  | .evm swapType path =>
    encodeEvmSwap s.deadline s.limitAmount swapType.toUint8 (sliceFixed 3 path 0) (hopCount path)
      (path.drop SHARED_POOL_ID_SIZE)
  | .jupiter dex =>
    encodeSwapHead s.deadline s.limitAmount SWAP_TYPE_JUPITERV6 ++ writeOption List.Vector.toList dex

def AcquireFields.mode : AcquireFields → AcquireMode
  | preapproved => .preapproved
  | permit .. => .permit
  | permit2Transfer .. => .permit2Transfer
  | permit2Permit .. => .permit2Permit

/-- The permit data behind the acquire mode. -/
def AcquireFields.data : AcquireFields → Bytes
  | preapproved => []
  | permit value deadline signature => toBE 32 value ++ (toBE 32 deadline ++ signature.toList)
  | permit2Transfer amount nonce sigDeadline signature =>
    toBE 32 amount ++ (toBE 32 nonce ++ (toBE 32 sigDeadline ++ signature.toList))
  | permit2Permit amount expiration nonce sigDeadline signature =>
    toBE 20 amount ++ (toBE 6 expiration ++ (toBE 6 nonce ++ (toBE 32 sigDeadline ++
      signature.toList)))

def AcquireFields.encode (a : AcquireFields) : Bytes := toBE 1 a.mode.toUint8 ++ a.data

def encodeFastTransfer : Option (ℕ × ℕ) → Bytes
  | none => toBE 1 0
  | some (maxFee, deadline) => toBE 1 1 ++ (toBE 6 maxFee ++ toBE 4 deadline)

def RedeemParamFields.encode : RedeemParamFields → Bytes
  | direct => toBE 1 RedeemMode.direct.toUint8
  | payload bytes => toBE 1 RedeemMode.payload.toUint8 ++ (toBE 2 bytes.length ++ bytes)
  | relay gasDropoff maxRelayerFee =>
    toBE 1 RedeemMode.relay.toUint8 ++ (toBE 4 gasDropoff ++ toBE 6 maxRelayerFee)

def InputFields.encode : InputFields → Bytes
  | usdc amount acquire => toBE 1 IoToken.usdc.toUint8 ++ (toBE 16 amount ++ acquire.encode)
  | gas swap => toBE 1 IoToken.gas.toUint8 ++ swap.encode
  | other approveCheck token amount acquire swap =>
    toBE 1 IoToken.other.toUint8 ++ (toBE 1 approveCheck.toNat ++ (token.toList ++ (toBE 16 amount ++
      (acquire.encode ++ swap.encode))))

def OutputFields.encode : OutputFields → Bytes
  | usdc => toBE 1 IoToken.usdc.toUint8
  | gas swap => toBE 1 IoToken.gas.toUint8 ++ swap.encode
  | other token swap => toBE 1 IoToken.other.toUint8 ++ (token.toList ++ swap.encode)

def InitiateFields.encode (f : InitiateFields) : Bytes :=
  encodeFastTransfer f.fastTransfer ++ (f.redeem.encode ++ (toBE 1 f.isExactIn.toNat ++
    (f.input.encode ++ f.output.encode)))

/-! ## Widths -/

/-- At most 255 further hops, and none of them cut. -/
def SwapRoute.Fits : SwapRoute → Prop
  | evm _ path => hopCount path < 256 ^ 1 ∧
      path.length = SHARED_POOL_ID_SIZE + hopCount path * SHARED_PATH_ELEMENT_SIZE
  | jupiter _ => True

structure SwapFields.Fits (s : SwapFields) : Prop where
  deadline : s.deadline < 256 ^ 4
  limitAmount : s.limitAmount < 256 ^ 16
  route : s.route.Fits

def AcquireFields.Fits : AcquireFields → Prop
  | preapproved => True
  | permit value deadline _ => value < 256 ^ 32 ∧ deadline < 256 ^ 32
  | permit2Transfer amount nonce sigDeadline _ =>
    amount < 256 ^ 32 ∧ nonce < 256 ^ 32 ∧ sigDeadline < 256 ^ 32
  | permit2Permit amount expiration nonce sigDeadline _ =>
    amount < 256 ^ 20 ∧ expiration < 256 ^ 6 ∧ nonce < 256 ^ 6 ∧ sigDeadline < 256 ^ 32

def RedeemParamFields.Fits : RedeemParamFields → Prop
  | direct => True
  | payload bytes => bytes.length < 256 ^ 2
  | relay gasDropoff maxRelayerFee => gasDropoff < 256 ^ 4 ∧ maxRelayerFee < 256 ^ 6

def InputFields.Fits : InputFields → Prop
  | usdc amount acquire => amount < 256 ^ 16 ∧ acquire.Fits
  | gas swap => swap.Fits
  | other _ _ amount acquire swap => amount < 256 ^ 16 ∧ acquire.Fits ∧ swap.Fits

def OutputFields.Fits : OutputFields → Prop
  | usdc => True
  | gas swap => swap.Fits
  | other _ swap => swap.Fits

structure InitiateFields.Fits (f : InitiateFields) : Prop where
  fastTransfer : ∀ maxFee deadline, f.fastTransfer = some (maxFee, deadline) →
    maxFee < 256 ^ 6 ∧ deadline < 256 ^ 4
  redeem : f.redeem.Fits
  input : f.input.Fits
  output : f.output.Fits

/-- An output token that `checkAddr` lets through. -/
def OutputFields.ValidOn (targetChain : ℕ) : OutputFields → Prop
  | other token _ => checkAddr targetChain token = .ok ()
  | _ => True

/-! ## Reading -/

/-- The type as the skipping walk reports it. -/
def SwapRoute.swapType : SwapRoute → ℕ
  | evm swapType _ => swapType.toUint8
  | jupiter _ => SWAP_TYPE_JUPITERV6

def SwapRoute.swapCount : SwapRoute → ℕ
  | evm _ path => hopCount path + 1
  | jupiter _ => 1

/-- A swap on the way from one token to another as the EVM parser reports it. To that parser, Jupiter
is an invalid swap. -/
def SwapFields.evmSwapParams (s : SwapFields) (inputToken outputToken : Address) : EvmSwapParams :=
  match s.route with
  | .evm swapType path =>
    ⟨s.deadline, s.limitAmount, swapType.toUint8, inputToken.toList ++ path ++ outputToken.toList⟩
  | .jupiter _ => ⟨s.deadline, s.limitAmount, SWAP_TYPE_INVALID, []⟩

section Readers

variable (params : Bytes)

/-- What the two walks find in the swap section between two offsets. -/
structure SwapReads (offset : ℕ) (s : SwapFields) (o : ℕ) : Prop where
  skipped : parseSwapTypeAndCountAndSkipParams params offset =
    .ok (s.route.swapType, s.route.swapCount, o)
  read : ∀ inputToken outputToken,
    (parseEvmSwapParams inputToken outputToken params offset).1 = s.evmSwapParams inputToken outputToken
  ends : ∀ swapType path, s.route = .evm swapType path → ∀ inputToken outputToken,
    (parseEvmSwapParams inputToken outputToken params offset).2 = o
  withDex : ∀ dex, s.route = .jupiter dex →
    asBoolUnchecked params (offset + 21) = .ok (dex.isSome, offset + 22)
  dex : ∀ address, s.route = .jupiter (some address) →
    asBytes32Unchecked params (offset + 22) = (address, o)

/-- The permit data as `_acquireInputTokens` reads it; the signature is `r`, `s` and `v`. -/
def AcquireDataReads (offset : ℕ) (o : ℕ) : AcquireFields → Prop
  | .preapproved => o = offset
  | .permit value deadline signature =>
    parsePermit params offset = (⟨value, deadline, sliceFixed 32 signature.toList 0,
      sliceFixed 32 signature.toList 32, readBE 1 signature.toList 64⟩, o)
  | .permit2Transfer amount nonce sigDeadline signature =>
    parsePermit2Transfer params offset = (⟨amount, nonce, sigDeadline, signature.toList⟩, o)
  | .permit2Permit amount expiration nonce sigDeadline signature =>
    parsePermit2Permit params offset =
      (⟨amount, expiration, nonce, sigDeadline, signature.toList⟩, o)

structure AcquireReads (offset : ℕ) (a : AcquireFields) (o : ℕ) : Prop where
  mode : parseAcquireMode params offset = .ok (a.mode, offset + 1)
  data : AcquireDataReads params (offset + 1) o a

def FastTransferReads (b : FastTransferMOS) : Option (ℕ × ℕ) → Prop
  | none => b.mode = .disabled ∧ b.size = 0
  | some (maxFee, deadline) => b.mode = .enabled ∧
      asUint48Unchecked params b.offset = (maxFee, b.offset + 6) ∧
      asUint32Unchecked params (b.offset + 6) = (deadline, b.offset + b.size)

def RedeemReads (b : RedeemMOS) : RedeemParamFields → Prop
  | .direct => b.mode = .direct ∧ b.size = 0
  | .payload bytes => b.mode = .payload ∧
      asUint16Unchecked params b.offset = (bytes.length, b.offset + 2) ∧
      sliceUnchecked params (b.offset + 2) bytes.length = (bytes, b.offset + b.size)
  | .relay gasDropoff maxRelayerFee => b.mode = .relay ∧
      parseRelayParams params b.offset = (gasDropoff, maxRelayerFee, b.offset + b.size)

def InputReads (b : IoTokenMOS) : InputFields → Prop
  | .usdc amount acquire => b.mode = .usdc ∧
      asUint128Unchecked params b.offset = (amount, b.offset + 16) ∧
      AcquireReads params (b.offset + 16) acquire (b.offset + b.size)
  | .gas swap => b.mode = .gas ∧ SwapReads params b.offset swap (b.offset + b.size)
  | .other approveCheck token amount acquire swap => b.mode = .other ∧
      asBoolUnchecked params b.offset = .ok (approveCheck, b.offset + 1) ∧
      parseIERC20 params (b.offset + 1) = (token, b.offset + 21) ∧
      asUint128Unchecked params (b.offset + 21) = (amount, b.offset + 37) ∧
      ∃ o, AcquireReads params (b.offset + 37) acquire o ∧
        SwapReads params o swap (b.offset + b.size)

def OutputReads (b : IoTokenMOS) : OutputFields → Prop
  | .usdc => b.mode = .usdc ∧ b.size = 0
  | .gas swap => b.mode = .gas ∧ SwapReads params b.offset swap (b.offset + b.size)
  | .other token swap => b.mode = .other ∧
      asBytes32Unchecked params b.offset = (token, b.offset + 32) ∧
      SwapReads params (b.offset + 32) swap (b.offset + b.size)

/-- The fields that `initiate` finds in the blocks of a string. -/
structure Reads (mos : ModesOffsetsSizes) (f : InitiateFields) : Prop where
  fastTransfer : FastTransferReads params mos.fastTransfer f.fastTransfer
  redeem : RedeemReads params mos.redeem f.redeem
  isExactIn : mos.isExactIn = f.isExactIn
  input : InputReads params mos.input f.input
  output : OutputReads params mos.output f.output

end Readers

/-- The string is accepted, and what is read of it are the fields. -/
def Understood (targetChain : ℕ) (params : Bytes) (f : InitiateFields) : Prop :=
  ∃ mos, parseParamBaseStructure targetChain params = .ok mos ∧ Reads params mos f

/-! ## Sections that fit are read back -/

section Sections

variable {params : Bytes} {offset : ℕ}

theorem EvmSwapType.isEvm (t : EvmSwapType) : IsEvmSwapType t.toUint8 := by
  cases t
  · exact .inl rfl
  · exact .inr rfl

theorem EvmSwapType.toUint8_lt (t : EvmSwapType) : t.toUint8 < 256 ^ 1 := by
  cases t <;> decide

theorem AcquireMode.toUint8_lt (m : AcquireMode) : m.toUint8 < 256 ^ 1 := by
  cases m <;> decide

/-- First pool and hops are the path. -/
theorem pool_append_hops {path : Bytes} (h : SHARED_POOL_ID_SIZE ≤ path.length) :
    (sliceFixed 3 path 0).toList ++ path.drop SHARED_POOL_ID_SIZE = path :=
  slice_append_drop ((Nat.zero_add _).symm ▸ h)

/-- **A swap section is read back**, whichever way the swap takes. -/
theorem SwapFields.reads {s : SwapFields} (h : Holds params offset s.encode) (hfits : s.Fits) :
    SwapReads params offset s (offset + s.encode.length) := by
  obtain ⟨hdeadline, hlimit, hroute⟩ := hfits
  obtain ⟨deadline, limitAmount, route⟩ := s
  cases route with
  | evm swapType path =>
    obtain ⟨hcount, hlength⟩ := hroute
    have hhops : (path.drop SHARED_POOL_ID_SIZE).length = hopCount path * SHARED_PATH_ELEMENT_SIZE := by
      rw [List.length_drop]
      omega
    have hpath : (sliceFixed 3 path 0).toList ++ path.drop SHARED_POOL_ID_SIZE = path :=
      pool_append_hops (by omega)
    have hread := parseEvmSwapParams_holds h hdeadline hlimit swapType.toUint8_lt hcount
      swapType.isEvm hhops
    obtain ⟨-, -, htype⟩ := encodeSwapHead_holds h.left hdeadline hlimit swapType.toUint8_lt
    have hcountAt : pathLengthAt params offset = hopCount path :=
      ((h.rest length_encodeSwapHead).rest (List.Vector.toList_length _)).left.readBE hcount
    refine ⟨?_, fun inputToken outputToken => ?_, fun _ _ _ inputToken outputToken => ?_, ?_, ?_⟩
    · rw [parseSwapTypeAndCount_of_evm (htype ▸ swapType.isEvm), htype, hcountAt]
      simp only [SwapRoute.swapType, SwapRoute.swapCount, SwapFields.encode, length_encodeEvmSwap,
        hhops, Nat.add_assoc]
    · rw [hread]
      rw [List.append_assoc inputToken.toList, hpath]
      rfl
    · rw [hread]
      rfl
    · rintro dex ⟨⟩
    · rintro address ⟨⟩
  | jupiter dex =>
    have hhead := encodeSwapHead_holds h.left hdeadline hlimit (by decide)
    have hread := parseEvmSwapParams_holds_of_not_evm h.left hdeadline hlimit (by decide) (by decide)
    have hdex : Holds params (offset + 21) (writeOption List.Vector.toList dex) :=
      h.rest length_encodeSwapHead
    have hflag : readBE 1 params (offset + 21) = dex.isSome.toNat := by
      cases dex with
      | none => exact hdex.readBE (by decide)
      | some address => exact hdex.left.readBE (by decide)
    have hend : (SwapFields.encode ⟨deadline, limitAmount, .jupiter dex⟩).length =
        jupiterSize dex.isSome := by
      cases dex <;> simp [SwapFields.encode, writeOption, jupiterSize, UNIVERSAL_ADDRESS_SIZE]
    refine ⟨?_, fun inputToken outputToken => ?_, ?_, ?_, ?_⟩
    · rw [hend]
      exact (parseSwapTypeAndCount_of_jupiter hhead.2.2).2 ⟨dex.isSome, hflag, rfl⟩
    · rw [hread]
      rfl
    · rintro swapType path ⟨⟩
    · rintro _ ⟨⟩
      exact asBoolUnchecked_ok.2 ⟨hflag, rfl⟩
    · rintro address ⟨⟩
      rw [hend]
      exact Prod.ext (hdex.rest (length_toBE 1 1)).sliceFixed rfl

theorem parseAcquireMode_holds {m : AcquireMode} (h : Holds params offset (toBE 1 m.toUint8)) :
    parseAcquireMode params offset = .ok (m, offset + 1) := by
  have hmode : readBE 1 params offset = m.toUint8 := h.readBE m.toUint8_lt
  simp only [parseAcquireMode, asUint8Unchecked, asUint, hmode]
  cases m <;> rfl

theorem AcquireFields.data_reads {a : AcquireFields} (h : Holds params offset a.data)
    (hfits : a.Fits) : AcquireDataReads params offset (offset + a.data.length) a := by
  cases a with
  | preapproved => rfl
  | permit value deadline signature =>
    have hdeadline := h.rest (length_toBE 32 value)
    have hsignature := hdeadline.rest (length_toBE 32 deadline)
    have hslice : ∀ k n, k + n ≤ 65 →
        slice params (offset + 32 + 32 + k) n = slice signature.toList k n :=
      fun k n hle => hsignature.slice_inner (by rwa [signature.toList_length])
    have hr : sliceFixed 32 params (offset + 32 + 32) = sliceFixed 32 signature.toList 0 :=
      Subtype.ext (hslice 0 32 (by decide))
    have hs : sliceFixed 32 params (offset + 32 + 32 + 32) = sliceFixed 32 signature.toList 32 :=
      Subtype.ext (hslice 32 32 (by decide))
    have hv : readBE 1 params (offset + 32 + 32 + 32 + 32) = readBE 1 signature.toList 64 :=
      congrArg ofBE (hslice 64 1 (by decide))
    unfold AcquireDataReads parsePermit asUint256Unchecked asBytes32Unchecked asUint8Unchecked
    simp only [asUint, h.left.readBE hfits.1, hdeadline.left.readBE hfits.2, hr, hs, hv]
    simp [AcquireFields.data]
  | permit2Transfer amount nonce sigDeadline signature =>
    obtain ⟨hamount, hnonce, hdeadline⟩ := hfits
    have h₁ := h.rest (length_toBE 32 amount)
    have h₂ := h₁.rest (length_toBE 32 nonce)
    have h₃ := h₂.rest (length_toBE 32 sigDeadline)
    have hslice := h₃.slice
    rw [signature.toList_length] at hslice
    unfold AcquireDataReads parsePermit2Transfer asUint256Unchecked sliceUnchecked SIGNATURE_SIZE
    simp only [asUint_holds h.left hamount, asUint_holds h₁.left hnonce, asUint_holds h₂.left hdeadline,
      hslice]
    simp [AcquireFields.data]
  | permit2Permit amount expiration nonce sigDeadline signature =>
    obtain ⟨hamount, hexpiration, hnonce, hdeadline⟩ := hfits
    have h₁ := h.rest (length_toBE 20 amount)
    have h₂ := h₁.rest (length_toBE 6 expiration)
    have h₃ := h₂.rest (length_toBE 6 nonce)
    have h₄ := h₃.rest (length_toBE 32 sigDeadline)
    have hslice := h₄.slice
    rw [signature.toList_length] at hslice
    unfold AcquireDataReads parsePermit2Permit asUint256Unchecked asUint160Unchecked asUint48Unchecked
      sliceUnchecked SIGNATURE_SIZE
    simp only [asUint_holds h.left hamount, asUint_holds h₁.left hexpiration,
      asUint_holds h₂.left hnonce, asUint_holds h₃.left hdeadline, hslice]
    simp [AcquireFields.data]

/-- **An acquire section is read back.** -/
theorem AcquireFields.reads {a : AcquireFields} (h : Holds params offset a.encode) (hfits : a.Fits) :
    AcquireReads params offset a (offset + a.encode.length) := by
  refine ⟨parseAcquireMode_holds h.left, ?_⟩
  have hdata := AcquireFields.data_reads (h.rest (length_toBE 1 _)) hfits
  rwa [Nat.add_assoc, ← length_toBE 1 a.mode.toUint8, ← List.length_append] at hdata

/-- What is read of an acquire section is as long as its mode says. -/
theorem AcquireReads.skip {a : AcquireFields} {o : ℕ} (h : AcquireReads params offset a o) :
    skipAcquire params offset = .ok o ∧ o = offset + a.encode.length := by
  obtain ⟨hmode, hdata⟩ := h
  have hsize : o = offset + 1 + acquireModeSize a.mode := by
    cases a with
    | preapproved => exact hdata
    | permit =>
      have := parsePermit_offset params (offset + 1)
      rwa [show parsePermit params (offset + 1) = _ from hdata] at this
    | permit2Transfer =>
      have := parsePermit2Transfer_offset params (offset + 1)
      rwa [show parsePermit2Transfer params (offset + 1) = _ from hdata] at this
    | permit2Permit =>
      have := parsePermit2Permit_offset params (offset + 1)
      rwa [show parsePermit2Permit params (offset + 1) = _ from hdata] at this
  have hlength : a.encode.length = 1 + acquireModeSize a.mode := by
    rw [acquireModeSize_eq]
    cases a <;>
      simp [AcquireFields.encode, AcquireFields.data, AcquireFields.mode, PERMIT_SIZE,
        PERMIT2_TRANSFER_SIZE, PERMIT2_PERMIT_SIZE, PERMIT_VALUE_SIZE, PERMIT_DEADLINE_SIZE,
        PERMIT2_TRANSFER_AMOUNT_SIZE, PERMIT2_TRANSFER_NONCE_SIZE, PERMIT2_TRANSFER_SIG_DEADLINE_SIZE,
        PERMIT2_PERMIT_AMOUNT_SIZE, PERMIT2_PERMIT_EXPIRATION_SIZE, PERMIT2_PERMIT_NONCE_SIZE,
        PERMIT2_PERMIT_SIG_DEADLINE_SIZE, SIGNATURE_SIZE]
  refine ⟨?_, by omega⟩
  rw [skipAcquire, hmode, hsize]
  rfl

theorem swapTypeAt_of_skip {swapType swapCount o : ℕ} (hvalid : swapType ≠ SWAP_TYPE_INVALID)
    (h : parseSwapTypeAndCountAndSkipParams params offset = .ok (swapType, swapCount, o)) :
    swapTypeAt params offset = swapType := by
  rcases skipSwap_cases h with ⟨htype, -, -⟩ | ⟨hinvalid, -, -⟩
  · exact htype.symm
  · exact absurd hinvalid hvalid

/-- What is read of a swap section is as long as its encoding. -/
theorem SwapReads.length {s : SwapFields} {o : ℕ} (h : SwapReads params offset s o)
    (hfits : s.Fits) : o = offset + s.encode.length := by
  have hroute := hfits.route
  obtain ⟨deadline, limitAmount, route⟩ := s
  have hskip := h.skipped
  cases route with
  | evm swapType path =>
    have hlength : (path.drop SHARED_POOL_ID_SIZE).length = hopCount path * SHARED_PATH_ELEMENT_SIZE := by
      have := hroute.2
      rw [List.length_drop]
      omega
    have htype : swapTypeAt params offset = swapType.toUint8 :=
      swapTypeAt_of_skip (by cases swapType <;> decide) hskip
    rw [parseSwapTypeAndCount_of_evm (htype ▸ swapType.isEvm)] at hskip
    simp only [SwapRoute.swapCount, Except.ok.injEq, Prod.mk.injEq] at hskip
    obtain ⟨-, hcount, rfl⟩ := hskip
    rw [SwapFields.encode, length_encodeEvmSwap, hlength, Nat.succ.inj hcount, Nat.add_assoc]
  | jupiter dex =>
    have htype : swapTypeAt params offset = SWAP_TYPE_JUPITERV6 :=
      swapTypeAt_of_skip (by decide) hskip
    obtain ⟨withDex, hflag, hend⟩ := (parseSwapTypeAndCount_of_jupiter htype).1 hskip
    have hbool := (h.withDex dex rfl).symm.trans (asBoolUnchecked_ok.2 ⟨hflag, rfl⟩)
    obtain rfl : dex.isSome = withDex := congrArg Prod.fst (Except.ok.inj hbool)
    have ho : o = offset + jupiterSize dex.isSome := congrArg (fun r => r.2.2) hend
    rw [ho]
    cases dex <;> simp [SwapFields.encode, writeOption, jupiterSize, UNIVERSAL_ADDRESS_SIZE]

end Sections

/-! ## Blocks that fit are read back -/

section Blocks

variable {params : Bytes} {offset : ℕ}

theorem fastTransfer_reads {f : Option (ℕ × ℕ)} (h : Holds params offset (encodeFastTransfer f))
    (hfits : ∀ maxFee deadline, f = some (maxFee, deadline) → maxFee < 256 ^ 6 ∧ deadline < 256 ^ 4) :
    ∃ b, parseFastTransferBlock params offset = .ok (b, offset + (encodeFastTransfer f).length) ∧
      FastTransferReads params b f := by
  cases f with
  | none =>
    have hmode : readBE 1 params offset = 0 := h.readBE (by decide)
    refine ⟨⟨.disabled, offset + 1, 0⟩, ?_, rfl, rfl⟩
    simp [parseFastTransferBlock, parseFastTransferMode, asUint8Unchecked, asUint, hmode,
      FastTransferMode.ofUint8, encodeFastTransfer]
  | some r =>
    obtain ⟨maxFee, deadline⟩ := r
    have hmode : readBE 1 params offset = 1 := h.left.readBE (by decide)
    have hbody := h.rest (length_toBE 1 1)
    obtain ⟨hfee, hdeadline⟩ := hfits _ _ rfl
    refine ⟨⟨.enabled, offset + 1, 10⟩, ?_, rfl, asUint_holds hbody.left hfee,
      asUint_holds (hbody.rest (length_toBE 6 maxFee)) hdeadline⟩
    simp [parseFastTransferBlock, parseFastTransferMode, asUint8Unchecked, asUint, hmode,
      FastTransferMode.ofUint8, encodeFastTransfer, FAST_TRANSFER_PARAM_SIZE,
      FAST_TRANSFER_MAX_FEE_SIZE, FAST_TRANSFER_DEADLINE_SIZE]

theorem redeem_reads {r : RedeemParamFields} (h : Holds params offset r.encode) (hfits : r.Fits) :
    ∃ b, parseRedeemBlock params offset = .ok (b, offset + r.encode.length) ∧
      RedeemReads params b r := by
  cases r with
  | direct =>
    refine ⟨⟨.direct, offset + 1, 0⟩, ?_, rfl, rfl⟩
    rw [parseRedeemBlock, parseRedeemMode_holds h]
    simp [RedeemParamFields.encode]
  | payload bytes =>
    have hlength := h.rest (length_toBE 1 _)
    have hbytes := hlength.rest (length_toBE 2 bytes.length)
    have hread : asUint16Unchecked params (offset + 1) = (bytes.length, offset + 1 + 2) :=
      asUint_holds hlength.left hfits
    refine ⟨⟨.payload, offset + 1, 2 + bytes.length⟩, ?_, rfl, hread, ?_⟩
    · have hsize : offset + (1 + (2 + bytes.length)) - (offset + 1) = 2 + bytes.length := by omega
      rw [parseRedeemBlock, parseRedeemMode_holds h.left]
      simp only [except_ok_bind, hread, hsize, RedeemParamFields.encode, List.length_append,
        length_toBE, Nat.add_assoc]
      rfl
    · rw [sliceUnchecked, hbytes.slice, Nat.add_assoc]
  | relay gasDropoff maxRelayerFee =>
    have hbody := h.rest (length_toBE 1 _)
    refine ⟨⟨.relay, offset + 1, RELAY_PARAM_SIZE⟩, ?_, rfl, ?_⟩
    · rw [parseRedeemBlock, parseRedeemMode_holds h.left]
      simp [RedeemParamFields.encode, RELAY_PARAM_SIZE, RELAY_GAS_DROPOFF_SIZE,
        RELAY_MAX_RELAYER_FEE_SIZE]
    · rw [parseRelayParams_eq, hbody.left.readBE hfits.1,
        (hbody.rest (length_toBE 4 gasDropoff)).readBE hfits.2]

theorem InputFields.reads {i : InputFields} (h : Holds params offset i.encode) (hfits : i.Fits) :
    ∃ b, parseIoToken params offset = .ok (b.mode, b.offset) ∧
      b.offset + b.size = offset + i.encode.length ∧ InputReads params b i := by
  cases i with
  | usdc amount acquire =>
    have hbody := h.rest (length_toBE 1 _)
    have hacquire := hbody.rest (length_toBE 16 amount)
    refine ⟨⟨.usdc, offset + 1, 16 + acquire.encode.length⟩, parseIoToken_holds h.left, ?_, rfl,
      asUint_holds hbody.left hfits.1, ?_⟩
    · simp [InputFields.encode, Nat.add_assoc]
    · have := AcquireFields.reads hacquire hfits.2
      rwa [Nat.add_assoc (offset + 1)] at this
  | gas swap =>
    have hbody := h.rest (length_toBE 1 _)
    refine ⟨⟨.gas, offset + 1, swap.encode.length⟩, parseIoToken_holds h.left, ?_, rfl,
      SwapFields.reads hbody hfits⟩
    simp [InputFields.encode, Nat.add_assoc]
  | other approveCheck token amount acquire swap =>
    obtain ⟨hamount, hacquire, hswap⟩ := hfits
    have h₁ := h.rest (length_toBE 1 _)
    have h₂ := h₁.rest (length_toBE 1 _)
    have h₃ := h₂.rest token.toList_length
    have h₄ := h₃.rest (length_toBE 16 amount)
    have h₅ := h₄.right
    refine ⟨⟨.other, offset + 1, 37 + (acquire.encode.length + swap.encode.length)⟩,
      parseIoToken_holds h.left, ?_, rfl, asBoolUnchecked_holds h₁.left, parseIERC20_holds h₂.left,
      asUint_holds h₃.left hamount, _, AcquireFields.reads h₄.left hacquire, ?_⟩
    · simp only [InputFields.encode, List.length_append, length_toBE, token.toList_length]
      omega
    · have hend : offset + 1 + 1 + 20 + 16 + acquire.encode.length + swap.encode.length =
          offset + 1 + (37 + (acquire.encode.length + swap.encode.length)) := by omega
      exact hend ▸ SwapFields.reads h₅ hswap

/-- The walk over an input block stops where its readers do. -/
theorem InputReads.skip {b : IoTokenMOS} {i : InputFields} (h : InputReads params b i) :
    skipInput b.mode params b.offset = .ok (b.offset + b.size) := by
  cases i with
  | usdc amount acquire =>
    obtain ⟨hmode, -, hacquire⟩ := h
    rw [hmode]
    exact hacquire.skip.1
  | gas swap =>
    obtain ⟨hmode, hswap⟩ := h
    rw [hmode]
    exact except_bind_ok.2 ⟨_, hswap.skipped, rfl⟩
  | other approveCheck token amount acquire swap =>
    obtain ⟨hmode, -, -, -, o, hacquire, hswap⟩ := h
    rw [hmode]
    exact except_bind_ok.2 ⟨o, hacquire.skip.1, except_bind_ok.2 ⟨_, hswap.skipped, rfl⟩⟩

theorem input_reads {isExactIn : Bool} {i : InputFields}
    (h : Holds params offset (toBE 1 isExactIn.toNat ++ i.encode)) (hfits : i.Fits) :
    ∃ b, parseInputBlock params offset = .ok (isExactIn, b, offset + 1 + i.encode.length) ∧
      InputReads params b i := by
  obtain ⟨b, hmode, hend, hreads⟩ := InputFields.reads (h.rest (length_toBE 1 _)) hfits
  refine ⟨b, except_bind_ok.2 ⟨_, asBoolUnchecked_holds h.left, except_bind_ok.2 ⟨_, hmode,
    except_bind_ok.2 ⟨_, hreads.skip, ?_⟩⟩⟩, hreads⟩
  rw [Nat.add_sub_cancel_left, hend]
  rfl

theorem output_reads {targetChain : ℕ} {out : OutputFields} (h : Holds params offset out.encode)
    (hfits : out.Fits) (hvalid : out.ValidOn targetChain) :
    ∃ b, parseOutputBlock targetChain params offset = .ok (b, offset + out.encode.length) ∧
      OutputReads params b out := by
  cases out with
  | usdc =>
    refine ⟨⟨.usdc, offset + 1, 0⟩, except_bind_ok.2 ⟨_, parseIoToken_holds h,
      except_bind_ok.2 ⟨_, rfl, ?_⟩⟩, rfl, rfl⟩
    rw [Nat.sub_self]
    rfl
  | gas swap =>
    have hswap := SwapFields.reads (h.rest (length_toBE 1 _)) hfits
    refine ⟨⟨.gas, offset + 1, swap.encode.length⟩, except_bind_ok.2 ⟨_, parseIoToken_holds h.left,
      except_bind_ok.2 ⟨_, except_bind_ok.2 ⟨_, hswap.skipped, rfl⟩, ?_⟩⟩, rfl, hswap⟩
    rw [Nat.add_sub_cancel_left, OutputFields.encode, List.length_append, length_toBE, Nat.add_assoc]
    rfl
  | other token swap =>
    have hbody := h.rest (length_toBE 1 _)
    have hswap := SwapFields.reads (hbody.rest token.toList_length) hfits
    have htoken : asBytes32Unchecked params (offset + 1) = (token, offset + 1 + 32) := by
      rw [asBytes32Unchecked, hbody.left.sliceFixed]
    refine ⟨⟨.other, offset + 1, 32 + swap.encode.length⟩, except_bind_ok.2 ⟨_,
      parseIoToken_holds h.left, except_bind_ok.2 ⟨offset + 1 + 32 + swap.encode.length, ?_, ?_⟩⟩, rfl,
      htoken, ?_⟩
    · simp only [skipOutput, htoken]
      exact except_bind_ok.2 ⟨_, hvalid, except_bind_ok.2 ⟨_, hswap.skipped, rfl⟩⟩
    · have hsize : offset + (1 + (32 + swap.encode.length)) - (offset + 1) =
          32 + swap.encode.length := by omega
      simp only [hsize, OutputFields.encode, List.length_append, length_toBE, token.toList_length,
        Nat.add_assoc]
      rfl
    · rwa [Nat.add_assoc (offset + 1)] at hswap

/-! What is read of a block is as long as its encoding, mode byte included. -/

theorem FastTransferReads.size {b : FastTransferMOS} {f : Option (ℕ × ℕ)}
    (h : FastTransferReads params b f) : 1 + b.size = (encodeFastTransfer f).length := by
  cases f with
  | none =>
    obtain ⟨-, hsize⟩ := h
    simp [encodeFastTransfer, hsize]
  | some r =>
    obtain ⟨-, -, hdeadline⟩ := h
    have hend : b.offset + 6 + 4 = b.offset + b.size := congrArg Prod.snd hdeadline
    simp only [encodeFastTransfer, List.length_append, length_toBE]
    omega

theorem RedeemReads.size {b : RedeemMOS} {r : RedeemParamFields} (h : RedeemReads params b r) :
    1 + b.size = r.encode.length := by
  cases r with
  | direct =>
    obtain ⟨-, hsize⟩ := h
    simp [RedeemParamFields.encode, hsize]
  | payload bytes =>
    obtain ⟨-, -, hbytes⟩ := h
    have hend : b.offset + 2 + bytes.length = b.offset + b.size := congrArg Prod.snd hbytes
    simp only [RedeemParamFields.encode, List.length_append, length_toBE]
    omega
  | relay gasDropoff maxRelayerFee =>
    obtain ⟨-, hrelay⟩ := h
    have hend : b.offset + RELAY_PARAM_SIZE = b.offset + b.size := congrArg (fun r => r.2.2) hrelay
    simp only [RedeemParamFields.encode, List.length_append, length_toBE]
    have hsize : RELAY_PARAM_SIZE = 10 := rfl
    omega

theorem InputReads.size {b : IoTokenMOS} {i : InputFields} (h : InputReads params b i)
    (hfits : i.Fits) : 1 + b.size = i.encode.length := by
  cases i with
  | usdc amount acquire =>
    obtain ⟨-, -, hacquire⟩ := h
    have hend := hacquire.skip.2
    simp only [InputFields.encode, List.length_append, length_toBE]
    omega
  | gas swap =>
    obtain ⟨-, hswap⟩ := h
    have hend := hswap.length hfits
    simp only [InputFields.encode, List.length_append, length_toBE]
    omega
  | other approveCheck token amount acquire swap =>
    obtain ⟨-, -, -, -, o, hacquire, hswap⟩ := h
    have hmid := hacquire.skip.2
    have hend := hswap.length hfits.2.2
    simp only [InputFields.encode, List.length_append, length_toBE, token.toList_length]
    omega

theorem OutputReads.size {b : IoTokenMOS} {out : OutputFields} (h : OutputReads params b out)
    (hfits : out.Fits) : 1 + b.size = out.encode.length := by
  cases out with
  | usdc =>
    obtain ⟨-, hsize⟩ := h
    simp [OutputFields.encode, hsize]
  | gas swap =>
    obtain ⟨-, hswap⟩ := h
    have hend := hswap.length hfits
    simp only [OutputFields.encode, List.length_append, length_toBE]
    omega
  | other token swap =>
    obtain ⟨-, -, hswap⟩ := h
    have hend := hswap.length hfits
    simp only [OutputFields.encode, List.length_append, length_toBE, token.toList_length]
    omega

end Blocks

/-! ## Whole strings -/

section Understood

variable {targetChain : ℕ} {params : Bytes} {f : InitiateFields}

/-- **Fields that fit are understood**, on a chain that the output token is an address of. -/
theorem understood_encode (hfits : f.Fits) (hvalid : f.output.ValidOn targetChain) :
    Understood targetChain f.encode f := by
  have h := holds_self f.encode
  obtain ⟨fast, hfast, hfastReads⟩ := fastTransfer_reads h.left hfits.fastTransfer
  obtain ⟨redeem, hredeem, hredeemReads⟩ := redeem_reads h.right.left hfits.redeem
  have htail := h.right.right
  have hin := htail
  rw [← List.append_assoc] at hin
  obtain ⟨input, hinput, hinputReads⟩ := input_reads hin.left hfits.input
  have hout := (htail.rest (length_toBE 1 _)).right
  obtain ⟨output, houtput, houtputReads⟩ := output_reads hout hfits.output hvalid
  refine ⟨⟨fast, redeem, f.isExactIn, input, output⟩, ?_, hfastReads, hredeemReads, rfl,
    hinputReads, houtputReads⟩
  refine except_bind_ok.2 ⟨_, hfast, except_bind_ok.2 ⟨_, hredeem, except_bind_ok.2 ⟨_, hinput,
    except_bind_ok.2 ⟨_, houtput, except_bind_ok.2 ⟨(), ensure_pos ?_, rfl⟩⟩⟩⟩⟩
  simp only [InitiateFields.encode, List.length_append, length_toBE]
  omega

/-- The payload of what is understood fits. -/
theorem Understood.payload_length (h : Understood targetChain params f) {bytes : Bytes}
    (hredeem : f.redeem = .payload bytes) : bytes.length < 256 ^ 2 := by
  obtain ⟨mos, -, hreads⟩ := h
  have hread := hreads.redeem
  rw [hredeem] at hread
  obtain ⟨-, hlength, -⟩ := hread
  have hlt := asUint_lt 2 params mos.redeem.offset
  rwa [show asUint 2 params mos.redeem.offset = _ from hlength] at hlt

/-- The output token of what is understood was accepted. -/
theorem Understood.valid (h : Understood targetChain params f) : f.output.ValidOn targetChain := by
  obtain ⟨mos, hparse, hreads⟩ := h
  obtain ⟨_, _, _, -, -, -, hout⟩ := parseParamBaseStructure_ok hparse
  obtain ⟨-, -, hskip, -⟩ := parseOutputBlock_ok hout
  have hread := hreads.output
  cases hf : f.output with
  | usdc => trivial
  | gas => trivial
  | other token swap =>
    rw [hf] at hread
    obtain ⟨hmode, htoken, -⟩ := hread
    rw [hmode] at hskip
    simp only [skipOutput, htoken] at hskip
    obtain ⟨_, hcheck, -⟩ := except_bind_ok.1 hskip
    exact hcheck

/-- **What is understood as fields that fit is as long as their encoding.** -/
theorem Understood.length (h : Understood targetChain params f) (hfits : f.Fits) :
    params.length = f.encode.length := by
  obtain ⟨mos, hparse, hreads⟩ := h
  have htiled := parseParamBaseStructure_tiled hparse
  have hfast := hreads.fastTransfer.size
  have hredeem := hreads.redeem.size
  have hinput := hreads.input.size hfits.input
  have houtput := hreads.output.size hfits.output
  have hfastOffset := htiled.fast
  have hredeemOffset := htiled.redeem
  have hinputOffset := htiled.input
  have houtputOffset := htiled.output
  have hend := htiled.ending
  simp only [InitiateFields.encode, List.length_append, length_toBE, MODE_SIZE, BOOL_SIZE] at *
  omega

end Understood

end SwapLayer.Evm
