import SwapLayer.Lib.Bytes
import SwapLayer.Lib.Program

/-!
# Parameter bytes of the EVM contracts

Model of `evm/src/assets/Params.sol`: the constants of the wire format, its enumerations and
the parse functions that `initiate` and `redeem` share.

* A `bytes memory` value is a `List UInt8`; `address` and `bytes32` are byte strings of their
  size. A parsed unsigned integer is a `ℕ` below its width (`asUint_lt`).
* The `BytesParsing` reads of the wormhole SDK (outside the tree) are the big-endian reads the
  contract relies on: `as…Unchecked(bytes, offset)` returns the value and the offset behind it,
  `asBoolUnchecked` accepts the bytes 0 and 1 only, and `checkLength` reverts unless everything
  was consumed. A position past the end reads as zero; where the memory behind a string matters,
  it is appended to what the reads see (`parseEvmSwapParamsIn`).
* A conversion `IoToken(val)` of a number outside the enumeration is Solidity's panic `0x21`.
* Offsets are natural numbers: they are sums of a few constants and 16-bit lengths added to the
  length of a calldata string, far below `2^256`, so `unchecked` does not matter to them.

Results: what each parse function computes, one lemma for each case of the swap type
(`parseEvmSwapParams_of_…`, `parseSwapTypeAndCount_of_…`). On the EVM swap types the reading
parser and the skipping one stop at the same offset. `encodeEvmSwap` is the layout of an EVM swap
section; wherever it stands, it is read back (`parseEvmSwapParams_holds`).
-/

namespace SwapLayer.Evm

open ByteString Program

/-- `bytes`. -/
abbrev Bytes := List UInt8

/-- `address`. -/
abbrev Address := Fixed 20

/-- `bytes32`. -/
abbrev Bytes32 := Fixed 32

/-- `address(0)`. -/
def zeroAddress : Address := ⟨List.replicate 20 0, by simp⟩

/-- `bytes32(0)`. -/
def zeroBytes32 : Bytes32 := ⟨List.replicate 32 0, by simp⟩

/-! ## Constants -/

def SOLANA_CHAIN_ID : ℕ := 1

def MODE_SIZE : ℕ := 1
def BOOL_SIZE : ℕ := 1
def ADDRESS_SIZE : ℕ := 20
def UNIVERSAL_ADDRESS_SIZE : ℕ := 32
def SWAP_PARAM_DEADLINE_SIZE : ℕ := 4
def SWAP_PARAM_AMOUNT_SIZE : ℕ := 16
def SHARED_POOL_ID_SIZE : ℕ := 3
def SHARED_PATH_ELEMENT_SIZE : ℕ := ADDRESS_SIZE + SHARED_POOL_ID_SIZE
def RELAY_GAS_DROPOFF_SIZE : ℕ := 4
def RELAY_MAX_RELAYER_FEE_SIZE : ℕ := 6
def RELAY_PARAM_SIZE : ℕ := RELAY_GAS_DROPOFF_SIZE + RELAY_MAX_RELAYER_FEE_SIZE

def SWAP_TYPE_INVALID : ℕ := 0
def SWAP_TYPE_UNISWAPV3 : ℕ := 1
def SWAP_TYPE_TRADERJOE : ℕ := 2
def SWAP_TYPE_JUPITERV6 : ℕ := 16

/-! ## Reverts -/

/-- Code outside the repository whose revert the contract passes on. -/
inductive Dependency
  | bytesParsing
  | universalAddress
  | token
  | wnative
  | permit2
  | liquidityLayer
  | proxy
  | router
  deriving DecidableEq, Repr

/-- Why a call reverts: a Solidity panic, a revert of called code, or one of the contract's
own errors. -/
inductive Revert
  | panic (code : ℕ)
  | external (callee : Dependency)
  | invalidAddress (addr : Bytes32)
  | invalidVersion (version expected : ℕ)
  | insufficientInputAmount (input minimum : ℕ)
  | exceedsMaxRelayingFee (fee maximum : ℕ)
  | chainNotSupported (chain : ℕ)
  | exceedsMaxGasDropoff (requested maximum : ℕ)
  | relayingDisabledForChain
  | invalidSwapTypeForChain (chain swapType : ℕ)
  | invalidSwapType (swapType : ℕ)
  | swapFailed (reason : Bytes)
  | deadlineExpired (blocktime deadline : ℕ)
  | ethTransferFailed
  | invalidPeer (chainId : ℕ) (fillSender expectedPeer : Bytes32)
  | senderNotRecipient (sender recipient : Address)
  | invalidMsgValue (value expected : ℕ)
  | noExtraParamsAllowed
  | notPayable
  | notAuthorized
  | invalidFeeRecipient
  | invalidChainId
  | invalidPercentage (percentage : ℕ)
  | invalidArguments (mantissa fractionalDigits : ℕ)
  | peerIsZeroAddress
  | outOfGas
  deriving DecidableEq

/-- Panic code of checked arithmetic. -/
def PANIC_ARITHMETIC : ℕ := 0x11

/-- Panic code of a conversion to an enumeration. -/
def PANIC_ENUM : ℕ := 0x21

/-- Panic code of an array access out of bounds. -/
def PANIC_INDEX : ℕ := 0x32

/-! ## Reads of `BytesParsing` -/

/-- A big-endian read of `n` bytes and the offset behind it. -/
def asUint (n : ℕ) (bs : Bytes) (offset : ℕ) : ℕ × ℕ := (readBE n bs offset, offset + n)

def asUint8Unchecked : Bytes → ℕ → ℕ × ℕ := asUint 1
def asUint16Unchecked : Bytes → ℕ → ℕ × ℕ := asUint 2
def asUint24Unchecked : Bytes → ℕ → ℕ × ℕ := asUint 3
def asUint32Unchecked : Bytes → ℕ → ℕ × ℕ := asUint 4
def asUint48Unchecked : Bytes → ℕ → ℕ × ℕ := asUint 6
def asUint64Unchecked : Bytes → ℕ → ℕ × ℕ := asUint 8
def asUint128Unchecked : Bytes → ℕ → ℕ × ℕ := asUint 16
def asUint160Unchecked : Bytes → ℕ → ℕ × ℕ := asUint 20
def asUint256Unchecked : Bytes → ℕ → ℕ × ℕ := asUint 32

def asAddressUnchecked (bs : Bytes) (offset : ℕ) : Address × ℕ :=
  (sliceFixed 20 bs offset, offset + 20)

def asBytes32Unchecked (bs : Bytes) (offset : ℕ) : Bytes32 × ℕ :=
  (sliceFixed 32 bs offset, offset + 32)

def sliceUnchecked (bs : Bytes) (offset length : ℕ) : Bytes × ℕ :=
  (slice bs offset length, offset + length)

/-- A byte that must be 0 or 1. -/
def asBoolUnchecked (bs : Bytes) (offset : ℕ) : Except Revert (Bool × ℕ) :=
  match readBE 1 bs offset with
  | 0 => .ok (false, offset + 1)
  | 1 => .ok (true, offset + 1)
  | _ => .error (.external .bytesParsing)

def checkLength (bs : Bytes) (offset : ℕ) : Except Revert Unit :=
  ensure (bs.length = offset) (.external .bytesParsing)

theorem asUint_lt (n : ℕ) (bs : Bytes) (offset : ℕ) : (asUint n bs offset).1 < 256 ^ n :=
  readBE_lt n bs offset

theorem asBoolUnchecked_ok {bs : Bytes} {offset : ℕ} {b : Bool} {o : ℕ} :
    asBoolUnchecked bs offset = .ok (b, o) ↔
      readBE 1 bs offset = b.toNat ∧ o = offset + 1 := by
  unfold asBoolUnchecked
  split
  · rename_i h
    cases b <;> simp [h, eq_comm]
  · rename_i h
    cases b <;> simp [h, eq_comm]
  · rename_i h₀ h₁
    constructor
    · intro h
      cases h
    · rintro ⟨h, -⟩
      cases b with
      | false => exact (h₀ h).elim
      | true => exact (h₁ h).elim

/-! ## Enumerations -/

inductive IoToken
  | usdc
  | gas
  | other
  deriving DecidableEq, Repr

inductive RedeemMode
  | direct
  | payload
  | relay
  deriving DecidableEq, Repr

/-- The byte that stands for a token kind. -/
def IoToken.toUint8 : IoToken → ℕ
  | .usdc => 0
  | .gas => 1
  | .other => 2

/-- `IoToken(val)`. -/
def IoToken.ofUint8 : ℕ → Except Revert IoToken
  | 0 => .ok .usdc
  | 1 => .ok .gas
  | 2 => .ok .other
  | _ => .error (.panic PANIC_ENUM)

/-- The byte that stands for a redeem mode. -/
def RedeemMode.toUint8 : RedeemMode → ℕ
  | .direct => 0
  | .payload => 1
  | .relay => 2

/-- `RedeemMode(val)`. -/
def RedeemMode.ofUint8 : ℕ → Except Revert RedeemMode
  | 0 => .ok .direct
  | 1 => .ok .payload
  | 2 => .ok .relay
  | _ => .error (.panic PANIC_ENUM)

theorem IoToken.ofUint8_ok {n : ℕ} {t : IoToken} : ofUint8 n = .ok t ↔ n = t.toUint8 := by
  unfold ofUint8
  split <;> cases t <;> simp_all [toUint8]

theorem RedeemMode.ofUint8_ok {n : ℕ} {m : RedeemMode} : ofUint8 n = .ok m ↔ n = m.toUint8 := by
  unfold ofUint8
  split <;> cases m <;> simp_all [toUint8]

theorem IoToken.toUint8_lt (t : IoToken) : t.toUint8 < 256 := by
  cases t <;> decide

theorem RedeemMode.toUint8_lt (m : RedeemMode) : m.toUint8 < 256 := by
  cases m <;> decide

/-! ## Parse functions -/

def parseIoToken (params : Bytes) (offset : ℕ) : Except Revert (IoToken × ℕ) := do
  let (val, offset) := asUint8Unchecked params offset
  let mode ← IoToken.ofUint8 val
  return (mode, offset)

def parseIERC20 (params : Bytes) (offset : ℕ) : Address × ℕ := asAddressUnchecked params offset

def parseRedeemMode (params : Bytes) (offset : ℕ) : Except Revert (RedeemMode × ℕ) := do
  let (val, offset) := asUint8Unchecked params offset
  let mode ← RedeemMode.ofUint8 val
  return (mode, offset)

/-- The gas dropoff in its unit, the relaying fee (or its maximum) and the offset behind. -/
def parseRelayParams (params : Bytes) (offset : ℕ) : ℕ × ℕ × ℕ :=
  let (gasDropoff, offset) := asUint32Unchecked params offset
  let (relayingFee, offset) := asUint48Unchecked params offset
  (gasDropoff, relayingFee, offset)

/-- What `parseEvmSwapParams` reads of a swap section. -/
structure EvmSwapParams where
  deadline : ℕ
  outputAmount : ℕ
  swapType : ℕ
  path : Bytes

/-- An unknown swap type stands for a swap that takes up the rest of the string. The reads see
`behind` where they go past the end. -/
def parseEvmSwapParamsIn (behind : Bytes) (inputToken outputToken : Address) (params : Bytes)
    (offset : ℕ) : EvmSwapParams × ℕ :=
  let seen := params ++ behind
  let (deadline, offset) := asUint32Unchecked seen offset
  let (outputAmount, offset) := asUint128Unchecked seen offset
  let (swapType, offset) := asUint8Unchecked seen offset
  if swapType ≠ SWAP_TYPE_UNISWAPV3 ∧ swapType ≠ SWAP_TYPE_TRADERJOE then
    (⟨deadline, outputAmount, SWAP_TYPE_INVALID, []⟩, params.length)
  else
    let (firstPoolId, offset) := asUint24Unchecked seen offset
    let (pathLength, offset) := asUint8Unchecked seen offset
    let sliceLen := pathLength * SHARED_PATH_ELEMENT_SIZE
    let (partialPath, offset) := sliceUnchecked seen offset sliceLen
    let path := inputToken.toList ++ toBE 3 firstPoolId ++ partialPath ++ outputToken.toList
    (⟨deadline, outputAmount, swapType, path⟩, offset)

/-- `parseEvmSwapParams`, with zeros behind the string. -/
def parseEvmSwapParams : Address → Address → Bytes → ℕ → EvmSwapParams × ℕ :=
  parseEvmSwapParamsIn []

/-- The swap type, the number of swaps and the offset behind the section. -/
def parseSwapTypeAndCountAndSkipParams (params : Bytes) (offset : ℕ) :
    Except Revert (ℕ × ℕ × ℕ) :=
  let offset := offset + (SWAP_PARAM_DEADLINE_SIZE + SWAP_PARAM_AMOUNT_SIZE)
  let (swapType, offset) := asUint8Unchecked params offset
  if swapType = SWAP_TYPE_UNISWAPV3 ∨ swapType = SWAP_TYPE_TRADERJOE then
    let offset := offset + SHARED_POOL_ID_SIZE
    let (pathLength, offset) := asUint8Unchecked params offset
    .ok (swapType, pathLength + 1, offset + pathLength * SHARED_PATH_ELEMENT_SIZE)
  else if swapType = SWAP_TYPE_JUPITERV6 then do
    let (withDex, offset) ← asBoolUnchecked params offset
    return (swapType, 1, if withDex then offset + UNIVERSAL_ADDRESS_SIZE else offset)
  else .ok (SWAP_TYPE_INVALID, 0, params.length)

/-- The first 12 bytes of a `bytes32` that holds an EVM address are zero. -/
def upperBytesZero (addr : Bytes32) : Bool := addr.toList.take 12 == List.replicate 12 0

def checkAddr (chainId : ℕ) (addr : Bytes32) : Except Revert Unit :=
  ensure (¬(addr = zeroBytes32 ∨ (chainId ≠ SOLANA_CHAIN_ID ∧ ¬upperBytesZero addr)))
    (.invalidAddress addr)

/-! ## What the parse functions compute -/

theorem parseIoToken_ok {params : Bytes} {offset : ℕ} {t : IoToken} {o : ℕ} :
    parseIoToken params offset = .ok (t, o) ↔
      readBE 1 params offset = t.toUint8 ∧ o = offset + 1 := by
  simp only [parseIoToken, asUint8Unchecked, asUint, except_bind_ok, except_pure_ok,
    IoToken.ofUint8_ok, Prod.mk.injEq]
  exact ⟨fun ⟨_, h, h', ho⟩ => ⟨h' ▸ h, ho.symm⟩, fun ⟨h, ho⟩ => ⟨t, h, rfl, ho.symm⟩⟩

theorem parseRedeemMode_ok {params : Bytes} {offset : ℕ} {m : RedeemMode} {o : ℕ} :
    parseRedeemMode params offset = .ok (m, o) ↔
      readBE 1 params offset = m.toUint8 ∧ o = offset + 1 := by
  simp only [parseRedeemMode, asUint8Unchecked, asUint, except_bind_ok, except_pure_ok,
    RedeemMode.ofUint8_ok, Prod.mk.injEq]
  exact ⟨fun ⟨_, h, h', ho⟩ => ⟨h' ▸ h, ho.symm⟩, fun ⟨h, ho⟩ => ⟨m, h, rfl, ho.symm⟩⟩

theorem parseRelayParams_eq (params : Bytes) (offset : ℕ) :
    parseRelayParams params offset =
      (readBE 4 params offset, readBE 6 params (offset + 4), offset + RELAY_PARAM_SIZE) := rfl

/-- The swap type byte of the swap section at `offset`. -/
def swapTypeAt (params : Bytes) (offset : ℕ) : ℕ := readBE 1 params (offset + 20)

/-- The number of extra hops of the EVM swap section at `offset`. -/
def pathLengthAt (params : Bytes) (offset : ℕ) : ℕ := readBE 1 params (offset + 24)

/-- The swap types that EVM routers execute. -/
def IsEvmSwapType (swapType : ℕ) : Prop :=
  swapType = SWAP_TYPE_UNISWAPV3 ∨ swapType = SWAP_TYPE_TRADERJOE

instance (swapType : ℕ) : Decidable (IsEvmSwapType swapType) :=
  inferInstanceAs (Decidable (_ ∨ _))

theorem not_isEvmSwapType_invalid : ¬IsEvmSwapType SWAP_TYPE_INVALID := by decide

/-- The path `parseEvmSwapParams` builds from an EVM swap section. -/
def evmPath (inputToken outputToken : Address) (params : Bytes) (offset : ℕ) : Bytes :=
  inputToken.toList ++ slice params (offset + 21) 3 ++
    slice params (offset + 25) (pathLengthAt params offset * SHARED_PATH_ELEMENT_SIZE) ++
    outputToken.toList

section Memory

variable {behind params : Bytes} {offset : ℕ} (inputToken outputToken : Address)

theorem parseEvmSwapParamsIn_of_evm (h : IsEvmSwapType (swapTypeAt (params ++ behind) offset)) :
    parseEvmSwapParamsIn behind inputToken outputToken params offset =
      (⟨readBE 4 (params ++ behind) offset, readBE 16 (params ++ behind) (offset + 4),
        swapTypeAt (params ++ behind) offset,
        evmPath inputToken outputToken (params ++ behind) offset⟩,
       offset + 25 + pathLengthAt (params ++ behind) offset * SHARED_PATH_ELEMENT_SIZE) := by
  have hne : ¬(readBE 1 (params ++ behind) (offset + 4 + 16) ≠ SWAP_TYPE_UNISWAPV3 ∧
      readBE 1 (params ++ behind) (offset + 4 + 16) ≠ SWAP_TYPE_TRADERJOE) := fun ⟨h₁, h₂⟩ =>
    h.elim h₁ h₂
  simp only [parseEvmSwapParamsIn, asUint32Unchecked, asUint128Unchecked, asUint8Unchecked,
    asUint24Unchecked, asUint, sliceUnchecked, if_neg hne, toBE_readBE]
  rfl

theorem parseEvmSwapParamsIn_of_not_evm
    (h : ¬IsEvmSwapType (swapTypeAt (params ++ behind) offset)) :
    parseEvmSwapParamsIn behind inputToken outputToken params offset =
      (⟨readBE 4 (params ++ behind) offset, readBE 16 (params ++ behind) (offset + 4),
        SWAP_TYPE_INVALID, []⟩, params.length) := by
  have hne : readBE 1 (params ++ behind) (offset + 4 + 16) ≠ SWAP_TYPE_UNISWAPV3 ∧
      readBE 1 (params ++ behind) (offset + 4 + 16) ≠ SWAP_TYPE_TRADERJOE :=
    ⟨fun h₁ => h (.inl h₁), fun h₂ => h (.inr h₂)⟩
  exact if_pos hne

theorem parseEvmSwapParams_of_evm (h : IsEvmSwapType (swapTypeAt params offset)) :
    parseEvmSwapParams inputToken outputToken params offset =
      (⟨readBE 4 params offset, readBE 16 params (offset + 4), swapTypeAt params offset,
        evmPath inputToken outputToken params offset⟩,
       offset + 25 + pathLengthAt params offset * SHARED_PATH_ELEMENT_SIZE) := by
  have heq := @parseEvmSwapParamsIn_of_evm [] params offset inputToken
    outputToken (by rwa [List.append_nil])
  rwa [List.append_nil] at heq

theorem parseEvmSwapParams_of_not_evm (h : ¬IsEvmSwapType (swapTypeAt params offset)) :
    parseEvmSwapParams inputToken outputToken params offset =
      (⟨readBE 4 params offset, readBE 16 params (offset + 4), SWAP_TYPE_INVALID, []⟩,
       params.length) := by
  have heq := @parseEvmSwapParamsIn_of_not_evm [] params offset inputToken
    outputToken (by rwa [List.append_nil])
  rwa [List.append_nil] at heq

end Memory

/-- Whatever the swap type, the amount stands behind the deadline. -/
theorem parseEvmSwapParams_outputAmount (inputToken outputToken : Address) (params : Bytes)
    (offset : ℕ) : (parseEvmSwapParams inputToken outputToken params offset).1.outputAmount =
      readBE 16 params (offset + 4) := by
  by_cases h : IsEvmSwapType (swapTypeAt params offset)
  · rw [parseEvmSwapParams_of_evm _ _ h]
  · rw [parseEvmSwapParams_of_not_evm _ _ h]

theorem parseSwapTypeAndCount_of_evm {params : Bytes} {offset : ℕ}
    (h : IsEvmSwapType (swapTypeAt params offset)) :
    parseSwapTypeAndCountAndSkipParams params offset =
      .ok (swapTypeAt params offset, pathLengthAt params offset + 1,
        offset + 25 + pathLengthAt params offset * SHARED_PATH_ELEMENT_SIZE) := by
  have h' : readBE 1 params (offset + (SWAP_PARAM_DEADLINE_SIZE + SWAP_PARAM_AMOUNT_SIZE)) =
      SWAP_TYPE_UNISWAPV3 ∨ readBE 1 params (offset + (SWAP_PARAM_DEADLINE_SIZE +
        SWAP_PARAM_AMOUNT_SIZE)) = SWAP_TYPE_TRADERJOE := h
  exact if_pos h'

/-- The size of a Jupiter swap section: one more `bytes32` when the flag is set. -/
def jupiterSize (withDex : Bool) : ℕ := if withDex then 22 + UNIVERSAL_ADDRESS_SIZE else 22

theorem parseSwapTypeAndCount_of_jupiter {params : Bytes} {offset : ℕ}
    (h : swapTypeAt params offset = SWAP_TYPE_JUPITERV6) {r : ℕ × ℕ × ℕ} :
    parseSwapTypeAndCountAndSkipParams params offset = .ok r ↔
      ∃ withDex : Bool, readBE 1 params (offset + 21) = withDex.toNat ∧
        r = (SWAP_TYPE_JUPITERV6, 1, offset + jupiterSize withDex) := by
  have h' : readBE 1 params (offset + (SWAP_PARAM_DEADLINE_SIZE + SWAP_PARAM_AMOUNT_SIZE)) =
      SWAP_TYPE_JUPITERV6 := h
  have hne : ¬(SWAP_TYPE_JUPITERV6 = SWAP_TYPE_UNISWAPV3 ∨
      SWAP_TYPE_JUPITERV6 = SWAP_TYPE_TRADERJOE) := by decide
  simp only [parseSwapTypeAndCountAndSkipParams, asUint8Unchecked, asUint, h', if_neg hne,
    if_true, except_bind_ok, except_pure_ok, Prod.exists, asBoolUnchecked_ok]
  constructor
  · rintro ⟨b, o, ⟨hb, rfl⟩, rfl⟩
    exact ⟨b, hb, by cases b <;> rfl⟩
  · rintro ⟨b, hb, rfl⟩
    exact ⟨b, _, ⟨hb, rfl⟩, by cases b <;> rfl⟩

theorem parseSwapTypeAndCount_of_unknown {params : Bytes} {offset : ℕ}
    (h : ¬IsEvmSwapType (swapTypeAt params offset))
    (hj : swapTypeAt params offset ≠ SWAP_TYPE_JUPITERV6) :
    parseSwapTypeAndCountAndSkipParams params offset =
      .ok (SWAP_TYPE_INVALID, 0, params.length) := by
  have h' : ¬(readBE 1 params (offset + (SWAP_PARAM_DEADLINE_SIZE + SWAP_PARAM_AMOUNT_SIZE)) =
      SWAP_TYPE_UNISWAPV3 ∨ readBE 1 params (offset + (SWAP_PARAM_DEADLINE_SIZE +
        SWAP_PARAM_AMOUNT_SIZE)) = SWAP_TYPE_TRADERJOE) := h
  have hj' : ¬readBE 1 params (offset + (SWAP_PARAM_DEADLINE_SIZE + SWAP_PARAM_AMOUNT_SIZE)) =
      SWAP_TYPE_JUPITERV6 := hj
  exact (if_neg h').trans (if_neg hj')

/-! ## Reading what stands in a string -/

theorem parseIoToken_holds {params : Bytes} {offset : ℕ} {t : IoToken}
    (h : Holds params offset (toBE 1 t.toUint8)) :
    parseIoToken params offset = .ok (t, offset + 1) :=
  parseIoToken_ok.2 ⟨h.readBE t.toUint8_lt, rfl⟩

theorem parseRedeemMode_holds {params : Bytes} {offset : ℕ} {m : RedeemMode}
    (h : Holds params offset (toBE 1 m.toUint8)) :
    parseRedeemMode params offset = .ok (m, offset + 1) :=
  parseRedeemMode_ok.2 ⟨h.readBE m.toUint8_lt, rfl⟩

theorem asBoolUnchecked_holds {params : Bytes} {offset : ℕ} {b : Bool}
    (h : Holds params offset (toBE 1 b.toNat)) :
    asBoolUnchecked params offset = .ok (b, offset + 1) :=
  asBoolUnchecked_ok.2 ⟨h.readBE (by cases b <;> decide), rfl⟩

theorem asUint_holds {params : Bytes} {offset n v : ℕ} (h : Holds params offset (toBE n v))
    (hv : v < 256 ^ n) : asUint n params offset = (v, offset + n) := by
  rw [asUint, h.readBE hv]

theorem parseIERC20_holds {params : Bytes} {offset : ℕ} {addr : Address}
    (h : Holds params offset addr.toList) : parseIERC20 params offset = (addr, offset + 20) := by
  rw [parseIERC20, asAddressUnchecked, h.sliceFixed]

/-- The numbers in front of the pools of a swap section. -/
def encodeSwapHead (deadline outputAmount swapType : ℕ) : Bytes :=
  toBE 4 deadline ++ (toBE 16 outputAmount ++ toBE 1 swapType)

/-- A swap section for an EVM router: `pool` is the first pool id, `hops` are the addresses and
pool ids behind it. -/
def encodeEvmSwap (deadline outputAmount swapType : ℕ) (pool : Fixed 3) (hopCount : ℕ)
    (hops : Bytes) : Bytes :=
  encodeSwapHead deadline outputAmount swapType ++ (pool.toList ++ (toBE 1 hopCount ++ hops))

section Swap

variable {params : Bytes} {offset deadline outputAmount swapType : ℕ}

@[simp] theorem length_encodeSwapHead :
    (encodeSwapHead deadline outputAmount swapType).length = 21 := by
  simp [encodeSwapHead]

@[simp] theorem length_encodeEvmSwap {pool : Fixed 3} {hopCount : ℕ} {hops : Bytes} :
    (encodeEvmSwap deadline outputAmount swapType pool hopCount hops).length =
      25 + hops.length := by
  simp only [encodeEvmSwap, List.length_append, length_encodeSwapHead, List.Vector.toList_length,
    length_toBE]
  omega

theorem encodeSwapHead_holds (h : Holds params offset (encodeSwapHead deadline outputAmount swapType))
    (hdeadline : deadline < 256 ^ 4) (hamount : outputAmount < 256 ^ 16)
    (htype : swapType < 256 ^ 1) :
    readBE 4 params offset = deadline ∧ readBE 16 params (offset + 4) = outputAmount ∧
      swapTypeAt params offset = swapType := by
  have hrest := h.rest (length_toBE 4 deadline)
  have htail := hrest.rest (length_toBE 16 outputAmount)
  exact ⟨h.left.readBE hdeadline, hrest.left.readBE hamount, htail.readBE htype⟩

/-- **An EVM swap section is read back** from wherever it stands. -/
theorem parseEvmSwapParams_holds {pool : Fixed 3} {hopCount : ℕ} {hops : Bytes}
    (h : Holds params offset (encodeEvmSwap deadline outputAmount swapType pool hopCount hops))
    (hdeadline : deadline < 256 ^ 4) (hamount : outputAmount < 256 ^ 16)
    (htype : swapType < 256 ^ 1) (hcount : hopCount < 256 ^ 1) (hevm : IsEvmSwapType swapType)
    (hhops : hops.length = hopCount * SHARED_PATH_ELEMENT_SIZE)
    (inputToken outputToken : Address) :
    parseEvmSwapParams inputToken outputToken params offset =
      (⟨deadline, outputAmount, swapType,
        inputToken.toList ++ pool.toList ++ hops ++ outputToken.toList⟩,
       offset + (encodeEvmSwap deadline outputAmount swapType pool hopCount hops).length) := by
  obtain ⟨hd, ha, ht⟩ := encodeSwapHead_holds h.left hdeadline hamount htype
  have hpool := h.rest length_encodeSwapHead
  have hlen := hpool.rest pool.toList_length
  have hbody := hlen.rest (length_toBE 1 hopCount)
  have hslice := hpool.left.slice
  rw [List.Vector.toList_length] at hslice
  have hcountAt : pathLengthAt params offset = hopCount := hlen.left.readBE hcount
  have hbodyAt := hbody.slice
  rw [hhops] at hbodyAt
  rw [parseEvmSwapParams_of_evm _ _ (ht.symm ▸ hevm), evmPath, hd, ha, ht, hcountAt, hslice,
    hbodyAt, length_encodeEvmSwap, hhops, Nat.add_assoc]

/-- A swap section of another type is read as an invalid one. -/
theorem parseEvmSwapParams_holds_of_not_evm
    (h : Holds params offset (encodeSwapHead deadline outputAmount swapType))
    (hdeadline : deadline < 256 ^ 4) (hamount : outputAmount < 256 ^ 16)
    (htype : swapType < 256 ^ 1) (hevm : ¬IsEvmSwapType swapType)
    (inputToken outputToken : Address) :
    parseEvmSwapParams inputToken outputToken params offset =
      (⟨deadline, outputAmount, SWAP_TYPE_INVALID, []⟩, params.length) := by
  obtain ⟨hd, ha, ht⟩ := encodeSwapHead_holds h hdeadline hamount htype
  rw [parseEvmSwapParams_of_not_evm _ _ (ht.symm ▸ hevm), hd, ha]

end Swap

theorem checkAddr_ok {chainId : ℕ} {addr : Bytes32} {u : Unit} :
    checkAddr chainId addr = .ok u ↔
      addr ≠ zeroBytes32 ∧ (chainId ≠ SOLANA_CHAIN_ID → upperBytesZero addr) := by
  rw [checkAddr, ensure_ok]
  constructor
  · intro h
    exact ⟨fun h₁ => h (.inl h₁), fun h₁ => by_contra fun h₂ => h (.inr ⟨h₁, h₂⟩)⟩
  · rintro ⟨h₁, h₂⟩ (h | ⟨hc, hu⟩)
    · exact h₁ h
    · exact hu (h₂ hc)

end SwapLayer.Evm
