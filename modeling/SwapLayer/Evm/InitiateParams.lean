import SwapLayer.Evm.Params

/-!
# The parameters of `initiate`

Model of `evm/src/assets/InitiateParams.sol`. `parseParamBaseStructure` walks over the four
blocks of the parameter string (fast transfer, redeem mode, input token, output token), notes
the mode, the offset and the size of each and insists that the walk ends with the string.

Each block has its own definition here, in the order of the source. A block's `size` is a
difference of offsets: the source computes it without a check, and it can only be negative for
an input block of unknown swap type, where the walk jumps to the end of the string and where
nothing reads the size.

Results:
* `parseParamBaseStructure_ok`: acceptance, block by block.
* `redeem_in_range`, `output_in_range`: the redeem block and the output block of an accepted
  string lie inside it, although every read is lenient. The mode byte of the output block is
  what anchors them: a token kind other than USDC is a nonzero byte, and USDC ends the string.
* `parse…_offset`: the acquire section ends where `skipAcquire` says it does.
-/

namespace SwapLayer.Evm

open ByteString Program

inductive FastTransferMode
  | disabled
  | enabled
  deriving DecidableEq, Repr

inductive AcquireMode
  | preapproved
  | permit
  | permit2Transfer
  | permit2Permit
  deriving DecidableEq, Repr

def FAST_TRANSFER_MAX_FEE_SIZE : ℕ := 6
def FAST_TRANSFER_DEADLINE_SIZE : ℕ := 4
def FAST_TRANSFER_PARAM_SIZE : ℕ := FAST_TRANSFER_MAX_FEE_SIZE + FAST_TRANSFER_DEADLINE_SIZE

def SIGNATURE_SIZE : ℕ := 65

def PERMIT_VALUE_SIZE : ℕ := 32
def PERMIT_DEADLINE_SIZE : ℕ := 32
def PERMIT_SIZE : ℕ := PERMIT_VALUE_SIZE + PERMIT_DEADLINE_SIZE + SIGNATURE_SIZE

def PERMIT2_TRANSFER_AMOUNT_SIZE : ℕ := 32
def PERMIT2_TRANSFER_NONCE_SIZE : ℕ := 32
def PERMIT2_TRANSFER_SIG_DEADLINE_SIZE : ℕ := 32
def PERMIT2_TRANSFER_SIZE : ℕ :=
  PERMIT2_TRANSFER_AMOUNT_SIZE + PERMIT2_TRANSFER_NONCE_SIZE +
    PERMIT2_TRANSFER_SIG_DEADLINE_SIZE + SIGNATURE_SIZE

def PERMIT2_PERMIT_AMOUNT_SIZE : ℕ := 20
def PERMIT2_PERMIT_EXPIRATION_SIZE : ℕ := 6
def PERMIT2_PERMIT_NONCE_SIZE : ℕ := 6
def PERMIT2_PERMIT_SIG_DEADLINE_SIZE : ℕ := 32
def PERMIT2_PERMIT_SIZE : ℕ :=
  PERMIT2_PERMIT_AMOUNT_SIZE + PERMIT2_PERMIT_EXPIRATION_SIZE + PERMIT2_PERMIT_NONCE_SIZE +
    PERMIT2_PERMIT_SIG_DEADLINE_SIZE + SIGNATURE_SIZE

/-! ## Modes -/

/-- `FastTransferMode(value)`. -/
def FastTransferMode.ofUint8 : ℕ → Except Revert FastTransferMode
  | 0 => .ok .disabled
  | 1 => .ok .enabled
  | _ => .error (.panic PANIC_ENUM)

/-- `AcquireMode(value)`. -/
def AcquireMode.ofUint8 : ℕ → Except Revert AcquireMode
  | 0 => .ok .preapproved
  | 1 => .ok .permit
  | 2 => .ok .permit2Transfer
  | 3 => .ok .permit2Permit
  | _ => .error (.panic PANIC_ENUM)

def AcquireMode.toUint8 : AcquireMode → ℕ
  | .preapproved => 0
  | .permit => 1
  | .permit2Transfer => 2
  | .permit2Permit => 3

def parseFastTransferMode (params : Bytes) (offset : ℕ) :
    Except Revert (FastTransferMode × ℕ) := do
  let (value, offset) := asUint8Unchecked params offset
  let mode ← FastTransferMode.ofUint8 value
  return (mode, offset)

/-- The sizes of the acquire modes, one byte each, in one word. -/
def ACQUIRE_MODE_SIZES_ARRAY : ℕ :=
  (0 <<< (AcquireMode.preapproved.toUint8 * 8)) +
    (PERMIT_SIZE <<< (AcquireMode.permit.toUint8 * 8)) +
    (PERMIT2_TRANSFER_SIZE <<< (AcquireMode.permit2Transfer.toUint8 * 8)) +
    (PERMIT2_PERMIT_SIZE <<< (AcquireMode.permit2Permit.toUint8 * 8))

/-- `uint8(_ACQUIRE_MODE_SIZES_ARRAY >> (uint(acquireMode) * 8))`. -/
def acquireModeSize (acquireMode : AcquireMode) : ℕ :=
  (ACQUIRE_MODE_SIZES_ARRAY >>> (acquireMode.toUint8 * 8)) % 256

def parseAcquireMode (params : Bytes) (offset : ℕ) : Except Revert (AcquireMode × ℕ) := do
  let (value, offset) := asUint8Unchecked params offset
  let mode ← AcquireMode.ofUint8 value
  return (mode, offset)

def skipAcquire (params : Bytes) (offset : ℕ) : Except Revert ℕ := do
  let (acquireMode, offset) ← parseAcquireMode params offset
  return offset + acquireModeSize acquireMode

/-! ## Acquire sections -/

structure Permit where
  value : ℕ
  deadline : ℕ
  r : Bytes32
  s : Bytes32
  v : ℕ
  deriving DecidableEq

def parsePermit (params : Bytes) (offset : ℕ) : Permit × ℕ :=
  let (value, offset) := asUint256Unchecked params offset
  let (deadline, offset) := asUint256Unchecked params offset
  let (r, offset) := asBytes32Unchecked params offset
  let (s, offset) := asBytes32Unchecked params offset
  let (v, offset) := asUint8Unchecked params offset
  (⟨value, deadline, r, s, v⟩, offset)

structure Permit2Permit where
  amount : ℕ
  expiration : ℕ
  nonce : ℕ
  sigDeadline : ℕ
  signature : Bytes
  deriving DecidableEq

def parsePermit2Permit (params : Bytes) (offset : ℕ) : Permit2Permit × ℕ :=
  let (amount, offset) := asUint160Unchecked params offset
  let (expiration, offset) := asUint48Unchecked params offset
  let (nonce, offset) := asUint48Unchecked params offset
  let (sigDeadline, offset) := asUint256Unchecked params offset
  let (signature, offset) := sliceUnchecked params offset SIGNATURE_SIZE
  (⟨amount, expiration, nonce, sigDeadline, signature⟩, offset)

structure Permit2Transfer where
  amount : ℕ
  nonce : ℕ
  sigDeadline : ℕ
  signature : Bytes
  deriving DecidableEq

def parsePermit2Transfer (params : Bytes) (offset : ℕ) : Permit2Transfer × ℕ :=
  let (amount, offset) := asUint256Unchecked params offset
  let (nonce, offset) := asUint256Unchecked params offset
  let (sigDeadline, offset) := asUint256Unchecked params offset
  let (signature, offset) := sliceUnchecked params offset SIGNATURE_SIZE
  (⟨amount, nonce, sigDeadline, signature⟩, offset)

/-- The packed table holds the sizes of the sections. -/
theorem acquireModeSize_eq (m : AcquireMode) :
    acquireModeSize m = match m with
      | .preapproved => 0
      | .permit => PERMIT_SIZE
      | .permit2Transfer => PERMIT2_TRANSFER_SIZE
      | .permit2Permit => PERMIT2_PERMIT_SIZE := by
  cases m <;> decide

theorem parsePermit_offset (params : Bytes) (offset : ℕ) :
    (parsePermit params offset).2 = offset + acquireModeSize .permit := by
  rw [acquireModeSize_eq]
  rfl

theorem parsePermit2Permit_offset (params : Bytes) (offset : ℕ) :
    (parsePermit2Permit params offset).2 = offset + acquireModeSize .permit2Permit := by
  rw [acquireModeSize_eq]
  rfl

theorem parsePermit2Transfer_offset (params : Bytes) (offset : ℕ) :
    (parsePermit2Transfer params offset).2 = offset + acquireModeSize .permit2Transfer := by
  rw [acquireModeSize_eq]
  rfl

/-! ## The four blocks -/

structure FastTransferMOS where
  mode : FastTransferMode
  offset : ℕ
  size : ℕ
  deriving DecidableEq

structure RedeemMOS where
  mode : RedeemMode
  offset : ℕ
  size : ℕ
  deriving DecidableEq

structure IoTokenMOS where
  mode : IoToken
  offset : ℕ
  size : ℕ
  deriving DecidableEq

structure ModesOffsetsSizes where
  fastTransfer : FastTransferMOS
  redeem : RedeemMOS
  isExactIn : Bool
  input : IoTokenMOS
  output : IoTokenMOS
  deriving DecidableEq

/-- First block of `parseParamBaseStructure`. -/
def parseFastTransferBlock (params : Bytes) (offset : ℕ) :
    Except Revert (FastTransferMOS × ℕ) := do
  let (fastTransferMode, paramBlockOffset) ← parseFastTransferMode params offset
  let offset := match fastTransferMode with
    | .enabled => paramBlockOffset + FAST_TRANSFER_PARAM_SIZE
    | .disabled => paramBlockOffset
  return (⟨fastTransferMode, paramBlockOffset, offset - paramBlockOffset⟩, offset)

/-- Second block. -/
def parseRedeemBlock (params : Bytes) (offset : ℕ) : Except Revert (RedeemMOS × ℕ) := do
  let (redeemMode, paramBlockOffset) ← parseRedeemMode params offset
  let offset := match redeemMode with
    | .payload =>
      let (payloadLen, offset) := asUint16Unchecked params paramBlockOffset
      offset + payloadLen
    | .relay => paramBlockOffset + RELAY_PARAM_SIZE
    | .direct => paramBlockOffset
  return (⟨redeemMode, paramBlockOffset, offset - paramBlockOffset⟩, offset)

/-- The offset behind the parameters of the input token. -/
def skipInput (inputTokenType : IoToken) (params : Bytes) (offset : ℕ) : Except Revert ℕ :=
  match inputTokenType with
  | .usdc => skipAcquire params (offset + SWAP_PARAM_AMOUNT_SIZE)
  | .gas => do
    let (_, _, offset) ← parseSwapTypeAndCountAndSkipParams params offset
    return offset
  | .other => do
    let offset ← skipAcquire params (offset + (BOOL_SIZE + ADDRESS_SIZE + SWAP_PARAM_AMOUNT_SIZE))
    let (_, _, offset) ← parseSwapTypeAndCountAndSkipParams params offset
    return offset

/-- Third block: the direction of the swap and the input token. -/
def parseInputBlock (params : Bytes) (offset : ℕ) : Except Revert (Bool × IoTokenMOS × ℕ) := do
  let (isExactIn, offset) ← asBoolUnchecked params offset
  let (inputTokenType, paramBlockOffset) ← parseIoToken params offset
  let offset ← skipInput inputTokenType params paramBlockOffset
  return (isExactIn, ⟨inputTokenType, paramBlockOffset, offset - paramBlockOffset⟩, offset)

/-- The offset behind the parameters of the output token. -/
def skipOutput (targetChain : ℕ) (outputTokenType : IoToken) (params : Bytes) (offset : ℕ) :
    Except Revert ℕ :=
  match outputTokenType with
  | .usdc => .ok offset
  | .gas => do
    let (_, _, offset) ← parseSwapTypeAndCountAndSkipParams params offset
    return offset
  | .other => do
    let (universalAddr, offset) := asBytes32Unchecked params offset
    checkAddr targetChain universalAddr
    let (_, _, offset) ← parseSwapTypeAndCountAndSkipParams params offset
    return offset

/-- Fourth block. -/
def parseOutputBlock (targetChain : ℕ) (params : Bytes) (offset : ℕ) :
    Except Revert (IoTokenMOS × ℕ) := do
  let (outputTokenType, paramBlockOffset) ← parseIoToken params offset
  let offset ← skipOutput targetChain outputTokenType params paramBlockOffset
  return (⟨outputTokenType, paramBlockOffset, offset - paramBlockOffset⟩, offset)

def parseParamBaseStructure (targetChain : ℕ) (params : Bytes) :
    Except Revert ModesOffsetsSizes := do
  let (fastTransfer, offset) ← parseFastTransferBlock params 0
  let (redeem, offset) ← parseRedeemBlock params offset
  let (isExactIn, input, offset) ← parseInputBlock params offset
  let (output, offset) ← parseOutputBlock targetChain params offset
  checkLength params offset
  return ⟨fastTransfer, redeem, isExactIn, input, output⟩

/-! ## What acceptance means, block by block -/

theorem parseParamBaseStructure_ok {targetChain : ℕ} {params : Bytes} {mos : ModesOffsetsSizes}
    (h : parseParamBaseStructure targetChain params = .ok mos) :
    ∃ o₁ o₂ o₃, parseFastTransferBlock params 0 = .ok (mos.fastTransfer, o₁) ∧
      parseRedeemBlock params o₁ = .ok (mos.redeem, o₂) ∧
      parseInputBlock params o₂ = .ok (mos.isExactIn, mos.input, o₃) ∧
      parseOutputBlock targetChain params o₃ = .ok (mos.output, params.length) := by
  simp only [parseParamBaseStructure, except_bind_ok, except_pure_ok, checkLength,
    ensure_ok] at h
  obtain ⟨⟨f, o₁⟩, hf, ⟨r, o₂⟩, hr, ⟨e, i, o₃⟩, hi, ⟨out, o₄⟩, hout, _, hlen, rfl⟩ := h
  exact ⟨o₁, o₂, o₃, hf, hr, hi, hlen ▸ hout⟩

/-- The size of the redeem block whose parameters start at `offset`. -/
def redeemSize (mode : RedeemMode) (params : Bytes) (offset : ℕ) : ℕ :=
  match mode with
  | .direct => 0
  | .payload => 2 + readBE 2 params offset
  | .relay => RELAY_PARAM_SIZE

theorem parseRedeemBlock_ok {params : Bytes} {offset : ℕ} {b : RedeemMOS} {o : ℕ}
    (h : parseRedeemBlock params offset = .ok (b, o)) :
    readBE 1 params offset = b.mode.toUint8 ∧ b.offset = offset + 1 ∧
      b.size = redeemSize b.mode params (offset + 1) ∧ o = b.offset + b.size := by
  simp only [parseRedeemBlock, except_bind_ok, except_pure_ok, Prod.exists,
    parseRedeemMode_ok] at h
  obtain ⟨m, _, ⟨hm, rfl⟩, h⟩ := h
  cases m <;> cases h
  · exact ⟨hm, rfl, Nat.sub_self _, by simp⟩
  · refine ⟨hm, rfl, ?_, ?_⟩ <;> simp only [asUint16Unchecked, asUint, redeemSize] <;> omega
  · refine ⟨hm, rfl, ?_, ?_⟩ <;> simp only [redeemSize] <;> omega

theorem parseInputBlock_ok {params : Bytes} {offset : ℕ} {e : Bool} {b : IoTokenMOS} {o : ℕ}
    (h : parseInputBlock params offset = .ok (e, b, o)) :
    b.offset = offset + 2 ∧ skipInput b.mode params b.offset = .ok o := by
  simp only [parseInputBlock, except_bind_ok, except_pure_ok, Prod.exists, asBoolUnchecked_ok,
    parseIoToken_ok, Prod.mk.injEq] at h
  obtain ⟨_, _, ⟨-, rfl⟩, t, _, ⟨-, rfl⟩, o', hskip, rfl, rfl, rfl⟩ := h
  exact ⟨rfl, hskip⟩

theorem parseOutputBlock_ok {targetChain : ℕ} {params : Bytes} {offset : ℕ} {b : IoTokenMOS}
    {o : ℕ} (h : parseOutputBlock targetChain params offset = .ok (b, o)) :
    readBE 1 params offset = b.mode.toUint8 ∧ b.offset = offset + 1 ∧
      skipOutput targetChain b.mode params b.offset = .ok o ∧ b.size = o - b.offset := by
  simp only [parseOutputBlock, except_bind_ok, except_pure_ok, Prod.exists, parseIoToken_ok,
    Prod.mk.injEq] at h
  obtain ⟨t, _, ⟨ht, rfl⟩, o', hskip, rfl, rfl⟩ := h
  exact ⟨ht, rfl, hskip, rfl⟩

/-! ## Where the walk stands -/

/-- A swap section of known type is at least 22 bytes long; an unknown one ends the string. -/
theorem skipSwap_cases {params : Bytes} {offset swapType swapCount o : ℕ}
    (h : parseSwapTypeAndCountAndSkipParams params offset = .ok (swapType, swapCount, o)) :
    (swapType = swapTypeAt params offset ∧ swapCount ≠ 0 ∧ offset + 22 ≤ o) ∨
      (swapType = SWAP_TYPE_INVALID ∧ swapCount = 0 ∧ o = params.length) := by
  by_cases hevm : IsEvmSwapType (swapTypeAt params offset)
  · rw [parseSwapTypeAndCount_of_evm hevm] at h
    cases h
    exact .inl ⟨rfl, Nat.succ_ne_zero _, by omega⟩
  · by_cases hj : swapTypeAt params offset = SWAP_TYPE_JUPITERV6
    · obtain ⟨withDex, -, h⟩ := (parseSwapTypeAndCount_of_jupiter hj).1 h
      cases h
      refine .inl ⟨hj.symm, one_ne_zero, ?_⟩
      cases withDex <;> simp [jupiterSize]
    · rw [parseSwapTypeAndCount_of_unknown hevm hj] at h
      cases h
      exact .inr ⟨rfl, rfl, rfl⟩

theorem skipAcquire_le {params : Bytes} {offset o : ℕ} (h : skipAcquire params offset = .ok o) :
    offset ≤ o := by
  simp only [skipAcquire, parseAcquireMode, except_bind_ok, except_pure_ok, asUint8Unchecked,
    asUint, Prod.exists, Prod.mk.injEq] at h
  obtain ⟨_, _, ⟨_, -, -, rfl⟩, rfl⟩ := h
  omega

/-- The walk over the input block moves on, or jumps to the end of the string. -/
theorem skipInput_cases {t : IoToken} {params : Bytes} {offset o : ℕ}
    (h : skipInput t params offset = .ok o) : offset ≤ o ∨ o = params.length := by
  cases t with
  | usdc =>
    have := skipAcquire_le h
    left
    omega
  | gas =>
    simp only [skipInput, except_bind_ok, except_pure_ok, Prod.exists] at h
    obtain ⟨_, _, _, hswap, rfl⟩ := h
    rcases skipSwap_cases hswap with ⟨-, -, hle⟩ | ⟨-, -, he⟩
    · left
      omega
    · exact .inr he
  | other =>
    simp only [skipInput, except_bind_ok, except_pure_ok, Prod.exists] at h
    obtain ⟨o', hacq, _, _, _, hswap, rfl⟩ := h
    have := skipAcquire_le hacq
    rcases skipSwap_cases hswap with ⟨-, -, hle⟩ | ⟨-, -, he⟩
    · left
      omega
    · exact .inr he

/-- **The output block lies in the string**: its mode byte does, and the block ends where the
string ends. -/
theorem output_in_range {targetChain : ℕ} {params : Bytes} {mos : ModesOffsetsSizes}
    (h : parseParamBaseStructure targetChain params = .ok mos) :
    1 ≤ mos.output.offset ∧ mos.output.offset + mos.output.size = params.length := by
  obtain ⟨_, _, o₃, -, -, -, hout⟩ := parseParamBaseStructure_ok h
  obtain ⟨hmode, hoff, hskip, hsize⟩ := parseOutputBlock_ok hout
  have hle : mos.output.offset ≤ params.length := by
    cases hm : mos.output.mode with
    | usdc =>
      rw [hm] at hskip
      exact Nat.le_of_eq (Except.ok.inj hskip)
    | gas =>
      rw [hm] at hmode
      have := lt_length_of_readBE_ne_zero (n := 1) (by rw [hmode]; decide)
      omega
    | other =>
      rw [hm] at hmode
      have := lt_length_of_readBE_ne_zero (n := 1) (by rw [hmode]; decide)
      omega
  omega

/-- **The redeem block lies in the string**, and before the output block. -/
theorem redeem_in_range {targetChain : ℕ} {params : Bytes} {mos : ModesOffsetsSizes}
    (h : parseParamBaseStructure targetChain params = .ok mos) :
    mos.redeem.size = redeemSize mos.redeem.mode params mos.redeem.offset ∧
      mos.redeem.offset + mos.redeem.size ≤ params.length := by
  have hrange := output_in_range h
  obtain ⟨o₁, o₂, o₃, -, hred, hin, hout⟩ := parseParamBaseStructure_ok h
  obtain ⟨-, hoff, hsize, hend⟩ := parseRedeemBlock_ok hred
  obtain ⟨hioff, hskip⟩ := parseInputBlock_ok hin
  obtain ⟨-, hooff, -, -⟩ := parseOutputBlock_ok hout
  refine ⟨hoff ▸ hsize, ?_⟩
  rcases skipInput_cases hskip with hle | he <;> omega

end SwapLayer.Evm
