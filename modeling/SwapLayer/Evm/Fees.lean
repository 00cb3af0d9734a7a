import SwapLayer.Evm.World

/-!
# Relaying fees on EVM chains

Model of `evm/src/assets/FeeParams.sol`, `Percentage.sol`, `GasDropoff.sol`, `GasPrice.sol` and
`SwapLayerRelayingFees.sol`.

* A `FeeParams` word is a `BitVec 256`. Its six fields are one getter and one setter with the
  field's place and size; each field keeps its own definition under the source's name.
* `_calcRelayingFee` runs in an `unchecked` block, so its arithmetic is modulo `2^256` here.
* `_batchFeeUpdates` loops over a byte string. The loop takes the length of the string as fuel:
  every iteration reads at least three bytes.

Results:
* `getField_setField`, `getField_setField_of_disjoint`: a field that was set is read back, the others
  stay as they were.
* `checkedWrap_ok`: `checkedWrap` lets through what has percentages of at most 1000 %.
-/

namespace SwapLayer.Evm

open ByteString Program

/-! ## Value types -/

/-- `GasDropoffLib.from`: a dropoff in microether, in wei. -/
def gasDropoffFrom (val : ℕ) : ℕ := val * 10 ^ 12

/-- `GasPriceLib.from`. -/
def gasPriceFrom (val : ℕ) : ℕ := val * 10 ^ 6

def EXPONENT_BITS : ℕ := 2
def EXPONENT_BITS_MASK : ℕ := (1 <<< EXPONENT_BITS) - 1
def MAX_MANTISSA : ℕ := 10000
def BITS_PER_POWER : ℕ := 3 * 8

/-- `[1e6, 1e5, 1e4, 1e3]` packed into one word. -/
def POWERS_OF_TEN : ℕ :=
  (10 ^ 6 <<< (3 * BITS_PER_POWER)) + (10 ^ 5 <<< (2 * BITS_PER_POWER)) +
    (10 ^ 4 <<< (1 * BITS_PER_POWER)) + (10 ^ 3 <<< (0 * BITS_PER_POWER))

def POWERS_OF_TEN_MASK : ℕ := (1 <<< BITS_PER_POWER) - 1

/-- The second half of `PercentageLib.to`: mantissa and exponent, in 16 bits. -/
def packPercentage (value fractionalDigits : ℕ) : Except Revert ℕ :=
  if value > MAX_MANTISSA then .error (.invalidArguments value fractionalDigits)
  else .ok ((wrap (value <<< EXPONENT_BITS) ||| (fractionalDigits - 1)) % 2 ^ 16)

/-- `PercentageLib.to`. A whole number of percents is written with one fractional digit; the product
is not checked. -/
def percentageTo (value fractionalDigits : ℕ) : Except Revert ℕ :=
  if value = 0 then .ok 0
  else if fractionalDigits > 4 then .error (.invalidArguments value fractionalDigits)
  else if fractionalDigits = 0 then packPercentage (wrap (value * 10)) 1
  else packPercentage value fractionalDigits

/-- `PercentageLib.checkedWrap`. -/
def percentageCheckedWrap (percentage : ℕ) : Except Revert ℕ :=
  if percentage >>> EXPONENT_BITS > MAX_MANTISSA then .error (.invalidPercentage percentage)
  else .ok percentage

/-- `PercentageLib.compoundUnchecked`. -/
def compoundUnchecked (percentage value : ℕ) : ℕ :=
  let negativeExponent := percentage &&& EXPONENT_BITS_MASK
  let shift := negativeExponent * BITS_PER_POWER
  let denominator := (POWERS_OF_TEN >>> shift) &&& POWERS_OF_TEN_MASK
  let numerator := wrap (value * (percentage >>> EXPONENT_BITS))
  wrap (value + numerator / denominator)

/-! ## Fee parameters -/

/-- `type FeeParams is uint256`. -/
abbrev FeeParams := BitVec 256

namespace FeeParams

/-- The `size` bits from bit `offset` on. -/
def getField (offset size : ℕ) (params : FeeParams) : ℕ := ((params >>> offset).setWidth size).toNat

/-- The word with the `size` bits from bit `offset` on replaced. -/
def setField (offset size : ℕ) (params : FeeParams) (value : ℕ) : FeeParams :=
  (params &&& ~~~(((1#256 <<< size) - 1#256) <<< offset)) ||| (BitVec.ofNat 256 value <<< offset)

def BASE_FEE_SIZE : ℕ := 4 * 8
def BASE_FEE_OFFSET : ℕ := 0
def GAS_PRICE_SIZE : ℕ := 4 * 8
def GAS_PRICE_OFFSET : ℕ := BASE_FEE_OFFSET + BASE_FEE_SIZE
def GAS_PRICE_MARGIN_SIZE : ℕ := 2 * 8
def GAS_PRICE_MARGIN_OFFSET : ℕ := GAS_PRICE_OFFSET + GAS_PRICE_SIZE
def MAX_GAS_DROPOFF_SIZE : ℕ := 4 * 8
def MAX_GAS_DROPOFF_OFFSET : ℕ := GAS_PRICE_MARGIN_OFFSET + GAS_PRICE_MARGIN_SIZE
def GAS_DROPOFF_MARGIN_SIZE : ℕ := 2 * 8
def GAS_DROPOFF_MARGIN_OFFSET : ℕ := MAX_GAS_DROPOFF_OFFSET + MAX_GAS_DROPOFF_SIZE
def GAS_TOKEN_PRICE_SIZE : ℕ := 8 * 8
def GAS_TOKEN_PRICE_OFFSET : ℕ := GAS_DROPOFF_MARGIN_OFFSET + GAS_DROPOFF_MARGIN_SIZE

def baseFee : FeeParams → ℕ := getField BASE_FEE_OFFSET BASE_FEE_SIZE
def gasPrice : FeeParams → ℕ := getField GAS_PRICE_OFFSET GAS_PRICE_SIZE
def gasPriceMargin : FeeParams → ℕ := getField GAS_PRICE_MARGIN_OFFSET GAS_PRICE_MARGIN_SIZE
def maxGasDropoff : FeeParams → ℕ := getField MAX_GAS_DROPOFF_OFFSET MAX_GAS_DROPOFF_SIZE
def gasDropoffMargin : FeeParams → ℕ := getField GAS_DROPOFF_MARGIN_OFFSET GAS_DROPOFF_MARGIN_SIZE
def gasTokenPrice : FeeParams → ℕ := getField GAS_TOKEN_PRICE_OFFSET GAS_TOKEN_PRICE_SIZE

def setBaseFee : FeeParams → ℕ → FeeParams := setField BASE_FEE_OFFSET BASE_FEE_SIZE
def setGasPrice : FeeParams → ℕ → FeeParams := setField GAS_PRICE_OFFSET GAS_PRICE_SIZE
def setGasPriceMargin : FeeParams → ℕ → FeeParams :=
  setField GAS_PRICE_MARGIN_OFFSET GAS_PRICE_MARGIN_SIZE
def setMaxGasDropoff : FeeParams → ℕ → FeeParams :=
  setField MAX_GAS_DROPOFF_OFFSET MAX_GAS_DROPOFF_SIZE
def setGasDropoffMargin : FeeParams → ℕ → FeeParams :=
  setField GAS_DROPOFF_MARGIN_OFFSET GAS_DROPOFF_MARGIN_SIZE
def setGasTokenPrice : FeeParams → ℕ → FeeParams :=
  setField GAS_TOKEN_PRICE_OFFSET GAS_TOKEN_PRICE_SIZE

/-! ### Fields of a word -/

/-- The ones that a setter clears. -/
theorem fieldMask_eq {size : ℕ} (hsize : size < 256) :
    (1#256 <<< size) - 1#256 = BitVec.ofNat 256 (2 ^ size - 1) := by
  have hpow : 2 ^ size < 2 ^ 256 := Nat.pow_lt_pow_right (by decide) hsize
  have hpos : 0 < 2 ^ size := Nat.pow_pos (by decide)
  apply BitVec.eq_of_toNat_eq
  rw [BitVec.toNat_sub, BitVec.toNat_shiftLeft, BitVec.toNat_ofNat, BitVec.toNat_ofNat,
    Nat.shiftLeft_eq]
  omega

theorem getLsbD_setField {offset size j : ℕ} (params : FeeParams) (value : ℕ) (hsize : size < 256)
    (hj : j < 256) :
    (setField offset size params value).getLsbD j =
      ((params.getLsbD j && !(decide (offset ≤ j) && decide (j - offset < size))) ||
        (decide (offset ≤ j) && value.testBit (j - offset))) := by
  have hlt : j - offset < 256 := by omega
  simp only [setField, fieldMask_eq hsize, BitVec.getLsbD_or, BitVec.getLsbD_and, BitVec.getLsbD_not,
    BitVec.getLsbD_shiftLeft, BitVec.getLsbD_ofNat, Nat.testBit_two_pow_sub_one]
  by_cases hle : offset ≤ j
  · simp [hj, hlt, hle, Nat.not_lt.2 hle]
  · simp [hj, hle, Nat.lt_of_not_le hle]

theorem testBit_getField (offset size : ℕ) (params : FeeParams) (i : ℕ) :
    (getField offset size params).testBit i =
      (decide (i < size) && params.getLsbD (offset + i)) := by
  simp [getField, BitVec.testBit_toNat]

/-- **A field that was set is read back.** -/
theorem getField_setField {offset size : ℕ} (params : FeeParams) {value : ℕ}
    (hvalue : value < 2 ^ size) (hsize : size < 256) (hend : offset + size ≤ 256) :
    getField offset size (setField offset size params value) = value := by
  apply Nat.eq_of_testBit_eq
  intro i
  rw [testBit_getField]
  by_cases hi : i < size
  · rw [getLsbD_setField params value hsize (by omega)]
    simp [hi]
  · have hbit : value.testBit i = false :=
      Nat.testBit_lt_two_pow (Nat.lt_of_lt_of_le hvalue (Nat.pow_le_pow_right (by decide) (by omega)))
    simp [hi, hbit]

/-- **The other fields stay as they were.** -/
theorem getField_setField_of_disjoint {offset size place width : ℕ} (params : FeeParams) {value : ℕ}
    (hvalue : value < 2 ^ width) (hwidth : width < 256) (hend : offset + size ≤ 256)
    (hdisjoint : offset + size ≤ place ∨ place + width ≤ offset) :
    getField offset size (setField place width params value) = getField offset size params := by
  apply Nat.eq_of_testBit_eq
  intro i
  rw [testBit_getField, testBit_getField]
  by_cases hi : i < size
  · rw [getLsbD_setField params value hwidth (by omega)]
    rcases hdisjoint with hbelow | habove
    · have hle : ¬place ≤ offset + i := by omega
      simp [hi, hle]
    · have hlt : ¬offset + i - place < width := by omega
      have hbit : value.testBit (offset + i - place) = false :=
        Nat.testBit_lt_two_pow
          (Nat.lt_of_lt_of_le hvalue (Nat.pow_le_pow_right (by decide) (by omega)))
      simp [hi, hlt, hbit]
  · simp [hi]

/-- `FeeParamsLib.checkedWrap`: the two percentages are the only constrained fields. -/
def checkedWrap (value : ℕ) : Except Revert FeeParams := do
  let params : FeeParams := BitVec.ofNat 256 value
  let _ ← percentageCheckedWrap params.gasPriceMargin
  let _ ← percentageCheckedWrap params.gasDropoffMargin
  return params

end FeeParams

/-! ## The fee of a relay -/

def SOLANA_ATA_RENT_LAMPORTS : ℕ := 2039280
def LAMPORTS_PER_SOL : ℕ := 10 ^ 9
def ONE_ETHER : ℕ := 10 ^ 18
def GAS_OVERHEAD : ℕ := 390000
def DROPOFF_GAS_OVERHEAD : ℕ := 32000
def UNISWAP_GAS_OVERHEAD : ℕ := 10000
def UNISWAP_GAS_PER_SWAP : ℕ := 150000
def TRADERJOE_GAS_OVERHEAD : ℕ := 30000
def TRADERJOE_GAS_PER_SWAP : ℕ := 100000

/-- The part of the fee that pays for the gas dropoff. -/
def dropoffFee (feeParams : FeeParams) (gasDropoff : ℕ) : Except Revert ℕ :=
  if gasDropoff > 0 then
    let maxGasDropoff := gasDropoffFrom feeParams.maxGasDropoff
    if gasDropoff > maxGasDropoff then .error (.exceedsMaxGasDropoff gasDropoff maxGasDropoff)
    else .ok (compoundUnchecked feeParams.gasDropoffMargin
      (wrap (gasDropoff * feeParams.gasTokenPrice)) / ONE_ETHER)
  else .ok 0

/-- The gas of the output swap on an EVM chain. -/
def swapGas (targetChain swapCount swapType : ℕ) : Except Revert ℕ :=
  if swapCount ≠ 0 then
    if swapType = SWAP_TYPE_UNISWAPV3 then
      .ok (wrap (UNISWAP_GAS_OVERHEAD + wrap (UNISWAP_GAS_PER_SWAP * swapCount)))
    else if swapType = SWAP_TYPE_TRADERJOE then
      .ok (wrap (TRADERJOE_GAS_OVERHEAD + wrap (TRADERJOE_GAS_PER_SWAP * swapCount)))
    else .error (.invalidSwapTypeForChain targetChain swapType)
  else .ok 0

/-- The part of the fee that pays for the execution on the target chain. -/
def executionFee (feeParams : FeeParams) (targetChain gasDropoff swapCount swapType : ℕ) :
    Except Revert ℕ :=
  if targetChain = SOLANA_CHAIN_ID then
    if swapCount ≠ 0 ∧ swapType ≠ SWAP_TYPE_JUPITERV6 then
      .error (.invalidSwapTypeForChain targetChain swapType)
    else
      .ok (compoundUnchecked feeParams.gasDropoffMargin
        (wrap (SOLANA_ATA_RENT_LAMPORTS * feeParams.gasTokenPrice)) / LAMPORTS_PER_SOL)
  else do
    let gas ← swapGas targetChain swapCount swapType
    let totalGas := wrap (GAS_OVERHEAD + (if gasDropoff > 0 then DROPOFF_GAS_OVERHEAD else 0) + gas)
    return compoundUnchecked feeParams.gasPriceMargin
      (wrap (wrap (totalGas * gasPriceFrom feeParams.gasPrice) * feeParams.gasTokenPrice)) /
      ONE_ETHER

/-- `_calcRelayingFee`. A base fee of `type(uint32).max` disables relaying. -/
def calcRelayingFee (feeParams : FeeParams) (targetChain gasDropoff_ : ℕ)
    (_outputTokenType : IoToken) (swapCount swapType : ℕ) : Except Revert ℕ := do
  ensure (feeParams.baseFee ≠ 2 ^ 32 - 1) .relayingDisabledForChain
  let gasDropoff := gasDropoffFrom gasDropoff_
  let forDropoff ← dropoffFee feeParams gasDropoff
  let forExecution ← executionFee feeParams targetChain gasDropoff swapCount swapType
  return wrap (wrap (feeParams.baseFee + forDropoff) + forExecution)

/-! ## Batched fee updates -/

inductive FeeUpdate
  | gasPrice
  | gasTokenPrice
  | baseFee
  | gasPriceMargin
  | gasDropoffMargin
  | maxGasDropoff
  deriving DecidableEq

/-- `FeeUpdate(update_)`. -/
def FeeUpdate.ofUint8 : ℕ → Except Revert FeeUpdate
  | 0 => .ok .gasPrice
  | 1 => .ok .gasTokenPrice
  | 2 => .ok .baseFee
  | 3 => .ok .gasPriceMargin
  | 4 => .ok .gasDropoffMargin
  | 5 => .ok .maxGasDropoff
  | _ => .error (.panic PANIC_ENUM)

/-- One update of the current parameters, and the offset behind it. -/
def applyFeeUpdate (update : FeeUpdate) (curParams : FeeParams) (updates : Bytes) (offset : ℕ) :
    Except Revert (FeeParams × ℕ) :=
  match update with
  | .gasPrice =>
    let (gasPrice, offset) := asUint32Unchecked updates offset
    .ok (curParams.setGasPrice gasPrice, offset)
  | .gasTokenPrice =>
    let (gasTokenPrice, offset) := asUint64Unchecked updates offset
    .ok (curParams.setGasTokenPrice gasTokenPrice, offset)
  | .baseFee =>
    let (baseFee, offset) := asUint32Unchecked updates offset
    .ok (curParams.setBaseFee baseFee, offset)
  | .gasPriceMargin => do
    let (gasPriceMargin, offset) := asUint16Unchecked updates offset
    let margin ← percentageCheckedWrap gasPriceMargin
    return (curParams.setGasPriceMargin margin, offset)
  | .gasDropoffMargin => do
    let (gasDropoffMargin, offset) := asUint16Unchecked updates offset
    let margin ← percentageCheckedWrap gasDropoffMargin
    return (curParams.setGasDropoffMargin margin, offset)
  | .maxGasDropoff =>
    let (maxGasDropoff, offset) := asUint32Unchecked updates offset
    .ok (curParams.setMaxGasDropoff maxGasDropoff, offset)

/-- `_getFeeParams`. -/
def getFeeParams (chainId : ℕ) : Contract FeeParams := fun w => .ok (w.storage.feeParams chainId, w)

/-- `_setFeeParams`. -/
def setFeeParams (chainId : ℕ) (params : FeeParams) : Contract Unit := fun w =>
  .ok ((), (w.withStorage { w.storage with
    feeParams := Function.update w.storage.feeParams chainId params }).record
      (.feeParamsUpdated chainId params))

/-- Store the parameters edited so far, if there are any. -/
def storeEdited (curChain : ℕ) (curParams : FeeParams) : Contract Unit :=
  if curChain ≠ 0 then setFeeParams curChain curParams else pure ()

/-- The chain and parameters being edited when the next update is for `updateChain`: a change of
chain stores what was edited so far. -/
def switchChain (updateChain curChain : ℕ) (curParams : FeeParams) : Contract (ℕ × FeeParams) :=
  if curChain ≠ updateChain then do
    storeEdited curChain curParams
    let params ← getFeeParams updateChain
    return (updateChain, params)
  else pure (curChain, curParams)

/-- The loop of `_batchFeeUpdates`, and the store after it. -/
def batchFeeUpdatesLoop (updates : Bytes) : ℕ → ℕ → ℕ → FeeParams → Contract Unit
  | 0, _, _, _ => fail .outOfGas
  | fuel + 1, offset, curChain, curParams =>
    if offset < updates.length then do
      let (updateChain, offset) := asUint16Unchecked updates offset
      require (updateChain ≠ 0) .invalidChainId
      let (curChain, curParams) ← switchChain updateChain curChain curParams
      let (update_, offset) := asUint8Unchecked updates offset
      let update ← lift (FeeUpdate.ofUint8 update_)
      let (curParams, offset) ← lift (applyFeeUpdate update curParams updates offset)
      batchFeeUpdatesLoop updates fuel offset curChain curParams
    else do
      lift (checkLength updates offset)
      storeEdited curChain curParams

/-- `_batchFeeUpdates`. -/
def applyBatchFeeUpdates (updates : Bytes) : Contract Unit :=
  batchFeeUpdatesLoop updates (updates.length + 1) 0 0 0

/-! ## Percentages stay within their bounds -/

/-- Both percentages have a mantissa of at most `1e4`. -/
structure FeeParams.Bounded (params : FeeParams) : Prop where
  price : params.gasPriceMargin >>> EXPONENT_BITS ≤ MAX_MANTISSA
  dropoff : params.gasDropoffMargin >>> EXPONENT_BITS ≤ MAX_MANTISSA

theorem percentageCheckedWrap_ok {percentage n : ℕ} : percentageCheckedWrap percentage = .ok n ↔
    n = percentage ∧ percentage >>> EXPONENT_BITS ≤ MAX_MANTISSA := by
  unfold percentageCheckedWrap
  split
  · rename_i hlt
    exact ⟨nofun, fun h => absurd h.2 (Nat.not_le.2 hlt)⟩
  · rename_i hle
    exact ⟨fun h => ⟨(Except.ok.inj h).symm, Nat.le_of_not_lt hle⟩, fun h => congrArg _ h.1.symm⟩

theorem FeeParams.bounded_zero : FeeParams.Bounded 0 := ⟨by decide, by decide⟩

/-- **`checkedWrap`** lets a word through iff its percentages are within their bounds. -/
theorem FeeParams.checkedWrap_ok {value : ℕ} {params : FeeParams} :
    FeeParams.checkedWrap value = .ok params ↔ params = BitVec.ofNat 256 value ∧ params.Bounded := by
  constructor
  · intro h
    obtain ⟨_, hprice, h₁⟩ := except_bind_ok.1 h
    obtain ⟨_, hdropoff, h₂⟩ := except_bind_ok.1 h₁
    cases h₂
    exact ⟨rfl, (percentageCheckedWrap_ok.1 hprice).2, (percentageCheckedWrap_ok.1 hdropoff).2⟩
  · rintro ⟨rfl, hprice, hdropoff⟩
    exact except_bind_ok.2 ⟨_, percentageCheckedWrap_ok.2 ⟨rfl, hprice⟩,
      except_bind_ok.2 ⟨_, percentageCheckedWrap_ok.2 ⟨rfl, hdropoff⟩, rfl⟩⟩

/-! ## What storing fee parameters leaves alone -/

/-- Storage may differ in the fee parameters only, and the holdings not at all. -/
def OnlyFeeParams (w w' : World) : Prop :=
  w'.held = w.held ∧ w'.storage = { w.storage with feeParams := w'.storage.feeParams }

theorem setFeeParams_only (chainId : ℕ) (params : FeeParams) :
    Guarantees OnlyFeeParams (setFeeParams chainId params) := by
  intro w u w' h
  cases h
  exact ⟨rfl, rfl⟩

end SwapLayer.Evm
