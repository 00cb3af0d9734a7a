import SwapLayer.Lib.Lens
import SwapLayer.Lib.Reader
import SwapLayer.Evm.FeeUpdates

/-!
# The fields of a word of fee parameters

`FeeParamsLib` (`evm/src/assets/FeeParams.sol:24-154`) keeps six fields in one word, each with a getter and
a setter of its own, both named after the field. The place of a field is the end of the one below it, so
a wrong width anywhere would move all fields above it.

`getter` and `setter` are the functions of the library, picked by the field. `feeFields` says that a word
is its six fields and the 8 bytes that no field uses.

Results:
* `FeeParams.ext_unused`: a word is determined by its fields and these bytes.
* `FeeParams.fields_independent`: the laws of independent fields, for every word and all values.
-/

namespace SwapLayer.Evm

open ByteString

namespace FeeUpdate

/-- The getter that `FeeParamsLib` has for a field. -/
def getter : FeeUpdate → FeeParams → ℕ
  | baseFee => FeeParams.baseFee
  | gasPrice => FeeParams.gasPrice
  | gasPriceMargin => FeeParams.gasPriceMargin
  | maxGasDropoff => FeeParams.maxGasDropoff
  | gasDropoffMargin => FeeParams.gasDropoffMargin
  | gasTokenPrice => FeeParams.gasTokenPrice

/-- The setter that `FeeParamsLib` has for a field. -/
def setter : FeeUpdate → FeeParams → ℕ → FeeParams
  | baseFee => FeeParams.setBaseFee
  | gasPrice => FeeParams.setGasPrice
  | gasPriceMargin => FeeParams.setGasPriceMargin
  | maxGasDropoff => FeeParams.setMaxGasDropoff
  | gasDropoffMargin => FeeParams.setGasDropoffMargin
  | gasTokenPrice => FeeParams.setGasTokenPrice

theorem getter_eq (field : FeeUpdate) : field.getter = field.get := by
  cases field <;> rfl

theorem setter_eq (field : FeeUpdate) : field.setter = field.set := by
  cases field <;> rfl

/-- A getter returns a value of the width of its field. -/
theorem get_lt (field : FeeUpdate) (params : FeeParams) : field.get params < 256 ^ field.size := by
  have hlt : field.get params < 2 ^ (8 * field.size) := BitVec.isLt _
  rwa [Nat.pow_mul] at hlt

end FeeUpdate

/-! ## A word and its fields -/

/-- The 8 bytes above the fields. -/
def FeeParams.unused (params : FeeParams) : BitVec 64 := params.extractLsb' 192 64

namespace FeeParams

theorem unused_eq_iff {p q : FeeParams} :
    p.unused = q.unused ↔ ∀ j, 192 ≤ j → p.getLsbD j = q.getLsbD j := by
  constructor
  · intro h j hj
    by_cases hlt : j < 256
    · have hbit := congrArg (fun b => BitVec.getLsbD b (j - 192)) h
      have hin : j - 192 < 64 := by omega
      simpa only [unused, BitVec.getLsbD_extractLsb', hin, decide_true, Bool.true_and,
        Nat.add_sub_of_le hj] using hbit
    · rw [BitVec.getLsbD_of_ge _ _ (by omega), BitVec.getLsbD_of_ge _ _ (by omega)]
  · intro h
    refine BitVec.eq_of_getLsbD_eq fun j hj => ?_
    simp only [unused, BitVec.getLsbD_extractLsb', h (192 + j) (Nat.le_add_right _ _)]

/-- **A word is its fields and the unused bytes.** -/
theorem ext_unused {p q : FeeParams} (hfields : ∀ field : FeeUpdate, field.get p = field.get q)
    (hunused : p.unused = q.unused) : p = q :=
  ext_fields hfields (unused_eq_iff.1 hunused)

/-- No setter writes the unused bytes. -/
theorem unused_set {field : FeeUpdate} (params : FeeParams) {value : ℕ}
    (hvalue : value < 256 ^ field.size) : (field.set params value).unused = params.unused :=
  unused_eq_iff.2 fun _ hj => FeeUpdate.getLsbD_set params hvalue hj

end FeeParams

/-- The fields of a word, and the bytes that none of them uses. -/
def feeFields : Fields FeeParams FeeUpdate (BitVec 64) fun field => Uint field.size where
  read field params := ⟨field.get params, field.get_lt params⟩
  write field params value := field.set params value
  rest := FeeParams.unused
  read_write _ params value := Fin.ext (FeeUpdate.get_set params value.isLt)
  read_write_of_ne _ _ params value hne := Fin.ext (FeeUpdate.get_set_of_ne params value.isLt hne)
  rest_write _ params value := params.unused_set value.isLt
  ext _ _ hfields hunused :=
    FeeParams.ext_unused (fun field => Fin.mk.inj (hfields field)) hunused

/-- **The six fields are independent**, for every word and all values of their widths. What is written
to a field is read back, and no other field changes, nor do the unused bytes; writing back what was read
changes nothing; the last of two writes to a field counts; writes to two fields can be swapped. -/
theorem FeeParams.fields_independent (params : FeeParams) (field : FeeUpdate)
    (value : Uint field.size) :
    field.getter (field.setter params value) = value ∧
      (∀ other, other ≠ field → other.getter (field.setter params value) = other.getter params) ∧
      (field.setter params value).unused = params.unused ∧
      field.setter params (field.getter params) = params ∧
      (∀ value' : Uint field.size,
        field.setter (field.setter params value) value' = field.setter params value') ∧
      ∀ other, other ≠ field → ∀ value' : Uint other.size,
        other.setter (field.setter params value) value' =
          field.setter (other.setter params value') value := by
  simp only [FeeUpdate.getter_eq, FeeUpdate.setter_eq]
  have hindependent {other : FeeUpdate} (hne : other ≠ field) :
      (feeFields.lens field).Independent (feeFields.lens other) := feeFields.independent hne.symm
  refine ⟨?_, fun other hne => ?_, params.unused_set value.isLt, (feeFields.lens field).set_get params,
    fun value' => (feeFields.lens field).set_set params value value',
    fun other hne value' => hindependent hne params value value'⟩
  · exact Fin.mk.inj ((feeFields.lens field).get_set params value)
  · exact Fin.mk.inj ((hindependent hne).get_set params value)

end SwapLayer.Evm
