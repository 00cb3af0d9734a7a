import SwapLayer.Lib.Reader

/-!
# The 3-byte and 6-byte integers

Model of `messages/src/types/uint.rs`. `Uint24` and `Uint48` take their bytes apart and together in a
`u64`: `from_be_bytes` shifts each byte to its place and adds it with `u64::saturating_add`, and
`Uint::from` panics on a sum that does not fit. `to_be_bytes` is that of `ruint` (outside the tree).

Results:
* `addBeBytes_eq`: no shift loses a bit and no addition saturates, so the sum is the big-endian value.
* `fromBeBytes_lt`: `Uint::from` does not panic.
* `Uint24.read_exact`, `Uint48.read_exact`: the readers take off exactly what is written.
-/

namespace SwapLayer.Messages

open ByteString Program

/-- `u64::saturating_add`. -/
def saturatingAdd (a b : ℕ) : ℕ := min (a + b) (2 ^ 64 - 1)

/-- `u64::from(byte) << bits`. -/
def shiftByte (byte : UInt8) (bits : ℕ) : ℕ := byte.toNat <<< bits % 2 ^ 64

/-- The loop of `from_be_bytes` from index `i` on. -/
def addBeBytes (lastIndex : ℕ) : ℕ → ℕ → List UInt8 → ℕ
  | _, out, [] => out
  | i, out, byte :: bytes =>
    addBeBytes lastIndex (i + 1) (saturatingAdd out (shiftByte byte (8 * (lastIndex - i)))) bytes

def fromBeBytes {n : ℕ} (bytes : Fixed n) : ℕ := addBeBytes (n - 1) 0 0 bytes.toList

theorem saturatingAdd_of_lt {a b : ℕ} (h : a + b < 2 ^ 64) : saturatingAdd a b = a + b := by
  unfold saturatingAdd
  omega

theorem shiftByte_of_le {byte : UInt8} {k : ℕ} (h : k ≤ 7) :
    shiftByte byte (8 * k) = byte.toNat * 256 ^ k := by
  have hpow : 2 ^ (8 * k) = 256 ^ k := by rw [Nat.pow_mul]
  have hle : 256 ^ k ≤ 256 ^ 7 := Nat.pow_le_pow_right (by decide) h
  have hmul : byte.toNat * 256 ^ k ≤ 255 * 256 ^ 7 :=
    Nat.mul_le_mul (Nat.le_of_lt_succ byte.toNat_lt) hle
  rw [shiftByte, Nat.shiftLeft_eq, hpow, Nat.mod_eq_of_lt (by omega)]

/-- **The loop adds up the big-endian value**, as long as it fits into eight bytes. -/
theorem addBeBytes_eq {bytes : List UInt8} {lastIndex i out : ℕ}
    (hi : i + bytes.length = lastIndex + 1) (hlen : bytes.length ≤ 8)
    (hout : out + 256 ^ bytes.length ≤ 2 ^ 64) :
    addBeBytes lastIndex i out bytes = out + ofBE bytes := by
  induction bytes generalizing i out with
  | nil => simp [addBeBytes]
  | cons byte bytes ih =>
    simp only [List.length_cons] at hi hlen hout
    have hplace : lastIndex - i = bytes.length := by omega
    have hbyte : byte.toNat * 256 ^ bytes.length + 256 ^ bytes.length ≤ 256 ^ (bytes.length + 1) := by
      rw [← Nat.succ_mul, Nat.pow_succ']
      exact Nat.mul_le_mul_right _ byte.toNat_lt
    have hpos : 0 < 256 ^ bytes.length := Nat.pow_pos (by decide)
    unfold addBeBytes
    rw [hplace, shiftByte_of_le (by omega), saturatingAdd_of_lt (by omega), ih (by omega) (by omega)
      (by omega), ofBE_cons, Nat.add_assoc]

theorem fromBeBytes_eq {n : ℕ} (h : 0 < n) (h8 : n < 8) (bytes : Fixed n) :
    fromBeBytes bytes = ofBE bytes.toList := by
  have hpow : 256 ^ n ≤ 256 ^ 8 := Nat.pow_le_pow_right (by decide) (Nat.le_of_lt h8)
  have hlen : bytes.toList.length = n := bytes.toList_length
  rw [fromBeBytes, addBeBytes_eq (by omega) (by omega) (by rw [hlen]; omega), Nat.zero_add]

/-- **`Uint::from` does not panic**: the sum fits into the width. -/
theorem fromBeBytes_lt {n : ℕ} (h : 0 < n) (h8 : n < 8) (bytes : Fixed n) :
    fromBeBytes bytes < 256 ^ n := by
  simpa [fromBeBytes_eq h h8] using ofBE_lt bytes.toList

def Uint24.read : Reader (Uint 3) := do
  let bytes ← readExact 3
  return ⟨fromBeBytes bytes, fromBeBytes_lt (by decide) (by decide) bytes⟩

def Uint48.read : Reader (Uint 6) := do
  let bytes ← readExact 6
  return ⟨fromBeBytes bytes, fromBeBytes_lt (by decide) (by decide) bytes⟩

theorem Uint24.read_eq : Uint24.read = readUint 3 := by
  simp only [Uint24.read, readUint, fromBeBytes_eq (n := 3) (by decide) (by decide)]

theorem Uint48.read_eq : Uint48.read = readUint 6 := by
  simp only [Uint48.read, readUint, fromBeBytes_eq (n := 6) (by decide) (by decide)]

theorem Uint24.read_exact : Exact Uint24.read writeUint := by
  rw [Uint24.read_eq]
  exact readUint_exact 3

theorem Uint48.read_exact : Exact Uint48.read writeUint := by
  rw [Uint48.read_eq]
  exact readUint_exact 6

end SwapLayer.Messages
