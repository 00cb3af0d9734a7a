import SwapLayer.Lib.Bytes

/-!
# Decoding of the ABI

What `abi.decode` of Solidity takes from a byte string in memory. A static value is a word of 32 bytes,
which has to be in the range of its type; the word of a byte string says where its length and its bytes
stand. A string that is longer than that is fine.

`none` stands for a revert.

Results:
* `uint_holds`, `address_holds`, `bytes32_holds`, `bytes_holds`: what was encoded is decoded, whatever
  follows it.
* `words_uint`: the same for a row of words.
-/

namespace Abi

open ByteString

section Definitions

variable (data : List UInt8) (i : ℕ)

/-- The word at position `i`. -/
def word : Option ℕ := if 32 * i + 32 ≤ data.length then some (readBE 32 data (32 * i)) else none

/-- An integer of `n` bytes. -/
def uint (n : ℕ) : Option ℕ := (word data i).filter fun v => v < 256 ^ n

/-- `bytes32`. -/
def bytes32 : Option (Fixed 32) := (word data i).map fun _ => sliceFixed 32 data (32 * i)

/-- `address`: 20 bytes at the end of a word. -/
def address : Option (Fixed 20) := (uint data i 20).map fun _ => sliceFixed 20 data (32 * i + 12)

/-- `bytes`: behind the offset in the word. -/
def bytes : Option (List UInt8) := do
  let offset ← uint data i 8
  let length := readBE 32 data offset
  if offset + 31 < data.length ∧ length < 256 ^ 8 ∧ offset + 32 + length ≤ data.length then
    return slice data (offset + 32) length
  else none

end Definitions

section Specs

variable {data : List UInt8} {i n v : ℕ}

theorem word_holds (hv : v < 256 ^ 32) (h : Holds data (32 * i) (toBE 32 v)) : word data i = some v := by
  have hle := h.le
  rw [length_toBE] at hle
  rw [word, if_pos hle, h.readBE hv]

theorem uint_holds (hn : n ≤ 32) (hv : v < 256 ^ n) (h : Holds data (32 * i) (toBE 32 v)) :
    uint data i n = some v := by
  have hlt : v < 256 ^ 32 := Nat.lt_of_lt_of_le hv (Nat.pow_le_pow_right (by decide) hn)
  rw [uint, word_holds hlt h, Option.filter_some, if_pos (decide_eq_true hv)]

/-- The words of a row. -/
theorem words_holds {vs : List ℕ} (h : vs[i]? = some v) :
    Holds (vs.flatMap (toBE 32)) (32 * i) (toBE 32 v) := by
  obtain ⟨hlt, rfl⟩ := List.getElem?_eq_some_iff.1 h
  have hsplit : vs = vs.take i ++ vs[i] :: vs.drop (i + 1) := by
    rw [← List.drop_eq_getElem_cons hlt, List.take_append_drop]
  have hlength : ((vs.take i).flatMap (toBE 32)).length = 32 * i := by
    rw [length_flatMap_const (length_toBE 32), List.length_take_of_le (Nat.le_of_lt hlt), Nat.mul_comm]
  refine ⟨(vs.take i).flatMap (toBE 32), (vs.drop (i + 1)).flatMap (toBE 32), ?_, hlength⟩
  conv_lhs => rw [hsplit]
  rw [List.flatMap_append, List.flatMap_cons]

theorem words_uint {vs : List ℕ} (h : vs[i]? = some v) (hn : n ≤ 32) (hv : v < 256 ^ n) :
    uint (vs.flatMap (toBE 32)) i n = some v := uint_holds hn hv (words_holds h)

theorem bytes32_holds {b : Fixed 32} (h : Holds data (32 * i) b.toList) : bytes32 data i = some b := by
  have hle := h.le
  rw [b.toList_length] at hle
  rw [bytes32, word, if_pos hle]
  exact congrArg some h.sliceFixed

/-- An address is decoded from a word that is zero but for it. -/
theorem address_holds {a : Fixed 20} (h : Holds data (32 * i) (List.replicate 12 0 ++ a.toList)) :
    address data i = some a := by
  have hlength : (List.replicate 12 (0 : UInt8) ++ a.toList).length = 32 := by
    rw [List.length_append, List.length_replicate, a.toList_length]
  have hword : toBE 32 (ofBE a.toList) = List.replicate 12 0 ++ a.toList := by
    have := toBE_ofBE (List.replicate 12 (0 : UInt8) ++ a.toList)
    rwa [hlength, ofBE_append, ofBE_replicate_zero, Nat.zero_mul, Nat.zero_add] at this
  have hlt : ofBE a.toList < 256 ^ 20 := by
    have := ofBE_lt a.toList
    rwa [a.toList_length] at this
  rw [address, uint_holds (by decide) hlt (hword ▸ h)]
  exact congrArg some (h.rest List.length_replicate).sliceFixed

/-- **A byte string** is found where its offset says. -/
theorem bytes_holds {offset : ℕ} {bs : List UInt8} (hoffset : offset < 256 ^ 8)
    (hlength : bs.length < 256 ^ 8) (h : Holds data (32 * i) (toBE 32 offset))
    (hbytes : Holds data offset (toBE 32 bs.length ++ bs)) : bytes data i = some bs := by
  have hend := hbytes.le
  rw [List.length_append, length_toBE] at hend
  have hlt : bs.length < 256 ^ 32 := Nat.lt_trans hlength (by decide)
  have hread : readBE 32 data offset = bs.length := hbytes.left.readBE hlt
  have hword := uint_holds (by decide) hoffset h
  rw [bytes, hword]
  show (if offset + 31 < data.length ∧ readBE 32 data offset < 256 ^ 8 ∧
      offset + 32 + readBE 32 data offset ≤ data.length then
    some (slice data (offset + 32) (readBE 32 data offset)) else none) = some bs
  rw [hread, if_pos ⟨by omega, hlength, by omega⟩]
  exact congrArg some (hbytes.rest (length_toBE ..)).slice

end Specs

end Abi
