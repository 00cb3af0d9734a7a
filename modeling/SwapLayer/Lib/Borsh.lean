import SwapLayer.Lib.Bytes
import SwapLayer.Lib.Reader

/-!
# Borsh

What Borsh writes for integers, flags, optional values and vectors, how many bytes that takes, and the
readers of it. A record is its fields in a row.

`Within write n` says that no value takes more than `n` bytes. The bound of a record is the sum of
those of its fields (`Within.append`), which is how the space of an account of fixed size is counted.

Results:
* `length_uint`, `length_bool`, `length_vec`: what has one size, or a size that depends on a length.
* `Within.option`, `Within.append`: the largest size of optional values and of records.
* `readUint_exact`, `readBool_exact`, `readVec_exact`: what was written is read back, and nothing else is.
-/

namespace Borsh

open ByteString

variable {α β : Type}

/-- An integer of `n` bytes, least significant byte first. -/
def uint (n v : ℕ) : List UInt8 := (toBE n v).reverse

def bool (b : Bool) : List UInt8 := [if b then 1 else 0]

/-- A flag, and the value if there is one. -/
def option (write : α → List UInt8) : Option α → List UInt8
  | none => [0]
  | some a => 1 :: write a

/-- `Vec<u8>`: the length in 4 bytes, and the data. -/
def vec (bs : List UInt8) : List UInt8 := uint 4 bs.length ++ bs

theorem length_uint (n v : ℕ) : (uint n v).length = n := by
  rw [uint, List.length_reverse, length_toBE]

theorem length_bool (b : Bool) : (bool b).length = 1 := rfl

theorem length_vec (bs : List UInt8) : (vec bs).length = bs.length + 4 := by
  rw [vec, List.length_append, length_uint, Nat.add_comm]

/-! ## The largest size -/

/-- No value takes more than `n` bytes. -/
def Within (write : α → List UInt8) (n : ℕ) : Prop := ∀ a, (write a).length ≤ n

namespace Within

variable {write write' : α → List UInt8} {m n : ℕ}

theorem of_length (h : ∀ a, (write a).length = n) : Within write n := fun a => Nat.le_of_eq (h a)

/-- One field of a record. -/
theorem field {read : β → α} (h : Within write n) : Within (fun b => write (read b)) n :=
  fun b => h (read b)

theorem append (h : Within write m) (h' : Within write' n) :
    Within (fun a => write a ++ write' a) (m + n) := by
  intro a
  rw [List.length_append]
  exact Nat.add_le_add (h a) (h' a)

theorem option (h : Within write n) : Within (option write) (1 + n) := by
  intro a
  cases a with
  | none => exact Nat.le_add_right 1 n
  | some a =>
    rw [Borsh.option, List.length_cons, Nat.add_comm]
    exact Nat.add_le_add_left (h a) 1

end Within

/-! ## Reading -/

section Reading

open Program

/-- A vector whose length fits in 4 bytes. -/
abbrev Vec (α : Type) := {as : List α // as.length < 256 ^ 4}

/-- A vector of values: the length, and one after the other. -/
def seq (write : α → List UInt8) (as : Vec α) : List UInt8 :=
  uint 4 as.val.length ++ as.val.flatMap write

def readUint (n : ℕ) : Reader (Uint n) := do
  let bytes ← readExact n
  return ⟨ofBE bytes.toList.reverse, by simpa using ofBE_lt bytes.toList.reverse⟩

/-- As many values as the length says. They are no more than a length can say. -/
def readVec (read : Reader α) : Reader (Vec α) := do
  let length ← readUint 4
  let as ← readMany read length
  if h : as.length < 256 ^ 4 then pure ⟨as, h⟩ else fail .invalidInput

theorem readUint_exact (n : ℕ) : Exact (readUint n) fun v => uint n v := by
  intro bs v rest
  simp only [readUint, bind_ok, pure_ok, readExact_exact n _ _ _]
  constructor
  · rintro ⟨bytes, _, rfl, rfl, rfl⟩
    have h := toBE_ofBE bytes.toList.reverse
    rw [List.length_reverse, List.Vector.toList_length] at h
    rw [uint, h, List.reverse_reverse]
  · rintro rfl
    refine ⟨⟨uint n v, length_uint n v⟩, rest, rfl, Fin.ext ?_, rfl⟩
    show v.val = ofBE (uint n v).reverse
    rw [uint, List.reverse_reverse, ofBE_toBE_of_lt v.isLt]

theorem readBool_exact : Exact readBool bool := by
  intro bs b rest
  rw [ByteString.readBool_exact bs b rest]
  cases b <;> exact Iff.rfl

/-- A vector of values that are read back one by one is read back. -/
theorem readVec_seq {read : Reader α} {write : α → List UInt8} {as : Vec α}
    (h : ∀ a ∈ as.val, ∀ rest, read (write a ++ rest) = .ok (a, rest)) (rest : List UInt8) :
    readVec read (seq write as ++ rest) = .ok (as, rest) := by
  refine bind_ok.2 ⟨⟨as.val.length, as.property⟩, as.val.flatMap write ++ rest, ?_, ?_⟩
  · exact (readUint_exact 4 _ _ _).2 (List.append_assoc _ _ _)
  · refine bind_ok.2 ⟨as.val, rest, readMany_flatMap h rest, ?_⟩
    rw [dif_pos as.property]
    rfl

theorem readVec_exact {read : Reader α} {write : α → List UInt8} (h : Exact read write) :
    Exact (readVec read) (seq write) := by
  intro bs as rest
  simp only [readVec, bind_ok, readUint_exact 4 _ _ _, readMany_ok h]
  constructor
  · rintro ⟨length, _, rfl, as', _, ⟨hlen, rfl⟩, hret⟩
    have hlt : as'.length < 256 ^ 4 := hlen ▸ length.isLt
    rw [dif_pos hlt] at hret
    obtain ⟨rfl, rfl⟩ := pure_ok.1 hret
    rw [seq, hlen, List.append_assoc]
  · rintro rfl
    have hback := readVec_seq (fun a (_ : a ∈ as.val) rest => (h (write a ++ rest) a rest).2 rfl) rest
    simpa only [readVec, bind_ok, readUint_exact 4 _ _ _, readMany_ok h] using hback

end Reading

end Borsh
