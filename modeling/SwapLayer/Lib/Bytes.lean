import Mathlib.Data.List.GetD
import Mathlib.Data.Nat.Digits.Defs
import Mathlib.Data.Vector.Basic
import Mathlib.Tactic.Ring

/-!
# Byte strings: big-endian integers and zero-extended slices

A byte string is a `List UInt8`. Two ways of reading one are developed here, over arbitrary
widths and offsets.

* `ofBE` is the value of a byte string read big-endian, `toBE n v` the `n` lowest bytes of `v`.
  They are inverse to each other up to the width (`ofBE_toBE`, `toBE_ofBE`).
* `slice bs off n` is the `n` bytes of `bs` from `off` on. A read that runs past the end of `bs`
  sees zeros there, so a slice always has the length asked for. `readBE n bs off` is the integer
  such a slice holds.

Results:
* `ofBE_lt`, `readBE_lt`: a width bounds the value read.
* `slice_add`, `slice_append_right`, `slice_append_left`, `slice_slice`: how slices compose with
  concatenation, with each other and with prefixes.
* `slice_of_drop_eq`: two strings with the same tail have the same slices of it.
* `lt_length_of_readBE_ne_zero`: a nonzero byte was not read past the end.
* `slice_append_drop`: a slice in range and the rest rebuild the tail they came from.

`Holds bs off xs` says that `xs` stands in `bs` at `off`. What a writer has put together is taken
apart by `Holds.left` and `Holds.right`, and each piece is read back by `Holds.readBE`,
`Holds.slice` and `Holds.sliceFixed`.

`Ends bs off xs` says that `xs` is all that is left of `bs` at `off`. It is the invariant of a loop
that consumes a string: `Ends.head` and `Ends.rest` take off one piece, `Ends.slice_append` and
`Ends.toBE_append` put one back.
-/

namespace ByteString

/-- A string of exactly `n` bytes. -/
abbrev Fixed (n : ℕ) := List.Vector UInt8 n

/-- Pieces of one length in a row. -/
theorem length_flatMap_const {α : Type} {write : α → List UInt8} {k : ℕ}
    (hwrite : ∀ a, (write a).length = k) (as : List α) :
    (as.flatMap write).length = as.length * k := by
  induction as with
  | nil => rw [List.flatMap_nil, List.length_nil, List.length_nil, Nat.zero_mul]
  | cons a as ih =>
    rw [List.flatMap_cons, List.length_append, hwrite, ih, List.length_cons, Nat.succ_mul,
      Nat.add_comm]

/-! ## Big-endian integers -/

/-- The value of a byte string, most significant byte first. -/
def ofBE (bs : List UInt8) : ℕ := Nat.ofDigits 256 (bs.reverse.map UInt8.toNat)

/-- The `n` lowest bytes of `v`, most significant byte first. -/
def toBE : ℕ → ℕ → List UInt8
  | 0, _ => []
  | n + 1, v => UInt8.ofNat (v / 256 ^ n) :: toBE n v

@[simp] theorem ofBE_nil : ofBE [] = 0 := rfl

theorem ofBE_append (xs ys : List UInt8) :
    ofBE (xs ++ ys) = ofBE xs * 256 ^ ys.length + ofBE ys := by
  simp only [ofBE, List.reverse_append, List.map_append, Nat.ofDigits_append, List.length_map,
    List.length_reverse]
  ring

theorem ofBE_singleton (b : UInt8) : ofBE [b] = b.toNat := by
  simp [ofBE]

theorem ofBE_cons (b : UInt8) (bs : List UInt8) :
    ofBE (b :: bs) = b.toNat * 256 ^ bs.length + ofBE bs := by
  rw [← List.singleton_append, ofBE_append, ofBE_singleton]

/-- **A string of `n` bytes is below `256 ^ n`.** -/
theorem ofBE_lt (bs : List UInt8) : ofBE bs < 256 ^ bs.length := by
  have h : Nat.ofDigits 256 (bs.reverse.map UInt8.toNat) <
      256 ^ (bs.reverse.map UInt8.toNat).length := by
    refine Nat.ofDigits_lt_base_pow_length (by decide) fun x hx => ?_
    obtain ⟨b, -, rfl⟩ := List.mem_map.1 hx
    exact b.toNat_lt
  simpa [ofBE] using h

theorem ofBE_replicate_zero (n : ℕ) : ofBE (List.replicate n 0) = 0 := by
  simp [ofBE, Nat.ofDigits_replicate_zero]

@[simp] theorem length_toBE (n v : ℕ) : (toBE n v).length = n := by
  induction n with
  | zero => rfl
  | succ n ih => simp [toBE, ih]

/-- **Writing then reading** keeps the value modulo the width. -/
theorem ofBE_toBE (n v : ℕ) : ofBE (toBE n v) = v % 256 ^ n := by
  induction n with
  | zero => simp [toBE, Nat.mod_one]
  | succ n ih =>
    rw [toBE, ofBE_cons, ih, length_toBE, Nat.mod_pow_succ, UInt8.toNat_ofNat']
    ring

theorem ofBE_toBE_of_lt {n v : ℕ} (h : v < 256 ^ n) : ofBE (toBE n v) = v := by
  rw [ofBE_toBE, Nat.mod_eq_of_lt h]

/-- Bytes above the width do not change what is written. -/
theorem toBE_add_mul (n v k : ℕ) : toBE n (k * 256 ^ n + v) = toBE n v := by
  induction n generalizing k with
  | zero => rfl
  | succ n ih =>
    have hsplit : k * 256 ^ (n + 1) + v = k * 256 * 256 ^ n + v := by ring
    rw [toBE, toBE, hsplit, ih, Nat.add_comm, Nat.add_mul_div_right _ _ (by positivity)]
    congr 1
    apply UInt8.toNat_inj.1
    rw [UInt8.toNat_ofNat', UInt8.toNat_ofNat']
    omega

/-- **Reading then writing** at the same width gives the string back. -/
theorem toBE_ofBE (bs : List UInt8) : toBE bs.length (ofBE bs) = bs := by
  induction bs with
  | nil => rfl
  | cons b bs ih =>
    have hdiv : (b.toNat * 256 ^ bs.length + ofBE bs) / 256 ^ bs.length = b.toNat := by
      rw [Nat.add_comm, Nat.add_mul_div_right _ _ (by positivity),
        Nat.div_eq_of_lt (ofBE_lt bs), Nat.zero_add]
    rw [List.length_cons, toBE, ofBE_cons, hdiv, toBE_add_mul, ih, UInt8.ofNat_toNat]

theorem toBE_mod (n v : ℕ) : toBE n (v % 256 ^ n) = toBE n v := by
  have := toBE_ofBE (toBE n v)
  rwa [length_toBE, ofBE_toBE] at this

/-- **Two numbers packed into one** are written one behind the other. -/
theorem toBE_pack {m n a b : ℕ} (ha : a < 256 ^ m) (hb : b < 256 ^ n) :
    toBE (m + n) (a * 256 ^ n + b) = toBE m a ++ toBE n b := by
  have := toBE_ofBE (toBE m a ++ toBE n b)
  rwa [List.length_append, length_toBE, length_toBE, ofBE_append, length_toBE, ofBE_toBE_of_lt ha,
    ofBE_toBE_of_lt hb] at this

theorem toBE_pack_three {m n k a b c : ℕ} (ha : a < 256 ^ m) (hb : b < 256 ^ n) (hc : c < 256 ^ k) :
    toBE (m + n + k) ((a * 256 ^ n + b) * 256 ^ k + c) = toBE m a ++ (toBE n b ++ toBE k c) := by
  have hab : a * 256 ^ n + b < 256 ^ (m + n) := by
    calc a * 256 ^ n + b < (a + 1) * 256 ^ n := by rw [Nat.succ_mul]; omega
      _ ≤ 256 ^ m * 256 ^ n := Nat.mul_le_mul_right _ ha
      _ = 256 ^ (m + n) := (Nat.pow_add ..).symm
  rw [toBE_pack hab hc, toBE_pack ha hb, List.append_assoc]

/-- **A part of a string**, cut out of the number that the string holds. -/
theorem ofBE_middle (xs ys zs : List UInt8) :
    ofBE (xs ++ (ys ++ zs)) / 256 ^ zs.length % 256 ^ ys.length = ofBE ys := by
  have hnumber : ofBE (xs ++ (ys ++ zs)) =
      ofBE zs + (ofBE xs * 256 ^ ys.length + ofBE ys) * 256 ^ zs.length := by
    rw [ofBE_append, ofBE_append, List.length_append, Nat.pow_add]
    ring
  rw [hnumber, Nat.add_mul_div_right _ _ (by positivity), Nat.div_eq_of_lt (ofBE_lt zs), Nat.zero_add,
    Nat.add_comm, Nat.add_mul_mod_self_right, Nat.mod_eq_of_lt (ofBE_lt ys)]

/-! ## Slices that read zeros past the end -/

/-- The `n` bytes from `off` on; positions past the end of `bs` hold zeros. -/
def slice (bs : List UInt8) (off n : ℕ) : List UInt8 :=
  (List.range n).map fun i => bs.getD (off + i) 0

/-- The big-endian integer in the `n` bytes from `off` on. -/
def readBE (n : ℕ) (bs : List UInt8) (off : ℕ) : ℕ := ofBE (slice bs off n)

@[simp] theorem length_slice (bs : List UInt8) (off n : ℕ) : (slice bs off n).length = n := by
  simp [slice]

theorem getD_slice {bs : List UInt8} {off n i : ℕ} (h : i < n) :
    (slice bs off n).getD i 0 = bs.getD (off + i) 0 := by
  simp [slice, List.getD_eq_getElem?_getD, h]

@[simp] theorem slice_zero (bs : List UInt8) (off : ℕ) : slice bs off 0 = [] := rfl

/-- The slice at `off` as a fixed-width string. -/
def sliceFixed (n : ℕ) (bs : List UInt8) (off : ℕ) : Fixed n := ⟨slice bs off n, length_slice ..⟩

theorem readBE_lt (n : ℕ) (bs : List UInt8) (off : ℕ) : readBE n bs off < 256 ^ n := by
  simpa only [readBE, length_slice] using ofBE_lt (slice bs off n)

/-- An integer that was read is written as the bytes it came from. -/
theorem toBE_readBE (n : ℕ) (bs : List UInt8) (off : ℕ) :
    toBE n (readBE n bs off) = slice bs off n := by
  have := toBE_ofBE (slice bs off n)
  rwa [length_slice] at this

/-- Two strings that agree on the positions of a slice have the same slice. -/
theorem slice_congr {bs cs : List UInt8} {o p n : ℕ}
    (h : ∀ i < n, bs.getD (o + i) 0 = cs.getD (p + i) 0) : slice bs o n = slice cs p n :=
  List.map_congr_left fun i hi => h i (List.mem_range.1 hi)

/-- **Adjacent slices concatenate.** -/
theorem slice_add (bs : List UInt8) (off m n : ℕ) :
    slice bs off (m + n) = slice bs off m ++ slice bs (off + m) n := by
  simp [slice, List.range_add, Nat.add_assoc]

/-- **A run of equal slices** is one slice. -/
theorem slice_mul (bs : List UInt8) (off n k : ℕ) :
    slice bs off (k * n) = (List.range k).flatMap fun i => slice bs (off + i * n) n := by
  induction k with
  | zero => simp
  | succ k ih => simp [Nat.succ_mul, slice_add, List.range_succ, ih]

theorem getD_append_add (xs ys : List UInt8) (k : ℕ) :
    (xs ++ ys).getD (xs.length + k) 0 = ys.getD k 0 := by
  rw [List.getD_append_right _ _ _ _ (by omega)]
  congr 1
  omega

/-- A slice that starts behind a prefix is a slice of the rest. -/
theorem slice_append_right (xs ys : List UInt8) (k n : ℕ) :
    slice (xs ++ ys) (xs.length + k) n = slice ys k n :=
  slice_congr fun i _ => by rw [Nat.add_assoc, getD_append_add]

/-- A slice that ends inside a prefix is a slice of it. -/
theorem slice_append_left {xs : List UInt8} {off n : ℕ} (h : off + n ≤ xs.length)
    (ys : List UInt8) : slice (xs ++ ys) off n = slice xs off n :=
  slice_congr fun i hi => List.getD_append _ _ _ _ (by omega)

@[simp] theorem slice_self (bs : List UInt8) : slice bs 0 bs.length = bs := by
  refine List.ext_getElem (by simp) fun i h₁ h₂ => ?_
  simp [slice, List.getD_eq_getElem?_getD, h₂]

/-- The first bytes of a concatenation. -/
theorem slice_head (xs ys : List UInt8) : slice (xs ++ ys) 0 xs.length = xs := by
  rw [slice_append_left (by omega), slice_self]

/-- The bytes behind a prefix, up to where `ys` ends. -/
theorem slice_middle (xs ys zs : List UInt8) :
    slice (xs ++ (ys ++ zs)) xs.length ys.length = ys := by
  simpa [slice_head] using slice_append_right xs (ys ++ zs) 0 ys.length

/-- A slice of a slice. -/
theorem slice_slice {bs : List UInt8} {off n k m : ℕ} (h : k + m ≤ n) :
    slice (slice bs off n) k m = slice bs (off + k) m :=
  slice_congr fun i hi => by rw [getD_slice (by omega), Nat.add_assoc]

theorem getD_drop (bs : List UInt8) (o i : ℕ) : (bs.drop o).getD i 0 = bs.getD (o + i) 0 := by
  simp [List.getD_eq_getElem?_getD, List.getElem?_drop]

/-- The slices of a tail only depend on the tail. -/
theorem slice_drop (bs : List UInt8) (o k n : ℕ) : slice (bs.drop o) k n = slice bs (o + k) n :=
  slice_congr fun i _ => by rw [getD_drop, Nat.add_assoc]

/-- **Strings with a common tail** have the same slices of it. -/
theorem slice_of_drop_eq {bs cs : List UInt8} {o p : ℕ} (h : bs.drop o = cs.drop p) (k n : ℕ) :
    slice bs (o + k) n = slice cs (p + k) n := by
  rw [← slice_drop, h, slice_drop]

theorem readBE_of_drop_eq {bs cs : List UInt8} {o p : ℕ} (h : bs.drop o = cs.drop p) (n k : ℕ) :
    readBE n bs (o + k) = readBE n cs (p + k) := by
  rw [readBE, slice_of_drop_eq h, readBE]

/-! ## Slices in range -/

/-- In range, a slice is what `take` and `drop` cut out. -/
theorem slice_eq_take_drop {bs : List UInt8} {off n : ℕ} (h : off + n ≤ bs.length) :
    slice bs off n = (bs.drop off).take n := by
  refine List.ext_getElem (by simp; omega) fun i h₁ h₂ => ?_
  have hi : off + i < bs.length := by
    simp at h₁
    omega
  simp [slice, List.getD_eq_getElem?_getD, hi]

/-- **A slice in range and the tail behind it** rebuild the tail it starts. -/
theorem slice_append_drop {bs : List UInt8} {off n : ℕ} (h : off + n ≤ bs.length) :
    slice bs off n ++ bs.drop (off + n) = bs.drop off := by
  rw [slice_eq_take_drop h, ← List.drop_drop, List.take_append_drop]

/-- A slice up to the end is the tail. -/
theorem slice_to_end {bs : List UInt8} {off n : ℕ} (h : off + n = bs.length) :
    slice bs off n = bs.drop off := by
  have := slice_append_drop (Nat.le_of_eq h)
  rwa [h, List.drop_length, List.append_nil] at this

theorem slice_past_end {bs : List UInt8} {off : ℕ} (h : bs.length ≤ off) (n : ℕ) :
    slice bs off n = List.replicate n 0 := by
  refine List.eq_replicate_iff.2 ⟨length_slice .., fun b hb => ?_⟩
  obtain ⟨i, -, rfl⟩ := List.mem_map.1 hb
  exact List.getD_eq_default _ _ (by omega)

/-- **A nonzero byte lies in the string**: past the end every read gives zero. -/
theorem lt_length_of_readBE_ne_zero {n : ℕ} {bs : List UInt8} {off : ℕ}
    (h : readBE n bs off ≠ 0) : off < bs.length := by
  by_contra hoff
  rw [readBE, slice_past_end (by omega), ofBE_replicate_zero] at h
  exact h rfl

/-- A number in the first part of a concatenation. -/
theorem readBE_append_left {n : ℕ} {xs : List UInt8} {off : ℕ} (h : off + n ≤ xs.length)
    (ys : List UInt8) : readBE n (xs ++ ys) off = readBE n xs off := by
  rw [readBE, slice_append_left h, readBE]

theorem readBE_append_right (n : ℕ) (xs ys : List UInt8) (k : ℕ) :
    readBE n (xs ++ ys) (xs.length + k) = readBE n ys k := by
  rw [readBE, slice_append_right, readBE]

theorem readBE_head (xs ys : List UInt8) : readBE xs.length (xs ++ ys) 0 = ofBE xs := by
  rw [readBE, slice_head]

/-- An integer written at the head of a string is read back. -/
theorem readBE_toBE {n v : ℕ} (h : v < 256 ^ n) (ys : List UInt8) :
    readBE n (toBE n v ++ ys) 0 = v := by
  have := readBE_head (toBE n v) ys
  rwa [length_toBE, ofBE_toBE_of_lt h] at this

/-! ## Strings inside a string -/

/-- `xs` stands in `bs` from `off` on. -/
def Holds (bs : List UInt8) (off : ℕ) (xs : List UInt8) : Prop :=
  ∃ pre post, bs = pre ++ (xs ++ post) ∧ pre.length = off

theorem holds_self (bs : List UInt8) : Holds bs 0 bs := ⟨[], [], by simp, rfl⟩

theorem holds_of_eq {bs xs : List UInt8} (h : bs = xs) : Holds bs 0 xs := h ▸ holds_self bs

namespace Holds

variable {bs xs ys : List UInt8} {off k n v : ℕ}

theorem left (h : Holds bs off (xs ++ ys)) : Holds bs off xs := by
  obtain ⟨pre, post, rfl, hpre⟩ := h
  exact ⟨pre, ys ++ post, by simp, hpre⟩

theorem right (h : Holds bs off (xs ++ ys)) : Holds bs (off + xs.length) ys := by
  obtain ⟨pre, post, rfl, rfl⟩ := h
  exact ⟨pre ++ xs, post, by simp, by simp⟩

/-- The rest behind a first part of known length. -/
theorem rest (h : Holds bs off (xs ++ ys)) (hlen : xs.length = n) : Holds bs (off + n) ys :=
  hlen ▸ h.right

theorem trans (h : Holds bs off xs) (h' : Holds xs k ys) : Holds bs (off + k) ys := by
  obtain ⟨pre, post, rfl, rfl⟩ := h'
  exact h.right.left

theorem le (h : Holds bs off xs) : off + xs.length ≤ bs.length := by
  obtain ⟨pre, post, rfl, rfl⟩ := h
  simp only [List.length_append]
  omega

theorem slice (h : Holds bs off xs) : slice bs off xs.length = xs := by
  obtain ⟨pre, post, rfl, rfl⟩ := h
  exact slice_middle pre xs post

/-- A slice of what stands at `off`. -/
theorem slice_inner (h : Holds bs off xs) (hle : k + n ≤ xs.length) :
    ByteString.slice bs (off + k) n = ByteString.slice xs k n := by
  obtain ⟨pre, post, rfl, rfl⟩ := h
  rw [slice_append_right, slice_append_left hle]

/-- An integer inside of what stands at `off`. -/
theorem readBE_inner (h : Holds bs off xs) (hle : k + n ≤ xs.length) :
    ByteString.readBE n bs (off + k) = ByteString.readBE n xs k :=
  congrArg ByteString.ofBE (h.slice_inner hle)

/-- What stands in a string, cut out of the number that the string holds. -/
theorem ofBE (h : Holds bs off xs) (hlen : bs.length = off + xs.length + n) :
    ByteString.ofBE bs / 256 ^ n % 256 ^ xs.length = ByteString.ofBE xs := by
  obtain ⟨pre, post, rfl, rfl⟩ := h
  have hpost : post.length = n := by
    simp only [List.length_append] at hlen
    omega
  rw [← hpost]
  exact ofBE_middle pre xs post

/-- An integer that stands at `off` is read there. -/
theorem readBE (h : Holds bs off (toBE n v)) (hv : v < 256 ^ n) : readBE n bs off = v := by
  have hslice := h.slice
  rw [length_toBE] at hslice
  rw [ByteString.readBE, hslice, ofBE_toBE_of_lt hv]

/-- A string of fixed width that stands at `off` is read there. -/
theorem sliceFixed {x : Fixed n} (h : Holds bs off x.toList) : sliceFixed n bs off = x := by
  have hslice := h.slice
  rw [List.Vector.toList_length] at hslice
  exact Subtype.ext hslice

end Holds

/-! ## What is left of a string -/

/-- `xs` is what is left of `bs` from `off` on. -/
def Ends (bs : List UInt8) (off : ℕ) (xs : List UInt8) : Prop :=
  off ≤ bs.length ∧ bs.drop off = xs

theorem ends_self (bs : List UInt8) : Ends bs 0 bs := ⟨Nat.zero_le _, rfl⟩

/-- Nothing is left at the end. -/
theorem ends_nil {bs : List UInt8} {off : ℕ} : Ends bs off [] ↔ off = bs.length := by
  constructor
  · rintro ⟨hle, hdrop⟩
    exact Nat.le_antisymm hle (List.drop_eq_nil_iff.1 hdrop)
  · rintro rfl
    exact ⟨Nat.le_refl _, List.drop_length⟩

/-- A slice in range, in front of what is left behind it. -/
theorem Ends.slice_append {bs xs : List UInt8} {off n : ℕ} (h : Ends bs (off + n) xs) :
    Ends bs off (slice bs off n ++ xs) := by
  obtain ⟨hle, rfl⟩ := h
  exact ⟨by omega, (slice_append_drop hle).symm⟩

/-- An integer in front of what is left behind it. -/
theorem Ends.toBE_append {bs xs : List UInt8} {off n : ℕ} (h : Ends bs (off + n) xs) :
    Ends bs off (toBE n (ByteString.readBE n bs off) ++ xs) := by
  rw [toBE_readBE]
  exact h.slice_append

namespace Ends

variable {bs xs ys : List UInt8} {off n v : ℕ}

theorem length (h : Ends bs off xs) : bs.length = off + xs.length := by
  obtain ⟨hle, rfl⟩ := h
  rw [List.length_drop]
  omega

theorem holds (h : Ends bs off xs) : Holds bs off xs := by
  obtain ⟨hle, rfl⟩ := h
  exact ⟨bs.take off, [], by simp, List.length_take_of_le hle⟩

theorem head (h : Ends bs off (xs ++ ys)) : Holds bs off xs := h.holds.left

/-- What is left behind a first part of known length. -/
theorem rest (h : Ends bs off (xs ++ ys)) (hlen : xs.length = n) : Ends bs (off + n) ys := by
  refine ⟨?_, ?_⟩
  · have := h.length
    rw [List.length_append] at this
    omega
  · rw [← List.drop_drop, h.2, ← hlen, List.drop_left]

/-- Before the end there is something left. -/
theorem lt_iff (h : Ends bs off xs) : off < bs.length ↔ xs ≠ [] := by
  rw [h.length, ← List.length_pos_iff]
  omega

end Ends

end ByteString
