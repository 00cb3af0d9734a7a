import SwapLayer.Lib.Reader
import SwapLayer.Evm.RelayingFee

/-!
# Percentages

`PercentageLib` (`evm/src/assets/Percentage.sol`) keeps a percentage in 16 bits: a mantissa of 14 bits,
and two bits with the number of its fractional digits less one. There is no exponent for whole percents;
`to` multiplies them by ten first, in an `unchecked` block, and compares with the largest mantissa
afterwards.

A product that wraps passes for a small one: from 2^256 / 10 on, some numbers of whole percents are
encoded as percentages that have nothing to do with them.

* `Encodes` is the format, `Denotes` says that an encoding stands for the percentage asked for.

Results:
* `percentageTo_encodes`: what `to` returns is in the format.
* `Encodes.compounds`: such an encoding is accepted, and compounds by its fraction.
* `percentageTo_faithful_iff`: it is the fraction asked for iff the product does not wrap.
-/

namespace SwapLayer.Evm

open ByteString Program Markup

/-! ## The format -/

/-- The encoding of a mantissa, of whose digits some are fractional. -/
structure Encodes (percentage mantissa fractionalDigits : ℕ) : Prop where
  mantissa_le : mantissa ≤ MAX_MANTISSA
  digits_pos : 1 ≤ fractionalDigits
  digits_le : fractionalDigits ≤ 4
  packed : percentage = 4 * mantissa + (fractionalDigits - 1)

/-- The fraction in an encoding is `value / 10 ^ fractionalDigits` percent. -/
def Denotes (percentage value fractionalDigits : ℕ) : Prop :=
  (percentage >>> EXPONENT_BITS) * 10 ^ (fractionalDigits + 2) = value * 10 ^ (3 + percentage % 4)

section Format

variable {percentage mantissa value fractionalDigits x : ℕ}

/-- `PercentageLib.to` behind its normalisation. -/
theorem packPercentage_ok (hpos : 1 ≤ fractionalDigits) (hle : fractionalDigits ≤ 4) :
    packPercentage value fractionalDigits = .ok percentage ↔
      Encodes percentage value fractionalDigits := by
  unfold packPercentage
  by_cases hvalue : value > MAX_MANTISSA
  · rw [if_pos hvalue]
    exact ⟨nofun, fun h => absurd h.mantissa_le (Nat.not_le.2 hvalue)⟩
  · have hmantissa : value ≤ 10000 := Nat.le_of_not_lt hvalue
    have hshift : value <<< EXPONENT_BITS = 4 * value := by
      rw [EXPONENT_BITS, Nat.shiftLeft_eq]
      omega
    have hor : value <<< EXPONENT_BITS ||| (fractionalDigits - 1) = 4 * value + (fractionalDigits - 1) := by
      have hlow : fractionalDigits - 1 < 2 ^ EXPONENT_BITS := by
        unfold EXPONENT_BITS
        omega
      rw [← Nat.shiftLeft_add_eq_or_of_lt hlow, hshift]
    rw [if_neg hvalue, wrap_of_lt (by omega), hor, Nat.mod_eq_of_lt (by omega)]
    exact ⟨fun h => ⟨hmantissa, hpos, hle, (Except.ok.inj h).symm⟩, fun h => h.packed ▸ rfl⟩

namespace Encodes

theorem shiftRight (h : Encodes percentage mantissa fractionalDigits) :
    percentage >>> EXPONENT_BITS = mantissa := by
  have hle := h.digits_le
  rw [h.packed, EXPONENT_BITS, Nat.shiftRight_eq_div_pow]
  omega

theorem exponent (h : Encodes percentage mantissa fractionalDigits) :
    3 + percentage % 4 = fractionalDigits + 2 := by
  have hpos := h.digits_pos
  have hle := h.digits_le
  rw [h.packed]
  omega

theorem accepted (h : Encodes percentage mantissa fractionalDigits) :
    percentageCheckedWrap percentage = .ok percentage := by
  rw [percentageCheckedWrap, h.shiftRight]
  exact if_neg (Nat.not_lt.2 h.mantissa_le)

/-- **What is in the format compounds by its fraction.** -/
theorem compounds (h : Encodes percentage mantissa fractionalDigits) (hx : x * 10 ^ 4 + x < 2 ^ 256) :
    compoundUnchecked percentage x = markup mantissa (10 ^ (fractionalDigits + 2)) x := by
  rw [compoundUnchecked_exact (h.shiftRight.le.trans h.mantissa_le) hx, compounded, h.shiftRight,
    h.exponent]

theorem denotes_iff (h : Encodes percentage mantissa fractionalDigits) {digits : ℕ} :
    Denotes percentage value digits ↔
      mantissa * 10 ^ (digits + 2) = value * 10 ^ (fractionalDigits + 2) := by
  rw [Denotes, h.shiftRight, h.exponent]

end Encodes

/-- **What `PercentageLib.to` returns**: zero, the arguments as they are, or a number of tenths. -/
theorem percentageTo_encodes (h : percentageTo value fractionalDigits = .ok percentage) :
    (value = 0 ∧ Encodes percentage 0 1) ∨
      Encodes percentage value fractionalDigits ∨
      (fractionalDigits = 0 ∧ Encodes percentage (wrap (value * 10)) 1) := by
  unfold percentageTo at h
  by_cases hzero : value = 0
  · rw [if_pos hzero] at h
    cases h
    exact .inl ⟨hzero, by decide, by decide, by decide, rfl⟩
  rw [if_neg hzero] at h
  by_cases hmany : fractionalDigits > 4
  · rw [if_pos hmany] at h
    cases h
  rw [if_neg hmany] at h
  by_cases hwhole : fractionalDigits = 0
  · rw [if_pos hwhole] at h
    exact .inr (.inr ⟨hwhole, (packPercentage_ok (by decide) (by decide)).1 h⟩)
  · rw [if_neg hwhole] at h
    exact .inr (.inl ((packPercentage_ok (by omega) (by omega)).1 h))

end Format

/-! ## Which percentage it is -/

section Faithful

variable {percentage value fractionalDigits : ℕ}

/-- Without wrapping, the encoding is in the format and of the fraction that was asked for. -/
theorem percentageTo_denotes (h : percentageTo value fractionalDigits = .ok percentage)
    (hwrap : fractionalDigits = 0 → value * 10 < 2 ^ 256) :
    ∃ mantissa digits, Encodes percentage mantissa digits ∧
      mantissa * 10 ^ (fractionalDigits + 2) = value * 10 ^ (digits + 2) := by
  obtain ⟨rfl, hencodes⟩ | hencodes | ⟨rfl, hencodes⟩ := percentageTo_encodes h
  · exact ⟨0, 1, hencodes, by rw [Nat.zero_mul, Nat.zero_mul]⟩
  · exact ⟨value, fractionalDigits, hencodes, rfl⟩
  · rw [wrap_of_lt (hwrap rfl)] at hencodes
    exact ⟨value * 10, 1, hencodes, Nat.mul_assoc value 10 (10 ^ 2)⟩

/-- Where the product wraps, even a cost of one would become far more than any encoding can make of
it. -/
theorem not_compounds_of_wrap (h : percentageTo value 0 = .ok percentage) (hwrap : 2 ^ 256 ≤ value * 10) :
    compoundUnchecked percentage 1 ≠ 1 + 1 * value / 10 ^ (0 + 2) := by
  obtain ⟨rfl, -⟩ | hencodes | ⟨-, hencodes⟩ := percentageTo_encodes h
  · exact absurd hwrap (by decide)
  · exact absurd hencodes.digits_pos (by decide)
  · have hle : wrap (value * 10) ≤ 10000 := hencodes.mantissa_le
    rw [hencodes.compounds (by decide), markup]
    omega

end Faithful

/-- **The encoding denotes the percentage asked for iff the product by ten does not wrap**, which only
a number of whole percents is multiplied by. It is then accepted by `checkedWrap`, and compounds as the
percentage does over the natural numbers, wherever the largest mantissa would not overflow. -/
theorem percentageTo_faithful_iff (value fractionalDigits : Uint 32) {percentage : ℕ}
    (h : percentageTo value fractionalDigits = .ok percentage) :
    (percentageCheckedWrap percentage = .ok percentage ∧
      (∀ x : ℕ, x * 10 ^ 4 + x < 2 ^ 256 → compoundUnchecked percentage x =
        x + x * value / 10 ^ ((fractionalDigits : ℕ) + 2)) ∧
      Denotes percentage value fractionalDigits) ↔
      ((fractionalDigits : ℕ) = 0 → (value : ℕ) * 10 < 2 ^ 256) := by
  constructor
  · rintro ⟨-, hcompounds, -⟩ hwhole
    by_contra hwrap
    rw [hwhole] at h hcompounds
    exact not_compounds_of_wrap h (Nat.le_of_not_lt hwrap) (hcompounds 1 (by decide))
  · intro hwrap
    obtain ⟨mantissa, digits, hencodes, hfraction⟩ := percentageTo_denotes h hwrap
    refine ⟨hencodes.accepted, fun x hx => ?_, hencodes.denotes_iff.2 hfraction⟩
    rw [hencodes.compounds hx]
    exact markup_congr (Nat.pow_pos (by decide)) (Nat.pow_pos (by decide)) hfraction

namespace Sample

/-- 3.141 %, the percentage of the comment in the source. -/
theorem percentage_pi :
    percentageCheckedWrap 12566 = .ok 12566 ∧
      (∀ x : ℕ, x * 10 ^ 4 + x < 2 ^ 256 → compoundUnchecked 12566 x = x + x * 3141 / 10 ^ (3 + 2)) ∧
      Denotes 12566 3141 3 := by
  have hencoded : percentageTo 3141 3 = .ok 12566 := rfl
  exact (percentageTo_faithful_iff ⟨3141, by decide⟩ ⟨3, by decide⟩ hencoded).2 nofun

/-- 2^255 percent are encoded as none, ten times as much being a multiple of 2^256; compounding adds
nothing. -/
theorem percentage_wraps :
    percentageTo (2 ^ 255) 0 = .ok 0 ∧ 1 * 10 ^ 4 + 1 < 2 ^ 256 ∧
      compoundUnchecked 0 1 ≠ 1 + 1 * 2 ^ 255 / 10 ^ (0 + 2) ∧ ¬Denotes 0 (2 ^ 255) 0 :=
  ⟨rfl, by decide, by decide, by unfold Denotes; decide⟩

end Sample

end SwapLayer.Evm
