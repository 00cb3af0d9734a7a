import Mathlib.Data.Nat.Basic
import Mathlib.Algebra.Order.Group.Nat
import Mathlib.Tactic.Ring

/-!
# Marking up by a fraction

`markup num den x` is `x` and `num / den` of it on top, rounded down: how fees add a margin to a
cost in integer arithmetic.

Results:
* `markup_mono`: a higher rate or a higher cost gives no lower price.
* `markup_congr`: only the value of the fraction counts.
* `markup_div_le`, `div_markup_le`, `markup_add_le`: what is lost by rounding before or in parts.
* `markup_le`, `lt_of_markup_lt`, `mul_lt_two_pow`: the bounds that an arithmetic of fixed width needs.
-/

namespace Markup

variable {num num' den x x' : ℕ}

/-- `x` and `num / den` of it. -/
def markup (num den x : ℕ) : ℕ := x + x * num / den

@[simp] theorem markup_zero_rate : markup 0 den x = x := by simp [markup]

@[simp] theorem markup_zero : markup num den 0 = 0 := by simp [markup]

theorem le_markup : x ≤ markup num den x := Nat.le_add_right _ _

/-- **Marking up is monotone** in the rate and in the cost. -/
theorem markup_mono (hnum : num ≤ num') (hx : x ≤ x') : markup num den x ≤ markup num' den x' :=
  Nat.add_le_add hx (Nat.div_le_div_right (Nat.mul_le_mul hx hnum))

/-- **Equal fractions mark up equally**: expanding a fraction does not change how it rounds. -/
theorem markup_congr {den' : ℕ} (hden : 0 < den) (hden' : 0 < den') (h : num * den' = num' * den) :
    markup num den x = markup num' den' x := by
  have hexpand : x * num / den = x * num' / den' :=
    calc x * num / den = x * num * den' / (den * den') := (Nat.mul_div_mul_right _ _ hden').symm
      _ = x * num' * den / (den' * den) := by rw [Nat.mul_assoc, h, Nat.mul_assoc, Nat.mul_comm den den']
      _ = x * num' / den' := Nat.mul_div_mul_right _ _ hden
  rw [markup, markup, hexpand]

/-- At a rate of at most `k` the markup is at most `k` times the cost. -/
theorem markup_le {k : ℕ} (hk : num ≤ k) : markup num den x ≤ x * (k + 1) := by
  have hdiv : x * num / den ≤ x * k := (Nat.div_le_self _ _).trans (Nat.mul_le_mul_left x hk)
  unfold markup
  rw [Nat.mul_succ]
  omega

/-- **Rounding first never costs more.** -/
theorem markup_div_le {y : ℕ} : markup num den (x / y) ≤ markup num den x / y := by
  have hpart : x / y * num / den * y ≤ x * num / den := by
    rcases Nat.eq_zero_or_pos den with rfl | hden
    · simp
    · rw [Nat.le_div_iff_mul_le hden]
      calc x / y * num / den * y * den = x / y * num / den * den * y := by ring
        _ ≤ x / y * num * y := Nat.mul_le_mul_right _ (Nat.div_mul_le_self ..)
        _ = x / y * y * num := by ring
        _ ≤ x * num := Nat.mul_le_mul_right _ (Nat.div_mul_le_self ..)
  rcases Nat.eq_zero_or_pos y with rfl | hy
  · simp
  · rw [Nat.le_div_iff_mul_le hy, markup, markup, Nat.add_mul]
    exact Nat.add_le_add (Nat.div_mul_le_self ..) hpart

/-- At a rate of at most 1, rounding first costs two units at most. -/
theorem div_markup_le {y : ℕ} (hy : 0 < y) (hden : 0 < den) (hnum : num ≤ den) :
    markup num den x / y ≤ markup num den (x / y) + 2 := by
  have hx : x < (x / y + 1) * y := by
    rw [Nat.mul_comm]
    exact Nat.lt_mul_div_succ x hy
  have hrate : x / y * num < (x / y * num / den + 1) * den := by
    rw [Nat.mul_comm (_ + 1)]
    exact Nat.lt_mul_div_succ _ hden
  -- the part on top, with one unit for each of the two quotients
  have htop : x * num / den < (x / y * num / den + 2) * y := by
    rw [Nat.div_lt_iff_lt_mul hden]
    have h₁ : x * num ≤ (x / y + 1) * y * num := Nat.mul_le_mul_right _ hx.le
    have h₂ : (x / y + 1) * y * num = (x / y * num + num) * y := by ring
    have h₃ : x / y * num + num < (x / y * num / den + 2) * den := by
      have : (x / y * num / den + 2) * den = (x / y * num / den + 1) * den + den := by ring
      omega
    calc x * num ≤ (x / y * num + num) * y := h₂ ▸ h₁
      _ < (x / y * num / den + 2) * den * y := Nat.mul_lt_mul_of_pos_right h₃ hy
      _ = (x / y * num / den + 2) * y * den := by ring
  have hsum : markup num den x < (markup num den (x / y) + 3) * y := by
    unfold markup
    calc x + x * num / den < (x / y + 1) * y + (x / y * num / den + 2) * y := by omega
      _ = (x / y + x / y * num / den + 3) * y := by ring
  exact Nat.lt_succ_iff.1 ((Nat.div_lt_iff_lt_mul hy).2 hsum)

/-- Marking up parts loses one unit at most. -/
theorem markup_add_le {y : ℕ} (hden : 0 < den) :
    markup num den (x + y) ≤ markup num den x + markup num den y + 1 := by
  have hdiv : (x + y) * num / den ≤ x * num / den + y * num / den + 1 := by
    rw [Nat.add_mul, Nat.add_div hden]
    split <;> omega
  unfold markup
  omega

/-- So does dividing them. -/
theorem succ_add_div_le {a b d : ℕ} (hd : 1 < d) : (a + b + 1) / d ≤ a / d + b / d + 1 := by
  have ha := Nat.div_add_mod a d
  have hb := Nat.div_add_mod b d
  have har := Nat.mod_lt a (by omega : d > 0)
  have hbr := Nat.mod_lt b (by omega : d > 0)
  rw [← Nat.lt_succ_iff, Nat.div_lt_iff_lt_mul (by omega)]
  have hexpand : (a / d + b / d + 1).succ * d = d * (a / d) + d * (b / d) + (d + d) := by
    rw [Nat.succ_eq_add_one]
    ring
  omega

/-- Marking up is at least the cost, so a bound of the price is one of the cost. -/
theorem lt_of_markup_lt {n : ℕ} (h : markup num den x < n) : x < n := Nat.lt_of_le_of_lt le_markup h

/-- A product of bounded factors is bounded. -/
theorem mul_lt_two_pow {a b m n : ℕ} (ha : a < 2 ^ m) (hb : b < 2 ^ n) : a * b < 2 ^ (m + n) := by
  rw [Nat.pow_add]
  exact Nat.mul_lt_mul'' ha hb

end Markup
