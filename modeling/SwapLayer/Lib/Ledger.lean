import Mathlib.Algebra.GroupWithZero.Nat
import Mathlib.Algebra.Group.Pi.Lemmas

/-!
# Ledgers: one account's holdings, credited and debited

The holdings of one account are a function `κ → ℕ` from asset kinds to amounts. `Pi.single k n`
stands for `n` units of `k`.

`Moves h h' i o` says that the holdings went from `h` to `h'` with `i` coming in and `o` going
out. Movements compose by adding the flows up (`Moves.trans`), and the account ends where it
began exactly when what came in is what went out (`Moves.conserved_iff`).
-/

namespace Ledger

variable {κ : Type} {h h' h'' i i' o o' : κ → ℕ}

/-! ## Movements -/

/-- From `h` to `h'` with `i` received and `o` spent. -/
def Moves (h h' i o : κ → ℕ) : Prop := ∀ a, h' a + o a = h a + i a

theorem Moves.refl (h : κ → ℕ) : Moves h h 0 0 := fun _ => rfl

/-- **Movements compose**: flows add up. -/
theorem Moves.trans (h₁ : Moves h h' i o) (h₂ : Moves h' h'' i' o') :
    Moves h h'' (i + i') (o + o') := by
  intro a
  have := h₁ a
  have := h₂ a
  simp only [Pi.add_apply]
  omega

/-- **Conservation**: the account ends where it began iff the flows agree. -/
theorem Moves.conserved_iff (hm : Moves h h' i o) : (∀ a, h' a = h a) ↔ ∀ a, i a = o a := by
  constructor
  · intro he a
    have := hm a
    have := he a
    omega
  · intro he a
    have := hm a
    have := he a
    omega

/-! ## Credits and debits -/

variable [DecidableEq κ]

/-- `n` more units of `k`. -/
def credit (h : κ → ℕ) (k : κ) (n : ℕ) : κ → ℕ := h + Pi.single k n

/-- `n` units of `k` less; meant for `n ≤ h k`. -/
def debit (h : κ → ℕ) (k : κ) (n : ℕ) : κ → ℕ := h - Pi.single k n

theorem single_self (k : κ) (n : ℕ) : (Pi.single k n : κ → ℕ) k = n := by simp

theorem single_other {a k : κ} (hne : a ≠ k) (n : ℕ) : (Pi.single k n : κ → ℕ) a = 0 := by
  simp [hne]

/-- Amounts of one kind add up. -/
theorem single_add_apply (k : κ) (m n : ℕ) (a : κ) :
    (Pi.single k (m + n) : κ → ℕ) a = (Pi.single k m : κ → ℕ) a + (Pi.single k n : κ → ℕ) a := by
  rw [Pi.single_add, Pi.add_apply]

theorem single_le {k : κ} {n : ℕ} (hn : n ≤ h k) (a : κ) : (Pi.single k n : κ → ℕ) a ≤ h a := by
  by_cases ha : a = k
  · subst ha
    rwa [single_self]
  · rw [single_other ha]
    exact Nat.zero_le _

theorem credit_apply (h : κ → ℕ) (k : κ) (n : ℕ) (a : κ) :
    credit h k n a = h a + (Pi.single k n : κ → ℕ) a := rfl

theorem credit_self (h : κ → ℕ) (k : κ) (n : ℕ) : credit h k n k = h k + n := by
  rw [credit_apply, single_self]

theorem debit_add_apply {k : κ} {n : ℕ} (hn : n ≤ h k) (a : κ) :
    debit h k n a + (Pi.single k n : κ → ℕ) a = h a :=
  Nat.sub_add_cancel (single_le hn a)

theorem debit_zero (h : κ → ℕ) (k : κ) : debit h k 0 = h := by
  funext a
  simp [debit]

theorem debit_self (h : κ → ℕ) (k : κ) (n : ℕ) : debit h k n k = h k - n := by
  show h k - (Pi.single k n : κ → ℕ) k = _
  rw [single_self]

theorem debit_other (h : κ → ℕ) {k a : κ} (hne : a ≠ k) (n : ℕ) : debit h k n a = h a := by
  show h a - (Pi.single k n : κ → ℕ) a = _
  rw [single_other hne, Nat.sub_zero]

theorem moves_credit (h : κ → ℕ) (k : κ) (n : ℕ) : Moves h (credit h k n) (Pi.single k n) 0 :=
  fun _ => rfl

/-- Where all but one of the holdings are known, the rest is a movement of that one. -/
theorem Moves.of_other {k : κ} (hother : ∀ a, a ≠ k → h' a = h a + i a) :
    Moves h h' (i + Pi.single k (h' k)) (Pi.single k (h k + i k)) := by
  intro a
  rw [Pi.add_apply]
  by_cases ha : a = k
  · rw [ha, single_self, single_self]
    omega
  · rw [single_other ha, single_other ha, hother a ha]
    rfl

theorem moves_debit {k : κ} {n : ℕ} (hn : n ≤ h k) : Moves h (debit h k n) 0 (Pi.single k n) :=
  fun a => debit_add_apply hn a

end Ledger
