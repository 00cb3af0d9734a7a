import Mathlib.Data.List.GetD
import Mathlib.Data.List.Range
import SwapLayer.Lib.Program

/-!
# Counting loops and the arrays they fill

A program allocates an array of zeros and writes its entries one by one, in a loop that counts up; each
write fails outside of the array. `forLoop` is such a loop, `store` such a write, `filledUpTo` what the array
holds after some rounds.

Results:
* `forLoop_ok`: an invariant that knows the round, established by the start and kept by each round, holds
  at the end, and no round fails.
* `store_filledUpTo`: a round that writes its own entry makes one entry more.
-/

namespace Arrays

open Program

variable {σ ε α : Type}

/-! ## Counting loops -/

/-- The rounds `0` to `n - 1` in order; the first failure ends the loop. -/
def forLoop (body : ℕ → σ → Except ε σ) : ℕ → σ → Except ε σ
  | 0, s => .ok s
  | n + 1, s => do
    let s ← forLoop body n s
    body n s

/-- **Invariants of counting loops**: they hold of the number of rounds done and the state reached. -/
theorem forLoop_ok {body : ℕ → σ → Except ε σ} {I : ℕ → σ → Prop} {s : σ} (hstart : I 0 s) :
    ∀ {n : ℕ}, (∀ i < n, ∀ t, I i t → ∃ u, body i t = .ok u ∧ I (i + 1) u) →
      ∃ t, forLoop body n s = .ok t ∧ I n t
  | 0, _ => ⟨s, rfl, hstart⟩
  | n + 1, hbody => by
    obtain ⟨t, hloop, ht⟩ := forLoop_ok hstart fun i hi => hbody i (Nat.lt_succ_of_lt hi)
    obtain ⟨u, hround, hu⟩ := hbody n (Nat.lt_succ_self n) t ht
    exact ⟨u, except_bind_ok.2 ⟨t, hloop, hround⟩, hu⟩

/-! ## Arrays -/

/-- Write an entry; there must be one. -/
def store (outOfRange : ε) (array : List α) (i : ℕ) (a : α) : Except ε (List α) :=
  if i < array.length then .ok (array.set i a) else .error outOfRange

/-- An array of `n` entries of which `i` have been written, the others are as they were allocated. -/
def filledUpTo (zero : α) (entry : ℕ → α) (n i : ℕ) : List α :=
  (List.range i).map entry ++ List.replicate (n - i) zero

variable {zero : α} {entry : ℕ → α} {n i : ℕ}

theorem filledUpTo_end : filledUpTo zero entry n n = (List.range n).map entry := by
  rw [filledUpTo, Nat.sub_self, List.replicate_zero, List.append_nil]

theorem length_filledUpTo (h : i ≤ n) : (filledUpTo zero entry n i).length = n := by
  rw [filledUpTo, List.length_append, List.length_map, List.length_range, List.length_replicate]
  omega

/-- An entry of an array that is filled. -/
theorem getD_map_range (zero : α) (h : i < n) : ((List.range n).map entry).getD i zero = entry i := by
  rw [List.getD_eq_getElem _ _ (by simpa using h), List.getElem_map, List.getElem_range]

/-- **Writing the next entry** is in range, and makes one entry more. -/
theorem store_filledUpTo (outOfRange : ε) (h : i < n) :
    store outOfRange (filledUpTo zero entry n i) i (entry i) = .ok (filledUpTo zero entry n (i + 1)) := by
  have hnext : (filledUpTo zero entry n i).set i (entry i) = filledUpTo zero entry n (i + 1) := by
    obtain ⟨k, rfl⟩ : ∃ k, n = i + 1 + k := ⟨n - (i + 1), by omega⟩
    have hleft : i + 1 + k - i = k + 1 := by omega
    have hwritten : ((List.range i).map entry).length = i := by
      rw [List.length_map, List.length_range]
    rw [filledUpTo, filledUpTo, hleft, Nat.add_sub_cancel_left, List.replicate_succ,
      List.set_append_right i _ hwritten.le, hwritten, Nat.sub_self, List.set_cons_zero,
      List.range_succ, List.map_append, List.append_assoc]
    rfl
  rw [store, length_filledUpTo h.le, if_pos h, hnext]

end Arrays
