import Mathlib.Logic.Basic

/-!
# Parts of a state that are written independently

A record that is packed into a word has no fields of its own, only functions that read a part of the
word and functions that write one. `Lens` is such a pair with the laws that make it a field. Two lenses
are independent if writes through them can be swapped.

`Fields` is a state that is made of such parts and of a rest that none of them writes. What a write does
is said by what can be read afterwards; as the readings determine the state, the laws follow.

Results:
* `Lens.Independent.get_set`: a write through one lens is not seen through an independent one.
* `Fields.lens`, `Fields.independent`: each part is a lens, and no two parts depend on each other.
-/

/-- A part of a state, read by `get` and written by `set`. -/
structure Lens (σ α : Type) where
  get : σ → α
  set : σ → α → σ
  get_set : ∀ s a, get (set s a) = a
  set_get : ∀ s, set s (get s) = s
  set_set : ∀ s a b, set (set s a) b = set s b

namespace Lens

variable {σ α β : Type}

/-- Writes through the two lenses can be swapped. -/
def Independent (l : Lens σ α) (m : Lens σ β) : Prop :=
  ∀ s a b, m.set (l.set s a) b = l.set (m.set s b) a

/-- **What commutes with a part leaves it alone**: writing back what was there, before or after, shows
that it still is. -/
theorem Independent.get_set {l : Lens σ α} {m : Lens σ β} (h : l.Independent m) (s : σ) (a : α) :
    m.get (l.set s a) = m.get s :=
  calc m.get (l.set s a) = m.get (l.set (m.set s (m.get s)) a) := by rw [m.set_get]
    _ = m.get (m.set (l.set s a) (m.get s)) := by rw [h s a (m.get s)]
    _ = m.get s := m.get_set _ _

end Lens

/-- A state that is determined by parts `i`, each with values in `A i`, and by a rest that no write
changes. -/
structure Fields (σ ι ρ : Type) (A : ι → Type) where
  read : ∀ i, σ → A i
  write : ∀ i, σ → A i → σ
  rest : σ → ρ
  read_write : ∀ i s a, read i (write i s a) = a
  read_write_of_ne : ∀ i j s a, j ≠ i → read j (write i s a) = read j s
  rest_write : ∀ i s a, rest (write i s a) = rest s
  ext : ∀ s t, (∀ i, read i s = read i t) → rest s = rest t → s = t

namespace Fields

variable {σ ι ρ : Type} {A : ι → Type} (F : Fields σ ι ρ A)

/-- **Each part is a lens.** -/
def lens (i : ι) : Lens σ (A i) where
  get := F.read i
  set := F.write i
  get_set := F.read_write i
  set_get := by
    intro s
    refine F.ext _ _ (fun j => ?_) (F.rest_write i s _)
    by_cases h : j = i
    · subst h
      exact F.read_write j s _
    · exact F.read_write_of_ne i j s _ h
  set_set := by
    intro s a b
    refine F.ext _ _ (fun j => ?_) ?_
    · by_cases h : j = i
      · subst h
        rw [F.read_write, F.read_write]
      · rw [F.read_write_of_ne i j _ _ h, F.read_write_of_ne i j _ _ h, F.read_write_of_ne i j _ _ h]
    · rw [F.rest_write, F.rest_write, F.rest_write]

/-- **No two parts depend on each other.** -/
theorem independent {i j : ι} (hne : i ≠ j) : (F.lens i).Independent (F.lens j) := by
  intro s a b
  show F.write j (F.write i s a) b = F.write i (F.write j s b) a
  refine F.ext _ _ (fun k => ?_) ?_
  · by_cases hi : k = i
    · subst hi
      rw [F.read_write_of_ne j k _ _ hne, F.read_write, F.read_write]
    · by_cases hj : k = j
      · subst hj
        rw [F.read_write, F.read_write_of_ne i k _ _ hi, F.read_write]
      · rw [F.read_write_of_ne j k _ _ hj, F.read_write_of_ne i k _ _ hi, F.read_write_of_ne i k _ _ hi,
          F.read_write_of_ne j k _ _ hj]
  · rw [F.rest_write, F.rest_write, F.rest_write, F.rest_write]

end Fields
