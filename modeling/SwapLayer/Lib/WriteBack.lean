import Mathlib.Logic.Function.Basic

/-!
# Editing a map through one cached entry

A program that edits the entries of a stored map one after the other may keep the entry it works on
in a register, and write it back only when it turns to another key. `Cached` is the stored map and
the register, `flush` the map that is meant: the stored one with the register written into it.

The second half is about what a list of writes leaves behind, over any store whose locations can be
read and written independently of each other.

Results:
* `flush_editAll`: a list of edits through the register, in any order of the keys, comes to the same
  map as the same edits made directly.
* `read_writeAll`: after a list of writes each location holds what was last written to it, or what
  it held before.
-/

namespace WriteBack

/-! ## The register -/

section Register

variable {K V : Type} [DecidableEq K]

/-- A stored map, and the entry of it that is being edited. -/
structure Cached (K V : Type) where
  stored : K → V
  register : Option (K × V)

/-- The edits of a list made directly, in order. -/
def editDirectly (es : List (K × (V → V))) (m : K → V) : K → V :=
  es.foldl (fun m e => Function.update m e.1 (e.2 (m e.1))) m

namespace Cached

/-- The map that is meant. -/
def flush (c : Cached K V) : K → V :=
  match c.register with
  | none => c.stored
  | some (k, v) => Function.update c.stored k v

/-- Turn to the key `k`: the register is written back and loaded again, unless it is about `k`. -/
def turnTo (k : K) (c : Cached K V) : Cached K V :=
  if c.register.map Prod.fst = some k then c else ⟨c.flush, some (k, c.flush k)⟩

/-- Edit the entry of `k` in the register. -/
def edit (c : Cached K V) (e : K × (V → V)) : Cached K V :=
  { c.turnTo e.1 with register := (c.turnTo e.1).register.map fun r => (r.1, e.2 r.2) }

/-- Once turned to `k`, the register holds the entry of `k`, and the map that is meant is the same. -/
theorem turnTo_spec (k : K) (c : Cached K V) :
    (c.turnTo k).register = some (k, c.flush k) ∧ (c.turnTo k).flush = c.flush := by
  unfold turnTo
  split
  · rename_i hk
    obtain ⟨⟨k', v⟩, hreg, rfl⟩ := Option.map_eq_some_iff.1 hk
    refine ⟨?_, rfl⟩
    rw [flush, hreg]
    simp only [Function.update_self]
  · exact ⟨rfl, Function.update_eq_self ..⟩

/-- **An edit in the register** is an edit of the map that is meant. -/
theorem flush_edit (c : Cached K V) (e : K × (V → V)) :
    (c.edit e).flush = Function.update c.flush e.1 (e.2 (c.flush e.1)) := by
  obtain ⟨hreg, hflush⟩ := c.turnTo_spec e.1
  have hedit : (c.edit e).flush = Function.update (c.turnTo e.1).stored e.1 (e.2 (c.flush e.1)) := by
    simp only [edit, flush, hreg, Option.map_some]
  rw [hedit, ← hflush]
  simp only [flush, hreg, Function.update_idem, Function.update_self]

/-- **The register loses nothing**, whatever the order of the keys. -/
theorem flush_editAll (es : List (K × (V → V))) (c : Cached K V) :
    (es.foldl edit c).flush = editDirectly es c.flush := by
  induction es generalizing c with
  | nil => rfl
  | cons e es ih => rw [List.foldl_cons, ih, flush_edit, editDirectly, editDirectly, List.foldl_cons]

end Cached

end Register

/-! ## The last write -/

section LastWrite

variable {σ W L A : Type} [DecidableEq L]

/-- What the list last writes to the location `l`, `old` if it does not write there. -/
def lastWrite (ws : List (L × A)) (l : L) (old : A) : A :=
  ws.foldl (fun a w => if w.1 = l then w.2 else a) old

/-- **The last write wins**, where a write to one location is not seen at another. -/
theorem read_writeAll {read : L → σ → A} {write : σ → W → σ} {loc : W → L} {val : W → A}
    (hself : ∀ s w, read (loc w) (write s w) = val w)
    (hother : ∀ s w l, l ≠ loc w → read l (write s w) = read l s) (ws : List W) (s : σ) (l : L) :
    read l (ws.foldl write s) = lastWrite (ws.map fun w => (loc w, val w)) l (read l s) := by
  induction ws generalizing s with
  | nil => rfl
  | cons w ws ih =>
    have hwrite : read l (write s w) = if loc w = l then val w else read l s := by
      split
      · rename_i heq
        rw [← heq, hself]
      · rename_i hne
        exact hother s w l (Ne.symm hne)
    rw [List.foldl_cons, ih, hwrite, lastWrite, lastWrite, List.map_cons, List.foldl_cons]

end LastWrite

end WriteBack
