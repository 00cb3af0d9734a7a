import SwapLayer.Lib.Borsh
import SwapLayer.Lib.Format

/-!
# Layouts that read more than they write

A `Layout` is a reader and a writer such that what was written is read back. Unlike a `Format` it may take
several strings for one value, where a custom conversion forgets something, so that what another program
wrote is read as a value that is written differently.

The cases of a switch are the rows of a table: a number, the layout of the fields, and the values that have
them. Of the values, a case writes those that it can build from their fields.

* `Agree R` relates two readers of one string, whose values may be of different types: where both find a
  value, the values are related and end at the same place.

Results:
* `Layout.decode_write`: a whole string that was written is read back.
* `Agree.bind`, `Agree.readMany`, `Agree.readVec`: agreement, put together like the readers.
-/

namespace ByteString

open Program

theorem readMany_gather {α : Type} {read : Reader α} {write : α → Except IoError (List UInt8)}
    (h : ∀ {a out} rest, write a = .ok out → read (out ++ rest) = .ok (a, rest)) {as : List α}
    {out : List UInt8} (hout : gather write as = .ok out) (rest : List UInt8) :
    readMany read as.length (out ++ rest) = .ok (as, rest) := by
  induction as generalizing out with
  | nil =>
    cases hout
    rfl
  | cons a as ih =>
    obtain ⟨bytes, outs, hwrite, hgather, rfl⟩ := gather_cons_ok.1 hout
    rw [List.append_assoc]
    exact bind_ok.2 ⟨a, outs ++ rest, h _ hwrite, bind_ok.2 ⟨as, rest, ih hgather, rfl⟩⟩

/-- A reader and a writer. What was written is read back. -/
structure Layout (α : Type) where
  read : Reader α
  write : α → Except IoError (List UInt8)
  readBack : ∀ {a out} rest, write a = .ok out → read (out ++ rest) = .ok (a, rest)

namespace Layout

variable {α β : Type} {n : ℕ}

def ofFormat (f : Format α) : Layout α where
  read := f.read
  write := f.write
  readBack _ h := (f.inverse _ _ _).2 ⟨_, h, rfl⟩

/-- The same bytes in front of every value. -/
def fixed (bytes : List UInt8) : Layout Unit where
  read := do
    let found ← readExact bytes.length
    require (found.toList = bytes) .invalidInput
  write _ := .ok bytes
  readBack {_ out} rest hout := by
    cases hout
    exact bind_ok.2 ⟨⟨bytes, rfl⟩, rest, (readExact_exact _ _ _ _).2 rfl, require_ok.2 ⟨rfl, rfl⟩⟩

/-- A conversion of the values that undoes another one. -/
def custom (f : Layout β) (ofEncoded : β → α) (toEncoded : α → β) (h : ∀ a, ofEncoded (toEncoded a) = a) :
    Layout α where
  read := do
    let b ← f.read
    return ofEncoded b
  write a := f.write (toEncoded a)
  readBack {a _} rest hout :=
    bind_ok.2 ⟨toEncoded a, rest, f.readBack rest hout, pure_ok.2 ⟨(h a).symm, rfl⟩⟩

/-- One value behind the other. -/
def pair (f : Layout α) (g : Layout β) : Layout (α × β) where
  read := do
    let a ← f.read
    let b ← g.read
    return (a, b)
  write p := do
    let x ← f.write p.1
    let y ← g.write p.2
    return x ++ y
  readBack {p out} rest hout := by
    obtain ⟨x, hx, h₁⟩ := except_bind_ok.1 hout
    obtain ⟨y, hy, hret⟩ := except_bind_ok.1 h₁
    cases hret
    rw [List.append_assoc]
    exact bind_ok.2 ⟨p.1, y ++ rest, f.readBack _ hx, bind_ok.2 ⟨p.2, rest, g.readBack _ hy, rfl⟩⟩

theorem pair_write {f : Layout α} {g : Layout β} {a : α} {b : β} {x y : List UInt8} (hx : f.write a = .ok x)
    (hy : g.write b = .ok y) : (f.pair g).write (a, b) = .ok (x ++ y) :=
  except_bind_ok.2 ⟨x, hx, except_bind_ok.2 ⟨y, hy, rfl⟩⟩

/-- An array behind its length of 4 bytes, the lowest first. -/
def vec (f : Layout α) : Layout (Borsh.Vec α) where
  read := Borsh.readVec f.read
  write as := do
    let out ← gather f.write as
    return Borsh.uint 4 as.val.length ++ out
  readBack {as out} rest hout := by
    obtain ⟨outs, hgather, hret⟩ := except_bind_ok.1 hout
    cases hret
    rw [List.append_assoc]
    refine bind_ok.2 ⟨⟨as.val.length, as.property⟩, outs ++ rest, ?_, ?_⟩
    · exact (Borsh.readUint_exact 4 _ _ _).2 rfl
    · refine bind_ok.2 ⟨as.val, rest, readMany_gather f.readBack hgather rest, ?_⟩
      rw [dif_pos as.property]
      rfl

/-! ## Switches -/

/-- A row of the table of a switch. It writes some of the values. -/
structure Case (n : ℕ) (α : Type) where
  id : Uint n
  read : Reader α
  write : α → Option (Except IoError (List UInt8))
  readBack : ∀ {a out} rest, write a = some (.ok out) → read (out ++ rest) = .ok (a, rest)

/-- The values that are `variant` of fields of the layout; `fields` finds them. -/
def Case.row [DecidableEq α] (id : Uint n) (f : Layout β) (variant : β → α) (fields : α → Option β) :
    Case n α where
  id := id
  read := do
    let b ← f.read
    return variant b
  write a := (fields a).bind fun b => if variant b = a then some (f.write b) else none
  readBack {a out} rest hout := by
    obtain ⟨b, -, hb⟩ := Option.bind_eq_some_iff.1 hout
    split at hb
    · rename_i hvariant
      have hwrite := Option.some.inj hb
      exact bind_ok.2 ⟨b, rest, f.readBack rest hwrite, pure_ok.2 ⟨hvariant.symm, rfl⟩⟩
    · cases hb

/-- A variant without fields. -/
def Case.plain [DecidableEq α] (id : Uint n) (a : α) : Case n α :=
  row id (ofFormat .unit) (fun _ => a) fun _ => some ()

theorem find_id {table : List (Case n α)} (h : (table.map Case.id).Nodup) {c : Case n α}
    (hc : c ∈ table) : table.find? (fun c' => c'.id = c.id) = some c := by
  induction table with
  | nil => cases hc
  | cons c₀ table ih =>
    obtain ⟨hfresh, hnodup⟩ := List.nodup_cons.1 h
    rcases List.mem_cons.1 hc with rfl | hmem
    · rw [List.find?_cons_of_pos (by simp)]
    · have hne : c₀.id ≠ c.id := fun heq => hfresh (heq ▸ List.mem_map_of_mem hmem)
      rw [List.find?_cons_of_neg (by simpa using hne)]
      exact ih hnodup hmem

/-- The number of a case, and its fields. -/
def switch (table : List (Case n α)) (h : (table.map Case.id).Nodup) : Layout α where
  read := do
    let id ← readUint n
    match table.find? fun c => c.id = id with
    | some c => c.read
    | none => fail .invalidInput
  write a :=
    match table.findSome? fun c => (c.write a).map fun out => (c.id, out) with
    | some (id, out) => out.map fun out => writeUint id ++ out
    | none => .error .invalidInput
  readBack {a out} rest hout := by
    split at hout
    · rename_i id fields hfound
      obtain ⟨c, hc, hrow⟩ := List.exists_of_findSome?_eq_some hfound
      obtain ⟨fields', hwrite, heq⟩ := Option.map_eq_some_iff.1 hrow
      cases heq
      obtain ⟨out', rfl, rfl⟩ := except_map_ok.1 hout
      rw [List.append_assoc]
      refine bind_ok.2 ⟨c.id, out' ++ rest, (readUint_exact n _ _ _).2 rfl, ?_⟩
      rw [find_id h hc]
      exact c.readBack rest hwrite
    · cases hout

/-- What a switch reads has a number of the table in front. -/
theorem switch_read {table : List (Case n α)} {h : (table.map Case.id).Nodup} {bs rest : List UInt8}
    {a : α} (hread : (switch table h).read bs = .ok (a, rest)) :
    ∃ c ∈ table, ∃ bs', bs = writeUint c.id ++ bs' := by
  simp only [switch, bind_ok] at hread
  obtain ⟨id, bs', hid, hcase⟩ := hread
  cases hfound : table.find? fun c => c.id = id with
  | none =>
    rw [hfound] at hcase
    exact (fail_ok.1 hcase).elim
  | some c =>
    have hc : c.id = id := by simpa using List.find?_some hfound
    exact ⟨c, List.mem_of_find?_eq_some hfound, bs', hc ▸ (readUint_exact n _ _ _).1 hid⟩

/-! ## Whole strings -/

def decode (f : Layout α) (bs : List UInt8) : Except IoError α := readAll f.read bs

/-- **A string that was written** is read back. -/
theorem decode_write (f : Layout α) {a : α} {out : List UInt8} (h : f.write a = .ok out) :
    f.decode out = .ok a := by
  have hread := f.readBack [] h
  rw [List.append_nil] at hread
  exact except_bind_ok.2 ⟨(a, []), hread, rfl⟩

end Layout

/-! ## Two readers of one string -/

section Agree

variable {α α' β β' : Type} {R : α → α' → Prop} {S : β → β' → Prop}

/-- Where both readers find a value, the values are related, and end at the same place. -/
def Agree (R : α → α' → Prop) (read : Reader α) (read' : Reader α') : Prop :=
  ∀ bs a rest a' rest', read bs = .ok (a, rest) → read' bs = .ok (a', rest') → R a a' ∧ rest = rest'

namespace Agree

theorem refl (read : Reader α) : Agree Eq read read :=
  fun _ _ _ _ _ h h' => Prod.mk.inj (Except.ok.inj (h.symm.trans h'))

/-- Two readers of what one writer puts down. -/
theorem of_exact {read read' : Reader α} {write : α → List UInt8} (h : Exact read write)
    (h' : Exact read' write) : Agree Eq read read' := by
  intro bs a rest a' rest' hr hr'
  obtain rfl := (h _ _ _).1 hr
  exact h.append_inj ((h' _ _ _).1 hr')

theorem pure {a : α} {a' : α'} (h : R a a') : Agree R (pure a) (pure a') := by
  intro bs b rest b' rest' hr hr'
  obtain ⟨rfl, rfl⟩ := pure_ok.1 hr
  obtain ⟨rfl, rfl⟩ := pure_ok.1 hr'
  exact ⟨h, rfl⟩

theorem bind {f : Reader α} {f' : Reader α'} {g : α → Reader β} {g' : α' → Reader β'}
    (h : Agree R f f') (hg : ∀ a a', R a a' → Agree S (g a) (g' a')) :
    Agree S (f >>= g) (f' >>= g') := by
  intro bs b rest b' rest' hr hr'
  obtain ⟨a, bs₁, ha, hb⟩ := bind_ok.1 hr
  obtain ⟨a', bs₁', ha', hb'⟩ := bind_ok.1 hr'
  obtain ⟨hR, rfl⟩ := h _ _ _ _ _ ha ha'
  exact hg a a' hR _ _ _ _ _ hb hb'

theorem readMany {read : Reader α} {read' : Reader α'} (h : Agree R read read') (k : ℕ) :
    Agree (List.Forall₂ R) (ByteString.readMany read k) (ByteString.readMany read' k) := by
  induction k with
  | zero => exact pure .nil
  | succ k ih => exact h.bind fun _ _ ha => ih.bind fun _ _ has => pure (.cons ha has)

theorem readVec {read : Reader α} {read' : Reader α'} (h : Agree R read read') :
    Agree (fun as as' => List.Forall₂ R as.val as'.val) (Borsh.readVec read) (Borsh.readVec read') := by
  refine (refl _).bind fun length _ hlength => ?_
  subst hlength
  refine (h.readMany length).bind fun as as' has => ?_
  -- related lists are of one length
  have hlength := has.length_eq
  by_cases hlt : as.length < 256 ^ 4
  · have hlt' : as'.length < 256 ^ 4 := hlength ▸ hlt
    rw [dif_pos hlt, dif_pos hlt']
    exact pure has
  · rw [dif_neg hlt]
    intro bs a rest a' rest' hr
    exact (fail_ok.1 hr).elim

end Agree

end Agree

end ByteString
