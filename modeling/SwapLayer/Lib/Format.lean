import SwapLayer.Lib.Reader

/-!
# Binary formats put together from parts

A `Format` is a reader and a writer that are inverse to each other, with the proof of it. A declarative
layout is a tree of such parts: integers, byte strings, fields in a row, arrays behind their length, and
switches, where a number in front selects what follows. Each way of putting formats together gives a
format again, so that nothing is left to prove of a layout.

The cases of a switch are built one by one. No number can be used twice: the number of a new case must
not be among those of the others.

Results:
* `readMany_inverse`: a list of given length, for a writer that may refuse a value.
* `decode_iff`: a whole string is accepted iff it is what is written for its value.
-/

namespace ByteString

open Program

/-- **A list of values**, for a writer that may refuse one. -/
theorem readMany_inverse {α : Type} {read : Reader α} {write : α → Except IoError (List UInt8)}
    (h : Inverse read write) {k : ℕ} {bs : List UInt8} {as : List α} {rest : List UInt8} :
    readMany read k bs = .ok (as, rest) ↔
      as.length = k ∧ ∃ out, gather write as = .ok out ∧ bs = out ++ rest := by
  induction k generalizing bs as rest with
  | zero =>
    constructor
    · intro hr
      obtain ⟨rfl, rfl⟩ := pure_ok.1 hr
      exact ⟨rfl, [], rfl, rfl⟩
    · rintro ⟨hlen, out, hout, rfl⟩
      obtain rfl := List.length_eq_zero_iff.1 hlen
      cases hout
      rfl
  | succ k ih =>
    constructor
    · intro hr
      obtain ⟨a, bs', hread, h₁⟩ := bind_ok.1 hr
      obtain ⟨as', bs'', hmany, hret⟩ := bind_ok.1 h₁
      obtain ⟨rfl, rfl⟩ := pure_ok.1 hret
      obtain ⟨out, hwrite, rfl⟩ := (h _ _ _).1 hread
      obtain ⟨hlen, outs, hgather, rfl⟩ := ih.1 hmany
      exact ⟨congrArg (· + 1) hlen, out ++ outs, gather_cons_ok.2 ⟨out, outs, hwrite, hgather, rfl⟩,
        (List.append_assoc _ _ _).symm⟩
    · rintro ⟨hlen, out, hout, rfl⟩
      cases as with
      | nil => cases hlen
      | cons a as =>
        obtain ⟨out, outs, hwrite, hgather, rfl⟩ := gather_cons_ok.1 hout
        refine bind_ok.2 ⟨a, outs ++ rest, (h _ _ _).2 ⟨out, hwrite, List.append_assoc _ _ _⟩,
          bind_ok.2 ⟨as, rest, ih.2 ⟨Nat.succ.inj hlen, outs, hgather, rfl⟩, rfl⟩⟩

/-- A reader and a writer that are inverse. -/
structure Format (α : Type) where
  read : Reader α
  write : α → Except IoError (List UInt8)
  inverse : Inverse read write

namespace Format

variable {α β : Type} {n : ℕ}

/-! ## Parts -/

/-- A writer that refuses nothing. -/
def ofExact {read : Reader α} {write : α → List UInt8} (h : Exact read write) : Format α :=
  ⟨read, fun a => .ok (write a), h.inverse⟩

/-- An unsigned integer of `n` bytes. -/
def uint (n : ℕ) : Format (Uint n) := ofExact (readUint_exact n)

/-- A byte string of `n` bytes. -/
def bytes (n : ℕ) : Format (Fixed n) := ofExact (readExact_exact n)

/-- A byte string behind its length of `n` bytes. -/
def prefixed (n : ℕ) : Format (Prefixed n) := ofExact (readPrefixed_exact n)

/-- No bytes. -/
def unit : Format Unit where
  read := pure ()
  write _ := .ok []
  inverse bs a rest := by
    constructor
    · intro h
      obtain ⟨-, rfl⟩ := pure_ok.1 h
      exact ⟨[], rfl, rfl⟩
    · rintro ⟨out, hout, rfl⟩
      cases hout
      rfl

/-- An integer that is always the same and not part of the value. -/
def constant (n : ℕ) (v : Uint n) : Format Unit where
  read := do
    let x ← readUint n
    require (x = v) .invalidInput
  write _ := .ok (writeUint v)
  inverse bs a rest := by
    constructor
    · intro h
      obtain ⟨x, _, hread, hreq⟩ := bind_ok.1 h
      obtain ⟨rfl, rfl⟩ := require_ok.1 hreq
      exact ⟨_, rfl, (readUint_exact n _ _ _).1 hread⟩
    · rintro ⟨out, hout, rfl⟩
      cases hout
      exact bind_ok.2 ⟨v, rest, (readUint_exact n _ _ _).2 rfl, require_ok.2 ⟨rfl, rfl⟩⟩

/-! ## Putting formats together -/

/-- One value behind the other. -/
def pair (f : Format α) (g : Format β) : Format (α × β) where
  read := do
    let a ← f.read
    let b ← g.read
    return (a, b)
  write p := do
    let x ← f.write p.1
    let y ← g.write p.2
    return x ++ y
  inverse bs p rest := by
    constructor
    · intro h
      obtain ⟨a, bs', hread, h₁⟩ := bind_ok.1 h
      obtain ⟨b, bs'', hread', hret⟩ := bind_ok.1 h₁
      obtain ⟨rfl, rfl⟩ := pure_ok.1 hret
      obtain ⟨x, hx, rfl⟩ := (f.inverse _ _ _).1 hread
      obtain ⟨y, hy, rfl⟩ := (g.inverse _ _ _).1 hread'
      exact ⟨x ++ y, except_bind_ok.2 ⟨x, hx, except_bind_ok.2 ⟨y, hy, rfl⟩⟩,
        (List.append_assoc _ _ _).symm⟩
    · rintro ⟨out, hout, rfl⟩
      obtain ⟨x, hx, h₁⟩ := except_bind_ok.1 hout
      obtain ⟨y, hy, hret⟩ := except_bind_ok.1 h₁
      cases hret
      exact bind_ok.2 ⟨p.1, y ++ rest, (f.inverse _ _ _).2 ⟨x, hx, List.append_assoc _ _ _⟩,
        bind_ok.2 ⟨p.2, rest, (g.inverse _ _ _).2 ⟨y, hy, rfl⟩, rfl⟩⟩

/-- The same bytes for another type of values. -/
def map (e : α ≃ β) (f : Format α) : Format β where
  read := do
    let a ← f.read
    return e a
  write b := f.write (e.symm b)
  inverse bs b rest := by
    constructor
    · intro h
      obtain ⟨a, bs', hread, hret⟩ := bind_ok.1 h
      obtain ⟨rfl, rfl⟩ := pure_ok.1 hret
      show ∃ out, f.write (e.symm (e a)) = .ok out ∧ bs = out ++ rest
      rw [e.symm_apply_apply]
      exact (f.inverse _ _ _).1 hread
    · intro h
      exact bind_ok.2 ⟨e.symm b, rest, (f.inverse _ _ _).2 h, pure_ok.2 ⟨(e.apply_symm_apply b).symm, rfl⟩⟩

/-- The length of a list, which must fit, and its elements. -/
def writeArray (n : ℕ) (write : α → Except IoError (List UInt8)) (as : List α) :
    Except IoError (List UInt8) :=
  if as.length < 256 ^ n then do
    let out ← gather write as
    return toBE n as.length ++ out
  else .error .invalidInput

theorem writeArray_ok {write : α → Except IoError (List UInt8)} {as : List α} {out : List UInt8} :
    writeArray n write as = .ok out ↔
      as.length < 256 ^ n ∧ ∃ outs, gather write as = .ok outs ∧ out = toBE n as.length ++ outs := by
  unfold writeArray
  split
  · rename_i hlt
    constructor
    · intro h
      obtain ⟨outs, hgather, hret⟩ := except_bind_ok.1 h
      exact ⟨hlt, outs, hgather, (except_pure_ok.1 hret).symm⟩
    · rintro ⟨-, outs, hgather, rfl⟩
      exact except_bind_ok.2 ⟨outs, hgather, rfl⟩
  · rename_i hnot
    exact ⟨nofun, fun h => absurd h.1 hnot⟩

/-- Elements that are never refused. -/
theorem writeArray_exact (write : α → List UInt8) (as : List α) :
    writeArray n (fun a => .ok (write a)) as =
      if as.length < 256 ^ n then .ok (toBE n as.length ++ as.flatMap write)
      else .error .invalidInput := by
  rw [writeArray, gather_ok]
  rfl

/-- A list behind its length of `n` bytes. -/
def array (n : ℕ) (f : Format α) : Format (List α) where
  read := do
    let length ← readUint n
    readMany f.read length
  write := writeArray n f.write
  inverse bs as rest := by
    constructor
    · intro h
      obtain ⟨length, bs', hread, hmany⟩ := bind_ok.1 h
      obtain ⟨hlen, outs, hgather, rfl⟩ := (readMany_inverse f.inverse).1 hmany
      obtain rfl := (readUint_exact n _ _ _).1 hread
      refine ⟨_, writeArray_ok.2 ⟨hlen ▸ length.isLt, outs, hgather, rfl⟩, ?_⟩
      rw [hlen, writeUint, List.append_assoc]
    · rintro ⟨out, hout, rfl⟩
      obtain ⟨hlt, outs, hgather, rfl⟩ := writeArray_ok.1 hout
      exact bind_ok.2 ⟨⟨as.length, hlt⟩, outs ++ rest,
        (readUint_exact n _ _ _).2 (List.append_assoc _ _ _),
        (readMany_inverse f.inverse).2 ⟨rfl, outs, hgather, rfl⟩⟩

end Format

/-! ## Switches -/

/-- The cases of a switch on a number of `n` bytes, and the numbers they have. -/
structure Cases (n : ℕ) (α : Type) where
  ids : List (Uint n)
  read : Uint n → Reader α
  write : α → Except IoError (Uint n × List UInt8)
  write_mem : ∀ {a p}, write a = .ok p → p.1 ∈ ids
  inverse : ∀ id bs a rest, read id bs = .ok (a, rest) ↔ ∃ out, write a = .ok (id, out) ∧ bs = out ++ rest

namespace Cases

variable {α β : Type} {n : ℕ}

/-- A single case; every other number is an error. -/
def one (id : Uint n) (f : Format α) : Cases n α where
  ids := [id]
  read id' := if id' = id then f.read else fail .invalidInput
  write a := (f.write a).map fun out => (id, out)
  write_mem {a p} h := by
    obtain ⟨out, -, rfl⟩ := except_map_ok.1 h
    exact List.mem_singleton.2 rfl
  inverse id' bs a rest := by
    constructor
    · intro h
      split at h
      · rename_i hid
        obtain ⟨out, hwrite, rfl⟩ := (f.inverse _ _ _).1 h
        exact ⟨out, except_map_ok.2 ⟨out, hwrite, by rw [hid]⟩, rfl⟩
      · exact (fail_ok.1 h).elim
    · rintro ⟨out, hout, rfl⟩
      obtain ⟨out', hwrite, heq⟩ := except_map_ok.1 hout
      cases heq
      rw [if_pos rfl]
      exact (f.inverse _ _ _).2 ⟨out, hwrite, rfl⟩

/-- One more case with a number of its own. -/
def cons (id : Uint n) (f : Format α) (cs : Cases n β) (hfresh : cs.ids.contains id = false) :
    Cases n (α ⊕ β) where
  ids := id :: cs.ids
  read id' :=
    if id' = id then do
      let a ← f.read
      return .inl a
    else do
      let b ← cs.read id'
      return .inr b
  write
    | .inl a => (f.write a).map fun out => (id, out)
    | .inr b => cs.write b
  write_mem {v p} h := by
    cases v with
    | inl a =>
      obtain ⟨out, -, rfl⟩ := except_map_ok.1 h
      exact List.mem_cons_self
    | inr b => exact List.mem_cons_of_mem _ (cs.write_mem h)
  inverse id' bs v rest := by
    constructor
    · intro h
      split at h
      · rename_i hid
        obtain ⟨a, bs', hread, hret⟩ := bind_ok.1 h
        obtain ⟨rfl, rfl⟩ := pure_ok.1 hret
        obtain ⟨out, hwrite, rfl⟩ := (f.inverse _ _ _).1 hread
        exact ⟨out, except_map_ok.2 ⟨out, hwrite, by rw [hid]⟩, rfl⟩
      · obtain ⟨b, bs', hread, hret⟩ := bind_ok.1 h
        obtain ⟨rfl, rfl⟩ := pure_ok.1 hret
        exact (cs.inverse _ _ _ _).1 hread
    · rintro ⟨out, hout, rfl⟩
      cases v with
      | inl a =>
        obtain ⟨out', hwrite, heq⟩ := except_map_ok.1 hout
        cases heq
        rw [if_pos rfl]
        exact bind_ok.2 ⟨a, rest, (f.inverse _ _ _).2 ⟨out, hwrite, rfl⟩, rfl⟩
      | inr b =>
        have hne : id' ≠ id := by
          rintro rfl
          rw [List.contains_iff_mem.2 (cs.write_mem hout)] at hfresh
          cases hfresh
        rw [if_neg hne]
        exact bind_ok.2 ⟨b, rest, (cs.inverse _ _ _ _).2 ⟨out, hout, rfl⟩, rfl⟩

end Cases

namespace Format

variable {α : Type}

/-- The number of a case, and its value. -/
def switch (n : ℕ) (cs : Cases n α) : Format α where
  read := do
    let id ← readUint n
    cs.read id
  write a := do
    let (id, out) ← cs.write a
    return writeUint id ++ out
  inverse bs a rest := by
    constructor
    · intro h
      obtain ⟨id, bs', hread, hcase⟩ := bind_ok.1 h
      obtain rfl := (readUint_exact n _ _ _).1 hread
      obtain ⟨out, hout, rfl⟩ := (cs.inverse _ _ _ _).1 hcase
      exact ⟨writeUint id ++ out, except_bind_ok.2 ⟨(id, out), hout, rfl⟩,
        (List.append_assoc _ _ _).symm⟩
    · rintro ⟨out, hout, rfl⟩
      obtain ⟨⟨id, out'⟩, hwrite, hret⟩ := except_bind_ok.1 hout
      cases hret
      exact bind_ok.2 ⟨id, out' ++ rest, (readUint_exact n _ _ _).2 (List.append_assoc _ _ _),
        (cs.inverse _ _ _ _).2 ⟨out', hwrite, rfl⟩⟩

/-! ## Whole strings -/

/-- Read a value that takes up the whole string. -/
def decode (f : Format α) (bs : List UInt8) : Except IoError α := readAll f.read bs

/-- **A string is accepted iff it is what is written for its value.** -/
theorem decode_iff (f : Format α) {bs : List UInt8} {a : α} :
    f.decode bs = .ok a ↔ f.write a = .ok bs := f.inverse.readAll

end Format

end ByteString
