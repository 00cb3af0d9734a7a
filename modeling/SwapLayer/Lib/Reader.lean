import SwapLayer.Lib.Bytes
import SwapLayer.Lib.Program

/-!
# Readers and writers

A reader takes bytes off the front of a string and returns a value, or gives up: it is a program
(`Lib/Program`) whose state is the bytes not read yet. Unlike a slice (`Lib/Bytes`), a reader
never sees past the end. A writer turns a value into bytes, or refuses the value.

The values carry their widths: a `Uint n` fits in `n` bytes, a `Prefixed n` has a length that
fits in `n` bytes, so that writing them loses nothing.

`Exact read write` says that `read` takes off exactly what the total writer `write` puts down,
and `Inverse read write` the same for a writer that may refuse. Both state the two round trips at
once: what was written is read back, and what is read has only one encoding.

Results:
* `readExact_exact`, `readUint_exact`, `readPrefixed_exact`, `Exact.option`: the building blocks.
* `readMany_ok`: a list of given length.
* `Exact.append_inj`: what was written can be told from what follows.
* `Inverse.readAll`: a whole string is accepted iff it is what the writer writes.
-/

namespace ByteString

open Program

/-- Why a reader or a writer gives up. -/
inductive IoError
  | unexpectedEof
  | invalidInput
  | invalidFlag
  | trailingBytes
  | invalidData (text : String)
  deriving DecidableEq

/-- A program over the bytes not read yet. -/
abbrev Reader (α : Type) := StateT (List UInt8) (Except IoError) α

/-- An unsigned integer of `n` bytes. -/
abbrev Uint (n : ℕ) := Fin (256 ^ n)

/-- A byte string whose length is an unsigned integer of `n` bytes. -/
abbrev Prefixed (n : ℕ) := {bs : List UInt8 // bs.length < 256 ^ n}

/-- The integer in the `n` bytes from `off` on. -/
def uintAt (n : ℕ) (bs : List UInt8) (off : ℕ) : Uint n := ⟨readBE n bs off, readBE_lt n bs off⟩

/-! ## Readers -/

/-- The next `n` bytes. -/
def readExact (n : ℕ) : Reader (Fixed n) := fun bs =>
  if h : n ≤ bs.length then .ok (⟨bs.take n, by simp [h]⟩, bs.drop n) else .error .unexpectedEof

/-- A big-endian integer of `n` bytes. -/
def readUint (n : ℕ) : Reader (Uint n) := do
  let bytes ← readExact n
  return ⟨ofBE bytes.toList, by simpa using ofBE_lt bytes.toList⟩

/-- A byte string behind its length. -/
def readPrefixed (n : ℕ) : Reader (Prefixed n) := do
  let len ← readUint n
  let bytes ← readExact len
  return ⟨bytes.toList, by simp [len.isLt]⟩

/-- A byte that must be 0 or 1. -/
def readBool : Reader Bool := do
  let byte ← readUint 1
  if byte.val = 0 then pure false
  else if byte.val = 1 then pure true
  else fail .invalidFlag

/-- A flag, and a value if it is set. -/
def readOption {α : Type} (read : Reader α) : Reader (Option α) := do
  let present ← readBool
  match present with
  | true => do
    let a ← read
    return some a
  | false => pure none

/-- `k` values in a row. -/
def readMany {α : Type} (read : Reader α) : ℕ → Reader (List α)
  | 0 => pure []
  | k + 1 => do
    let a ← read
    let as ← readMany read k
    return a :: as

/-- A value that takes up the whole string. -/
def readAll {α : Type} (read : Reader α) (bs : List UInt8) : Except IoError α := do
  let (a, rest) ← read bs
  ensure (rest = []) .trailingBytes
  return a

/-! ## Writers -/

def writeUint {n : ℕ} (v : Uint n) : List UInt8 := toBE n v

def writePrefixed {n : ℕ} (v : Prefixed n) : List UInt8 := toBE n v.val.length ++ v.val

def writeOption {α : Type} (write : α → List UInt8) : Option α → List UInt8
  | none => toBE 1 0
  | some a => toBE 1 1 ++ write a

/-- Writing an integer read from a slice gives the slice. -/
theorem writeUint_uintAt (n : ℕ) (bs : List UInt8) (off : ℕ) :
    writeUint (uintAt n bs off) = slice bs off n :=
  toBE_readBE n bs off

/-! ## Round trips -/

variable {α : Type}

/-- `read` takes off exactly what `write` puts down. -/
def Exact (read : Reader α) (write : α → List UInt8) : Prop :=
  ∀ bs a rest, read bs = .ok (a, rest) ↔ bs = write a ++ rest

/-- `read` takes off exactly what `write` puts down, if `write` accepts the value. -/
def Inverse (read : Reader α) (write : α → Except IoError (List UInt8)) : Prop :=
  ∀ bs a rest, read bs = .ok (a, rest) ↔ ∃ out, write a = .ok out ∧ bs = out ++ rest

theorem readExact_exact (n : ℕ) : Exact (readExact n) List.Vector.toList := by
  intro bs v rest
  unfold readExact
  constructor
  · intro h
    split at h
    · cases h
      exact (List.take_append_drop n bs).symm
    · cases h
  · rintro rfl
    have hle : n ≤ (v.toList ++ rest).length := by simp
    have htake : (v.toList ++ rest).take n = v.toList := List.take_left' v.toList_length
    have hdrop : (v.toList ++ rest).drop n = rest := List.drop_left' v.toList_length
    rw [dif_pos hle]
    congr 2
    exact Subtype.ext htake

theorem readUint_exact (n : ℕ) : Exact (readUint n) writeUint := by
  intro bs v rest
  simp only [readUint, bind_ok, pure_ok, readExact_exact n _ _ _]
  constructor
  · rintro ⟨bytes, _, rfl, rfl, rfl⟩
    have := toBE_ofBE bytes.toList
    rw [List.Vector.toList_length] at this
    rw [writeUint, this]
  · rintro rfl
    exact ⟨⟨toBE n v, length_toBE n v⟩, rest, rfl, Fin.ext (ofBE_toBE_of_lt v.isLt).symm, rfl⟩

theorem readPrefixed_exact (n : ℕ) : Exact (readPrefixed n) writePrefixed := by
  intro bs v rest
  simp only [readPrefixed, bind_ok, pure_ok, readExact_exact _ _ _ _, readUint_exact n _ _ _]
  constructor
  · rintro ⟨len, _, rfl, bytes, _, rfl, rfl, rfl⟩
    simp [writePrefixed, writeUint]
  · rintro rfl
    refine ⟨⟨v.val.length, v.property⟩, v.val ++ rest, ?_, ⟨v.val, rfl⟩, rest, rfl, rfl, rfl⟩
    rw [writePrefixed, List.append_assoc, writeUint]

theorem readBool_exact : Exact readBool fun b => toBE 1 b.toNat := by
  intro bs b rest
  simp only [readBool, bind_ok, readUint_exact 1 _ _ _, writeUint]
  constructor
  · rintro ⟨byte, _, rfl, h⟩
    split at h
    · rename_i h₀
      obtain ⟨rfl, rfl⟩ := pure_ok.1 h
      rw [h₀]
      rfl
    · split at h
      · rename_i h₁
        obtain ⟨rfl, rfl⟩ := pure_ok.1 h
        rw [h₁]
        rfl
      · exact (fail_ok.1 h).elim
  · rintro rfl
    cases b with
    | false => exact ⟨0, rest, rfl, rfl⟩
    | true => exact ⟨1, rest, rfl, rfl⟩

theorem Exact.option {read : Reader α} {write : α → List UInt8} (h : Exact read write) :
    Exact (readOption read) (writeOption write) := by
  intro bs o rest
  simp only [readOption, bind_ok, readBool_exact _ _ _]
  constructor
  · rintro ⟨present, bs', rfl, h'⟩
    cases present with
    | false =>
      obtain ⟨rfl, rfl⟩ := pure_ok.1 h'
      rfl
    | true =>
      obtain ⟨a, _, hread, hret⟩ := bind_ok.1 h'
      obtain ⟨rfl, rfl⟩ := pure_ok.1 hret
      rw [(h _ _ _).1 hread]
      exact (List.append_assoc _ _ _).symm
  · rintro rfl
    cases o with
    | none => exact ⟨false, rest, rfl, rfl⟩
    | some a =>
      refine ⟨true, write a ++ rest, List.append_assoc _ _ _, ?_⟩
      exact bind_ok.2 ⟨a, rest, (h _ _ _).2 rfl, rfl⟩

/-- **A list of values** is read iff it has the length asked for and was written in order. -/
theorem readMany_ok {read : Reader α} {write : α → List UInt8} (h : Exact read write) {k : ℕ}
    {bs : List UInt8} {as : List α} {rest : List UInt8} :
    readMany read k bs = .ok (as, rest) ↔ as.length = k ∧ bs = as.flatMap write ++ rest := by
  induction k generalizing bs as rest with
  | zero =>
    constructor
    · intro hr
      obtain ⟨rfl, rfl⟩ := pure_ok.1 hr
      exact ⟨rfl, rfl⟩
    · rintro ⟨hlen, rfl⟩
      rw [List.length_eq_zero_iff.1 hlen]
      rfl
  | succ k ih =>
    simp only [readMany, bind_ok, pure_ok, h _ _ _, ih]
    constructor
    · rintro ⟨a, _, rfl, as', _, ⟨hlen, rfl⟩, rfl, rfl⟩
      exact ⟨congrArg (· + 1) hlen, by simp⟩
    · rintro ⟨hlen, rfl⟩
      cases as with
      | nil => cases hlen
      | cons a as =>
        exact ⟨a, as.flatMap write ++ rest, by simp, as, rest, ⟨Nat.succ.inj hlen, rfl⟩, rfl, rfl⟩

theorem Exact.inverse {read : Reader α} {write : α → List UInt8} (h : Exact read write) :
    Inverse read fun a => .ok (write a) := by
  intro bs a rest
  rw [h]
  exact ⟨fun hbs => ⟨_, rfl, hbs⟩, fun ⟨out, hout, hbs⟩ => by cases hout; exact hbs⟩

/-- A list of values that are read back one by one is read back. -/
theorem readMany_flatMap {read : Reader α} {write : α → List UInt8} {as : List α}
    (h : ∀ a ∈ as, ∀ rest, read (write a ++ rest) = .ok (a, rest)) (rest : List UInt8) :
    readMany read as.length (as.flatMap write ++ rest) = .ok (as, rest) := by
  induction as with
  | nil => rfl
  | cons a as ih =>
    rw [List.flatMap_cons, List.append_assoc]
    refine bind_ok.2 ⟨a, as.flatMap write ++ rest, h a List.mem_cons_self _, ?_⟩
    exact bind_ok.2 ⟨as, rest, ih fun a ha => h a (List.mem_cons_of_mem _ ha), rfl⟩

/-- What an exact writer puts down can be told from what follows it. -/
theorem Exact.append_inj {read : Reader α} {write : α → List UInt8} (h : Exact read write)
    {a b : α} {xs ys : List UInt8} (he : write a ++ xs = write b ++ ys) : a = b ∧ xs = ys := by
  have ha := (h (write a ++ xs) a xs).2 rfl
  have hb := (h (write a ++ xs) b ys).2 he
  rw [ha] at hb
  cases hb
  exact ⟨rfl, rfl⟩

/-- **Whole strings**: a string is accepted iff it is what the writer writes for its value. -/
theorem Inverse.readAll {read : Reader α} {write : α → Except IoError (List UInt8)}
    (h : Inverse read write) {bs : List UInt8} {a : α} :
    readAll read bs = .ok a ↔ write a = .ok bs := by
  simp only [ByteString.readAll, except_bind_ok, except_pure_ok, ensure_ok, Prod.exists]
  constructor
  · rintro ⟨a', rest, hread, -, hrest, rfl⟩
    obtain ⟨out, hwrite, rfl⟩ := (h _ _ _).1 hread
    rw [hrest, List.append_nil]
    exact hwrite
  · intro hwrite
    exact ⟨a, [], (h _ _ _).2 ⟨bs, hwrite, (List.append_nil bs).symm⟩, (), rfl, rfl⟩

end ByteString
