import SwapLayer.Lib.Ledger
import SwapLayer.Lib.Program
import Mathlib.Data.Nat.Notation
import Mathlib.Logic.Function.Basic

/-!
# Token accounts and lamports

The accounts that the two SPL token programs and the system program keep, over an arbitrary type
of keys, and the instructions of these programs that others call. A token account belongs to one
of the two programs and only that program moves its tokens; it has a mint, an owner, an amount
and maybe a delegate. Every account holds lamports. On the native mint tokens are lamports: a
transfer moves both, and closing an account pays the tokens out as lamports.

An instruction succeeds iff its checks hold; then its effect is an equation (`…_ok`):
* `transfer_ok`: the owner or a delegate moves tokens between accounts of one mint.
* `transfer_moves`: the lamports that go with it.
* `transferOut_ok`, `transferIn_ok`: the same into, or from, an account that is not kept here.
* `closeAccount_ok`: the account disappears and its lamports go to the destination.
* `setOwner_ok`, `approve_ok`, `syncNative_ok`, `systemTransfer_ok`, `initToken_ok`.
* `Kept.closeAccount` and its companions: an account that an instruction does not name is as it was,
  but for lamports paid in.
* `Acts.transfer` and its companions: an account of somebody who does not sign only gains.
* `Minted.transfer` and its companions: an account keeps its mint.
-/

namespace SplToken

open Program

variable {κ : Type} [DecidableEq κ]

/-- The token program and its successor. -/
inductive TokenProgram
  | token
  | token2022
  deriving DecidableEq, Repr

structure TokenAccount (κ : Type) where
  program : TokenProgram
  mint : κ
  owner : κ
  amount : ℕ
  delegate : Option κ
  delegatedAmount : ℕ
  deriving DecidableEq

/-- The accounts: token accounts under their keys, and the lamports of every key. -/
structure Accounts (κ : Type) where
  tokens : κ → Option (TokenAccount κ)
  lamports : κ → ℕ

inductive TokenError
  | accountNotInitialized
  | accountInUse
  | incorrectProgram
  | insufficientFunds
  | mintMismatch
  | ownerMismatch
  | nonNativeHasBalance
  | nonNativeNotSupported
  | invalidState
  | invalidAccountData
  | invalidArgument
  | notRentExempt
  deriving DecidableEq

/-- An instruction of one of the programs. -/
abbrev Op (κ α : Type) := StateT (Accounts κ) (Except TokenError) α

namespace Accounts

/-- Replace a token account. -/
def setToken (s : Accounts κ) (k : κ) (a : Option (TokenAccount κ)) : Accounts κ :=
  { s with tokens := Function.update s.tokens k a }

def setLamports (s : Accounts κ) (k : κ) (n : ℕ) : Accounts κ :=
  { s with lamports := Function.update s.lamports k n }

/-- Move `n` lamports; nothing happens between a key and itself. -/
def moveLamports (s : Accounts κ) (src dst : κ) (n : ℕ) : Accounts κ :=
  if src = dst then s
  else (s.setLamports src (s.lamports src - n)).setLamports dst (s.lamports dst + n)

/-- Move `n` lamports if the mint is the native one. -/
def moveNative (native : κ) (s : Accounts κ) (mint src dst : κ) (n : ℕ) : Accounts κ :=
  if mint = native then s.moveLamports src dst n else s

@[simp] theorem setToken_tokens (s : Accounts κ) (k : κ) (a : Option (TokenAccount κ)) :
    (s.setToken k a).tokens = Function.update s.tokens k a := rfl

@[simp] theorem setToken_lamports (s : Accounts κ) (k : κ) (a : Option (TokenAccount κ)) :
    (s.setToken k a).lamports = s.lamports := rfl

@[simp] theorem setLamports_tokens (s : Accounts κ) (k : κ) (n : ℕ) :
    (s.setLamports k n).tokens = s.tokens := rfl

@[simp] theorem setLamports_lamports (s : Accounts κ) (k : κ) (n : ℕ) :
    (s.setLamports k n).lamports = Function.update s.lamports k n := rfl

@[simp] theorem moveLamports_tokens (s : Accounts κ) (src dst : κ) (n : ℕ) :
    (s.moveLamports src dst n).tokens = s.tokens := by
  unfold moveLamports
  split <;> rfl

@[simp] theorem moveNative_tokens (native : κ) (s : Accounts κ) (mint src dst : κ) (n : ℕ) :
    (s.moveNative native mint src dst n).tokens = s.tokens := by
  unfold moveNative
  split
  · exact moveLamports_tokens ..
  · rfl

theorem moveLamports_dst (s : Accounts κ) {src dst : κ} (hne : src ≠ dst) (n : ℕ) :
    (s.moveLamports src dst n).lamports dst = s.lamports dst + n := by
  rw [moveLamports, if_neg hne]
  simp

theorem moveLamports_src (s : Accounts κ) {src dst : κ} (hne : src ≠ dst) (n : ℕ) :
    (s.moveLamports src dst n).lamports src = s.lamports src - n := by
  rw [moveLamports, if_neg hne]
  simp [hne]

theorem moveLamports_other (s : Accounts κ) {src dst k : κ} (hsrc : k ≠ src) (hdst : k ≠ dst)
    (n : ℕ) : (s.moveLamports src dst n).lamports k = s.lamports k := by
  unfold moveLamports
  split
  · rfl
  · simp [hsrc, hdst]

theorem moveLamports_congr {s s' : Accounts κ} (h : s.lamports = s'.lamports) (src dst : κ) (n : ℕ) :
    (s.moveLamports src dst n).lamports = (s'.moveLamports src dst n).lamports := by
  unfold moveLamports
  split
  · exact h
  · simp [h]

theorem moveLamports_zero (s : Accounts κ) (src dst : κ) : s.moveLamports src dst 0 = s := by
  unfold moveLamports
  split
  · rfl
  · simp [setLamports]

/-- **Lamports that move** come in at one key and go out at the other. -/
theorem moveLamports_moves {s : Accounts κ} {src : κ} {n : ℕ} (hn : n ≤ s.lamports src) (dst : κ) :
    Ledger.Moves s.lamports (s.moveLamports src dst n).lamports (Pi.single dst n)
      (Pi.single src n) := by
  intro k
  by_cases hne : src = dst
  · rw [moveLamports, if_pos hne, hne]
  by_cases hsrc : k = src
  · rw [hsrc, moveLamports_src s hne, Ledger.single_self, Ledger.single_other hne]
    omega
  by_cases hdst : k = dst
  · rw [hdst, moveLamports_dst s hne, Ledger.single_self, Ledger.single_other (Ne.symm hne),
      Nat.add_zero]
  · rw [moveLamports_other s hsrc hdst, Ledger.single_other hsrc, Ledger.single_other hdst]

end Accounts

/-! ## Instructions -/

section Instructions

def load (k : κ) : Op κ (TokenAccount κ) := fun s =>
  match s.tokens k with
  | some a => .ok (a, s)
  | none => .error .accountNotInitialized

def modify (f : Accounts κ → Accounts κ) : Op κ Unit := fun s => .ok ((), f s)

/-- The delegate may move what was delegated, the owner everything. -/
def TokenAccount.authorize (a : TokenAccount κ) (authority : κ) (n : ℕ) :
    Except TokenError (TokenAccount κ) :=
  if a.delegate = some authority then
    if a.delegatedAmount < n then .error .insufficientFunds
    else .ok { a with
      delegate := if a.delegatedAmount = n then none else a.delegate
      delegatedAmount := a.delegatedAmount - n }
  else if a.owner = authority then .ok a
  else .error .ownerMismatch

/-- What a transfer checks of its source; the source as the authority leaves it. -/
def checkSource (program : TokenProgram) (src authority : κ) (n : ℕ) : Op κ (TokenAccount κ) := do
  let a ← load src
  require (a.program = program) .incorrectProgram
  require (n ≤ a.amount) .insufficientFunds
  lift (a.authorize authority n)

/-- The accounts after a transfer between different accounts. -/
def transferred (native src dst : κ) (a b : TokenAccount κ) (n : ℕ) (s : Accounts κ) :
    Accounts κ :=
  ((s.setToken src (some { a with amount := a.amount - n })).setToken dst
    (some { b with amount := b.amount + n })).moveNative native a.mint src dst n

/-- `Transfer` and `TransferChecked`; only the checks are made if source and destination agree. -/
def transfer (native : κ) (program : TokenProgram) (src dst authority : κ) (n : ℕ) :
    Op κ Unit := do
  let a ← checkSource program src authority n
  let b ← load dst
  require (b.program = program) .incorrectProgram
  require (a.mint = b.mint) .mintMismatch
  if src = dst then pure () else modify (transferred native src dst a b n)

/-- A transfer into an account that is not kept here. -/
def transferOut (native : κ) (program : TokenProgram) (src authority : κ) (n : ℕ) :
    Op κ Unit := do
  let a ← checkSource program src authority n
  require (a.mint ≠ native) .mintMismatch
  modify fun s => s.setToken src (some { a with amount := a.amount - n })

/-- A transfer from an account that is not kept here, of another mint than the native one. -/
def transferIn (native : κ) (program : TokenProgram) (dst mint : κ) (n : ℕ) : Op κ Unit := do
  let b ← load dst
  require (b.program = program) .incorrectProgram
  require (b.mint = mint) .mintMismatch
  require (mint ≠ native) .mintMismatch
  modify fun s => s.setToken dst (some { b with amount := b.amount + n })

/-- `CloseAccount`. -/
def closeAccount (native : κ) (program : TokenProgram) (account destination authority : κ) :
    Op κ Unit := do
  require (account ≠ destination) .invalidAccountData
  let a ← load account
  require (a.program = program) .incorrectProgram
  require (a.mint = native ∨ a.amount = 0) .nonNativeHasBalance
  require (a.owner = authority) .ownerMismatch
  modify fun s => (s.setToken account none).moveLamports account destination (s.lamports account)

/-- `SetAuthority` of the owner: the delegate is dismissed. -/
def setOwner (program : TokenProgram) (account authority newOwner : κ) : Op κ Unit := do
  let a ← load account
  require (a.program = program) .incorrectProgram
  require (a.owner = authority) .ownerMismatch
  modify fun s => s.setToken account
    (some { a with owner := newOwner, delegate := none, delegatedAmount := 0 })

/-- `Approve`. -/
def approve (program : TokenProgram) (account delegate authority : κ) (n : ℕ) : Op κ Unit := do
  let a ← load account
  require (a.program = program) .incorrectProgram
  require (a.owner = authority) .ownerMismatch
  modify fun s => s.setToken account (some { a with delegate := some delegate, delegatedAmount := n })

/-- `SyncNative`: the amount grows to what the account holds beyond its rent. -/
def syncNative (native : κ) (program : TokenProgram) (rent : ℕ) (account : κ) : Op κ Unit := do
  let a ← load account
  require (a.program = program) .incorrectProgram
  require (a.mint = native) .nonNativeNotSupported
  let s ← get
  require (a.amount + rent ≤ s.lamports account) .invalidState
  modify fun s => s.setToken account (some { a with amount := s.lamports account - rent })

/-- The transfer of the system program; a token account is none of its own, and cannot pay. -/
def systemTransfer (src dst : κ) (n : ℕ) : Op κ Unit := do
  let s ← get
  require (s.tokens src = none) .invalidArgument
  require (n ≤ s.lamports src) .insufficientFunds
  modify fun s => s.moveLamports src dst n

/-- `InitializeAccount3` of an account that holds its rent. What it holds beyond the rent counts as
native tokens. -/
def initToken (native : κ) (program : TokenProgram) (rent : ℕ) (account mint owner : κ) :
    Op κ Unit := do
  let s ← get
  require (s.tokens account = none) .accountInUse
  require (rent ≤ s.lamports account) .notRentExempt
  modify fun s => s.setToken account (some
    ⟨program, mint, owner, if mint = native then s.lamports account - rent else 0, none, 0⟩)

end Instructions

/-! ## Their effects -/

section Effects

variable {native src dst authority account destination owner mint k : κ}
  {program : TokenProgram} {n rent : ℕ} {s s' : Accounts κ} {a : TokenAccount κ} {u : Unit}

omit [DecidableEq κ] in
theorem load_ok : load k s = .ok (a, s') ↔ s.tokens k = some a ∧ s' = s := by
  unfold load
  cases s.tokens k with
  | none => exact ⟨fun h => (by cases h), fun ⟨h, _⟩ => (by cases h)⟩
  | some b =>
    constructor
    · intro h
      cases h
      exact ⟨rfl, rfl⟩
    · rintro ⟨h, rfl⟩
      cases h
      rfl

omit [DecidableEq κ] in
theorem modify_ok {f : Accounts κ → Accounts κ} : modify f s = .ok (u, s') ↔ s' = f s :=
  ⟨fun h => by cases h; rfl, fun h => by rw [h]; rfl⟩

/-- The authority changes nothing but the delegation. -/
theorem authorize_ok {a' : TokenAccount κ} (h : a.authorize authority n = .ok a') :
    (a.delegate = some authority ∨ a.owner = authority) ∧ a'.program = a.program ∧
      a'.mint = a.mint ∧ a'.owner = a.owner ∧ a'.amount = a.amount := by
  unfold TokenAccount.authorize at h
  split at h
  · rename_i hd
    split at h
    · cases h
    · cases h
      exact ⟨.inl hd, rfl, rfl, rfl, rfl⟩
  · split at h
    · rename_i ho
      cases h
      exact ⟨.inr ho, rfl, rfl, rfl, rfl⟩
    · cases h

/-- A delegation is used up or stays. -/
theorem authorize_delegate {a' : TokenAccount κ} (h : a.authorize authority n = .ok a') :
    a'.delegate = none ∨ a'.delegate = a.delegate := by
  unfold TokenAccount.authorize at h
  split at h
  · split at h
    · cases h
    · cases h
      by_cases hall : a.delegatedAmount = n
      · exact .inl (if_pos hall)
      · exact .inr (if_neg hall)
  · split at h
    · cases h
      exact .inr rfl
    · cases h

/-- The owner, unless also the delegate, leaves the account as it is. -/
theorem authorize_owner (hd : a.delegate ≠ some authority) (ho : a.owner = authority) (n : ℕ) :
    a.authorize authority n = .ok a := by
  rw [TokenAccount.authorize, if_neg hd, if_pos ho]

theorem checkSource_ok {a' : TokenAccount κ} :
    checkSource program src authority n s = .ok (a', s') ↔
      ∃ a, s.tokens src = some a ∧ a.program = program ∧ n ≤ a.amount ∧
        a.authorize authority n = .ok a' ∧ s' = s := by
  simp only [checkSource, bind_ok, load_ok, require_ok, lift_ok]
  constructor
  · rintro ⟨a, _, ⟨ha, rfl⟩, _, _, ⟨hp, rfl⟩, _, _, ⟨hn, rfl⟩, hauth, rfl⟩
    exact ⟨a, ha, hp, hn, hauth, rfl⟩
  · rintro ⟨a, ha, hp, hn, hauth, rfl⟩
    exact ⟨a, _, ⟨ha, rfl⟩, (), _, ⟨hp, rfl⟩, (), _, ⟨hn, rfl⟩, hauth, rfl⟩

/-- **A transfer**, between different accounts of one mint. -/
theorem transfer_ok (hne : src ≠ dst) :
    transfer native program src dst authority n s = .ok (u, s') ↔
      ∃ a a' b, s.tokens src = some a ∧ s.tokens dst = some b ∧ a.program = program ∧
        b.program = program ∧ a.mint = b.mint ∧ n ≤ a.amount ∧
        a.authorize authority n = .ok a' ∧ s' = transferred native src dst a' b n s := by
  simp only [transfer, bind_ok, checkSource_ok, load_ok, require_ok, if_neg hne, modify_ok]
  constructor
  · rintro ⟨a', _, ⟨a, ha, hp, hn, hauth, rfl⟩, b, _, ⟨hb, rfl⟩, _, _, ⟨hq, rfl⟩, _, _,
      ⟨hm, rfl⟩, rfl⟩
    exact ⟨a, a', b, ha, hb, hp, hq, (authorize_ok hauth).2.2.1 ▸ hm, hn, hauth, rfl⟩
  · rintro ⟨a, a', b, ha, hb, hp, hq, hm, hn, hauth, rfl⟩
    have hm' : a'.mint = b.mint := (authorize_ok hauth).2.2.1.trans hm
    exact ⟨a', _, ⟨a, ha, hp, hn, hauth, rfl⟩, b, _, ⟨hb, rfl⟩, (), _, ⟨hq, rfl⟩, (), _,
      ⟨hm', rfl⟩, rfl⟩

section Transferred

variable {a b : TokenAccount κ}

theorem transferred_dst :
    (transferred native src dst a b n s).tokens dst = some { b with amount := b.amount + n } := by
  simp [transferred]

theorem transferred_src (hne : src ≠ dst) :
    (transferred native src dst a b n s).tokens src = some { a with amount := a.amount - n } := by
  simp [transferred, hne]

theorem transferred_other (hsrc : k ≠ src) (hdst : k ≠ dst) :
    (transferred native src dst a b n s).tokens k = s.tokens k := by
  simp [transferred, hsrc, hdst]

/-- `n` more tokens in the account under `k`. -/
def credited (tokens : κ → Option (TokenAccount κ)) (k : κ) (n : ℕ) : κ → Option (TokenAccount κ) :=
  Function.update tokens k ((tokens k).map fun a => { a with amount := a.amount + n })

theorem credited_self {tokens : κ → Option (TokenAccount κ)} (h : tokens k = some a) :
    credited tokens k n k = some { a with amount := a.amount + n } := by
  simp [credited, h]

theorem credited_other {tokens : κ → Option (TokenAccount κ)} (h : k ≠ dst) :
    credited tokens dst n k = tokens k := by
  simp [credited, h]

theorem credited_zero (tokens : κ → Option (TokenAccount κ)) (k : κ) :
    credited tokens k 0 = tokens := by
  simp [credited]

/-- No account loses by a credit. -/
theorem credited_grows {tokens : κ → Option (TokenAccount κ)} (h : tokens k = some a) :
    ∃ m, a.amount ≤ m ∧ credited tokens dst n k = some { a with amount := m } := by
  by_cases hk : k = dst
  · subst hk
    exact ⟨a.amount + n, Nat.le_add_right _ _, credited_self h⟩
  · exact ⟨a.amount, Nat.le_refl _, (credited_other hk).trans h⟩

/-- A credit creates no account. -/
theorem credited_eq_some {tokens : κ → Option (TokenAccount κ)}
    (h : credited tokens dst n k = some a) :
    ∃ a₀, tokens k = some a₀ ∧ a₀.amount ≤ a.amount ∧ a = { a₀ with amount := a.amount } := by
  cases hk : tokens k with
  | none =>
    by_cases he : k = dst
    · subst he
      rw [credited, Function.update_self, hk] at h
      cases h
    · rw [credited_other he, hk] at h
      cases h
  | some a₀ =>
    obtain ⟨m, hle, hm⟩ : ∃ m, a₀.amount ≤ m ∧ credited tokens dst n k =
      some { a₀ with amount := m } := credited_grows hk
    cases hm.symm.trans h
    exact ⟨a₀, rfl, hle, rfl⟩

/-- Accounts credited elsewhere can be removed before or after. -/
theorem credited_update {tokens : κ → Option (TokenAccount κ)} {c : Option (TokenAccount κ)}
    (h : k ≠ dst) :
    credited (Function.update tokens k c) dst n = Function.update (credited tokens dst n) k c := by
  unfold credited
  rw [Function.update_of_ne (Ne.symm h), Function.update_comm h]

/-- What an account held before does not matter when it is replaced. -/
theorem update_credited_update (tokens : κ → Option (TokenAccount κ)) (k dst : κ) (n : ℕ)
    (c c' : Option (TokenAccount κ)) :
    Function.update (credited (Function.update tokens k c) dst n) k c' =
      Function.update (credited tokens dst n) k c' := by
  by_cases h : k = dst
  · subst h
    rw [credited, credited, Function.update_idem, Function.update_idem, Function.update_idem]
  · rw [credited_update h, Function.update_idem]

theorem transferred_tokens (hne : src ≠ dst) (hb : s.tokens dst = some b) :
    (transferred native src dst a b n s).tokens =
      Function.update (credited s.tokens dst n) src (some { a with amount := a.amount - n }) := by
  simp [transferred, credited, hb, Function.update_comm hne]

theorem transferred_lamports_other (hsrc : k ≠ src) (hdst : k ≠ dst) :
    (transferred native src dst a b n s).lamports k = s.lamports k := by
  unfold transferred Accounts.moveNative
  split
  · exact Accounts.moveLamports_other _ hsrc hdst n
  · rfl

theorem transferred_lamports_dst (hne : src ≠ dst) (hm : a.mint = native) :
    (transferred native src dst a b n s).lamports dst = s.lamports dst + n := by
  rw [transferred, Accounts.moveNative, if_pos hm]
  exact Accounts.moveLamports_dst _ hne n

theorem transferred_lamports_src (hne : src ≠ dst) (hm : a.mint = native) :
    (transferred native src dst a b n s).lamports src = s.lamports src - n := by
  rw [transferred, Accounts.moveNative, if_pos hm]
  exact Accounts.moveLamports_src _ hne n

theorem transferred_lamports_of_ne (hm : a.mint ≠ native) :
    (transferred native src dst a b n s).lamports = s.lamports := by
  rw [transferred, Accounts.moveNative, if_neg hm]
  rfl

end Transferred

/-- **A transfer by the owner**, who did not delegate. -/
theorem transfer_owner_ok {a : TokenAccount κ} (hne : src ≠ dst) (ha : s.tokens src = some a)
    (hd : a.delegate = none) :
    transfer native program src dst authority n s = .ok (u, s') ↔
      a.program = program ∧ a.owner = authority ∧ n ≤ a.amount ∧
        ∃ b, s.tokens dst = some b ∧ b.program = program ∧ a.mint = b.mint ∧
          s' = transferred native src dst a b n s := by
  have hnot : a.delegate ≠ some authority := by simp [hd]
  rw [transfer_ok hne]
  constructor
  · rintro ⟨a₁, a', b, ha₁, hb, hp, hq, hm, hn, hauth, rfl⟩
    obtain rfl := Option.some.inj (ha.symm.trans ha₁)
    have howner := (authorize_ok hauth).1.resolve_left hnot
    rw [authorize_owner hnot howner] at hauth
    cases hauth
    exact ⟨hp, howner, hn, b, hb, hq, hm, rfl⟩
  · rintro ⟨hp, howner, hn, b, hb, hq, hm, rfl⟩
    exact ⟨a, a, b, ha, hb, hp, hq, hm, hn, authorize_owner hnot howner n, rfl⟩

/-- A transfer from an account to itself changes nothing. -/
theorem transfer_self (h : transfer native program src src authority n s = .ok (u, s')) :
    s' = s := by
  simp only [transfer, bind_ok, checkSource_ok, load_ok, require_ok, if_true, pure_ok] at h
  obtain ⟨_, _, ⟨_, _, _, _, _, rfl⟩, _, _, ⟨_, rfl⟩, _, _, ⟨_, rfl⟩, _, _, ⟨_, rfl⟩, _, rfl⟩ := h
  rfl

/-- **The lamports of a transfer**: on the native mint the destination gains what it gains in tokens.
Only the source has to answer for it. -/
theorem transfer_moves {a : TokenAccount κ} (ha : s.tokens src = some a)
    (h : transfer native program src dst authority n s = .ok (u, s')) :
    ∃ i o, Ledger.Moves s.lamports s'.lamports
      (Pi.single dst (if a.mint = native then n else 0) + Pi.single src i) (Pi.single src o) := by
  by_cases hne : src = dst
  · subst hne
    rw [transfer_self h]
    refine ⟨0, if a.mint = native then n else 0, ?_⟩
    rw [Pi.single_zero, add_zero]
    exact fun k => rfl
  obtain ⟨a₁, a', c, ha₁, -, -, -, -, -, hauth, rfl⟩ := (transfer_ok hne).1 h
  obtain rfl : a = a₁ := Option.some.inj (ha.symm.trans ha₁)
  have hmint : a'.mint = a.mint := (authorize_ok hauth).2.2.1
  refine ⟨_, _, .of_other fun k hk => ?_⟩
  by_cases hnative : a.mint = native
  · rw [if_pos hnative]
    by_cases hdst : k = dst
    · rw [hdst, transferred_lamports_dst hne (hmint.trans hnative), Ledger.single_self]
    · rw [transferred_lamports_other hk hdst, Ledger.single_other hdst, Nat.add_zero]
  · rw [if_neg hnative, transferred_lamports_of_ne (hmint ▸ hnative), Pi.single_zero]
    rfl

/-- A transfer leaves every account with its owner. -/
theorem transfer_owner {a : TokenAccount κ}
    (h : transfer native program src dst authority n s = .ok (u, s')) (ha : s.tokens k = some a) :
    ∃ a', s'.tokens k = some a' ∧ a'.owner = a.owner := by
  by_cases hne : src = dst
  · subst hne
    rw [transfer_self h]
    exact ⟨a, ha, rfl⟩
  · obtain ⟨c, c', e, hc, he, -, -, -, -, hauth, rfl⟩ := (transfer_ok hne).1 h
    by_cases hsrc : k = src
    · subst hsrc
      obtain rfl := Option.some.inj (hc.symm.trans ha)
      exact ⟨_, transferred_src hne, (authorize_ok hauth).2.2.2.1⟩
    · by_cases hdst : k = dst
      · subst hdst
        obtain rfl := Option.some.inj (he.symm.trans ha)
        exact ⟨_, transferred_dst, rfl⟩
      · exact ⟨a, (transferred_other hsrc hdst).trans ha, rfl⟩

theorem transferOut_ok : transferOut native program src authority n s = .ok (u, s') ↔
    ∃ a a', s.tokens src = some a ∧ a.program = program ∧ n ≤ a.amount ∧ a.mint ≠ native ∧
      a.authorize authority n = .ok a' ∧
      s' = s.setToken src (some { a' with amount := a'.amount - n }) := by
  simp only [transferOut, bind_ok, checkSource_ok, require_ok, modify_ok]
  constructor
  · rintro ⟨a', _, ⟨a, ha, hp, hn, hauth, rfl⟩, _, _, ⟨hm, rfl⟩, rfl⟩
    exact ⟨a, a', ha, hp, hn, (authorize_ok hauth).2.2.1 ▸ hm, hauth, rfl⟩
  · rintro ⟨a, a', ha, hp, hn, hm, hauth, rfl⟩
    have hm' : a'.mint ≠ native := by rwa [(authorize_ok hauth).2.2.1]
    exact ⟨a', _, ⟨a, ha, hp, hn, hauth, rfl⟩, (), _, ⟨hm', rfl⟩, rfl⟩

theorem transferIn_ok : transferIn native program dst mint n s = .ok (u, s') ↔
    ∃ b, s.tokens dst = some b ∧ b.program = program ∧ b.mint = mint ∧ mint ≠ native ∧
      s' = s.setToken dst (some { b with amount := b.amount + n }) := by
  simp only [transferIn, bind_ok, load_ok, require_ok, modify_ok]
  constructor
  · rintro ⟨b, _, ⟨hb, rfl⟩, _, _, ⟨hp, rfl⟩, _, _, ⟨hm, rfl⟩, _, _, ⟨hn, rfl⟩, rfl⟩
    exact ⟨b, hb, hp, hm, hn, rfl⟩
  · rintro ⟨b, hb, hp, hm, hn, rfl⟩
    exact ⟨b, _, ⟨hb, rfl⟩, (), _, ⟨hp, rfl⟩, (), _, ⟨hm, rfl⟩, (), _, ⟨hn, rfl⟩, rfl⟩

/-- **Closing an account** pays all its lamports out. -/
theorem closeAccount_ok :
    closeAccount native program account destination authority s = .ok (u, s') ↔
      account ≠ destination ∧ ∃ a, s.tokens account = some a ∧ a.program = program ∧
        (a.mint = native ∨ a.amount = 0) ∧ a.owner = authority ∧
        s' = (s.setToken account none).moveLamports account destination (s.lamports account) := by
  simp only [closeAccount, bind_ok, load_ok, require_ok, modify_ok]
  constructor
  · rintro ⟨_, _, ⟨hne, rfl⟩, a, _, ⟨ha, rfl⟩, _, _, ⟨hp, rfl⟩, _, _, ⟨hz, rfl⟩, _, _, ⟨ho, rfl⟩,
      rfl⟩
    exact ⟨hne, a, ha, hp, hz, ho, rfl⟩
  · rintro ⟨hne, a, ha, hp, hz, ho, rfl⟩
    exact ⟨(), _, ⟨hne, rfl⟩, a, _, ⟨ha, rfl⟩, (), _, ⟨hp, rfl⟩, (), _, ⟨hz, rfl⟩, (), _, ⟨ho, rfl⟩,
      rfl⟩

theorem setOwner_ok : setOwner program account authority owner s = .ok (u, s') ↔
    ∃ a, s.tokens account = some a ∧ a.program = program ∧ a.owner = authority ∧
      s' = s.setToken account
        (some { a with owner := owner, delegate := none, delegatedAmount := 0 }) := by
  simp only [setOwner, bind_ok, load_ok, require_ok, modify_ok]
  constructor
  · rintro ⟨a, _, ⟨ha, rfl⟩, _, _, ⟨hp, rfl⟩, _, _, ⟨ho, rfl⟩, rfl⟩
    exact ⟨a, ha, hp, ho, rfl⟩
  · rintro ⟨a, ha, hp, ho, rfl⟩
    exact ⟨a, _, ⟨ha, rfl⟩, (), _, ⟨hp, rfl⟩, (), _, ⟨ho, rfl⟩, rfl⟩

theorem approve_ok {delegate : κ} :
    approve program account delegate authority n s = .ok (u, s') ↔
      ∃ a, s.tokens account = some a ∧ a.program = program ∧ a.owner = authority ∧
        s' = s.setToken account
          (some { a with delegate := some delegate, delegatedAmount := n }) := by
  simp only [approve, bind_ok, load_ok, require_ok, modify_ok]
  constructor
  · rintro ⟨a, _, ⟨ha, rfl⟩, _, _, ⟨hp, rfl⟩, _, _, ⟨ho, rfl⟩, rfl⟩
    exact ⟨a, ha, hp, ho, rfl⟩
  · rintro ⟨a, ha, hp, ho, rfl⟩
    exact ⟨a, _, ⟨ha, rfl⟩, (), _, ⟨hp, rfl⟩, (), _, ⟨ho, rfl⟩, rfl⟩

theorem syncNative_ok : syncNative native program rent account s = .ok (u, s') ↔
    ∃ a, s.tokens account = some a ∧ a.program = program ∧ a.mint = native ∧
      a.amount + rent ≤ s.lamports account ∧
      s' = s.setToken account (some { a with amount := s.lamports account - rent }) := by
  simp only [syncNative, bind_ok, load_ok, require_ok, modify_ok]
  constructor
  · rintro ⟨a, _, ⟨ha, rfl⟩, _, _, ⟨hp, rfl⟩, _, _, ⟨hm, rfl⟩, _, _, hget, _, _, ⟨hle, rfl⟩, rfl⟩
    cases hget
    exact ⟨a, ha, hp, hm, hle, rfl⟩
  · rintro ⟨a, ha, hp, hm, hle, rfl⟩
    exact ⟨a, _, ⟨ha, rfl⟩, (), _, ⟨hp, rfl⟩, (), _, ⟨hm, rfl⟩, s, s, rfl, (), _, ⟨hle, rfl⟩, rfl⟩

theorem systemTransfer_ok : systemTransfer src dst n s = .ok (u, s') ↔
    s.tokens src = none ∧ n ≤ s.lamports src ∧ s' = s.moveLamports src dst n := by
  simp only [systemTransfer, bind_ok, require_ok, modify_ok]
  constructor
  · rintro ⟨_, _, hget, _, _, ⟨hnone, rfl⟩, _, _, ⟨hle, rfl⟩, rfl⟩
    cases hget
    exact ⟨hnone, hle, rfl⟩
  · rintro ⟨hnone, hle, rfl⟩
    exact ⟨s, s, rfl, (), s, ⟨hnone, rfl⟩, (), s, ⟨hle, rfl⟩, rfl⟩

theorem initToken_ok : initToken native program rent account mint owner s = .ok (u, s') ↔
    s.tokens account = none ∧ rent ≤ s.lamports account ∧
      s' = s.setToken account (some ⟨program, mint, owner,
        if mint = native then s.lamports account - rent else 0, none, 0⟩) := by
  simp only [initToken, bind_ok, require_ok, modify_ok]
  constructor
  · rintro ⟨_, _, hget, _, _, ⟨hnone, rfl⟩, _, _, ⟨hle, rfl⟩, rfl⟩
    cases hget
    exact ⟨hnone, hle, rfl⟩
  · rintro ⟨hnone, hle, rfl⟩
    exact ⟨s, s, rfl, (), s, ⟨hnone, rfl⟩, (), s, ⟨hle, rfl⟩, rfl⟩

end Effects

/-! ## Frames -/

/-- The account under `k` is the same token account and has lost no lamports. -/
structure Kept (k : κ) (s s' : Accounts κ) : Prop where
  tokens : s'.tokens k = s.tokens k
  lamports : s.lamports k ≤ s'.lamports k

namespace Kept

variable {native src dst authority account destination owner mint delegate k : κ}
  {program : TokenProgram} {n rent : ℕ} {s s' s'' : Accounts κ} {u : Unit}

omit [DecidableEq κ] in
theorem refl (k : κ) (s : Accounts κ) : Kept k s s := ⟨rfl, Nat.le_refl _⟩

omit [DecidableEq κ] in
theorem trans (h : Kept k s s') (h' : Kept k s' s'') : Kept k s s'' :=
  ⟨h'.tokens.trans h.tokens, Nat.le_trans h.lamports h'.lamports⟩

theorem setToken {a : Option (TokenAccount κ)} (hk : k ≠ account) :
    Kept k s (s.setToken account a) :=
  ⟨Function.update_of_ne hk .., Nat.le_refl _⟩

/-- Only the source of a payment loses lamports. -/
theorem moveLamports (hk : k ≠ src) : Kept k s (s.moveLamports src dst n) := by
  refine ⟨congrFun (Accounts.moveLamports_tokens s src dst n) k, ?_⟩
  by_cases hdst : k = dst
  · subst hdst
    rw [Accounts.moveLamports_dst s (Ne.symm hk)]
    exact Nat.le_add_right _ _
  · exact Nat.le_of_eq (Accounts.moveLamports_other s hk hdst n).symm

theorem transferOut (hsrc : k ≠ src)
    (h : transferOut native program src authority n s = .ok (u, s')) : Kept k s s' := by
  obtain ⟨_, _, -, -, -, -, -, rfl⟩ := transferOut_ok.1 h
  exact .setToken hsrc

theorem closeAccount (hk : k ≠ account)
    (h : closeAccount native program account destination authority s = .ok (u, s')) :
    Kept k s s' := by
  obtain ⟨-, _, -, -, -, -, rfl⟩ := closeAccount_ok.1 h
  exact (Kept.setToken hk).trans (.moveLamports hk)

theorem approve (hk : k ≠ account)
    (h : approve program account delegate authority n s = .ok (u, s')) : Kept k s s' := by
  obtain ⟨_, -, -, -, rfl⟩ := approve_ok.1 h
  exact .setToken hk

end Kept

/-! ## Whose accounts change -/

/-- **What the keys in `P` can do by signing**, where only those in `Q` appoint delegates: an account
of another owner, without a delegate, at most gains tokens, and a delegate is an old one or one
that an owner in `Q` has appointed. -/
structure Acts (P Q : κ → Prop) (s s' : Accounts κ) : Prop where
  held : ∀ k a, s.tokens k = some a → ¬ P a.owner → a.delegate = none →
    ∃ n, a.amount ≤ n ∧ s'.tokens k = some { a with amount := n }
  delegated : ∀ k a', s'.tokens k = some a' → a'.delegate = none ∨ Q a'.owner ∨
    ∃ a, s.tokens k = some a ∧ a.owner = a'.owner ∧ a.delegate = a'.delegate

/-- No account of `owner` has a delegate. -/
def Undelegated (owner : κ) (s : Accounts κ) : Prop :=
  ∀ k a, s.tokens k = some a → a.owner = owner → a.delegate = none

namespace Acts

variable {native src dst authority account destination owner newOwner mint delegate k : κ}
  {program : TokenProgram} {n rent : ℕ} {P Q : κ → Prop} {s s' s'' : Accounts κ} {u : Unit}

omit [DecidableEq κ] in
theorem of_tokens (h : s'.tokens = s.tokens) : Acts P Q s s' where
  held k a ha _ _ := ⟨a.amount, Nat.le_refl _, (congrFun h k).trans ha⟩
  delegated k a' ha' := .inr (.inr ⟨a', (congrFun h k).symm.trans ha', rfl, rfl⟩)

omit [DecidableEq κ] in
theorem refl (s : Accounts κ) : Acts P Q s s := .of_tokens rfl

omit [DecidableEq κ] in
theorem trans (h : Acts P Q s s') (h' : Acts P Q s' s'') : Acts P Q s s'' where
  held k a ha hP hd := by
    obtain ⟨n, hn, ha'⟩ := h.held k a ha hP hd
    obtain ⟨m, hm, ha''⟩ := h'.held k _ ha' hP hd
    exact ⟨m, Nat.le_trans hn hm, ha''⟩
  delegated k a'' ha'' := by
    rcases h'.delegated k a'' ha'' with hnone | hQ | ⟨a', ha', howner, hdelegate⟩
    · exact .inl hnone
    · exact .inr (.inl hQ)
    · rcases h.delegated k a' ha' with hnone | hQ | ⟨a, ha, howner', hdelegate'⟩
      · exact .inl (hdelegate.symm.trans hnone)
      · exact .inr (.inl (howner ▸ hQ))
      · exact .inr (.inr ⟨a, ha, howner'.trans howner, hdelegate'.trans hdelegate⟩)

omit [DecidableEq κ] in
/-- An owner who does not appoint delegates has none. -/
theorem undelegated (h : Acts P Q s s') (hQ : ¬ Q owner) (hs : Undelegated owner s) :
    Undelegated owner s' := by
  intro k a' ha' ho
  rcases h.delegated k a' ha' with hnone | hQ' | ⟨a, ha, howner, hdelegate⟩
  · exact hnone
  · exact absurd (ho ▸ hQ') hQ
  · exact hdelegate.symm.trans (hs k a ha (howner.trans ho))

/-- One account changes. -/
theorem update {c : Option (TokenAccount κ)} (h : s'.tokens = Function.update s.tokens k c)
    (hheld : ∀ a, s.tokens k = some a → ¬ P a.owner → a.delegate = none →
      ∃ n, a.amount ≤ n ∧ c = some { a with amount := n })
    (hdelegated : ∀ a', c = some a' → a'.delegate = none ∨ Q a'.owner ∨
      ∃ a, s.tokens k = some a ∧ a.owner = a'.owner ∧ a.delegate = a'.delegate) : Acts P Q s s' where
  held k' a ha hP hd := by
    by_cases hk : k' = k
    · subst hk
      rw [h, Function.update_self]
      exact hheld a ha hP hd
    · rw [h, Function.update_of_ne hk]
      exact ⟨a.amount, Nat.le_refl _, ha⟩
  delegated k' a' ha' := by
    rw [h] at ha'
    by_cases hk : k' = k
    · subst hk
      rw [Function.update_self] at ha'
      exact hdelegated a' ha'
    · rw [Function.update_of_ne hk] at ha'
      exact .inr (.inr ⟨a', ha', rfl, rfl⟩)

/-- An account gains tokens. -/
theorem gain {a : TokenAccount κ} (ha : s.tokens k = some a)
    (h : s'.tokens = Function.update s.tokens k (some { a with amount := a.amount + n })) :
    Acts P Q s s' := by
  refine .update h (fun a' ha' _ _ => ?_) (fun a' ha' => ?_)
  · obtain rfl : a = a' := Option.some.inj (ha.symm.trans ha')
    exact ⟨_, Nat.le_add_right _ _, rfl⟩
  · cases ha'
    exact .inr (.inr ⟨a, ha, rfl, rfl⟩)

theorem credited (h : s'.tokens = credited s.tokens k n) : Acts P Q s s' := by
  cases ha : s.tokens k with
  | none =>
    rw [SplToken.credited, ha] at h
    exact .of_tokens (h.trans (Function.update_eq_self_iff.2 ha.symm))
  | some a =>
    rw [SplToken.credited, ha] at h
    exact .gain ha h

/-- An account of an owner who signs disappears. -/
theorem remove {a : TokenAccount κ} (ha : s.tokens k = some a) (hP : P a.owner)
    (h : s'.tokens = Function.update s.tokens k none) : Acts P Q s s' := by
  refine .update h (fun a' ha' hP' _ => ?_) nofun
  obtain rfl : a = a' := Option.some.inj (ha.symm.trans ha')
  exact absurd hP hP'

/-- The amount in an account of an owner who signs changes. -/
theorem setAmount {a : TokenAccount κ} (ha : s.tokens k = some a) (hP : P a.owner)
    (h : s'.tokens = Function.update s.tokens k (some { a with amount := n })) : Acts P Q s s' := by
  refine .update h (fun a' ha' hP' _ => ?_) (fun a' ha' => ?_)
  · obtain rfl : a = a' := Option.some.inj (ha.symm.trans ha')
    exact absurd hP hP'
  · cases ha'
    exact .inr (.inr ⟨a, ha, rfl, rfl⟩)

/-- What an authority takes from an account leaves no new delegate, and the account is one of an
owner who signs or has a delegate. -/
theorem spend {a a' : TokenAccount κ} (ha : s.tokens src = some a) (hP : P authority)
    (hauth : a.authorize authority n = .ok a')
    (h : s'.tokens = Function.update s.tokens src (some { a' with amount := a'.amount - n })) :
    Acts P Q s s' := by
  refine .update h (fun a₁ ha₁ hP₁ hd => ?_) (fun a₁ ha₁ => ?_)
  · obtain rfl : a = a₁ := Option.some.inj (ha.symm.trans ha₁)
    rcases (authorize_ok hauth).1 with hdelegate | howner
    · cases hd.symm.trans hdelegate
    · exact absurd (howner ▸ hP) hP₁
  · cases ha₁
    rcases authorize_delegate hauth with hnone | hsame
    · exact .inl hnone
    · exact .inr (.inr ⟨a, ha, (authorize_ok hauth).2.2.2.1.symm, hsame.symm⟩)

theorem transfer (hP : P authority)
    (h : transfer native program src dst authority n s = .ok (u, s')) : Acts P Q s s' := by
  by_cases hne : src = dst
  · subst hne
    rw [transfer_self h]
    exact .refl s
  · obtain ⟨a, a', b, ha, hb, -, -, -, -, hauth, rfl⟩ := (transfer_ok hne).1 h
    have hgain : Acts P Q s (s.setToken dst (some { b with amount := b.amount + n })) :=
      .gain hb rfl
    have ha' : (s.setToken dst (some { b with amount := b.amount + n })).tokens src = some a :=
      (Function.update_of_ne hne ..).trans ha
    refine hgain.trans (.spend ha' hP hauth ?_)
    rw [SplToken.transferred, Accounts.moveNative_tokens]
    exact Function.update_comm hne ..

theorem transferOut (hP : P authority)
    (h : transferOut native program src authority n s = .ok (u, s')) : Acts P Q s s' := by
  obtain ⟨a, a', ha, -, -, -, hauth, rfl⟩ := transferOut_ok.1 h
  exact .spend ha hP hauth rfl

theorem transferIn (h : transferIn native program dst mint n s = .ok (u, s')) : Acts P Q s s' := by
  obtain ⟨b, hb, -, -, -, rfl⟩ := transferIn_ok.1 h
  exact .gain hb rfl

theorem closeAccount (hP : P authority)
    (h : closeAccount native program account destination authority s = .ok (u, s')) :
    Acts P Q s s' := by
  obtain ⟨-, a, ha, -, -, howner, rfl⟩ := closeAccount_ok.1 h
  exact .remove ha (howner ▸ hP) (Accounts.moveLamports_tokens ..)

theorem setOwner (hP : P authority)
    (h : setOwner program account authority newOwner s = .ok (u, s')) : Acts P Q s s' := by
  obtain ⟨a, ha, -, howner, rfl⟩ := setOwner_ok.1 h
  refine .update rfl (fun a' ha' hP' _ => ?_) (fun a' ha' => ?_)
  · obtain rfl : a = a' := Option.some.inj (ha.symm.trans ha')
    exact absurd (howner ▸ hP) hP'
  · cases ha'
    exact .inl rfl

theorem approve (hP : P authority) (hQ : Q authority)
    (h : approve program account delegate authority n s = .ok (u, s')) : Acts P Q s s' := by
  obtain ⟨a, ha, -, howner, rfl⟩ := approve_ok.1 h
  refine .update rfl (fun a' ha' hP' _ => ?_) (fun a' ha' => ?_)
  · obtain rfl : a = a' := Option.some.inj (ha.symm.trans ha')
    exact absurd (howner ▸ hP) hP'
  · cases ha'
    exact .inr (.inl (howner ▸ hQ))

theorem syncNative (h : syncNative native program rent account s = .ok (u, s')) : Acts P Q s s' := by
  obtain ⟨a, ha, -, -, hle, rfl⟩ := syncNative_ok.1 h
  refine .gain (n := s.lamports account - rent - a.amount) ha ?_
  rw [Accounts.setToken_tokens]
  congr 3
  omega

theorem systemTransfer (h : systemTransfer src dst n s = .ok (u, s')) : Acts P Q s s' := by
  obtain ⟨-, -, rfl⟩ := systemTransfer_ok.1 h
  exact .of_tokens (Accounts.moveLamports_tokens ..)

theorem initToken (h : initToken native program rent account mint owner s = .ok (u, s')) :
    Acts P Q s s' := by
  obtain ⟨hnone, -, rfl⟩ := initToken_ok.1 h
  refine .update rfl (fun a ha => ?_) (fun a' ha' => ?_)
  · cases hnone.symm.trans ha
  · cases ha'
    exact .inl rfl

end Acts

/-! ## Mints -/

/-- **Accounts keep their mints**: what is under a key outside of `C` was there before, with the same
mint. Under the keys in `C` accounts may have been created. -/
def Minted (C : κ → Prop) (s s' : Accounts κ) : Prop :=
  ∀ k a', ¬ C k → s'.tokens k = some a' → ∃ a, s.tokens k = some a ∧ a.mint = a'.mint

namespace Minted

variable {native src dst authority account destination newOwner mint owner delegate k : κ}
  {program : TokenProgram} {n rent : ℕ} {C : κ → Prop} {s s' s'' : Accounts κ} {u : Unit}

omit [DecidableEq κ] in
theorem of_tokens (h : s'.tokens = s.tokens) : Minted C s s' :=
  fun k a' _ ha' => ⟨a', (congrFun h k).symm.trans ha', rfl⟩

omit [DecidableEq κ] in
theorem refl (s : Accounts κ) : Minted C s s := .of_tokens rfl

omit [DecidableEq κ] in
theorem trans (h : Minted C s s') (h' : Minted C s' s'') : Minted C s s'' := by
  intro k a'' hk ha''
  obtain ⟨a', ha', hm'⟩ := h' k a'' hk ha''
  obtain ⟨a, ha, hm⟩ := h k a' hk ha'
  exact ⟨a, ha, hm.trans hm'⟩

/-- One account changes, and keeps its mint. -/
theorem update {c : Option (TokenAccount κ)} (h : s'.tokens = Function.update s.tokens k c)
    (hc : ∀ a', c = some a' → ¬ C k → ∃ a, s.tokens k = some a ∧ a.mint = a'.mint) :
    Minted C s s' := by
  intro k' a' hk' ha'
  rw [h] at ha'
  by_cases he : k' = k
  · subst he
    rw [Function.update_self] at ha'
    exact hc a' ha' hk'
  · rw [Function.update_of_ne he] at ha'
    exact ⟨a', ha', rfl⟩

/-- An account is replaced by one of its mint. -/
theorem replace {a : TokenAccount κ} (a' : TokenAccount κ) (ha : s.tokens k = some a) (hm : a.mint = a'.mint)
    (h : s'.tokens = Function.update s.tokens k (some a')) : Minted C s s' := by
  refine .update h fun a'' ha'' _ => ⟨a, ha, ?_⟩
  cases ha''
  exact hm

theorem remove (h : s'.tokens = Function.update s.tokens k none) : Minted C s s' :=
  .update h nofun

theorem transfer (h : transfer native program src dst authority n s = .ok (u, s')) :
    Minted C s s' := by
  by_cases hne : src = dst
  · subst hne
    rw [transfer_self h]
    exact .refl s
  · obtain ⟨a, a', b, ha, hb, -, -, -, -, hauth, rfl⟩ := (transfer_ok hne).1 h
    have hspend : Minted C s (s.setToken src (some { a' with amount := a'.amount - n })) :=
      .replace { a' with amount := a'.amount - n } ha (authorize_ok hauth).2.2.1.symm rfl
    have hb' : (s.setToken src (some { a' with amount := a'.amount - n })).tokens dst = some b :=
      (Function.update_of_ne (Ne.symm hne) ..).trans hb
    refine hspend.trans (.replace { b with amount := b.amount + n } hb' rfl ?_)
    rw [SplToken.transferred, Accounts.moveNative_tokens]
    rfl

theorem transferOut (h : transferOut native program src authority n s = .ok (u, s')) :
    Minted C s s' := by
  obtain ⟨a, a', ha, -, -, -, hauth, rfl⟩ := transferOut_ok.1 h
  exact .replace { a' with amount := a'.amount - n } ha (authorize_ok hauth).2.2.1.symm rfl

theorem transferIn (h : transferIn native program dst mint n s = .ok (u, s')) : Minted C s s' := by
  obtain ⟨b, hb, -, -, -, rfl⟩ := transferIn_ok.1 h
  exact .replace { b with amount := b.amount + n } hb rfl rfl

theorem closeAccount
    (h : closeAccount native program account destination authority s = .ok (u, s')) :
    Minted C s s' := by
  obtain ⟨-, a, -, -, -, -, rfl⟩ := closeAccount_ok.1 h
  exact .remove (Accounts.moveLamports_tokens ..)

theorem setOwner (h : setOwner program account authority newOwner s = .ok (u, s')) :
    Minted C s s' := by
  obtain ⟨a, ha, -, -, rfl⟩ := setOwner_ok.1 h
  exact .replace { a with owner := newOwner, delegate := none, delegatedAmount := 0 } ha rfl rfl

theorem approve (h : approve program account delegate authority n s = .ok (u, s')) :
    Minted C s s' := by
  obtain ⟨a, ha, -, -, rfl⟩ := approve_ok.1 h
  exact .replace { a with delegate := some delegate, delegatedAmount := n } ha rfl rfl

theorem syncNative (h : syncNative native program rent account s = .ok (u, s')) :
    Minted C s s' := by
  obtain ⟨a, ha, -, -, -, rfl⟩ := syncNative_ok.1 h
  exact .replace { a with amount := s.lamports account - rent } ha rfl rfl

theorem systemTransfer (h : systemTransfer src dst n s = .ok (u, s')) : Minted C s s' := by
  obtain ⟨-, -, rfl⟩ := systemTransfer_ok.1 h
  exact .of_tokens (Accounts.moveLamports_tokens ..)

theorem initToken (hC : C account)
    (h : initToken native program rent account mint owner s = .ok (u, s')) :
    Minted C s s' := by
  obtain ⟨-, -, rfl⟩ := initToken_ok.1 h
  exact .update rfl fun _ _ hk => absurd hC hk

end Minted

end SplToken
