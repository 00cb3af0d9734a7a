import SwapLayer.Lib.SplToken

/-!
# Delegations of token accounts

An owner who has delegated an amount may as well have moved it himself: a transfer by the delegate
of exactly this amount leaves what a transfer by the owner leaves that has dismissed the delegate.
`redelegate` replaces the delegation of one account and nothing else, and the instructions that do
not name the account do not notice.

Results:
* `approve_redelegates`: `Approve` replaces the delegation.
* `commutes_systemTransfer`, `commutes_initToken`: instructions that do not notice.
* `transfer_delegate_iff`: the transfer by the delegate as a transfer by the owner.
-/

namespace SplToken

open Program

variable {κ : Type} [DecidableEq κ]

/-- The account with another delegation. -/
def TokenAccount.delegated (a : TokenAccount κ) (delegate : Option κ) (n : ℕ) : TokenAccount κ :=
  { a with delegate := delegate, delegatedAmount := n }

/-- The account under `k` with another delegation, if there is one. -/
def Accounts.redelegate (s : Accounts κ) (k : κ) (delegate : Option κ) (n : ℕ) : Accounts κ :=
  s.setToken k ((s.tokens k).map fun a => a.delegated delegate n)

section Redelegate

variable {s s' : Accounts κ} {k k' : κ} {delegate delegate' : Option κ} {n n' : ℕ}
  {a : TokenAccount κ}

namespace Accounts

theorem redelegate_tokens_self : (s.redelegate k delegate n).tokens k =
    (s.tokens k).map fun a => a.delegated delegate n := Function.update_self ..

theorem redelegate_tokens_of_ne (h : k' ≠ k) :
    (s.redelegate k delegate n).tokens k' = s.tokens k' := Function.update_of_ne h ..

@[simp] theorem redelegate_lamports : (s.redelegate k delegate n).lamports = s.lamports := rfl

/-- Only what is written last counts. -/
theorem setToken_setToken (c c' : Option (TokenAccount κ)) :
    (s.setToken k c).setToken k c' = s.setToken k c' :=
  congrArg (fun tokens => (⟨tokens, s.lamports⟩ : Accounts κ)) (Function.update_idem ..)

theorem setToken_redelegate (c : Option (TokenAccount κ)) :
    (s.redelegate k delegate n).setToken k c = s.setToken k c := setToken_setToken ..

theorem redelegate_redelegate :
    (s.redelegate k delegate n).redelegate k delegate' n' = s.redelegate k delegate' n' := by
  rw [redelegate, setToken_redelegate, redelegate_tokens_self, Option.map_map]
  rfl

theorem setToken_redelegate_of_ne (h : k' ≠ k) (c : Option (TokenAccount κ)) :
    (s.redelegate k delegate n).setToken k' c = (s.setToken k' c).redelegate k delegate n := by
  rw [redelegate, redelegate, setToken_tokens, Function.update_of_ne (Ne.symm h)]
  simp only [setToken]
  rw [Function.update_comm h]

theorem moveLamports_redelegate (src dst : κ) (m : ℕ) :
    (s.redelegate k delegate n).moveLamports src dst m =
      (s.moveLamports src dst m).redelegate k delegate n := by
  rw [redelegate, redelegate, moveLamports_tokens]
  unfold moveLamports
  split <;> rfl

end Accounts

/-! ## Instructions -/

variable {native src dst authority account mint owner : κ} {program : TokenProgram} {rent m : ℕ}
  {u : Unit}

/-- **An approval replaces the delegation.** -/
theorem approve_redelegates {spender : κ} (ha : s.tokens account = some a) :
    approve program account spender authority n s = .ok (u, s') ↔
      a.program = program ∧ a.owner = authority ∧ s' = s.redelegate account (some spender) n := by
  rw [approve_ok, Accounts.redelegate, ha]
  constructor
  · rintro ⟨c, hc, hprogram, howner, rfl⟩
    cases hc
    exact ⟨hprogram, howner, rfl⟩
  · rintro ⟨hprogram, howner, rfl⟩
    exact ⟨a, rfl, hprogram, howner, rfl⟩

theorem commutes_systemTransfer : Commutes (fun s : Accounts κ => s.redelegate k delegate n)
    (systemTransfer src dst m) := by
  intro s
  have htransfer : ∀ s : Accounts κ, systemTransfer src dst m s =
      (require (s.tokens src = none) TokenError.invalidArgument >>= fun _ =>
        require (m ≤ s.lamports src) TokenError.insufficientFunds >>= fun _ =>
          modify fun s => s.moveLamports src dst m) s := fun _ => rfl
  have hnone : (s.redelegate k delegate n).tokens src = none ↔ s.tokens src = none := by
    by_cases hk : src = k
    · rw [hk, Accounts.redelegate_tokens_self, Option.map_eq_none_iff]
    · rw [Accounts.redelegate_tokens_of_ne hk]
  rw [htransfer, htransfer, require_congr hnone, Accounts.redelegate_lamports]
  have hmove : Commutes (fun s : Accounts κ => s.redelegate k delegate n)
      (modify fun s => s.moveLamports src dst m) := fun s =>
    congrArg (fun s' => Except.ok ((), s')) (Accounts.moveLamports_redelegate ..)
  exact Commutes.bind (.require _ _) (fun _ => .bind (.require _ _) fun _ => hmove) s

/-- A new account is another one. -/
theorem commutes_initToken (h : account ≠ k) : Commutes (fun s : Accounts κ => s.redelegate k delegate n)
    (initToken native program rent account mint owner) := by
  intro s
  have hinit : ∀ s : Accounts κ, initToken native program rent account mint owner s =
      (require (s.tokens account = none) TokenError.accountInUse >>= fun _ =>
        require (rent ≤ s.lamports account) TokenError.notRentExempt >>= fun _ =>
          modify fun s => s.setToken account (some
            ⟨program, mint, owner, if mint = native then s.lamports account - rent else 0, none, 0⟩)) s :=
    fun _ => rfl
  rw [hinit, hinit, Accounts.redelegate_tokens_of_ne h, Accounts.redelegate_lamports]
  have hset : Commutes (fun s : Accounts κ => s.redelegate k delegate n)
      (modify fun s => s.setToken account (some
        ⟨program, mint, owner, if mint = native then s.lamports account - rent else 0, none, 0⟩)) := fun s =>
    congrArg (fun s' => Except.ok ((), s')) (Accounts.setToken_redelegate_of_ne h _)
  exact Commutes.bind (.require _ _) (fun _ => .bind (.require _ _) fun _ => hset) s

/-- What a transfer leaves does not depend on the delegation that it replaces. -/
theorem transferred_redelegate (a b : TokenAccount κ) (m : ℕ) :
    transferred native src dst a b m (s.redelegate src delegate n) = transferred native src dst a b m s := by
  rw [transferred, Accounts.setToken_redelegate, transferred]

/-- **A delegate who moves all that he may** does what the owner does who has dismissed him. -/
theorem transfer_delegate_iff (hne : src ≠ dst) (ha : s.tokens src = some a)
    (hdelegate : a.delegate = some authority) :
    transfer native program src dst authority a.delegatedAmount s = .ok (u, s') ↔
      transfer native program src dst a.owner a.delegatedAmount (s.redelegate src none 0) =
        .ok (u, s') := by
  have hsrc : (s.redelegate src none 0).tokens src = some (a.delegated none 0) := by
    rw [Accounts.redelegate_tokens_self, ha]
    rfl
  have hdst : (s.redelegate src none 0).tokens dst = s.tokens dst :=
    Accounts.redelegate_tokens_of_ne (Ne.symm hne)
  have hauth : a.authorize authority a.delegatedAmount = .ok (a.delegated none 0) := by
    rw [TokenAccount.authorize, if_pos hdelegate, if_neg (Nat.lt_irrefl _), if_pos rfl, Nat.sub_self]
    rfl
  rw [transfer_owner_ok hne hsrc rfl, transfer_ok hne]
  constructor
  · rintro ⟨a₁, a', b, ha₁, hb, hp, hq, hm, hn, ha', rfl⟩
    cases ha.symm.trans ha₁
    cases hauth.symm.trans ha'
    exact ⟨hp, rfl, hn, b, hdst.trans hb, hq, hm, (transferred_redelegate _ _ _).symm⟩
  · rintro ⟨hp, -, hn, b, hb, hq, hm, rfl⟩
    exact ⟨a, _, b, ha, hdst.symm.trans hb, hp, hq, hm, hn, hauth, transferred_redelegate _ _ _⟩

end Redelegate

end SplToken
