import Mathlib.Logic.Basic

/-!
# Programs that may fail, and the runs of a machine built from them

A program is a state transformer that either fails with an error, and then has no effect, or
returns a value and the state it leaves: `StateT σ (Except ε) α`. The inversion lemmas below
take a successful do-block apart, one line at a time.

A machine is a step function `ι → σ → Except ε σ` over inputs `ι`. `attempt` is what one input
does to the state, a failed input doing nothing, and `run` is a list of them in order.

Results:
* `bind_ok`, `pure_ok`, `require_ok`, `lift_ok`: a block succeeded iff each of its lines did.
* `gather_append`, `gather_inj`: the results of a list of computations, one behind the other.
* `Guarantees.bind` and its companions: a relation that is reflexive and transitive holds
  across a program when it holds across each line.
* `Commutes.bind` and its companions: a program commutes with a map of states when its lines do.
* `run_induction`: an invariant kept by every successful step that meets a condition holds
  after every run whose inputs meet it.
* `journal_induction`: an invariant of the state and of the inputs that have succeeded so far.
-/

namespace Program

variable {σ ε α β ι : Type}

/-! ## Inversion of a successful block -/

theorem except_bind_ok {x : Except ε α} {f : α → Except ε β} {b : β} :
    (x >>= f) = .ok b ↔ ∃ a, x = .ok a ∧ f a = .ok b := by
  cases x with
  | error e => exact ⟨fun h => (by cases h), fun ⟨_, h, _⟩ => by cases h⟩
  | ok a => exact ⟨fun h => ⟨a, rfl, h⟩, fun ⟨_, h, hf⟩ => by cases h; exact hf⟩

@[simp] theorem except_ok_bind (a : α) (f : α → Except ε β) : (Except.ok a >>= f) = f a := rfl

@[simp] theorem except_error_bind (e : ε) (f : α → Except ε β) :
    (Except.error e >>= f) = .error e := rfl

theorem except_pure_ok {a b : α} : (pure a : Except ε α) = .ok b ↔ a = b :=
  ⟨fun h => by cases h; rfl, fun h => h ▸ rfl⟩

theorem except_mapError_ok {ε' : Type} {x : Except ε α} {f : ε → ε'} {a : α} :
    x.mapError f = .ok a ↔ x = .ok a := by
  cases x with
  | error e => exact ⟨fun h => (by cases h), fun h => (by cases h)⟩
  | ok a' => exact ⟨fun h => congrArg _ (Except.ok.inj h), fun h => congrArg _ (Except.ok.inj h)⟩

theorem except_map_ok {x : Except ε α} {f : α → β} {b : β} :
    x.map f = .ok b ↔ ∃ a, x = .ok a ∧ f a = b := by
  cases x with
  | error e => exact ⟨fun h => (by cases h), fun ⟨_, h, _⟩ => (by cases h)⟩
  | ok a => exact ⟨fun h => ⟨a, rfl, Except.ok.inj h⟩, fun ⟨_, h, hf⟩ => by cases h; rw [← hf]; rfl⟩

theorem toOption_eq_some {x : Except ε α} {a : α} : x.toOption = some a ↔ x = .ok a := by
  cases x with
  | error e => exact ⟨fun h => (by cases h), fun h => (by cases h)⟩
  | ok b => exact ⟨fun h => by cases h; rfl, fun h => by cases h; rfl⟩

theorem toOption_eq_none {x : Except ε α} : x.toOption = none ↔ ∃ e, x = .error e := by
  cases x with
  | error e => exact ⟨fun _ => ⟨e, rfl⟩, fun _ => rfl⟩
  | ok b => exact ⟨fun h => (by cases h), fun ⟨_, h⟩ => (by cases h)⟩

theorem bind_apply (x : StateT σ (Except ε) α) (f : α → StateT σ (Except ε) β) (s : σ) :
    (x >>= f) s = (x s >>= fun p => f p.1 p.2) := rfl

/-- A block goes on from where its first line leads. -/
theorem bind_of_ok {x : StateT σ (Except ε) α} {f : α → StateT σ (Except ε) β} {s s' : σ} {a : α}
    (h : x s = .ok (a, s')) : (x >>= f) s = f a s' := by
  rw [bind_apply, h]
  rfl

theorem bind_ok {x : StateT σ (Except ε) α} {f : α → StateT σ (Except ε) β} {s : σ}
    {r : β × σ} : (x >>= f) s = .ok r ↔ ∃ a s', x s = .ok (a, s') ∧ f a s' = .ok r := by
  show (x s >>= fun p => f p.1 p.2) = .ok r ↔ _
  rw [except_bind_ok]
  exact ⟨fun ⟨⟨a, s'⟩, h⟩ => ⟨a, s', h⟩, fun ⟨a, s', h⟩ => ⟨(a, s'), h⟩⟩

theorem bind_error {x : StateT σ (Except ε) α} {f : α → StateT σ (Except ε) β} {s : σ} {e : ε} :
    (x >>= f) s = .error e ↔ x s = .error e ∨ ∃ a s', x s = .ok (a, s') ∧ f a s' = .error e := by
  rw [bind_apply]
  cases hx : x s with
  | error e' =>
    constructor
    · intro h
      cases h
      exact .inl rfl
    · rintro (h | ⟨a, s', h, -⟩)
      · cases h
        rfl
      · cases h
  | ok r =>
    constructor
    · intro h
      exact .inr ⟨r.1, r.2, rfl, h⟩
    · rintro (h | ⟨a, s', h, hf⟩)
      · cases h
      · cases h
        exact hf

/-- Two blocks agree if their rests do, after each success of the common start. -/
theorem bind_congr_ok {x : StateT σ (Except ε) α} {f g : α → StateT σ (Except ε) β} {s : σ}
    (h : ∀ a s', x s = .ok (a, s') → f a s' = g a s') : (x >>= f) s = (x >>= g) s := by
  rw [bind_apply, bind_apply]
  cases hx : x s with
  | error e => rfl
  | ok r => exact h r.1 r.2 hx

theorem pure_apply (a : α) (s : σ) : (pure a : StateT σ (Except ε) α) s = .ok (a, s) := rfl

theorem pure_ok {a b : α} {s s' : σ} :
    (pure a : StateT σ (Except ε) α) s = .ok (b, s') ↔ b = a ∧ s' = s :=
  ⟨fun h => by cases h; exact ⟨rfl, rfl⟩, fun ⟨h, h'⟩ => by subst h h'; rfl⟩

/-- A computation that reads nothing of the state and leaves it alone. -/
def lift (x : Except ε α) : StateT σ (Except ε) α := fun s => x.map fun a => (a, s)

theorem lift_ok {x : Except ε α} {a : α} {s s' : σ} :
    lift x s = .ok (a, s') ↔ x = .ok a ∧ s' = s := by
  cases x with
  | error e => exact ⟨fun h => (by cases h), fun ⟨h, _⟩ => by cases h⟩
  | ok b =>
    constructor
    · intro h
      cases h
      exact ⟨rfl, rfl⟩
    · rintro ⟨h, rfl⟩
      cases h
      rfl

@[simp] theorem lift_ok_bind (a : α) (f : α → StateT σ (Except ε) β) :
    (lift (.ok a) >>= f) = f a := rfl

/-- Fail with `e`. -/
def fail (e : ε) : StateT σ (Except ε) α := fun _ => .error e

theorem fail_ok {e : ε} {s : σ} {r : α × σ} : fail e s = .ok r ↔ False :=
  ⟨fun h => (by cases h), False.elim⟩

/-- Go on if `p` holds, fail with `e` otherwise. -/
def require (p : Prop) [Decidable p] (e : ε) : StateT σ (Except ε) Unit :=
  fun s => if p then .ok ((), s) else .error e

theorem require_ok {p : Prop} [Decidable p] {e : ε} {s : σ} {u : Unit × σ} :
    require p e s = .ok u ↔ p ∧ u.2 = s := by
  unfold require
  split
  · rename_i hp
    exact ⟨fun h => by cases h; exact ⟨hp, rfl⟩, fun ⟨_, h⟩ => by rw [← h]⟩
  · rename_i hp
    exact ⟨fun h => (by cases h), fun ⟨h, _⟩ => absurd h hp⟩

theorem require_congr {p q : Prop} [Decidable p] [Decidable q] (h : p ↔ q) (e : ε) :
    (require p e : StateT σ (Except ε) Unit) = require q e := by
  unfold require
  simp only [h]

/-- `require` for computations without a state. -/
def ensure (p : Prop) [Decidable p] (e : ε) : Except ε Unit := if p then .ok () else .error e

theorem ensure_ok {p : Prop} [Decidable p] {e : ε} {u : Unit} : ensure p e = .ok u ↔ p := by
  unfold ensure
  split
  · rename_i hp
    exact ⟨fun _ => hp, fun _ => rfl⟩
  · rename_i hp
    exact ⟨fun h => (by cases h), fun h => absurd h hp⟩

theorem ensure_pos {p : Prop} [Decidable p] {e : ε} (h : p) : ensure p e = .ok () := if_pos h

/-! ## Collecting results -/

section Gather

variable {f g : ι → Except ε (List α)}

/-- The results for a list of inputs, one behind the other; the first failure ends it. -/
def gather (f : ι → Except ε (List α)) : List ι → Except ε (List α)
  | [] => .ok []
  | i :: is => do
    let a ← f i
    let rest ← gather f is
    return a ++ rest

theorem gather_cons_ok {i : ι} {is : List ι} {r : List α} :
    gather f (i :: is) = .ok r ↔ ∃ a rest, f i = .ok a ∧ gather f is = .ok rest ∧ a ++ rest = r := by
  constructor
  · intro h
    obtain ⟨a, ha, h₁⟩ := except_bind_ok.1 h
    obtain ⟨rest, hrest, hret⟩ := except_bind_ok.1 h₁
    exact ⟨a, rest, ha, hrest, except_pure_ok.1 hret⟩
  · rintro ⟨a, rest, ha, hrest, rfl⟩
    exact except_bind_ok.2 ⟨a, ha, except_bind_ok.2 ⟨rest, hrest, rfl⟩⟩

/-- **Two lists in a row** give the results of the one behind those of the other. -/
theorem gather_append (f : ι → Except ε (List α)) (is js : List ι) :
    gather f (is ++ js) = (do
      let a ← gather f is
      let b ← gather f js
      return a ++ b) := by
  induction is with
  | nil =>
    rw [List.nil_append, gather, except_ok_bind]
    cases gather f js <;> rfl
  | cons i is ih =>
    rw [List.cons_append, gather, gather, ih]
    cases f i with
    | error e => rfl
    | ok a =>
      cases gather f is with
      | error e => rfl
      | ok rest =>
        cases gather f js with
        | error e => rfl
        | ok b => exact congrArg _ (List.append_assoc a rest b).symm

/-- Computations that cannot fail. -/
theorem gather_ok (f : ι → List α) (is : List ι) :
    gather (fun i => (.ok (f i) : Except ε (List α))) is = .ok (is.flatMap f) := by
  induction is with
  | nil => rfl
  | cons i is ih =>
    rw [gather, ih]
    rfl

theorem gather_congr {is : List ι} (h : ∀ i ∈ is, f i = g i) : gather f is = gather g is := by
  induction is with
  | nil => rfl
  | cons i is ih =>
    obtain ⟨hi, his⟩ := List.forall_mem_cons.1 h
    rw [gather, gather, hi, ih his]

/-- All of them succeed iff each of them does. -/
theorem gather_ok_iff {is : List ι} : (∃ r, gather f is = .ok r) ↔ ∀ i ∈ is, ∃ a, f i = .ok a := by
  induction is with
  | nil => exact ⟨nofun, fun _ => ⟨[], rfl⟩⟩
  | cons i is ih =>
    rw [List.forall_mem_cons, ← ih]
    constructor
    · rintro ⟨r, h⟩
      obtain ⟨a, rest, ha, hrest, -⟩ := gather_cons_ok.1 h
      exact ⟨⟨a, ha⟩, rest, hrest⟩
    · rintro ⟨⟨a, ha⟩, rest, hrest⟩
      exact ⟨a ++ rest, gather_cons_ok.2 ⟨a, rest, ha, hrest, rfl⟩⟩

/-- **Results of known lengths can be told apart**: equal lists of results have equal results. -/
theorem gather_inj {is : List ι} {r : List α} (hf : gather f is = .ok r) (hg : gather g is = .ok r)
    (hlength : ∀ i ∈ is, ∀ a b, f i = .ok a → g i = .ok b → a.length = b.length) :
    ∀ i ∈ is, f i = g i := by
  induction is generalizing r with
  | nil => exact nofun
  | cons i is ih =>
    obtain ⟨hi, his⟩ := List.forall_mem_cons.1 hlength
    obtain ⟨a, rest, ha, hrest, rfl⟩ := gather_cons_ok.1 hf
    obtain ⟨b, rest', hb, hrest', happend⟩ := gather_cons_ok.1 hg
    obtain ⟨rfl, rfl⟩ := List.append_inj happend (hi a b ha hb).symm
    exact List.forall_mem_cons.2 ⟨ha.trans hb.symm, ih hrest hrest' his⟩

end Gather

/-! ## Relations between the state before and the state after -/

/-- Every success of `x` leaves a state that `R` relates to the one it started from. -/
def Guarantees (R : σ → σ → Prop) (x : StateT σ (Except ε) α) : Prop :=
  ∀ s a s', x s = .ok (a, s') → R s s'

section Guarantees

variable {R : σ → σ → Prop}

theorem Guarantees.pure (hrefl : ∀ s, R s s) (a : α) :
    Guarantees R (Pure.pure a : StateT σ (Except ε) α) := by
  intro s b s' h
  obtain ⟨-, rfl⟩ := pure_ok.1 h
  exact hrefl _

/-- **A block keeps a transitive relation** that each of its lines keeps. -/
theorem Guarantees.bind (htrans : ∀ s t u, R s t → R t u → R s u)
    {x : StateT σ (Except ε) α} {f : α → StateT σ (Except ε) β}
    (hx : Guarantees R x) (hf : ∀ a, Guarantees R (f a)) : Guarantees R (x >>= f) := by
  intro s b s' h
  obtain ⟨a, t, h₁, h₂⟩ := bind_ok.1 h
  exact htrans _ _ _ (hx _ _ _ h₁) (hf a _ _ _ h₂)

theorem Guarantees.lift (hrefl : ∀ s, R s s) (x : Except ε α) :
    Guarantees R (lift x : StateT σ (Except ε) α) := by
  intro s a s' h
  obtain ⟨-, rfl⟩ := lift_ok.1 h
  exact hrefl _

theorem Guarantees.require (hrefl : ∀ s, R s s) (p : Prop) [Decidable p] (e : ε) :
    Guarantees R (require p e : StateT σ (Except ε) Unit) := by
  intro s u s' h
  obtain ⟨-, h⟩ := require_ok.1 h
  exact h ▸ hrefl _

theorem Guarantees.fail (e : ε) : Guarantees R (fail e : StateT σ (Except ε) α) :=
  fun _ _ _ h => (fail_ok.1 h).elim

end Guarantees

/-! ## Maps of states -/

/-- `x` goes on after `φ` as without it: the same result or error, and `φ` of the state. -/
def Commutes (φ : σ → σ) (x : StateT σ (Except ε) α) : Prop :=
  ∀ s, x (φ s) = (x s).map fun r => (r.1, φ r.2)

section Commutes

variable {φ : σ → σ}

theorem Commutes.ok_iff {x : StateT σ (Except ε) α} (hx : Commutes φ x) {s t : σ} {a : α} :
    x (φ s) = .ok (a, t) ↔ ∃ s', x s = .ok (a, s') ∧ t = φ s' := by
  rw [hx s, except_map_ok]
  constructor
  · rintro ⟨⟨b, s'⟩, h, hr⟩
    cases hr
    exact ⟨s', h, rfl⟩
  · rintro ⟨s', h, rfl⟩
    exact ⟨_, h, rfl⟩

theorem Commutes.pure (a : α) : Commutes φ (Pure.pure a : StateT σ (Except ε) α) := fun _ => rfl

/-- **A block commutes** with a map with which its lines do. -/
theorem Commutes.bind {x : StateT σ (Except ε) α} {f : α → StateT σ (Except ε) β}
    (hx : Commutes φ x) (hf : ∀ a, Commutes φ (f a)) : Commutes φ (x >>= f) := by
  intro s
  rw [bind_apply, bind_apply, hx s]
  cases x s with
  | error e => rfl
  | ok r => exact hf r.1 r.2

theorem Commutes.lift (x : Except ε α) : Commutes φ (lift x : StateT σ (Except ε) α) := by
  intro s
  cases x <;> rfl

theorem Commutes.require (p : Prop) [Decidable p] (e : ε) :
    Commutes φ (require p e : StateT σ (Except ε) Unit) := by
  intro s
  unfold Program.require
  split <;> rfl

end Commutes

/-! ## Runs -/

section Runs

variable (step : ι → σ → Except ε σ)

/-- One input: a step that fails leaves the state as it was. -/
def attempt (i : ι) (s : σ) : σ :=
  match step i s with
  | .ok s' => s'
  | .error _ => s

/-- A list of inputs in order. -/
def run : List ι → σ → σ
  | [], s => s
  | i :: is, s => run is (attempt step i s)

/-- Every input of the run meets the condition `G` in the state it finds. -/
def Along (G : σ → ι → Prop) : List ι → σ → Prop
  | [], _ => True
  | i :: is, s => G s i ∧ Along G is (attempt step i s)

variable {step}

/-- What a successful step keeps, an attempt keeps. -/
theorem attempt_induction {P : σ → Prop} {i : ι} {s : σ} (hs : P s)
    (hstep : ∀ s', step i s = .ok s' → P s') : P (attempt step i s) := by
  unfold attempt
  split
  · rename_i s' h
    exact hstep s' h
  · exact hs

/-- **Invariants of runs**: kept by each successful step that meets `G`, so by a run that meets
`G` throughout. -/
theorem run_induction {P : σ → Prop} {G : σ → ι → Prop}
    (hstep : ∀ s i s', P s → G s i → step i s = .ok s' → P s') :
    ∀ (is : List ι) (s : σ), Along step G is s → P s → P (run step is s)
  | [], _, _, hs => hs
  | i :: is, s, ⟨hG, hrest⟩, hs =>
    run_induction hstep is _ hrest (attempt_induction hs fun s' h => hstep s i s' hs hG h)

/-- A condition that every input meets in every state. -/
theorem along_of_forall {G : σ → ι → Prop} (hG : ∀ s i, G s i) :
    ∀ (is : List ι) (s : σ), Along step G is s
  | [], _ => trivial
  | i :: is, s => ⟨hG s i, along_of_forall hG is (attempt step i s)⟩

/-- The inputs of a run that succeeded, in order. -/
def journal (step : ι → σ → Except ε σ) : List ι → σ → List ι
  | [], _ => []
  | i :: is, s =>
    match step i s with
    | .ok s' => i :: journal step is s'
    | .error _ => journal step is s

/-- **Invariants that remember**: kept by each successful step, which writes its input down, so true of
a run and its journal. -/
theorem journal_induction {P : List ι → σ → Prop}
    (hstep : ∀ log s i s', P log s → step i s = .ok s' → P (log ++ [i]) s') :
    ∀ (is : List ι) (log : List ι) (s : σ), P log s →
      P (log ++ journal step is s) (run step is s)
  | [], log, s, hs => (List.append_nil log).symm ▸ hs
  | i :: is, log, s, hs => by
    unfold journal run attempt
    cases hi : step i s with
    | error e => exact journal_induction hstep is log s hs
    | ok s' =>
      have hrest := journal_induction hstep is (log ++ [i]) s' (hstep log s i s' hs hi)
      rwa [List.append_assoc] at hrest

/-- `run_induction` without a condition on the inputs. -/
theorem run_invariant {P : σ → Prop} (hstep : ∀ s i s', P s → step i s = .ok s' → P s')
    (is : List ι) (s : σ) (hs : P s) : P (run step is s) :=
  run_induction (fun s i s' hs _ h => hstep s i s' hs h) is s
    (along_of_forall (G := fun _ _ => True) (fun _ _ => trivial) is s) hs

end Runs

end Program
