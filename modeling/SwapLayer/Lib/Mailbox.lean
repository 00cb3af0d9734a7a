import Mathlib.Algebra.GroupWithZero.Nat
import Mathlib.Data.List.Nodup
import Mathlib.Logic.Relation

/-!
# Mailboxes: messages that are taken at most once

A mailbox holds messages under keys. A message is posted under a fresh key, and taken at most once,
for an amount that its value covers. `Step` is what a mailbox can do; what implements a mailbox is
a machine whose steps are steps of one, or stutter.

Results:
* `sound_of_reachable`: whatever is done to a mailbox, each key stands for one message, and what
  was taken was posted, is covered and was taken once.
* `Posts.sift`: posting messages is posting those of them that count, for a mailbox of these.
* `sum_le_of_covered`: what was taken of messages is at most what they are worth.
-/

/-- Messages of `μ` under keys of `κ`: everything ever posted, and everything ever taken with its
amount. -/
structure Mailbox (κ μ : Type) where
  posted : List (κ × μ)
  taken : List (κ × ℕ)

namespace Mailbox

variable {κ μ : Type}

def empty : Mailbox κ μ := ⟨[], []⟩

def post (b : Mailbox κ μ) (k : κ) (m : μ) : Mailbox κ μ := { b with posted := b.posted ++ [(k, m)] }

def take (b : Mailbox κ μ) (k : κ) (n : ℕ) : Mailbox κ μ := { b with taken := b.taken ++ [(k, n)] }

/-- No message was posted under the key. -/
def Fresh (b : Mailbox κ μ) (k : κ) : Prop := ∀ m, (k, m) ∉ b.posted

/-- The message is there and has not been taken. -/
structure Open (b : Mailbox κ μ) (k : κ) (m : μ) : Prop where
  posted : (k, m) ∈ b.posted
  untaken : ∀ n, (k, n) ∉ b.taken

/-- **What a mailbox can do.** -/
inductive Step (value : μ → ℕ) : Mailbox κ μ → Mailbox κ μ → Prop
  | post (b : Mailbox κ μ) (k : κ) (m : μ) (hfresh : b.Fresh k) : Step value b (b.post k m)
  | take (b : Mailbox κ μ) (k : κ) (m : μ) (n : ℕ) (hopen : b.Open k m) (hn : n ≤ value m) :
      Step value b (b.take k n)

/-- Several messages are posted in order, each under a fresh key. -/
inductive Posts : Mailbox κ μ → List μ → Mailbox κ μ → Prop
  | nil (b : Mailbox κ μ) : Posts b [] b
  | cons {b b' : Mailbox κ μ} {ms : List μ} (k : κ) (m : μ) (hfresh : b.Fresh k)
      (hrest : Posts (b.post k m) ms b') : Posts b (m :: ms) b'

@[simp] theorem post_posted (b : Mailbox κ μ) (k : κ) (m : μ) :
    (b.post k m).posted = b.posted ++ [(k, m)] := rfl

@[simp] theorem post_taken (b : Mailbox κ μ) (k : κ) (m : μ) : (b.post k m).taken = b.taken := rfl

@[simp] theorem take_posted (b : Mailbox κ μ) (k : κ) (n : ℕ) : (b.take k n).posted = b.posted := rfl

@[simp] theorem take_taken (b : Mailbox κ μ) (k : κ) (n : ℕ) :
    (b.take k n).taken = b.taken ++ [(k, n)] := rfl

/-! ## What holds of every mailbox -/

/-- Keys stand for one message, and what was taken was posted, is covered and was taken once. -/
structure Sound (value : μ → ℕ) (b : Mailbox κ μ) : Prop where
  keys : (b.posted.map Prod.fst).Nodup
  once : (b.taken.map Prod.fst).Nodup
  covered : ∀ k n, (k, n) ∈ b.taken → ∃ m, (k, m) ∈ b.posted ∧ n ≤ value m

variable {value : μ → ℕ} {b b' : Mailbox κ μ}

theorem sound_empty : Sound value (empty : Mailbox κ μ) where
  keys := List.nodup_nil
  once := List.nodup_nil
  covered := by simp [empty]

/-- An entry under a new key leaves the keys distinct. -/
theorem nodup_keys_append {α : Type} {l : List (κ × α)} (hl : (l.map Prod.fst).Nodup) {k : κ}
    (hk : ∀ a, (k, a) ∉ l) (a : α) : ((l ++ [(k, a)]).map Prod.fst).Nodup := by
  rw [List.map_append, List.nodup_append]
  refine ⟨hl, List.nodup_singleton _, fun k₁ h₁ k₂ h₂ he => ?_⟩
  obtain ⟨⟨k', a'⟩, hmem, rfl⟩ := List.mem_map.1 h₁
  rw [List.map_singleton, List.mem_singleton] at h₂
  obtain rfl : k' = k := he.trans h₂
  exact hk a' hmem

theorem Sound.post (hb : Sound value b) {k : κ} (hfresh : b.Fresh k) (m : μ) :
    Sound value (b.post k m) where
  keys := nodup_keys_append hb.keys hfresh m
  once := hb.once
  covered k' n hmem := by
    obtain ⟨m', hm', hn⟩ := hb.covered k' n hmem
    exact ⟨m', by simp [hm'], hn⟩

theorem Sound.take (hb : Sound value b) {k : κ} {m : μ} {n : ℕ} (hopen : b.Open k m)
    (hn : n ≤ value m) : Sound value (b.take k n) where
  keys := hb.keys
  once := nodup_keys_append hb.once hopen.untaken n
  covered k' n' hmem := by
    rcases List.mem_append.1 hmem with hold | hnew
    · exact hb.covered k' n' hold
    · obtain ⟨rfl, rfl⟩ := Prod.mk.inj (List.mem_singleton.1 hnew)
      exact ⟨m, hopen.posted, hn⟩

theorem Sound.step (hb : Sound value b) (h : Step value b b') : Sound value b' := by
  cases h with
  | post k m hfresh => exact hb.post hfresh m
  | take k m n hopen hn => exact hb.take hopen hn

/-- **Whatever is done to a mailbox, it is sound.** -/
theorem sound_of_reachable (h : Relation.ReflTransGen (Step value) empty b) : Sound value b := by
  induction h with
  | refl => exact sound_empty
  | tail _ hstep ih => exact ih.step hstep

/-- A key stands for one message. -/
theorem Sound.unique (hb : Sound value b) {k : κ} {m m' : μ} (h : (k, m) ∈ b.posted)
    (h' : (k, m') ∈ b.posted) : m = m' :=
  (Prod.mk.inj (List.inj_on_of_nodup_map hb.keys h h' rfl)).2

/-! ## Several messages at once -/

section Posts

variable {ms : List μ}

theorem Posts.sound (h : Posts b ms b') (hb : Sound value b) : Sound value b' := by
  induction h with
  | nil => exact hb
  | cons k m hfresh _ ih => exact ih (hb.post hfresh m)

theorem Posts.taken_eq (h : Posts b ms b') : b'.taken = b.taken := by
  induction h with
  | nil => rfl
  | cons k m hfresh _ ih => exact ih

theorem Posts.posted_of_mem (h : Posts b ms b') {p : κ × μ} (hp : p ∈ b.posted) :
    p ∈ b'.posted := by
  induction h with
  | nil => exact hp
  | cons k m hfresh _ ih => exact ih (List.mem_append_left _ hp)

/-- What is posted afterwards was there, or is among the messages. -/
theorem Posts.mem (h : Posts b ms b') {k : κ} {m : μ} (hm : (k, m) ∈ b'.posted) :
    (k, m) ∈ b.posted ∨ m ∈ ms := by
  induction h with
  | nil => exact .inl hm
  | cons k' m' hfresh _ ih =>
    rcases ih hm with hold | hnew
    · rcases List.mem_append.1 hold with h | h
      · exact .inl h
      · obtain ⟨rfl, rfl⟩ := Prod.mk.inj (List.mem_singleton.1 h)
        exact .inr (List.mem_cons_self ..)
    · exact .inr (List.mem_cons_of_mem _ hnew)

end Posts

/-! ## Part of a mailbox -/

section Sift

variable (p : μ → Bool)

/-- The messages that `p` selects, with `taken` taken. -/
def sift (b : Mailbox κ μ) (taken : List (κ × ℕ)) : Mailbox κ μ :=
  ⟨b.posted.filter fun m => p m.2, taken⟩

variable {p} {taken : List (κ × ℕ)}

theorem mem_sift {k : κ} {m : μ} :
    (k, m) ∈ (b.sift p taken).posted ↔ (k, m) ∈ b.posted ∧ p m = true := List.mem_filter

/-- A message is posted in the part, or not in it. -/
theorem sift_post {k : κ} (hfresh : b.Fresh k) (m : μ) :
    Relation.ReflGen (Step value) (b.sift p taken) ((b.post k m).sift p taken) := by
  by_cases hp : p m = true
  · have hpost : (b.post k m).sift p taken = (b.sift p taken).post k m := by
      simp [sift, post, hp]
    rw [hpost]
    exact .single (.post _ k m fun m' hm' => hfresh m' (mem_sift.1 hm').1)
  · have hsame : (b.post k m).sift p taken = b.sift p taken := by
      simp [sift, post, hp]
    rw [hsame]

/-- Several messages are posted in the part, but for those that are not in it. -/
theorem Posts.sift {ms : List μ} (h : Posts b ms b') :
    Relation.ReflTransGen (Step value) (b.sift p taken) (b'.sift p taken) := by
  induction h with
  | nil => exact .refl
  | cons k m hfresh _ ih => exact (sift_post hfresh m).to_reflTransGen.trans ih

end Sift

/-! ## Totals -/

/-- Amounts under distinct keys, each covered by a message under its key, add up to no more than
what the messages are worth. By induction on the amounts, taking the message of the first out. -/
theorem sum_le_of_covered {taken : List (κ × ℕ)} {posted : List (κ × μ)}
    (hnodup : (taken.map Prod.fst).Nodup)
    (hcovered : ∀ k n, (k, n) ∈ taken → ∃ m, (k, m) ∈ posted ∧ n ≤ value m) :
    (taken.map Prod.snd).sum ≤ (posted.map fun p => value p.2).sum := by
  induction taken generalizing posted with
  | nil => exact Nat.zero_le _
  | cons t taken ih =>
    obtain ⟨k, n⟩ := t
    obtain ⟨m, hm, hn⟩ := hcovered k n (List.mem_cons_self ..)
    obtain ⟨front, back, rfl⟩ := List.append_of_mem hm
    obtain ⟨hk, hrest⟩ := List.nodup_cons.1 hnodup
    -- the other amounts are covered by the other messages
    have hothers : (taken.map Prod.snd).sum ≤ ((front ++ back).map fun p => value p.2).sum := by
      refine ih hrest fun k' n' hmem => ?_
      obtain ⟨m', hm', hn'⟩ := hcovered k' n' (List.mem_cons_of_mem _ hmem)
      have hne : k' ≠ k := by
        rintro rfl
        exact hk (List.mem_map.2 ⟨_, hmem, rfl⟩)
      refine ⟨m', ?_, hn'⟩
      rcases List.mem_append.1 hm' with h | h
      · exact List.mem_append_left _ h
      · rcases List.mem_cons.1 h with h | h
        · exact absurd (Prod.mk.inj h).1 hne
        · exact List.mem_append_right _ h
    simp only [List.map_append, List.sum_append] at hothers
    simp only [List.map_cons, List.map_append, List.sum_cons, List.sum_append]
    omega

end Mailbox
