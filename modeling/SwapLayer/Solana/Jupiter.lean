import SwapLayer.Solana.State

/-!
# Swaps through Jupiter

Model of the Jupiter part of `composite/mod.rs` and of `utils/jupiter_v6`. The caller of a swap
instruction passes the accounts and the arguments of Jupiter's shared accounts route along; the
program checks the accounts it knows and reads the outcome from the two token accounts afterwards.
Jupiter itself (`Externals.jupiter`) answers with what these accounts then hold, whatever that is.

Results:
* `setUp_ok`: setting up changes nothing.
* `swapExactIn_ok`: a swap changes the amounts of the two token accounts, and pays at least the
  limit or fails.
* `swapped_moves`: a swap from USDC moves lamports at most at its destination.
* `computeMinAmountOut_exact`: the limit is computed without a panic, and both paths through the
  machine arithmetic give the quote less the slippage, rounded down.
-/

namespace SwapLayer.Solana

open ByteString Program SplToken

def JUPITER_AUTHORITY_COUNT : ℕ := 8
def MAX_SLIPPAGE_BPS : ℕ := 10000

/-- The accounts of `JupiterV6SharedAccountsRoute`, those that follow, and the arguments. -/
structure SharedAccountsRoute where
  args : SharedAccountsRouteArgs
  transferAuthority : Pubkey
  srcCustodyToken : Pubkey
  jupiterSrcCustodyToken : Pubkey
  jupiterDstCustodyToken : Pubkey
  dstCustodyToken : Pubkey
  srcMint : Pubkey
  dstMint : Pubkey
  rest : List Pubkey

/-- `compute_min_amount_out`; the two branches of the source compute the same number
(`JupiterV6SwapExactIn.computeMinAmountOut_eq`). -/
def computeMinAmountOut (args : SharedAccountsRouteArgs) : ℕ :=
  args.quotedOutAmount * (MAX_SLIPPAGE_BPS - min args.slippageBps MAX_SLIPPAGE_BPS) /
    MAX_SLIPPAGE_BPS

/-- `set_up`: the address of the first account behind the fixed ones. -/
def SharedAccountsRoute.setUp (r : SharedAccountsRoute) : Instruction Pubkey := do
  check (r.args.authorityId ≤ JUPITER_AUTHORITY_COUNT) .invalidJupiterV6AuthorityId
  let src ← interfaceTokenAccount r.jupiterSrcCustodyToken
  constraint (src.mint = r.srcMint) .constraintTokenMint
  let dst ← interfaceTokenAccount r.jupiterDstCustodyToken
  constraint (dst.mint = r.dstMint) .constraintTokenMint
  match r.rest with
  | first :: _ => return first
  | [] => fail .panic

/-- The checks of the caller: authority, token accounts and mints are the program's own. -/
def SharedAccountsRoute.verify (r : SharedAccountsRoute) (authority src dst srcMint dstMint : Pubkey) :
    Instruction Unit := do
  check (r.transferAuthority = authority) .invalidSwapAuthority
  check (r.srcCustodyToken = src) .invalidSourceSwapToken
  check (r.dstCustodyToken = dst) .invalidDestinationSwapToken
  check (r.srcMint = srcMint) .invalidSourceMint
  check (r.dstMint = dstMint) .invalidDestinationMint

/-- Set the amount of a token account; on the native mint the lamports follow. -/
def setAmount (d : Deployment) (k : Pubkey) (t : TokenAccount Pubkey) (n : ℕ)
    (s : Accounts Pubkey) : Accounts Pubkey :=
  let s := s.setToken k (some { t with amount := n })
  if t.mint = d.nativeMint then s.setLamports k (s.lamports k - t.amount + n) else s

/-- The accounts after a swap from `src` to `dst`. -/
def swapped (d : Deployment) (src dst : Pubkey) (s t : TokenAccount Pubkey) (r : JupiterReply)
    (accounts : Accounts Pubkey) : Accounts Pubkey :=
  setAmount d dst t r.dstAmount (setAmount d src s r.srcAmount accounts)

/-- `swap_exact_in`: what the destination holds afterwards, and what is left of the source. -/
def SharedAccountsRoute.swapExactIn (d : Deployment) (x : Externals) (r : SharedAccountsRoute)
    (args : SharedAccountsRouteArgs) (limitAmount : Option ℕ) : Instruction (ℕ × ℕ) := do
  let src ← interfaceTokenAccount r.srcCustodyToken
  let dst ← interfaceTokenAccount r.dstCustodyToken
  match x.jupiter ⟨args, r.rest, src.amount, dst.amount⟩ with
  | none => fail .jupiter
  | some reply => do
    modifyBank fun b =>
      b.withAccounts (swapped d r.srcCustodyToken r.dstCustodyToken src dst reply b.accounts)
    check (limitAmount.getD (computeMinAmountOut args) ≤ reply.dstAmount) .swapFailed
    return (reply.dstAmount, reply.srcAmount)

section Ok

variable {d : Deployment} {x : Externals} {r : SharedAccountsRoute} {b b' : Bank} {u : Unit}

theorem setUp_ok {k : Pubkey} (h : r.setUp b = .ok (k, b')) : b' = b := by
  obtain ⟨_, _, hid, h₁⟩ := bind_ok.1 h
  obtain ⟨-, rfl⟩ := check_ok.1 hid
  obtain ⟨src, _, hsrc, h₂⟩ := bind_ok.1 h₁
  obtain ⟨-, rfl⟩ := interfaceTokenAccount_ok.1 hsrc
  obtain ⟨_, _, hmint, h₃⟩ := bind_ok.1 h₂
  obtain ⟨-, rfl⟩ := constraint_ok.1 hmint
  obtain ⟨dst, _, hdst, h₄⟩ := bind_ok.1 h₃
  obtain ⟨-, rfl⟩ := interfaceTokenAccount_ok.1 hdst
  obtain ⟨_, _, hmint, h₅⟩ := bind_ok.1 h₄
  obtain ⟨-, rfl⟩ := constraint_ok.1 hmint
  cases hr : r.rest with
  | nil =>
    rw [hr] at h₅
    exact (fail_ok.1 h₅).elim
  | cons first rest =>
    rw [hr] at h₅
    exact (pure_ok.1 h₅).2

theorem verify_ok {authority src dst srcMint dstMint : Pubkey} :
    r.verify authority src dst srcMint dstMint b = .ok (u, b') ↔
      r.transferAuthority = authority ∧ r.srcCustodyToken = src ∧ r.dstCustodyToken = dst ∧
        r.srcMint = srcMint ∧ r.dstMint = dstMint ∧ b' = b := by
  simp only [SharedAccountsRoute.verify, bind_ok, check_ok]
  constructor
  · rintro ⟨_, _, ⟨h₁, rfl⟩, _, _, ⟨h₂, rfl⟩, _, _, ⟨h₃, rfl⟩, _, _, ⟨h₄, rfl⟩, h₅, rfl⟩
    exact ⟨h₁, h₂, h₃, h₄, h₅, rfl⟩
  · rintro ⟨h₁, h₂, h₃, h₄, h₅, rfl⟩
    exact ⟨(), _, ⟨h₁, rfl⟩, (), _, ⟨h₂, rfl⟩, (), _, ⟨h₃, rfl⟩, (), _, ⟨h₄, rfl⟩, h₅, rfl⟩

/-- **A swap** pays at least the limit; it changes the amounts of two token accounts. -/
theorem swapExactIn_ok {args : SharedAccountsRouteArgs} {limitAmount : Option ℕ}
    {out dust : ℕ} (h : r.swapExactIn d x args limitAmount b = .ok ((out, dust), b')) :
    ∃ src dst reply, b.tokens r.srcCustodyToken = some src ∧
      b.tokens r.dstCustodyToken = some dst ∧
      x.jupiter ⟨args, r.rest, src.amount, dst.amount⟩ = some reply ∧
      out = reply.dstAmount ∧ dust = reply.srcAmount ∧
      limitAmount.getD (computeMinAmountOut args) ≤ out ∧
      b' = b.withAccounts
        (swapped d r.srcCustodyToken r.dstCustodyToken src dst reply b.accounts) := by
  obtain ⟨src, _, hsrc, h₁⟩ := bind_ok.1 h
  obtain ⟨hsrc, rfl⟩ := interfaceTokenAccount_ok.1 hsrc
  obtain ⟨dst, _, hdst, h₂⟩ := bind_ok.1 h₁
  obtain ⟨hdst, rfl⟩ := interfaceTokenAccount_ok.1 hdst
  cases hj : x.jupiter ⟨args, r.rest, src.amount, dst.amount⟩ with
  | none =>
    rw [hj] at h₂
    exact (fail_ok.1 h₂).elim
  | some reply =>
    rw [hj] at h₂
    obtain ⟨_, _, hmod, h₃⟩ := bind_ok.1 h₂
    have hb := modifyBank_ok.1 hmod
    obtain ⟨_, _, hlimit, hret⟩ := bind_ok.1 h₃
    obtain ⟨hle, rfl⟩ := check_ok.1 hlimit
    obtain ⟨hpair, rfl⟩ := pure_ok.1 hret
    cases hpair
    exact ⟨src, dst, reply, hsrc, hdst, hj, rfl, rfl, hle, hb⟩

end Ok

/-! ### Where a swap leaves the accounts -/

section Swapped

variable {d : Deployment} {src dst k : Pubkey} {s t : TokenAccount Pubkey} {r : JupiterReply}
  {n : ℕ} {accounts : Accounts Pubkey}

@[simp] theorem setAmount_tokens : (setAmount d k t n accounts).tokens =
    Function.update accounts.tokens k (some { t with amount := n }) := by
  unfold setAmount
  split <;> rfl

theorem setAmount_self :
    (setAmount d k t n accounts).tokens k = some { t with amount := n } := by
  rw [setAmount_tokens, Function.update_self]

theorem setAmount_other {k' : Pubkey} (hne : k' ≠ k) :
    (setAmount d k t n accounts).tokens k' = accounts.tokens k' := by
  rw [setAmount_tokens, Function.update_of_ne hne]

theorem setAmount_lamports_other {k' : Pubkey} (hne : k' ≠ k) :
    (setAmount d k t n accounts).lamports k' = accounts.lamports k' := by
  unfold setAmount
  split <;> simp [hne]

theorem swapped_tokens : (swapped d src dst s t r accounts).tokens =
    Function.update (Function.update accounts.tokens src (some { s with amount := r.srcAmount })) dst
      (some { t with amount := r.dstAmount }) := by
  rw [swapped, setAmount_tokens, setAmount_tokens]

theorem swapped_dst : (swapped d src dst s t r accounts).tokens dst =
    some { t with amount := r.dstAmount } := setAmount_self

theorem swapped_src (hne : src ≠ dst) : (swapped d src dst s t r accounts).tokens src =
    some { s with amount := r.srcAmount } := (setAmount_other hne).trans setAmount_self

theorem swapped_other (hsrc : k ≠ src) (hdst : k ≠ dst) :
    (swapped d src dst s t r accounts).tokens k = accounts.tokens k :=
  (setAmount_other hdst).trans (setAmount_other hsrc)

theorem swapped_lamports_other (hsrc : k ≠ src) (hdst : k ≠ dst) :
    (swapped d src dst s t r accounts).lamports k = accounts.lamports k :=
  (setAmount_lamports_other hdst).trans (setAmount_lamports_other hsrc)

theorem setAmount_lamports_of_ne (hm : t.mint ≠ d.nativeMint) :
    (setAmount d k t n accounts).lamports = accounts.lamports := by
  rw [setAmount, if_neg hm]
  rfl

/-- A swap of tokens that are no lamports moves lamports at most at the destination. -/
theorem swapped_moves (src dst : Pubkey) (t : TokenAccount Pubkey) (r : JupiterReply)
    (accounts : Accounts Pubkey) (hm : s.mint ≠ d.nativeMint) :
    ∃ i o, Ledger.Moves accounts.lamports (swapped d src dst s t r accounts).lamports
      (Pi.single dst i) (Pi.single dst o) := by
  have hmoves : Ledger.Moves accounts.lamports (swapped d src dst s t r accounts).lamports
      (0 + Pi.single dst _) (Pi.single dst _) := .of_other fun k hk => by
    rw [swapped, setAmount_lamports_other hk, setAmount_lamports_of_ne hm]
    rfl
  rw [zero_add] at hmoves
  exact ⟨_, _, hmoves⟩

theorem swapped_kept (hsrc : k ≠ src) (hdst : k ≠ dst) :
    Kept k accounts (swapped d src dst s t r accounts) :=
  ⟨swapped_other hsrc hdst, Nat.le_of_eq (swapped_lamports_other hsrc hdst).symm⟩

end Swapped

/-! ### The limit of a swap

`compute_min_amount_out` in the widths of the source. A product that fits in a `u64` is computed
there; a larger one goes through a `u128` and is cast back. -/

/-- `JupiterV6SwapExactIn`: what the limit is computed from. -/
structure JupiterV6SwapExactIn where
  quotedOutAmount : Uint 8
  slippageBps : Uint 2
  deriving DecidableEq

namespace JupiterV6SwapExactIn

def MAX_QUOTED_OUT_AMOUNT : ℕ := (U64 - 1) / MAX_SLIPPAGE_BPS

/-- What is left of `MAX_SLIPPAGE_BPS`; a larger slippage counts as the whole. -/
def afterSlippageBps (a : JupiterV6SwapExactIn) : ℕ :=
  MAX_SLIPPAGE_BPS - min (a.slippageBps : ℕ) MAX_SLIPPAGE_BPS

/-- The path through `u128`: `saturating_mul`, `saturating_div` and the cast to `u64`. -/
def widePath (a : JupiterV6SwapExactIn) : ℕ :=
  min (a.quotedOutAmount * a.afterSlippageBps) (2 ^ 128 - 1) / MAX_SLIPPAGE_BPS % U64

/-- The path in `u64`: `checked_mul`, whose result is unwrapped, and `saturating_div`. -/
def fastPath (a : JupiterV6SwapExactIn) : Except Error ℕ := do
  ensure (a.quotedOutAmount * a.afterSlippageBps < U64) .panic
  return a.quotedOutAmount * a.afterSlippageBps / MAX_SLIPPAGE_BPS

/-- `compute_min_amount_out`. -/
def computeMinAmountOut (a : JupiterV6SwapExactIn) : Except Error ℕ :=
  if MAX_QUOTED_OUT_AMOUNT < a.quotedOutAmount then .ok a.widePath else a.fastPath

/-- The quote less the slippage, over the naturals. -/
def minAmountOut (a : JupiterV6SwapExactIn) : ℕ :=
  a.quotedOutAmount * (10000 - min (a.slippageBps : ℕ) 10000) / 10000

variable (a b : JupiterV6SwapExactIn)

theorem afterSlippageBps_le : a.afterSlippageBps ≤ MAX_SLIPPAGE_BPS := Nat.sub_le _ _

theorem quotedOutAmount_lt : (a.quotedOutAmount : ℕ) < U64 := a.quotedOutAmount.isLt

theorem minAmountOut_le : a.minAmountOut ≤ a.quotedOutAmount := by
  have hmul := Nat.mul_le_mul_left (a.quotedOutAmount : ℕ) a.afterSlippageBps_le
  exact Nat.div_le_of_le_mul (hmul.trans (Nat.le_of_eq (Nat.mul_comm _ _)))

/-- **The `u128` path**: the product does not saturate, and the quotient survives the cast. -/
theorem widePath_eq : a.widePath = a.minAmountOut := by
  have hmul : a.quotedOutAmount * a.afterSlippageBps ≤ U64 * MAX_SLIPPAGE_BPS :=
    Nat.mul_le_mul (Nat.le_of_lt a.quotedOutAmount_lt) a.afterSlippageBps_le
  have hfits : a.quotedOutAmount * a.afterSlippageBps ≤ 2 ^ 128 - 1 :=
    hmul.trans (by decide)
  have hcast : a.minAmountOut < U64 := Nat.lt_of_le_of_lt a.minAmountOut_le a.quotedOutAmount_lt
  rw [widePath, Nat.min_eq_left hfits]
  exact Nat.mod_eq_of_lt hcast

/-- **The `u64` path** does not panic up to the threshold. -/
theorem fastPath_eq (h : a.quotedOutAmount ≤ MAX_QUOTED_OUT_AMOUNT) :
    a.fastPath = .ok a.minAmountOut := by
  have hmul : a.quotedOutAmount * a.afterSlippageBps ≤ MAX_QUOTED_OUT_AMOUNT * MAX_SLIPPAGE_BPS :=
    Nat.mul_le_mul h a.afterSlippageBps_le
  have hlt : a.quotedOutAmount * a.afterSlippageBps < U64 :=
    Nat.lt_of_le_of_lt hmul (by decide)
  exact except_bind_ok.2 ⟨(), ensure_ok.2 hlt, rfl⟩

theorem computeMinAmountOut_eq : a.computeMinAmountOut = .ok a.minAmountOut := by
  unfold computeMinAmountOut
  split
  · rw [widePath_eq]
  · rename_i hle
    exact fastPath_eq a (Nat.le_of_not_lt hle)

theorem minAmountOut_mono (h : a.quotedOutAmount ≤ b.quotedOutAmount)
    (hslippage : a.slippageBps = b.slippageBps) : a.minAmountOut ≤ b.minAmountOut := by
  unfold minAmountOut
  rw [hslippage]
  exact Nat.div_le_div_right (Nat.mul_le_mul_right _ h)

theorem minAmountOut_anti (h : a.quotedOutAmount = b.quotedOutAmount)
    (hslippage : a.slippageBps ≤ b.slippageBps) : b.minAmountOut ≤ a.minAmountOut := by
  have hmin : min (a.slippageBps : ℕ) 10000 ≤ min (b.slippageBps : ℕ) 10000 :=
    min_le_min_right _ hslippage
  unfold minAmountOut
  rw [h]
  exact Nat.div_le_div_right (Nat.mul_le_mul_left _ (Nat.sub_le_sub_left hmin _))

/-- **The limit is exact.** It never panics; it is the quote less the slippage, rounded down,
whichever path is taken; a swap with these arguments is checked against it; it is at most the
quote, grows with the quote and falls with the slippage. -/
theorem computeMinAmountOut_exact (a : JupiterV6SwapExactIn) :
    a.computeMinAmountOut =
        .ok (a.quotedOutAmount * (10000 - min (a.slippageBps : ℕ) 10000) / 10000) ∧
      a.computeMinAmountOut = .ok a.widePath ∧
      (a.quotedOutAmount ≤ MAX_QUOTED_OUT_AMOUNT → a.computeMinAmountOut = a.fastPath) ∧
      (∀ args : SharedAccountsRouteArgs, args.quotedOutAmount = a.quotedOutAmount →
        args.slippageBps = a.slippageBps →
        a.computeMinAmountOut = .ok (Solana.computeMinAmountOut args)) ∧
      ∀ out, a.computeMinAmountOut = .ok out →
        out ≤ a.quotedOutAmount ∧
        ∀ (b : JupiterV6SwapExactIn) out', b.computeMinAmountOut = .ok out' →
          (a.quotedOutAmount ≤ b.quotedOutAmount → a.slippageBps = b.slippageBps → out ≤ out') ∧
          (a.quotedOutAmount = b.quotedOutAmount → a.slippageBps ≤ b.slippageBps →
            out' ≤ out) := by
  refine ⟨computeMinAmountOut_eq a, ?_, fun h => ?_, fun args hquote hslippage => ?_,
    fun out hout => ?_⟩
  · rw [computeMinAmountOut_eq, widePath_eq]
  · rw [computeMinAmountOut_eq, fastPath_eq a h]
  · rw [computeMinAmountOut_eq, Solana.computeMinAmountOut, hquote, hslippage]
    rfl
  · obtain rfl := Except.ok.inj ((computeMinAmountOut_eq a).symm.trans hout)
    refine ⟨minAmountOut_le a, fun b out' hout' => ?_⟩
    obtain rfl := Except.ok.inj ((computeMinAmountOut_eq b).symm.trans hout')
    exact ⟨minAmountOut_mono a b, minAmountOut_anti a b⟩

end JupiterV6SwapExactIn

end SwapLayer.Solana
