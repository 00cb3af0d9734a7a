import SwapLayer.Evm.Swap

/-!
# What `revertOnFailure` guarantees

The comment on `_swap` promises its callers that, with `revertOnFailure`, they receive the output token
within the limits or the call reverts. This module asks when that is so (`KeepsPromise`), for all
configurations of the two routers. A router with code is trusted to revert or to honour its limits; an
address without code, the zero address or another one, answers every low-level call with success and
no data.

`_traderJoeSwap` decodes what the router returns, which fails on no data. `_uniswapSwap` measures a
difference of balances, which is zero when nothing happened, and compares it with nothing.

Results:
* `swap_keepsPromise_iff`: the exact condition, for every swap.
* `absentRouter_undelivered`: a swap through a Uniswap router that is not there.
-/

namespace SwapLayer.Evm

open ByteString Program Ledger

/-! ## The promise -/

section Promise

variable (d : Deployment) (x : Externals) (swapType : ℕ) (isExactIn : Bool)
  (inputAmount outputAmount : ℕ) (inputToken outputToken : Address) (approveCheck : Bool)
  (deadline : ℕ) (path : Bytes) (w : World)

/-- The output arrived within the limits, and `n` is the amount the caller did not fix. -/
def Delivers (held held' : Asset → ℕ) (n : ℕ) : Prop :=
  if isExactIn then
    held' (.erc20 outputToken) = held (.erc20 outputToken) + n ∧ outputAmount ≤ n
  else
    held' (.erc20 outputToken) = held (.erc20 outputToken) + outputAmount ∧
      held' (.erc20 inputToken) + n = held (.erc20 inputToken) ∧ n ≤ inputAmount

/-- With `revertOnFailure`, a swap reverts or delivers. -/
def KeepsPromise : Prop :=
  ∀ n w', swap d x swapType isExactIn inputAmount outputAmount inputToken outputToken true approveCheck
      deadline path w = .ok (n, w') →
    Delivers isExactIn inputAmount outputAmount inputToken outputToken w.held w'.held n

/-- The approvals that a Uniswap swap checks are there, or are given when it asks for them; no router
at the zero address is approved. -/
def ApprovalsGiven : Prop :=
  approveCheck = true → x.permit2Allowance inputToken d.uniswapRouter < inputAmount →
    d.uniswapRouter ≠ zeroAddress →
      x.approve (.token inputToken d.permit2) = true ∧
        x.approve (.permit2 inputToken d.uniswapRouter) = true

/-- The call of the Uniswap router is reached and goes to an address without code: the deadline has
not passed, the approvals are given and the token that is measured has a balance. -/
structure AsksAbsentRouter : Prop where
  type : swapType = SWAP_TYPE_UNISWAPV3
  router : x.hasCode d.uniswapRouter = false
  inTime : ¬(deadline ≠ 0 ∧ deadline < x.blockTimestamp)
  approved : ApprovalsGiven d x inputAmount inputToken approveCheck
  readable : x.isToken (measuredToken isExactIn inputToken outputToken) = true

end Promise

section Guarantee

variable {d : Deployment} {x : Externals} {swapType : ℕ} {isExactIn : Bool}
  {inputAmount outputAmount : ℕ} {inputToken outputToken : Address} {approveCheck : Bool}
  {deadline : ℕ} {path : Bytes} {w w' : World} {n : ℕ}

/-! ## A router that settled -/

theorem settled_output {r : RouterReply} (held : Asset → ℕ) (hne : inputToken ≠ outputToken) :
    settled inputToken outputToken r held (.erc20 outputToken) = held (.erc20 outputToken) + r.paid := by
  rw [settled, credit_self, debit_other _ (by simpa using Ne.symm hne)]

theorem settled_input {r : RouterReply} {held : Asset → ℕ} (hne : inputToken ≠ outputToken)
    (hf : Feasible x inputToken outputToken r held) :
    settled inputToken outputToken r held (.erc20 inputToken) + r.pulled = held (.erc20 inputToken) := by
  rw [settled, credit_apply, single_other (by simpa using hne), debit_self]
  exact Nat.sub_add_cancel hf.1

theorem measured_eq {r : RouterReply} (hne : inputToken ≠ outputToken) :
    measured swapType isExactIn inputToken outputToken r = if isExactIn then r.paid else r.pulled := by
  unfold measured
  simp only [hne, and_false, reduceIte]

theorem settled_delivers {r : RouterReply} {held : Asset → ℕ} (hne : inputToken ≠ outputToken)
    (hf : Feasible x inputToken outputToken r held)
    (hlim : if isExactIn then outputAmount ≤ r.paid
      else r.pulled ≤ inputAmount ∧ r.paid = outputAmount) :
    Delivers isExactIn inputAmount outputAmount inputToken outputToken held
      (settled inputToken outputToken r held)
      (measured swapType isExactIn inputToken outputToken r) := by
  rw [measured_eq hne]
  cases isExactIn with
  | true => exact ⟨settled_output held hne, hlim⟩
  | false =>
    obtain ⟨hpulled, rfl⟩ := hlim
    exact ⟨settled_output held hne, settled_input hne hf, hpulled⟩

/-- **Through a router that is there and honours its limits** the promise is kept. -/
theorem keepsPromise_of_honours (hcode : RouterDeployed d x swapType)
    (hr : RouterHonours d x swapType) (hne : inputToken ≠ outputToken)
    (hp : IsEvmSwapType swapType → IsSwapPath inputToken outputToken path)
    (hin : inputAmount < 2 ^ 256) :
    KeepsPromise d x swapType isExactIn inputAmount outputAmount inputToken outputToken approveCheck
      deadline path w := by
  intro n w' h
  obtain ⟨w₁, hsame, h₁⟩ := swap_approveCheck h
  have htoken : swapType = SWAP_TYPE_UNISWAPV3 → ¬(deadline ≠ 0 ∧ deadline < x.blockTimestamp) →
      x.isToken (measuredToken isExactIn inputToken outputToken) = true := by
    rintro rfl hd
    exact swap_isToken h₁ hd
  cases hex : execution d x swapType isExactIn inputAmount outputAmount inputToken outputToken deadline
      path w₁.held with
  | none =>
    obtain ⟨e, hfails⟩ := swap_of_no_execution true hp htoken hex
    cases h₁.symm.trans hfails
  | some r =>
    obtain ⟨hf, hlim⟩ := execution_limits hr hex
    cases h₁.symm.trans (swap_of_execution (fun _ => hr) hcode.2 hp htoken hin hex)
    rw [← hsame.held]
    refine settled_delivers hne hf ?_
    cases isExactIn with
    | true => exact hlim.2
    | false => exact hlim

/-! ## A router that is not there -/

/-- Taking nothing and paying nothing is always possible. -/
theorem feasible_zero (held : Asset → ℕ) : Feasible x inputToken outputToken ⟨0, 0⟩ held :=
  ⟨Nat.zero_le _, .inl rfl⟩

/-- The approve check of a Uniswap swap succeeds iff the approvals are given. -/
theorem uniswapApproveCheck_exists :
    (∃ w₁, uniswapApproveCheck d x approveCheck inputToken inputAmount w = .ok ((), w₁)) ↔
      ApprovalsGiven d x inputAmount inputToken approveCheck := by
  unfold uniswapApproveCheck ApprovalsGiven uniswapMaxApprove maxApprove
  by_cases hcheck : approveCheck = true ∧ x.permit2Allowance inputToken d.uniswapRouter < inputAmount
  · rw [if_pos hcheck]
    by_cases hzero : d.uniswapRouter = zeroAddress
    · rw [if_pos hzero]
      exact ⟨fun _ _ _ hne => absurd hzero hne, fun _ => ⟨w, rfl⟩⟩
    · rw [if_neg hzero]
      constructor
      · rintro ⟨w₂, h⟩ - - -
        obtain ⟨_, w₁, htoken, hpermit⟩ := bind_ok.1 h
        unfold approve at htoken hpermit
        refine ⟨?_, ?_⟩
        · by_contra hno
          rw [if_neg hno] at htoken
          cases htoken
        · by_contra hno
          rw [if_neg hno] at hpermit
          cases hpermit
      · intro h
        obtain ⟨htoken, hpermit⟩ := h hcheck.1 hcheck.2 hzero
        exact ⟨_, bind_ok.2 ⟨(), _, if_pos htoken, if_pos hpermit⟩⟩
  · rw [if_neg hcheck]
    exact ⟨fun _ h₁ h₂ => absurd ⟨h₁, h₂⟩ hcheck, fun _ => ⟨w, rfl⟩⟩

/-- **Without a Uniswap router** every call succeeds, and nothing moves. -/
theorem swap_absentRouter
    (hasks : AsksAbsentRouter d x swapType isExactIn inputAmount inputToken outputToken approveCheck
      deadline)
    (hp : IsSwapPath inputToken outputToken path) :
    ∃ w', w'.held = settled inputToken outputToken ⟨0, 0⟩ w.held ∧
      swap d x swapType isExactIn inputAmount outputAmount inputToken outputToken true approveCheck
          deadline path w =
        .ok (measured SWAP_TYPE_UNISWAPV3 isExactIn inputToken outputToken ⟨0, 0⟩, w') := by
  obtain ⟨rfl, hnone, hin, happroved, htoken⟩ := hasks
  obtain ⟨c, hreq⟩ := uniswapRequest_exists d isExactIn inputAmount outputAmount hp
  have hreply : uniswapReply d x c = .ok ⟨0, 0⟩ := if_pos hnone
  obtain ⟨w₁, hcheck⟩ := uniswapApproveCheck_exists.2 happroved
  have hsame := uniswapApproveCheck_sameFunds _ _ _ hcheck
  have hunchecked : uniswapApproveCheck d x false inputToken inputAmount w₁ = .ok ((), w₁) := by
    simp [uniswapApproveCheck, pure_apply]
  refine ⟨w₁.withHeld (settled inputToken outputToken ⟨0, 0⟩ w₁.held), by
    rw [World.withHeld_held, hsame.held], ?_⟩
  rw [swap, if_neg hin, if_pos rfl, ← uniswapSwap_of_ok hp (Nat.two_pow_pos 256) htoken hreq
    (outcome_ok.2 ⟨hreply, feasible_zero w₁.held⟩)]
  unfold uniswapSwap
  rw [bind_of_ok hcheck, bind_of_ok hunchecked]

/-- A swap through a Uniswap router without code that does not revert asked it. -/
theorem asksAbsentRouter_of_ok (hnone : x.hasCode d.uniswapRouter = false)
    (h : swap d x SWAP_TYPE_UNISWAPV3 isExactIn inputAmount outputAmount inputToken outputToken true
      approveCheck deadline path w = .ok (n, w')) :
    AsksAbsentRouter d x SWAP_TYPE_UNISWAPV3 isExactIn inputAmount inputToken outputToken approveCheck
      deadline := by
  have hin : ¬(deadline ≠ 0 ∧ deadline < x.blockTimestamp) := by
    intro hd
    rw [swap, if_pos hd] at h
    cases h
  obtain ⟨w₁, -, h₁⟩ := swap_approveCheck h
  refine ⟨rfl, hnone, hin, ?_, swap_isToken h₁ hin⟩
  rw [swap, if_neg hin, if_pos rfl] at h
  obtain ⟨_, w₂, hcheck, -⟩ := bind_ok.1 h
  exact uniswapApproveCheck_exists.1 ⟨w₂, hcheck⟩

/-! ## When the promise is kept -/

/-- **When `_swap` keeps its promise**: unless the Uniswap router that is asked for a positive amount
has no code. -/
theorem swap_keepsPromise_iff (hdeployed : RoutersHonour d x) (hne : inputToken ≠ outputToken)
    (hp : IsEvmSwapType swapType → IsSwapPath inputToken outputToken path)
    (hin : inputAmount < 2 ^ 256) :
    KeepsPromise d x swapType isExactIn inputAmount outputAmount inputToken outputToken approveCheck
        deadline path w ↔
      (AsksAbsentRouter d x swapType isExactIn inputAmount inputToken outputToken approveCheck
        deadline → outputAmount = 0) := by
  constructor
  · intro hkeeps hasks
    obtain ⟨w', hheld, hswap⟩ := swap_absentRouter hasks (hp (.inl hasks.type))
    have hdelivers := hkeeps _ _ hswap
    rw [measured_eq hne, hheld] at hdelivers
    cases isExactIn with
    | true => exact Nat.le_zero.1 hdelivers.2
    | false =>
      have hgrown := hdelivers.1
      rw [settled_output w.held hne] at hgrown
      exact (Nat.add_left_cancel hgrown).symm
  · intro hcondition n w' h
    have htype := swap_isEvmSwapType h
    by_cases hcode : RouterDeployed d x swapType
    · exact keepsPromise_of_honours hcode (hdeployed swapType hcode) hne hp hin n w' h
    rcases htype with rfl | rfl
    · -- nothing was asked for, and nothing moved
      have hnone : x.hasCode d.uniswapRouter = false :=
        Bool.eq_false_iff.2 fun hsome => hcode ⟨fun _ => hsome, nofun⟩
      have hasks := asksAbsentRouter_of_ok hnone h
      obtain rfl := hcondition hasks
      obtain ⟨w₁, hheld, hswap⟩ := swap_absentRouter hasks (hp (.inl rfl))
      cases h.symm.trans hswap
      rw [hheld]
      refine settled_delivers (x := x) hne (feasible_zero w.held) ?_
      cases isExactIn with
      | true => exact Nat.le_refl 0
      | false => exact ⟨Nat.zero_le _, rfl⟩
    · have hnone : x.hasCode d.traderJoeRouter = false :=
        Bool.eq_false_iff.2 fun hsome => hcode ⟨nofun, fun _ => hsome⟩
      exact absurd h (swap_traderJoe_absentRouter hnone)

end Guarantee

namespace Sample

/-- From USDC to the wrapped native token, through one pool. -/
def usdcToWnative : Bytes := usdc.toList ++ (toBE 3 500 ++ wnative.toList)

theorem usdcToWnative_isSwapPath : IsSwapPath usdc wnative usdcToWnative :=
  ⟨0, toBE 3 500, Nat.zero_le _, length_toBE .., rfl⟩

/-- The routers of the deployment are addresses without code. -/
def codeless : Externals :=
  { externals 0 0 with hasCode := fun _ => false, hasCode_zero := rfl }

/-- 100 USDC for at least 50 of the wrapped native token, through a router address without code: the
call returns 0 and reverts nothing. -/
theorem absentRouter_undelivered :
    RoutersHonour deployment codeless ∧ usdc ≠ wnative ∧ IsSwapPath usdc wnative usdcToWnative ∧
      (∃ w', swap deployment codeless SWAP_TYPE_UNISWAPV3 true 100 50 usdc wnative true false 0
        usdcToWnative (world fun _ => 1000) = .ok (0, w')) ∧
      ¬KeepsPromise deployment codeless SWAP_TYPE_UNISWAPV3 true 100 50 usdc wnative false 0
        usdcToWnative (world fun _ => 1000) := by
  have hasks : AsksAbsentRouter deployment codeless SWAP_TYPE_UNISWAPV3 true 100 usdc wnative false 0 :=
    ⟨rfl, rfl, by decide, nofun, rfl⟩
  obtain ⟨w', hheld, hrun⟩ := @swap_absentRouter deployment codeless _ true 100 50 usdc wnative false
    0 usdcToWnative (world fun _ => 1000) hasks usdcToWnative_isSwapPath
  refine ⟨fun swapType hcode => ⟨fun h => ?_, fun h => ?_⟩, by decide, usdcToWnative_isSwapPath,
    ⟨w', hrun⟩, fun hkeeps => ?_⟩
  · cases hcode.1 h
  · cases hcode.2 h
  · exact absurd (hkeeps _ _ hrun).2 (by decide)

/-- The same swap keeps the promise where the router is deployed. -/
theorem deployed_keepsPromise :
    KeepsPromise deployment (externals 0 0) SWAP_TYPE_UNISWAPV3 true 100 50 usdc wnative true 0
      usdcToWnative (world fun _ => 1000) :=
  (swap_keepsPromise_iff (fun swapType _ => externals_honour 0 0 swapType) (by decide)
    (fun _ => usdcToWnative_isSwapPath) (by decide)).2 fun hasks => absurd hasks.router (by decide)

end Sample

end SwapLayer.Evm
