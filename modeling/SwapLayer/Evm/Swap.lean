import SwapLayer.Evm.Fees
import SwapLayer.Evm.Message

/-!
# Swaps through the two routers

Model of `_swap` (`SwapLayerBase.sol:105-148`), `_uniswapSwap` and `_universalRouterSwap`
(`SwapLayerUniswapUR.sol`), `_traderJoeSwap` (`SwapLayerTraderJoe.sol`) and the max-approve
functions.

A router is an oracle that either fails or reports what it pulled and what it paid
(`Externals.uniswap`, `Externals.traderJoe`); the tokens are the ends of the path in the call.
A low-level call to an address without code succeeds and does nothing, which is what happens when
a router is not deployed. A reply that the contract's balance or the token's supply does not
allow cannot have happened, and counts as a failed call.

The Uniswap function measures the side of the swap it does not know, output or input, as a
difference of the contract's balances; the TraderJoe function uses the router's return value.

Results:
* `invertPath_ends`: for a path of the shape `parseEvmSwapParams` builds, the inversion loop of
  exact-out swaps terminates and exchanges the ends.
* `execution`, `execution_limits`: whether a swap takes place, and within which limits.
* `swap_of_execution`: an executed swap settles, and returns the measured amount.
* `swap_of_no_execution`: any other swap reverts, or is let pass with the amount zero.
-/

namespace SwapLayer.Evm

open ByteString Program Ledger

/-! ## Approvals -/

section Approvals

variable (d : Deployment) (x : Externals)

/-- `_maxApprove`. -/
def maxApprove (token spender : Address) : Contract Unit := approve x (.token token spender)

/-- `_uniswapMaxApprove`. -/
def uniswapMaxApprove (token : Address) : Contract Unit :=
  if d.uniswapRouter = zeroAddress then pure ()
  else do
    maxApprove x token d.permit2
    approve x (.permit2 token d.uniswapRouter)

/-- `_traderJoeMaxApprove`. -/
def traderJoeMaxApprove (token : Address) : Contract Unit :=
  if d.traderJoeRouter = zeroAddress then pure () else maxApprove x token d.traderJoeRouter

/-- The approve check of `_uniswapSwap`. -/
def uniswapApproveCheck (approveCheck : Bool) (inputToken : Address) (inputAmount : ℕ) :
    Contract Unit :=
  if approveCheck ∧ x.permit2Allowance inputToken d.uniswapRouter < inputAmount then
    uniswapMaxApprove d x inputToken
  else pure ()

/-- The approve check of `_traderJoeSwap`. -/
def traderJoeApproveCheck (approveCheck : Bool) (inputToken : Address) (inputAmount : ℕ) :
    Contract Unit :=
  if approveCheck ∧ x.allowance inputToken d.traderJoeRouter < inputAmount then
    maxApprove x inputToken d.traderJoeRouter
  else pure ()

end Approvals

/-! ## Router calls -/

/-- The holdings after a router pulled `tokenIn` and paid `tokenOut`. -/
def settled (tokenIn tokenOut : Address) (r : RouterReply) (held : Asset → ℕ) : Asset → ℕ :=
  credit (debit held (.erc20 tokenIn) r.pulled) (.erc20 tokenOut) r.paid

/-- The reply is one the contract's balance and the supply of the output token allow. -/
def Feasible (x : Externals) (tokenIn tokenOut : Address) (r : RouterReply)
    (held : Asset → ℕ) : Prop :=
  r.pulled ≤ held (.erc20 tokenIn) ∧ (r.paid = 0 ∨
    debit held (.erc20 tokenIn) r.pulled (.erc20 tokenOut) + r.paid ≤ x.supply tokenOut)

instance (x : Externals) (tokenIn tokenOut : Address) (r : RouterReply) (held : Asset → ℕ) :
    Decidable (Feasible x tokenIn tokenOut r held) :=
  inferInstanceAs (Decidable (_ ∧ _))

/-- What a router's reply amounts to: `none` is a failed call. -/
def outcome {ρ : Type} (x : Externals) (tokenIn tokenOut : Address) (amounts : ρ → RouterReply)
    (held : Asset → ℕ) : Except Bytes ρ → Except Bytes ρ
  | .error reason => .error reason
  | .ok r => if Feasible x tokenIn tokenOut (amounts r) held then .ok r else .error []

def UNIVERSAL_ROUTER_EXACT_IN : ℕ := 0
def UNIVERSAL_ROUTER_EXACT_OUT : ℕ := 1

/-- The first token of a packed path. -/
def firstToken (path : Bytes) : Address := sliceFixed 20 path 0

/-- The last token of a packed path. -/
def lastToken (path : Bytes) : Address := sliceFixed 20 path (path.length - 20)

namespace UniswapCall

/-- Exact-out paths run from the output token to the input token. -/
def tokenIn (c : UniswapCall) : Address :=
  if c.command = UNIVERSAL_ROUTER_EXACT_OUT then lastToken c.path else firstToken c.path

def tokenOut (c : UniswapCall) : Address :=
  if c.command = UNIVERSAL_ROUTER_EXACT_OUT then firstToken c.path else lastToken c.path

end UniswapCall

namespace TraderJoeCall

def tokenIn (c : TraderJoeCall) : Address := c.path.tokenPath.headD zeroAddress

def tokenOut (c : TraderJoeCall) : Address := c.path.tokenPath.getLastD zeroAddress

end TraderJoeCall

section Calls

variable (d : Deployment) (x : Externals)

/-- The reply to a call of the Uniswap router address. -/
def uniswapReply (c : UniswapCall) : Except Bytes RouterReply :=
  if x.hasCode d.uniswapRouter = false then .ok ⟨0, 0⟩ else x.uniswap c

/-- The reply to a call of the TraderJoe router address. -/
def traderJoeReply (c : TraderJoeCall) : Except Bytes TraderJoeReply :=
  if x.hasCode d.traderJoeRouter = false then .ok ⟨⟨0, 0⟩, none⟩ else x.traderJoe c

/-- `_uniswapRouter.call(...)`: success, or the reason of the failure. -/
def callUniswap (c : UniswapCall) : Contract (Except Bytes Unit) := fun w =>
  match outcome x c.tokenIn c.tokenOut id w.held (uniswapReply d x c) with
  | .error reason => .ok (.error reason, w)
  | .ok r => .ok (.ok (), w.withHeld (settled c.tokenIn c.tokenOut r w.held))

/-- `_traderJoeRouter.call(...)`: the returned amounts, or the reason of the failure. -/
def callTraderJoe (c : TraderJoeCall) : Contract (Except Bytes (Option (List ℕ))) := fun w =>
  match outcome x c.tokenIn c.tokenOut TraderJoeReply.toRouterReply w.held
      (traderJoeReply d x c) with
  | .error reason => .ok (.error reason, w)
  | .ok r => .ok (.ok r.amounts, w.withHeld (settled c.tokenIn c.tokenOut r.toRouterReply w.held))

end Calls

/-! ## Uniswap -/

/-- The do-while loop that inverts a path: alternately a pool id and a token, from the end. -/
def invertPathLoop (path : Bytes) : ℕ → ℕ → ℕ → Bytes → Except Revert Bytes
  | 0, _, _, _ => .error .outOfGas
  | fuel + 1, size, offset, invertedPath =>
    let size := if size = 20 then 3 else 20
    let offset := uncheckedSub offset size
    let invertedPath := invertedPath ++ slice path offset size
    if offset ≠ 0 then invertPathLoop path fuel size offset invertedPath else .ok invertedPath

/-- The path the router expects for an exact-out swap. -/
def invertPath (path : Bytes) : Except Revert Bytes :=
  let size := 20
  let offset := uncheckedSub path.length size
  invertPathLoop path path.length size offset (slice path offset size)

section Uniswap

variable (d : Deployment) (x : Externals)

/-- `_universalRouterSwap`: the balances of `unknownBalanceToken` before and after, both zero
for a failure that is let pass. -/
def universalRouterSwap (command : ℕ) (unknownBalanceToken : Address) (inOutAmount limitAmount : ℕ)
    (path : Bytes) (revertOnFailure : Bool) : Contract (ℕ × ℕ) := do
  let balanceBefore ← balanceOf x (.erc20 unknownBalanceToken)
  let result ← callUniswap d x ⟨command, d.self, inOutAmount, limitAmount, path, true⟩
  match result with
  | .error reason => if revertOnFailure then fail (.swapFailed reason) else pure (0, 0)
  | .ok () => do
    let balanceAfter ← balanceOf x (.erc20 unknownBalanceToken)
    pure (balanceBefore, balanceAfter)

/-- `_uniswapSwap`. -/
def uniswapSwap (isExactIn : Bool) (inputAmount outputAmount : ℕ)
    (inputToken outputToken : Address) (revertOnFailure approveCheck : Bool) (path : Bytes) :
    Contract ℕ := do
  uniswapApproveCheck d x approveCheck inputToken inputAmount
  if isExactIn then do
    let (balanceBefore, balanceAfter) ← universalRouterSwap d x UNIVERSAL_ROUTER_EXACT_IN
      outputToken inputAmount outputAmount path revertOnFailure
    return uncheckedSub balanceAfter balanceBefore
  else do
    let path ← lift (invertPath path)
    let (balanceBefore, balanceAfter) ← universalRouterSwap d x UNIVERSAL_ROUTER_EXACT_OUT
      inputToken outputAmount inputAmount path revertOnFailure
    return uncheckedSub balanceBefore balanceAfter

end Uniswap

/-! ## TraderJoe -/

/-- The loop over the pools of a path: tokens, versions, bin steps and the offset behind. -/
def traderJoeHops (path : Bytes) : ℕ → ℕ → List (Address × ℕ × ℕ) × ℕ
  | 0, offset => ([], offset)
  | n + 1, offset =>
    let (token, offset) := asAddressUnchecked path offset
    let (version, offset) := asUint8Unchecked path offset
    let (pairBinStep, offset) := asUint16Unchecked path offset
    let (hops, offset) := traderJoeHops path n offset
    ((token, version, pairBinStep) :: hops, offset)

/-- `pathLength` of `_traderJoeSwap`: the number of pools. -/
def traderJoePathLength (path : Bytes) : ℕ :=
  uncheckedSub path.length ADDRESS_SIZE / SHARED_PATH_ELEMENT_SIZE

/-- `tjPath` of `_traderJoeSwap`. -/
def traderJoePath (path : Bytes) : TraderJoePath :=
  let hops := traderJoeHops path (traderJoePathLength path) 0
  { pairBinSteps := hops.1.map fun hop => hop.2.2
    versions := hops.1.map fun hop => hop.2.1
    tokenPath := hops.1.map (fun hop => hop.1) ++ [(asAddressUnchecked path hops.2).1] }

/-- `abi.decode(result, (uint256))`, or the first entry of `abi.decode(result, (uint256[]))`. -/
def decodeAmount (isExactIn : Bool) : Option (List ℕ) → Except Revert ℕ
  | none => .error (.external .router)
  | some [] => .error (if isExactIn then .external .router else .panic PANIC_INDEX)
  | some (amount :: _) => .ok amount

section TraderJoe

variable (d : Deployment) (x : Externals)

/-- The call `_traderJoeSwap` makes. -/
def traderJoeRequest (isExactIn : Bool) (inputAmount outputAmount : ℕ) (path : Bytes) :
    TraderJoeCall :=
  if isExactIn then
    ⟨true, inputAmount, outputAmount, traderJoePath path, d.self, x.blockTimestamp⟩
  else ⟨false, outputAmount, inputAmount, traderJoePath path, d.self, x.blockTimestamp⟩

/-- `_traderJoeSwap`. -/
def traderJoeSwap (isExactIn : Bool) (inputAmount outputAmount : ℕ)
    (inputToken _outputToken : Address) (revertOnFailure approveCheck : Bool) (path : Bytes) :
    Contract ℕ := do
  traderJoeApproveCheck d x approveCheck inputToken inputAmount
  let result ← callTraderJoe d x (traderJoeRequest d x isExactIn inputAmount outputAmount path)
  match result with
  | .error reason => if revertOnFailure then fail (.swapFailed reason) else pure 0
  | .ok amounts => lift (decodeAmount isExactIn amounts)

/-! ## `_swap` -/

/-- `_swap`. -/
def swap (swapType : ℕ) (isExactIn : Bool) (inputAmount outputAmount : ℕ)
    (inputToken outputToken : Address) (revertOnFailure approveCheck : Bool) (deadline : ℕ)
    (path : Bytes) : Contract ℕ :=
  if deadline ≠ 0 ∧ deadline < x.blockTimestamp then
    if revertOnFailure then fail (.deadlineExpired x.blockTimestamp deadline) else pure 0
  else if swapType = SWAP_TYPE_UNISWAPV3 then
    uniswapSwap d x isExactIn inputAmount outputAmount inputToken outputToken revertOnFailure
      approveCheck path
  else if swapType = SWAP_TYPE_TRADERJOE then
    traderJoeSwap d x isExactIn inputAmount outputAmount inputToken outputToken revertOnFailure
      approveCheck path
  else if revertOnFailure then fail (.invalidSwapType swapType)
  else pure 0

end TraderJoe

/-! ## Paths -/

/-- The shape of the paths `parseEvmSwapParams` builds: a pool between any two tokens, from
`tokenIn` to `tokenOut`, with at most 255 tokens between. -/
def IsSwapPath (tokenIn tokenOut : Address) (path : Bytes) : Prop :=
  ∃ (hops : ℕ) (middle : Bytes), hops ≤ 255 ∧ middle.length = 3 + 23 * hops ∧
    path = tokenIn.toList ++ (middle ++ tokenOut.toList)

theorem evmPath_isSwapPath (tokenIn tokenOut : Address) (params : Bytes) (offset : ℕ) :
    IsSwapPath tokenIn tokenOut (evmPath tokenIn tokenOut params offset) := by
  refine ⟨pathLengthAt params offset, slice params (offset + 21) 3 ++ slice params (offset + 25)
    (pathLengthAt params offset * SHARED_PATH_ELEMENT_SIZE), ?_, ?_, ?_⟩
  · have := readBE_lt 1 params (offset + 24)
    unfold pathLengthAt
    omega
  · simp only [List.length_append, length_slice, SHARED_PATH_ELEMENT_SIZE, ADDRESS_SIZE,
      SHARED_POOL_ID_SIZE]
    omega
  · simp only [evmPath, List.append_assoc]

/-- The paths of parsed swaps have the shape. -/
theorem parseEvmSwapParams_path (tokenIn tokenOut : Address) (params : Bytes) (offset : ℕ)
    (h : IsEvmSwapType (parseEvmSwapParams tokenIn tokenOut params offset).1.swapType) :
    IsSwapPath tokenIn tokenOut (parseEvmSwapParams tokenIn tokenOut params offset).1.path := by
  by_cases hevm : IsEvmSwapType (swapTypeAt params offset)
  · rw [parseEvmSwapParams_of_evm _ _ hevm]
    exact evmPath_isSwapPath ..
  · rw [parseEvmSwapParams_of_not_evm _ _ hevm] at h
    exact absurd h not_isEvmSwapType_invalid

section Paths

variable {tokenIn tokenOut : Address} {path : Bytes}

theorem IsSwapPath.length (h : IsSwapPath tokenIn tokenOut path) :
    ∃ hops ≤ 255, path.length = 20 + 23 * (hops + 1) := by
  obtain ⟨hops, middle, hle, hlen, rfl⟩ := h
  refine ⟨hops, hle, ?_⟩
  simp only [List.length_append, List.Vector.toList_length, hlen]
  omega

/-- A token that stands behind a prefix is read there. -/
theorem sliceFixed_middle (pre : Bytes) (token : Address) (post : Bytes) :
    sliceFixed 20 (pre ++ (token.toList ++ post)) pre.length = token := by
  apply Subtype.ext
  have := slice_middle pre token.toList post
  rwa [List.Vector.toList_length] at this

/-- The first token of a string that starts with a token. -/
theorem firstToken_append (token : Address) (post : Bytes) :
    firstToken (token.toList ++ post) = token :=
  sliceFixed_middle [] token post

/-- The last token of a string that ends with a token. -/
theorem lastToken_append (pre : Bytes) (token : Address) :
    lastToken (pre ++ token.toList) = token := by
  have h := sliceFixed_middle pre token []
  have hlen : (pre ++ token.toList).length - 20 = pre.length := by simp
  rw [lastToken, hlen]
  rwa [List.append_nil] at h

theorem IsSwapPath.firstToken (h : IsSwapPath tokenIn tokenOut path) :
    firstToken path = tokenIn := by
  obtain ⟨_, _, _, _, rfl⟩ := h
  exact firstToken_append _ _

theorem IsSwapPath.lastToken (h : IsSwapPath tokenIn tokenOut path) :
    lastToken path = tokenOut := by
  obtain ⟨_, _, _, _, rfl⟩ := h
  rw [← List.append_assoc]
  exact lastToken_append _ _

/-! ### Inversion -/

/-- Two rounds of the loop move back over one pool and one token; by induction on the number of
tokens left, the loop ends with the first token of the path. -/
theorem invertPathLoop_ends (path : Bytes) : ∀ (m fuel : ℕ) (acc : Bytes), m ≤ 255 →
    2 * (m + 1) ≤ fuel → ∃ middle, invertPathLoop path fuel 20 (23 * (m + 1)) acc =
      .ok (acc ++ (middle ++ slice path 0 20))
  | m, 0, _, _, hfuel => by omega
  | m, 1, _, _, hfuel => by omega
  | m, fuel + 2, acc, hm, hfuel => by
    have h₁ : uncheckedSub (23 * (m + 1)) 3 = 23 * m + 20 := by
      rw [uncheckedSub_of_le] <;> omega
    have h₂ : uncheckedSub (23 * m + 20) 20 = 23 * m := by
      rw [uncheckedSub_of_le] <;> omega
    have hne : 23 * m + 20 ≠ 0 := by omega
    simp only [invertPathLoop, if_true, h₁, ne_eq, hne, not_false_eq_true, reduceIte,
      Nat.reduceEqDiff, h₂]
    cases m with
    | zero =>
      refine ⟨slice path (23 * 0 + 20) 3, ?_⟩
      simp [List.append_assoc]
    | succ m =>
      have hne' : 23 * (m + 1) ≠ 0 := by omega
      obtain ⟨middle, h⟩ := invertPathLoop_ends path m fuel
        (acc ++ (slice path (23 * (m + 1) + 20) 3 ++ slice path (23 * (m + 1)) 20)) (by omega)
        (by omega)
      refine ⟨slice path (23 * (m + 1) + 20) 3 ++ (slice path (23 * (m + 1)) 20 ++ middle), ?_⟩
      simp only [hne', not_false_eq_true, reduceIte, h, List.append_assoc]

/-- **The inverted path exists and runs the other way**: from `tokenOut` to `tokenIn`. -/
theorem invertPath_ends (h : IsSwapPath tokenIn tokenOut path) :
    ∃ inverted, invertPath path = .ok inverted ∧ Evm.firstToken inverted = tokenOut ∧
      Evm.lastToken inverted = tokenIn := by
  obtain ⟨hops, hle, hlen⟩ := h.length
  have hoff : uncheckedSub path.length 20 = 23 * (hops + 1) := by
    rw [uncheckedSub_of_le] <;> omega
  have hfirst : slice path 0 20 = tokenIn.toList := congrArg Subtype.val h.firstToken
  have hlast : slice path (23 * (hops + 1)) 20 = tokenOut.toList := by
    have := congrArg Subtype.val h.lastToken
    have hsub : path.length - 20 = 23 * (hops + 1) := by omega
    rwa [Evm.lastToken, hsub] at this
  obtain ⟨middle, hloop⟩ := invertPathLoop_ends path hops path.length tokenOut.toList hle (by omega)
  refine ⟨tokenOut.toList ++ (middle ++ tokenIn.toList), ?_, firstToken_append _ _, ?_⟩
  · simp only [invertPath, hoff, hlast, hloop, hfirst]
  · rw [← List.append_assoc]
    exact lastToken_append _ _

/-! ### The TraderJoe form of a path -/

/-- The number of pools is divided out of the length. -/
theorem traderJoePathLength_eq {n : ℕ} (hlength : path.length = 20 + 23 * n)
    (hlt : path.length < 2 ^ 256) : traderJoePathLength path = n := by
  have hsub : uncheckedSub path.length ADDRESS_SIZE = 23 * n := by
    rw [uncheckedSub_of_le (by unfold ADDRESS_SIZE; omega) (by omega), ADDRESS_SIZE]
    omega
  rw [traderJoePathLength, hsub]
  exact Nat.mul_div_cancel_left n (by decide)

/-- The hops one by one, 23 bytes each. -/
theorem traderJoeHops_eq (path : Bytes) : ∀ n offset,
    traderJoeHops path n offset = ((List.range n).map fun i => (sliceFixed 20 path (offset + 23 * i),
      readBE 1 path (offset + 23 * i + 20), readBE 2 path (offset + 23 * i + 21)), offset + 23 * n)
  | 0, _ => rfl
  | n + 1, offset => by
    have hshift (i : ℕ) : offset + 23 + 23 * i = offset + 23 * (i + 1) := by omega
    have hrest := traderJoeHops_eq path n (offset + 23)
    simp only [hshift] at hrest
    show ((_, _, _) :: (traderJoeHops path n (offset + 23)).1,
      (traderJoeHops path n (offset + 23)).2) = _
    rw [hrest, List.range_succ_eq_map, List.map_cons, List.map_map]
    rfl

/-- **The TraderJoe path** runs from `tokenIn` to `tokenOut`. -/
theorem traderJoePath_ends (h : IsSwapPath tokenIn tokenOut path) :
    (traderJoePath path).tokenPath.headD zeroAddress = tokenIn ∧
      (traderJoePath path).tokenPath.getLastD zeroAddress = tokenOut := by
  obtain ⟨hops, hle, hlen⟩ := h.length
  have hcount : traderJoePathLength path = hops + 1 := traderJoePathLength_eq hlen (by omega)
  have hoff : (traderJoeHops path (hops + 1) 0).2 = path.length - 20 := by
    rw [traderJoeHops_eq, hlen, Nat.add_sub_cancel_left, Nat.zero_add]
  have hfirst := h.firstToken
  have hlast := h.lastToken
  rw [traderJoePath, hcount]
  constructor
  · rw [← hfirst]
    rfl
  · rw [← hlast, List.getLastD_concat, hoff]
    rfl

end Paths

/-! ## Routers that honour their limits -/

/-- An exact-in command takes the whole input and pays at least the limit; an exact-out command
takes at most the limit and pays the exact output. -/
def UniswapHonours (c : UniswapCall) (r : RouterReply) : Prop :=
  if c.command = UNIVERSAL_ROUTER_EXACT_OUT then
    r.pulled ≤ c.limitAmount ∧ r.paid = c.inOutAmount
  else r.pulled = c.inOutAmount ∧ c.limitAmount ≤ r.paid

/-- The same for TraderJoe, which also returns the amount the caller did not fix. -/
def TraderJoeHonours (c : TraderJoeCall) (r : TraderJoeReply) : Prop :=
  if c.isExactIn then
    r.pulled = c.inOutAmount ∧ c.limitAmount ≤ r.paid ∧ r.amounts = some [r.paid]
  else
    r.pulled ≤ c.limitAmount ∧ r.paid = c.inOutAmount ∧ ∃ rest, r.amounts = some (r.pulled :: rest)

/-- The router that executes swaps of type `swapType` reverts or honours its limits. -/
def RouterHonours (d : Deployment) (x : Externals) (swapType : ℕ) : Prop :=
  (swapType = SWAP_TYPE_UNISWAPV3 →
    ∀ c r, uniswapReply d x c = .ok r → UniswapHonours c r) ∧
  (swapType = SWAP_TYPE_TRADERJOE →
    ∀ c r, traderJoeReply d x c = .ok r → TraderJoeHonours c r)

/-- The router that executes swaps of this type is there. -/
def RouterDeployed (d : Deployment) (x : Externals) (swapType : ℕ) : Prop :=
  (swapType = SWAP_TYPE_UNISWAPV3 → x.hasCode d.uniswapRouter = true) ∧
    (swapType = SWAP_TYPE_TRADERJOE → x.hasCode d.traderJoeRouter = true)

instance (d : Deployment) (x : Externals) (swapType : ℕ) : Decidable (RouterDeployed d x swapType) :=
  inferInstanceAs (Decidable (_ ∧ _))

/-- The routers that are there revert or honour their limits. -/
def RoutersHonour (d : Deployment) (x : Externals) : Prop :=
  ∀ swapType, RouterDeployed d x swapType → RouterHonours d x swapType

/-! ## What a swap does -/

section Execution

variable (d : Deployment) (x : Externals)

/-- The call `_uniswapSwap` makes. -/
def uniswapRequest (isExactIn : Bool) (inputAmount outputAmount : ℕ) (path : Bytes) :
    Except Revert UniswapCall :=
  if isExactIn then
    .ok ⟨UNIVERSAL_ROUTER_EXACT_IN, d.self, inputAmount, outputAmount, path, true⟩
  else (invertPath path).map fun path =>
    ⟨UNIVERSAL_ROUTER_EXACT_OUT, d.self, outputAmount, inputAmount, path, true⟩

/-- **Whether a swap takes place, and how the router executes it**, in terms of the arguments of
`_swap`, the time, the router and the contract's holdings. -/
def execution (swapType : ℕ) (isExactIn : Bool) (inputAmount outputAmount : ℕ)
    (inputToken outputToken : Address) (deadline : ℕ) (path : Bytes) (held : Asset → ℕ) :
    Option RouterReply :=
  if deadline ≠ 0 ∧ deadline < x.blockTimestamp then none
  else if swapType = SWAP_TYPE_UNISWAPV3 then
    match uniswapRequest d isExactIn inputAmount outputAmount path with
    | .error _ => none
    | .ok c => (outcome x inputToken outputToken id held (uniswapReply d x c)).toOption
  else if swapType = SWAP_TYPE_TRADERJOE then
    (outcome x inputToken outputToken TraderJoeReply.toRouterReply held (traderJoeReply d x
      (traderJoeRequest d x isExactIn inputAmount outputAmount path))).toOption.map
        TraderJoeReply.toRouterReply
  else none

/-- The amount `_swap` returns for an executed swap. Uniswap swaps are measured as a difference
of balances of one token, which the other side of the swap disturbs when both are the same. -/
def measured (swapType : ℕ) (isExactIn : Bool) (inputToken outputToken : Address)
    (r : RouterReply) : ℕ :=
  if isExactIn then
    if swapType = SWAP_TYPE_UNISWAPV3 ∧ inputToken = outputToken then uncheckedSub r.paid r.pulled
    else r.paid
  else
    if swapType = SWAP_TYPE_UNISWAPV3 ∧ inputToken = outputToken then uncheckedSub r.pulled r.paid
    else r.pulled

/-- The token whose balance `_uniswapSwap` measures. -/
def measuredToken (isExactIn : Bool) (inputToken outputToken : Address) : Address :=
  if isExactIn then outputToken else inputToken

end Execution

/-- Only approvals were given. -/
structure SameFunds (w w' : World) : Prop where
  held : w'.held = w.held
  storage : w'.storage = w.storage
  payouts : w'.payouts = w.payouts
  orders : w'.orders = w.orders

theorem SameFunds.refl (w : World) : SameFunds w w := ⟨rfl, rfl, rfl, rfl⟩

theorem SameFunds.trans (w₁ w₂ w₃ : World) (h₁ : SameFunds w₁ w₂) (h₂ : SameFunds w₂ w₃) :
    SameFunds w₁ w₃ :=
  ⟨h₂.held.trans h₁.held, h₂.storage.trans h₁.storage, h₂.payouts.trans h₁.payouts,
    h₂.orders.trans h₁.orders⟩

/-- Only holdings and approvals changed. -/
structure SameBooks (w w' : World) : Prop where
  storage : w'.storage = w.storage
  payouts : w'.payouts = w.payouts
  orders : w'.orders = w.orders

theorem SameBooks.refl (w : World) : SameBooks w w := ⟨rfl, rfl, rfl⟩

theorem SameBooks.trans (w₁ w₂ w₃ : World) (h₁ : SameBooks w₁ w₂) (h₂ : SameBooks w₂ w₃) :
    SameBooks w₁ w₃ :=
  ⟨h₂.storage.trans h₁.storage, h₂.payouts.trans h₁.payouts, h₂.orders.trans h₁.orders⟩

section Specs

variable {d : Deployment} {x : Externals} {swapType : ℕ} {isExactIn : Bool}
  {inputAmount outputAmount : ℕ} {inputToken outputToken : Address}
  {revertOnFailure approveCheck : Bool} {deadline : ℕ} {path : Bytes} {w w' : World}

theorem approve_sameFunds (a : Approval) : Guarantees SameFunds (approve x a) := by
  intro w u w' h
  obtain rfl := approve_ok h
  exact ⟨rfl, rfl, by simp [World.payouts], by simp [World.orders]⟩

theorem uniswapMaxApprove_sameFunds (token : Address) :
    Guarantees SameFunds (uniswapMaxApprove d x token) := by
  unfold uniswapMaxApprove
  split
  · exact .pure SameFunds.refl ()
  · exact .bind SameFunds.trans (approve_sameFunds _) fun _ => approve_sameFunds _

theorem uniswapApproveCheck_sameFunds :
    Guarantees SameFunds (uniswapApproveCheck d x approveCheck inputToken inputAmount) := by
  unfold uniswapApproveCheck
  split
  · exact uniswapMaxApprove_sameFunds _
  · exact .pure SameFunds.refl ()

theorem traderJoeApproveCheck_sameFunds :
    Guarantees SameFunds (traderJoeApproveCheck d x approveCheck inputToken inputAmount) := by
  unfold traderJoeApproveCheck
  split
  · exact approve_sameFunds _
  · exact .pure SameFunds.refl ()

/-- The approve check comes first and moves no funds; the rest is a swap without it. -/
theorem swap_approveCheck {n : ℕ} (h : swap d x swapType isExactIn inputAmount outputAmount
    inputToken outputToken revertOnFailure approveCheck deadline path w = .ok (n, w')) :
    ∃ w₁, SameFunds w w₁ ∧ swap d x swapType isExactIn inputAmount outputAmount inputToken
      outputToken revertOnFailure false deadline path w₁ = .ok (n, w') := by
  unfold swap at h ⊢
  by_cases hd : deadline ≠ 0 ∧ deadline < x.blockTimestamp
  · rw [if_pos hd] at h
    exact ⟨w, .refl w, by rwa [if_pos hd]⟩
  rw [if_neg hd] at h
  simp only [if_neg hd]
  by_cases hu : swapType = SWAP_TYPE_UNISWAPV3
  · rw [if_pos hu, uniswapSwap, bind_ok] at h
    obtain ⟨_, w₁, hcheck, h⟩ := h
    refine ⟨w₁, uniswapApproveCheck_sameFunds _ _ _ hcheck, ?_⟩
    rw [if_pos hu, uniswapSwap, bind_ok]
    exact ⟨(), w₁, by simp [uniswapApproveCheck]; rfl, h⟩
  rw [if_neg hu] at h
  simp only [if_neg hu]
  by_cases ht : swapType = SWAP_TYPE_TRADERJOE
  · rw [if_pos ht, traderJoeSwap, bind_ok] at h
    obtain ⟨_, w₁, hcheck, h⟩ := h
    refine ⟨w₁, traderJoeApproveCheck_sameFunds _ _ _ hcheck, ?_⟩
    rw [if_pos ht, traderJoeSwap, bind_ok]
    exact ⟨(), w₁, by simp [traderJoeApproveCheck]; rfl, h⟩
  rw [if_neg ht] at h
  exact ⟨w, .refl w, by rwa [if_neg ht]⟩

theorem outcome_ok {ρ : Type} {tokenIn tokenOut : Address} {amounts : ρ → RouterReply}
    {held : Asset → ℕ} {reply : Except Bytes ρ} {r : ρ} :
    outcome x tokenIn tokenOut amounts held reply = .ok r ↔
      reply = .ok r ∧ Feasible x tokenIn tokenOut (amounts r) held := by
  cases reply with
  | error e => exact ⟨fun h => (by cases h), fun ⟨h, _⟩ => (by cases h)⟩
  | ok r' =>
    by_cases hf : Feasible x tokenIn tokenOut (amounts r') held
    · simp only [outcome, if_pos hf]
      exact ⟨fun h => by cases h; exact ⟨rfl, hf⟩, fun ⟨h, _⟩ => h⟩
    · simp only [outcome, if_neg hf]
      exact ⟨fun h => (by cases h), fun ⟨h, hf'⟩ => by cases h; exact absurd hf' hf⟩

/-- **Settling** brings in what the router paid and takes out what it pulled. -/
theorem settled_moves {tokenIn tokenOut : Address} {r : RouterReply} {held : Asset → ℕ}
    (h : Feasible x tokenIn tokenOut r held) :
    Moves held (settled tokenIn tokenOut r held) (Pi.single (.erc20 tokenOut) r.paid)
      (Pi.single (.erc20 tokenIn) r.pulled) := by
  have hm := (moves_debit h.1).trans (moves_credit _ (.erc20 tokenOut) r.paid)
  rwa [zero_add, add_zero] at hm

/-- What a feasible reply pays is within the supply of the token. -/
theorem Feasible.paid_le {tokenIn tokenOut : Address} {r : RouterReply} {held : Asset → ℕ}
    (h : Feasible x tokenIn tokenOut r held) : r.paid ≤ x.supply tokenOut := by
  have := h.2
  omega

theorem Feasible.paid_lt {tokenIn tokenOut : Address} {r : RouterReply} {held : Asset → ℕ}
    (h : Feasible x tokenIn tokenOut r held) : r.paid < 2 ^ 256 :=
  Nat.lt_of_le_of_lt h.paid_le (x.supply_lt tokenOut)

/-- The balance of the output token across an exact-in swap. -/
theorem measured_out {r : RouterReply} {held : Asset → ℕ}
    (hf : Feasible x inputToken outputToken r held) :
    uncheckedSub (settled inputToken outputToken r held (.erc20 outputToken))
        (held (.erc20 outputToken)) =
      measured SWAP_TYPE_UNISWAPV3 true inputToken outputToken r := by
  have hpaid := hf.paid_lt
  rw [settled, credit_self]
  by_cases ht : inputToken = outputToken
  · subst ht
    rw [debit_self]
    simp only [measured, reduceIte, and_self]
    exact (uncheckedSub_shift hf.1).1
  · rw [debit_other _ (by simpa using Ne.symm ht), uncheckedSub_add_left hpaid]
    simp only [measured, reduceIte, ht, and_false]

/-- The balance of the input token across an exact-out swap. -/
theorem measured_in {r : RouterReply} {held : Asset → ℕ} (hpulled : r.pulled < 2 ^ 256)
    (hf : Feasible x inputToken outputToken r held) :
    uncheckedSub (held (.erc20 inputToken))
        (settled inputToken outputToken r held (.erc20 inputToken)) =
      measured SWAP_TYPE_UNISWAPV3 false inputToken outputToken r := by
  by_cases ht : inputToken = outputToken
  · subst ht
    rw [settled, credit_self, debit_self]
    simp only [measured, reduceIte, and_self, Bool.false_eq_true]
    exact (uncheckedSub_shift hf.1).2
  · have hle := hf.1
    rw [settled, credit_apply, single_other (by simpa using ht), debit_self, Nat.add_zero,
      uncheckedSub_of_le (by omega) (by omega)]
    simp only [measured, reduceIte, ht, and_false, Bool.false_eq_true]
    omega

/-- Which tokens the request of a swap along a path names. -/
theorem uniswapRequest_ok {c : UniswapCall} (hp : IsSwapPath inputToken outputToken path)
    (h : uniswapRequest d isExactIn inputAmount outputAmount path = .ok c) :
    c.tokenIn = inputToken ∧ c.tokenOut = outputToken := by
  cases isExactIn with
  | true =>
    cases h
    exact ⟨hp.firstToken, hp.lastToken⟩
  | false =>
    obtain ⟨inverted, hinv, hfirst, hlast⟩ := invertPath_ends hp
    simp only [uniswapRequest, hinv] at h
    cases h
    exact ⟨hlast, hfirst⟩

/-- Along a path of the right shape the inversion succeeds, and so there is a request. -/
theorem uniswapRequest_exists (d : Deployment) (isExactIn : Bool) (inputAmount outputAmount : ℕ)
    (hp : IsSwapPath inputToken outputToken path) :
    ∃ c, uniswapRequest d isExactIn inputAmount outputAmount path = .ok c := by
  cases isExactIn with
  | true => exact ⟨_, rfl⟩
  | false =>
    obtain ⟨inverted, hinv, -, -⟩ := invertPath_ends hp
    exact ⟨_, by simp only [uniswapRequest, hinv]; rfl⟩

theorem traderJoeRequest_tokens (d : Deployment) (x : Externals) (isExactIn : Bool)
    (inputAmount outputAmount : ℕ) (hp : IsSwapPath inputToken outputToken path) :
    (traderJoeRequest d x isExactIn inputAmount outputAmount path).tokenIn = inputToken ∧
      (traderJoeRequest d x isExactIn inputAmount outputAmount path).tokenOut = outputToken := by
  cases isExactIn <;> exact traderJoePath_ends hp

/-- The reply that an executed swap rests on is one that the balance and the supply allow. -/
theorem execution_feasible {held : Asset → ℕ} {r : RouterReply}
    (h : execution d x swapType isExactIn inputAmount outputAmount inputToken outputToken deadline
      path held = some r) : Feasible x inputToken outputToken r held := by
  unfold execution at h
  split at h
  · cases h
  split at h
  · split at h
    · cases h
    · exact (outcome_ok.1 (toOption_eq_some.1 h)).2
  · split at h
    · obtain ⟨r', hr', rfl⟩ := Option.map_eq_some_iff.1 h
      exact (outcome_ok.1 (toOption_eq_some.1 hr')).2
    · cases h

/-- **An executed swap honours the limits** of the arguments of `_swap`. -/
theorem execution_limits {held : Asset → ℕ} {r : RouterReply}
    (hr : RouterHonours d x swapType)
    (h : execution d x swapType isExactIn inputAmount outputAmount inputToken outputToken deadline
      path held = some r) :
    Feasible x inputToken outputToken r held ∧
      (if isExactIn then r.pulled = inputAmount ∧ outputAmount ≤ r.paid
        else r.pulled ≤ inputAmount ∧ r.paid = outputAmount) := by
  unfold execution at h
  split at h
  · cases h
  split at h
  · rename_i hu
    cases hreq : uniswapRequest d isExactIn inputAmount outputAmount path with
    | error e =>
      rw [hreq] at h
      cases h
    | ok c =>
      rw [hreq] at h
      obtain ⟨hreply, hf⟩ := outcome_ok.1 (toOption_eq_some.1 h)
      refine ⟨hf, ?_⟩
      have hh := hr.1 hu c r hreply
      cases isExactIn with
      | true =>
        cases hreq
        exact hh
      | false =>
        obtain ⟨p, -, rfl⟩ := except_map_ok.1 hreq
        exact hh
  · split at h
    · rename_i ht
      obtain ⟨r', hr', rfl⟩ := Option.map_eq_some_iff.1 h
      obtain ⟨hreply, hf⟩ := outcome_ok.1 (toOption_eq_some.1 hr')
      refine ⟨hf, ?_⟩
      have hh := hr.2 ht _ r' hreply
      cases isExactIn with
      | true => exact ⟨hh.1, hh.2.1⟩
      | false => exact ⟨hh.1, hh.2.1⟩
    · cases h

/-- **A router that is not there** takes nothing and pays nothing. -/
theorem execution_absent {held : Asset → ℕ} {r : RouterReply} (hnone : ¬RouterDeployed d x swapType)
    (h : execution d x swapType isExactIn inputAmount outputAmount inputToken outputToken deadline
      path held = some r) : r = ⟨0, 0⟩ := by
  unfold execution at h
  split at h
  · cases h
  split at h
  · rename_i hu
    have hcode : x.hasCode d.uniswapRouter = false := Bool.eq_false_iff.2 fun hsome =>
      hnone ⟨fun _ => hsome, fun ht => by rw [hu] at ht; cases ht⟩
    split at h
    · cases h
    · have hreply := (outcome_ok.1 (toOption_eq_some.1 h)).1
      rw [uniswapReply, if_pos hcode] at hreply
      exact (Except.ok.inj hreply).symm
  · rename_i hu
    split at h
    · rename_i ht
      have hcode : x.hasCode d.traderJoeRouter = false := Bool.eq_false_iff.2 fun hsome =>
        hnone ⟨fun h => absurd h hu, fun _ => hsome⟩
      obtain ⟨r', hr', rfl⟩ := Option.map_eq_some_iff.1 h
      have hreply := (outcome_ok.1 (toOption_eq_some.1 hr')).1
      rw [traderJoeReply, if_pos hcode] at hreply
      rw [← Except.ok.inj hreply]
    · cases h

/-- The holdings decide whether a swap is executed, not how. -/
theorem execution_unique {held held' : Asset → ℕ} {r r' : RouterReply}
    (h : execution d x swapType isExactIn inputAmount outputAmount inputToken outputToken deadline
      path held = some r)
    (h' : execution d x swapType isExactIn inputAmount outputAmount inputToken outputToken deadline
      path held' = some r') : r' = r := by
  unfold execution at h h'
  split at h
  · cases h
  rename_i hd
  rw [if_neg hd] at h'
  split at h
  · rename_i hu
    rw [if_pos hu] at h'
    cases hreq : uniswapRequest d isExactIn inputAmount outputAmount path with
    | error e =>
      rw [hreq] at h
      cases h
    | ok c =>
      rw [hreq] at h h'
      have hreply := (outcome_ok.1 (toOption_eq_some.1 h)).1
      have hreply' := (outcome_ok.1 (toOption_eq_some.1 h')).1
      exact Except.ok.inj (hreply'.symm.trans hreply)
  · rename_i hu
    rw [if_neg hu] at h'
    split at h
    · rename_i ht
      rw [if_pos ht] at h'
      obtain ⟨s, hs, rfl⟩ := Option.map_eq_some_iff.1 h
      obtain ⟨s', hs', rfl⟩ := Option.map_eq_some_iff.1 h'
      have hreply := (outcome_ok.1 (toOption_eq_some.1 hs)).1
      have hreply' := (outcome_ok.1 (toOption_eq_some.1 hs')).1
      exact congrArg TraderJoeReply.toRouterReply (Except.ok.inj (hreply'.symm.trans hreply))
    · cases h

/-- The router's reply that an executed Uniswap swap rests on. -/
theorem execution_uniswap {held : Asset → ℕ} {r : RouterReply}
    (h : execution d x SWAP_TYPE_UNISWAPV3 isExactIn inputAmount outputAmount inputToken
      outputToken deadline path held = some r) :
    ∃ c, uniswapRequest d isExactIn inputAmount outputAmount path = .ok c ∧
      uniswapReply d x c = .ok r := by
  unfold execution at h
  split at h
  · cases h
  · rw [if_pos rfl] at h
    cases hreq : uniswapRequest d isExactIn inputAmount outputAmount path with
    | error e =>
      rw [hreq] at h
      cases h
    | ok c =>
      rw [hreq] at h
      exact ⟨c, rfl, (outcome_ok.1 (toOption_eq_some.1 h)).1⟩

/-! ### The result of `_swap` -/

section Router

variable {command inOutAmount limitAmount : ℕ} {token : Address}

theorem universalRouterSwap_of_ok {r : RouterReply} {tokenIn tokenOut : Address}
    (hin : UniswapCall.tokenIn ⟨command, d.self, inOutAmount, limitAmount, path, true⟩ = tokenIn)
    (hout : UniswapCall.tokenOut ⟨command, d.self, inOutAmount, limitAmount, path, true⟩ = tokenOut)
    (htoken : x.isToken token = true)
    (h : outcome x tokenIn tokenOut id w.held
      (uniswapReply d x ⟨command, d.self, inOutAmount, limitAmount, path, true⟩) = .ok r) :
    universalRouterSwap d x command token inOutAmount limitAmount path revertOnFailure w =
      .ok ((w.held (.erc20 token), settled tokenIn tokenOut r w.held (.erc20 token)),
        w.withHeld (settled tokenIn tokenOut r w.held)) := by
  simp only [universalRouterSwap, balanceOf, htoken, reduceIte, bind_apply, except_ok_bind,
    callUniswap, hin, hout, h, pure_apply, World.withHeld_held]

theorem universalRouterSwap_of_error {reason : Bytes} {tokenIn tokenOut : Address}
    (hin : UniswapCall.tokenIn ⟨command, d.self, inOutAmount, limitAmount, path, true⟩ = tokenIn)
    (hout : UniswapCall.tokenOut ⟨command, d.self, inOutAmount, limitAmount, path, true⟩ = tokenOut)
    (htoken : x.isToken token = true)
    (h : outcome x tokenIn tokenOut id w.held
      (uniswapReply d x ⟨command, d.self, inOutAmount, limitAmount, path, true⟩) = .error reason) :
    universalRouterSwap d x command token inOutAmount limitAmount path revertOnFailure w =
      if revertOnFailure then .error (.swapFailed reason) else .ok ((0, 0), w) := by
  simp only [universalRouterSwap, balanceOf, htoken, reduceIte, bind_apply, except_ok_bind,
    callUniswap, hin, hout, h]
  cases revertOnFailure <;> rfl

end Router

/-- **An unreadable balance** makes `_uniswapSwap` revert, also where failures are let pass. -/
theorem uniswapSwap_isToken {n : ℕ} (h : uniswapSwap d x isExactIn inputAmount outputAmount
      inputToken outputToken revertOnFailure false path w = .ok (n, w')) :
    x.isToken (measuredToken isExactIn inputToken outputToken) = true := by
  have hread {command inOutAmount limitAmount : ℕ} {token : Address} {p : Bytes} {r : ℕ × ℕ}
      {w₁ w₂ : World} (h : universalRouterSwap d x command token inOutAmount limitAmount p
        revertOnFailure w₁ = .ok (r, w₂)) : x.isToken token = true := by
    obtain ⟨_, _, hbefore, -⟩ := bind_ok.1 h
    exact (balanceOf_ok hbefore).2 token rfl
  obtain ⟨_, w₁, -, hrest⟩ := bind_ok.1 h
  cases isExactIn with
  | true =>
    obtain ⟨_, _, hcall, -⟩ := bind_ok.1 hrest
    exact hread hcall
  | false =>
    obtain ⟨_, _, -, hrest⟩ := bind_ok.1 hrest
    obtain ⟨_, _, hcall, -⟩ := bind_ok.1 hrest
    exact hread hcall

theorem swap_isToken {n : ℕ} (h : swap d x SWAP_TYPE_UNISWAPV3 isExactIn inputAmount outputAmount
      inputToken outputToken revertOnFailure false deadline path w = .ok (n, w'))
    (hd : ¬(deadline ≠ 0 ∧ deadline < x.blockTimestamp)) :
    x.isToken (measuredToken isExactIn inputToken outputToken) = true := by
  rw [swap, if_neg hd, if_pos rfl] at h
  exact uniswapSwap_isToken h

/-- `_uniswapSwap` of an executed swap. -/
theorem uniswapSwap_of_ok {c : UniswapCall} {r : RouterReply}
    (hp : IsSwapPath inputToken outputToken path) (hpulled : r.pulled < 2 ^ 256)
    (htoken : x.isToken (measuredToken isExactIn inputToken outputToken) = true)
    (hreq : uniswapRequest d isExactIn inputAmount outputAmount path = .ok c)
    (h : outcome x inputToken outputToken id w.held (uniswapReply d x c) = .ok r) :
    uniswapSwap d x isExactIn inputAmount outputAmount inputToken outputToken revertOnFailure
        false path w =
      .ok (measured SWAP_TYPE_UNISWAPV3 isExactIn inputToken outputToken r,
        w.withHeld (settled inputToken outputToken r w.held)) := by
  have hf : Feasible x inputToken outputToken r w.held := (outcome_ok.1 h).2
  obtain ⟨hin, hout⟩ := uniswapRequest_ok hp hreq
  have hcheck : uniswapApproveCheck d x false inputToken inputAmount w = .ok ((), w) := by
    simp [uniswapApproveCheck, pure_apply]
  cases isExactIn with
  | true =>
    cases hreq
    have htoken : x.isToken outputToken = true := htoken
    simp only [uniswapSwap, bind_apply, hcheck, except_ok_bind, reduceIte,
      universalRouterSwap_of_ok hin hout htoken h, pure_apply]
    rw [measured_out hf]
  | false =>
    obtain ⟨p, hinv, rfl⟩ := except_map_ok.1 hreq
    have htoken : x.isToken inputToken = true := htoken
    have hlift : lift (invertPath path) w = .ok (p, w) := lift_ok.2 ⟨hinv, rfl⟩
    simp only [uniswapSwap, bind_apply, hcheck, except_ok_bind, reduceIte, Bool.false_eq_true, hlift,
      universalRouterSwap_of_ok hin hout htoken h, pure_apply, measured_in hpulled hf]

/-- `_uniswapSwap` of a swap the router did not execute. -/
theorem uniswapSwap_of_error {c : UniswapCall} {reason : Bytes}
    (hp : IsSwapPath inputToken outputToken path)
    (htoken : x.isToken (measuredToken isExactIn inputToken outputToken) = true)
    (hreq : uniswapRequest d isExactIn inputAmount outputAmount path = .ok c)
    (h : outcome x inputToken outputToken id w.held (uniswapReply d x c) = .error reason) :
    uniswapSwap d x isExactIn inputAmount outputAmount inputToken outputToken revertOnFailure
        false path w =
      if revertOnFailure then .error (.swapFailed reason) else .ok (0, w) := by
  obtain ⟨hin, hout⟩ := uniswapRequest_ok hp hreq
  have hcheck : uniswapApproveCheck d x false inputToken inputAmount w = .ok ((), w) := by
    simp [uniswapApproveCheck, pure_apply]
  cases isExactIn with
  | true =>
    cases hreq
    have htoken : x.isToken outputToken = true := htoken
    simp only [uniswapSwap, bind_apply, hcheck, except_ok_bind, reduceIte,
      universalRouterSwap_of_error hin hout htoken h]
    cases revertOnFailure with
    | true => rfl
    | false => simp only [reduceIte, Bool.false_eq_true, except_ok_bind, uncheckedSub_self, pure_apply]
  | false =>
    obtain ⟨p, hinv, rfl⟩ := except_map_ok.1 hreq
    have htoken : x.isToken inputToken = true := htoken
    have hlift : lift (invertPath path) w = .ok (p, w) := lift_ok.2 ⟨hinv, rfl⟩
    simp only [uniswapSwap, bind_apply, hcheck, except_ok_bind, reduceIte, Bool.false_eq_true, hlift,
      universalRouterSwap_of_error hin hout htoken h]
    cases revertOnFailure with
    | true => rfl
    | false => simp only [reduceIte, Bool.false_eq_true, except_ok_bind, uncheckedSub_self, pure_apply]

/-- `_traderJoeSwap` of an executed swap. -/
theorem traderJoeSwap_of_ok {r : TraderJoeReply} (hp : IsSwapPath inputToken outputToken path)
    (hh : TraderJoeHonours (traderJoeRequest d x isExactIn inputAmount outputAmount path) r)
    (h : outcome x inputToken outputToken TraderJoeReply.toRouterReply w.held (traderJoeReply d x
      (traderJoeRequest d x isExactIn inputAmount outputAmount path)) = .ok r) :
    traderJoeSwap d x isExactIn inputAmount outputAmount inputToken outputToken revertOnFailure
        false path w =
      .ok (measured SWAP_TYPE_TRADERJOE isExactIn inputToken outputToken r.toRouterReply,
        w.withHeld (settled inputToken outputToken r.toRouterReply w.held)) := by
  obtain ⟨hin, hout⟩ := traderJoeRequest_tokens d x isExactIn inputAmount outputAmount hp
  have hcheck : traderJoeApproveCheck d x false inputToken inputAmount w = .ok ((), w) := by
    simp [traderJoeApproveCheck, pure_apply]
  have hdecode : decodeAmount isExactIn r.amounts =
      .ok (measured SWAP_TYPE_TRADERJOE isExactIn inputToken outputToken r.toRouterReply) := by
    cases isExactIn with
    | true => rw [hh.2.2]; rfl
    | false =>
      obtain ⟨rest, hrest⟩ := hh.2.2
      rw [hrest]
      rfl
  simp only [traderJoeSwap, bind_apply, hcheck, except_ok_bind, callTraderJoe, hin, hout, h, hdecode]
  rfl

theorem traderJoeSwap_of_error {reason : Bytes} (hp : IsSwapPath inputToken outputToken path)
    (h : outcome x inputToken outputToken TraderJoeReply.toRouterReply w.held (traderJoeReply d x
      (traderJoeRequest d x isExactIn inputAmount outputAmount path)) = .error reason) :
    traderJoeSwap d x isExactIn inputAmount outputAmount inputToken outputToken revertOnFailure
        false path w =
      if revertOnFailure then .error (.swapFailed reason) else .ok (0, w) := by
  obtain ⟨hin, hout⟩ := traderJoeRequest_tokens d x isExactIn inputAmount outputAmount hp
  have hcheck : traderJoeApproveCheck d x false inputToken inputAmount w = .ok ((), w) := by
    simp [traderJoeApproveCheck, pure_apply]
  simp only [traderJoeSwap, bind_apply, hcheck, except_ok_bind, callTraderJoe, hin, hout, h]
  cases revertOnFailure <;> rfl

/-- **An executed swap** settles and returns the measured amount (approvals aside), unless a
TraderJoe router that is not there left nothing to decode. -/
theorem swap_of_execution {r : RouterReply}
    (hr : RouterDeployed d x swapType → RouterHonours d x swapType)
    (hjoe : swapType = SWAP_TYPE_TRADERJOE → x.hasCode d.traderJoeRouter = true)
    (hp : IsEvmSwapType swapType → IsSwapPath inputToken outputToken path)
    (htoken : swapType = SWAP_TYPE_UNISWAPV3 → ¬(deadline ≠ 0 ∧ deadline < x.blockTimestamp) →
      x.isToken (measuredToken isExactIn inputToken outputToken) = true)
    (hin : inputAmount < 2 ^ 256)
    (hex : execution d x swapType isExactIn inputAmount outputAmount inputToken outputToken
      deadline path w.held = some r) :
    swap d x swapType isExactIn inputAmount outputAmount inputToken outputToken
        revertOnFailure false deadline path w =
      .ok (measured swapType isExactIn inputToken outputToken r,
        w.withHeld (settled inputToken outputToken r w.held)) := by
  have hpulled : r.pulled < 2 ^ 256 := by
    by_cases hdep : RouterDeployed d x swapType
    · have hlim := (execution_limits (hr hdep) hex).2
      cases isExactIn with
      | true => exact hlim.1 ▸ hin
      | false => exact Nat.lt_of_le_of_lt hlim.1 hin
    · rw [execution_absent hdep hex]
      decide
  unfold execution at hex
  unfold swap
  by_cases hd : deadline ≠ 0 ∧ deadline < x.blockTimestamp
  · rw [if_pos hd] at hex
    cases hex
  rw [if_neg hd] at hex ⊢
  by_cases hu : swapType = SWAP_TYPE_UNISWAPV3
  · rw [if_pos hu] at hex ⊢
    cases hreq : uniswapRequest d isExactIn inputAmount outputAmount path with
    | error e =>
      rw [hreq] at hex
      cases hex
    | ok c =>
      rw [hreq] at hex
      rw [hu]
      exact uniswapSwap_of_ok (hp (.inl hu)) hpulled (htoken hu hd) hreq (toOption_eq_some.1 hex)
  rw [if_neg hu] at hex ⊢
  by_cases ht : swapType = SWAP_TYPE_TRADERJOE
  · rw [if_pos ht] at hex ⊢
    obtain ⟨r', hr', rfl⟩ := Option.map_eq_some_iff.1 hex
    have hreply := toOption_eq_some.1 hr'
    have hdep : RouterDeployed d x swapType := ⟨fun h => absurd h hu, hjoe⟩
    rw [ht]
    exact traderJoeSwap_of_ok (hp (.inr ht)) ((hr hdep).2 ht _ _ (outcome_ok.1 hreply).1) hreply
  rw [if_neg ht] at hex
  cases hex

/-- **A swap that does not take place** reverts, or is let pass with the amount zero. -/
theorem swap_of_no_execution (revertOnFailure : Bool)
    (hp : IsEvmSwapType swapType → IsSwapPath inputToken outputToken path)
    (htoken : swapType = SWAP_TYPE_UNISWAPV3 → ¬(deadline ≠ 0 ∧ deadline < x.blockTimestamp) →
      x.isToken (measuredToken isExactIn inputToken outputToken) = true)
    (hex : execution d x swapType isExactIn inputAmount outputAmount inputToken outputToken
      deadline path w.held = none) :
    ∃ e, swap d x swapType isExactIn inputAmount outputAmount inputToken outputToken
        revertOnFailure false deadline path w =
      if revertOnFailure then .error e else .ok (0, w) := by
  unfold execution at hex
  unfold swap
  by_cases hd : deadline ≠ 0 ∧ deadline < x.blockTimestamp
  · rw [if_pos hd]
    refine ⟨.deadlineExpired x.blockTimestamp deadline, ?_⟩
    cases revertOnFailure <;> rfl
  rw [if_neg hd] at hex ⊢
  by_cases hu : swapType = SWAP_TYPE_UNISWAPV3
  · rw [if_pos hu] at hex ⊢
    have hpath := hp (.inl hu)
    obtain ⟨c, hreq⟩ := uniswapRequest_exists d isExactIn inputAmount outputAmount hpath
    rw [hreq] at hex
    obtain ⟨reason, hreason⟩ := toOption_eq_none.1 hex
    exact ⟨_, uniswapSwap_of_error hpath (htoken hu hd) hreq hreason⟩
  rw [if_neg hu] at hex ⊢
  by_cases ht : swapType = SWAP_TYPE_TRADERJOE
  · rw [if_pos ht] at hex ⊢
    obtain ⟨reason, hreason⟩ := toOption_eq_none.1 (Option.map_eq_none_iff.1 hex)
    exact ⟨_, traderJoeSwap_of_error (hp (.inr ht)) hreason⟩
  rw [if_neg ht]
  refine ⟨.invalidSwapType swapType, ?_⟩
  cases revertOnFailure <;> rfl

/-- **Without a TraderJoe router** every swap reverts: there is nothing to decode in the empty answer. -/
theorem swap_traderJoe_absentRouter (hnone : x.hasCode d.traderJoeRouter = false)
    {result : ℕ × World} :
    swap d x SWAP_TYPE_TRADERJOE isExactIn inputAmount outputAmount inputToken outputToken true
      approveCheck deadline path w ≠ .ok result := by
  intro h
  unfold swap at h
  split at h
  · cases h
  · obtain ⟨_, w₁, -, h₁⟩ := bind_ok.1 h
    obtain ⟨reply, w₂, hcall, h₂⟩ := bind_ok.1 h₁
    unfold callTraderJoe traderJoeReply at hcall
    rw [if_pos hnone] at hcall
    split at hcall
    · cases hcall
      cases h₂
    · rename_i r hr
      obtain rfl : (⟨⟨0, 0⟩, none⟩ : TraderJoeReply) = r := Except.ok.inj (outcome_ok.1 hr).1
      cases hcall
      cases h₂

/-- A swap that must not fail is one of the types that EVM routers execute. -/
theorem swap_isEvmSwapType {swapType inputAmount outputAmount deadline n : ℕ} {isExactIn : Bool}
    {inputToken outputToken : Address} {approveCheck : Bool} {path : Bytes}
    (h : swap d x swapType isExactIn inputAmount outputAmount inputToken outputToken true
      approveCheck deadline path w = .ok (n, w')) : IsEvmSwapType swapType := by
  unfold swap at h
  by_cases hd : deadline ≠ 0 ∧ deadline < x.blockTimestamp
  · rw [if_pos hd, if_pos rfl] at h
    exact (fail_ok.1 h).elim
  rw [if_neg hd] at h
  by_cases hu : swapType = SWAP_TYPE_UNISWAPV3
  · exact .inl hu
  rw [if_neg hu] at h
  by_cases ht : swapType = SWAP_TYPE_TRADERJOE
  · exact .inr ht
  rw [if_neg ht, if_pos rfl] at h
  exact (fail_ok.1 h).elim

/-! ### What a swap leaves alone -/

theorem SameFunds.sameBooks (h : SameFunds w w') : SameBooks w w' := ⟨h.storage, h.payouts, h.orders⟩

theorem callUniswap_sameBooks (c : UniswapCall) : Guarantees SameBooks (callUniswap d x c) := by
  intro w r w' h
  unfold callUniswap at h
  split at h <;> cases h
  · exact .refl _
  · exact ⟨rfl, rfl, rfl⟩

theorem callTraderJoe_sameBooks (c : TraderJoeCall) :
    Guarantees SameBooks (callTraderJoe d x c) := by
  intro w r w' h
  unfold callTraderJoe at h
  split at h <;> cases h
  · exact .refl _
  · exact ⟨rfl, rfl, rfl⟩

theorem balanceOf_sameBooks (asset : Asset) : Guarantees SameBooks (balanceOf x asset) := by
  intro w n w' h
  obtain rfl := (balanceOf_ok h).1
  exact .refl w'

theorem universalRouterSwap_sameBooks (command : ℕ) (token : Address)
    (inOutAmount limitAmount : ℕ) (path : Bytes) (revertOnFailure : Bool) :
    Guarantees SameBooks
      (universalRouterSwap d x command token inOutAmount limitAmount path revertOnFailure) := by
  unfold universalRouterSwap
  refine .bind SameBooks.trans (balanceOf_sameBooks _) fun before => ?_
  refine .bind SameBooks.trans (callUniswap_sameBooks _) fun result => ?_
  cases result with
  | error reason =>
    cases revertOnFailure with
    | true => exact .fail _
    | false => exact .pure SameBooks.refl _
  | ok _ => exact .bind SameBooks.trans (balanceOf_sameBooks _) fun _ => .pure SameBooks.refl _

theorem uniswapSwap_sameBooks : Guarantees SameBooks (uniswapSwap d x isExactIn inputAmount
    outputAmount inputToken outputToken revertOnFailure approveCheck path) := by
  unfold uniswapSwap
  refine .bind SameBooks.trans
    (fun _ _ _ h => (uniswapApproveCheck_sameFunds _ _ _ h).sameBooks) fun _ => ?_
  split
  · exact .bind SameBooks.trans (universalRouterSwap_sameBooks _ _ _ _ _ _) fun _ =>
      .pure SameBooks.refl _
  · refine .bind SameBooks.trans (.lift SameBooks.refl _) fun _ => ?_
    exact .bind SameBooks.trans (universalRouterSwap_sameBooks _ _ _ _ _ _) fun _ =>
      .pure SameBooks.refl _

theorem traderJoeSwap_sameBooks : Guarantees SameBooks (traderJoeSwap d x isExactIn inputAmount
    outputAmount inputToken outputToken revertOnFailure approveCheck path) := by
  unfold traderJoeSwap
  refine .bind SameBooks.trans
    (fun _ _ _ h => (traderJoeApproveCheck_sameFunds _ _ _ h).sameBooks) fun _ => ?_
  refine .bind SameBooks.trans (callTraderJoe_sameBooks _) fun result => ?_
  cases result with
  | error reason =>
    cases revertOnFailure with
    | true => exact .fail _
    | false => exact .pure SameBooks.refl _
  | ok _ => exact .lift SameBooks.refl _

/-- **A swap pays nobody and places no order**, whatever the routers do. -/
theorem swap_sameBooks : Guarantees SameBooks (swap d x swapType isExactIn inputAmount
    outputAmount inputToken outputToken revertOnFailure approveCheck deadline path) := by
  unfold swap
  split
  · cases revertOnFailure with
    | true => exact .fail _
    | false => exact .pure SameBooks.refl _
  · split
    · exact uniswapSwap_sameBooks
    · split
      · exact traderJoeSwap_sameBooks
      · cases revertOnFailure with
        | true => exact .fail _
        | false => exact .pure SameBooks.refl _

theorem swap_sameStorage : Guarantees SameStorage (swap d x swapType isExactIn inputAmount
    outputAmount inputToken outputToken revertOnFailure approveCheck deadline path) :=
  fun w n w' h =>
    have hbooks := swap_sameBooks w n w' h
    ⟨hbooks.storage, hbooks.orders⟩

end Specs

/-! ## A deployment to evaluate on -/

namespace Sample

def address (n : ℕ) : Address := ⟨toBE 20 n, length_toBE ..⟩

def usdc : Address := address 0x05dc
def wnative : Address := address 0x0e7e
def recipient : Address := address 0x0600d

def deployment : Deployment where
  self := address 0x5e1f
  liquidityLayer := address 0x11
  permit2 := address 0x22
  wnative := wnative
  usdc := usdc
  chainId := 2
  uniswapRouter := address 0xa1
  traderJoeRouter := address 0xa2

def msg (value : ℕ) : Msg deployment where
  sender := address 0xca11e4
  value := value
  sender_ne_self := by decide
  sender_ne_zero := by decide

/-- Storage with one peer for every chain and relaying free of charge. -/
def storage : Storage where
  governance := ⟨address 1, zeroAddress, address 2, address 3, address 4⟩
  peers := fun _ => toUniversalAddress (address 0x9ee4)
  feeParams := fun _ => 0
  implementation := address 5

def world (held : Asset → ℕ) : World := ⟨held, storage, []⟩

/-- Routers that pay `surplus` more than they have to, and take `spared` less than they may. -/
def externals (surplus spared : ℕ) : Externals where
  blockTimestamp := 1700000000
  messageFee := 0
  supply := fun _ => 10 ^ 17
  supply_lt := fun _ => by decide
  isToken := fun _ => true
  hasCode := fun a => a != zeroAddress
  hasCode_zero := by decide
  accepts := fun _ => true
  pull := fun _ _ _ _ => true
  uniswap := fun c =>
    if c.command = UNIVERSAL_ROUTER_EXACT_OUT then .ok ⟨c.limitAmount - spared, c.inOutAmount⟩
    else .ok ⟨c.inOutAmount, c.limitAmount + surplus⟩
  traderJoe := fun c =>
    if c.isExactIn then
      .ok ⟨⟨c.inOutAmount, c.limitAmount + surplus⟩, some [c.limitAmount + surplus]⟩
    else .ok ⟨⟨c.limitAmount - spared, c.inOutAmount⟩, some [c.limitAmount - spared]⟩
  allowance := fun _ _ => 0
  permit2Allowance := fun _ _ => 0
  approve := fun _ => true
  placeOrder := fun _ => some (0, 0, 0)
  redeemFill := fun _ => none
  upgrade := fun _ => true

theorem externals_honour (surplus spared swapType : ℕ) :
    RouterHonours deployment (externals surplus spared) swapType := by
  refine ⟨fun _ c r h => ?_, fun _ c r h => ?_⟩
  · have hdeployed : ¬(externals surplus spared).hasCode deployment.uniswapRouter = false := by
      show ¬(address 0xa1 != zeroAddress) = false
      decide
    rw [uniswapReply, if_neg hdeployed] at h
    unfold UniswapHonours
    by_cases hc : c.command = UNIVERSAL_ROUTER_EXACT_OUT
    · simp only [externals, if_pos hc] at h
      cases h
      rw [if_pos hc]
      exact ⟨Nat.sub_le _ _, rfl⟩
    · simp only [externals, if_neg hc] at h
      cases h
      rw [if_neg hc]
      exact ⟨rfl, Nat.le_add_right _ _⟩
  · have hdeployed : ¬(externals surplus spared).hasCode deployment.traderJoeRouter = false := by
      show ¬(address 0xa2 != zeroAddress) = false
      decide
    rw [traderJoeReply, if_neg hdeployed] at h
    unfold TraderJoeHonours
    by_cases hc : c.isExactIn = true
    · simp only [externals, if_pos hc] at h
      cases h
      rw [if_pos hc]
      exact ⟨rfl, Nat.le_add_right _ _, rfl⟩
    · simp only [externals, if_neg hc] at h
      cases h
      rw [if_neg hc]
      exact ⟨Nat.sub_le _ _, rfl, [], rfl⟩

end Sample

end SwapLayer.Evm
