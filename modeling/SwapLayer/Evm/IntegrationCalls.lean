import SwapLayer.Evm.IntegrationBase
import SwapLayer.Evm.Query
import SwapLayer.Evm.System

/-!
# Calls of the integrator library

Model of the helpers of `evm/src/SwapLayerIntegrationBase.sol` that call the swap layer right away:
`_swapLayerRelayingFeeSolanaUsdc` and `_swapLayerRelayingFeeSolanaSwap`, which quote a relaying fee, and
the two overloads of `_swapLayerMaxApprove`.

* A quote comes in lamports as a `uint64`. The helper turns it into wei, as if a SOL had 18 decimals: a
  `uint64` times a literal that fits into one is a checked `uint64` product.
* `abi.encodePacked` of an `address` is its 20 bytes; the elements of an `address[]` are padded to
  32 bytes. The contract takes them 20 at a time.

Results:
* `relayingFeeSolana_iff`: a quote is the fee that `initiate` charges iff the product fits, that is, up
  to 18.4 SOL.
* `maxApproveArray_iff`: the array form approves what it is given iff it is given nothing.
-/

namespace SwapLayer.Integration

open ByteString Program Evm

/-! ## Quotes -/

/-- Why a helper reverts. -/
inductive QuoteRevert
  | panic (code : ℕ)
  | library (e : IntegrationError)
  | swapLayer (r : Revert)

/-- The revert is none of the swap layer's. -/
def QuoteRevert.Own : QuoteRevert → Prop
  | swapLayer _ => False
  | _ => True

/-- `QueryType.RelayingFee`. -/
def QUERY_RELAYING_FEE : ℕ := 1

/-- `gasDropoffLamports * 10**9`. -/
def lamportsToWei (gasDropoffLamports : ℕ) : Except QuoteRevert ℕ :=
  if gasDropoffLamports * 10 ^ 9 < 2 ^ 64 then .ok (gasDropoffLamports * 10 ^ 9)
  else .error (.panic PANIC_ARITHMETIC)

/-- The query of `_swapLayerRelayingFee`; one for USDC comes without a swap. -/
def relayingFeeQuery (targetChain gasDropoffWei : ℕ) (outputTokenType : IoToken)
    (swapCount swapType : ℕ) : Except IntegrationError Bytes :=
  if outputTokenType = .usdc then do
    let gasDropoff ← gasDropoffTo gasDropoffWei
    return toBE 1 QUERY_RELAYING_FEE ++ (toBE 2 targetChain ++ (toBE 4 gasDropoff ++
      toBE 1 IoToken.usdc.toUint8))
  else do
    checkMax swapCount (uintMax 8)
    let gasDropoff ← gasDropoffTo gasDropoffWei
    return toBE 1 QUERY_RELAYING_FEE ++ (toBE 2 targetChain ++ (toBE 4 gasDropoff ++
      (toBE 1 outputTokenType.toUint8 ++ (toBE 1 (swapCount % 2 ^ 8) ++ toBE 1 swapType))))

section Quotes

variable (d : Immutables) (w : World)

/-- `_swapLayerRelayingFee`. -/
def swapLayerRelayingFee (targetChain gasDropoffWei : ℕ) (outputTokenType : IoToken)
    (swapCount swapType : ℕ) : Except QuoteRevert ℕ := do
  let query ← (relayingFeeQuery targetChain gasDropoffWei outputTokenType swapCount
    swapType).mapError .library
  let ret ← (batchQueries d w query).mapError .swapLayer
  return (asUint48Unchecked ret 0).1

/-- `_swapLayerRelayingFeeSolanaUsdc`. -/
def swapLayerRelayingFeeSolanaUsdc (gasDropoffLamports : Uint 8) : Except QuoteRevert ℕ := do
  let wei ← lamportsToWei gasDropoffLamports
  swapLayerRelayingFee d w SOLANA_CHAIN_ID wei .usdc 0 SWAP_TYPE_INVALID

/-- `_swapLayerRelayingFeeSolanaSwap`. -/
def swapLayerRelayingFeeSolanaSwap (gasDropoffLamports : Uint 8) (outputTokenType : IoToken) :
    Except QuoteRevert ℕ := do
  let wei ← lamportsToWei gasDropoffLamports
  swapLayerRelayingFee d w SOLANA_CHAIN_ID wei outputTokenType 1 SWAP_TYPE_JUPITERV6

end Quotes

/-- The swap that comes with a query for an output token. -/
def queriedSwap (outputTokenType : IoToken) (swapCount swapType : ℕ) : ℕ × ℕ :=
  if outputTokenType = .usdc then (0, 0) else (swapCount, swapType)

section QuoteSpecs

variable {d : Immutables} {w : World} {targetChain gasDropoffWei swapCount swapType : ℕ}
  {outputTokenType : IoToken}

theorem gasDropoffTo_eq (h : gasDropoffWei / GAS_DROPOFF_UNIT ≤ uintMax 32) :
    gasDropoffTo gasDropoffWei = .ok (gasDropoffWei / GAS_DROPOFF_UNIT) :=
  if_neg (Nat.not_lt.2 h)

variable (outputTokenType) in
/-- **The query is answered** with the fee of the contract, whatever the output token. -/
theorem relayingFeeQuery_answered (hchain : targetChain < 256 ^ 2) (hcount : swapCount ≤ uintMax 8)
    (htype : swapType < 256 ^ 1) (hdropoff : gasDropoffWei / GAS_DROPOFF_UNIT ≤ uintMax 32) :
    ∃ query, relayingFeeQuery targetChain gasDropoffWei outputTokenType swapCount swapType = .ok query ∧
      AnsweredAs d w query ((calcRelayingFee (w.storage.feeParams targetChain) targetChain
        (gasDropoffWei / GAS_DROPOFF_UNIT) outputTokenType
        (queriedSwap outputTokenType swapCount swapType).1
        (queriedSwap outputTokenType swapCount swapType).2).map packUint48) := by
  have hfits : gasDropoffWei / GAS_DROPOFF_UNIT < 256 ^ 4 := lt_of_le_uintMax (n := 4) hdropoff
  by_cases husdc : outputTokenType = .usdc
  · subst husdc
    refine ⟨_, except_bind_ok.2 ⟨_, gasDropoffTo_eq hdropoff, rfl⟩,
      answeredAs_append (by decide) rfl fun {queries offset} h => ?_⟩
    have h₁ := h.rest (length_toBE ..)
    have hkind := parseIoToken_holds (h₁.rest (length_toBE ..))
    rw [answerQuery_relayingFee (h.left.readBE hchain) (h₁.left.readBE hfits) hkind rfl]
    show Except.map _ (calcRelayingFee _ _ _ _ 0 0) =
      ((calcRelayingFee _ _ _ _ 0 0).map packUint48).map _
    cases calcRelayingFee (w.storage.feeParams targetChain) targetChain
      (gasDropoffWei / GAS_DROPOFF_UNIT) .usdc 0 0 <;> rfl
  · have hmax : checkMax swapCount (uintMax 8) = .ok () := checkMax_ok.2 hcount
    have hquery : relayingFeeQuery targetChain gasDropoffWei outputTokenType swapCount swapType = .ok
        (toBE 1 QUERY_RELAYING_FEE ++ (toBE 2 targetChain ++
          (toBE 4 (gasDropoffWei / GAS_DROPOFF_UNIT) ++ (toBE 1 outputTokenType.toUint8 ++
            (toBE 1 (swapCount % 2 ^ 8) ++ toBE 1 swapType))))) := by
      rw [relayingFeeQuery, if_neg husdc, hmax, except_ok_bind, gasDropoffTo_eq hdropoff]
      rfl
    have hcountFits : swapCount % 2 ^ 8 < 256 ^ 1 := Nat.mod_lt _ (by decide)
    have hcountEq : swapCount % 2 ^ 8 = swapCount :=
      Nat.mod_eq_of_lt (lt_of_le_uintMax (n := 1) hcount)
    refine ⟨_, hquery, answeredAs_append (by decide) rfl fun {queries offset} h => ?_⟩
    have h₁ := h.rest (length_toBE ..)
    have h₂ := h₁.rest (length_toBE ..)
    have h₃ := h₂.rest (length_toBE ..)
    have hkind := parseIoToken_holds h₂.left
    have hswap : parseQuerySwap outputTokenType queries (offset + 2 + 4 + 1) =
        (swapCount, swapType, offset + 2 + 4 + 1 + 1 + 1) := by
      have hread := h₃.left.readBE hcountFits
      have hread' := (h₃.rest (length_toBE ..)).readBE htype
      rw [parseQuerySwap, if_pos husdc]
      show (readBE 1 queries (offset + 2 + 4 + 1), readBE 1 queries (offset + 2 + 4 + 1 + 1), _) = _
      rw [hread, hread', hcountEq]
    rw [answerQuery_relayingFee (h.left.readBE hchain) (h₁.left.readBE hfits) hkind hswap,
      queriedSwap, if_neg husdc]
    simp only [List.length_append, length_toBE]
    cases calcRelayingFee (w.storage.feeParams targetChain) targetChain
      (gasDropoffWei / GAS_DROPOFF_UNIT) outputTokenType swapCount swapType <;> rfl

/-- **A quote is the fee of the contract**, cut to 48 bits. -/
theorem swapLayerRelayingFee_eq (hchain : targetChain < 256 ^ 2) (hcount : swapCount ≤ uintMax 8)
    (htype : swapType < 256 ^ 1) (hdropoff : gasDropoffWei / GAS_DROPOFF_UNIT ≤ uintMax 32) {fee : ℕ}
    (hfee : calcRelayingFee (w.storage.feeParams targetChain) targetChain
      (gasDropoffWei / GAS_DROPOFF_UNIT) outputTokenType
      (queriedSwap outputTokenType swapCount swapType).1
      (queriedSwap outputTokenType swapCount swapType).2 = .ok fee) :
    swapLayerRelayingFee d w targetChain gasDropoffWei outputTokenType swapCount swapType =
      .ok (fee % 256 ^ 6) := by
  obtain ⟨query, hquery, hanswered⟩ := relayingFeeQuery_answered (d := d) (w := w)
    outputTokenType hchain hcount htype hdropoff
  rw [hfee] at hanswered
  have hbatch : batchQueries d w query = .ok (packUint48 fee) := by
    have hgather := batchQueries_gather (fun _ : Unit => hanswered) [()]
    rw [List.flatMap_singleton] at hgather
    rw [hgather]
    exact congrArg Except.ok (List.append_nil _)
  have hread : readBE 6 (packUint48 fee) 0 = fee % 256 ^ 6 := by
    have hslice := slice_head (packUint48 fee) []
    rw [List.append_nil, packUint48, length_toBE] at hslice
    rw [readBE, packUint48, hslice, ofBE_toBE]
  rw [swapLayerRelayingFee, hquery]
  show (batchQueries d w query).mapError _ >>= _ = _
  rw [hbatch]
  exact congrArg Except.ok hread

/-- Relaying to a chain is enabled, and a dropoff is not too large for it. -/
def RelaysTo (w : World) (targetChain gasDropoff : ℕ) : Prop :=
  FeeParams.baseFee (w.storage.feeParams targetChain) ≠ 2 ^ 32 - 1 ∧
    gasDropoff ≤ FeeParams.maxGasDropoff (w.storage.feeParams targetChain)

instance (w : World) (targetChain gasDropoff : ℕ) : Decidable (RelaysTo w targetChain gasDropoff) :=
  inferInstanceAs (Decidable (_ ∧ _))

/-- Where it relays to, the contract has a fee for Solana. -/
theorem calcRelayingFee_solana {gasDropoff : ℕ} (h : RelaysTo w SOLANA_CHAIN_ID gasDropoff)
    (outputTokenType : IoToken) (hswap : swapCount ≠ 0 → swapType = SWAP_TYPE_JUPITERV6) :
    ∃ fee, calcRelayingFee (w.storage.feeParams SOLANA_CHAIN_ID) SOLANA_CHAIN_ID gasDropoff
      outputTokenType swapCount swapType = .ok fee := by
  obtain ⟨henabled, hmax⟩ := h
  have hdropoff : ∃ n, dropoffFee (w.storage.feeParams SOLANA_CHAIN_ID) (gasDropoffFrom gasDropoff) =
      .ok n := by
    have hle : ¬gasDropoffFrom gasDropoff >
        gasDropoffFrom (FeeParams.maxGasDropoff (w.storage.feeParams SOLANA_CHAIN_ID)) :=
      Nat.not_lt.2 (Nat.mul_le_mul_right _ hmax)
    unfold dropoffFee
    split
    · exact ⟨_, if_neg hle⟩
    · exact ⟨_, rfl⟩
  have hexecution : ∃ n, executionFee (w.storage.feeParams SOLANA_CHAIN_ID) SOLANA_CHAIN_ID
      (gasDropoffFrom gasDropoff) swapCount swapType = .ok n := by
    have hvalid : ¬(swapCount ≠ 0 ∧ swapType ≠ SWAP_TYPE_JUPITERV6) := fun ⟨hcount, htype⟩ =>
      htype (hswap hcount)
    rw [executionFee, if_pos rfl, if_neg hvalid]
    exact ⟨_, rfl⟩
  obtain ⟨forDropoff, hforDropoff⟩ := hdropoff
  obtain ⟨forExecution, hforExecution⟩ := hexecution
  exact ⟨_, except_bind_ok.2 ⟨(), ensure_ok.2 henabled, except_bind_ok.2 ⟨_, hforDropoff,
    except_bind_ok.2 ⟨_, hforExecution, rfl⟩⟩⟩⟩

/-- What a quote should be: not refused by the helper itself, and the fee of the contract if it has
48 bits. -/
def Quotes (quote : Except QuoteRevert ℕ) (fee : Except Revert ℕ) : Prop :=
  ∃ n, fee = .ok n ∧ (∀ e, quote = .error e → ¬e.Own) ∧ (n < 2 ^ 48 → quote = .ok n)

/-- Wei of a SOL with 18 decimals are dropped off in units of a thousand lamports. -/
theorem wei_div_unit (lamports : ℕ) : lamports * 10 ^ 9 / GAS_DROPOFF_UNIT = lamports / 1000 := by
  have hunit : GAS_DROPOFF_UNIT = 10 ^ 9 * 1000 := by decide
  rw [hunit, ← Nat.div_div_eq_div_mul, Nat.mul_div_cancel _ (by decide)]

theorem lamportsToWei_ok {lamports wei : ℕ} :
    lamportsToWei lamports = .ok wei ↔ lamports * 10 ^ 9 < 2 ^ 64 ∧ wei = lamports * 10 ^ 9 := by
  unfold lamportsToWei
  split
  · rename_i h
    exact ⟨fun he => ⟨h, (Except.ok.inj he).symm⟩, fun he => by rw [he.2]⟩
  · rename_i h
    exact ⟨fun he => (by cases he), fun he => absurd he.1 h⟩

variable (swapCount swapType) in
/-- **A quote in lamports** is right iff the product fits: a helper that multiplies first, and then
asks for any output token and the swap that Solana takes. -/
theorem quotes_iff (lamports : Uint 8) (hfits : (lamports : ℕ) / 1000 ≤ 2 ^ 32 - 1)
    (hrelays : RelaysTo w SOLANA_CHAIN_ID ((lamports : ℕ) / 1000)) (outputTokenType : IoToken)
    (hcount : swapCount ≤ uintMax 8) (htype : swapType < 256 ^ 1)
    (hswap : (queriedSwap outputTokenType swapCount swapType).1 ≠ 0 →
      (queriedSwap outputTokenType swapCount swapType).2 = SWAP_TYPE_JUPITERV6) :
    Quotes (lamportsToWei lamports >>= fun wei =>
        swapLayerRelayingFee d w SOLANA_CHAIN_ID wei outputTokenType swapCount swapType)
      (calcRelayingFee (w.storage.feeParams SOLANA_CHAIN_ID) SOLANA_CHAIN_ID ((lamports : ℕ) / 1000)
        outputTokenType (queriedSwap outputTokenType swapCount swapType).1
        (queriedSwap outputTokenType swapCount swapType).2) ↔ (lamports : ℕ) * 10 ^ 9 < 2 ^ 64 := by
  constructor
  · rintro ⟨fee, -, hown, -⟩
    by_contra hlarge
    have hrevert : lamportsToWei lamports = .error (.panic PANIC_ARITHMETIC) := if_neg hlarge
    rw [hrevert] at hown
    exact hown _ rfl trivial
  · intro hsmall
    obtain ⟨fee, hfee⟩ := calcRelayingFee_solana hrelays outputTokenType hswap
    have hunit := wei_div_unit lamports
    have hquote := swapLayerRelayingFee_eq (d := d) (by decide) hcount htype
      (Nat.le_trans (Nat.le_of_eq hunit) hfits) (hunit.symm ▸ hfee)
    rw [lamportsToWei_ok.2 ⟨hsmall, rfl⟩, except_ok_bind, hquote]
    exact ⟨fee, hfee, fun e he => (by cases he), fun hlt => congrArg _ (Nat.mod_eq_of_lt hlt)⟩

/-- **Which quotes for Solana are right**: as long as the dropoff in wei fits into 64 bits, both
helpers quote the fee that the contract charges for a dropoff of a thousandth of the lamports. -/
theorem relayingFeeSolana_iff (d : Immutables) (w : World) (lamports : Uint 8)
    (hfits : (lamports : ℕ) / 1000 ≤ 2 ^ 32 - 1)
    (hrelays : RelaysTo w SOLANA_CHAIN_ID ((lamports : ℕ) / 1000)) :
    (Quotes (swapLayerRelayingFeeSolanaUsdc d w lamports)
        (calcRelayingFee (w.storage.feeParams SOLANA_CHAIN_ID) SOLANA_CHAIN_ID ((lamports : ℕ) / 1000) .usdc
          0 SWAP_TYPE_INVALID) ∧
      ∀ kind, Quotes (swapLayerRelayingFeeSolanaSwap d w lamports kind)
        (calcRelayingFee (w.storage.feeParams SOLANA_CHAIN_ID) SOLANA_CHAIN_ID ((lamports : ℕ) / 1000) kind
          (queriedSwap kind 1 SWAP_TYPE_JUPITERV6).1 (queriedSwap kind 1 SWAP_TYPE_JUPITERV6).2)) ↔
      (lamports : ℕ) * 10 ^ 9 < 2 ^ 64 := by
  have husdc := quotes_iff (d := d) 0 SWAP_TYPE_INVALID lamports hfits hrelays .usdc (by decide)
    (by decide) fun hne => absurd rfl hne
  refine ⟨fun h => husdc.1 h.1, fun hsmall => ⟨husdc.2 hsmall, fun kind => ?_⟩⟩
  refine (quotes_iff (d := d) 1 SWAP_TYPE_JUPITERV6 lamports hfits hrelays kind (by decide) (by decide)
    fun hne => ?_).2 hsmall
  by_cases hkind : kind = .usdc
  · rw [queriedSwap, if_pos hkind] at hne
    exact absurd rfl hne
  · rw [queriedSwap, if_neg hkind]

end QuoteSpecs

namespace Sample

/-- Relaying costs nothing, and the dropoff is only bounded by its width. -/
def quoted : World :=
  (Evm.Sample.world fun _ => 0).withStorage
    { Evm.Sample.storage with feeParams := fun _ => FeeParams.setMaxGasDropoff 0 (2 ^ 32 - 1) }

def immutables : Immutables := { Evm.Sample.deployment with wormhole := Evm.Sample.address 0xc0 }

theorem eighteenSol_lt : 18 * 10 ^ 9 < 256 ^ 8 := by decide

theorem twentySol_lt : 20 * 10 ^ 9 < 256 ^ 8 := by decide

def eighteenSol : Uint 8 := ⟨_, eighteenSol_lt⟩

def twentySol : Uint 8 := ⟨_, twentySol_lt⟩

/-- 18 SOL are quoted. -/
theorem relayingFeeSolana_eighteenSol :
    RelaysTo quoted SOLANA_CHAIN_ID (18 * 10 ^ 6) ∧
      Quotes (swapLayerRelayingFeeSolanaUsdc immutables quoted eighteenSol)
        (calcRelayingFee (quoted.storage.feeParams SOLANA_CHAIN_ID) SOLANA_CHAIN_ID (18 * 10 ^ 6) .usdc
          0 SWAP_TYPE_INVALID) := by
  have hrelays : RelaysTo quoted SOLANA_CHAIN_ID (18 * 10 ^ 6) := by decide +kernel
  exact ⟨hrelays,
    ((relayingFeeSolana_iff immutables quoted eighteenSol (by decide) hrelays).2 (by decide)).1⟩

/-- **20 SOL are not quoted**, although the contract would relay them: the product overflows. -/
theorem relayingFeeSolana_twentySol :
    (twentySol : ℕ) / 1000 ≤ 2 ^ 32 - 1 ∧
      RelaysTo quoted SOLANA_CHAIN_ID ((twentySol : ℕ) / 1000) ∧
      swapLayerRelayingFeeSolanaUsdc immutables quoted twentySol =
        .error (.panic PANIC_ARITHMETIC) ∧
      (∀ kind, swapLayerRelayingFeeSolanaSwap immutables quoted twentySol kind =
        .error (.panic PANIC_ARITHMETIC)) ∧
      ¬Quotes (swapLayerRelayingFeeSolanaUsdc immutables quoted twentySol)
        (calcRelayingFee (quoted.storage.feeParams SOLANA_CHAIN_ID) SOLANA_CHAIN_ID
          ((twentySol : ℕ) / 1000) .usdc 0 SWAP_TYPE_INVALID) := by
  have hrevert : lamportsToWei twentySol = .error (.panic PANIC_ARITHMETIC) := if_neg (by decide)
  have husdc : swapLayerRelayingFeeSolanaUsdc immutables quoted twentySol =
      .error (.panic PANIC_ARITHMETIC) := by
    rw [swapLayerRelayingFeeSolanaUsdc, hrevert]
    rfl
  refine ⟨by decide, by decide +kernel, husdc, fun kind => ?_, ?_⟩
  · rw [swapLayerRelayingFeeSolanaSwap, hrevert]
    rfl
  · rintro ⟨-, -, hown, -⟩
    exact hown _ husdc trivial

end Sample

/-! ## Approvals -/

/-- `abi.encodePacked` of an `address[]`: every element is padded to 32 bytes. -/
def encodePackedArray (tokens : List Address) : Bytes :=
  tokens.flatMap fun token => List.replicate 12 0 ++ token.toList

section Approvals

variable (d : Deployment) (x : Externals)

/-- `_swapLayerMaxApprove(address)`. -/
def swapLayerMaxApprove (token : Address) : Contract Unit := batchMaxApprove d x token.toList

/-- `_swapLayerMaxApprove(address[])`. -/
def swapLayerMaxApproveArray (tokens : List Address) : Contract Unit :=
  batchMaxApprove d x (encodePackedArray tokens)

/-- The approvals that the array form stands for: each token once, in order. -/
def maxApproveEach : List Address → Contract Unit
  | [] => pure ()
  | token :: tokens => do
    swapLayerMaxApprove d x token
    maxApproveEach tokens

/-- The number of approvals that a token gets: the token's own and the one in permit2 for Uniswap, one
for TraderJoe. -/
def approvalsPerToken : ℕ :=
  (if d.uniswapRouter = zeroAddress then 0 else 2) + if d.traderJoeRouter = zeroAddress then 0 else 1

end Approvals

section ApprovalSpecs

variable {d : Deployment} {x : Externals} {w w' : World}

theorem length_encodePackedArray (tokens : List Address) :
    (encodePackedArray tokens).length = tokens.length * 32 :=
  length_flatMap_const (fun token => by
    rw [List.length_append, List.length_replicate, token.toList_length]) tokens

theorem uniswapMaxApprove_trace {token : Address} {u : Unit}
    (h : uniswapMaxApprove d x token w = .ok (u, w')) :
    w'.trace.length = w.trace.length + if d.uniswapRouter = zeroAddress then 0 else 2 := by
  unfold uniswapMaxApprove at h
  split
  · rename_i hnone
    rw [if_pos hnone] at h
    rw [(pure_ok.1 h).2, Nat.add_zero]
  · rename_i hrouter
    rw [if_neg hrouter] at h
    obtain ⟨_, _, htoken, hpermit2⟩ := bind_ok.1 h
    rw [approve_ok hpermit2, approve_ok htoken, World.record_trace, World.record_trace,
      List.length_append, List.length_append]
    rfl

theorem traderJoeMaxApprove_trace {token : Address} {u : Unit}
    (h : traderJoeMaxApprove d x token w = .ok (u, w')) :
    w'.trace.length = w.trace.length + if d.traderJoeRouter = zeroAddress then 0 else 1 := by
  unfold traderJoeMaxApprove at h
  split
  · rename_i hnone
    rw [if_pos hnone] at h
    rw [(pure_ok.1 h).2, Nat.add_zero]
  · rename_i hrouter
    rw [if_neg hrouter] at h
    rw [approve_ok h, World.record_trace, List.length_append]
    rfl

/-- **What the loop takes for tokens**: if it gets through, the string is made of pieces of 20 bytes, and
each of them was approved. -/
theorem maxApproveLoop_trace {approvals : Bytes} {fuel offset : ℕ} {u : Unit}
    (h : maxApproveLoop d x approvals fuel offset w = .ok (u, w')) :
    ∃ m, approvals.length = offset + 20 * m ∧
      w'.trace.length = w.trace.length + m * approvalsPerToken d := by
  induction fuel generalizing offset w with
  | zero => exact (fail_ok.1 h).elim
  | succ fuel ih =>
    unfold maxApproveLoop at h
    split at h
    · obtain ⟨_, w₁, huniswap, h₁⟩ := bind_ok.1 h
      obtain ⟨_, w₂, htraderJoe, h₂⟩ := bind_ok.1 h₁
      obtain ⟨m, hlen, htrace⟩ := ih h₂
      refine ⟨m + 1, hlen.trans (by show offset + 20 + 20 * m = _; omega), ?_⟩
      rw [htrace, traderJoeMaxApprove_trace htraderJoe, uniswapMaxApprove_trace huniswap, Nat.succ_mul]
      unfold approvalsPerToken
      omega
    · obtain ⟨hend, rfl⟩ := lift_ok.1 h
      exact ⟨0, ensure_ok.1 hend, by rw [Nat.zero_mul, Nat.add_zero]⟩

theorem maxApproveEach_trace {tokens : List Address} {u : Unit}
    (h : maxApproveEach d x tokens w = .ok (u, w')) :
    w'.trace.length = w.trace.length + tokens.length * approvalsPerToken d := by
  induction tokens generalizing w with
  | nil => rw [(pure_ok.1 h).2, List.length_nil, Nat.zero_mul, Nat.add_zero]
  | cons token tokens ih =>
    obtain ⟨_, w₁, htoken, htokens⟩ := bind_ok.1 h
    obtain ⟨m, hlen, htrace⟩ := maxApproveLoop_trace htoken
    have hone : m = 1 := by
      rw [token.toList_length] at hlen
      omega
    rw [ih htokens, htrace, hone, Nat.one_mul, List.length_cons, Nat.succ_mul]
    omega

/-- **A single token** is approved for both routers. -/
theorem swapLayerMaxApprove_eq (token : Address) : swapLayerMaxApprove d x token = (do
    uniswapMaxApprove d x token
    traderJoeMaxApprove d x token) := by
  have hlen := token.toList_length
  have hread : sliceFixed 20 token.toList 0 = token := by
    apply Subtype.ext
    have := slice_self token.toList
    rwa [hlen] at this
  funext w
  unfold swapLayerMaxApprove batchMaxApprove maxApproveLoop
  rw [if_pos (by omega)]
  show (uniswapMaxApprove d x (sliceFixed 20 token.toList 0) >>= fun _ =>
    traderJoeMaxApprove d x (sliceFixed 20 token.toList 0) >>= fun _ =>
      maxApproveLoop d x token.toList token.toList.length (0 + 20)) w = _
  have hrest (u : Unit) : maxApproveLoop d x token.toList token.toList.length (0 + 20) = pure u := by
    funext w
    rw [hlen, maxApproveLoop, if_neg (by omega), checkLength, ensure, if_pos (by omega)]
    rfl
  rw [hread]
  refine congrFun (congrArg (uniswapMaxApprove d x token >>= ·) (funext fun _ => ?_)) w
  rw [funext hrest]
  exact bind_pure _

/-- If every approval is given, so are those of the single calls. -/
theorem maxApproveEach_isOk (happrove : ∀ a, x.approve a = true) (tokens : List Address) (w : World) :
    ∃ w', maxApproveEach d x tokens w = .ok ((), w') := by
  have hone (a : Approval) (w : World) : ∃ w', approve x a w = .ok ((), w') := by
    rw [approve, if_pos (happrove a)]
    exact ⟨_, rfl⟩
  have huniswap (token : Address) (w : World) :
      ∃ w', uniswapMaxApprove d x token w = .ok ((), w') := by
    unfold uniswapMaxApprove
    split
    · exact ⟨w, rfl⟩
    · obtain ⟨w₁, h₁⟩ := hone (.token token d.permit2) w
      obtain ⟨w₂, h₂⟩ := hone (.permit2 token d.uniswapRouter) w₁
      exact ⟨w₂, bind_ok.2 ⟨(), w₁, h₁, h₂⟩⟩
  have htraderJoe (token : Address) (w : World) :
      ∃ w', traderJoeMaxApprove d x token w = .ok ((), w') := by
    unfold traderJoeMaxApprove
    split
    · exact ⟨w, rfl⟩
    · exact hone _ w
  induction tokens generalizing w with
  | nil => exact ⟨w, rfl⟩
  | cons token tokens ih =>
    obtain ⟨w₁, h₁⟩ := huniswap token w
    obtain ⟨w₂, h₂⟩ := htraderJoe token w₁
    obtain ⟨w', h'⟩ := ih w₂
    refine ⟨w', bind_ok.2 ⟨(), w₂, ?_, h'⟩⟩
    rw [swapLayerMaxApprove_eq]
    exact bind_ok.2 ⟨(), w₁, h₁, h₂⟩

/-- **The two forms differ** wherever a router is deployed and every approval is given, unless there is
no token: the contract finds a different number of tokens in the array. -/
theorem maxApproveArray_ne (hrouter : 0 < approvalsPerToken d) (happrove : ∀ a, x.approve a = true)
    {tokens : List Address} (h : swapLayerMaxApproveArray d x tokens w = maxApproveEach d x tokens w) :
    tokens = [] := by
  obtain ⟨w', heach⟩ := maxApproveEach_isOk (d := d) happrove tokens w
  obtain ⟨m, hlen, htrace⟩ := maxApproveLoop_trace (h.trans heach)
  have heq : m * approvalsPerToken d = tokens.length * approvalsPerToken d := by
    have := maxApproveEach_trace heach
    omega
  have hm : m = tokens.length := Nat.eq_of_mul_eq_mul_right hrouter heq
  rw [length_encodePackedArray] at hlen
  exact List.length_eq_zero_iff.1 (by omega)

/-- **The array form approves the given tokens iff there are none.** On every deployment and with
whatever answers from outside, the call on an empty array does what the single calls do, that is
nothing. No other array has this property: the contract takes the padding for tokens, and reverts at
the end unless 20 divides the padded length. -/
theorem maxApproveArray_iff (tokens : List Address) :
    (∀ (d : Deployment) (x : Externals) (w : World),
      swapLayerMaxApproveArray d x tokens w = maxApproveEach d x tokens w) ↔ tokens = [] := by
  constructor
  · intro h
    exact maxApproveArray_ne (d := Evm.Sample.deployment) (x := Evm.Sample.externals 0 0)
      (w := Evm.Sample.world fun _ => 0) (by decide) (fun _ => rfl) (h _ _ _)
  · rintro rfl d x w
    rfl

/-- An array of one token makes the call revert, whatever the deployment and the world. -/
theorem maxApproveArray_single (token : Address) (d : Deployment) (x : Externals) (w w' : World) :
    swapLayerMaxApproveArray d x [token] w ≠ .ok ((), w') := by
  intro h
  obtain ⟨m, hlen, -⟩ := maxApproveLoop_trace h
  rw [length_encodePackedArray, List.length_singleton] at hlen
  omega

end ApprovalSpecs

namespace Sample

/-- USDC in an array: the single call is fine, the array form reverts. -/
theorem maxApproveArray_usdc :
    (∃ w, maxApproveEach Evm.Sample.deployment (Evm.Sample.externals 0 0) [Evm.Sample.usdc]
        quoted = .ok ((), w)) ∧
      (∀ w, swapLayerMaxApproveArray Evm.Sample.deployment (Evm.Sample.externals 0 0)
        [Evm.Sample.usdc] quoted ≠ .ok ((), w)) ∧
      ¬∀ (tokens : List Address) (d : Deployment) (x : Externals) (w : World),
        swapLayerMaxApproveArray d x tokens w = maxApproveEach d x tokens w := by
  obtain ⟨w, hw⟩ := maxApproveEach_isOk (d := Evm.Sample.deployment)
    (x := Evm.Sample.externals 0 0) (fun _ => rfl) [Evm.Sample.usdc] quoted
  exact ⟨⟨w, hw⟩, fun w' => maxApproveArray_single _ _ _ _ w',
    fun hall => maxApproveArray_single _ _ _ _ w ((hall _ _ _ _).trans hw)⟩

end Sample

end SwapLayer.Integration
