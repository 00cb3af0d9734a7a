import SwapLayer.Evm.Query
import SwapLayer.Sdk.FeeUpdates

/-!
# Queries of the TypeScript SDK

Model of `queriesBatchLayout` in `evm/ts-sdk/src/layout.ts`. The table of immutables is kept by hand: the
number of an immutable is its index in `immutableTypes`, and the contract has one entry more than the
table, `TraderJoeRouter`, right before `LiquidityLayer`. So a query for the liquidity layer is one for
the TraderJoe router.

Results:
* `batchQueries_encode`: the contract answers the queries of a batch in order.
* `batchQueries_answered_iff`: the answers are what the queries name, unless one asks for the liquidity
  layer; and batches may be joined.
-/

namespace SwapLayer.Sdk

open ByteString Program

/-! ## Layout items -/

/-- The names of the immutables. -/
inductive Immutable
  | wormhole
  | usdc
  | weth
  | permit2
  | uniswapRouter
  | liquidityLayer
  deriving DecidableEq

def immutableTypes : List Immutable :=
  [.wormhole, .usdc, .weth, .permit2, .uniswapRouter, .liquidityLayer]

/-- The names of the swap types, `swapTypes`. -/
inductive SwapTypeName
  | uniswapV3
  | traderJoe
  | genericSolana

/-- The cases of the output token of a relaying fee query. -/
inductive QueryToken
  | usdc
  | gas (swapCount : Uint 1) (swapType : SwapTypeName)
  | other (swapCount : Uint 1) (swapType : SwapTypeName)

/-- The cases of `queryLayout`. -/
inductive Query
  | feeParams (chain : Chain)
  | relayingFee (chain : Chain) (gasDropoff : GasDropoff) (outputToken : QueryToken)
  | peer (chain : Chain)
  | immutable (immutable : Immutable)
  | owner
  | pendingOwner
  | assistant
  | feeUpdater
  | feeRecipient
  | implementation

def immutableTypeItem (val : Immutable) : List UInt8 := toBE 1 (immutableTypes.idxOf val)

/-- The number of a swap type. -/
def SwapTypeName.id : SwapTypeName → ℕ
  | uniswapV3 => 1
  | traderJoe => 2
  | genericSolana => 16

/-- `enumItem(swapTypes)`. -/
def swapTypeNameItem (swapType : SwapTypeName) : List UInt8 := toBE 1 swapType.id

def querySwapParamLayout (swapCount : Uint 1) (swapType : SwapTypeName) : List UInt8 :=
  writeUint swapCount ++ swapTypeNameItem swapType

def queryTokenItem : QueryToken → List UInt8
  | .usdc => toBE 1 0
  | .gas swapCount swapType => toBE 1 1 ++ querySwapParamLayout swapCount swapType
  | .other swapCount swapType => toBE 1 2 ++ querySwapParamLayout swapCount swapType

def queryLayout : Query → List UInt8
  | .feeParams chain => toBE 1 0 ++ chainItem chain
  | .relayingFee chain gasDropoff outputToken =>
    toBE 1 1 ++ (chainItem chain ++ (gasDropoffItem gasDropoff ++ queryTokenItem outputToken))
  | .peer chain => toBE 1 2 ++ chainItem chain
  | .immutable immutable => toBE 1 3 ++ immutableTypeItem immutable
  | .owner => toBE 1 4
  | .pendingOwner => toBE 1 5
  | .assistant => toBE 1 6
  | .feeUpdater => toBE 1 7
  | .feeRecipient => toBE 1 8
  | .implementation => toBE 1 9

def encodeQueriesBatch (args : List Query) : List UInt8 := args.flatMap queryLayout

/-! ## What a query names -/

/-- The kind of token, the number of swaps and their type, none for USDC. -/
def QueryToken.swap : QueryToken → Evm.IoToken × ℕ × ℕ
  | usdc => (.usdc, 0, 0)
  | gas swapCount swapType => (.gas, swapCount, swapType.id)
  | other swapCount swapType => (.other, swapCount, swapType.id)

section Answers

variable (d : Evm.Immutables) (w : Evm.World)

/-- The fee that a relaying fee query asks for. -/
def relayingFeeFor (chain : Chain) (gasDropoff : GasDropoff) (outputToken : QueryToken) :
    Except Evm.Revert ℕ :=
  Evm.calcRelayingFee (w.storage.feeParams chain.val) chain.val (gasDropoff.val / gasDropoffUnit)
    outputToken.swap.1 outputToken.swap.2.1 outputToken.swap.2.2

/-- The contract's immutable of a name. -/
def immutableOf : Immutable → Evm.Address
  | .wormhole => d.wormhole
  | .usdc => d.usdc
  | .weth => d.wnative
  | .permit2 => d.permit2
  | .uniswapRouter => d.uniswapRouter
  | .liquidityLayer => d.liquidityLayer

/-- The value that a query names, at its fixed width. -/
def named : Query → Except Evm.Revert (List UInt8)
  | .feeParams chain => .ok (toBE 32 (w.storage.feeParams chain.val).toNat)
  | .relayingFee chain gasDropoff outputToken =>
    (relayingFeeFor w chain gasDropoff outputToken).map Evm.packUint48
  | .peer chain => .ok (w.storage.peers chain.val).toList
  | .immutable immutable => .ok (immutableOf d immutable).toList
  | .owner => .ok w.storage.governance.owner.toList
  | .pendingOwner => .ok w.storage.governance.pendingOwner.toList
  | .assistant => .ok w.storage.governance.assistant.toList
  | .feeUpdater => .ok w.storage.governance.feeUpdater.toList
  | .feeRecipient => .ok w.storage.governance.feeRecipient.toList
  | .implementation => .ok w.storage.implementation.toList

/-- The query asks for the liquidity layer. -/
def Query.AsksLiquidityLayer (q : Query) : Prop := q = .immutable .liquidityLayer

/-- What the contract answers: for the liquidity layer, its TraderJoe router. -/
def answered : Query → Except Evm.Revert (List UInt8)
  | .immutable .liquidityLayer => .ok d.traderJoeRouter.toList
  | q => named d w q

/-- A relaying fee query that the contract refuses to answer: relaying to the chain is disabled, the
dropoff is too large or the swap type does not fit the chain. -/
def Query.Refused : Query → Prop
  | relayingFee chain gasDropoff outputToken =>
    ∃ e, relayingFeeFor w chain gasDropoff outputToken = .error e
  | _ => False

end Answers

/-! ## The contract's answers -/

section Specs

variable {d : Evm.Immutables} {w : Evm.World}

theorem answered_eq_named {q : Query} (h : ¬q.AsksLiquidityLayer) : answered d w q = named d w q := by
  unfold answered
  split
  · exact absurd rfl h
  · rfl

theorem SwapTypeName.id_lt (swapType : SwapTypeName) : swapType.id < 256 ^ 1 := by
  cases swapType <;> decide

/-- The swap of a token other than USDC. -/
theorem parseQuerySwap_of_holds {queries : List UInt8} {offset : ℕ} {swapCount : Uint 1}
    {swapType : SwapTypeName} {token : Evm.IoToken} (hne : token ≠ .usdc)
    (h : Holds queries offset (querySwapParamLayout swapCount swapType)) :
    Evm.parseQuerySwap token queries offset = (swapCount.val, swapType.id, offset + 2) := by
  have hcount : readBE 1 queries offset = swapCount := h.left.readBE swapCount.isLt
  have htype : readBE 1 queries (offset + 1) = swapType.id :=
    (h.rest (length_toBE ..)).readBE swapType.id_lt
  rw [Evm.parseQuerySwap, if_pos hne]
  show (readBE 1 queries offset, readBE 1 queries (offset + 1), offset + 1 + 1) = _
  rw [hcount, htype]

/-- **The output token of a relaying fee query** is read with its swap. -/
theorem parseQueryToken {queries : List UInt8} {offset : ℕ} {token : QueryToken}
    (h : Holds queries offset (queryTokenItem token)) :
    Evm.parseIoToken queries offset = .ok (token.swap.1, offset + 1) ∧
      Evm.parseQuerySwap token.swap.1 queries (offset + 1) =
        (token.swap.2.1, token.swap.2.2, offset + (queryTokenItem token).length) := by
  cases token with
  | usdc => exact ⟨Evm.parseIoToken_holds h, rfl⟩
  | gas swapCount swapType =>
    exact ⟨Evm.parseIoToken_holds h.left, parseQuerySwap_of_holds nofun (h.rest (length_toBE ..))⟩
  | other swapCount swapType =>
    exact ⟨Evm.parseIoToken_holds h.left, parseQuerySwap_of_holds nofun (h.rest (length_toBE ..))⟩

/-- **The contract reads each query of the SDK**, and for the liquidity layer it reads another one. -/
theorem queryLayout_answered (q : Query) : Evm.AnsweredAs d w (queryLayout q) (answered d w q) := by
  cases q with
  | owner => exact Evm.answeredAs_role (by decide) rfl fun _ _ => rfl
  | pendingOwner => exact Evm.answeredAs_role (by decide) rfl fun _ _ => rfl
  | assistant => exact Evm.answeredAs_role (by decide) rfl fun _ _ => rfl
  | feeUpdater => exact Evm.answeredAs_role (by decide) rfl fun _ _ => rfl
  | feeRecipient => exact Evm.answeredAs_role (by decide) rfl fun _ _ => rfl
  | implementation => exact Evm.answeredAs_role (by decide) rfl fun _ _ => rfl
  | feeParams chain =>
    refine Evm.answeredAs_append (by decide) rfl fun {queries offset} h => ?_
    have hchain : readBE 2 queries offset = chain.val := h.readBE chain.val.isLt
    show Except.ok (toBE 32 (w.storage.feeParams (readBE 2 queries offset)).toNat, offset + 2) = _
    rw [hchain, chainItem, writeUint, length_toBE]
    rfl
  | peer chain =>
    refine Evm.answeredAs_append (by decide) rfl fun {queries offset} h => ?_
    have hchain : readBE 2 queries offset = chain.val := h.readBE chain.val.isLt
    show Except.ok ((w.storage.peers (readBE 2 queries offset)).toList, offset + 2) = _
    rw [hchain, chainItem, writeUint, length_toBE]
    rfl
  | immutable i =>
    refine Evm.answeredAs_append (by decide) rfl fun {queries offset} h => ?_
    have hread : readBE 1 queries offset = immutableTypes.idxOf i :=
      h.readBE (by cases i <;> decide)
    show (Evm.ImmutableType.ofUint8 (readBE 1 queries offset) >>= fun t =>
      Except.ok ((d.get t).toList, offset + 1)) = _
    rw [hread, immutableTypeItem, length_toBE]
    cases i <;> rfl
  | relayingFee chain gasDropoff outputToken =>
    refine Evm.answeredAs_append (by decide) rfl fun {queries offset} h => ?_
    have hchain : readBE 2 queries offset = chain.val := h.left.readBE chain.val.isLt
    have h₁ := h.rest (length_toBE ..)
    have hdropoff : readBE 4 queries (offset + 2) = gasDropoff.val / gasDropoffUnit :=
      h₁.left.readBE gasDropoff.property
    obtain ⟨hkind, hswap⟩ := parseQueryToken (h₁.rest (length_toBE ..))
    rw [Evm.answerQuery_relayingFee hchain hdropoff hkind hswap]
    have hlength : offset + 2 + 4 + (queryTokenItem outputToken).length = offset +
        (chainItem chain ++ (gasDropoffItem gasDropoff ++ queryTokenItem outputToken)).length := by
      simp only [chainItem, gasDropoffItem, writeUint, List.length_append, length_toBE]
      omega
    rw [hlength]
    show (relayingFeeFor w chain gasDropoff outputToken).map (fun fee => (Evm.packUint48 fee, _)) =
      ((relayingFeeFor w chain gasDropoff outputToken).map Evm.packUint48).map _
    cases relayingFeeFor w chain gasDropoff outputToken <;> rfl

theorem batchQueries_encode (qs : List Query) :
    Evm.batchQueries d w (encodeQueriesBatch qs) = gather (answered d w) qs :=
  Evm.batchQueries_gather queryLayout_answered qs

/-! ## The answers that were asked for -/

/-- The contract's answer to a query is as long as the one that the query names. -/
theorem length_answered {q : Query} {a b : List UInt8} (ha : answered d w q = .ok a)
    (hb : named d w q = .ok b) : a.length = b.length := by
  unfold answered at ha
  split at ha
  · cases ha
    cases hb
    rw [List.Vector.toList_length, List.Vector.toList_length]
  · cases ha.symm.trans hb
    rfl

/-- The contract answers a query unless it refuses it. -/
theorem answered_ok_iff {q : Query} : (∃ a, answered d w q = .ok a) ↔ ¬q.Refused w := by
  cases q with
  | relayingFee chain gasDropoff outputToken =>
    show (∃ a, (relayingFeeFor w chain gasDropoff outputToken).map Evm.packUint48 = .ok a) ↔
      ¬∃ e, relayingFeeFor w chain gasDropoff outputToken = .error e
    cases relayingFeeFor w chain gasDropoff outputToken with
    | error e => exact ⟨nofun, fun h => absurd ⟨e, rfl⟩ h⟩
    | ok fee => exact ⟨fun _ => nofun, fun _ => ⟨_, rfl⟩⟩
  | immutable i => cases i <;> exact ⟨fun _ => id, fun _ => ⟨_, rfl⟩⟩
  | feeParams | peer | owner | pendingOwner | assistant | feeUpdater | feeRecipient | implementation =>
    exact ⟨fun _ => id, fun _ => ⟨_, rfl⟩⟩

/-- With one address for both, there is nothing to confuse. -/
theorem answered_eq_of_same (h : d.liquidityLayer = d.traderJoeRouter) :
    answered d w = named d w := by
  funext q
  unfold answered
  split
  · exact congrArg (fun a : Evm.Address => Except.ok a.toList) h.symm
  · rfl

end Specs

/-- What a batch returns is what its queries name. -/
def Answers (d : Evm.Immutables) (w : Evm.World) (qs : List Query) : Prop :=
  ∀ ret, Evm.batchQueries d w (encodeQueriesBatch qs) = .ok ret → gather (named d w) qs = .ok ret

/-- **Batched queries are answered in order iff none asks for the liquidity layer**, unless that is the
TraderJoe router or the batch is refused anyway. Batches may be joined in any case. -/
theorem batchQueries_answered_iff (d : Evm.Immutables) (w : Evm.World) :
    (∀ qs : List Query, Answers d w qs ↔
      (∀ q ∈ qs, ¬q.AsksLiquidityLayer) ∨ d.liquidityLayer = d.traderJoeRouter ∨
        ∃ q ∈ qs, q.Refused w) ∧
    ∀ qs₁ qs₂ : List Query, Evm.batchQueries d w (encodeQueriesBatch (qs₁ ++ qs₂)) = (do
      let ret₁ ← Evm.batchQueries d w (encodeQueriesBatch qs₁)
      let ret₂ ← Evm.batchQueries d w (encodeQueriesBatch qs₂)
      return ret₁ ++ ret₂) := by
  refine ⟨fun qs => ⟨fun hanswers => ?_, ?_⟩, fun qs₁ qs₂ => ?_⟩
  · by_contra hnone
    obtain ⟨hasks, hdiffer, hrefused⟩ : (∃ q ∈ qs, q.AsksLiquidityLayer) ∧
        d.liquidityLayer ≠ d.traderJoeRouter ∧ ∀ q ∈ qs, ¬q.Refused w := by
      push Not at hnone
      exact hnone
    obtain ⟨ret, hret⟩ := gather_ok_iff.2 fun q hq => answered_ok_iff.2 (hrefused q hq)
    have hnamed := hanswers ret ((batchQueries_encode qs).trans hret)
    -- the answers have the lengths that are expected, so each of them would have to be right
    have hequal := gather_inj hret hnamed fun q _ a b => length_answered
    obtain ⟨_, hq, rfl⟩ := hasks
    have hsame : d.traderJoeRouter.toList = d.liquidityLayer.toList := Except.ok.inj (hequal _ hq)
    exact hdiffer (Subtype.ext hsame.symm)
  · rintro (hnone | hsame | ⟨q, hq, hrefused⟩) ret hret
    · rw [← hret, batchQueries_encode]
      exact gather_congr fun q hq => (answered_eq_named (hnone q hq)).symm
    · rw [← hret, batchQueries_encode, answered_eq_of_same hsame]
    · rw [batchQueries_encode] at hret
      exact absurd hrefused (answered_ok_iff.1 (gather_ok_iff.1 ⟨ret, hret⟩ q hq))
  · rw [batchQueries_encode, batchQueries_encode, batchQueries_encode, gather_append]

namespace Sample

def immutables : Evm.Immutables := { Evm.Sample.deployment with wormhole := Evm.Sample.address 0xc0 }

/-- A query for the liquidity layer returns the address of the TraderJoe router. -/
theorem liquidityLayer_not_answered :
    Evm.batchQueries immutables (Evm.Sample.world 0)
        (encodeQueriesBatch [.immutable .liquidityLayer]) =
        .ok (immutables.traderJoeRouter).toList ∧
      immutables.traderJoeRouter ≠ immutables.liquidityLayer ∧
      ¬Answers immutables (Evm.Sample.world 0) [.immutable .liquidityLayer] := by
  have hret : Evm.batchQueries immutables (Evm.Sample.world 0)
      (encodeQueriesBatch [.immutable .liquidityLayer]) =
      .ok (immutables.traderJoeRouter).toList := by decide +kernel
  refine ⟨hret, by decide, fun hanswers => ?_⟩
  have hnamed := hanswers _ hret
  revert hnamed
  decide +kernel

end Sample

end SwapLayer.Sdk
