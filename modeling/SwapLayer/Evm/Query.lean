import SwapLayer.Evm.Fees

/-!
# Batched queries

Model of `evm/src/assets/SwapLayerQuery.sol`. The answers stand one behind the other, without anything
between them.

Results:
* `queryLoop_gather`: on a string that is put together from single queries, the loop collects their
  answers.
-/

namespace SwapLayer.Evm

open ByteString Program

/-- The immutables with the wormhole core contract, which nothing but a query reads. -/
structure Immutables extends Deployment where
  wormhole : Address

inductive ImmutableType
  | wormhole
  | usdc
  | wrappedNative
  | permit2
  | uniswapRouter
  | traderJoeRouter
  | liquidityLayer
  deriving DecidableEq

/-- `ImmutableType(immutableType_)`. -/
def ImmutableType.ofUint8 : ℕ → Except Revert ImmutableType
  | 0 => .ok .wormhole
  | 1 => .ok .usdc
  | 2 => .ok .wrappedNative
  | 3 => .ok .permit2
  | 4 => .ok .uniswapRouter
  | 5 => .ok .traderJoeRouter
  | 6 => .ok .liquidityLayer
  | _ => .error (.panic PANIC_ENUM)

inductive QueryType
  | feeParams
  | relayingFee
  | peer
  | immutable
  | owner
  | pendingOwner
  | assistant
  | feeUpdater
  | feeRecipient
  | implementation
  deriving DecidableEq

/-- `QueryType(query_)`. -/
def QueryType.ofUint8 : ℕ → Except Revert QueryType
  | 0 => .ok .feeParams
  | 1 => .ok .relayingFee
  | 2 => .ok .peer
  | 3 => .ok .immutable
  | 4 => .ok .owner
  | 5 => .ok .pendingOwner
  | 6 => .ok .assistant
  | 7 => .ok .feeUpdater
  | 8 => .ok .feeRecipient
  | 9 => .ok .implementation
  | _ => .error (.panic PANIC_ENUM)

section Definitions

variable (d : Immutables) (w : World)

/-- The immutable of a type. -/
def Immutables.get : ImmutableType → Address
  | .wormhole => d.wormhole
  | .usdc => d.usdc
  | .wrappedNative => d.wnative
  | .permit2 => d.permit2
  | .uniswapRouter => d.uniswapRouter
  | .traderJoeRouter => d.traderJoeRouter
  | .liquidityLayer => d.liquidityLayer

/-- `abi.encodePacked(uint48(fee))`: the cast is not checked. -/
def packUint48 (fee : ℕ) : Bytes := toBE 6 fee

/-- The swap of a relaying fee query: USDC comes without one. -/
def parseQuerySwap (outputTokenType : IoToken) (queries : Bytes) (offset : ℕ) : ℕ × ℕ × ℕ :=
  if outputTokenType ≠ .usdc then
    let (swapCount, offset) := asUint8Unchecked queries offset
    let (swapType, offset) := asUint8Unchecked queries offset
    (swapCount, swapType, offset)
  else (0, 0, offset)

/-- The answer to one query, and the offset behind it. -/
def answerQuery (query : QueryType) (queries : Bytes) (offset : ℕ) : Except Revert (Bytes × ℕ) :=
  match query with
  | .feeParams =>
    let (chainId, offset) := asUint16Unchecked queries offset
    .ok (toBE 32 (w.storage.feeParams chainId).toNat, offset)
  | .peer =>
    let (chainId, offset) := asUint16Unchecked queries offset
    .ok ((w.storage.peers chainId).toList, offset)
  | .relayingFee => do
    let (chainId, offset) := asUint16Unchecked queries offset
    let (gasDropoff, offset) := asUint32Unchecked queries offset
    let (outputTokenType, offset) ← parseIoToken queries offset
    let (swapCount, swapType, offset) := parseQuerySwap outputTokenType queries offset
    let fee ← calcRelayingFee (w.storage.feeParams chainId) chainId gasDropoff outputTokenType
      swapCount swapType
    return (packUint48 fee, offset)
  | .immutable => do
    let (immutableType_, offset) := asUint8Unchecked queries offset
    let immutableType ← ImmutableType.ofUint8 immutableType_
    return ((d.get immutableType).toList, offset)
  | .owner => .ok (w.storage.governance.owner.toList, offset)
  | .pendingOwner => .ok (w.storage.governance.pendingOwner.toList, offset)
  | .assistant => .ok (w.storage.governance.assistant.toList, offset)
  | .feeUpdater => .ok (w.storage.governance.feeUpdater.toList, offset)
  | .feeRecipient => .ok (w.storage.governance.feeRecipient.toList, offset)
  | .implementation => .ok (w.storage.implementation.toList, offset)

/-- The loop of `batchQueries`, and the check after it. -/
def queryLoop (queries : Bytes) : ℕ → ℕ → Bytes → Except Revert Bytes
  | 0, _, _ => .error .outOfGas
  | fuel + 1, offset, ret =>
    if offset < queries.length then do
      let (query_, offset) := asUint8Unchecked queries offset
      let query ← QueryType.ofUint8 query_
      let (answer, offset) ← answerQuery d w query queries offset
      queryLoop queries fuel offset (ret ++ answer)
    else do
      checkLength queries offset
      return ret

/-- `batchQueries`. -/
def batchQueries (queries : Bytes) : Except Revert Bytes :=
  queryLoop d w queries (queries.length + 1) 0 []

end Definitions

/-! ## Strings that are put together from queries -/

section Specs

variable {d : Immutables} {w : World} {ι : Type} {write : ι → Bytes} {answer : ι → Except Revert Bytes}

/-- A round of the loop reads just these bytes and gets this answer, wherever they stand. -/
structure AnsweredAs (d : Immutables) (w : World) (query : Bytes) (answer : Except Revert Bytes) :
    Prop where
  ne_nil : query ≠ []
  round : ∀ {queries : Bytes} {offset : ℕ}, Holds queries offset query →
    (QueryType.ofUint8 (readBE 1 queries offset) >>= fun q => answerQuery d w q queries (offset + 1)) =
      answer.map fun a => (a, offset + query.length)

/-! ## Single queries -/

/-- A query is a type and its parameters. -/
theorem answeredAs_append {id : ℕ} (hid : id < 256 ^ 1) {query : QueryType}
    (hquery : QueryType.ofUint8 id = .ok query) {params : Bytes} {answer : Except Revert Bytes}
    (hanswer : ∀ {queries offset}, Holds queries offset params →
      answerQuery d w query queries offset = answer.map fun a => (a, offset + params.length)) :
    AnsweredAs d w (toBE 1 id ++ params) answer where
  ne_nil := by simp [toBE]
  round h := by
    rw [h.left.readBE hid, hquery, except_ok_bind, hanswer (h.rest (length_toBE ..)),
      List.length_append, length_toBE, Nat.add_assoc]

/-- A query that is a type without parameters. -/
theorem answeredAs_role {id : ℕ} (hid : id < 256 ^ 1) {query : QueryType}
    (hquery : QueryType.ofUint8 id = .ok query) {value : Bytes}
    (hvalue : ∀ queries offset, answerQuery d w query queries offset = .ok (value, offset)) :
    AnsweredAs d w (toBE 1 id) (.ok value) := by
  have h : AnsweredAs d w (toBE 1 id ++ []) (.ok value) :=
    answeredAs_append hid hquery fun {queries offset} _ => hvalue queries offset
  rwa [List.append_nil] at h

/-- **A relaying fee query** is answered with the fee for what it reads. -/
theorem answerQuery_relayingFee {queries : Bytes} {offset chainId gasDropoff swapCount swapType o : ℕ}
    {outputTokenType : IoToken} (hchain : readBE 2 queries offset = chainId)
    (hdropoff : readBE 4 queries (offset + 2) = gasDropoff)
    (hkind : parseIoToken queries (offset + 2 + 4) = .ok (outputTokenType, offset + 2 + 4 + 1))
    (hswap : parseQuerySwap outputTokenType queries (offset + 2 + 4 + 1) = (swapCount, swapType, o)) :
    answerQuery d w .relayingFee queries offset =
      (calcRelayingFee (w.storage.feeParams chainId) chainId gasDropoff outputTokenType swapCount
        swapType).map fun fee => (packUint48 fee, o) := by
  show (parseIoToken queries (offset + 2 + 4) >>= fun t =>
    calcRelayingFee (w.storage.feeParams (readBE 2 queries offset)) (readBE 2 queries offset)
      (readBE 4 queries (offset + 2)) t.1 (parseQuerySwap t.1 queries t.2).1
      (parseQuerySwap t.1 queries t.2).2.1 >>= fun fee =>
        Except.ok (packUint48 fee, (parseQuerySwap t.1 queries t.2).2.2)) = _
  rw [hkind, except_ok_bind, hswap, hchain, hdropoff]
  cases calcRelayingFee (w.storage.feeParams chainId) chainId gasDropoff outputTokenType swapCount
    swapType <;> rfl

/-- **The answers of the single queries in a row**, or the first failure among them. The induction is
on the list; the fuel exceeds what is left of the string. -/
theorem queryLoop_gather (hanswered : ∀ i, AnsweredAs d w (write i) (answer i)) {queries : Bytes}
    (is : List ι) {fuel offset : ℕ} (ret : Bytes) (hfuel : queries.length < offset + fuel)
    (hends : Ends queries offset (is.flatMap write)) :
    queryLoop d w queries fuel offset ret = (gather answer is).map fun r => ret ++ r := by
  have hle := hends.1
  obtain ⟨fuel, rfl⟩ : ∃ n, fuel = n + 1 := ⟨fuel - 1, by omega⟩
  induction is generalizing fuel offset ret with
  | nil =>
    have hend : offset = queries.length := ends_nil.1 hends
    rw [queryLoop, if_neg (by omega), checkLength, ensure_pos hend.symm, gather]
    exact congrArg _ (List.append_nil ret).symm
  | cons i is ih =>
    rw [List.flatMap_cons] at hends
    have hlt : offset < queries.length :=
      hends.lt_iff.2 fun hnil => (hanswered i).ne_nil (List.append_eq_nil_iff.1 hnil).1
    have hloop : queryLoop d w queries (fuel + 1) offset ret =
        ((QueryType.ofUint8 (readBE 1 queries offset) >>= fun q =>
          answerQuery d w q queries (offset + 1)) >>= fun p =>
            queryLoop d w queries fuel p.2 (ret ++ p.1)) := by
      rw [queryLoop, if_pos hlt, bind_assoc]
      rfl
    rw [hloop, (hanswered i).round hends.head, gather]
    cases answer i with
    | error e => rfl
    | ok a =>
      have hrest : Ends queries (offset + (write i).length) (is.flatMap write) := hends.rest rfl
      have hpos : 0 < (write i).length := List.length_pos_iff.2 (hanswered i).ne_nil
      have hnext := hrest.1
      obtain ⟨fuel, rfl⟩ : ∃ n, fuel = n + 1 := ⟨fuel - 1, by omega⟩
      show queryLoop d w queries (fuel + 1) (offset + (write i).length) (ret ++ a) = _
      rw [ih (ret ++ a) hrest hnext fuel (by omega)]
      cases gather answer is with
      | error e => rfl
      | ok rest => exact congrArg _ (List.append_assoc ret a rest)

theorem batchQueries_gather (hanswered : ∀ i, AnsweredAs d w (write i) (answer i)) (is : List ι) :
    batchQueries d w (is.flatMap write) = gather answer is := by
  rw [batchQueries, queryLoop_gather hanswered is [] (by omega) (ends_self _)]
  cases gather answer is <;> rfl

end Specs

end SwapLayer.Evm
