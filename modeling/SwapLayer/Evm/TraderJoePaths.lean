import SwapLayer.Lib.Arrays
import SwapLayer.Evm.SwapPaths

/-!
# The paths of the TraderJoe router

The router takes a path apart: tokens, versions and bin steps in an array each. `_traderJoeSwap`
(`evm/src/assets/SwapLayerTraderJoe.sol:56-70`) allocates the arrays by a number of pools that it divides
out of the length of the packed path, in unchecked arithmetic, and fills them in one pass over the bytes
that does not look at the length any more.

`Evm/Swap.lean` has the outcome as a list of hops. This file has the code: `filledTjPath`, with arrays
whose writes are checked, and `fillRounds`, which stops after some rounds of the loop.

Results:
* `filledTjPath_eq`: no write fails, and the arrays are those of `traderJoePath`.
* `packed_traderJoePath`: tokens, versions and bin steps in turn are the packed path.
* `decomposes`: for a path of `n` pools, both, the sizes of the arrays, and every read in range.
* `traderJoePath_full`: what the router gets for a list of hops.
-/

namespace SwapLayer.Evm

open ByteString Program Arrays

/-! ## The code -/

/-- Panic code of an allocation that is too large. -/
def PANIC_ALLOCATION : ℕ := 0x41

/-- `new T[](length)`. -/
def newArray {α : Type} (zero : α) (length : ℕ) : Except Revert (List α) :=
  if length < 2 ^ 64 then .ok (List.replicate length zero) else .error (.panic PANIC_ALLOCATION)

/-- `array[i] = a`. -/
def setEntry {α : Type} (array : List α) (i : ℕ) (a : α) : Except Revert (List α) :=
  store (.panic PANIC_INDEX) array i a

/-- The variables of the loop. -/
structure FillState where
  tjPath : TraderJoePath
  offset : ℕ

/-- The body of the loop. -/
def fillRound (path : Bytes) (i : ℕ) (s : FillState) : Except Revert FillState := do
  let (token, offset) := asAddressUnchecked path s.offset
  let tokenPath ← setEntry s.tjPath.tokenPath i token
  let (version, offset) := asUint8Unchecked path offset
  let versions ← setEntry s.tjPath.versions i version
  let (pairBinStep, offset) := asUint16Unchecked path offset
  let pairBinSteps ← setEntry s.tjPath.pairBinSteps i pairBinStep
  return ⟨⟨pairBinSteps, versions, tokenPath⟩, offset⟩

/-- The allocation of the arrays, and so many rounds of the loop. -/
def fillRounds (path : Bytes) (pathLength rounds : ℕ) : Except Revert FillState := do
  let pairBinSteps ← newArray 0 pathLength
  let versions ← newArray 0 pathLength
  let tokenPath ← newArray zeroAddress (wrap (pathLength + 1))
  forLoop (fillRound path) rounds ⟨⟨pairBinSteps, versions, tokenPath⟩, 0⟩

/-- `tjPath` as `_traderJoeSwap` fills it: the loop over the pools, and the last token. -/
def filledTjPath (path : Bytes) : Except Revert TraderJoePath := do
  let pathLength := traderJoePathLength path
  let s ← fillRounds path pathLength pathLength
  let tokenPath ← setEntry s.tjPath.tokenPath pathLength (asAddressUnchecked path s.offset).1
  return ⟨s.tjPath.pairBinSteps, s.tjPath.versions, tokenPath⟩

/-! ## What the loop writes -/

section Loop

variable (path : Bytes)

/-- The token in front of the `i`-th pool, or behind the last one. -/
def tokenAt (i : ℕ) : Address := sliceFixed 20 path (23 * i)

def versionAt (i : ℕ) : ℕ := readBE 1 path (23 * i + 20)

def binStepAt (i : ℕ) : ℕ := readBE 2 path (23 * i + 21)

/-- The arrays of `n` pools after `i` rounds. -/
def stateAfter (n i : ℕ) : FillState :=
  ⟨⟨filledUpTo 0 (binStepAt path) n i, filledUpTo 0 (versionAt path) n i,
    filledUpTo zeroAddress (tokenAt path) (n + 1) i⟩, 23 * i⟩

variable {path} {n i : ℕ}

/-- **One round** writes the next entry of each array. -/
theorem fillRound_stateAfter (h : i < n) :
    fillRound path i (stateAfter path n i) = .ok (stateAfter path n (i + 1)) := by
  have htokens : setEntry (filledUpTo zeroAddress (tokenAt path) (n + 1) i) i (tokenAt path i) =
      .ok (filledUpTo zeroAddress (tokenAt path) (n + 1) (i + 1)) := store_filledUpTo _ (by omega)
  have hversions : setEntry (filledUpTo 0 (versionAt path) n i) i (versionAt path i) =
      .ok (filledUpTo 0 (versionAt path) n (i + 1)) := store_filledUpTo _ h
  have hpools : setEntry (filledUpTo 0 (binStepAt path) n i) i (binStepAt path i) =
      .ok (filledUpTo 0 (binStepAt path) n (i + 1)) := store_filledUpTo _ h
  exact except_bind_ok.2
    ⟨_, htokens, except_bind_ok.2 ⟨_, hversions, except_bind_ok.2 ⟨_, hpools, rfl⟩⟩⟩

/-- The loop, stopped anywhere. -/
theorem fillRounds_eq (hsize : n + 1 < 2 ^ 64) (h : i ≤ n) :
    fillRounds path n i = .ok (stateAfter path n i) := by
  have hnew {α : Type} (zero : α) (k : ℕ) (hk : k ≤ n + 1) :
      newArray zero k = .ok (List.replicate k zero) := if_pos (Nat.lt_of_le_of_lt hk hsize)
  have hwrap : wrap (n + 1) = n + 1 := wrap_of_lt (Nat.lt_trans hsize (by decide))
  obtain ⟨t, hloop, rfl⟩ := forLoop_ok (I := fun i s => s = stateAfter path n i) rfl
    (fun j hj s hs => ⟨_, hs ▸ fillRound_stateAfter (Nat.lt_of_lt_of_le hj h), rfl⟩)
  rw [fillRounds, hnew 0 n (Nat.le_succ n), hwrap, hnew zeroAddress (n + 1) (Nat.le_refl _)]
  exact hloop

/-- The arrays of the model, entry by entry. -/
theorem traderJoePath_eq (path : Bytes) : traderJoePath path =
    ⟨(List.range (traderJoePathLength path)).map (binStepAt path),
      (List.range (traderJoePathLength path)).map (versionAt path),
      (List.range (traderJoePathLength path + 1)).map (tokenAt path)⟩ := by
  simp only [traderJoePath, traderJoeHops_eq, Nat.zero_add, List.map_map, List.range_succ,
    List.map_append]
  rfl

/-- **The code fills the arrays of the model**, and no write is out of range. -/
theorem filledTjPath_eq (hsize : traderJoePathLength path + 1 < 2 ^ 64) :
    filledTjPath path = .ok (traderJoePath path) := by
  rw [filledTjPath, traderJoePath_eq]
  generalize traderJoePathLength path = n at hsize ⊢
  have hlast : setEntry (filledUpTo zeroAddress (tokenAt path) (n + 1) n) n (tokenAt path n) =
      .ok (filledUpTo zeroAddress (tokenAt path) (n + 1) (n + 1)) := store_filledUpTo _ (Nat.lt_succ_self n)
  refine except_bind_ok.2 ⟨_, fillRounds_eq hsize (Nat.le_refl n), except_bind_ok.2 ⟨_, hlast, ?_⟩⟩
  simp only [stateAfter, filledUpTo_end]
  rfl

end Loop

/-! ## The packed path -/

/-- The arrays in turn: a token, and the version and the bin step of the pool behind it; the last token
at the end. -/
def TraderJoePath.packed (p : TraderJoePath) : Bytes :=
  ((List.range p.pairBinSteps.length).flatMap fun i => (p.tokenPath.getD i zeroAddress).toList ++
      (toBE 1 (p.versions.getD i 0) ++ toBE 2 (p.pairBinSteps.getD i 0))) ++
    (p.tokenPath.getD p.pairBinSteps.length zeroAddress).toList

section Packed

variable {path : Bytes} {n : ℕ}

/-- **Nothing is lost**: the arrays in turn are the path. -/
theorem packed_traderJoePath (hlength : path.length = 20 + 23 * n) (hlt : path.length < 2 ^ 256) :
    (traderJoePath path).packed = path := by
  have hpool (i : ℕ) (hi : i < n) :
      (((List.range (n + 1)).map (tokenAt path)).getD i zeroAddress).toList ++
        (toBE 1 (((List.range n).map (versionAt path)).getD i 0) ++
          toBE 2 (((List.range n).map (binStepAt path)).getD i 0)) = slice path (0 + i * 23) 23 := by
    rw [getD_map_range _ (Nat.lt_succ_of_lt hi), getD_map_range _ hi, getD_map_range _ hi, versionAt,
      binStepAt, toBE_readBE, toBE_readBE, ← slice_add path (23 * i + 20) 1 2, tokenAt]
    show slice path (23 * i) 20 ++ slice path (23 * i + 20) 3 = _
    rw [← slice_add, Nat.zero_add, Nat.mul_comm]
  rw [traderJoePath_eq, traderJoePathLength_eq hlength hlt]
  calc TraderJoePath.packed _ =
        ((List.range n).flatMap fun i => slice path (0 + i * 23) 23) ++ slice path (n * 23) 20 := by
        rw [TraderJoePath.packed, List.length_map, List.length_range,
          getD_map_range _ (Nat.lt_succ_self n), tokenAt, Nat.mul_comm 23 n]
        exact congrArg (· ++ _) (List.flatMap_congr fun i hi => hpool i (List.mem_range.1 hi))
    _ = slice path 0 path.length := by
        rw [← slice_mul, hlength, Nat.add_comm 20, Nat.mul_comm 23 n, slice_add path 0, Nat.zero_add]
    _ = path := slice_self path

/-- How the loop takes a path of `n` pools apart. No allocation and no write fails; wherever it is
stopped, the pools to come and the last token are what is left of the path, so that no read goes past
its end; and from the arrays the path can be put together again. -/
structure Decomposes (path : Bytes) (n : ℕ) (p : TraderJoePath) : Prop where
  fills : filledTjPath path = .ok p
  pools : p.pairBinSteps.length = n
  versions : p.versions.length = n
  tokens : p.tokenPath.length = n + 1
  reads : ∀ i ≤ n, ∃ s, fillRounds path n i = .ok s ∧
    s.offset + ((n - i) * SHARED_PATH_ELEMENT_SIZE + ADDRESS_SIZE) = path.length
  packed : p.packed = path

theorem decomposes (hlength : path.length = 20 + 23 * n) (hlt : path.length < 2 ^ 64) :
    Decomposes path n (traderJoePath path) := by
  have hn := traderJoePathLength_eq hlength (Nat.lt_trans hlt (by decide))
  have heq := traderJoePath_eq path
  rw [hn] at heq
  refine ⟨filledTjPath_eq (by rw [hn]; omega), ?_, ?_, ?_, fun i hi =>
    ⟨_, fillRounds_eq (by omega) hi, ?_⟩, packed_traderJoePath hlength (Nat.lt_trans hlt (by decide))⟩
  · rw [heq, List.length_map, List.length_range]
  · rw [heq, List.length_map, List.length_range]
  · rw [heq, List.length_map, List.length_range]
  · show 23 * i + ((n - i) * 23 + 20) = path.length
    omega

end Packed

/-- **Parsed paths** are taken apart into as many pools as the parameters say. -/
theorem decomposes_parsed {inputToken outputToken : Address} {params : Bytes} {offset : ℕ}
    (h : IsEvmSwapType (parseEvmSwapParams inputToken outputToken params offset).1.swapType) :
    Decomposes (parseEvmSwapParams inputToken outputToken params offset).1.path
      (pathLengthAt params offset + 1)
      (traderJoePath (parseEvmSwapParams inputToken outputToken params offset).1.path) := by
  obtain ⟨l, hswaps, hpath⟩ := HopList.exists_parsed h
  have hlt : pathLengthAt params offset < 256 := readBE_lt 1 params (offset + 24)
  have hlength := l.length_full inputToken outputToken
  rw [← hpath, Nat.succ.inj hswaps] at hlength
  unfold SHARED_PATH_ELEMENT_SIZE ADDRESS_SIZE SHARED_POOL_ID_SIZE at hlength
  exact decomposes (by omega) (by omega)

/-! ## Lists of hops -/

namespace HopList

variable (l : HopList) (fromToken toToken : Address)

/-- The first byte of a pool id. -/
def poolVersion (pool : Fixed 3) : ℕ := readBE 1 pool.toList 0

/-- The other two. -/
def poolBinStep (pool : Fixed 3) : ℕ := readBE 2 pool.toList 1

/-- A hop where it stands in a path: its token and the two parts of its pool. -/
theorem traderJoeHops_holds {path : Bytes} : ∀ (hops : List (Address × Fixed 3)) (offset : ℕ),
    Holds path offset (hops.flatMap writeHop) → traderJoeHops path hops.length offset =
      (hops.map fun hop => (hop.1, poolVersion hop.2, poolBinStep hop.2), offset + 23 * hops.length)
  | [], _, _ => rfl
  | hop :: hops, offset, h => by
    rw [List.flatMap_cons] at h
    have hrest := traderJoeHops_holds hops (offset + 23) (h.rest (length_writeHop hop))
    have htoken : sliceFixed 20 path offset = hop.1 := h.left.left.sliceFixed
    have hpool : Holds path (offset + 20) hop.2.toList := h.left.rest hop.1.toList_length
    have hversion : readBE 1 path (offset + 20) = poolVersion hop.2 :=
      hpool.readBE_inner (k := 0) (n := 1) (by rw [hop.2.toList_length]; decide)
    have hbinStep : readBE 2 path (offset + 21) = poolBinStep hop.2 :=
      hpool.readBE_inner (k := 1) (n := 2) (by rw [hop.2.toList_length])
    show ((sliceFixed 20 path offset, readBE 1 path (offset + 20), readBE 2 path (offset + 21)) ::
      (traderJoeHops path hops.length (offset + 23)).1,
      (traderJoeHops path hops.length (offset + 23)).2) = _
    rw [hrest, htoken, hversion, hbinStep, List.map_cons, List.length_cons]
    refine Prod.ext rfl ?_
    show offset + 23 + 23 * hops.length = offset + 23 * (hops.length + 1)
    omega

/-- The pools of a path. -/
def pools : List (Fixed 3) := l.firstPool :: l.hops.map Prod.snd

/-- **What the router gets for a list of hops**: the tokens between the ends, and the two parts of each
pool. -/
theorem traderJoePath_full (h : (l.full fromToken toToken).length < 2 ^ 256) :
    traderJoePath (l.full fromToken toToken) =
      ⟨l.pools.map poolBinStep, l.pools.map poolVersion,
        fromToken :: (l.hops.map Prod.fst ++ [toToken])⟩ := by
  -- every pool with the token in front of it, the first one included
  have hfull : l.full fromToken toToken =
      ((fromToken, l.firstPool) :: l.hops).flatMap writeHop ++ toToken.toList := by
    simp only [full, stripped, List.flatMap_cons, writeHop, List.append_assoc]
  have hlength := l.length_full fromToken toToken
  have hcount : traderJoePathLength (l.full fromToken toToken) =
      ((fromToken, l.firstPool) :: l.hops).length := by
    refine traderJoePathLength_eq ?_ h
    rw [hlength, List.length_cons]
    unfold SHARED_PATH_ELEMENT_SIZE ADDRESS_SIZE SHARED_POOL_ID_SIZE
    omega
  have hholds : Holds (l.full fromToken toToken) 0
      (((fromToken, l.firstPool) :: l.hops).flatMap writeHop ++ toToken.toList) :=
    hfull ▸ holds_self _
  have hlast : sliceFixed 20 (l.full fromToken toToken) (0 + 23 * (l.hops.length + 1)) = toToken := by
    refine (hholds.rest ?_).sliceFixed
    rw [length_flatMap_const length_writeHop, List.length_cons, Nat.mul_comm]
    rfl
  rw [traderJoePath, hcount, traderJoeHops_holds _ _ hholds.left]
  simp only [List.length_cons, asAddressUnchecked, hlast, List.map_cons, List.map_map, pools]
  rfl

/-- Two pools: version 3 with bin step 20, and version 2 with 25. -/
example : filledTjPath (full ⟨⟨[3, 0, 20], rfl⟩, [(Sample.usdc, ⟨[2, 0, 25], rfl⟩)]⟩ Sample.wnative
      Sample.recipient) =
    .ok ⟨[20, 25], [3, 2], [Sample.wnative, Sample.usdc, Sample.recipient]⟩ := by decide +kernel

end HopList

end SwapLayer.Evm
