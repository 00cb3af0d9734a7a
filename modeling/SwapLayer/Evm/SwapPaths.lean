import SwapLayer.Evm.IntegrationBase
import SwapLayer.Evm.Swap

/-!
# Swap paths as lists of hops

A path is a string of tokens and pool ids in turn. `HopList` is what it stands for: a first pool and
behind it the further hops, each a token and the pool that swaps it on. `full` writes the tokens at
both ends as well, `stripped` leaves them out. Two programs take paths apart without looking at
more than their length:

* `_fullPathStripOffset` of the integrator library tells the two forms apart by the length modulo
  23, in unchecked arithmetic.
* The do-while loop of `_uniswapSwap` walks a path from its end to offset zero, in steps of 3 and 20,
  and subtracts unchecked. `InvertState` holds the variables of the loop, `InvertState.round` is its
  body.

Results:
* `Integration.encodeSwapParams_paths`: both forms are encoded alike, the contract reads the encoding
  back, and nothing else is encoded.
* `HopList.invertPath_full`: the loop ends after two rounds a swap, at offset zero, without an
  underflow; it reverses the path, and twice it restores it.
-/

namespace SwapLayer.Evm

open ByteString Program

/-- A pool, and the hops behind it: a token, and the pool that swaps it on. -/
structure HopList where
  firstPool : Fixed 3
  hops : List (Address × Fixed 3)
  deriving DecidableEq

namespace HopList

variable (l : HopList) (fromToken toToken : Address)

/-- The number of swaps. -/
def swaps : ℕ := l.hops.length + 1

def writeHop (hop : Address × Fixed 3) : Bytes := hop.1.toList ++ hop.2.toList

/-- The path without its first and last token. -/
def stripped : Bytes := l.firstPool.toList ++ l.hops.flatMap writeHop

/-- The path from token to token. -/
def full : Bytes := fromToken.toList ++ (l.stripped ++ toToken.toList)

theorem length_writeHop (hop : Address × Fixed 3) :
    (writeHop hop).length = SHARED_PATH_ELEMENT_SIZE := by
  rw [writeHop, List.length_append, List.Vector.toList_length, List.Vector.toList_length]
  rfl

theorem length_stripped :
    l.stripped.length = SHARED_POOL_ID_SIZE + l.hops.length * SHARED_PATH_ELEMENT_SIZE := by
  rw [stripped, List.length_append, List.Vector.toList_length, length_flatMap_const length_writeHop]
  rfl

theorem length_full : (l.full fromToken toToken).length =
    2 * ADDRESS_SIZE + (SHARED_POOL_ID_SIZE + l.hops.length * SHARED_PATH_ELEMENT_SIZE) := by
  rw [full, List.length_append, List.length_append, length_stripped, List.Vector.toList_length,
    List.Vector.toList_length]
  unfold ADDRESS_SIZE
  omega

theorem stripped_mod : l.stripped.length % SHARED_PATH_ELEMENT_SIZE = SHARED_POOL_ID_SIZE := by
  rw [length_stripped, Nat.add_mul_mod_self_right]
  rfl

/-- The two forms leave different remainders. -/
theorem full_mod :
    (l.full fromToken toToken).length % SHARED_PATH_ELEMENT_SIZE = ADDRESS_SIZE := by
  rw [length_full]
  unfold SHARED_PATH_ELEMENT_SIZE ADDRESS_SIZE SHARED_POOL_ID_SIZE
  omega

/-- Every string of the right length is a stripped path. -/
theorem exists_stripped {path : Bytes} {k : ℕ}
    (h : path.length = SHARED_POOL_ID_SIZE + k * SHARED_PATH_ELEMENT_SIZE) :
    ∃ l : HopList, l.hops.length = k ∧ l.stripped = path := by
  refine ⟨⟨sliceFixed 3 path 0, (List.range k).map fun i =>
    (sliceFixed 20 path (3 + i * SHARED_PATH_ELEMENT_SIZE),
      sliceFixed 3 path (3 + i * SHARED_PATH_ELEMENT_SIZE + 20))⟩, by simp, ?_⟩
  have hhop (i : ℕ) : writeHop (sliceFixed 20 path (3 + i * SHARED_PATH_ELEMENT_SIZE),
      sliceFixed 3 path (3 + i * SHARED_PATH_ELEMENT_SIZE + 20)) =
      slice path (3 + i * SHARED_PATH_ELEMENT_SIZE) SHARED_PATH_ELEMENT_SIZE :=
    (slice_add path _ 20 3).symm
  calc stripped _ = slice path 0 3 ++ slice path 3 (k * SHARED_PATH_ELEMENT_SIZE) := by
        rw [stripped, List.flatMap_map, slice_mul]
        simp only [hhop]
        rfl
    _ = slice path 0 path.length := by
        rw [h, slice_add path 0, Nat.zero_add]
        rfl
    _ = path := slice_self path

/-- Every string of the right length is a full path. -/
theorem exists_full {path : Bytes} {k : ℕ}
    (h : path.length = 2 * ADDRESS_SIZE + (SHARED_POOL_ID_SIZE + k * SHARED_PATH_ELEMENT_SIZE)) :
    ∃ l : HopList, l.hops.length = k ∧
      l.full (sliceFixed 20 path 0) (sliceFixed 20 path (path.length - ADDRESS_SIZE)) = path := by
  have hmiddle := length_slice path ADDRESS_SIZE
    (SHARED_POOL_ID_SIZE + k * SHARED_PATH_ELEMENT_SIZE)
  obtain ⟨l, hk, hl⟩ := exists_stripped hmiddle
  have hlast : path.length - ADDRESS_SIZE =
      ADDRESS_SIZE + (SHARED_POOL_ID_SIZE + k * SHARED_PATH_ELEMENT_SIZE) := by omega
  have hsum : path.length =
      ADDRESS_SIZE + ((SHARED_POOL_ID_SIZE + k * SHARED_PATH_ELEMENT_SIZE) + ADDRESS_SIZE) := by
    omega
  refine ⟨l, hk, ?_⟩
  calc l.full _ _ = slice path 0 ADDRESS_SIZE ++
        (slice path ADDRESS_SIZE (SHARED_POOL_ID_SIZE + k * SHARED_PATH_ELEMENT_SIZE) ++
          slice path (path.length - ADDRESS_SIZE) ADDRESS_SIZE) := by
        rw [full, hl]
        rfl
    _ = slice path 0 path.length := by
        rw [hlast, ← slice_add, hsum, slice_add path 0 ADDRESS_SIZE, Nat.zero_add]
    _ = path := slice_self path

/-- **The paths that `parseEvmSwapParams` builds** are full paths, of as many swaps as the parameters
say. -/
theorem exists_parsed {inputToken outputToken : Address} {params : Bytes} {offset : ℕ}
    (h : IsEvmSwapType (parseEvmSwapParams inputToken outputToken params offset).1.swapType) :
    ∃ l : HopList, l.swaps = pathLengthAt params offset + 1 ∧
      (parseEvmSwapParams inputToken outputToken params offset).1.path =
        l.full inputToken outputToken := by
  have hevm : IsEvmSwapType (swapTypeAt params offset) := by
    by_contra hevm
    rw [parseEvmSwapParams_of_not_evm _ _ hevm] at h
    exact not_isEvmSwapType_invalid h
  have hlen : (slice params (offset + 21) 3 ++ slice params (offset + 25)
      (pathLengthAt params offset * SHARED_PATH_ELEMENT_SIZE)).length =
      SHARED_POOL_ID_SIZE + pathLengthAt params offset * SHARED_PATH_ELEMENT_SIZE := by
    rw [List.length_append, length_slice, length_slice]
    rfl
  obtain ⟨l, hk, hl⟩ := exists_stripped hlen
  refine ⟨l, congrArg (· + 1) hk, ?_⟩
  rw [parseEvmSwapParams_of_evm _ _ hevm, full, hl]
  simp only [evmPath, List.append_assoc]

/-! ## The other way round -/

/-- One hop more in front of a path that runs the other way: its pool comes first. -/
def turnHop (turned : HopList) (hop : Address × Fixed 3) : HopList :=
  ⟨hop.2, (hop.1, turned.firstPool) :: turned.hops⟩

/-- The same pools and tokens in reverse order. -/
def reverse : HopList := l.hops.foldl turnHop ⟨l.firstPool, []⟩

def hopSegments (hop : Address × Fixed 3) : List Bytes := [hop.1.toList, hop.2.toList]

/-- The pieces of a path, from token to token. -/
def segments : List Bytes :=
  fromToken.toList :: (l.firstPool.toList :: (l.hops.flatMap hopSegments ++ [toToken.toList]))

theorem flatten_segments : (l.segments fromToken toToken).flatten = l.full fromToken toToken := by
  have hhops (hops : List (Address × Fixed 3)) :
      (hops.flatMap hopSegments).flatten = hops.flatMap writeHop := by
    induction hops with
    | nil => rfl
    | cons hop hops ih =>
      rw [List.flatMap_cons, List.flatten_append, ih]
      simp [hopSegments, writeHop]
  simp only [segments, List.flatten_cons, List.flatten_append, hhops, List.flatten_nil,
    List.append_nil, full, stripped, List.append_assoc]

theorem length_segments : (l.segments fromToken toToken).length = 2 * l.swaps + 1 := by
  have hhops (hops : List (Address × Fixed 3)) :
      (hops.flatMap hopSegments).length = 2 * hops.length := by
    induction hops with
    | nil => rfl
    | cons hop hops ih =>
      rw [List.flatMap_cons, List.length_append, ih, List.length_cons]
      simp only [hopSegments, List.length_cons, List.length_nil]
      omega
  simp only [segments, List.length_cons, List.length_append, hhops, List.length_nil, swaps]
  omega

/-- A token, and a path turned so far: turning one hop more puts its token and pool in front. -/
theorem segments_foldl (hops : List (Address × Fixed 3)) (turned : HopList) :
    (hops.foldl turnHop turned).segments toToken fromToken =
      toToken.toList :: ((hops.flatMap hopSegments).reverse ++
        (turned.firstPool.toList :: (turned.hops.flatMap hopSegments ++ [fromToken.toList]))) := by
  induction hops generalizing turned with
  | nil => rfl
  | cons hop hops ih =>
    rw [List.foldl_cons, ih]
    simp [turnHop, hopSegments]

/-- **Reversing the hops reverses the pieces.** -/
theorem segments_reverse :
    l.reverse.segments toToken fromToken = (l.segments fromToken toToken).reverse := by
  rw [reverse, segments_foldl]
  simp [segments]

theorem swaps_reverse : l.reverse.swaps = l.swaps := by
  have h := congrArg List.length (segments_reverse l zeroAddress zeroAddress)
  rw [List.length_reverse, length_segments, length_segments] at h
  omega

/-- The pieces determine the hops. -/
theorem segments_injective {l m : HopList}
    (h : l.segments fromToken toToken = m.segments fromToken toToken) : l = m := by
  have hhops : ∀ hops hops' : List (Address × Fixed 3),
      hops.flatMap hopSegments ++ [toToken.toList] =
        hops'.flatMap hopSegments ++ [toToken.toList] → hops = hops' := by
    intro hops hops' h
    have h' := List.append_cancel_right h
    clear h
    induction hops generalizing hops' with
    | nil =>
      cases hops' with
      | nil => rfl
      | cons hop hops' => simp [hopSegments] at h'
    | cons hop hops ih =>
      cases hops' with
      | nil => simp [hopSegments] at h'
      | cons hop' hops' =>
        simp only [List.flatMap_cons, hopSegments, List.cons_append, List.nil_append,
          List.cons.injEq] at h'
        rw [ih hops' h'.2.2, Prod.ext (Subtype.ext h'.1) (Subtype.ext h'.2.1)]
  obtain ⟨pool, hops⟩ := l
  obtain ⟨pool', hops'⟩ := m
  simp only [segments, List.cons.injEq, true_and] at h
  rw [Subtype.ext h.1, hhops hops hops' h.2]

theorem reverse_reverse : l.reverse.reverse = l := by
  apply segments_injective zeroAddress zeroAddress
  rw [segments_reverse, segments_reverse, List.reverse_reverse]

end HopList

/-! ## The loop that inverts a path -/

/-- The variables of the do-while loop. -/
structure InvertState where
  size : ℕ
  offset : ℕ
  inverted : Bytes

namespace InvertState

/-- `size == 20 ? 3 : 20`. -/
def nextSize (s : InvertState) : ℕ := if s.size = 20 then 3 else 20

/-- Before the loop, the last token has been copied. -/
def start (path : Bytes) : InvertState :=
  ⟨20, uncheckedSub path.length 20, slice path (uncheckedSub path.length 20) 20⟩

/-- The body of the loop. -/
def round (path : Bytes) (s : InvertState) : InvertState :=
  ⟨s.nextSize, uncheckedSub s.offset s.nextSize,
    s.inverted ++ slice path (uncheckedSub s.offset s.nextSize) s.nextSize⟩

/-- The loop is left after `n` rounds: at offset zero, which it does not reach before, and without an
underflow on the way. -/
structure Ends (path : Bytes) (s : InvertState) (n : ℕ) : Prop where
  positive : 0 < n
  fits : ∀ k < n, ((round path)^[k] s).nextSize ≤ ((round path)^[k] s).offset
  goesOn : ∀ k < n, ((round path)^[k] s).offset ≠ 0
  stops : ((round path)^[n] s).offset = 0

variable {path : Bytes} {s : InvertState} {n : ℕ}

/-- `invertPathLoop` runs the rounds until it is left. -/
theorem Ends.loop (h : Ends path s n) {fuel : ℕ} (hfuel : n ≤ fuel) :
    invertPathLoop path fuel s.size s.offset s.inverted = .ok ((round path)^[n] s).inverted := by
  induction n generalizing s fuel with
  | zero => exact absurd h.positive (Nat.lt_irrefl 0)
  | succ n ih =>
    obtain ⟨fuel, rfl⟩ : ∃ fuel', fuel = fuel' + 1 := ⟨fuel - 1, by omega⟩
    by_cases hn : n = 0
    · subst hn
      have hstop : (round path s).offset = 0 := h.stops
      have hloop : ¬uncheckedSub s.offset s.nextSize ≠ 0 := fun hne => hne hstop
      simp only [invertPathLoop]
      exact if_neg hloop
    · have hgo : uncheckedSub s.offset s.nextSize ≠ 0 := h.goesOn 1 (by omega)
      have hrest : Ends path (round path s) n :=
        ⟨by omega, fun k hk => h.fits (k + 1) (by omega), fun k hk => h.goesOn (k + 1) (by omega),
          h.stops⟩
      simp only [invertPathLoop]
      exact (if_pos hgo).trans (ih hrest (by omega))

/-- The pieces in front of the loop, last one first: their sizes alternate. -/
def Alternates : ℕ → List Bytes → Prop
  | _, [] => True
  | size, piece :: rest =>
    piece.length = (if size = 20 then 3 else 20) ∧ Alternates (if size = 20 then 3 else 20) rest

/-- **The rounds of the loop.** If the pieces in front of it alternate, it takes them one by one; by
induction on the pieces, whose total length is the offset. -/
theorem rounds : ∀ (pieces : List Bytes) (s : InvertState) (behind : Bytes),
    path = pieces.reverse.flatten ++ behind → path.length < 2 ^ 256 →
    s.offset = pieces.reverse.flatten.length → Alternates s.size pieces →
    ((round path)^[pieces.length] s).offset = 0 ∧
      ((round path)^[pieces.length] s).inverted = s.inverted ++ pieces.flatten ∧
      ∀ k < pieces.length, ((round path)^[k] s).nextSize ≤ ((round path)^[k] s).offset ∧
        ((round path)^[k] s).offset ≠ 0
  | [], s, _, _, _, hoffset, _ => ⟨hoffset, (List.append_nil _).symm, fun k hk => absurd hk k.not_lt_zero⟩
  | piece :: rest, s, behind, hpath, hlt, hoffset, halt => by
    obtain ⟨hsize, hrest⟩ := halt
    have hsize : piece.length = s.nextSize := hsize
    have hpos : 0 < s.nextSize := by
      unfold nextSize
      split <;> decide
    rw [List.reverse_cons, List.flatten_append, List.flatten_singleton, List.length_append] at hoffset
    have hpath : path = rest.reverse.flatten ++ (piece ++ behind) := by
      simp [hpath]
    have hsub : uncheckedSub s.offset s.nextSize = rest.reverse.flatten.length := by
      have hle : path.length = rest.reverse.flatten.length + (piece.length + behind.length) := by
        simp [hpath]
      rw [uncheckedSub_of_le (by omega) (by omega)]
      omega
    have hslice : slice path (uncheckedSub s.offset s.nextSize) s.nextSize = piece := by
      rw [hsub, ← hsize, hpath]
      exact slice_middle _ _ _
    obtain ⟨hzero, hinverted, hrounds⟩ :=
      rounds rest (round path s) (piece ++ behind) hpath hlt hsub hrest
    refine ⟨hzero, hinverted.trans ?_, fun k hk => ?_⟩
    · rw [round, hslice, List.flatten_cons, List.append_assoc]
    · cases k with
      | zero =>
        rw [Function.iterate_zero_apply]
        omega
      | succ k => exact hrounds k (Nat.lt_of_succ_lt_succ hk)

end InvertState

namespace HopList

open InvertState

variable (l : HopList) (fromToken toToken : Address)

/-- Behind a token the pieces of a path alternate. -/
theorem alternates_segments :
    Alternates 20 ((l.segments fromToken toToken).tail) := by
  have hhops (hops : List (Address × Fixed 3)) :
      Alternates 3 (hops.flatMap hopSegments ++ [toToken.toList]) := by
    induction hops with
    | nil => exact ⟨toToken.toList_length, trivial⟩
    | cons hop hops ih => exact ⟨hop.1.toList_length, hop.2.toList_length, ih⟩
  exact ⟨l.firstPool.toList_length, hhops l.hops⟩

/-- **The loop over a full path** takes two rounds a swap and reverses the pieces. -/
theorem ends_full (h : (l.full fromToken toToken).length < 2 ^ 256) :
    Ends (l.full fromToken toToken) (start (l.full fromToken toToken)) (2 * l.swaps) ∧
      ((round (l.full fromToken toToken))^[2 * l.swaps] (start (l.full fromToken toToken))).inverted =
        l.reverse.full toToken fromToken := by
  -- the pieces from the end of the path: those of the path the other way round
  have hreverse : l.reverse.segments toToken fromToken =
      toToken.toList :: (l.reverse.segments toToken fromToken).tail := rfl
  have hpieces := segments_reverse l fromToken toToken
  have hcount : (l.reverse.segments toToken fromToken).tail.length = 2 * l.swaps := by
    rw [List.length_tail, length_segments, swaps_reverse]
    omega
  generalize hrest : (l.reverse.segments toToken fromToken).tail = rest at *
  have hpath : l.full fromToken toToken = rest.reverse.flatten ++ toToken.toList := by
    rw [← flatten_segments, ← List.reverse_reverse (l.segments fromToken toToken), ← hpieces, hreverse]
    simp
  have hlen : (l.full fromToken toToken).length = rest.reverse.flatten.length + 20 := by
    rw [hpath, List.length_append, toToken.toList_length]
  have hsub : uncheckedSub (l.full fromToken toToken).length 20 = rest.reverse.flatten.length := by
    rw [uncheckedSub_of_le (by omega) (by omega)]
    omega
  have hlast : slice (l.full fromToken toToken) rest.reverse.flatten.length 20 = toToken.toList := by
    have := slice_middle rest.reverse.flatten toToken.toList []
    rwa [List.append_nil, ← hpath, toToken.toList_length] at this
  obtain ⟨hzero, hinverted, hrounds⟩ := rounds rest (start (l.full fromToken toToken)) toToken.toList
    hpath h hsub (hrest ▸ l.reverse.alternates_segments toToken fromToken)
  rw [hcount] at hzero hinverted hrounds
  refine ⟨⟨Nat.mul_pos (by decide) l.hops.length.succ_pos, fun k hk => (hrounds k hk).1,
    fun k hk => (hrounds k hk).2, hzero⟩, ?_⟩
  rw [hinverted, start, hsub, hlast, ← flatten_segments, hreverse, List.flatten_cons]

/-- **Inverting a path reverses it**, if it is not longer than a `bytes` can be. The loop runs two
rounds a swap and stops at offset zero, which it does not pass or reach before; what it copied are
the same tokens and pools in reverse order, and inverting these restores the path. Every path that
is parsed is such a path. -/
theorem invertPath_full :
    (∀ (l : HopList) (fromToken toToken : Address), (l.full fromToken toToken).length < 2 ^ 256 →
      20 ≤ (l.full fromToken toToken).length ∧
      Ends (l.full fromToken toToken) (start (l.full fromToken toToken)) (2 * l.swaps) ∧
      invertPath (l.full fromToken toToken) = .ok (l.reverse.full toToken fromToken) ∧
      l.reverse.segments toToken fromToken = (l.segments fromToken toToken).reverse ∧
      invertPath (l.reverse.full toToken fromToken) = .ok (l.full fromToken toToken)) ∧
    ∀ (inputToken outputToken : Address) (params : Bytes) (offset : ℕ),
      IsEvmSwapType (parseEvmSwapParams inputToken outputToken params offset).1.swapType →
      ∃ l : HopList, l.swaps = pathLengthAt params offset + 1 ∧
        (parseEvmSwapParams inputToken outputToken params offset).1.path =
          l.full inputToken outputToken ∧
        (l.full inputToken outputToken).length < 2 ^ 256 := by
  have hinvert : ∀ (l : HopList) (fromToken toToken : Address),
      (l.full fromToken toToken).length < 2 ^ 256 →
      invertPath (l.full fromToken toToken) = .ok (l.reverse.full toToken fromToken) := by
    intro l fromToken toToken h
    obtain ⟨hends, hinverted⟩ := ends_full l fromToken toToken h
    have hfuel : 2 * l.swaps ≤ (l.full fromToken toToken).length := by
      rw [length_full]
      unfold swaps ADDRESS_SIZE SHARED_POOL_ID_SIZE SHARED_PATH_ELEMENT_SIZE ADDRESS_SIZE
        SHARED_POOL_ID_SIZE
      omega
    exact (hends.loop hfuel).trans (congrArg Except.ok hinverted)
  refine ⟨fun l fromToken toToken h => ⟨?_, (ends_full l fromToken toToken h).1, hinvert l _ _ h,
    segments_reverse l fromToken toToken, ?_⟩, fun inputToken outputToken params offset h => ?_⟩
  · rw [length_full]
    unfold ADDRESS_SIZE
    omega
  · have hlen : (l.reverse.full toToken fromToken).length < 2 ^ 256 := by
      have hswaps := swaps_reverse l
      rw [length_full] at h ⊢
      unfold swaps at hswaps
      rwa [Nat.succ.inj hswaps]
    rw [hinvert l.reverse toToken fromToken hlen, reverse_reverse]
  · obtain ⟨l, hswaps, hpath⟩ := exists_parsed h
    refine ⟨l, hswaps, hpath, ?_⟩
    have hlt : pathLengthAt params offset < 256 := readBE_lt 1 params (offset + 24)
    rw [length_full, Nat.succ.inj hswaps]
    unfold SHARED_PATH_ELEMENT_SIZE ADDRESS_SIZE SHARED_POOL_ID_SIZE
    omega

end HopList

end SwapLayer.Evm

namespace SwapLayer.Integration

open ByteString Program Evm

/-! ## The two forms of a path in the integrator library -/

section Encode

variable {path : Bytes} {checkTokens : Bool} {fromToken toToken : Address} {stripOffset k : ℕ}

theorem fullPathStripOffset_stripped (l : HopList) :
    fullPathStripOffset l.stripped checkTokens fromToken toToken = .ok 0 := by
  have hlen := l.length_stripped
  unfold fullPathStripOffset
  by_cases hpool : l.stripped.length = SHARED_POOL_ID_SIZE
  · rw [if_pos hpool]
  · have hlong : l.stripped.length ≥ SHARED_PATH_ELEMENT_SIZE := by
      have hpos : l.hops.length ≠ 0 := fun hzero =>
        hpool (by rw [hlen, hzero, Nat.zero_mul, Nat.add_zero])
      have := Nat.le_mul_of_pos_left SHARED_PATH_ELEMENT_SIZE (Nat.pos_of_ne_zero hpos)
      omega
    have hpartial : (l.stripped.length - SHARED_POOL_ID_SIZE) % SHARED_PATH_ELEMENT_SIZE = 0 := by
      rw [hlen, Nat.add_sub_cancel_left, Nat.mul_mod_left]
    rw [if_neg hpool, if_pos hlong, if_pos hpartial]

theorem fullPathStripOffset_full (l : HopList) {head tail : Address}
    (h : checkTokens = true → head = fromToken ∧ tail = toToken) :
    fullPathStripOffset (l.full head tail) checkTokens fromToken toToken = .ok ADDRESS_SIZE := by
  have hlen := l.length_full head tail
  have hpool : (l.full head tail).length ≠ SHARED_POOL_ID_SIZE := by
    unfold ADDRESS_SIZE at hlen
    omega
  have hlong : (l.full head tail).length ≥ SHARED_PATH_ELEMENT_SIZE := by
    unfold ADDRESS_SIZE at hlen
    unfold SHARED_PATH_ELEMENT_SIZE ADDRESS_SIZE SHARED_POOL_ID_SIZE
    omega
  have hmod := l.full_mod head tail
  have hfirst : sliceFixed 20 (l.full head tail) 0 = head := firstToken_append _ _
  have hlast : sliceFixed 20 (l.full head tail) ((l.full head tail).length - ADDRESS_SIZE) =
      tail := by
    have := lastToken_append (head.toList ++ l.stripped) tail
    rwa [lastToken, List.append_assoc] at this
  unfold fullPathStripOffset
  rw [if_neg hpool, if_pos hlong, if_neg, if_pos]
  · simp only [asAddressUnchecked, hfirst, hlast]
    cases checkTokens with
    | false => rfl
    | true => exact if_pos (h rfl)
  · unfold SHARED_PATH_ELEMENT_SIZE ADDRESS_SIZE SHARED_POOL_ID_SIZE at *
    omega
  · unfold SHARED_PATH_ELEMENT_SIZE ADDRESS_SIZE SHARED_POOL_ID_SIZE at *
    omega

/-- Nothing or one address is stripped. -/
theorem fullPathStripOffset_cases
    (h : fullPathStripOffset path checkTokens fromToken toToken = .ok stripOffset) :
    stripOffset = 0 ∨ stripOffset = ADDRESS_SIZE := by
  unfold fullPathStripOffset at h
  split_ifs at h
  · exact .inl (Except.ok.inj h).symm
  · exact .inl (Except.ok.inj h).symm
  · by_cases htokens : sliceFixed 20 path 0 = fromToken ∧
        sliceFixed 20 path (path.length - ADDRESS_SIZE) = toToken
    · exact .inr (Except.ok.inj ((if_pos htokens).symm.trans h)).symm
    · cases (if_neg htokens).symm.trans h
  · exact .inr (Except.ok.inj h).symm

/-- **The shapes that are not refused** are the two forms of a hop list. -/
theorem exists_hopList
    (h : fullPathStripOffset path checkTokens fromToken toToken = .ok stripOffset)
    (hk : StrippedTo path stripOffset k) :
    ∃ l : HopList, l.hops.length = k ∧
      (path = l.stripped ∨ ∃ head tail, path = l.full head tail ∧
        (checkTokens = true → head = fromToken ∧ tail = toToken)) := by
  obtain ⟨hlength, -⟩ := hk
  rcases fullPathStripOffset_cases h with rfl | rfl
  · obtain ⟨l, hhops, hl⟩ := HopList.exists_stripped (hlength.trans (Nat.zero_add _))
    exact ⟨l, hhops, .inl hl.symm⟩
  · obtain ⟨l, hhops, hl⟩ := HopList.exists_full hlength
    refine ⟨l, hhops, .inr ⟨_, _, hl.symm, fun hcheck => ?_⟩⟩
    subst hcheck
    exact fullPathStripOffset_tokens h

theorem strippedPath_stripped (l : HopList) :
    strippedPath l.stripped = l.stripped ∧ StrippedTo l.stripped 0 l.hops.length := by
  have hlen := l.length_stripped
  have hself : strippedPath l.stripped = l.stripped := by
    rw [strippedPath, l.stripped_mod, if_neg (by decide)]
  exact ⟨hself, by omega, by rw [hself, ← hlen, slice_self]⟩

theorem strippedPath_full (l : HopList) (head tail : Address) :
    strippedPath (l.full head tail) = l.stripped ∧
      StrippedTo (l.full head tail) ADDRESS_SIZE l.hops.length := by
  have hlen := l.length_full head tail
  have hmod := l.full_mod head tail
  have hslice : slice (l.full head tail) ADDRESS_SIZE l.stripped.length = l.stripped := by
    have := slice_middle head.toList l.stripped tail.toList
    rwa [head.toList_length] at this
  have hself : strippedPath (l.full head tail) = l.stripped := by
    have hcut : (l.full head tail).length - 2 * ADDRESS_SIZE = l.stripped.length := by
      rw [hlen, l.length_stripped, Nat.add_sub_cancel_left]
    rw [strippedPath, if_pos hmod, hcut, hslice]
  exact ⟨hself, hlen, by rw [hself, ← l.length_stripped, hslice]⟩

/-- Behind the strip offset, the encoder only looks at the stripped path. -/
theorem encodeSwapParams_eq (deadline outputAmount : ℕ) (swapType : EvmSwapType)
    (h : fullPathStripOffset path checkTokens fromToken toToken = .ok stripOffset)
    (hk : StrippedTo path stripOffset k) :
    encodeSwapParams ⟨deadline, outputAmount, swapType, path⟩ checkTokens fromToken toToken = (do
      checkMax k (uintMax 8)
      let shared ← encodeSharedSwapParams deadline outputAmount
      return toBE 20 shared ++ (toBE 1 swapType.toUint8 ++
        ((sliceFixed 3 (strippedPath path) 0).toList ++ (toBE 1 (k % 2 ^ 8) ++
          (strippedPath path).drop SHARED_POOL_ID_SIZE)))) := by
  obtain ⟨hlength, -, -, hpool, hdrop⟩ := hk.encoded
  simp only [encodeSwapParams, h, except_ok_bind, asUint24Unchecked, asUint, sliceUnchecked, hlength,
    hpool, hdrop]

/-- **Both forms of a path are encoded alike.** -/
theorem encodeSwapParams_full (deadline outputAmount : ℕ) (swapType : EvmSwapType) (l : HopList)
    {head tail : Address} (h : checkTokens = true → head = fromToken ∧ tail = toToken) :
    encodeSwapParams ⟨deadline, outputAmount, swapType, l.full head tail⟩ checkTokens fromToken
        toToken =
      encodeSwapParams ⟨deadline, outputAmount, swapType, l.stripped⟩ checkTokens fromToken
        toToken := by
  obtain ⟨hself, hk⟩ := strippedPath_stripped l
  obtain ⟨hself', hk'⟩ := strippedPath_full l head tail
  rw [encodeSwapParams_eq _ _ _ (fullPathStripOffset_full l h) hk',
    encodeSwapParams_eq _ _ _ (fullPathStripOffset_stripped l) hk, hself, hself']

/-- A stripped path is accepted if it and the numbers fit. -/
theorem accepted_stripped {deadline outputAmount : ℕ} {swapType : EvmSwapType} {l : HopList}
    (hdeadline : deadline ≤ uintMax 32) (hamount : outputAmount ≤ uintMax 128)
    (hswaps : l.swaps ≤ 256) :
    (EvmSwapParams.mk deadline outputAmount swapType l.stripped).Accepted checkTokens fromToken
      toToken := by
  obtain ⟨-, hk⟩ := strippedPath_stripped l
  refine ⟨hdeadline, hamount, ⟨0, fullPathStripOffset_stripped l⟩, ?_⟩
  rw [hk.encoded.2.1]
  exact Nat.le_of_succ_le_succ hswaps

end Encode

/-- **Which paths are encoded, and how.** A full path is encoded like the stripped one. Up to 256
swaps the contract reads the encoding back, wherever it stands: between the same tokens the parsing
walk finds the full path, and the skipping walk the number of swaps and the same end. Nothing but
these paths is encoded, a full one only between the tokens it is checked against. -/
theorem encodeSwapParams_paths (deadline outputAmount : ℕ) (swapType : EvmSwapType)
    (fromToken toToken : Address) :
    (∀ (l : HopList) checkTokens head tail,
      (checkTokens = true → head = fromToken ∧ tail = toToken) →
      encodeSwapParams ⟨deadline, outputAmount, swapType, l.full head tail⟩ checkTokens fromToken
          toToken =
        encodeSwapParams ⟨deadline, outputAmount, swapType, l.stripped⟩ checkTokens fromToken
          toToken) ∧
    (∀ (l : HopList) checkTokens, deadline ≤ uintMax 32 → outputAmount ≤ uintMax 128 →
      l.swaps ≤ 256 →
      ∃ bytes, encodeSwapParams ⟨deadline, outputAmount, swapType, l.full fromToken toToken⟩
          checkTokens fromToken toToken = .ok bytes ∧
        ∀ params offset, Holds params offset bytes →
          parseEvmSwapParams fromToken toToken params offset =
            (⟨deadline, outputAmount, swapType.toUint8, l.full fromToken toToken⟩,
              offset + bytes.length) ∧
          parseSwapTypeAndCountAndSkipParams params offset =
            .ok (swapType.toUint8, l.swaps, offset + bytes.length)) ∧
    ∀ path checkTokens bytes,
      encodeSwapParams ⟨deadline, outputAmount, swapType, path⟩ checkTokens fromToken toToken =
        .ok bytes →
      deadline ≤ uintMax 32 ∧ outputAmount ≤ uintMax 128 ∧
        ∃ l : HopList, l.swaps ≤ 256 ∧
          (path = l.stripped ∨ ∃ head tail, path = l.full head tail ∧
            (checkTokens = true → head = fromToken ∧ tail = toToken)) := by
  refine ⟨fun l checkTokens head tail h => encodeSwapParams_full _ _ _ l h,
    fun l checkTokens hdeadline hamount hswaps => ?_, fun path checkTokens bytes h => ?_⟩
  · have haccepted : (EvmSwapParams.mk deadline outputAmount swapType l.stripped).Accepted checkTokens
        fromToken toToken := accepted_stripped hdeadline hamount hswaps
    refine ⟨_, (encodeSwapParams_full _ _ _ l fun _ => ⟨rfl, rfl⟩).trans
      (encodeSwapParams_ok.2 ⟨haccepted, rfl⟩), fun params offset hat => ?_⟩
    obtain ⟨hself, hk⟩ := strippedPath_stripped l
    have hreads := SwapFields.reads hat haccepted.fits
    have hparsed := hreads.read fromToken toToken
    have hends := hreads.ends _ _ rfl fromToken toToken
    have hskipped := hreads.skipped
    constructor
    · refine Prod.ext (hparsed.trans ?_) hends
      simp only [SwapFields.evmSwapParams, EvmSwapParams.fields, hself, HopList.full,
        List.append_assoc]
    · rw [hskipped]
      simp only [SwapRoute.swapType, SwapRoute.swapCount, EvmSwapParams.fields, hk.encoded.2.1]
      rfl
  · obtain ⟨haccepted, -⟩ := encodeSwapParams_ok.1 h
    obtain ⟨stripOffset, hpath⟩ := haccepted.path
    obtain ⟨k, hk⟩ := fullPathStripOffset_ok hpath
    obtain ⟨l, hhops, hshape⟩ := exists_hopList hpath hk
    refine ⟨haccepted.deadline, haccepted.outputAmount, l, ?_, hshape⟩
    have hcount := haccepted.hops
    rw [hk.encoded.2.1, ← hhops] at hcount
    exact Nat.succ_le_succ hcount

end SwapLayer.Integration
