import SwapLayer.Evm.Initiate

/-!
# Skipping and consuming the parameters of `initiate`

The parameter string is walked twice. `parseParamBaseStructure` skips over it and notes where its
blocks are; afterwards each block is read from its offset on, without looking at the size. The reads
never fail, so an offset that is off would go unnoticed.

`Tiled` says that the noted blocks and the mode bytes between them make up the string, `Consumed` that
each reader of `initiate` starts where its block starts and stops where the block ends.

The two walks differ on the swap types of the input: a Jupiter section is skipped by its size and read
to the end of the string, an unknown one is skipped to the end of the string. `initiate` reverts on
both: on the first in `_swap`, on the second because no byte is left for the output mode.

Results:
* `parseParamBaseStructure_tiled`: the blocks of an accepted string tile it.
* `skip_swap_eq_parse`: on an EVM swap section, both walks stop at the same offset.
* `initiate_consumed`: in a call that does not revert, each block is consumed exactly.
-/

namespace SwapLayer.Evm

open ByteString Program

/-! ## The blocks tile the string -/

/-- Each block stands behind the mode byte that follows the block before it, and the last one ends the
string. -/
structure Tiled (params : Bytes) (mos : ModesOffsetsSizes) : Prop where
  fast : mos.fastTransfer.offset = MODE_SIZE
  fast_mode : parseFastTransferMode params 0 =
    .ok (mos.fastTransfer.mode, mos.fastTransfer.offset)
  redeem : mos.redeem.offset = mos.fastTransfer.offset + mos.fastTransfer.size + MODE_SIZE
  redeem_mode : parseRedeemMode params (mos.fastTransfer.offset + mos.fastTransfer.size) =
    .ok (mos.redeem.mode, mos.redeem.offset)
  input : mos.input.offset = mos.redeem.offset + mos.redeem.size + BOOL_SIZE + MODE_SIZE
  isExactIn : asBoolUnchecked params (mos.redeem.offset + mos.redeem.size) =
    .ok (mos.isExactIn, mos.redeem.offset + mos.redeem.size + BOOL_SIZE)
  input_mode : parseIoToken params (mos.redeem.offset + mos.redeem.size + BOOL_SIZE) =
    .ok (mos.input.mode, mos.input.offset)
  output : mos.output.offset = mos.input.offset + mos.input.size + MODE_SIZE
  output_mode : parseIoToken params (mos.input.offset + mos.input.size) =
    .ok (mos.output.mode, mos.output.offset)
  ending : mos.output.offset + mos.output.size = params.length

section Blocks

variable {targetChain : ℕ} {params : Bytes} {mos : ModesOffsetsSizes}

/-- The size of the fast transfer block. -/
def fastTransferSize : FastTransferMode → ℕ
  | .enabled => FAST_TRANSFER_PARAM_SIZE
  | .disabled => 0

theorem parseFastTransferMode_offset {offset o : ℕ} {m : FastTransferMode}
    (h : parseFastTransferMode params offset = .ok (m, o)) : o = offset + MODE_SIZE := by
  simp only [parseFastTransferMode, asUint8Unchecked, asUint, except_bind_ok, except_pure_ok,
    Prod.mk.injEq] at h
  obtain ⟨_, -, -, ho⟩ := h
  exact ho.symm

theorem parseFastTransferBlock_ok {offset : ℕ} {b : FastTransferMOS} {o : ℕ}
    (h : parseFastTransferBlock params offset = .ok (b, o)) :
    parseFastTransferMode params offset = .ok (b.mode, b.offset) ∧
      b.size = fastTransferSize b.mode ∧ o = b.offset + b.size := by
  obtain ⟨⟨mode, start⟩, hmode, hret⟩ := except_bind_ok.1 h
  cases mode with
  | enabled =>
    cases hret
    exact ⟨hmode, Nat.add_sub_cancel_left .., by simp⟩
  | disabled =>
    cases hret
    exact ⟨hmode, Nat.sub_self _, by simp⟩

theorem parseInputBlock_modes {offset : ℕ} {e : Bool} {b : IoTokenMOS} {o : ℕ}
    (h : parseInputBlock params offset = .ok (e, b, o)) :
    asBoolUnchecked params offset = .ok (e, offset + BOOL_SIZE) ∧
      parseIoToken params (offset + BOOL_SIZE) = .ok (b.mode, b.offset) ∧ b.size = o - b.offset := by
  obtain ⟨⟨isExactIn, o₁⟩, hbool, h₁⟩ := except_bind_ok.1 h
  obtain ⟨⟨mode, o₂⟩, hmode, h₂⟩ := except_bind_ok.1 h₁
  obtain ⟨o₃, hskip, h₃⟩ := except_bind_ok.1 h₂
  obtain ⟨-, rfl⟩ := asBoolUnchecked_ok.1 hbool
  cases h₃
  exact ⟨hbool, hmode, rfl⟩

/-- Behind the input block there is a byte left: the mode of the output. -/
theorem input_end_lt (h : parseParamBaseStructure targetChain params = .ok mos) {o : ℕ}
    (hout : parseOutputBlock targetChain params o = .ok (mos.output, params.length)) :
    o < params.length := by
  have hrange := output_in_range h
  obtain ⟨-, hoffset, -, -⟩ := parseOutputBlock_ok hout
  omega

/-- **The walk over the input block** of an accepted string moves on. -/
theorem parseParamBaseStructure_input (h : parseParamBaseStructure targetChain params = .ok mos) :
    skipInput mos.input.mode params mos.input.offset = .ok (mos.input.offset + mos.input.size) ∧
      mos.input.offset + mos.input.size < params.length := by
  obtain ⟨_, o₂, o₃, -, -, hin, hout⟩ := parseParamBaseStructure_ok h
  obtain ⟨-, hskip⟩ := parseInputBlock_ok hin
  obtain ⟨-, -, hsize⟩ := parseInputBlock_modes hin
  have hlt := input_end_lt h hout
  have hend : mos.input.offset + mos.input.size = o₃ := by
    rcases skipInput_cases hskip with hle | he
    · omega
    · omega
  rw [hend]
  exact ⟨hskip, hlt⟩

/-- **The blocks of an accepted string tile it**, with no gap and no overlap. -/
theorem parseParamBaseStructure_tiled (h : parseParamBaseStructure targetChain params = .ok mos) :
    Tiled params mos := by
  have hinput := parseParamBaseStructure_input h
  obtain ⟨o₁, o₂, o₃, hfast, hredeem, hin, hout⟩ := parseParamBaseStructure_ok h
  obtain ⟨hfastMode, -, rfl⟩ := parseFastTransferBlock_ok hfast
  obtain ⟨hredeemMode, hredeemOffset, -, rfl⟩ := parseRedeemBlock_ok hredeem
  obtain ⟨hinputOffset, hskip⟩ := parseInputBlock_ok hin
  obtain ⟨hbool, hinputMode, -⟩ := parseInputBlock_modes hin
  obtain ⟨houtputMode, houtputOffset, -, -⟩ := parseOutputBlock_ok hout
  obtain rfl : mos.input.offset + mos.input.size = o₃ := Except.ok.inj (hinput.1.symm.trans hskip)
  exact {
    fast := (parseFastTransferMode_offset hfastMode).trans (Nat.zero_add _)
    fast_mode := hfastMode
    redeem := hredeemOffset
    redeem_mode := parseRedeemMode_ok.2 ⟨hredeemMode, hredeemOffset⟩
    input := hinputOffset
    isExactIn := hbool
    input_mode := hinputMode
    output := houtputOffset
    output_mode := parseIoToken_ok.2 ⟨houtputMode, houtputOffset⟩
    ending := (output_in_range h).2 }

end Blocks

/-! ## What the readers consume -/

section Consumers

variable (d : Deployment) (x : Externals) (msg : Msg d) (params : Bytes) (mos : ModesOffsetsSizes)

/-- The acquire section between two offsets, as skipped and as read: whatever `_acquireInputTokens` is
asked to fetch, it returns the end. -/
structure AcquireSection (offset o : ℕ) : Prop where
  skipped : skipAcquire params offset = .ok o
  read : ∀ amount token w o' w',
    acquireInputTokens d x msg amount token params offset w = .ok (o', w') → o' = o

/-- The swap section between two offsets, as skipped and as read. -/
structure SwapSection (inputToken outputToken : Address) (offset o : ℕ) : Prop where
  isEvm : IsEvmSwapType (swapTypeAt params offset)
  skipped : ∃ swapCount, 1 ≤ swapCount ∧ swapCount ≤ 256 ∧
    parseSwapTypeAndCountAndSkipParams params offset = .ok (swapTypeAt params offset, swapCount, o)
  read : (parseEvmSwapParams inputToken outputToken params offset).2 = o

/-- Maximum fee and deadline of a fast transfer fill their block. -/
def FastTransferConsumed : Prop :=
  match mos.fastTransfer.mode with
  | .enabled =>
    (asUint32Unchecked params (asUint48Unchecked params mos.fastTransfer.offset).2).2 =
      mos.fastTransfer.offset + mos.fastTransfer.size
  | .disabled => mos.fastTransfer.size = 0

/-- The redeem parameters fill their block; a payload is the length in front of it and as many
bytes. -/
def RedeemConsumed : Prop :=
  match mos.redeem.mode with
  | .direct => mos.redeem.size = 0
  | .payload =>
    let (payloadLen, offset) := asUint16Unchecked params mos.redeem.offset
    let (payload, offset) := sliceUnchecked params offset payloadLen
    sliceUnchecked params mos.redeem.offset mos.redeem.size = (toBE 2 payloadLen ++ payload, offset) ∧
      offset = mos.redeem.offset + mos.redeem.size
  | .relay =>
    (parseRelayParams params mos.redeem.offset).2.2 = mos.redeem.offset + mos.redeem.size

/-- What `_acquireUsdc` reads of the input block, in its order. -/
def InputConsumed : Prop :=
  match mos.input.mode with
  | .usdc =>
    let (_, offset) := asUint128Unchecked params mos.input.offset
    AcquireSection d x msg params offset (mos.input.offset + mos.input.size)
  | .gas =>
    SwapSection params d.wnative d.usdc mos.input.offset (mos.input.offset + mos.input.size)
  | .other => ∃ approveCheck offset swapOffset,
    asBoolUnchecked params mos.input.offset = .ok (approveCheck, offset) ∧
      let (inputToken, offset) := parseIERC20 params offset
      let (_, offset) := asUint128Unchecked params offset
      AcquireSection d x msg params offset swapOffset ∧
        SwapSection params inputToken d.usdc swapOffset (mos.input.offset + mos.input.size)

/-- What is read of the output block to work out a relaying fee, and the output section that goes into
the message, mode byte included. -/
def OutputConsumed : Prop :=
  (mos.output.mode ≠ .usdc → ∃ swapType swapCount,
    parseSwapTypeAndCountAndSkipParams params (outputSwapOffset mos) =
      .ok (swapType, swapCount, mos.output.offset + mos.output.size)) ∧
    (mos.output.mode = .usdc → mos.output.size = 0) ∧
    (sliceUnchecked params (mos.output.offset - MODE_SIZE) (mos.output.size + MODE_SIZE)).2 =
      mos.output.offset + mos.output.size

/-- Each reader of `initiate` stops where its block ends. -/
structure Consumed : Prop where
  fastTransfer : FastTransferConsumed params mos
  redeem : RedeemConsumed params mos
  input : InputConsumed d x msg params mos
  output : OutputConsumed params mos

end Consumers

section Swaps

variable {params : Bytes} {offset swapType swapCount o : ℕ} {inputToken outputToken : Address}

/-- **On an EVM swap section both walks stop at the same offset**, whatever the number of hops. -/
theorem skip_swap_eq_parse (hevm : IsEvmSwapType (swapTypeAt params offset))
    (h : parseSwapTypeAndCountAndSkipParams params offset = .ok (swapType, swapCount, o)) :
    SwapSection params inputToken outputToken offset o := by
  have hcount : pathLengthAt params offset < 256 ^ 1 := readBE_lt ..
  have hskip := parseSwapTypeAndCount_of_evm hevm
  rw [hskip] at h
  cases h
  refine ⟨hevm, ⟨pathLengthAt params offset + 1, by omega, by omega, hskip⟩, ?_⟩
  rw [parseEvmSwapParams_of_evm inputToken outputToken hevm]

/-- The parser of EVM swaps only reports EVM swap types that stand in the string. -/
theorem isEvmSwapType_of_parse
    (h : IsEvmSwapType (parseEvmSwapParams inputToken outputToken params offset).1.swapType) :
    IsEvmSwapType (swapTypeAt params offset) := by
  by_contra hevm
  rw [parseEvmSwapParams_of_not_evm inputToken outputToken hevm] at h
  exact not_isEvmSwapType_invalid h

end Swaps

/-! ## A call that does not revert -/

section Initiate

variable {d : Deployment} {x : Externals} {msg : Msg d} {w w' : World} {targetChain : ℕ}
  {recipient : Bytes32} {params : Bytes} {mos : ModesOffsetsSizes}

theorem fastTransfer_consumed (h : parseParamBaseStructure targetChain params = .ok mos) :
    FastTransferConsumed params mos := by
  obtain ⟨_, _, _, hfast, -, -, -⟩ := parseParamBaseStructure_ok h
  obtain ⟨-, hsize, -⟩ := parseFastTransferBlock_ok hfast
  unfold FastTransferConsumed
  cases hmode : mos.fastTransfer.mode <;> rw [hmode] at hsize
  · exact hsize
  · rw [hsize]
    rfl

theorem redeem_consumed (h : parseParamBaseStructure targetChain params = .ok mos) :
    RedeemConsumed params mos := by
  obtain ⟨hsize, -⟩ := redeem_in_range h
  unfold RedeemConsumed
  cases hmode : mos.redeem.mode <;> rw [hmode] at hsize
  · exact hsize
  · simp only [asUint16Unchecked, asUint, sliceUnchecked, hsize, redeemSize, toBE_readBE, slice_add,
      Nat.add_assoc, and_self]
  · rw [hsize]
    rfl

theorem output_consumed (h : parseParamBaseStructure targetChain params = .ok mos) :
    OutputConsumed params mos := by
  obtain ⟨hpos, hend⟩ := output_in_range h
  obtain ⟨_, _, _, -, -, -, hout⟩ := parseParamBaseStructure_ok h
  obtain ⟨-, -, hskip, hsize⟩ := parseOutputBlock_ok hout
  unfold OutputConsumed
  refine ⟨fun hmode => ?_, fun hmode => ?_, ?_⟩
  · rw [hend]
    cases hm : mos.output.mode with
    | usdc => exact absurd hm hmode
    | gas =>
      rw [hm] at hskip
      obtain ⟨⟨t, c, o⟩, hswap, hret⟩ := except_bind_ok.1 hskip
      cases hret
      exact ⟨t, c, by rw [outputSwapOffset, hm]; exact hswap⟩
    | other =>
      rw [hm] at hskip
      obtain ⟨_, -, h₁⟩ := except_bind_ok.1 hskip
      obtain ⟨⟨t, c, o⟩, hswap, hret⟩ := except_bind_ok.1 h₁
      cases hret
      exact ⟨t, c, by rw [outputSwapOffset, hm]; exact hswap⟩
  · rw [hmode] at hskip
    have := Except.ok.inj hskip
    omega
  · unfold sliceUnchecked MODE_SIZE
    show mos.output.offset - 1 + (mos.output.size + 1) = _
    omega

/-- An acquire section that is skipped is read to the same end. -/
theorem acquireSection_of_skip {offset o : ℕ} (h : skipAcquire params offset = .ok o) :
    AcquireSection d x msg params offset o := by
  refine ⟨h, fun amount token w o' w' hread => ?_⟩
  exact Except.ok.inj ((acquireInputTokens_pulled hread).1.symm.trans h)

/-- The swap of an input that did not revert stands in an EVM swap section. -/
theorem swapToUsdc_isEvm {totalFee amount offset n : ℕ} {token : Address} {approveCheck : Bool}
    (h : swapToUsdc d x msg totalFee mos params token amount approveCheck offset w = .ok (n, w')) :
    IsEvmSwapType (swapTypeAt params offset) := by
  obtain ⟨_, _, hswap, -⟩ := bind_ok.1 h
  exact isEvmSwapType_of_parse (swap_isEvmSwapType hswap)

/-- **The input block is consumed exactly** when its tokens were acquired. -/
theorem input_consumed (h : parseParamBaseStructure targetChain params = .ok mos) {totalFee : ℕ}
    {r : ℕ × ℕ} (hacquire : acquireUsdc d x msg totalFee mos params w = .ok (r, w')) :
    InputConsumed d x msg params mos := by
  obtain ⟨hskip, -⟩ := parseParamBaseStructure_input h
  obtain ⟨_, hacquire, -⟩ := acquireUsdc_ok.1 hacquire
  unfold InputConsumed
  unfold acquireFinal at hacquire
  cases hmode : mos.input.mode with
  | usdc =>
    rw [hmode] at hskip
    exact acquireSection_of_skip hskip
  | gas =>
    rw [hmode] at hskip hacquire
    obtain ⟨⟨t, c, o⟩, hswap, hret⟩ := except_bind_ok.1 hskip
    cases hret
    obtain ⟨_, w₁, -, h₁⟩ := bind_ok.1 hacquire
    obtain ⟨_, w₂, -, h₂⟩ := bind_ok.1 h₁
    obtain ⟨_, w₃, hto, -⟩ := bind_ok.1 h₂
    exact skip_swap_eq_parse (swapToUsdc_isEvm hto) hswap
  | other =>
    rw [hmode] at hskip hacquire
    obtain ⟨o, hacq, hswapskip⟩ := except_bind_ok.1 hskip
    obtain ⟨⟨t, c, e⟩, hswap, hret⟩ := except_bind_ok.1 hswapskip
    cases hret
    obtain ⟨⟨approveCheck, o₁⟩, w₁, hlift, h₁⟩ := bind_ok.1 hacquire
    obtain ⟨hbool, rfl⟩ := lift_ok.1 hlift
    obtain ⟨-, rfl⟩ := asBoolUnchecked_ok.1 hbool
    obtain ⟨o₂, w₂, hpull, h₂⟩ := bind_ok.1 h₁
    obtain ⟨_, w₃, hto, -⟩ := bind_ok.1 h₂
    have hsection : AcquireSection d x msg params (mos.input.offset + 1 + 20 + 16) o :=
      acquireSection_of_skip hacq
    obtain rfl : o₂ = o := hsection.read _ _ _ _ _ hpull
    exact ⟨approveCheck, _, o₂, hbool, hsection, skip_swap_eq_parse (swapToUsdc_isEvm hto) hswap⟩

/-- **The skipping pass and the consuming pass agree.** Whenever `initiate` does not revert, the
blocks that `parseParamBaseStructure` noted tile the parameters, and each reader starts at its block
and stops where the block ends. -/
theorem initiate_consumed {ret : Bytes}
    (h : initiate d x msg targetChain recipient params w = .ok (ret, w')) :
    ∃ mos, parseParamBaseStructure targetChain params = .ok mos ∧ Tiled params mos ∧
      Consumed d x msg params mos := by
  obtain ⟨i, -⟩ := initiate_ok h
  exact ⟨i.mos, i.parsed, parseParamBaseStructure_tiled i.parsed, fastTransfer_consumed i.parsed,
    redeem_consumed i.parsed, input_consumed i.parsed i.acquire, output_consumed i.parsed⟩

end Initiate

namespace Sample

/-- Fast, with a payload of two bytes, exact-in: 10 units through Uniswap over two pools. -/
def payloadThroughUniswap : Bytes :=
  [1] ++ toBE 6 0 ++ toBE 4 60 ++ [1] ++ toBE 2 2 ++ [7, 8] ++ [1, 2, 0] ++ usdc.toList ++
    toBE 16 10 ++ [0] ++ toBE 4 0 ++ toBE 16 5 ++ [1] ++ toBE 3 500 ++ [1] ++ wnative.toList ++
    toBE 3 3000 ++ [0]

/-- Its blocks are consumed exactly. -/
theorem payload_consumed :
    ∃ mos, parseParamBaseStructure 3 payloadThroughUniswap = .ok mos ∧
      Tiled payloadThroughUniswap mos ∧
      Consumed deployment (externals 7 0) (msg 0) payloadThroughUniswap mos := by
  have hrun : (initiate deployment (externals 7 0) (msg 0) 3 (toUniversalAddress recipient)
      payloadThroughUniswap (world fun _ => 0)).toOption.isSome = true := by decide +kernel
  obtain ⟨⟨ret, w'⟩, hok⟩ := Option.isSome_iff_exists.1 hrun
  exact initiate_consumed (toOption_eq_some.1 hok)

end Sample

end SwapLayer.Evm
