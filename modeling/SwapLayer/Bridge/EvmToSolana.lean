import SwapLayer.Bridge.Wire
import SwapLayer.Evm.Initiate

/-!
# Messages to Solana

A message that `initiate` emits for Solana against the reader of the Solana program.

`parseSwapTypeAndCountAndSkipParams` skips an output swap of unknown type by jumping to the end of
the parameters, and `initiate` copies the section into the message; `SwapType::read` rejects the
type byte. `Initiated.sent` is the message as the parameters describe it, with the swap type
`Invalid` for an unknown byte.

Results:
* `sentToken_write`: for a type that Solana knows, the Rust writer would put down the very
  section that the EVM contract copies, whatever the token kind and the length of the path.
* `decodable_of_write`: a section that the Rust reader accepts asks for no swap, or for one of a
  type that Solana knows.
* `order_decoded_iff`: the message of an order is accepted, and decodes to what was sent, iff the
  output is USDC or a swap of a type that Solana knows; otherwise it is rejected.
-/

namespace SwapLayer.Bridge

open ByteString Program Messages Evm

/-! ## The output section as the parameters describe it -/

section Sent

variable (params : Bytes) (offset : ℕ)

/-- The swap types that `SwapType::read` knows. -/
def KnownSwapType (swapType : ℕ) : Prop :=
  IsEvmSwapType swapType ∨ swapType = SWAP_TYPE_JUPITERV6

instance (swapType : ℕ) : Decidable (KnownSwapType swapType) :=
  inferInstanceAs (Decidable (_ ∨ _))

/-- Where hop number `k` of the EVM swap section at `offset` starts. -/
def hopOffset (k : ℕ) : ℕ := offset + 25 + k * SHARED_PATH_ELEMENT_SIZE

def sentUniswap : UniswapSwapParameters :=
  ⟨uintAt 3 params (offset + 21), (List.range (pathLengthAt params offset)).map fun k =>
    ⟨sliceFixed 20 params (hopOffset offset k), uintAt 3 params (hopOffset offset k + 20)⟩⟩

def poolIdAt (o : ℕ) : TraderJoePoolId := ⟨uintAt 1 params o, uintAt 2 params (o + 1)⟩

def sentTraderJoe : TraderJoeSwapParameters :=
  ⟨poolIdAt params (offset + 21), (List.range (pathLengthAt params offset)).map fun k =>
    ⟨sliceFixed 20 params (hopOffset offset k), poolIdAt params (hopOffset offset k + 20)⟩⟩

def sentJupiter : JupiterV6SwapParameters :=
  ⟨if readBE 1 params (offset + 21) = 0 then none else some (sliceFixed 32 params (offset + 22))⟩

/-- An unknown swap type has no counterpart but `Invalid`. -/
def sentSwapType : SwapType :=
  if swapTypeAt params offset = SWAP_TYPE_UNISWAPV3 then .uniswapV3 (sentUniswap params offset)
  else if swapTypeAt params offset = SWAP_TYPE_TRADERJOE then
    .traderJoe (sentTraderJoe params offset)
  else if swapTypeAt params offset = SWAP_TYPE_JUPITERV6 then
    .jupiterV6 (sentJupiter params offset)
  else .invalid

def sentSwap : Messages.OutputSwap :=
  ⟨uintAt 4 params offset, uintAt 16 params (offset + 4), sentSwapType params offset⟩

/-- The output token of the parameters, with its swap. -/
def sentToken (mos : ModesOffsetsSizes) : OutputToken :=
  match mos.output.mode with
  | .usdc => .usdc
  | .gas => .gas (sentSwap params (outputSwapOffset mos))
  | .other => .other (sliceFixed 32 params mos.output.offset)
      (sentSwap params (outputSwapOffset mos))

end Sent

/-! ## The Rust writer puts the section down -/

section Write

variable {params : Bytes} {offset : ℕ}

/-- Hops that take up one path element each fill the path. -/
theorem flatMap_hops {α : Type} {write : α → Bytes} {hop : ℕ → α}
    (h : ∀ k, write (hop k) = slice params (hopOffset offset k) SHARED_PATH_ELEMENT_SIZE) (n : ℕ) :
    ((List.range n).map hop).flatMap write =
      slice params (offset + 25) (n * SHARED_PATH_ELEMENT_SIZE) := by
  rw [slice_mul, List.flatMap_map]
  exact congrArg (fun f => (List.range n).flatMap f) (funext h)

/-- The path of an EVM swap section, behind the byte that counts its hops. -/
theorem writePath_hops {α : Type} {write : α → Bytes} {hop : ℕ → α}
    (h : ∀ k, write (hop k) = slice params (hopOffset offset k) SHARED_PATH_ELEMENT_SIZE) :
    writePath write ((List.range (pathLengthAt params offset)).map hop) =
      .ok (slice params (offset + 24)
        (1 + pathLengthAt params offset * SHARED_PATH_ELEMENT_SIZE)) := by
  have hlen : ((List.range (pathLengthAt params offset)).map hop).length =
      pathLengthAt params offset := by simp
  have hlt : pathLengthAt params offset < 256 ^ 1 := readBE_lt 1 params (offset + 24)
  have hcount : toBE 1 (pathLengthAt params offset) = slice params (offset + 24) 1 :=
    writeUint_uintAt 1 params (offset + 24)
  rw [writePath, hlen, if_pos hlt, flatMap_hops h, hcount, slice_add]

theorem poolIdAt_write (o : ℕ) : (poolIdAt params o).write = slice params o 3 := by
  rw [TraderJoePoolId.write, poolIdAt, writeUint_uintAt, writeUint_uintAt, ← slice_add]

theorem sentUniswap_write : (sentUniswap params offset).write =
    .ok (slice params (offset + 21)
      (4 + pathLengthAt params offset * SHARED_PATH_ELEMENT_SIZE)) := by
  have hhop (k : ℕ) : UniswapSwapPath.write ⟨sliceFixed 20 params (hopOffset offset k),
      uintAt 3 params (hopOffset offset k + 20)⟩ =
      slice params (hopOffset offset k) SHARED_PATH_ELEMENT_SIZE := by
    rw [UniswapSwapPath.write, writeUint_uintAt]
    exact (slice_add params (hopOffset offset k) 20 3).symm
  rw [UniswapSwapParameters.write, sentUniswap, writePath_hops hhop, except_ok_bind,
    writeUint_uintAt]
  refine congrArg Except.ok ?_
  rw [show 4 = 3 + 1 from rfl, Nat.add_assoc, slice_add params (offset + 21) 3]

theorem sentTraderJoe_write : (sentTraderJoe params offset).write =
    .ok (slice params (offset + 21)
      (4 + pathLengthAt params offset * SHARED_PATH_ELEMENT_SIZE)) := by
  have hhop (k : ℕ) : TraderJoeSwapPath.write ⟨sliceFixed 20 params (hopOffset offset k),
      poolIdAt params (hopOffset offset k + 20)⟩ =
      slice params (hopOffset offset k) SHARED_PATH_ELEMENT_SIZE := by
    rw [TraderJoeSwapPath.write, poolIdAt_write]
    exact (slice_add params (hopOffset offset k) 20 3).symm
  rw [TraderJoeSwapParameters.write, sentTraderJoe, writePath_hops hhop, except_ok_bind,
    poolIdAt_write]
  refine congrArg Except.ok ?_
  rw [show 4 = 3 + 1 from rfl, Nat.add_assoc, slice_add params (offset + 21) 3]

theorem sentJupiter_write {withDex : Bool} (h : readBE 1 params (offset + 21) = withDex.toNat) :
    (sentJupiter params offset).write = slice params (offset + 21) (jupiterSize withDex - 21) := by
  have hflag : toBE 1 withDex.toNat = slice params (offset + 21) 1 := by
    rw [← h]
    exact writeUint_uintAt 1 params (offset + 21)
  cases withDex with
  | false =>
    have hz : readBE 1 params (offset + 21) = 0 := h
    rw [JupiterV6SwapParameters.write, sentJupiter, if_pos hz]
    exact hflag
  | true =>
    have hne : ¬readBE 1 params (offset + 21) = 0 := by
      rw [h]
      decide
    rw [JupiterV6SwapParameters.write, sentJupiter, if_neg hne]
    exact (congrArg (· ++ slice params (offset + 22) 32) hflag).trans
      (slice_add params (offset + 21) 1 32).symm

/-- The swap type byte and what follows it. -/
theorem sentSwapType_write (hknown : KnownSwapType (swapTypeAt params offset))
    {swapType swapCount o : ℕ}
    (h : parseSwapTypeAndCountAndSkipParams params offset = .ok (swapType, swapCount, o)) :
    offset + 20 ≤ o ∧ (sentSwapType params offset).write =
      .ok (slice params (offset + 20) (o - (offset + 20))) := by
  have hbyte : writeUint (uintAt 1 params (offset + 20)) = slice params (offset + 20) 1 :=
    writeUint_uintAt 1 params (offset + 20)
  have hsplit (n : ℕ) : slice params (offset + 20) (1 + n) =
      writeUint (uintAt 1 params (offset + 20)) ++ slice params (offset + 21) n := by
    rw [hbyte, slice_add]
  rcases hknown with hevm | hjup
  · rw [parseSwapTypeAndCount_of_evm hevm] at h
    cases h
    refine ⟨by omega, ?_⟩
    have hsize : offset + 25 + pathLengthAt params offset * SHARED_PATH_ELEMENT_SIZE -
        (offset + 20) = 1 + (4 + pathLengthAt params offset * SHARED_PATH_ELEMENT_SIZE) := by omega
    rw [hsize, hsplit]
    rcases hevm with hu | ht
    · have htype : uintAt 1 params (offset + 20) = SwapType.UNISWAP_V3 := Fin.ext hu
      rw [sentSwapType, if_pos hu, SwapType.write, sentUniswap_write, htype]
      rfl
    · have hne : ¬swapTypeAt params offset = SWAP_TYPE_UNISWAPV3 := by
        rw [ht]
        decide
      have htype : uintAt 1 params (offset + 20) = SwapType.TRADER_JOE := Fin.ext ht
      rw [sentSwapType, if_neg hne, if_pos ht, SwapType.write, sentTraderJoe_write, htype]
      rfl
  · obtain ⟨withDex, hflag, hr⟩ := (parseSwapTypeAndCount_of_jupiter hjup).1 h
    cases hr
    have hle : 22 ≤ jupiterSize withDex := by cases withDex <;> decide
    refine ⟨by omega, ?_⟩
    have hsize : offset + jupiterSize withDex - (offset + 20) =
        1 + (jupiterSize withDex - 21) := by omega
    have hu : ¬swapTypeAt params offset = SWAP_TYPE_UNISWAPV3 := by
      rw [hjup]
      decide
    have ht : ¬swapTypeAt params offset = SWAP_TYPE_TRADERJOE := by
      rw [hjup]
      decide
    have htype : uintAt 1 params (offset + 20) = SwapType.JUPITER_V6 := Fin.ext hjup
    rw [hsize, hsplit, sentSwapType, if_neg hu, if_neg ht, if_pos hjup, SwapType.write,
      sentJupiter_write hflag, htype]

/-- **The swap section** that `initiate` copies is what the Rust writer puts down. -/
theorem sentSwap_write (hknown : KnownSwapType (swapTypeAt params offset))
    {swapType swapCount o : ℕ}
    (h : parseSwapTypeAndCountAndSkipParams params offset = .ok (swapType, swapCount, o)) :
    offset ≤ o ∧ (sentSwap params offset).write = .ok (slice params offset (o - offset)) := by
  obtain ⟨hle, hwrite⟩ := sentSwapType_write hknown h
  refine ⟨by omega, ?_⟩
  have hsize : o - offset = 4 + (16 + (o - (offset + 20))) := by omega
  rw [Messages.OutputSwap.write, sentSwap, hwrite, except_ok_bind, hsize, slice_add params offset 4,
    slice_add params (offset + 4) 16, writeUint_uintAt, writeUint_uintAt]
  rfl

end Write

/-! ## The message of an order -/

section Message

variable {targetChain : ℕ} {params : Bytes} {mos : ModesOffsetsSizes}

/-- The section that goes into the message: the mode byte, and the rest of the parameters. -/
theorem outputSwapSection_eq (h : parseParamBaseStructure targetChain params = .ok mos) :
    outputSwapSection mos params = toBE 1 mos.output.mode.toUint8 ++
      slice params mos.output.offset (params.length - mos.output.offset) := by
  obtain ⟨hpos, hend⟩ := output_in_range h
  obtain ⟨_, _, o₃, -, -, -, hout⟩ := parseParamBaseStructure_ok h
  obtain ⟨hmode, hoff, -, -⟩ := parseOutputBlock_ok hout
  have hstart : mos.output.offset - MODE_SIZE = o₃ := by
    unfold MODE_SIZE
    omega
  have hsize : mos.output.size + MODE_SIZE = 1 + (params.length - mos.output.offset) := by
    unfold MODE_SIZE
    omega
  have hbyte : slice params o₃ 1 = toBE 1 mos.output.mode.toUint8 := by
    rw [← hmode]
    exact (writeUint_uintAt 1 params o₃).symm
  rw [outputSwapSection, hstart, hsize, slice_add, hbyte, ← hoff]

/-- The output swap ends where the parameters end. -/
theorem outputSwap_skipped (h : parseParamBaseStructure targetChain params = .ok mos)
    (hmode : mos.output.mode ≠ .usdc) : ∃ swapType swapCount,
      parseSwapTypeAndCountAndSkipParams params (outputSwapOffset mos) =
        .ok (swapType, swapCount, params.length) := by
  obtain ⟨_, _, o₃, -, -, -, hout⟩ := parseParamBaseStructure_ok h
  obtain ⟨-, -, hskip, -⟩ := parseOutputBlock_ok hout
  cases hm : mos.output.mode with
  | usdc => exact absurd hm hmode
  | gas =>
    simp only [hm, skipOutput, except_bind_ok, except_pure_ok, Prod.exists] at hskip
    obtain ⟨swapType, swapCount, o, hswap, rfl⟩ := hskip
    exact ⟨swapType, swapCount, by rw [outputSwapOffset, hm]; exact hswap⟩
  | other =>
    simp only [hm, skipOutput, asBytes32Unchecked, except_bind_ok, except_pure_ok,
      Prod.exists] at hskip
    obtain ⟨_, -, swapType, swapCount, o, hswap, rfl⟩ := hskip
    exact ⟨swapType, swapCount, by rw [outputSwapOffset, hm]; exact hswap⟩

/-- Solana can decode the output section: it asks for no swap, or for one of known type. -/
def Decodable (mos : ModesOffsetsSizes) (params : Bytes) : Prop :=
  mos.output.mode = .usdc ∨ KnownSwapType (swapTypeAt params (outputSwapOffset mos))

instance (mos : ModesOffsetsSizes) (params : Bytes) : Decidable (Decodable mos params) :=
  inferInstanceAs (Decidable (_ ∨ _))

/-- **The output section** is what the Rust writer puts down for the token of the parameters. -/
theorem sentToken_write (h : parseParamBaseStructure targetChain params = .ok mos)
    (hdec : Decodable mos params) :
    (sentToken params mos).write = .ok (outputSwapSection mos params) := by
  have hsection := outputSwapSection_eq h
  have hrange := (output_in_range h).2
  cases hm : mos.output.mode with
  | usdc =>
    obtain ⟨_, _, _, -, -, -, hout⟩ := parseParamBaseStructure_ok h
    obtain ⟨-, -, hskip, -⟩ := parseOutputBlock_ok hout
    rw [hm] at hskip
    have hend : mos.output.offset = params.length := Except.ok.inj hskip
    rw [hsection, hm, hend, Nat.sub_self, sentToken, hm]
    rfl
  | gas =>
    have hknown : KnownSwapType (swapTypeAt params (outputSwapOffset mos)) :=
      hdec.resolve_left fun hu => by rw [hm] at hu; cases hu
    obtain ⟨_, _, hswap⟩ := outputSwap_skipped h (by rw [hm]; decide)
    obtain ⟨-, hwrite⟩ := sentSwap_write hknown hswap
    have hoff : outputSwapOffset mos = mos.output.offset := by rw [outputSwapOffset, hm]
    rw [hsection, sentToken, hm, OutputToken.write, hwrite, hoff]
    rfl
  | other =>
    have hknown : KnownSwapType (swapTypeAt params (outputSwapOffset mos)) :=
      hdec.resolve_left fun hu => by rw [hm] at hu; cases hu
    obtain ⟨_, _, hswap⟩ := outputSwap_skipped h (by rw [hm]; decide)
    obtain ⟨hle, hwrite⟩ := sentSwap_write hknown hswap
    have hoff : outputSwapOffset mos = mos.output.offset + 32 := by
      rw [outputSwapOffset, hm]
      rfl
    have hsize : params.length - mos.output.offset =
        32 + (params.length - (mos.output.offset + 32)) := by omega
    rw [hsection, sentToken, hm, OutputToken.write, hwrite, hoff, hsize, slice_add]
    rfl

end Message

/-! ## What the Rust reader accepts -/

section Accepted

theorem swapType_write_head {t : SwapType} {out : Bytes} (h : t.write = .ok out) :
    ∃ (tag : Uint 1) (rest : Bytes), out = writeUint tag ++ rest ∧ KnownSwapType tag := by
  cases t with
  | invalid => cases h
  | uniswapV3 p =>
    obtain ⟨bytes, -, hret⟩ := except_bind_ok.1 h
    cases hret
    exact ⟨SwapType.UNISWAP_V3, bytes, rfl, by decide⟩
  | traderJoe p =>
    obtain ⟨bytes, -, hret⟩ := except_bind_ok.1 h
    cases hret
    exact ⟨SwapType.TRADER_JOE, bytes, rfl, by decide⟩
  | jupiterV6 p =>
    cases h
    exact ⟨SwapType.JUPITER_V6, p.write, rfl, by decide⟩

/-- **A section that encodes a swap** has a known swap type where the EVM contract looks for it. -/
theorem outputSwap_write_known {s : Messages.OutputSwap} {params : Bytes} {offset n : ℕ}
    (h : s.write = .ok (slice params offset n)) : KnownSwapType (swapTypeAt params offset) := by
  simp only [Messages.OutputSwap.write, except_bind_ok, except_pure_ok] at h
  obtain ⟨_, hwrite, hout⟩ := h
  obtain ⟨tag, rest, rfl, hknown⟩ := swapType_write_head hwrite
  have hlen := congrArg List.length hout
  simp only [writeUint, List.length_append, length_toBE, length_slice] at hlen
  have hread : readBE 1 (slice params offset n) 20 = tag := by
    have h₁ := readBE_append_right 1 (writeUint s.deadline ++ writeUint s.limitAmount)
      (writeUint tag ++ rest) 0
    rw [writeUint, writeUint, writeUint, readBE_toBE tag.isLt, List.append_assoc] at h₁
    rw [← hout]
    simpa [writeUint] using h₁
  have hslice : readBE 1 (slice params offset n) 20 = swapTypeAt params offset := by
    rw [readBE, slice_slice (by omega)]
    rfl
  rw [← hslice, hread]
  exact hknown

variable {targetChain : ℕ} {params : Bytes} {mos : ModesOffsetsSizes}

/-- Two single bytes with different values in front of two strings keep these apart. -/
theorem tag_inj {a b : ℕ} (ha : a < 256) (hb : b < 256) {xs ys : Bytes}
    (h : toBE 1 a ++ xs = toBE 1 b ++ ys) : a = b ∧ xs = ys := by
  have h' : writeUint (⟨a, ha⟩ : Uint 1) ++ xs = writeUint (⟨b, hb⟩ : Uint 1) ++ ys := h
  obtain ⟨he, hrest⟩ := (readUint_exact 1).append_inj h'
  exact ⟨congrArg Fin.val he, hrest⟩

/-- **An output section that decodes** asks for no swap, or for one of known type. -/
theorem decodable_of_write (h : parseParamBaseStructure targetChain params = .ok mos)
    {t : OutputToken} (ht : t.write = .ok (outputSwapSection mos params)) :
    Decodable mos params := by
  rw [outputSwapSection_eq h] at ht
  have hlt := mos.output.mode.toUint8_lt
  cases t with
  | usdc =>
    left
    have he := (tag_inj (b := mos.output.mode.toUint8) (by decide) hlt
      ((List.append_nil _).trans (Except.ok.inj ht))).1
    cases hm : mos.output.mode with
    | usdc => rfl
    | _ =>
      rw [hm] at he
      cases he
  | gas s =>
    obtain ⟨out, hout, hret⟩ := except_bind_ok.1 ht
    obtain ⟨he, rfl⟩ := tag_inj (a := 1) (by decide) hlt (Except.ok.inj hret)
    cases hm : mos.output.mode with
    | gas =>
      right
      rw [outputSwapOffset, hm]
      exact outputSwap_write_known hout
    | _ =>
      rw [hm] at he
      cases he
  | other a s =>
    obtain ⟨out, hout, hret⟩ := except_bind_ok.1 ht
    obtain ⟨he, hrest⟩ := tag_inj (a := 2) (by decide) hlt (Except.ok.inj hret)
    cases hm : mos.output.mode with
    | other =>
      right
      have hlen := congrArg List.length hrest
      rw [List.length_append, List.Vector.toList_length, length_slice] at hlen
      rw [← hlen, slice_add] at hrest
      have hout' := List.append_inj_right hrest (by simp)
      rw [outputSwapOffset, hm]
      exact outputSwap_write_known (hout' ▸ hout)
    | _ =>
      rw [hm] at he
      cases he

end Accepted

/-! ## Messages of successful calls -/

section Order

variable {d : Deployment} {x : Externals} {msg : Msg d} {w w' : World} {recipient : Bytes32}
  {params : Bytes} {targetChain : ℕ}

/-- The message as the caller's arguments and the fee worked out describe it. -/
def sent (i : Initiated d x msg targetChain recipient params w) : SwapMessageV1 :=
  ⟨recipient, redeemMode i.fields, sentToken params i.mos⟩

/-- **Messages to Solana.** The message of the order that a successful call places is accepted,
and decodes to the recipient, the redeem mode and the output token of the call, iff the output is
USDC or a swap of a type that Solana knows. Any other message is rejected. -/
theorem order_decoded_iff {ret : Bytes}
    (h : initiate d x msg SOLANA_CHAIN_ID recipient params w = .ok (ret, w')) :
    ∃ i : Initiated d x msg SOLANA_CHAIN_ID recipient params w,
      w' = i.result ∧ w'.orders = w.orders ++ [i.order] ∧
      (SwapMessageV1.readSlice i.order.redeemerMessage = .ok (sent i) ↔
        Decodable i.mos params) ∧
      (¬Decodable i.mos params →
        ∃ e, SwapMessageV1.readSlice i.order.redeemerMessage = .error e) := by
  obtain ⟨i, rfl⟩ := initiate_ok h
  have hmessage : i.order.redeemerMessage = _ := i.message_eq
  refine ⟨i, rfl, i.orders_eq, ?_, ?_⟩
  · rw [hmessage, readSlice_encode]
    constructor
    · rintro ⟨ht, -, -⟩
      exact decodable_of_write i.parsed ht
    · intro hdec
      exact ⟨sentToken_write i.parsed hdec, rfl, rfl⟩
  · intro hdec
    cases hread : SwapMessageV1.readSlice i.order.redeemerMessage with
    | error e => exact ⟨e, rfl⟩
    | ok m =>
      rw [hmessage, readSlice_encode] at hread
      exact absurd (decodable_of_write i.parsed hread.1) hdec

end Order

namespace Sample

open Evm.Sample

/-- Slow, direct, exact-in: 10 units of USDC for Solana, to be swapped to the native token there
with a swap of the given type, without parameters. -/
def usdcForSol (swapType : ℕ) : Bytes :=
  [0, 0, 1, 0] ++ toBE 16 10 ++ [0] ++ [1] ++ toBE 4 0 ++ toBE 16 5 ++ toBE 1 swapType ++ [0]

/-- Swap type 5 goes through on the EVM side; on Solana no instruction can read the fill. -/
theorem unknownSwap_rejected :
    ∃ (ret : Bytes) (w' : World) (order : Order),
      initiate deployment (externals 0 0) (msg 0) SOLANA_CHAIN_ID (toUniversalAddress recipient)
        (usdcForSol 5) (world fun _ => 0) = .ok (ret, w') ∧
      w'.orders = [order] ∧ order.amount = 10 ∧
      SwapMessageV1.readSlice order.redeemerMessage =
        .error (.invalidData "Invalid SwapType") := by
  have hrun : ((initiate deployment (externals 0 0) (msg 0) SOLANA_CHAIN_ID
      (toUniversalAddress recipient) (usdcForSol 5) (world fun _ => 0)).toOption.map fun r =>
        r.2.orders) = some [⟨10, 1, toUniversalAddress (address 0x9ee4),
          toBE 1 1 ++ (toUniversalAddress recipient).toList ++ [0, 1] ++ toBE 4 0 ++ toBE 16 5 ++
            [5, 0], none, 0⟩] := by decide +kernel
  obtain ⟨⟨ret, w'⟩, hok, horders⟩ := Option.map_eq_some_iff.1 hrun
  exact ⟨ret, w', _, toOption_eq_some.1 hok, horders, rfl, by decide +kernel⟩

/-- The same parameters with the type of Jupiter arrive as they were sent. -/
theorem jupiterSwap_decoded :
    ∃ (ret : Bytes) (i : Initiated deployment (externals 0 0) (msg 0) SOLANA_CHAIN_ID
        (toUniversalAddress recipient) (usdcForSol 16) (world fun _ => 0)),
      initiate deployment (externals 0 0) (msg 0) SOLANA_CHAIN_ID (toUniversalAddress recipient)
        (usdcForSol 16) (world fun _ => 0) = .ok (ret, i.result) ∧
      SwapMessageV1.readSlice i.order.redeemerMessage = .ok (sent i) := by
  have hrun : (initiate deployment (externals 0 0) (msg 0) SOLANA_CHAIN_ID
      (toUniversalAddress recipient) (usdcForSol 16) (world fun _ => 0)).toOption.isSome = true := by
    decide +kernel
  obtain ⟨⟨ret, w'⟩, hok⟩ := Option.isSome_iff_exists.1 hrun
  have hsuccess := toOption_eq_some.1 hok
  obtain ⟨i, rfl, -, hiff, -⟩ := order_decoded_iff hsuccess
  have hmos : (parseParamBaseStructure SOLANA_CHAIN_ID (usdcForSol 16)).toOption.map (fun mos =>
      decide (Decodable mos (usdcForSol 16))) = some true := by decide +kernel
  rw [i.parsed] at hmos
  exact ⟨ret, i, hsuccess, hiff.2 (of_decide_eq_true (Option.some.inj hmos))⟩

end Sample

end SwapLayer.Bridge
