import SwapLayer.Evm.ParamLayout
import SwapLayer.Evm.RoundTrip

/-!
# From encoded fields to the order and back

What `initiate` makes of the parameters that are the encoding of some fields: its message has the output
section of the fields. And what `redeem` makes of an output section, which stands at the end of a message
or is all of the extra parameters.

Results:
* `initiate_iff`: a call succeeds iff it gets as far as its order and the liquidity layer takes it, and
  what it returns.
* `message_understood`: the message of the order.
* `parseOutput_section`: the output section as `redeem` reads it.
* `redeem_section`: who may override the message with an output section, and what is redeemed then.
-/

namespace SwapLayer.Evm

open ByteString Program Ledger

/-! ## What a call returns -/

section Returned

variable {d : Deployment} {x : Externals} {msg : Msg d} {w w' : World} {targetChain : ℕ}
  {recipient : Bytes32} {params ret : Bytes}

/-- What `initiate` returns for the sequence numbers of the liquidity layer. -/
def Initiated.returned (i : Initiated d x msg targetChain recipient params w) (sequences : ℕ × ℕ × ℕ) :
    Bytes :=
  if i.mos.redeem.mode = .relay then
    encodeOrderResult (fastPart i.mos params).isSome i.usdcAmount sequences ++ toBE 32 i.relayingFee
  else encodeOrderResult (fastPart i.mos params).isSome i.usdcAmount sequences

/-- A call that gets as far as its order does what the liquidity layer does with it. -/
theorem Initiated.initiate_eq (i : Initiated d x msg targetChain recipient params w) :
    initiate d x msg targetChain recipient params w =
      (placeOrder d x i.order >>= fun sequences => pure (i.returned sequences)) i.acquired :=
  have hreceive : receive x .eth msg.value .token w =
    .ok ((), w.withHeld (credit w.held .eth msg.value)) := rfl
  have hstorage (w' : World) : (getStorage : Contract Storage) w' = .ok (w'.storage, w') := rfl
  calc initiate d x msg targetChain recipient params w
    _ = _ := bind_of_ok hreceive
    _ = _ := bind_of_ok (lift_ok.2 ⟨i.checked, rfl⟩)
    _ = _ := bind_of_ok (lift_ok.2 ⟨i.parsed, rfl⟩)
    _ = _ := bind_of_ok (hstorage _)
    _ = _ := bind_of_ok (lift_ok.2 ⟨i.redeem, rfl⟩)
    _ = _ := bind_of_ok i.acquire
    _ = _ := bind_of_ok (hstorage _)
    _ = _ := bind_of_ok (a := ()) (require_ok.2 ⟨i.peer, rfl⟩)
    _ = _ := rfl

theorem Initiated.placeOrder_ok_iff (i : Initiated d x msg targetChain recipient params w)
    {sequences : ℕ × ℕ × ℕ} : placeOrder d x i.order i.acquired = .ok (sequences, w') ↔
      x.placeOrder i.order = some sequences ∧ w' = i.result := by
  unfold placeOrder
  cases x.placeOrder i.order with
  | none => exact ⟨fun h => (by cases h), fun h => (by cases h.1)⟩
  | some s =>
    have hle : i.order.value ≤ i.acquired.held .eth ∧ i.order.amount ≤ i.acquired.held (.erc20 d.usdc) :=
      ⟨i.value_le, i.amount_le⟩
    dsimp only
    rw [if_pos hle]
    constructor
    · intro h
      cases h
      exact ⟨rfl, rfl⟩
    · rintro ⟨⟨⟩, rfl⟩
      rfl

/-- **A call succeeds** iff it gets as far as its order and the liquidity layer takes the order. -/
theorem initiate_iff : initiate d x msg targetChain recipient params w = .ok (ret, w') ↔
    ∃ (i : Initiated d x msg targetChain recipient params w) (sequences : ℕ × ℕ × ℕ),
      x.placeOrder i.order = some sequences ∧ ret = i.returned sequences ∧ w' = i.result := by
  constructor
  · intro h
    obtain ⟨i, -⟩ := initiate_ok h
    rw [i.initiate_eq] at h
    obtain ⟨sequences, _, horder, hret⟩ := bind_ok.1 h
    obtain ⟨rfl, rfl⟩ := pure_ok.1 hret
    obtain ⟨hplaced, rfl⟩ := i.placeOrder_ok_iff.1 horder
    exact ⟨i, sequences, hplaced, rfl, rfl⟩
  · rintro ⟨i, sequences, hplaced, rfl, rfl⟩
    rw [i.initiate_eq]
    exact bind_ok.2 ⟨sequences, i.result, i.placeOrder_ok_iff.2 ⟨hplaced, rfl⟩, rfl⟩

end Returned

/-! ## The message of an order -/

section Order

variable {d : Deployment} {x : Externals} {msg : Msg d} {w : World} {targetChain : ℕ}
  {recipient : Bytes32} {params : Bytes} {f : InitiateFields}

/-- Where the output section of encoded fields is found. -/
theorem output_holds {mos : ModesOffsetsSizes} (hfits : f.Fits)
    (hparse : parseParamBaseStructure targetChain f.encode = .ok mos) :
    ∃ o, parseOutputBlock targetChain f.encode o = .ok (mos.output, f.encode.length) ∧
      Holds f.encode o f.output.encode := by
  obtain ⟨o₁, o₂, o₃, hfast, hredeem, hinput, hout⟩ := parseParamBaseStructure_ok hparse
  have h := holds_self f.encode
  obtain ⟨_, hfast', -⟩ := fastTransfer_reads h.left hfits.fastTransfer
  obtain ⟨-, rfl⟩ := Prod.mk.inj (Except.ok.inj (hfast.symm.trans hfast'))
  obtain ⟨_, hredeem', -⟩ := redeem_reads h.right.left hfits.redeem
  obtain ⟨-, rfl⟩ := Prod.mk.inj (Except.ok.inj (hredeem.symm.trans hredeem'))
  have htail := h.right.right
  have hin := htail
  rw [← List.append_assoc] at hin
  obtain ⟨_, hinput', -⟩ := input_reads hin.left hfits.input
  obtain ⟨-, hoffset⟩ := Prod.mk.inj (Except.ok.inj (hinput.symm.trans hinput'))
  obtain ⟨-, rfl⟩ := Prod.mk.inj hoffset
  exact ⟨_, hout, (htail.rest (length_toBE 1 _)).right⟩

/-- What is accepted has an output token of the target chain. -/
theorem accepted_validOn {mos : ModesOffsetsSizes} (hfits : f.Fits)
    (hparse : parseParamBaseStructure targetChain f.encode = .ok mos) :
    f.output.ValidOn targetChain := by
  obtain ⟨o, hout, hholds⟩ := output_holds hfits hparse
  obtain ⟨hmode, hoffset, hskip, -⟩ := parseOutputBlock_ok hout
  cases hf : f.output with
  | usdc => trivial
  | gas => trivial
  | other token swap =>
    rw [hf] at hholds
    have hother : mos.output.mode = .other := by
      have hread : readBE 1 f.encode o = 2 := hholds.left.readBE (by decide)
      rw [hread] at hmode
      cases hm : mos.output.mode <;> rw [hm] at hmode <;> simp_all [IoToken.toUint8]
    have htoken : sliceFixed 32 f.encode mos.output.offset = token := by
      rw [hoffset]
      exact (hholds.rest (length_toBE 1 _)).left.sliceFixed
    rw [hother] at hskip
    obtain ⟨_, hcheck, -⟩ := except_bind_ok.1 hskip
    rwa [htoken] at hcheck

/-- **The output section of the message** is the encoded output of what was understood: it is the end of
the string, and as long. -/
theorem outputSwapSection_understood {mos : ModesOffsetsSizes} (hfits : f.Fits)
    (hparse : parseParamBaseStructure targetChain f.encode = .ok mos)
    (hreads : Reads f.encode mos f) : outputSwapSection mos f.encode = f.output.encode := by
  have htiled := parseParamBaseStructure_tiled hparse
  have hsize := hreads.output.size hfits.output
  have hend := htiled.ending
  have hoffset := htiled.output
  obtain ⟨front, hfront⟩ : ∃ front, f.encode = front ++ f.output.encode :=
    ⟨encodeFastTransfer f.fastTransfer ++ (f.redeem.encode ++ (toBE 1 f.isExactIn.toNat ++
      f.input.encode)), by simp [InitiateFields.encode]⟩
  have hlength := congrArg List.length hfront
  rw [List.length_append] at hlength
  unfold outputSwapSection MODE_SIZE at *
  have hstart : mos.output.offset - 1 = front.length + 0 := by omega
  have hcount : mos.output.size + 1 = f.output.encode.length := by omega
  rw [hstart, hcount]
  conv_lhs => rw [hfront]
  rw [slice_append_right, slice_self]

/-- The message of a call with understood parameters. -/
theorem message_understood (hfits : f.Fits)
    (i : Initiated d x msg targetChain recipient f.encode w) :
    Reads f.encode i.mos f ∧ i.order.redeemerMessage =
      encodeSwapMessage recipient i.fields.mode i.fields.encode f.output.encode := by
  obtain ⟨mos, hparse, hreads⟩ := understood_encode hfits (accepted_validOn hfits i.parsed)
  obtain rfl := Except.ok.inj (hparse.symm.trans i.parsed)
  exact ⟨hreads, by rw [← outputSwapSection_understood hfits i.parsed hreads]; exact i.message_eq⟩

/-- The fast transfer part of an order is the one that was read. -/
theorem FastTransferReads.fastPart {mos : ModesOffsetsSizes} {o : Option (ℕ × ℕ)}
    (h : FastTransferReads params mos.fastTransfer o) :
    Evm.fastPart mos params = o ∧ (mos.fastTransfer.mode = if o.isSome then .enabled else .disabled) := by
  unfold Evm.fastPart Evm.fastTransferParams
  cases o with
  | none => exact ⟨by rw [h.1], h.1⟩
  | some o =>
    obtain ⟨hmode, hfee, hdeadline⟩ := h
    refine ⟨?_, hmode⟩
    rw [hmode]
    simp only [hfee, hdeadline]

/-- Swap type and number of swaps of an output. -/
def OutputFields.typeAndCount : OutputFields → ℕ × ℕ
  | usdc => (0, 0)
  | gas swap => (swap.route.swapType, swap.route.swapCount)
  | other _ swap => (swap.route.swapType, swap.route.swapCount)

/-- They are what the call works out the fee for. -/
theorem OutputReads.typeAndCount {mos : ModesOffsetsSizes} {out : OutputFields}
    (h : OutputReads params mos.output out) :
    outputSwapTypeAndCount mos params = .ok out.typeAndCount := by
  unfold outputSwapTypeAndCount outputSwapOffset
  cases out with
  | usdc =>
    rw [h.1]
    rfl
  | gas swap =>
    obtain ⟨hmode, hswap⟩ := h
    rw [hmode]
    exact except_bind_ok.2 ⟨_, hswap.skipped, rfl⟩
  | other token swap =>
    obtain ⟨hmode, -, hswap⟩ := h
    rw [hmode]
    exact except_bind_ok.2 ⟨_, hswap.skipped, rfl⟩

/-- A payload gets into the message with its sender. -/
theorem Initiated.fields_payload (i : Initiated d x msg targetChain recipient params w) {bytes : Bytes}
    (h : RedeemReads params i.mos.redeem (.payload bytes)) :
    i.fields.sender = toUniversalAddress msg.sender ∧ i.fields.bytes = bytes := by
  obtain ⟨hmode, hlength, hbytes⟩ := h
  have hlen : readBE 2 params i.mos.redeem.offset = bytes.length := (Prod.mk.inj hlength).1
  have hslice : slice params (i.mos.redeem.offset + 2) bytes.length = bytes := (Prod.mk.inj hbytes).1
  unfold Initiated.fields redeemFields
  simp only [hmode]
  exact ⟨rfl, (congrArg (slice params _) hlen).trans hslice⟩

/-- **The amount and the fee of an order**: the amount is of type `uint64`; the message fees go to the
liquidity layer, out of the input if that is ETH. -/
theorem acquireUsdc_returned {totalFee usdcAmount wormholeFee : ℕ} {mos : ModesOffsetsSizes} {w' : World}
    (h : acquireUsdc d x msg totalFee mos params w = .ok ((usdcAmount, wormholeFee), w')) :
    usdcAmount < 2 ^ 64 ∧
      wormholeFee = if mos.input.mode = .gas then gasWormholeFee x mos.fastTransfer.mode else msg.value := by
  obtain ⟨finalAmount, hfinal, rfl⟩ := acquireUsdc_ok.1 h
  refine ⟨Nat.mod_lt _ (by decide), ?_⟩
  unfold acquireFinal at hfinal
  cases hm : mos.input.mode with
  | usdc =>
    rw [hm] at hfinal
    obtain ⟨_, _, -, h₁⟩ := bind_ok.1 hfinal
    obtain ⟨_, _, -, hret⟩ := bind_ok.1 h₁
    exact congrArg Prod.snd (pure_ok.1 hret).1
  | gas =>
    rw [hm] at hfinal
    obtain ⟨_, _, -, h₁⟩ := bind_ok.1 hfinal
    obtain ⟨_, _, -, h₂⟩ := bind_ok.1 h₁
    obtain ⟨_, _, -, hret⟩ := bind_ok.1 h₂
    exact congrArg Prod.snd (pure_ok.1 hret).1
  | other =>
    rw [hm] at hfinal
    obtain ⟨_, _, -, h₁⟩ := bind_ok.1 hfinal
    obtain ⟨_, _, -, h₂⟩ := bind_ok.1 h₁
    obtain ⟨_, _, -, hret⟩ := bind_ok.1 h₂
    exact congrArg Prod.snd (pure_ok.1 hret).1

end Order

/-! ## The output section for the contract -/

section Output

variable {bs : Bytes} {offset : ℕ}

/-- An output as `redeem` works with it: USDC needs no swap, and of an address it takes the low bytes. -/
def outputSwap (d : Deployment) : OutputFields → Option OutputSwap
  | .usdc => none
  | .gas swap => some ⟨.gas, d.wnative, swap.evmSwapParams d.usdc d.wnative⟩
  | .other token swap =>
    some ⟨.other, sliceFixed 20 token.toList 12, swap.evmSwapParams d.usdc (sliceFixed 20 token.toList 12)⟩

/-- A swap section at the end of a string is read to its end, also if it is for another chain. -/
theorem parseEvmSwapParams_section {s : SwapFields} (hfits : s.Fits)
    (h : Holds bs offset s.encode) (hend : offset + s.encode.length = bs.length)
    (inputToken outputToken : Address) :
    parseEvmSwapParams inputToken outputToken bs offset =
      (s.evmSwapParams inputToken outputToken, bs.length) := by
  have hreads := SwapFields.reads h hfits
  refine Prod.ext (hreads.read inputToken outputToken) ?_
  cases hroute : s.route with
  | evm swapType path => rw [hreads.ends swapType path hroute, hend]
  | jupiter dex =>
    obtain ⟨hdeadline, hamount, -⟩ := hfits
    rw [SwapFields.encode, hroute] at h
    rw [parseEvmSwapParams_holds_of_not_evm h.left hdeadline hamount (by decide) (by decide)]

/-- **An output section at the end of a string** is what `redeem` reads there. -/
theorem parseOutput_section (d : Deployment) {out : OutputFields} (hfits : out.Fits)
    (h : Holds bs offset out.encode) (hend : offset + out.encode.length = bs.length) :
    parseOutput d bs offset = .ok (outputSwap d out, bs.length) := by
  rw [parseOutput_eq]
  cases out with
  | usdc =>
    have hlast : offset + 1 = bs.length := hend
    exact except_bind_ok.2 ⟨_, parseIoToken_holds h, by rw [← hlast]; rfl⟩
  | gas swap =>
    have hrest := h.rest (length_toBE 1 1)
    have hlast : offset + 1 + swap.encode.length = bs.length := by
      rw [← hend, OutputFields.encode, List.length_append, length_toBE]
      omega
    refine except_bind_ok.2 ⟨_, parseIoToken_holds h.left, ?_⟩
    simp only [parseEvmSwapParams_section hfits hrest hlast]
    rfl
  | other token swap =>
    have htoken := h.rest (length_toBE 1 2)
    have hswap := htoken.rest token.toList_length
    have hlast : offset + 1 + 12 + 20 + swap.encode.length = bs.length := by
      rw [← hend, OutputFields.encode, List.length_append, List.length_append, length_toBE,
        token.toList_length]
      omega
    -- the address is the end of the universal address
    have haddress : parseIERC20 bs (offset + 1 + (UNIVERSAL_ADDRESS_SIZE - ADDRESS_SIZE)) =
        (sliceFixed 20 token.toList 12, offset + 1 + 12 + 20) := by
      have hinner : slice bs (offset + 1 + 12) 20 = slice token.toList 12 20 :=
        htoken.left.slice_inner (by rw [token.toList_length])
      exact Prod.ext (Subtype.ext hinner) rfl
    refine except_bind_ok.2 ⟨_, parseIoToken_holds h.left, ?_⟩
    simp only [haddress, parseEvmSwapParams_section hfits hswap hlast]
    rfl

/-- **Only the recipient may override** the message with an output section; then, whatever the message
says, no fee is paid, and the whole amount goes into the swap that was asked for. -/
theorem redeem_section {d : Deployment} {x : Externals} {msg : Msg d} {w : World} {attestations : Bytes}
    {out : OutputFields} (hfits : out.Fits) (r : Redeemed d x msg out.encode attestations w) :
    msg.sender = r.sms.recipient ∧ r.plan = ⟨0, 0, r.fill.amount, true⟩ ∧ r.output = outputSwap d out := by
  have hne : out.encode ≠ [] := by cases out <;> simp [OutputFields.encode, toBE]
  have hplan := redeemPlan_ok.1 r.planOk
  by_cases hrelays : RelaysFor msg r.sms
  · rw [if_pos hrelays] at hplan
    exact absurd hplan.2.2.1 hne
  · rw [if_neg hrelays] at hplan
    obtain ⟨-, hsender | hsender, hplan⟩ := hplan
    · have hover : decide (msg.sender = r.sms.recipient ∧ out.encode ≠ []) = true :=
        decide_eq_true ⟨hsender, hne⟩
      rw [hover] at hplan
      have houtput := r.outputOk
      rw [hplan] at houtput
      have hsection : parseOutput d out.encode 0 = .ok (outputSwap d out, out.encode.length) :=
        parseOutput_section d hfits (holds_self _) (Nat.zero_add _)
      exact ⟨hsender, hplan, (Prod.mk.inj (Except.ok.inj (houtput.symm.trans hsection))).1⟩
    · exact absurd hsender.2 hne

end Output

end SwapLayer.Evm
