import SwapLayer.Evm.Initiate
import SwapLayer.Evm.Redeem

/-!
# Messages between EVM chains

What the contract of the target chain reads of a message that `initiate` put into an order.

The message is assembled from slices of the caller's parameters, cut out where the skipping walk of
`parseParamBaseStructure` stood; `redeem` takes it apart with other functions, which skip other things.
`callerOutput` is the output section as it stands in the caller's parameters, in the form in which
`redeem` reads it from the message.

Results:
* `parseEvmSwapParams_of_skip`: a swap section that is skipped to the end of one string is parsed to the
  end of another one with the same tail.
* `Initiated.parseOutput_message`: the output section of the caller is read from the message, to its end.
* `initiate_roundTrip`: so is everything else.
-/

namespace SwapLayer.Evm

open ByteString Program

/-! ## The output section on both sides -/

/-- What a swap section at `offset` says to an EVM router: nothing but the numbers, if its type is not
an EVM one. -/
def swapSectionAt (inputToken outputToken : Address) (params : Bytes) (offset : ℕ) : EvmSwapParams :=
  if IsEvmSwapType (swapTypeAt params offset) then
    ⟨readBE 4 params offset, readBE 16 params (offset + 4), swapTypeAt params offset,
      evmPath inputToken outputToken params offset⟩
  else ⟨readBE 4 params offset, readBE 16 params (offset + 4), SWAP_TYPE_INVALID, []⟩

/-- The output token of a caller: the low 20 bytes of the address in the parameters. -/
def outputAddress (params : Bytes) (offset : ℕ) : Address :=
  sliceFixed 20 params (offset + (UNIVERSAL_ADDRESS_SIZE - ADDRESS_SIZE))

/-- An output block with its parameters at `offset`, in the form in which `redeem` reads it. -/
def outputAt (d : Deployment) (mode : IoToken) (params : Bytes) (offset : ℕ) : Option OutputSwap :=
  match mode with
  | .usdc => none
  | .gas => some ⟨.gas, d.wnative, swapSectionAt d.usdc d.wnative params offset⟩
  | .other => some ⟨.other, outputAddress params offset,
      swapSectionAt d.usdc (outputAddress params offset) params (offset + UNIVERSAL_ADDRESS_SIZE)⟩

/-- The output block of the caller's parameters. -/
def callerOutput (d : Deployment) (mos : ModesOffsetsSizes) (params : Bytes) : Option OutputSwap :=
  outputAt d mos.output.mode params mos.output.offset

section Sides

variable {bs cs : Bytes} {k p : ℕ}

/-- The sections of two strings with a common tail say the same. -/
theorem swapSectionAt_of_drop_eq (h : bs.drop k = cs.drop p) (tokenIn tokenOut : Address) (j : ℕ) :
    swapSectionAt tokenIn tokenOut bs (k + j) = swapSectionAt tokenIn tokenOut cs (p + j) := by
  unfold swapSectionAt evmPath swapTypeAt pathLengthAt
  simp only [Nat.add_assoc, readBE_of_drop_eq h, slice_of_drop_eq h]

theorem swapTypeAt_of_drop_eq (h : bs.drop k = cs.drop p) (j : ℕ) :
    swapTypeAt bs (k + j) = swapTypeAt cs (p + j) := by
  unfold swapTypeAt
  rw [Nat.add_assoc, readBE_of_drop_eq h, Nat.add_assoc]

/-- **A swap section that is skipped to the end on one side** is parsed to the end on the other. -/
theorem parseEvmSwapParams_of_skip (h : bs.drop k = cs.drop p)
    (hlen : bs.length + p = cs.length + k) (tokenIn tokenOut : Address) {j swapType count : ℕ}
    (hskip : parseSwapTypeAndCountAndSkipParams cs (p + j) = .ok (swapType, count, cs.length)) :
    parseEvmSwapParams tokenIn tokenOut bs (k + j) =
      (swapSectionAt tokenIn tokenOut cs (p + j), bs.length) := by
  have htype := swapTypeAt_of_drop_eq h j
  rw [← swapSectionAt_of_drop_eq h]
  unfold swapSectionAt
  by_cases hevm : IsEvmSwapType (swapTypeAt bs (k + j))
  · have hpath : pathLengthAt bs (k + j) = pathLengthAt cs (p + j) := by
      rw [pathLengthAt, pathLengthAt, Nat.add_assoc, readBE_of_drop_eq h, Nat.add_assoc]
    rw [parseSwapTypeAndCount_of_evm (htype ▸ hevm)] at hskip
    have hend := congrArg (fun r => r.2.2) (Except.ok.inj hskip)
    simp only at hend
    rw [parseEvmSwapParams_of_evm _ _ hevm, if_pos hevm, hpath]
    congr 1
    omega
  · rw [parseEvmSwapParams_of_not_evm _ _ hevm, if_neg hevm]

/-- **An output section that `initiate` accepted** is parsed to the end by `redeem`, wherever it
stands in the message. -/
theorem parseOutput_of_skipOutput (d : Deployment) {targetChain : ℕ} {mode : IoToken}
    (h : bs.drop k = cs.drop p) (hlen : bs.length + p = cs.length + k)
    (hmode : readBE 1 cs p = mode.toUint8)
    (hskip : skipOutput targetChain mode cs (p + 1) = .ok cs.length) :
    parseOutput d bs k = .ok (outputAt d mode cs (p + 1), bs.length) := by
  have hio : parseIoToken bs k = .ok (mode, k + 1) := by
    refine parseIoToken_ok.2 ⟨?_, rfl⟩
    have := readBE_of_drop_eq h 1 0
    rwa [Nat.add_zero, Nat.add_zero, hmode] at this
  rw [parseOutput_eq]
  rw [hio, except_ok_bind]
  cases mode with
  | usdc =>
    have hend : p + 1 = cs.length := Except.ok.inj hskip
    have hk : k + 1 = bs.length := by omega
    rw [← hk]
    rfl
  | gas =>
    simp only [skipOutput, except_bind_ok, except_pure_ok, Prod.exists] at hskip
    obtain ⟨swapType, count, _, hswap, rfl⟩ := hskip
    simp only [parseEvmSwapParams_of_skip h hlen d.usdc d.wnative hswap]
    rfl
  | other =>
    simp only [skipOutput, asBytes32Unchecked, except_bind_ok, except_pure_ok,
      Prod.exists] at hskip
    obtain ⟨_, -, swapType, count, _, hswap, rfl⟩ := hskip
    rw [Nat.add_assoc] at hswap
    have htoken : parseIERC20 bs (k + 1 + (UNIVERSAL_ADDRESS_SIZE - ADDRESS_SIZE)) =
        (outputAddress cs (p + 1), k + (1 + 32)) := by
      rw [parseIERC20, asAddressUnchecked, outputAddress]
      refine Prod.ext (Subtype.ext ?_) rfl
      exact slice_of_drop_eq h 13 20
    simp only [htoken, parseEvmSwapParams_of_skip h hlen d.usdc (outputAddress cs (p + 1)) hswap]
    rfl

end Sides

/-! ## Whole messages -/

section Message

variable {d : Deployment} {x : Externals} {msg : Msg d} {w w' : World} {targetChain : ℕ}
  {recipient : Bytes32} {params : Bytes}

namespace Initiated

variable (i : Initiated d x msg targetChain recipient params w)

/-- The output section starts behind the redeem parameters of the message. -/
theorem drop_message : i.message.drop (REDEEM_OFFSET + i.fields.encode.length) =
    params.drop (i.mos.output.offset - MODE_SIZE) := by
  obtain ⟨hpos, hend⟩ := output_in_range i.parsed
  rw [i.message_eq, drop_swapOffset_encode, outputSwapSection,
    slice_to_end (by unfold MODE_SIZE; omega)]

/-- **The output section of a message of `initiate`** is the caller's, and is consumed to the end. -/
theorem parseOutput_message (d : Deployment) :
    parseOutput d i.message (REDEEM_OFFSET + i.fields.encode.length) =
      .ok (callerOutput d i.mos params, i.message.length) := by
  have hdrop := i.drop_message
  obtain ⟨hpos, hend⟩ := output_in_range i.parsed
  obtain ⟨_, _, o₃, -, -, -, hout⟩ := parseParamBaseStructure_ok i.parsed
  obtain ⟨hmode, hoff, hskip, -⟩ := parseOutputBlock_ok hout
  have hstart : i.mos.output.offset - MODE_SIZE = o₃ := by
    rw [hoff]
    rfl
  rw [hstart] at hdrop
  have hlen : i.message.length + o₃ = params.length + (REDEEM_OFFSET + i.fields.encode.length) := by
    have h₁ := congrArg List.length i.message_eq
    rw [encodeSwapMessage_eq, outputSwapSection, hstart,
      slice_to_end (by unfold MODE_SIZE; omega)] at h₁
    simp only [List.length_append, length_messageHead, List.length_drop] at h₁
    omega
  rw [callerOutput, hoff]
  rw [hoff] at hskip
  exact parseOutput_of_skipOutput d hdrop hlen hmode hskip

end Initiated

/-- What the contract of another EVM chain reads of the message of a call is what the caller gave: the
recipient, the redeem mode and its parameters, and the output section, up to the end. -/
structure RoundTrip (i : Initiated d x msg targetChain recipient params w)
    (sms : SwapMessageStructure) : Prop where
  recipient : toUniversalAddress sms.recipient = recipient
  mode : sms.redeemMode = i.mos.redeem.mode
  payload : i.mos.redeem.mode = .payload →
    sms.sender = toUniversalAddress msg.sender ∧
      sms.payload = slice params (i.mos.redeem.offset + 2) (readBE 2 params i.mos.redeem.offset)
  relay : i.mos.redeem.mode = .relay → ∃ gasDropoff relayingFee maxRelayingFee swapType swapCount,
    parseRelayParams params i.mos.redeem.offset =
        (gasDropoff, maxRelayingFee, i.mos.redeem.offset + RELAY_PARAM_SIZE) ∧
      outputSwapTypeAndCount i.mos params = .ok (swapType, swapCount) ∧
      calcRelayingFee (w.storage.feeParams targetChain) targetChain gasDropoff i.mos.output.mode
        swapCount swapType = .ok relayingFee ∧
      relayingFee ≤ maxRelayingFee ∧ relayingFee < 2 ^ 48 ∧
      parseRelayParams i.order.redeemerMessage sms.redeemOffset =
        (gasDropoff, relayingFee, sms.swapOffset)
  output : i.order.redeemerMessage.drop sms.swapOffset =
    slice params (i.mos.output.offset - MODE_SIZE) (i.mos.output.size + MODE_SIZE)
  parsed : ∀ target : Deployment, parseOutput target i.order.redeemerMessage sms.swapOffset =
    .ok (callerOutput target i.mos params, i.order.redeemerMessage.length)

/-- The relaying fee of a call is the full one, and within its maximum. -/
theorem redeemParams_relay {storage : Storage} {mos : ModesOffsetsSizes} {sender : Address}
    {relayingFee : ℕ} {payload : Bytes} (hmode : mos.redeem.mode = .relay)
    (h : redeemParams storage targetChain mos params sender = .ok (relayingFee, payload)) :
    ∃ swapType swapCount, outputSwapTypeAndCount mos params = .ok (swapType, swapCount) ∧
      calcRelayingFee (storage.feeParams targetChain) targetChain
        (parseRelayParams params mos.redeem.offset).1 mos.output.mode swapCount swapType =
          .ok relayingFee ∧
      relayingFee ≤ (parseRelayParams params mos.redeem.offset).2.1 := by
  unfold redeemParams at h
  rw [hmode] at h
  obtain ⟨⟨swapType, swapCount⟩, hswap, h₁⟩ := except_bind_ok.1 h
  obtain ⟨fee, hfee, h₂⟩ := except_bind_ok.1 h₁
  obtain ⟨_, hle, h₃⟩ := except_bind_ok.1 h₂
  cases h₃
  exact ⟨swapType, swapCount, hswap, hfee, ensure_ok.1 hle⟩

theorem Initiated.roundTrip (i : Initiated d x msg targetChain recipient params w) {addr : Address}
    (haddr : fromUniversalAddress recipient = .ok addr) :
    ∃ sms, parseSwapMessageStructure i.order.redeemerMessage = .ok sms ∧ RoundTrip i sms := by
  have hparse := parseSwapMessageStructure_encode recipient i.fields
    (outputSwapSection i.mos params)
  rw [haddr, ← i.message_eq] at hparse
  refine ⟨_, hparse, ⟨(fromUniversalAddress_ok.1 haddr).symm, i.fields_mode, fun hmode => ?_,
    fun hmode => ?_, ?_, fun target => i.parseOutput_message target⟩⟩
  · unfold Initiated.fields redeemFields
    split <;> simp_all [RedeemFields.sender, RedeemFields.bytes]
  · obtain ⟨swapType, swapCount, hswap, hfee, hle⟩ := redeemParams_relay hmode i.redeem
    have hlt : i.relayingFee < 2 ^ 48 := redeemParams_fee_lt i.redeem
    refine ⟨_, i.relayingFee, _, swapType, swapCount, rfl, hswap, hfee, hle, hlt, ?_⟩
    have hrelay := parseRelayParams_message recipient (outputSwapSection i.mos params)
      (i.fields_mode.trans hmode)
    rw [← i.message_eq, i.fields_fee] at hrelay
    have hfields : i.fields.dropoff = (parseRelayParams params i.mos.redeem.offset).1 ∧
        i.fields.encode.length = RELAY_PARAM_SIZE := by
      unfold Initiated.fields redeemFields
      split <;> simp_all [RedeemFields.dropoff, RedeemFields.encode, encodeSwapMessageRelayParams,
        RELAY_PARAM_SIZE, RELAY_GAS_DROPOFF_SIZE, RELAY_MAX_RELAYER_FEE_SIZE]
    rw [hfields.1, ← hfields.2] at hrelay
    exact hrelay
  · show i.message.drop (REDEEM_OFFSET + i.fields.encode.length) = _
    rw [i.message_eq, drop_swapOffset_encode]
    rfl

/-- **A message between EVM chains is read as it was meant.** For every successful `initiate` with a
target other than Solana, the message of its order is accepted on the target chain, and what is read
there is what the caller gave. -/
theorem initiate_roundTrip {ret : Bytes}
    (h : initiate d x msg targetChain recipient params w = .ok (ret, w'))
    (htarget : targetChain ≠ SOLANA_CHAIN_ID) :
    ∃ i : Initiated d x msg targetChain recipient params w,
      w'.orders = w.orders ++ [i.order] ∧
      ∃ sms, parseSwapMessageStructure i.order.redeemerMessage = .ok sms ∧ RoundTrip i sms := by
  obtain ⟨i, rfl⟩ := initiate_ok h
  obtain ⟨addr, haddr⟩ := (fromUniversalAddress_isOk recipient).2
    ((checkAddr_ok.1 i.checked).2 htarget)
  exact ⟨i, i.orders_eq, i.roundTrip haddr⟩

end Message

namespace Sample

/-- 10 units of USDC with a payload of two bytes, and an output swap over two pools. -/
def payloadForGas : Bytes :=
  [0, 1] ++ toBE 2 2 ++ [7, 8] ++ [1, 0] ++ toBE 16 10 ++ [0] ++ [1] ++ toBE 4 60 ++ toBE 16 5 ++
    [1] ++ toBE 3 500 ++ [1] ++ usdc.toList ++ toBE 3 3000

/-- The message is read as it was meant. -/
theorem payload_roundTrip :
    ∃ (i : Initiated deployment (externals 0 0) (msg 0) 3 (toUniversalAddress recipient) payloadForGas
        (world fun _ => 0)) (sms : SwapMessageStructure),
      parseSwapMessageStructure i.order.redeemerMessage = .ok sms ∧ RoundTrip i sms := by
  have hrun : (initiate deployment (externals 0 0) (msg 0) 3 (toUniversalAddress recipient)
      payloadForGas (world fun _ => 0)).toOption.isSome = true := by decide +kernel
  obtain ⟨⟨ret, w'⟩, hok⟩ := Option.isSome_iff_exists.1 hrun
  obtain ⟨i, -, sms, hparse, htrip⟩ :=
    initiate_roundTrip (toOption_eq_some.1 hok) (by decide)
  exact ⟨i, sms, hparse, htrip⟩

end Sample

end SwapLayer.Evm
