import SwapLayer.Evm.Redeem
import SwapLayer.Evm.RoundTrip

/-!
# What stands behind a message

The reads of `redeem` are unchecked: past the end of a message they see what stands in memory
behind it, which depends on what the call has allocated before. `redeemIn` takes the memory as a
parameter, and `redeem` is the instance with zeros everywhere.

An output section that ends before its swap type is decided by that memory: a byte that names an
EVM router there makes the section run past the message, and `checkLength` reverts. A section that
reaches to its swap type (`SwapTypeInside`) is read from the message alone.

Results:
* `parseOutputIn_of_inside`: a section that reaches to its swap type is read as with zeros behind.
* `redeemIn_of_inside`: so is the message it stands in, in a call without parameters.
* `exists_memory_blocking`: any other section has a memory in which every call reverts.
-/

namespace SwapLayer.Evm

open ByteString Program

/-! ## Sections read in memory -/

section Sections

variable {d : Deployment} {message behind : Bytes} {offset : ℕ} {s : Option OutputSwap}

/-- An output section that asks for a swap reaches to the type of the swap. -/
def SwapTypeInside (message : Bytes) (offset : ℕ) : Prop :=
  ∀ t o, parseIoToken message offset = .ok (t, o) → t ≠ .usdc →
    (if t = .other then o + UNIVERSAL_ADDRESS_SIZE else o) + 21 ≤ message.length

/-- A swap section that reaches to its type, and is parsed inside the string, is read from the
string alone. -/
theorem parseEvmSwapParamsIn_of_inside {params : Bytes} {inputToken outputToken : Address}
    (htype : offset + 21 ≤ params.length)
    (hend : (parseEvmSwapParams inputToken outputToken params offset).2 ≤ params.length) :
    parseEvmSwapParamsIn behind inputToken outputToken params offset =
      parseEvmSwapParams inputToken outputToken params offset := by
  have hdeadline : readBE 4 (params ++ behind) offset = readBE 4 params offset :=
    readBE_append_left (by omega) behind
  have hamount : readBE 16 (params ++ behind) (offset + 4) = readBE 16 params (offset + 4) :=
    readBE_append_left (by omega) behind
  have hswap : swapTypeAt (params ++ behind) offset = swapTypeAt params offset :=
    readBE_append_left (by omega) behind
  by_cases hevm : IsEvmSwapType (swapTypeAt params offset)
  · rw [parseEvmSwapParams_of_evm _ _ hevm] at hend
    simp only at hend
    have hlength : pathLengthAt (params ++ behind) offset = pathLengthAt params offset :=
      readBE_append_left (by omega) behind
    have hpath : evmPath inputToken outputToken (params ++ behind) offset =
        evmPath inputToken outputToken params offset := by
      rw [evmPath, evmPath, hlength, slice_append_left (by omega), slice_append_left (by omega)]
    rw [parseEvmSwapParamsIn_of_evm _ _ (hswap ▸ hevm), parseEvmSwapParams_of_evm _ _ hevm,
      hdeadline, hamount, hswap, hlength, hpath]
  · rw [parseEvmSwapParamsIn_of_not_evm _ _ (hswap ▸ hevm), parseEvmSwapParams_of_not_evm _ _ hevm,
      hdeadline, hamount]

/-- The kind of the output of a section that is parsed to the end stands in the message. -/
theorem offset_lt_of_parseOutput (h : parseOutput d message offset = .ok (s, message.length)) :
    offset < message.length := by
  rw [parseOutput_eq] at h
  obtain ⟨⟨t, o⟩, hio, h⟩ := except_bind_ok.1 h
  obtain ⟨hread, rfl⟩ := parseIoToken_ok.1 hio
  cases t with
  | usdc =>
    have hend : offset + 1 = message.length := congrArg Prod.snd (Except.ok.inj h)
    omega
  | gas => exact lt_length_of_readBE_ne_zero (by rw [hread]; decide)
  | other => exact lt_length_of_readBE_ne_zero (by rw [hread]; decide)

theorem parseIoToken_append (h : offset < message.length) :
    parseIoToken (message ++ behind) offset = parseIoToken message offset := by
  have hread : readBE 1 (message ++ behind) offset = readBE 1 message offset :=
    readBE_append_left h behind
  simp only [parseIoToken, asUint8Unchecked, asUint, hread]

/-- **A section that reaches to its swap type** is read as with zeros behind it. -/
theorem parseOutputIn_of_inside (h : parseOutput d message offset = .ok (s, message.length))
    (hinside : SwapTypeInside message offset) :
    parseOutputIn d behind message offset = .ok (s, message.length) := by
  have hlt := offset_lt_of_parseOutput h
  rw [parseOutput_eq] at h
  rw [parseOutputIn, parseIoToken_append hlt]
  obtain ⟨⟨t, o⟩, hio, h⟩ := except_bind_ok.1 h
  have htype := hinside t o hio
  rw [hio, except_ok_bind]
  cases t with
  | usdc => exact h
  | gas =>
    have hend : (parseEvmSwapParams d.usdc d.wnative message o).2 = message.length :=
      congrArg Prod.snd (Except.ok.inj h)
    have hin := htype (by simp)
    simp only [reduceCtorEq, reduceIte] at hin
    simp only [parseEvmSwapParamsIn_of_inside hin hend.le]
    exact h
  | other =>
    have hin := htype (by simp)
    simp only [reduceIte, UNIVERSAL_ADDRESS_SIZE] at hin
    have htoken : parseIERC20 (message ++ behind) (o + (UNIVERSAL_ADDRESS_SIZE - ADDRESS_SIZE)) =
        parseIERC20 message (o + (UNIVERSAL_ADDRESS_SIZE - ADDRESS_SIZE)) := by
      refine Prod.ext (Subtype.ext ?_) rfl
      exact slice_append_left (by simp only [UNIVERSAL_ADDRESS_SIZE, ADDRESS_SIZE]; omega) behind
    have hend : (parseEvmSwapParams d.usdc
        (parseIERC20 message (o + (UNIVERSAL_ADDRESS_SIZE - ADDRESS_SIZE))).1 message
        (o + 32)).2 = message.length := congrArg Prod.snd (Except.ok.inj h)
    have hparams := @parseEvmSwapParamsIn_of_inside behind _ _ _ _ hin hend.le
    rw [← h]
    simp only [htoken]
    rw [show (parseIERC20 message (o + (UNIVERSAL_ADDRESS_SIZE - ADDRESS_SIZE))).2 = o + 32 from rfl,
      hparams]

/-- The memory in which an EVM router is named right where a cut section lacks its swap type. -/
def blockingMemory (message : Bytes) (swapOffset : ℕ) : Bytes :=
  List.replicate (swapOffset + 20 - message.length) 0 ++ [1]

/-- **A swap section cut before its type** runs past the string in such a memory. -/
theorem parseEvmSwapParamsIn_blocking {params : Bytes} (inputToken outputToken : Address)
    (hcut : params.length < offset + 21) :
    params.length <
      (parseEvmSwapParamsIn (blockingMemory params offset) inputToken outputToken params offset).2 := by
  have hbyte : swapTypeAt (params ++ blockingMemory params offset) offset = SWAP_TYPE_UNISWAPV3 := by
    have hlen : (params ++ List.replicate (offset + 20 - params.length) (0 : UInt8)).length =
        offset + 20 := by
      rw [List.length_append, List.length_replicate]
      omega
    have hread := readBE_append_right 1
      (params ++ List.replicate (offset + 20 - params.length) 0) [1] 0
    rw [hlen, List.append_assoc] at hread
    exact hread
  rw [parseEvmSwapParamsIn_of_evm _ _ (.inl hbyte)]
  show params.length < offset + 25 + _
  omega

/-- **An output section cut before its swap type** is not parsed to the end in some memory. -/
theorem exists_memory_not_consumed (h : parseOutput d message offset = .ok (s, message.length))
    (hcut : ¬SwapTypeInside message offset) :
    ∃ behind, ∀ s', parseOutputIn d behind message offset ≠ .ok (s', message.length) := by
  have hlt := offset_lt_of_parseOutput h
  unfold SwapTypeInside at hcut
  push Not at hcut
  obtain ⟨t, o, hio, hswap, hcut⟩ := hcut
  cases t with
  | usdc => exact absurd rfl hswap
  | gas =>
    simp only [reduceCtorEq, reduceIte] at hcut
    refine ⟨blockingMemory message o, fun s' hs' => ?_⟩
    rw [parseOutputIn, parseIoToken_append hlt, hio] at hs'
    have hend := congrArg Prod.snd (Except.ok.inj hs')
    have hpast := parseEvmSwapParamsIn_blocking d.usdc d.wnative hcut
    exact absurd hend (Nat.ne_of_gt hpast)
  | other =>
    simp only [reduceIte] at hcut
    refine ⟨blockingMemory message (o + 32), fun s' hs' => ?_⟩
    rw [parseOutputIn, parseIoToken_append hlt, hio] at hs'
    have hend := congrArg Prod.snd (Except.ok.inj hs')
    have hpast := parseEvmSwapParamsIn_blocking d.usdc
      (parseIERC20 (message ++ blockingMemory message (o + 32))
        (o + (UNIVERSAL_ADDRESS_SIZE - ADDRESS_SIZE))).1 hcut
    exact absurd hend (Nat.ne_of_gt hpast)

end Sections

/-! ## Calls in memory -/

section Calls

variable {d : Deployment} {x : Externals} {msg : Msg d} {w w' : World} {memory : Bytes → Bytes}
  {addr : Address} {fields : RedeemFields} {out attestations : Bytes} {fill : Fill}

/-- The structure of a message is read from the message alone. -/
theorem parseSwapMessageStructure_append (behind : Bytes)
    (hmsg : fill.message =
      encodeSwapMessage (toUniversalAddress addr) fields.mode fields.encode out) :
    parseSwapMessageStructure (fill.message ++ behind) = .ok ⟨addr, fields.mode, fields.sender,
      fields.bytes, REDEEM_OFFSET, REDEEM_OFFSET + fields.encode.length⟩ := by
  have happend : fill.message ++ behind =
      encodeSwapMessage (toUniversalAddress addr) fields.mode fields.encode (out ++ behind) := by
    rw [hmsg, encodeSwapMessage_eq, encodeSwapMessage_eq]
    simp only [List.append_assoc]
  rw [happend, parseSwapMessageStructure_encode, fromUniversalAddress_toUniversalAddress]
  rfl

/-- So is the plan of a redemption, and without parameters nothing is overridden. -/
theorem redeemPlan_append (behind : Bytes) {sms : SwapMessageStructure}
    (hmsg : fill.message =
      encodeSwapMessage (toUniversalAddress addr) fields.mode fields.encode out)
    (hsms : sms = ⟨addr, fields.mode, fields.sender, fields.bytes, REDEEM_OFFSET,
      REDEEM_OFFSET + fields.encode.length⟩) (params : Bytes) :
    redeemPlan d x msg { fill with message := fill.message ++ behind } sms params =
      redeemPlan d x msg fill sms params := by
  unfold redeemPlan
  by_cases hrelay : RelaysFor msg sms
  · have hmode : fields.mode = .relay := by
      have := hrelay.1
      rwa [hsms] at this
    have hread (rest : Bytes) : parseRelayParams
        (encodeSwapMessage (toUniversalAddress addr) fields.mode fields.encode rest) REDEEM_OFFSET =
          (fields.dropoff, fields.fee, REDEEM_OFFSET + RELAY_PARAM_SIZE) :=
      parseRelayParams_message _ _ hmode
    have hsame : parseRelayParams (fill.message ++ behind) sms.redeemOffset =
        parseRelayParams fill.message sms.redeemOffset := by
      have happend : fill.message ++ behind =
          encodeSwapMessage (toUniversalAddress addr) fields.mode fields.encode (out ++ behind) := by
        rw [hmsg, encodeSwapMessage_eq, encodeSwapMessage_eq]
        simp only [List.append_assoc]
      rw [happend, hmsg, hsms, hread, hread]
    rw [if_pos hrelay, if_pos hrelay, relayForOthers, relayForOthers]
    simp only [hsame]
  · rw [if_neg hrelay, if_neg hrelay]
    rfl

theorem overrideMsg_of_redeemPlan {sms : SwapMessageStructure} {plan : RedeemPlan}
    (h : redeemPlan d x msg fill sms [] w = .ok (plan, w')) : plan.overrideMsg = false := by
  have hplan := redeemPlan_ok.1 h
  split at hplan
  · rw [hplan.2.2.2]
  · rw [hplan.2.2]
    simp

/-- **A call without parameters** parses the output section of the message to its end. -/
theorem redeemIn_consumed {ret : Bytes} (hfill : x.redeemFill attestations = some fill)
    (hmsg : fill.message =
      encodeSwapMessage (toUniversalAddress addr) fields.mode fields.encode out)
    (h : redeemIn d x msg memory [] attestations w = .ok (ret, w')) :
    ∃ s, parseOutputIn d (memory fill.message) fill.message
      (REDEEM_OFFSET + fields.encode.length) = .ok (s, fill.message.length) := by
  obtain ⟨_, w₀, -, h₁⟩ := bind_ok.1 h
  obtain ⟨fill', w₁, hredeem, h₂⟩ := bind_ok.1 h₁
  obtain rfl : fill' = fill := Option.some.inj ((redeemFill_ok.1 hredeem).1.symm.trans hfill)
  obtain ⟨_, w₂, -, h₃⟩ := bind_ok.1 h₂
  obtain ⟨_, w₃, -, h₄⟩ := bind_ok.1 h₃
  obtain ⟨sms, w₄, hlift, h₅⟩ := bind_ok.1 h₄
  obtain ⟨hparse, rfl⟩ := lift_ok.1 hlift
  rw [parseSwapMessageStructure_append _ hmsg] at hparse
  have hsms := (Except.ok.inj hparse).symm
  obtain ⟨plan, w₅, hplan, h₆⟩ := bind_ok.1 h₅
  rw [redeemPlan_append _ hmsg hsms] at hplan
  have hoverride := overrideMsg_of_redeemPlan hplan
  obtain ⟨_, w₆, -, h₇⟩ := bind_ok.1 h₆
  simp only [outputSection, hoverride, Bool.false_eq_true, reduceIte] at h₇
  obtain ⟨⟨s, offset⟩, w₇, hlift, h₈⟩ := bind_ok.1 h₇
  obtain ⟨houtput, rfl⟩ := lift_ok.1 hlift
  obtain ⟨_, w₈, -, h₉⟩ := bind_ok.1 h₈
  obtain ⟨_, w₉, hlift, -⟩ := bind_ok.1 h₉
  obtain ⟨hcheck, -⟩ := lift_ok.1 hlift
  obtain rfl := ensure_ok.1 hcheck
  rw [hsms] at houtput
  exact ⟨s, houtput⟩

/-- **A message whose output section reaches to its swap type** is redeemed as with zeros behind
it, in a call without parameters. -/
theorem redeemIn_of_inside {s : Option OutputSwap} (hfill : x.redeemFill attestations = some fill)
    (hmsg : fill.message =
      encodeSwapMessage (toUniversalAddress addr) fields.mode fields.encode out)
    (hparse : parseOutput d fill.message (REDEEM_OFFSET + fields.encode.length) =
      .ok (s, fill.message.length))
    (hinside : SwapTypeInside fill.message (REDEEM_OFFSET + fields.encode.length)) :
    redeemIn d x msg memory [] attestations w = redeem d x msg [] attestations w := by
  refine bind_congr_ok fun _ w₀ _ => bind_congr_ok fun fill' w₁ hredeem => ?_
  obtain rfl : fill' = fill := Option.some.inj ((redeemFill_ok.1 hredeem).1.symm.trans hfill)
  refine bind_congr_ok fun _ w₂ _ => bind_congr_ok fun _ w₃ _ => ?_
  simp only [parseSwapMessageStructure_append _ hmsg]
  refine bind_congr_ok fun sms w₄ hlift => ?_
  have hsms := (Except.ok.inj (lift_ok.1 hlift).1).symm
  simp only [redeemPlan_append _ hmsg hsms]
  refine bind_congr_ok fun plan w₅ hplan => bind_congr_ok fun _ w₆ _ => ?_
  have hoverride := overrideMsg_of_redeemPlan hplan
  simp only [outputSection, hoverride, Bool.false_eq_true, reduceIte, hsms,
    parseOutputIn_of_inside hparse hinside]

/-- **Any other message** has a memory in which every call without parameters reverts. -/
theorem exists_memory_blocking {s : Option OutputSwap}
    (hfill : x.redeemFill attestations = some fill)
    (hmsg : fill.message =
      encodeSwapMessage (toUniversalAddress addr) fields.mode fields.encode out)
    (hparse : parseOutput d fill.message (REDEEM_OFFSET + fields.encode.length) =
      .ok (s, fill.message.length))
    (hcut : ¬SwapTypeInside fill.message (REDEEM_OFFSET + fields.encode.length)) :
    ∃ memory, ∀ r, redeemIn d x msg memory [] attestations w ≠ .ok r := by
  obtain ⟨behind, hbehind⟩ := exists_memory_not_consumed hparse hcut
  refine ⟨fun _ => behind, fun r hr => ?_⟩
  obtain ⟨s', hs'⟩ := redeemIn_consumed hfill hmsg hr
  exact hbehind s' hs'

end Calls

end SwapLayer.Evm
