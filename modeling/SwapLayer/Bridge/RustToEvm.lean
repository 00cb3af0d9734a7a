import SwapLayer.Bridge.Wire
import SwapLayer.Evm.Redeem

/-!
# The Rust writer and the Solidity parser

What `SwapMessageV1::write` puts down against what `redeem` reads of it, field by field.

The EVM contracts know two of the swap types. Their sections are parsed into a deadline, an amount and
a path; a section of any other type is skipped to the end of the message, and stands for an invalid
swap. `evmOutput` is what an output token turns into.

Results:
* `parseEvmSwapParams_write`, `parseOutput_write`: the output section is read as `evmOutput`, and is
  consumed entirely.
* `parseSwapMessageStructure_readSlice`: the head of a message is parsed iff the recipient is an EVM
  address.
* `redeemParse_readSlice`, `toVec_parsed`: what is parsed is the message.
-/

namespace SwapLayer.Bridge

open ByteString Program Messages

/-- The parsing of `redeem` when it takes the output section from the message: the message, the
output section, and nothing behind it. `parseRelayParams` does not fail. -/
def redeemParse (d : Evm.Deployment) (message : List UInt8) :
    Except Evm.Revert (Evm.SwapMessageStructure × Option Evm.OutputSwap) := do
  let sms ← Evm.parseSwapMessageStructure message
  let (s, offset) ← Evm.parseOutput d message sms.swapOffset
  Evm.checkLength message offset
  return (sms, s)

/-! ## The output section -/

section Output

/-- The swap types as the EVM contracts see them: without an EVM router, a type is invalid. -/
def evmSwapType : SwapType → ℕ
  | .uniswapV3 _ => Evm.SWAP_TYPE_UNISWAPV3
  | .traderJoe _ => Evm.SWAP_TYPE_TRADERJOE
  | _ => Evm.SWAP_TYPE_INVALID

/-- The path of an EVM swap: the token that goes in, the first pool, each hop with its pool, the token
that comes out. -/
def evmPath (inputToken outputToken : Evm.Address) : SwapType → Evm.Bytes
  | .uniswapV3 p =>
    inputToken.toList ++ writeUint p.firstLegFee ++
      (p.path.flatMap fun hop => hop.evmAddress.toList ++ writeUint hop.fee) ++ outputToken.toList
  | .traderJoe p =>
    inputToken.toList ++ (writeUint p.firstPoolId.version ++ writeUint p.firstPoolId.binSize) ++
      (p.path.flatMap fun hop => hop.evmAddress.toList ++
        (writeUint hop.poolId.version ++ writeUint hop.poolId.binSize)) ++ outputToken.toList
  | _ => []

def evmSwapParams (inputToken outputToken : Evm.Address) (s : OutputSwap) : Evm.EvmSwapParams :=
  ⟨s.deadline, s.limitAmount, evmSwapType s.swapType, evmPath inputToken outputToken s.swapType⟩

/-- The low 20 bytes of a token address. -/
def lowAddress (address : Fixed 32) : Evm.Address := address.drop 12

/-- An output token as `redeem` reads it. -/
def evmOutput (d : Evm.Deployment) : OutputToken → Option Evm.OutputSwap
  | .usdc => none
  | .gas s => some ⟨.gas, d.wnative, evmSwapParams d.usdc d.wnative s⟩
  | .other address s =>
    some ⟨.other, lowAddress address, evmSwapParams d.usdc (lowAddress address) s⟩

variable {bs out : List UInt8} {offset : ℕ}

/-- The Rust bytes of an EVM swap are the section that the EVM parser expects. -/
theorem parseEvmSwapParams_hops {s : OutputSwap} {tag : Uint 1} (pool : Fixed 3) {n : ℕ}
    {hops : List UInt8}
    (h : Holds bs offset (writeUint s.deadline ++ (writeUint s.limitAmount ++ (writeUint tag ++
      (pool.toList ++ (toBE 1 n ++ hops))))))
    (hend : bs.length = offset + 25 + hops.length) (hevm : Evm.IsEvmSwapType tag)
    (hn : n < 256 ^ 1) (hhops : hops.length = n * Evm.SHARED_PATH_ELEMENT_SIZE)
    (inputToken outputToken : Evm.Address) :
    Evm.parseEvmSwapParams inputToken outputToken bs offset =
      (⟨s.deadline, s.limitAmount, tag,
        inputToken.toList ++ pool.toList ++ hops ++ outputToken.toList⟩, bs.length) := by
  have hat : Holds bs offset (Evm.encodeEvmSwap s.deadline s.limitAmount tag pool n hops) := by
    simpa only [Evm.encodeEvmSwap, Evm.encodeSwapHead, writeUint, List.append_assoc] using h
  rw [Evm.parseEvmSwapParams_holds hat s.deadline.isLt s.limitAmount.isLt tag.isLt hn hevm hhops, hend,
    Evm.length_encodeEvmSwap, Nat.add_assoc]

/-- **A swap section is read as its fields, to the end**, whatever its type. -/
theorem parseEvmSwapParams_write {s : OutputSwap} (h : s.write = .ok out)
    (hat : Holds bs offset out) (hend : bs.length = offset + out.length)
    (inputToken outputToken : Evm.Address) :
    Evm.parseEvmSwapParams inputToken outputToken bs offset =
      (evmSwapParams inputToken outputToken s, bs.length) := by
  obtain ⟨swapType, hwrite, hout⟩ := except_bind_ok.1 h
  obtain rfl : writeUint s.deadline ++ (writeUint s.limitAmount ++ swapType) = out :=
    Except.ok.inj hout
  simp only [writeUint, List.length_append, length_toBE] at hend
  cases htype : s.swapType with
  | invalid =>
    rw [htype] at hwrite
    cases hwrite
  | uniswapV3 p =>
    rw [htype] at hwrite
    obtain ⟨bytes, hp, hret⟩ := except_bind_ok.1 hwrite
    obtain ⟨path, hpath, hbytes⟩ := except_bind_ok.1 hp
    cases hret
    cases hbytes
    obtain ⟨hlen, rfl⟩ := writePath_ok.1 hpath
    have hhops : (p.path.flatMap UniswapSwapPath.write).length =
        p.path.length * Evm.SHARED_PATH_ELEMENT_SIZE :=
      length_flatMap_const (fun hop => by
        simp [UniswapSwapPath.write, writeUint, Evm.SHARED_PATH_ELEMENT_SIZE, Evm.ADDRESS_SIZE,
          Evm.SHARED_POOL_ID_SIZE]) p.path
    rw [parseEvmSwapParams_hops ⟨writeUint p.firstLegFee, length_toBE ..⟩ hat
      (by simp only [writeUint, List.length_append, length_toBE] at hend; omega) (.inl rfl) hlen
      hhops, evmSwapParams, htype]
    rfl
  | traderJoe p =>
    rw [htype] at hwrite
    obtain ⟨bytes, hp, hret⟩ := except_bind_ok.1 hwrite
    obtain ⟨path, hpath, hbytes⟩ := except_bind_ok.1 hp
    cases hret
    cases hbytes
    obtain ⟨hlen, rfl⟩ := writePath_ok.1 hpath
    have hhops : (p.path.flatMap TraderJoeSwapPath.write).length =
        p.path.length * Evm.SHARED_PATH_ELEMENT_SIZE :=
      length_flatMap_const (fun hop => by
        simp [TraderJoeSwapPath.write, TraderJoePoolId.write, writeUint,
          Evm.SHARED_PATH_ELEMENT_SIZE, Evm.ADDRESS_SIZE, Evm.SHARED_POOL_ID_SIZE]) p.path
    have hpool : p.firstPoolId.write.length = 3 := by simp [TraderJoePoolId.write, writeUint]
    rw [parseEvmSwapParams_hops ⟨p.firstPoolId.write, hpool⟩ hat
      (by simp only [TraderJoePoolId.write, writeUint, List.length_append, length_toBE] at hend; omega)
      (.inr rfl) hlen hhops, evmSwapParams, htype]
    rfl
  | jupiterV6 p =>
    rw [htype] at hwrite
    cases hwrite
    have hhead : Holds bs offset
        (Evm.encodeSwapHead s.deadline s.limitAmount SwapType.JUPITER_V6 ++ p.write) := by
      simpa only [Evm.encodeSwapHead, writeUint, List.append_assoc] using hat
    rw [Evm.parseEvmSwapParams_holds_of_not_evm hhead.left s.deadline.isLt s.limitAmount.isLt
      SwapType.JUPITER_V6.isLt (by decide), evmSwapParams, htype]
    rfl

/-- **The output section is read as the output token, to the end.** -/
theorem parseOutput_write (d : Evm.Deployment) {token : OutputToken} (h : token.write = .ok out)
    (hat : Holds bs offset out) (hend : bs.length = offset + out.length) :
    Evm.parseOutput d bs offset = .ok (evmOutput d token, bs.length) := by
  cases token with
  | usdc =>
    cases h
    have hio : Evm.parseIoToken bs offset = .ok (.usdc, offset + 1) := Evm.parseIoToken_holds hat
    rw [Evm.parseOutput_eq, hio, hend]
    rfl
  | gas s =>
    obtain ⟨bytes, hswap, hret⟩ := except_bind_ok.1 h
    cases hret
    have hio : Evm.parseIoToken bs offset = .ok (.gas, offset + 1) :=
      Evm.parseIoToken_holds hat.left
    have hparams := parseEvmSwapParams_write hswap (hat.rest (length_toBE 1 _))
      (by simp [writeUint] at hend; omega) d.usdc d.wnative
    rw [Evm.parseOutput_eq, hio]
    simp only [except_ok_bind, hparams]
    rfl
  | other address s =>
    obtain ⟨bytes, hswap, hret⟩ := except_bind_ok.1 h
    cases hret
    have hio : Evm.parseIoToken bs offset = .ok (.other, offset + 1) :=
      Evm.parseIoToken_holds hat.left
    have haddress := hat.rest (length_toBE 1 _)
    have hlow : Holds bs (offset + 1 + (Evm.UNIVERSAL_ADDRESS_SIZE - Evm.ADDRESS_SIZE))
        (lowAddress address).toList := by
      refine haddress.left.trans ⟨address.toList.take 12, [], ?_, by
        simp [Evm.UNIVERSAL_ADDRESS_SIZE, Evm.ADDRESS_SIZE]⟩
      rw [List.append_nil]
      exact (List.take_append_drop 12 address.toList).symm
    have hparams := parseEvmSwapParams_write hswap (haddress.rest address.toList_length)
      (by simp [writeUint] at hend; omega) d.usdc (lowAddress address)
    rw [Evm.parseOutput_eq, hio]
    simp only [except_ok_bind, Evm.parseIERC20_holds hlow]
    have hoffset : offset + 1 + (Evm.UNIVERSAL_ADDRESS_SIZE - Evm.ADDRESS_SIZE) + 20 =
        offset + 1 + 32 := rfl
    rw [hoffset, hparams]
    rfl

end Output

/-! ## Whole messages -/

section Message

variable (d : Evm.Deployment) {bs : List UInt8} {m : SwapMessageV1}

/-- What `redeem` reads is the message: the recipient, the redeem mode, and the relay parameters in
front of the output section. -/
structure ReadAs (bs : List UInt8) (m : SwapMessageV1) (sms : Evm.SwapMessageStructure) :
    Prop where
  recipient : Evm.toUniversalAddress sms.recipient = m.recipient
  mode : sms.redeemMode = (redeemFields m.redeemMode).mode
  relay : sms.redeemMode = .relay → Evm.parseRelayParams bs sms.redeemOffset =
    ((redeemFields m.redeemMode).dropoff, (redeemFields m.redeemMode).fee, sms.swapOffset)

/-- Everything that `redeem` reads is the message: what it reads in front of the output section, the
sender and the payload, and the output section up to the end of the message. -/
structure ReadWholly (d : Evm.Deployment) (bs : List UInt8) (m : SwapMessageV1)
    (sms : Evm.SwapMessageStructure) : Prop extends ReadAs bs m sms where
  sender : sms.sender = (redeemFields m.redeemMode).sender
  payload : sms.payload = (redeemFields m.redeemMode).bytes
  output : Evm.parseOutput d bs sms.swapOffset = .ok (evmOutput d m.outputToken, bs.length)

/-- The head of a message is parsed iff the recipient is an EVM address. -/
theorem parseSwapMessageStructure_readSlice (h : SwapMessageV1.readSlice bs = .ok m) :
    (∃ sms, Evm.parseSwapMessageStructure bs = .ok sms) ↔ Evm.upperBytesZero m.recipient = true := by
  obtain ⟨out, -, rfl⟩ := toVec_ok.1 (SwapMessageV1.readSlice_iff_toVec.1 h)
  rw [Evm.parseSwapMessageStructure_encode, ← Evm.fromUniversalAddress_isOk]
  simp only [except_map_ok]
  exact ⟨fun ⟨_, addr, haddr, _⟩ => ⟨addr, haddr⟩, fun ⟨addr, haddr⟩ => ⟨_, addr, haddr, rfl⟩⟩

/-- **What is parsed is the message**, and its output section is consumed to the end. -/
theorem readWholly_of_structure {sms : Evm.SwapMessageStructure}
    (h : SwapMessageV1.readSlice bs = .ok m) (hsms : Evm.parseSwapMessageStructure bs = .ok sms) :
    ReadWholly d bs m sms := by
  obtain ⟨out, hout, rfl⟩ := toVec_ok.1 (SwapMessageV1.readSlice_iff_toVec.1 h)
  rw [Evm.parseSwapMessageStructure_encode] at hsms
  obtain ⟨addr, haddr, rfl⟩ := except_map_ok.1 hsms
  refine ⟨⟨(Evm.fromUniversalAddress_ok.1 haddr).symm, rfl, fun hrelay => ?_⟩, rfl, rfl, ?_⟩
  · rw [Evm.parseRelayParams_message m.recipient out hrelay]
    cases hmode : redeemFields m.redeemMode with
    | relay gasDropoff relayingFee hdropoff hfee =>
      simp [Evm.RedeemFields.encode, Evm.encodeSwapMessageRelayParams, Evm.RELAY_PARAM_SIZE,
        Evm.RELAY_GAS_DROPOFF_SIZE, Evm.RELAY_MAX_RELAYER_FEE_SIZE]
    | direct =>
      rw [hmode] at hrelay
      cases hrelay
    | payload sender bytes hlen =>
      rw [hmode] at hrelay
      cases hrelay
  · refine parseOutput_write d hout (Evm.holds_swapOffset_encode _ _ _) ?_
    rw [Evm.encodeSwapMessage_eq, List.length_append, List.length_append, Evm.length_messageHead,
      Nat.add_assoc]

theorem redeemParse_of_structure {sms : Evm.SwapMessageStructure}
    (h : SwapMessageV1.readSlice bs = .ok m) (hsms : Evm.parseSwapMessageStructure bs = .ok sms) :
    redeemParse d bs = .ok (sms, evmOutput d m.outputToken) :=
  except_bind_ok.2 ⟨_, hsms, except_bind_ok.2 ⟨_, (readWholly_of_structure d h hsms).output,
    except_bind_ok.2 ⟨(), ensure_pos rfl, rfl⟩⟩⟩

/-- **A message is parsed iff its recipient is an EVM address.** -/
theorem redeemParse_readSlice (h : SwapMessageV1.readSlice bs = .ok m) :
    ((∃ r, redeemParse d bs = .ok r) ↔ Evm.upperBytesZero m.recipient = true) ∧
      ∀ r, redeemParse d bs = .ok r → ReadWholly d bs m r.1 := by
  rw [← parseSwapMessageStructure_readSlice h]
  refine ⟨⟨fun ⟨r, hr⟩ => ?_, fun ⟨sms, hsms⟩ => ?_⟩, fun r hr => ?_⟩
  · obtain ⟨sms, hsms, -⟩ := except_bind_ok.1 hr
    exact ⟨sms, hsms⟩
  · exact ⟨_, redeemParse_of_structure d h hsms⟩
  · obtain ⟨sms, hsms, h₁⟩ := except_bind_ok.1 hr
    obtain ⟨_, -, h₂⟩ := except_bind_ok.1 h₁
    obtain ⟨_, -, h₃⟩ := except_bind_ok.1 h₂
    cases h₃
    exact readWholly_of_structure d h hsms

/-- **The Rust writer and the Solidity parser agree field by field.** On the bytes of a message, the
parser reverts iff the recipient is no EVM address, and otherwise returns every field of it, with the
output section read up to the end. -/
theorem toVec_parsed (h : m.toVec = .ok bs) :
    ((∃ e, Evm.parseSwapMessageStructure bs = .error e) ↔ Evm.upperBytesZero m.recipient = false) ∧
      ∀ sms, Evm.parseSwapMessageStructure bs = .ok sms →
        ReadWholly d bs m sms ∧ redeemParse d bs = .ok (sms, evmOutput d m.outputToken) := by
  have hread := SwapMessageV1.readSlice_iff_toVec.2 h
  refine ⟨?_, fun sms hsms =>
    ⟨readWholly_of_structure d hread hsms, redeemParse_of_structure d hread hsms⟩⟩
  have hiff := parseSwapMessageStructure_readSlice hread
  cases hparse : Evm.parseSwapMessageStructure bs with
  | error e =>
    refine ⟨fun _ => Bool.eq_false_iff.2 fun hz => ?_, fun _ => ⟨e, rfl⟩⟩
    obtain ⟨sms, hsms⟩ := hiff.2 hz
    cases hparse.symm.trans hsms
  | ok sms =>
    have hz := hiff.1 ⟨sms, hparse⟩
    exact ⟨fun ⟨_, h⟩ => (by cases h), fun hfalse => absurd (hz.symm.trans hfalse) (by decide)⟩

end Message

namespace Sample

/-- An address in the lower 20 bytes. -/
def evmRecipient : Fixed 32 := ⟨List.replicate 31 0 ++ [9], rfl⟩

/-- A relayed message with a swap of two hops. -/
def traderJoeMessage : SwapMessageV1 :=
  ⟨evmRecipient, .relay (uintAt 4 [0, 0, 0, 7] 0) (uintAt 6 [0, 0, 0, 0, 1, 0] 0),
    .other evmRecipient ⟨uintAt 4 [0, 0, 0, 60] 0, uintAt 16 (toBE 16 5) 0, .traderJoe
      ⟨⟨uintAt 1 [3] 0, uintAt 2 [0, 20] 0⟩,
        [⟨lowAddress evmRecipient, ⟨uintAt 1 [2] 0, uintAt 2 [0, 25] 0⟩⟩,
         ⟨lowAddress evmRecipient, ⟨uintAt 1 [1] 0, uintAt 2 [0, 15] 0⟩⟩]⟩⟩⟩

/-- It is parsed, path included. -/
theorem traderJoe_parsed :
    ∃ bs, traderJoeMessage.toVec = .ok bs ∧
      ∀ d, ∃ sms, redeemParse d bs = .ok (sms, evmOutput d traderJoeMessage.outputToken) := by
  have hwritten : traderJoeMessage.toVec.toOption.isSome = true := by decide +kernel
  obtain ⟨bs, hbs⟩ := Option.isSome_iff_exists.1 hwritten
  have hvec := toOption_eq_some.1 hbs
  refine ⟨bs, hvec, fun d => ?_⟩
  obtain ⟨hrevert, hparsed⟩ := toVec_parsed d hvec
  cases hstructure : Evm.parseSwapMessageStructure bs with
  | error e => exact absurd (hrevert.1 ⟨e, hstructure⟩) (by decide)
  | ok sms => exact ⟨sms, (hparsed sms hstructure).2⟩

end Sample

end SwapLayer.Bridge
