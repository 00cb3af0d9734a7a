import SwapLayer.Evm.Params

/-!
# The swap message

Model of `evm/src/assets/Message.sol`: the message a source-side swap layer puts into its market
order and that `redeem` takes apart on the target chain. The layout is

    version (1) | recipient (32) | redeem mode (1) | redeem parameters | output swap

where the redeem parameters are empty (direct), sender, length and payload (payload), or gas
dropoff and relaying fee (relay).

`toUniversalAddress` and `fromUniversalAddress` come from the wormhole SDK, outside the tree:
an EVM address sits in the lower 20 bytes of a `bytes32`, and the conversion back reverts when
the upper 12 bytes are not zero.

`RedeemFields` is the content of the redeem parameters with its widths, so that what can be
encoded is encoded without loss. Results:
* `parseSwapMessageStructure_encode`: the parser recovers the recipient, the mode and the
  parameters of an encoded message, and it stops where the output swap starts; the only way it
  fails is a recipient that is no EVM address.
* `parseRelayParams_encode`: the relay parameters are read back as they were written.
* `drop_swapOffset_encode`: what follows is the output swap.
-/

namespace SwapLayer.Evm

open ByteString Program

def VERSION : ℕ := 1

def toUniversalAddress (addr : Address) : Bytes32 :=
  ⟨List.replicate 12 0 ++ addr.toList, by simp⟩

def fromUniversalAddress (universalAddr : Bytes32) : Except Revert Address :=
  if upperBytesZero universalAddr then .ok ⟨universalAddr.toList.drop 12, by simp⟩
  else .error (.external .universalAddress)

def encodeSwapMessage (recipient : Bytes32) (redeemMode : RedeemMode) (redeemPayload : Bytes)
    (outputSwap : Bytes) : Bytes :=
  toBE 1 VERSION ++ (recipient.toList ++ (toBE 1 redeemMode.toUint8 ++
    (redeemPayload ++ outputSwap)))

/-- `relayingFee` is cut to `uint48`. -/
def encodeSwapMessageRelayParams (gasDropoff relayingFee : ℕ) : Bytes :=
  toBE 4 gasDropoff ++ toBE 6 relayingFee

def encodeSwapMessagePayloadParams (sender : Address) (lengthPrefixedPayload : Bytes) : Bytes :=
  (toUniversalAddress sender).toList ++ lengthPrefixedPayload

structure SwapMessageStructure where
  recipient : Address
  redeemMode : RedeemMode
  sender : Bytes32
  payload : Bytes
  redeemOffset : ℕ
  swapOffset : ℕ

/-- Sender, payload and the offset behind the redeem parameters. -/
def parseRedeemParams (redeemMode : RedeemMode) (message : Bytes) (offset : ℕ) :
    Bytes32 × Bytes × ℕ :=
  match redeemMode with
  | .payload =>
    let (sender, offset) := asBytes32Unchecked message offset
    let (payloadLen, offset) := asUint16Unchecked message offset
    let (payload, offset) := sliceUnchecked message offset payloadLen
    (sender, payload, offset)
  | .relay => (zeroBytes32, [], offset + RELAY_PARAM_SIZE)
  | .direct => (zeroBytes32, [], offset)

def parseSwapMessageStructure (message : Bytes) : Except Revert SwapMessageStructure := do
  let (version, offset) := asUint8Unchecked message 0
  ensure (version = VERSION) (.invalidVersion version VERSION)
  let (recipient_, offset) := asBytes32Unchecked message offset
  let recipient ← fromUniversalAddress recipient_
  let (redeemMode, redeemOffset) ← parseRedeemMode message offset
  let (sender, payload, swapOffset) := parseRedeemParams redeemMode message redeemOffset
  return ⟨recipient, redeemMode, sender, payload, redeemOffset, swapOffset⟩

/-! ## Universal addresses -/

theorem upperBytesZero_toUniversalAddress (addr : Address) :
    upperBytesZero (toUniversalAddress addr) = true := by
  simp [upperBytesZero, toUniversalAddress]

theorem fromUniversalAddress_toUniversalAddress (addr : Address) :
    fromUniversalAddress (toUniversalAddress addr) = .ok addr := by
  rw [fromUniversalAddress, if_pos (upperBytesZero_toUniversalAddress addr)]
  congr 1

theorem toUniversalAddress_injective : Function.Injective toUniversalAddress := by
  intro a b h
  have := congrArg fromUniversalAddress h
  rw [fromUniversalAddress_toUniversalAddress, fromUniversalAddress_toUniversalAddress] at this
  exact Except.ok.inj this

theorem fromUniversalAddress_ok {b : Bytes32} {addr : Address} :
    fromUniversalAddress b = .ok addr ↔ b = toUniversalAddress addr := by
  constructor
  · intro h
    unfold fromUniversalAddress at h
    split at h
    · rename_i hz
      cases h
      have htake : b.toList.take 12 = List.replicate 12 0 := by
        simpa [upperBytesZero] using hz
      apply Subtype.ext
      show b.toList = List.replicate 12 0 ++ b.toList.drop 12
      rw [← htake, List.take_append_drop]
    · cases h
  · rintro rfl
    exact fromUniversalAddress_toUniversalAddress addr

/-- `fromUniversalAddress` accepts exactly the addresses whose upper 12 bytes are zero. -/
theorem fromUniversalAddress_isOk (b : Bytes32) :
    (∃ addr, fromUniversalAddress b = .ok addr) ↔ upperBytesZero b = true := by
  constructor
  · rintro ⟨addr, h⟩
    rw [fromUniversalAddress_ok.1 h]
    exact upperBytesZero_toUniversalAddress addr
  · intro h
    exact ⟨_, if_pos h⟩

/-! ## Redeem parameters -/

/-- The redeem parameters of a message, each within the width it is written in. -/
inductive RedeemFields
  | direct
  | payload (sender : Bytes32) (payload : Bytes) (hlen : payload.length < 256 ^ 2)
  | relay (gasDropoff relayingFee : ℕ) (hdropoff : gasDropoff < 256 ^ 4)
      (hfee : relayingFee < 256 ^ 6)

namespace RedeemFields

def mode : RedeemFields → RedeemMode
  | direct => .direct
  | payload .. => .payload
  | relay .. => .relay

theorem eq_direct {r : RedeemFields} (h : r.mode = .direct) : r = .direct := by
  cases r with
  | direct => rfl
  | _ => cases h

/-- The bytes between the mode and the output swap. -/
def encode : RedeemFields → Bytes
  | direct => []
  | payload sender bytes _ => sender.toList ++ (toBE 2 bytes.length ++ bytes)
  | relay gasDropoff relayingFee _ _ => encodeSwapMessageRelayParams gasDropoff relayingFee

/-- The sender that the parser reports; zero unless the mode is payload. -/
def sender : RedeemFields → Bytes32
  | payload sender _ _ => sender
  | _ => zeroBytes32

/-- The relaying fee; zero unless the mode is relay. -/
def fee : RedeemFields → ℕ
  | relay _ relayingFee _ _ => relayingFee
  | _ => 0

/-- The gas dropoff in its unit; zero unless the mode is relay. -/
def dropoff : RedeemFields → ℕ
  | relay gasDropoff _ _ _ => gasDropoff
  | _ => 0

theorem dropoff_lt (r : RedeemFields) : r.dropoff < 256 ^ 4 := by
  cases r with
  | relay _ _ hdropoff _ => exact hdropoff
  | _ => exact Nat.pos_of_ne_zero (by decide)

/-- The payload that the parser reports. -/
def bytes : RedeemFields → Bytes
  | payload _ bytes _ => bytes
  | _ => []

end RedeemFields

/-- **The redeem parameters are read back** from wherever they stand in a string. -/
theorem parseRedeemParams_encode (r : RedeemFields) (pre post : Bytes) :
    parseRedeemParams r.mode (pre ++ (r.encode ++ post)) pre.length =
      (r.sender, r.bytes, pre.length + r.encode.length) := by
  cases r with
  | direct => rfl
  | relay gasDropoff relayingFee _ _ =>
    simp [parseRedeemParams, RedeemFields.mode, RedeemFields.sender, RedeemFields.bytes,
      RedeemFields.encode, encodeSwapMessageRelayParams]
    rfl
  | payload sender bytes hlen =>
    have hsender : sliceFixed 32 (pre ++ (sender.toList ++ (toBE 2 bytes.length ++
        (bytes ++ post)))) pre.length = sender := by
      apply Subtype.ext
      have := slice_middle pre sender.toList (toBE 2 bytes.length ++ (bytes ++ post))
      rwa [List.Vector.toList_length] at this
    have hlength : readBE 2 (pre ++ (sender.toList ++ (toBE 2 bytes.length ++ (bytes ++ post))))
        (pre.length + 32) = bytes.length := by
      have h₁ := readBE_append_right 2 (pre ++ sender.toList)
        (toBE 2 bytes.length ++ (bytes ++ post)) 0
      rw [readBE_toBE hlen] at h₁
      simpa using h₁
    have hbytes : slice (pre ++ (sender.toList ++ (toBE 2 bytes.length ++ (bytes ++ post))))
        (pre.length + 32 + 2) bytes.length = bytes := by
      have h₁ := slice_middle (pre ++ sender.toList ++ toBE 2 bytes.length) bytes post
      simpa [Nat.add_assoc] using h₁
    simp only [parseRedeemParams, RedeemFields.mode, RedeemFields.encode, RedeemFields.sender,
      RedeemFields.bytes, asBytes32Unchecked, asUint16Unchecked, asUint, sliceUnchecked,
      List.append_assoc, hsender, hlength, hbytes, List.length_append, length_toBE,
      List.Vector.toList_length, Nat.add_assoc]

/-- **The relay parameters are read back** as they were written. -/
theorem parseRelayParams_encode {gasDropoff relayingFee : ℕ} (hdropoff : gasDropoff < 256 ^ 4)
    (hfee : relayingFee < 256 ^ 6) (pre post : Bytes) :
    parseRelayParams (pre ++ (encodeSwapMessageRelayParams gasDropoff relayingFee ++ post))
      pre.length = (gasDropoff, relayingFee, pre.length + RELAY_PARAM_SIZE) := by
  have hd : readBE 4 (pre ++ (encodeSwapMessageRelayParams gasDropoff relayingFee ++ post))
      pre.length = gasDropoff := by
    have h := readBE_append_right 4 pre
      (encodeSwapMessageRelayParams gasDropoff relayingFee ++ post) 0
    rw [encodeSwapMessageRelayParams, List.append_assoc, readBE_toBE hdropoff] at h
    simpa [encodeSwapMessageRelayParams] using h
  have hf : readBE 6 (pre ++ (encodeSwapMessageRelayParams gasDropoff relayingFee ++ post))
      (pre.length + 4) = relayingFee := by
    have h := readBE_append_right 6 (pre ++ toBE 4 gasDropoff) (toBE 6 relayingFee ++ post) 0
    rw [readBE_toBE hfee] at h
    simpa [encodeSwapMessageRelayParams] using h
  rw [parseRelayParams_eq, hd, hf]

/-! ## Whole messages -/

/-- Everything in front of the redeem parameters. -/
def messageHead (recipient : Bytes32) (mode : RedeemMode) : Bytes :=
  toBE 1 VERSION ++ (recipient.toList ++ toBE 1 mode.toUint8)

/-- Where the redeem parameters start. -/
def REDEEM_OFFSET : ℕ := 34

@[simp] theorem length_messageHead (recipient : Bytes32) (mode : RedeemMode) :
    (messageHead recipient mode).length = REDEEM_OFFSET := by
  simp [messageHead, REDEEM_OFFSET]

theorem encodeSwapMessage_eq (recipient : Bytes32) (mode : RedeemMode) (redeemPayload out : Bytes) :
    encodeSwapMessage recipient mode redeemPayload out =
      messageHead recipient mode ++ (redeemPayload ++ out) := by
  simp [encodeSwapMessage, messageHead]

section Head

variable (recipient : Bytes32) (mode : RedeemMode) (rest : Bytes)

theorem readBE_version : readBE 1 (messageHead recipient mode ++ rest) 0 = VERSION := by
  rw [messageHead, List.append_assoc, readBE_toBE (by decide)]

theorem sliceFixed_recipient :
    sliceFixed 32 (messageHead recipient mode ++ rest) 1 = recipient := by
  apply Subtype.ext
  have h := slice_middle (toBE 1 VERSION) recipient.toList (toBE 1 mode.toUint8 ++ rest)
  rw [List.Vector.toList_length, length_toBE] at h
  rw [messageHead, List.append_assoc, List.append_assoc]
  exact h

theorem readBE_mode : readBE 1 (messageHead recipient mode ++ rest) 33 = mode.toUint8 := by
  have := readBE_append_right 1 (toBE 1 VERSION ++ recipient.toList) (toBE 1 mode.toUint8 ++ rest) 0
  rw [readBE_toBE mode.toUint8_lt] at this
  simpa [messageHead] using this

end Head

/-- **Parsing an encoded message** recovers its parts. Only the recipient can make it fail. -/
theorem parseSwapMessageStructure_encode (recipient : Bytes32) (r : RedeemFields) (out : Bytes) :
    parseSwapMessageStructure (encodeSwapMessage recipient r.mode r.encode out) =
      (fromUniversalAddress recipient).map fun addr =>
        ⟨addr, r.mode, r.sender, r.bytes, REDEEM_OFFSET, REDEEM_OFFSET + r.encode.length⟩ := by
  have hmode : parseRedeemMode (messageHead recipient r.mode ++ (r.encode ++ out)) 33 =
      .ok (r.mode, REDEEM_OFFSET) := parseRedeemMode_ok.2 ⟨readBE_mode .., rfl⟩
  have hparams := parseRedeemParams_encode r (messageHead recipient r.mode) out
  rw [length_messageHead] at hparams
  rw [encodeSwapMessage_eq]
  simp only [parseSwapMessageStructure, asUint8Unchecked, asUint, asBytes32Unchecked,
    readBE_version, ensure_pos, Nat.reduceAdd, sliceFixed_recipient, except_ok_bind, hmode,
    hparams]
  cases fromUniversalAddress recipient <;> rfl

/-- The relay parameters of an encoded message. -/
theorem parseRelayParams_message (recipient : Bytes32) {r : RedeemFields} (out : Bytes)
    (hmode : r.mode = .relay) :
    parseRelayParams (encodeSwapMessage recipient r.mode r.encode out) REDEEM_OFFSET =
      (r.dropoff, r.fee, REDEEM_OFFSET + RELAY_PARAM_SIZE) := by
  cases r with
  | relay gasDropoff relayingFee hdropoff hfee =>
    have h := parseRelayParams_encode hdropoff hfee (messageHead recipient .relay) out
    rw [length_messageHead] at h
    rw [encodeSwapMessage_eq]
    exact h
  | _ => cases hmode

/-- What follows the redeem parameters is the output swap. -/
theorem drop_swapOffset_encode (recipient : Bytes32) (r : RedeemFields) (out : Bytes) :
    (encodeSwapMessage recipient r.mode r.encode out).drop (REDEEM_OFFSET + r.encode.length) =
      out := by
  rw [encodeSwapMessage_eq, ← List.append_assoc]
  exact List.drop_left' (by simp)

theorem holds_swapOffset_encode (recipient : Bytes32) (r : RedeemFields) (out : Bytes) :
    Holds (encodeSwapMessage recipient r.mode r.encode out) (REDEEM_OFFSET + r.encode.length) out := by
  rw [encodeSwapMessage_eq]
  have h := (holds_self (messageHead recipient r.mode ++ (r.encode ++ out))).right.right
  rwa [length_messageHead, Nat.zero_add] at h

end SwapLayer.Evm
