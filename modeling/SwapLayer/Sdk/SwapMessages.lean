import SwapLayer.Bridge.EvmToSolana
import SwapLayer.Bridge.RustToEvm
import SwapLayer.Client.Messages
import SwapLayer.Evm.SentMessages
import SwapLayer.Sdk.InitiateArgs

/-!
# Swap messages of the TypeScript SDK

Model of `swapMessageLayout` and `redeemParamLayout` in `evm/ts-sdk/src/layout.ts`, and what becomes of the
arguments of `initiate` on their way: into the message of the order, and out of it again, by the SDK, by
the Rust program and by the contract that redeems it.

* The layout of the message has the items of the client's (`Client/Messages`), byte by byte. The SDK gives
  a dropoff in wei, so that one of its units is read as 10^12.
* A redemption may override the output token of the message: its parameters are an output token item.

Results:
* `initiate_message`: the message of an order has what the arguments ask for, for all readers.
* `redeem_override`: what the recipient overrides the output with is what `redeem` works with.
-/

namespace SwapLayer.Sdk

open ByteString Program

/-! ## Values of the client -/

/-- The values of `outputTokenLayout`, as the client has them. -/
def Hop.toClient (hop : Hop) : Client.Hop := ⟨hop.address, hop.poolId⟩

def EvmPath.toClient (p : EvmPath) : Client.SharedParameters := ⟨p.firstPoolId, p.path.val.map Hop.toClient⟩

def SwapType.toClient : SwapType → Client.SwapType
  | uniswapV3 path => .uniswapV3 path.toClient
  | traderJoe path => .traderJoe path.toClient
  | genericSolana dexProgramId => .jupiterV6 dexProgramId

def Swap.toClient (s : Swap) : Client.Swap := ⟨s.deadline, s.limitAmount, s.type.toClient⟩

def OutputToken.toClient : OutputToken → Client.OutputToken
  | usdc => .usdc
  | gas swap => .gas swap.toClient
  | other address swap => .other address swap.toClient

/-! ## Messages -/

/-- A number of units in wei. -/
def dropoffOfUnits (units : Uint 4) : GasDropoff :=
  ⟨units.val * gasDropoffUnit, by
    rw [Nat.mul_div_cancel _ (by decide)]
    exact units.isLt⟩

/-- A redeem mode of a message, which the SDK reads as one of its own. -/
def RedeemMode.ofClient : Client.RedeemMode → RedeemMode
  | .direct => .direct
  | .payload sender bytes => .payload sender bytes
  | .relay gasDropoff relayingFee => .relay (dropoffOfUnits gasDropoff) relayingFee

/-- The values of `swapMessageLayout`. -/
structure SwapMessage where
  recipient : Fixed 32
  redeemMode : RedeemMode
  outputToken : Client.OutputToken

def deserializeSwapMessage (data : List UInt8) : Except IoError SwapMessage :=
  (Client.decodeSwapLayerMessage data).map fun m =>
    ⟨m.recipient, RedeemMode.ofClient m.redeemMode, m.outputToken⟩

/-- `redeemParamLayout` is the layout of output tokens. -/
def encodeRedeemParamLayout (args : OutputToken) : List UInt8 := outputTokenItem args

/-! ## Both packages write the same -/

theorem sharedLayout_eq (p : EvmPath) :
    Client.sharedUniswapTraderJoeLayout.write p.toClient = .ok (sharedUniswapTraderJoeLayout p) := by
  have hlength : p.toClient.path.length = p.path.val.length := List.length_map ..
  have hhops : (p.toClient.path.flatMap fun hop => hop.address.toList ++ writeUint hop.poolId) =
      p.path.val.flatMap Hop.write := by
    rw [EvmPath.toClient, List.flatMap_map]
    rfl
  rw [Client.sharedLayout_write, hlength, if_pos p.path.property, hhops]
  rfl

theorem swapTypeItem_toClient (t : SwapType) :
    Client.swapTypeItem.write t.toClient = .ok (swapTypeItem t) := by
  cases t with
  | uniswapV3 path =>
    show ((Client.sharedUniswapTraderJoeLayout.write path.toClient).map fun out =>
      (Client.uint8 1, out)) >>= _ = _
    rw [sharedLayout_eq]
    rfl
  | traderJoe path =>
    show ((Client.sharedUniswapTraderJoeLayout.write path.toClient).map fun out =>
      (Client.uint8 2, out)) >>= _ = _
    rw [sharedLayout_eq]
    rfl
  | genericSolana dexProgramId => cases dexProgramId <;> rfl

theorem swapItem_toClient (s : Swap) : Client.swapItem.write s.toClient = .ok (swapItem s) := by
  show ((Client.swapTypeItem.write s.type.toClient >>= fun t => Except.ok (writeUint s.limitAmount ++ t))
    >>= fun b => Except.ok (writeUint s.deadline ++ b)) = _
  rw [swapTypeItem_toClient]
  rfl

theorem outputTokenItem_toClient (o : OutputToken) :
    Client.outputTokenItem.write o.toClient = .ok (outputTokenItem o) := by
  cases o with
  | usdc => rfl
  | gas swap =>
    show ((Client.swapItem.write swap.toClient).map fun out => (Client.uint8 1, out)) >>= _ = _
    rw [swapItem_toClient]
    rfl
  | other address swap =>
    show ((Client.swapItem.write swap.toClient >>= fun s => Except.ok (address.toList ++ s)).map
      fun out => (Client.uint8 2, out)) >>= _ = _
    rw [swapItem_toClient]
    rfl

/-! ## The message of an order -/

section Order

variable {d : Evm.Deployment} {x : Evm.Externals} {msg : Evm.Msg d} {w : Evm.World} {targetChain : ℕ}
  {recipient : Evm.Bytes32}

/-- The redeem mode that a message has: the fee that was worked out stands where the maximum stood, and a
dropoff is rounded to its unit. -/
def RedeemMode.sent (sender : Evm.Address) (fee : Uint 6) : RedeemMode → RedeemMode
  | direct => .direct
  | payload _ bytes => .payload (Evm.toUniversalAddress sender) bytes
  | relay gasDropoff _ => .relay (dropoffOfUnits ⟨gasDropoff.val / gasDropoffUnit, gasDropoff.property⟩) fee

/-- The same in the units of the message. -/
def RedeemMode.inUnits (sender : Evm.Address) (fee : Uint 6) : RedeemMode → Client.RedeemMode
  | direct => .direct
  | payload _ bytes => .payload (Evm.toUniversalAddress sender) bytes
  | relay gasDropoff _ => .relay ⟨gasDropoff.val / gasDropoffUnit, gasDropoff.property⟩ fee

theorem RedeemMode.ofClient_inUnits (sender : Evm.Address) (fee : Uint 6) (m : RedeemMode) :
    ofClient (m.inUnits sender fee) = m.sent sender fee := by
  cases m <;> rfl

/-- The redeem parameters as the client reads them. -/
def clientRedeemMode : Evm.RedeemFields → Client.RedeemMode
  | .direct => .direct
  | .payload sender bytes hlen => .payload sender ⟨bytes, hlen⟩
  | .relay gasDropoff relayingFee hdropoff hfee => .relay ⟨gasDropoff, hdropoff⟩ ⟨relayingFee, hfee⟩

theorem clientRedeemMode_toRust (r : Evm.RedeemFields) :
    (clientRedeemMode r).toRust = Bridge.redeemMode r := by
  cases r <;> rfl

/-- **An encoded message with an output token of the SDK** is read by the client and the Rust program. -/
theorem decode_encodeSwapMessage (recipient : Fixed 32) (r : Evm.RedeemFields) (o : OutputToken) :
    Client.decodeSwapLayerMessage
        (Evm.encodeSwapMessage recipient r.mode r.encode (outputTokenItem o)) =
      .ok ⟨recipient, clientRedeemMode r, o.toClient⟩ := by
  rw [Client.decodeSwapLayerMessage_iff]
  refine Bridge.readSlice_encode.2 ⟨?_, rfl, clientRedeemMode_toRust r⟩
  exact (Client.outputTokenItem_write _).symm.trans (outputTokenItem_toClient o)

/-- The redeem parameters of a call with the arguments of the SDK. -/
theorem sent_fields {args : InitiateArgs} (fee : Uint 6)
    (i : Evm.Initiated d x msg targetChain recipient args.toFields.encode w)
    (hfee : fee.val = i.relayingFee) :
    clientRedeemMode i.fields = args.redeemMode.inUnits msg.sender fee ∧
      ∀ gasDropoff maxRelayingFee, args.redeemMode = .relay gasDropoff maxRelayingFee →
        fee ≤ maxRelayingFee := by
  obtain ⟨hreads, -⟩ := Evm.message_understood args.fits i
  have hredeem : Evm.RedeemReads args.toFields.encode i.mos.redeem args.redeemMode.toFields :=
    hreads.redeem
  unfold Evm.Initiated.fields Evm.redeemFields
  cases hmode : args.redeemMode with
  | direct =>
    rw [hmode] at hredeem
    obtain ⟨hdirect, -⟩ := hredeem
    simp only [hdirect]
    exact ⟨rfl, by simp⟩
  | payload sender bytes =>
    rw [hmode] at hredeem
    obtain ⟨hpayload, hlength, hbytes⟩ := hredeem
    have hlen : readBE 2 args.toFields.encode i.mos.redeem.offset = bytes.val.length :=
      (Prod.mk.inj hlength).1
    have hslice : slice args.toFields.encode (i.mos.redeem.offset + 2) bytes.val.length = bytes.val :=
      (Prod.mk.inj hbytes).1
    simp only [hpayload]
    refine ⟨?_, by simp⟩
    show Client.RedeemMode.payload _ ⟨slice _ _ (readBE 2 _ _), _⟩ = .payload _ bytes
    congr 1
    exact Subtype.ext ((congrArg (slice _ _) hlen).trans hslice)
  | relay gasDropoff maxRelayingFee =>
    rw [hmode] at hredeem
    obtain ⟨hrelay, hparams⟩ := hredeem
    obtain ⟨swapType, swapCount, -, -, hmax⟩ := Evm.redeemParams_relay hrelay i.redeem
    rw [hparams] at hmax
    simp only [hrelay, hparams]
    refine ⟨?_, ?_⟩
    · show Client.RedeemMode.relay _ ⟨i.relayingFee, _⟩ = .relay _ fee
      congr 1
      exact Fin.ext hfee.symm
    · rintro _ _ ⟨⟩
      exact Fin.le_def.2 (hfee ▸ hmax)

end Order

/-- **The recipient may override the output** with what the SDK writes for `redeem`: whatever the message
says, nobody else can, no fee is paid, and the whole amount goes into the swap that was asked for. -/
theorem redeem_override {d : Evm.Deployment} {x : Evm.Externals} {msg : Evm.Msg d} {w : Evm.World}
    {attestations : Evm.Bytes} (o : OutputToken)
    (r : Evm.Redeemed d x msg (encodeRedeemParamLayout o) attestations w) :
    msg.sender = r.sms.recipient ∧ r.plan = ⟨0, 0, r.fill.amount, true⟩ ∧
      r.output = Evm.outputSwap d o.toFields := by
  revert r
  rw [encodeRedeemParamLayout, outputTokenItem_eq]
  exact Evm.redeem_section o.fits

/-! ## From the arguments to all readers -/

/-- The mode that the contract knows. -/
def RedeemMode.toEvm : RedeemMode → Evm.RedeemMode
  | direct => .direct
  | payload _ _ => .payload
  | relay _ _ => .relay

/-- What the parser of `redeem` finds in the message: the recipient, the redeem mode, the dropoff and the
fee of a relay, and the output token up to the end of the message. -/
structure FoundBy (target : Evm.Deployment) (addr : Evm.Address) (args : InitiateArgs) (fee : Uint 6)
    (message : Evm.Bytes) (sms : Evm.SwapMessageStructure) : Prop where
  recipient : sms.recipient = addr
  mode : sms.redeemMode = args.redeemMode.toEvm
  relay : ∀ gasDropoff maxRelayingFee, args.redeemMode = .relay gasDropoff maxRelayingFee →
    Evm.parseRelayParams message sms.redeemOffset =
      (gasDropoff.val / gasDropoffUnit, fee.val, sms.swapOffset)
  output : Evm.parseOutput target message sms.swapOffset =
    .ok (Evm.outputSwap target args.outputToken.toFields, message.length)

/-- **The message of an order has what the arguments asked for**: the caller pays a fee of at most the
maximum, and the SDK, the Rust program and (if the recipient is an EVM address) every contract read the
recipient, the redeem mode with that fee, and the output token. -/
theorem initiate_message {d : Evm.Deployment} {x : Evm.Externals} {msg : Evm.Msg d} {w : Evm.World}
    {targetChain : ℕ} {recipient : Evm.Bytes32} {args : InitiateArgs} (h : ¬args.redeemMode.IsPayload)
    (i : Evm.Initiated d x msg targetChain recipient (encodeInitiateArgs args) w) :
    ∃ fee : Uint 6, fee.val = i.relayingFee ∧
      (∀ gasDropoff maxRelayingFee, args.redeemMode = .relay gasDropoff maxRelayingFee →
        fee ≤ maxRelayingFee) ∧
      deserializeSwapMessage i.order.redeemerMessage =
        .ok ⟨recipient, args.redeemMode.sent msg.sender fee, args.outputToken.toClient⟩ ∧
      Messages.SwapMessageV1.readSlice i.order.redeemerMessage =
        .ok ⟨recipient, (args.redeemMode.inUnits msg.sender fee).toRust, args.outputToken.toClient.toRust⟩ ∧
      ∀ (addr : Evm.Address) (target : Evm.Deployment), recipient = Evm.toUniversalAddress addr →
        ∃ sms, Evm.parseSwapMessageStructure i.order.redeemerMessage = .ok sms ∧
          FoundBy target addr args fee i.order.redeemerMessage sms := by
  revert i
  rw [encodeInitiateArgs_eq h]
  intro i
  obtain ⟨-, hmessage⟩ := Evm.message_understood args.fits i
  have hout : args.toFields.output.encode = outputTokenItem args.outputToken :=
    (outputTokenItem_eq args.outputToken).symm
  rw [hout] at hmessage
  obtain ⟨hmode, hmax⟩ := sent_fields ⟨i.relayingFee, Evm.redeemParams_fee_lt i.redeem⟩ i rfl
  have hdecode : Client.decodeSwapLayerMessage i.order.redeemerMessage =
      .ok ⟨recipient, clientRedeemMode i.fields, args.outputToken.toClient⟩ := by
    rw [hmessage]
    exact decode_encodeSwapMessage recipient i.fields args.outputToken
  have hread := Client.decodeSwapLayerMessage_iff.1 hdecode
  rw [hmode] at hdecode hread
  refine ⟨⟨i.relayingFee, Evm.redeemParams_fee_lt i.redeem⟩, rfl, hmax, ?_, hread, ?_⟩
  · rw [deserializeSwapMessage, hdecode, ← RedeemMode.ofClient_inUnits]
    rfl
  · rintro addr target rfl
    have hzero := Evm.upperBytesZero_toUniversalAddress addr
    obtain ⟨sms, hsms⟩ := (Bridge.parseSwapMessageStructure_readSlice hread).2 hzero
    have hwhole := Bridge.readWholly_of_structure target hread hsms
    refine ⟨sms, hsms, Evm.toUniversalAddress_injective hwhole.recipient, ?_, ?_, ?_⟩
    · rw [hwhole.mode]
      cases args.redeemMode <;> rfl
    · intro gasDropoff maxRelayingFee hrelay
      have hparams := hwhole.relay (by rw [hwhole.mode, hrelay]; rfl)
      rw [hparams, hrelay]
      rfl
    · rw [hmessage] at hsms ⊢
      rw [Evm.parseSwapMessageStructure_encode] at hsms
      obtain ⟨_, -, rfl⟩ := except_map_ok.1 hsms
      have hholds := Evm.holds_swapOffset_encode (Evm.toUniversalAddress addr) i.fields
        (outputTokenItem args.outputToken)
      rw [outputTokenItem_eq] at hholds ⊢
      exact Evm.parseOutput_section target args.outputToken.fits hholds
        (by simp [Evm.encodeSwapMessage_eq]; omega)

namespace Sample

open Evm.Sample (deployment externals msg recipient address)

theorem threeUnits_lt : (3 * gasDropoffUnit + 1) / gasDropoffUnit < 256 ^ 4 := by decide

/-- The caller asks for a relay with a dropoff of 3 units (and one wei), and for a swap to a token. -/
def relayedUsdc : InitiateArgs :=
  ⟨.disabled, .relay ⟨3 * gasDropoffUnit + 1, threeUnits_lt⟩ (uintAt 6 [0, 0, 0, 0, 0, 9] 0), true,
    .usdc (uintAt 16 (toBE 16 1000) 0) .preapproved, .other (Evm.toUniversalAddress token) swap⟩

/-- Relaying costs 7 units, and the dropoff is only bounded by its width. -/
def relaying : Evm.World :=
  (Evm.Sample.world fun _ => 0).withStorage { Evm.Sample.storage with
    feeParams := fun _ => Evm.FeeParams.setBaseFee (Evm.FeeParams.setMaxGasDropoff 0 (2 ^ 32 - 1)) 7 }

/-- The call goes through, and the SDK reads what was asked for. -/
theorem relayedUsdc_sent : ∃ (i : Evm.Initiated deployment (externals 0 0) (msg 0) 3
      (Evm.toUniversalAddress recipient) (encodeInitiateArgs relayedUsdc) relaying) (fee : Uint 6),
    fee.val = i.relayingFee ∧ fee ≤ uintAt 6 [0, 0, 0, 0, 0, 9] 0 ∧
      deserializeSwapMessage i.order.redeemerMessage = .ok ⟨Evm.toUniversalAddress recipient,
        .relay ⟨3 * gasDropoffUnit, by decide⟩ fee, .other (Evm.toUniversalAddress token) swap.toClient⟩ := by
  have hrun : (Evm.initiate deployment (externals 0 0) (msg 0) 3 (Evm.toUniversalAddress recipient)
      (encodeInitiateArgs relayedUsdc) relaying).toOption.isSome = true := by decide +kernel
  obtain ⟨⟨ret, w'⟩, hok⟩ := Option.isSome_iff_exists.1 hrun
  obtain ⟨i, -⟩ := Evm.initiate_ok (toOption_eq_some.1 hok)
  obtain ⟨fee, hfee, hmax, hread, -⟩ := initiate_message id i
  exact ⟨i, fee, hfee, hmax _ _ rfl, hread⟩

def recipientMsg : Evm.Msg deployment where
  sender := recipient
  value := 0
  sender_ne_self := by decide
  sender_ne_zero := by decide

/-- The native token, for what was delivered. -/
def gasInstead : OutputToken := .gas swap

/-- The recipient gets it, although the message says USDC; what was delivered pays for it. -/
theorem gasInstead_redeemed : ∃ r : Evm.Redeemed deployment (Evm.Sample.delivering 0 [0]) recipientMsg
      (encodeRedeemParamLayout gasInstead) [] relaying,
    r.sms.recipient = recipient ∧ r.plan = ⟨0, 0, 10, true⟩ ∧
      r.output = Evm.outputSwap deployment gasInstead.toFields := by
  have hrun : (Evm.redeem deployment (Evm.Sample.delivering 0 [0]) recipientMsg
      (encodeRedeemParamLayout gasInstead) [] relaying).toOption.isSome = true := by decide +kernel
  obtain ⟨⟨ret, w'⟩, hok⟩ := Option.isSome_iff_exists.1 hrun
  obtain ⟨r, -⟩ := Evm.redeem_ok.1 (toOption_eq_some.1 hok)
  obtain ⟨hsender, hplan, houtput⟩ := redeem_override gasInstead r
  have hfill : r.fill = Evm.Sample.fill [0] := (Option.some.inj r.delivered).symm
  rw [hfill] at hplan
  exact ⟨r, hsender.symm, hplan, houtput⟩

end Sample

end SwapLayer.Sdk
