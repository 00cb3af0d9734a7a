import SwapLayer.Lib.Format
import SwapLayer.Messages.SwapMessage

/-!
# Swap messages of the TypeScript client

Model of `solana/ts/src/swapLayer/messages/layouts.ts`. Each layout item is a `Format` (`Lib/Format`) with
the item's name; a switch is the list of its cases, and `map` gives its values the shape that they have
in the program. An EVM address is its 20 bytes.

Results:
* `swapLayerMessageLayout_write`: a message is written as the Rust program writes the message that it
  corresponds to.
* `decodeSwapLayerMessage_agrees`: both programs accept the same strings and find the same message in
  them.
-/

namespace SwapLayer.Client

open ByteString

/-! ## Values -/

/-- An element of `path`. -/
structure Hop where
  address : Fixed 20
  poolId : Uint 3

/-- The values of `sharedUniswapTraderJoeLayout`. -/
structure SharedParameters where
  firstPoolId : Uint 3
  path : List Hop

/-- The cases of `swapTypes`. -/
inductive SwapType
  | uniswapV3 (parameters : SharedParameters)
  | traderJoe (parameters : SharedParameters)
  | jupiterV6 (dexProgramId : Option (Fixed 32))

structure Swap where
  deadline : Uint 4
  limitAmount : Uint 16
  type : SwapType

inductive OutputToken
  | usdc
  | gas (swap : Swap)
  | other (address : Fixed 32) (swap : Swap)

inductive RedeemMode
  | direct
  | payload (sender : Fixed 32) (buf : Prefixed 2)
  | relay (gasDropoff : Uint 4) (relayingFee : Uint 6)

structure SwapLayerMessage where
  recipient : Fixed 32
  redeemMode : RedeemMode
  outputToken : OutputToken

/-! ## Layouts -/

def universalAddressItem : Format (Fixed 32) := .bytes 32
def evmAddressItem : Format (Fixed 20) := .bytes 20
def timestampItem : Format (Uint 4) := .uint 4
def amountItem : Format (Uint 16) := .uint 16
def gasDropoffItem : Format (Uint 4) := .uint 4

/-- A number of one byte. -/
def uint8 (b : UInt8) : Uint 1 := ⟨b.toNat, b.toNat_lt⟩

/-- The shape of a redeem mode. -/
def RedeemMode.equiv : (Unit ⊕ Fixed 32 × Prefixed 2 ⊕ Uint 4 × Uint 6) ≃ RedeemMode where
  toFun
    | .inl () => .direct
    | .inr (.inl (sender, buf)) => .payload sender buf
    | .inr (.inr (gasDropoff, relayingFee)) => .relay gasDropoff relayingFee
  invFun
    | .direct => .inl ()
    | .payload sender buf => .inr (.inl (sender, buf))
    | .relay gasDropoff relayingFee => .inr (.inr (gasDropoff, relayingFee))
  left_inv := by rintro (_ | _ | _) <;> rfl
  right_inv := by rintro (_ | _ | _) <;> rfl

def redeemModeItem : Format RedeemMode :=
  .map RedeemMode.equiv (.switch 1
    (.cons (uint8 0) .unit
      (.cons (uint8 1) (.pair universalAddressItem (.prefixed 2))
        (.one (uint8 2) (.pair gasDropoffItem (.uint 6))) rfl) rfl))

/-- The shape of an element of a path. -/
def Hop.equiv : Fixed 20 × Uint 3 ≃ Hop where
  toFun p := ⟨p.1, p.2⟩
  invFun hop := (hop.address, hop.poolId)
  left_inv _ := rfl
  right_inv _ := rfl

def SharedParameters.equiv : Uint 3 × List Hop ≃ SharedParameters where
  toFun p := ⟨p.1, p.2⟩
  invFun p := (p.firstPoolId, p.path)
  left_inv _ := rfl
  right_inv _ := rfl

def sharedUniswapTraderJoeLayout : Format SharedParameters :=
  .map SharedParameters.equiv
    (.pair (.uint 3) (.array 1 (.map Hop.equiv (.pair evmAddressItem (.uint 3)))))

/-- The switch `isSome`. -/
def dexProgramIdEquiv : Unit ⊕ Fixed 32 ≃ Option (Fixed 32) where
  toFun
    | .inl () => none
    | .inr address => some address
  invFun
    | none => .inl ()
    | some address => .inr address
  left_inv := by rintro (_ | _) <;> rfl
  right_inv := by rintro (_ | _) <;> rfl

def jupiterV6SwapParametersLayout : Format (Option (Fixed 32)) :=
  .map dexProgramIdEquiv
    (.switch 1 (.cons (uint8 0) .unit (.one (uint8 1) universalAddressItem) rfl))

def SwapType.equiv : SharedParameters ⊕ SharedParameters ⊕ Option (Fixed 32) ≃ SwapType where
  toFun
    | .inl parameters => .uniswapV3 parameters
    | .inr (.inl parameters) => .traderJoe parameters
    | .inr (.inr dexProgramId) => .jupiterV6 dexProgramId
  invFun
    | .uniswapV3 parameters => .inl parameters
    | .traderJoe parameters => .inr (.inl parameters)
    | .jupiterV6 dexProgramId => .inr (.inr dexProgramId)
  left_inv := by rintro (_ | _ | _) <;> rfl
  right_inv := by rintro (_ | _ | _) <;> rfl

/-- The switch over `swapTypes` and `swapItemLayouts`. -/
def swapTypeItem : Format SwapType :=
  .map SwapType.equiv (.switch 1
    (.cons (uint8 1) sharedUniswapTraderJoeLayout
      (.cons (uint8 2) sharedUniswapTraderJoeLayout
        (.one (uint8 16) jupiterV6SwapParametersLayout) rfl) rfl))

def Swap.equiv : Uint 4 × Uint 16 × SwapType ≃ Swap where
  toFun p := ⟨p.1, p.2.1, p.2.2⟩
  invFun s := (s.deadline, s.limitAmount, s.type)
  left_inv _ := rfl
  right_inv _ := rfl

def swapItem : Format Swap :=
  .map Swap.equiv (.pair timestampItem (.pair amountItem swapTypeItem))

def OutputToken.equiv : Unit ⊕ Swap ⊕ Fixed 32 × Swap ≃ OutputToken where
  toFun
    | .inl () => .usdc
    | .inr (.inl swap) => .gas swap
    | .inr (.inr (address, swap)) => .other address swap
  invFun
    | .usdc => .inl ()
    | .gas swap => .inr (.inl swap)
    | .other address swap => .inr (.inr (address, swap))
  left_inv := by rintro (_ | _ | _) <;> rfl
  right_inv := by rintro (_ | _ | _) <;> rfl

/-- The switch over `ioTokenTypes` and `outputTokenLayouts`. -/
def outputTokenItem : Format OutputToken :=
  .map OutputToken.equiv (.switch 1
    (.cons (uint8 0) .unit
      (.cons (uint8 1) swapItem (.one (uint8 2) (.pair universalAddressItem swapItem)) rfl) rfl))

def SwapLayerMessage.equiv :
    Unit × Fixed 32 × RedeemMode × OutputToken ≃ SwapLayerMessage where
  toFun p := ⟨p.2.1, p.2.2.1, p.2.2.2⟩
  invFun m := ((), m.recipient, m.redeemMode, m.outputToken)
  left_inv _ := rfl
  right_inv _ := rfl

/-- The version is left out of the value. -/
def swapLayerMessageLayout : Format SwapLayerMessage :=
  .map SwapLayerMessage.equiv
    (.pair (.constant 1 (uint8 1)) (.pair universalAddressItem (.pair redeemModeItem outputTokenItem)))

def decodeSwapLayerMessage (encoded : List UInt8) : Except IoError SwapLayerMessage :=
  swapLayerMessageLayout.decode encoded

def encodeSwapLayerMessage (message : SwapLayerMessage) : Except IoError (List UInt8) :=
  swapLayerMessageLayout.write message

/-! ## The Rust message -/

/-- The number of a pool holds the version and the bin size of the Rust type. -/
def toPoolId (poolId : Uint 3) : Messages.TraderJoePoolId where
  version := ⟨poolId.val / 65536, Nat.div_lt_of_lt_mul poolId.isLt⟩
  binSize := ⟨poolId.val % 65536, Nat.mod_lt _ (Nat.succ_pos _)⟩

def SwapType.toRust : SwapType → Messages.SwapType
  | uniswapV3 p => .uniswapV3 ⟨p.firstPoolId, p.path.map fun hop => ⟨hop.address, hop.poolId⟩⟩
  | traderJoe p =>
    .traderJoe ⟨toPoolId p.firstPoolId, p.path.map fun hop => ⟨hop.address, toPoolId hop.poolId⟩⟩
  | jupiterV6 dexProgramId => .jupiterV6 ⟨dexProgramId⟩

def Swap.toRust (s : Swap) : Messages.OutputSwap := ⟨s.deadline, s.limitAmount, s.type.toRust⟩

def OutputToken.toRust : OutputToken → Messages.OutputToken
  | usdc => .usdc
  | gas swap => .gas swap.toRust
  | other address swap => .other address swap.toRust

def RedeemMode.toRust : RedeemMode → Messages.RedeemMode
  | direct => .direct
  | payload sender buf => .payload sender buf
  | relay gasDropoff relayingFee => .relay gasDropoff relayingFee

def SwapLayerMessage.toRust (m : SwapLayerMessage) : Messages.SwapMessageV1 :=
  ⟨m.recipient, m.redeemMode.toRust, m.outputToken.toRust⟩

/-! ## Both programs write the same -/

/-- A pool id of three bytes is a version of one byte and a bin size of two. -/
theorem toPoolId_write (poolId : Uint 3) : (toPoolId poolId).write = writeUint poolId := by
  have hpack := toBE_pack (m := 1) (n := 2) (toPoolId poolId).version.isLt (toPoolId poolId).binSize.isLt
  have hvalue : (toPoolId poolId).version.val * 256 ^ 2 + (toPoolId poolId).binSize.val = poolId.val :=
    Nat.div_add_mod' poolId.val 65536
  rw [hvalue] at hpack
  exact hpack.symm

/-- The writer of a path, which both kinds of EVM swaps share. -/
theorem sharedLayout_write (p : SharedParameters) :
    sharedUniswapTraderJoeLayout.write p =
      (if p.path.length < 256 ^ 1 then .ok (toBE 1 p.path.length ++
        p.path.flatMap fun hop => hop.address.toList ++ writeUint hop.poolId)
      else .error .invalidInput) >>= fun path => .ok (writeUint p.firstPoolId ++ path) := by
  have harray := Format.writeArray_exact (n := 1)
    (fun hop : Hop => hop.address.toList ++ writeUint hop.poolId) p.path
  rw [← harray]
  rfl

theorem sharedLayout_write_uniswapV3 (p : SharedParameters) :
    sharedUniswapTraderJoeLayout.write p = Messages.UniswapSwapParameters.write
      ⟨p.firstPoolId, p.path.map fun hop => ⟨hop.address, hop.poolId⟩⟩ := by
  rw [sharedLayout_write, Messages.UniswapSwapParameters.write, Messages.writePath, List.length_map,
    List.flatMap_map]
  rfl

theorem sharedLayout_write_traderJoe (p : SharedParameters) :
    sharedUniswapTraderJoeLayout.write p = Messages.TraderJoeSwapParameters.write
      ⟨toPoolId p.firstPoolId, p.path.map fun hop => ⟨hop.address, toPoolId hop.poolId⟩⟩ := by
  rw [sharedLayout_write, Messages.TraderJoeSwapParameters.write, Messages.writePath, List.length_map,
    List.flatMap_map]
  simp only [Messages.TraderJoeSwapPath.write, toPoolId_write]
  rfl

theorem swapTypeItem_write (t : SwapType) : swapTypeItem.write t = t.toRust.write := by
  cases t with
  | uniswapV3 p =>
    rw [SwapType.toRust, Messages.SwapType.write, ← sharedLayout_write_uniswapV3]
    show ((sharedUniswapTraderJoeLayout.write p).map fun out => (uint8 1, out)) >>= _ = _
    cases sharedUniswapTraderJoeLayout.write p <;> rfl
  | traderJoe p =>
    rw [SwapType.toRust, Messages.SwapType.write, ← sharedLayout_write_traderJoe]
    show ((sharedUniswapTraderJoeLayout.write p).map fun out => (uint8 2, out)) >>= _ = _
    cases sharedUniswapTraderJoeLayout.write p <;> rfl
  | jupiterV6 dexProgramId => cases dexProgramId <;> rfl

theorem swapItem_write (s : Swap) : swapItem.write s = s.toRust.write := by
  rw [Swap.toRust, Messages.OutputSwap.write, ← swapTypeItem_write]
  show ((swapTypeItem.write s.type >>= fun t => Except.ok (writeUint s.limitAmount ++ t)) >>= fun b =>
    Except.ok (writeUint s.deadline ++ b)) = _
  cases swapTypeItem.write s.type <;> rfl

theorem outputTokenItem_write (t : OutputToken) : outputTokenItem.write t = t.toRust.write := by
  cases t with
  | usdc => rfl
  | gas swap =>
    rw [OutputToken.toRust, Messages.OutputToken.write, ← swapItem_write]
    show ((swapItem.write swap).map fun out => (uint8 1, out)) >>= _ = _
    cases swapItem.write swap <;> rfl
  | other address swap =>
    rw [OutputToken.toRust, Messages.OutputToken.write, ← swapItem_write]
    show ((swapItem.write swap >>= fun b => Except.ok (address.toList ++ b)).map
      fun out => (uint8 2, out)) >>= _ = _
    cases swapItem.write swap <;> rfl

theorem redeemModeItem_write (m : RedeemMode) : redeemModeItem.write m = .ok m.toRust.write := by
  cases m <;> rfl

/-- **Both programs write a message the same way.** -/
theorem encodeSwapLayerMessage_eq (m : SwapLayerMessage) :
    encodeSwapLayerMessage m = m.toRust.toVec := by
  rw [SwapLayerMessage.toRust, Messages.SwapMessageV1.toVec, Messages.SwapMessageV1.write,
    ← outputTokenItem_write]
  show (redeemModeItem.write m.redeemMode >>= fun r => outputTokenItem.write m.outputToken >>= fun o =>
    Except.ok (r ++ o)) >>= (fun b => Except.ok (m.recipient.toList ++ b)) >>= (fun b =>
      Except.ok (writeUint (uint8 1) ++ b)) = _
  rw [redeemModeItem_write]
  cases outputTokenItem.write m.outputToken <;> rfl

/-! ## Every Rust message that can be written is one of the client -/

theorem toPoolId_surjective : Function.Surjective toPoolId := by
  rintro ⟨version, binSize⟩
  have hversion : version.val < 256 := version.isLt
  have hbin : binSize.val < 65536 := binSize.isLt
  refine ⟨⟨version.val * 65536 + binSize.val, ?_⟩, ?_⟩
  · show version.val * 65536 + binSize.val < 16777216
    omega
  · refine congr (congrArg _ (Fin.ext ?_)) (Fin.ext ?_)
    · show (version.val * 65536 + binSize.val) / 65536 = version.val
      omega
    · show (version.val * 65536 + binSize.val) % 65536 = binSize.val
      omega

theorem SwapType.toRust_surjective {t : Messages.SwapType} (h : t ≠ .invalid) :
    ∃ s : SwapType, s.toRust = t := by
  cases t with
  | invalid => exact absurd rfl h
  | uniswapV3 p =>
    refine ⟨.uniswapV3 ⟨p.firstLegFee, p.path.map fun hop => ⟨hop.evmAddress, hop.fee⟩⟩, ?_⟩
    simp only [toRust, List.map_map]
    exact congrArg (fun path => Messages.SwapType.uniswapV3 ⟨p.firstLegFee, path⟩) (List.map_id _)
  | traderJoe p =>
    obtain ⟨firstPoolId, hfirst⟩ := toPoolId_surjective p.firstPoolId
    have hpath : Function.Surjective
        fun hop : Hop => (⟨hop.address, toPoolId hop.poolId⟩ : Messages.TraderJoeSwapPath) := by
      rintro ⟨address, id⟩
      obtain ⟨poolId, rfl⟩ := toPoolId_surjective id
      exact ⟨⟨address, poolId⟩, rfl⟩
    obtain ⟨path, hmap⟩ := List.map_surjective_iff.2 hpath p.path
    refine ⟨.traderJoe ⟨firstPoolId, path⟩, ?_⟩
    rw [toRust, hfirst, hmap]
  | jupiterV6 p => exact ⟨.jupiterV6 p.dexProgramId, rfl⟩

theorem Swap.toRust_surjective {s : Messages.OutputSwap} (h : s.swapType ≠ .invalid) :
    ∃ swap : Swap, swap.toRust = s := by
  obtain ⟨type, htype⟩ := SwapType.toRust_surjective h
  refine ⟨⟨s.deadline, s.limitAmount, type⟩, ?_⟩
  rw [Swap.toRust, htype]

theorem OutputToken.toRust_surjective {t : Messages.OutputToken}
    (h : ∀ s, t.swap = some s → s.swapType ≠ .invalid) : ∃ token : OutputToken, token.toRust = t := by
  cases t with
  | usdc => exact ⟨.usdc, rfl⟩
  | gas s =>
    obtain ⟨swap, hswap⟩ := Swap.toRust_surjective (h s rfl)
    exact ⟨.gas swap, congrArg _ hswap⟩
  | other address s =>
    obtain ⟨swap, hswap⟩ := Swap.toRust_surjective (h s rfl)
    exact ⟨.other address swap, congrArg _ hswap⟩

theorem SwapLayerMessage.toRust_surjective {r : Messages.SwapMessageV1} {bytes : List UInt8}
    (h : r.toVec = .ok bytes) : ∃ m : SwapLayerMessage, m.toRust = r := by
  have hvalid : ∀ s, r.outputToken.swap = some s → s.swapType ≠ .invalid := by
    intro s hs hinvalid
    obtain ⟨e, herror⟩ := r.write_error_iff.2 ⟨s, hs, .inl hinvalid⟩
    rw [Messages.SwapMessageV1.toVec, herror] at h
    cases h
  obtain ⟨token, htoken⟩ := OutputToken.toRust_surjective hvalid
  obtain ⟨recipient, redeemMode, outputToken⟩ := r
  cases redeemMode with
  | direct => exact ⟨⟨recipient, .direct, token⟩, congrArg _ htoken⟩
  | payload sender buf => exact ⟨⟨recipient, .payload sender buf, token⟩, congrArg _ htoken⟩
  | relay dropoff fee => exact ⟨⟨recipient, .relay dropoff fee, token⟩, congrArg _ htoken⟩

/-! ## Both programs read the same -/

/-- **The client decodes what the Rust program decodes.** -/
theorem decodeSwapLayerMessage_iff {b : List UInt8} {m : SwapLayerMessage} :
    decodeSwapLayerMessage b = .ok m ↔ Messages.SwapMessageV1.readSlice b = .ok m.toRust := by
  rw [Messages.SwapMessageV1.readSlice_iff_toVec, ← encodeSwapLayerMessage_eq]
  exact swapLayerMessageLayout.decode_iff

/-- **The codecs define the same format**: both programs accept the same strings; what they decode a
string to corresponds field by field, a pool id being the version and the bin size in a row; and both
write a message to the same bytes, those that it was decoded from. -/
theorem decodeSwapLayerMessage_agrees :
    (∀ b, (∃ m, decodeSwapLayerMessage b = .ok m) ↔
      ∃ r, Messages.SwapMessageV1.readSlice b = .ok r) ∧
    (∀ b m r, decodeSwapLayerMessage b = .ok m → Messages.SwapMessageV1.readSlice b = .ok r →
      r = m.toRust) ∧
    (∀ poolId : Uint 3, poolId.val =
      (toPoolId poolId).version.val * 65536 + (toPoolId poolId).binSize.val) ∧
    (∀ m : SwapLayerMessage, encodeSwapLayerMessage m = m.toRust.toVec) ∧
    ∀ b m, decodeSwapLayerMessage b = .ok m →
      encodeSwapLayerMessage m = .ok b ∧ m.toRust.toVec = .ok b := by
  refine ⟨fun b => ⟨?_, ?_⟩, fun b m r hm hr => ?_, fun poolId => ?_, encodeSwapLayerMessage_eq,
    fun b m hm => ?_⟩
  · rintro ⟨m, hm⟩
    exact ⟨m.toRust, decodeSwapLayerMessage_iff.1 hm⟩
  · rintro ⟨r, hr⟩
    obtain ⟨m, rfl⟩ :=
      SwapLayerMessage.toRust_surjective (Messages.SwapMessageV1.readSlice_iff_toVec.1 hr)
    exact ⟨m, decodeSwapLayerMessage_iff.2 hr⟩
  · exact Except.ok.inj (hr.symm.trans (decodeSwapLayerMessage_iff.1 hm))
  · exact (Nat.div_add_mod' poolId.val 65536).symm
  · have hwrite := swapLayerMessageLayout.decode_iff.1 hm
    exact ⟨hwrite, (encodeSwapLayerMessage_eq m).symm.trans hwrite⟩

end SwapLayer.Client
