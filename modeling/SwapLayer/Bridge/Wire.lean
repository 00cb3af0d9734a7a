import SwapLayer.Evm.Message
import SwapLayer.Messages.SwapMessage

/-!
# One message, two languages

The EVM contract and the Solana program each have their own model of the swap message:
`encodeSwapMessage` concatenates sections, `SwapMessageV1` is a tree with a writer. Here the two
are the same layout. A Rust redeem mode is the content of the EVM redeem parameters
(`redeemFields`), writing a message is encoding its parts (`toVec_ok`), and reading one comes down
to reading its output section (`readSlice_encode`).
-/

namespace SwapLayer.Bridge

open ByteString Program Messages

/-- A Rust redeem mode as EVM redeem parameters. -/
def redeemFields : Messages.RedeemMode → Evm.RedeemFields
  | .direct => .direct
  | .payload sender buf => .payload sender buf.val buf.property
  | .relay gasDropoff relayingFee =>
    .relay gasDropoff relayingFee gasDropoff.isLt relayingFee.isLt

/-- EVM redeem parameters as a Rust redeem mode. -/
def redeemMode : Evm.RedeemFields → Messages.RedeemMode
  | .direct => .direct
  | .payload sender bytes hlen => .payload sender ⟨bytes, hlen⟩
  | .relay gasDropoff relayingFee hdropoff hfee =>
    .relay ⟨gasDropoff, hdropoff⟩ ⟨relayingFee, hfee⟩

@[simp] theorem redeemFields_redeemMode (r : Evm.RedeemFields) :
    redeemFields (redeemMode r) = r := by
  cases r <;> rfl

/-- The mode byte and the redeem parameters. -/
theorem redeemMode_write (m : Messages.RedeemMode) :
    m.write = toBE 1 (redeemFields m).mode.toUint8 ++ (redeemFields m).encode := by
  cases m <;> rfl

/-- The layout of an encoded message in terms of the Rust writers. -/
theorem encodeSwapMessage_redeemFields (recipient : Fixed 32) (m : Messages.RedeemMode)
    (out : List UInt8) :
    Evm.encodeSwapMessage recipient (redeemFields m).mode (redeemFields m).encode out =
      writeUint SwapMessageV1.TYPE ++ (recipient.toList ++ (m.write ++ out)) := by
  rw [redeemMode_write, List.append_assoc]
  rfl

/-- **Writing a message is encoding its parts**, if its output token has an encoding. -/
theorem toVec_ok {m : SwapMessageV1} {bs : List UInt8} :
    m.toVec = .ok bs ↔ ∃ out, m.outputToken.write = .ok out ∧
      bs = Evm.encodeSwapMessage m.recipient (redeemFields m.redeemMode).mode
        (redeemFields m.redeemMode).encode out := by
  simp only [SwapMessageV1.toVec, SwapMessageV1.write, except_bind_ok, except_pure_ok,
    encodeSwapMessage_redeemFields]
  constructor
  · rintro ⟨_, ⟨out, hout, rfl⟩, rfl⟩
    exact ⟨out, hout, rfl⟩
  · rintro ⟨out, hout, rfl⟩
    exact ⟨_, ⟨out, hout, rfl⟩, rfl⟩

/-- **Reading an encoded message is reading its output section**: recipient and redeem mode are
always read back. -/
theorem readSlice_encode {recipient : Fixed 32} {r : Evm.RedeemFields} {out : List UInt8}
    {m : SwapMessageV1} :
    SwapMessageV1.readSlice (Evm.encodeSwapMessage recipient r.mode r.encode out) = .ok m ↔
      m.outputToken.write = .ok out ∧ m.recipient = recipient ∧ m.redeemMode = redeemMode r := by
  have hlayout := encodeSwapMessage_redeemFields recipient (redeemMode r) out
  rw [redeemFields_redeemMode] at hlayout
  rw [SwapMessageV1.readSlice_iff_toVec, toVec_ok]
  constructor
  · rintro ⟨out', hout', he⟩
    rw [hlayout, encodeSwapMessage_redeemFields] at he
    obtain ⟨hrecipient, he⟩ := (readExact_exact 32).append_inj (List.append_cancel_left he)
    obtain ⟨hmode, rfl⟩ := RedeemMode.read_exact.append_inj he
    exact ⟨hout', hrecipient.symm, hmode.symm⟩
  · rintro ⟨hout, rfl, hmode⟩
    exact ⟨out, hout, by rw [hmode, redeemFields_redeemMode]⟩

end SwapLayer.Bridge
