import SwapLayer.Messages.SwapMessage

/-!
# Reported message sizes

Model of `written_size`, the number of bytes that each message type says it is written in: a second
recursion over the types of `SwapMessage.lean`, whose constants are added up by hand. The sums
saturate at the top of `usize`, 64 bits wide; no value that can be written comes near.

The type byte of `toVec` is in no size (`TypePrefixedPayload` adds it).

Results:
* `OutputToken.writtenSize_eq` and the lemmas before it: an output token and everything below it is
  written in as many bytes as it says.
* `RedeemMode.writtenSize_eq`: so is a redeem mode, except that a payload counts four bytes for its
  length where `WriteableBytes<u16>` writes two.
* `MessagePart.writtenSize_exact_iff`: a size is the real one iff there is no payload.
-/

namespace SwapLayer.Messages

open ByteString Program

/-- `usize::saturating_mul`. -/
def saturatingMul (a b : ℕ) : ℕ := min (a * b) (2 ^ 64 - 1)

/-! ## Swap types -/

def Uint24.BYTES : ℕ := 3
def Uint48.BYTES : ℕ := 6

def UniswapSwapPath.ENCODED_SIZE : ℕ := 20 + Uint24.BYTES

/-- The size of a path with its count: a factor for the elements, and what stands before them. -/
def pathSize (elements encodedSize fixed : ℕ) : ℕ :=
  saturatingAdd (saturatingMul elements encodedSize) fixed

def UniswapSwapParameters.writtenSize (p : UniswapSwapParameters) : ℕ :=
  pathSize p.path.length UniswapSwapPath.ENCODED_SIZE (Uint24.BYTES + 1)

def TraderJoePoolId.ENCODED_SIZE : ℕ := 3

def TraderJoeSwapPath.ENCODED_SIZE : ℕ := 20 + TraderJoePoolId.ENCODED_SIZE

def TraderJoeSwapParameters.writtenSize (p : TraderJoeSwapParameters) : ℕ :=
  pathSize p.path.length TraderJoeSwapPath.ENCODED_SIZE (TraderJoePoolId.ENCODED_SIZE + 1)

def JupiterV6SwapParameters.writtenSize (p : JupiterV6SwapParameters) : ℕ :=
  match p.dexProgramId with
  | some _ => 33
  | none => 1

def SwapType.writtenSize : SwapType → ℕ
  | invalid => 0
  | uniswapV3 parameters => saturatingAdd parameters.writtenSize 1
  | traderJoe parameters => saturatingAdd parameters.writtenSize 1
  | jupiterV6 parameters => saturatingAdd parameters.writtenSize 1

/-! ## The parts of a message, and the message -/

def OutputSwap.writtenSize (s : OutputSwap) : ℕ :=
  saturatingAdd s.swapType.writtenSize (4 + 16)

def OutputToken.writtenSize : OutputToken → ℕ
  | usdc => 1
  | gas swap => saturatingAdd swap.writtenSize 1
  | other _ swap => saturatingAdd swap.writtenSize (32 + 1)

/-- The fourth constant of `Payload` is its length, which is written in two bytes. -/
def RedeemMode.writtenSize : RedeemMode → ℕ
  | direct => 1
  | payload _ buf => saturatingAdd buf.val.length (1 + 32 + 4)
  | relay _ _ => 1 + 4 + Uint48.BYTES

def SwapMessageV1.writtenSize (m : SwapMessageV1) : ℕ :=
  saturatingAdd (saturatingAdd m.redeemMode.writtenSize m.outputToken.writtenSize) 32

/-! ## Sizes are the lengths of what is written -/

theorem length_writeUint {n : ℕ} (v : Uint n) : (writeUint v).length = n := length_toBE n v

theorem UniswapSwapPath.length_write (p : UniswapSwapPath) :
    p.write.length = UniswapSwapPath.ENCODED_SIZE := by
  rw [UniswapSwapPath.write, List.length_append, List.Vector.toList_length, length_writeUint]
  rfl

theorem TraderJoePoolId.length_write (p : TraderJoePoolId) :
    p.write.length = TraderJoePoolId.ENCODED_SIZE := by
  rw [TraderJoePoolId.write, List.length_append, length_writeUint, length_writeUint]
  rfl

theorem TraderJoeSwapPath.length_write (p : TraderJoeSwapPath) :
    p.write.length = TraderJoeSwapPath.ENCODED_SIZE := by
  rw [TraderJoeSwapPath.write, List.length_append, List.Vector.toList_length,
    TraderJoePoolId.length_write]
  rfl

/-- A path that can be written has at most 255 elements, so its size does not saturate. -/
theorem pathSize_eq {α : Type} {write : α → List UInt8} {path : List α} {bytes : List UInt8}
    {encodedSize k : ℕ} (hwrite : ∀ a, (write a).length = encodedSize)
    (hsize : encodedSize ≤ 256) (hfixed : k ≤ 256)
    (h : writePath write path = .ok bytes) :
    pathSize path.length encodedSize (k + 1) = k + bytes.length ∧
      bytes.length ≤ 2 ^ 17 := by
  obtain ⟨hlen, rfl⟩ := writePath_ok.1 h
  have hmul : path.length * encodedSize ≤ 256 * 256 :=
    Nat.mul_le_mul (Nat.le_of_lt hlen) hsize
  rw [pathSize, List.length_append, length_toBE, length_flatMap_const hwrite]
  unfold saturatingAdd saturatingMul
  omega

theorem UniswapSwapParameters.writtenSize_eq {p : UniswapSwapParameters} {out : List UInt8}
    (h : p.write = .ok out) : p.writtenSize = out.length ∧ out.length ≤ 2 ^ 18 := by
  obtain ⟨bytes, hpath, hret⟩ := except_bind_ok.1 h
  obtain rfl := except_pure_ok.1 hret
  obtain ⟨hsize, hle⟩ := pathSize_eq UniswapSwapPath.length_write (k := Uint24.BYTES)
    (by decide) (by decide) hpath
  rw [writtenSize, hsize, List.length_append, length_writeUint]
  exact ⟨rfl, by omega⟩

theorem TraderJoeSwapParameters.writtenSize_eq {p : TraderJoeSwapParameters} {out : List UInt8}
    (h : p.write = .ok out) : p.writtenSize = out.length ∧ out.length ≤ 2 ^ 18 := by
  obtain ⟨bytes, hpath, hret⟩ := except_bind_ok.1 h
  obtain rfl := except_pure_ok.1 hret
  obtain ⟨hsize, hle⟩ := pathSize_eq TraderJoeSwapPath.length_write
    (k := TraderJoePoolId.ENCODED_SIZE) (by decide) (by decide) hpath
  have hlen := p.firstPoolId.length_write
  rw [writtenSize, hsize, List.length_append, hlen]
  exact ⟨rfl, by unfold TraderJoePoolId.ENCODED_SIZE; omega⟩

theorem JupiterV6SwapParameters.writtenSize_eq (p : JupiterV6SwapParameters) :
    p.writtenSize = p.write.length ∧ p.write.length ≤ 33 := by
  obtain ⟨_ | program⟩ := p
  · exact ⟨rfl, by decide⟩
  · have hlen : (write ⟨some program⟩).length = 33 := by
      simp [write, writeOption]
    rw [hlen]
    exact ⟨rfl, Nat.le_refl _⟩

theorem saturatingAdd_length {size fixed : ℕ} {bytes : List UInt8} (hsize : size = bytes.length)
    (hle : bytes.length ≤ 2 ^ 20) (hfixed : fixed ≤ 2 ^ 8) :
    saturatingAdd size fixed = fixed + bytes.length := by
  rw [hsize, saturatingAdd_of_lt (by omega), Nat.add_comm]

theorem SwapType.writtenSize_eq {t : SwapType} {out : List UInt8} (h : t.write = .ok out) :
    t.writtenSize = out.length ∧ out.length ≤ 2 ^ 18 + 1 := by
  cases t with
  | invalid => cases h
  | uniswapV3 p =>
    obtain ⟨bytes, hwrite, hret⟩ := except_bind_ok.1 h
    obtain rfl := except_pure_ok.1 hret
    obtain ⟨hsize, hle⟩ := p.writtenSize_eq hwrite
    rw [writtenSize, saturatingAdd_length hsize (by omega) (by decide), List.length_append,
      length_writeUint]
    exact ⟨rfl, by omega⟩
  | traderJoe p =>
    obtain ⟨bytes, hwrite, hret⟩ := except_bind_ok.1 h
    obtain rfl := except_pure_ok.1 hret
    obtain ⟨hsize, hle⟩ := p.writtenSize_eq hwrite
    rw [writtenSize, saturatingAdd_length hsize (by omega) (by decide), List.length_append,
      length_writeUint]
    exact ⟨rfl, by omega⟩
  | jupiterV6 p =>
    obtain rfl := Except.ok.inj h
    obtain ⟨hsize, hle⟩ := p.writtenSize_eq
    rw [writtenSize, saturatingAdd_length hsize (by omega) (by decide), List.length_append,
      length_writeUint]
    exact ⟨rfl, by omega⟩

theorem OutputSwap.writtenSize_eq {s : OutputSwap} {out : List UInt8} (h : s.write = .ok out) :
    s.writtenSize = out.length ∧ out.length ≤ 2 ^ 18 + 21 := by
  obtain ⟨bytes, hwrite, hret⟩ := except_bind_ok.1 h
  obtain rfl := except_pure_ok.1 hret
  obtain ⟨hsize, hle⟩ := s.swapType.writtenSize_eq hwrite
  rw [writtenSize, saturatingAdd_length hsize (by omega) (by decide), List.length_append,
    List.length_append, length_writeUint, length_writeUint, Nat.add_assoc]
  exact ⟨rfl, by omega⟩

theorem OutputToken.writtenSize_eq {t : OutputToken} {out : List UInt8} (h : t.write = .ok out) :
    t.writtenSize = out.length ∧ out.length ≤ 2 ^ 18 + 54 := by
  cases t with
  | usdc =>
    obtain rfl := Except.ok.inj h
    exact ⟨rfl, by decide⟩
  | gas s =>
    obtain ⟨bytes, hwrite, hret⟩ := except_bind_ok.1 h
    obtain rfl := except_pure_ok.1 hret
    obtain ⟨hsize, hle⟩ := s.writtenSize_eq hwrite
    rw [writtenSize, saturatingAdd_length hsize (by omega) (by decide), List.length_append,
      length_writeUint]
    exact ⟨rfl, by omega⟩
  | other address s =>
    obtain ⟨bytes, hwrite, hret⟩ := except_bind_ok.1 h
    obtain rfl := except_pure_ok.1 hret
    obtain ⟨hsize, hle⟩ := s.writtenSize_eq hwrite
    rw [writtenSize, saturatingAdd_length hsize (by omega) (by decide), List.length_append,
      List.length_append, length_writeUint, List.Vector.toList_length]
    omega

/-! ## Payloads -/

/-- The mode carries a payload. -/
def RedeemMode.IsPayload : RedeemMode → Prop
  | payload _ _ => True
  | _ => False

instance (mode : RedeemMode) : Decidable mode.IsPayload :=
  match mode with
  | .direct => .isFalse id
  | .payload _ _ => .isTrue trivial
  | .relay _ _ => .isFalse id

/-- **A redeem mode** says its size, and two bytes more for a payload. -/
theorem RedeemMode.writtenSize_eq (mode : RedeemMode) :
    mode.writtenSize = mode.write.length + (if mode.IsPayload then 2 else 0) ∧
      mode.write.length ≤ 2 ^ 17 := by
  cases mode with
  | direct => exact ⟨rfl, by decide⟩
  | payload sender buf =>
    have hlen : (write (payload sender buf)).length = 35 + buf.val.length := by
      simp only [write, writePrefixed, List.length_append, length_writeUint, length_toBE,
        List.Vector.toList_length]
      omega
    have hbuf : buf.val.length < 2 ^ 16 := buf.property
    have hpayload : (payload sender buf).IsPayload := trivial
    rw [hlen, if_pos hpayload, writtenSize, saturatingAdd_of_lt (by omega)]
    omega
  | relay gasDropoff relayingFee =>
    have hlen : (write (relay gasDropoff relayingFee)).length = 11 := by
      simp only [write, List.length_append, length_writeUint]
    rw [hlen]
    exact ⟨rfl, by decide⟩

namespace SwapMessageV1

/-- **A message** says its size, and two bytes more for a payload. -/
theorem writtenSize_eq {m : SwapMessageV1} {out : List UInt8} (h : m.write = .ok out) :
    m.writtenSize = out.length + (if m.redeemMode.IsPayload then 2 else 0) := by
  obtain ⟨bytes, hwrite, hret⟩ := except_bind_ok.1 h
  obtain rfl := except_pure_ok.1 hret
  obtain ⟨htoken, hle⟩ := m.outputToken.writtenSize_eq hwrite
  obtain ⟨hmode, hle'⟩ := m.redeemMode.writtenSize_eq
  have hextra : (if m.redeemMode.IsPayload then 2 else 0) ≤ 2 := by split <;> decide
  have hparts : saturatingAdd m.redeemMode.writtenSize m.outputToken.writtenSize =
      m.redeemMode.writtenSize + m.outputToken.writtenSize := saturatingAdd_of_lt (by omega)
  rw [writtenSize, hparts, saturatingAdd_of_lt (by omega), htoken, hmode, List.length_append,
    List.length_append, List.Vector.toList_length]
  omega

end SwapMessageV1

/-! ## All of them -/

/-- A message, or a part of one. -/
inductive MessagePart
  | message (m : SwapMessageV1)
  | redeemMode (mode : RedeemMode)
  | outputToken (t : OutputToken)
  | outputSwap (s : OutputSwap)
  | swapType (t : SwapType)
  | uniswap (p : UniswapSwapParameters)
  | traderJoe (p : TraderJoeSwapParameters)
  | jupiterV6 (p : JupiterV6SwapParameters)

namespace MessagePart

def write : MessagePart → Except IoError (List UInt8)
  | message m => m.write
  | redeemMode mode => .ok mode.write
  | outputToken t => t.write
  | outputSwap s => s.write
  | swapType t => t.write
  | uniswap p => p.write
  | traderJoe p => p.write
  | jupiterV6 p => .ok p.write

def writtenSize : MessagePart → ℕ
  | message m => m.writtenSize
  | redeemMode mode => mode.writtenSize
  | outputToken t => t.writtenSize
  | outputSwap s => s.writtenSize
  | swapType t => t.writtenSize
  | uniswap p => p.writtenSize
  | traderJoe p => p.writtenSize
  | jupiterV6 p => p.writtenSize

/-- There is a payload in it. -/
def HasPayload : MessagePart → Prop
  | message m => m.redeemMode.IsPayload
  | redeemMode mode => mode.IsPayload
  | _ => False

/-- **Which sizes are the real ones.** Everything that can be written has the size it reports,
except for a payload and the message around it. -/
theorem writtenSize_exact_iff (p : MessagePart) (out : List UInt8) (h : p.write = .ok out) :
    p.writtenSize = out.length ↔ ¬p.HasPayload := by
  cases p with
  | message m =>
    rw [writtenSize, m.writtenSize_eq h, HasPayload]
    split <;> simp [*]
  | redeemMode mode =>
    cases Except.ok.inj h
    rw [writtenSize, mode.writtenSize_eq.1, HasPayload]
    split <;> simp [*]
  | outputToken t => exact iff_of_true (t.writtenSize_eq h).1 not_false
  | outputSwap s => exact iff_of_true (s.writtenSize_eq h).1 not_false
  | swapType t => exact iff_of_true (t.writtenSize_eq h).1 not_false
  | uniswap p => exact iff_of_true (p.writtenSize_eq h).1 not_false
  | traderJoe p => exact iff_of_true (p.writtenSize_eq h).1 not_false
  | jupiterV6 p =>
    cases Except.ok.inj h
    exact iff_of_true p.writtenSize_eq.1 not_false

/-- The parameters of a Jupiter swap with no dex are written in one byte. -/
theorem writtenSize_jupiter :
    ∃ out, (jupiterV6 ⟨none⟩).write = .ok out ∧ out.length = 1 ∧
      (writtenSize (jupiterV6 ⟨none⟩) = out.length ↔ ¬HasPayload (jupiterV6 ⟨none⟩)) :=
  ⟨_, rfl, rfl, writtenSize_exact_iff _ _ rfl⟩

theorem deadbeef_short : ([0xde, 0xad, 0xbe, 0xef] : List UInt8).length < 256 ^ 2 := by decide

/-- A message with four bytes of payload, as in the source's tests. -/
def deadbeef : SwapMessageV1 where
  recipient := List.Vector.replicate 32 0
  redeemMode := .payload (List.Vector.replicate 32 0) ⟨_, deadbeef_short⟩
  outputToken := .usdc

/-- It says 74 bytes and is written in 72. -/
theorem writtenSize_deadbeef :
    deadbeef.writtenSize = 74 ∧ deadbeef.write.map List.length = .ok 72 ∧
      ¬∀ (p : MessagePart) out, p.write = .ok out → p.writtenSize = out.length := by
  have hwrite : deadbeef.write.map List.length = .ok 72 := by decide
  refine ⟨by decide, hwrite, fun hall => ?_⟩
  cases hout : deadbeef.write with
  | error e =>
    rw [hout] at hwrite
    cases hwrite
  | ok out =>
    rw [hout] at hwrite
    have hlen : out.length = 72 := Except.ok.inj hwrite
    have hsize := hall (message deadbeef) out hout
    rw [hlen] at hsize
    exact absurd hsize (by decide)

end MessagePart

end SwapLayer.Messages
