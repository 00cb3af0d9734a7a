import SwapLayer.Messages.Uint

/-!
# The Rust message types

Model of `universal/rs/messages`: the swap message as the Solana program reads and writes it.
Each type has the `read` and the `write` of its `Readable` and `Writeable` implementations; the
traits, the fixed-width integers and the `Option` of `wormhole_io` (outside the tree) are the
readers of `Lib/Reader`.

* `u8` to `u128`, `Uint24` and `Uint48` (`Messages/Uint`) are `Uint n` for their number of bytes,
  `[u8; n]` is `Fixed n` and `WriteableBytes<u16>` is `Prefixed 2`.
* A writer that can fail returns `Except`: the swap type `Invalid` has no encoding, and a path
  must be shorter than 256.
* `readSlice` and `toVec` are the `TypePrefixedPayload` ends: the type byte in front, nothing
  behind. Size hints (`written_size`) only reserve capacity; `WrittenSize.lean` has them.

Results: for each type, `read` and `write` are inverse (`…_exact`, `…_inverse`), and so for the
whole message:
* `readSlice_iff_toVec`: a string is accepted iff it is what is written for its value.
* `write_error_iff`: only a swap of type `Invalid` or a path of more than 255 hops is refused.
* `codec`: the three together.
-/

namespace SwapLayer.Messages

open ByteString Program

/-! ## Swap types -/

structure UniswapSwapPath where
  evmAddress : Fixed 20
  fee : Uint 3
  deriving DecidableEq

def UniswapSwapPath.read : Reader UniswapSwapPath := do
  let evmAddress ← readExact 20
  let fee ← Uint24.read
  return ⟨evmAddress, fee⟩

def UniswapSwapPath.write (p : UniswapSwapPath) : List UInt8 :=
  p.evmAddress.toList ++ writeUint p.fee

/-- The elements of a path behind a `u8` that counts them. -/
def readPath {α : Type} (read : Reader α) : Reader (List α) := do
  let pathLen ← readUint 1
  readMany read pathLen

/-- `u8::try_from(path.len())` and the elements of the path. -/
def writePath {α : Type} (write : α → List UInt8) (path : List α) :
    Except IoError (List UInt8) :=
  if path.length < 256 ^ 1 then .ok (toBE 1 path.length ++ path.flatMap write)
  else .error .invalidInput

structure UniswapSwapParameters where
  firstLegFee : Uint 3
  path : List UniswapSwapPath
  deriving DecidableEq

def UniswapSwapParameters.read : Reader UniswapSwapParameters := do
  let firstLegFee ← Uint24.read
  let path ← readPath UniswapSwapPath.read
  return ⟨firstLegFee, path⟩

def UniswapSwapParameters.write (p : UniswapSwapParameters) : Except IoError (List UInt8) := do
  let path ← writePath UniswapSwapPath.write p.path
  return writeUint p.firstLegFee ++ path

structure TraderJoePoolId where
  version : Uint 1
  binSize : Uint 2
  deriving DecidableEq

def TraderJoePoolId.read : Reader TraderJoePoolId := do
  let version ← readUint 1
  let binSize ← readUint 2
  return ⟨version, binSize⟩

def TraderJoePoolId.write (p : TraderJoePoolId) : List UInt8 :=
  writeUint p.version ++ writeUint p.binSize

structure TraderJoeSwapPath where
  evmAddress : Fixed 20
  poolId : TraderJoePoolId
  deriving DecidableEq

def TraderJoeSwapPath.read : Reader TraderJoeSwapPath := do
  let evmAddress ← readExact 20
  let poolId ← TraderJoePoolId.read
  return ⟨evmAddress, poolId⟩

def TraderJoeSwapPath.write (p : TraderJoeSwapPath) : List UInt8 :=
  p.evmAddress.toList ++ p.poolId.write

structure TraderJoeSwapParameters where
  firstPoolId : TraderJoePoolId
  path : List TraderJoeSwapPath
  deriving DecidableEq

def TraderJoeSwapParameters.read : Reader TraderJoeSwapParameters := do
  let firstPoolId ← TraderJoePoolId.read
  let path ← readPath TraderJoeSwapPath.read
  return ⟨firstPoolId, path⟩

def TraderJoeSwapParameters.write (p : TraderJoeSwapParameters) :
    Except IoError (List UInt8) := do
  let path ← writePath TraderJoeSwapPath.write p.path
  return p.firstPoolId.write ++ path

structure JupiterV6SwapParameters where
  dexProgramId : Option (Fixed 32)
  deriving DecidableEq

def JupiterV6SwapParameters.read : Reader JupiterV6SwapParameters := do
  let dexProgramId ← readOption (readExact 32)
  return ⟨dexProgramId⟩

def JupiterV6SwapParameters.write (p : JupiterV6SwapParameters) : List UInt8 :=
  writeOption List.Vector.toList p.dexProgramId

inductive SwapType
  | invalid
  | uniswapV3 (parameters : UniswapSwapParameters)
  | traderJoe (parameters : TraderJoeSwapParameters)
  | jupiterV6 (parameters : JupiterV6SwapParameters)
  deriving DecidableEq

namespace SwapType

def UNISWAP_V3 : Uint 1 := 1
def TRADER_JOE : Uint 1 := 2
def JUPITER_V6 : Uint 1 := 16

def read : Reader SwapType := do
  let byte ← readUint 1
  if byte = UNISWAP_V3 then do
    let parameters ← UniswapSwapParameters.read
    return .uniswapV3 parameters
  else if byte = TRADER_JOE then do
    let parameters ← TraderJoeSwapParameters.read
    return .traderJoe parameters
  else if byte = JUPITER_V6 then do
    let parameters ← JupiterV6SwapParameters.read
    return .jupiterV6 parameters
  else fail (.invalidData "Invalid SwapType")

def write : SwapType → Except IoError (List UInt8)
  | uniswapV3 parameters => do
    let bytes ← parameters.write
    return writeUint UNISWAP_V3 ++ bytes
  | traderJoe parameters => do
    let bytes ← parameters.write
    return writeUint TRADER_JOE ++ bytes
  | jupiterV6 parameters => .ok (writeUint JUPITER_V6 ++ parameters.write)
  | invalid => .error (.invalidData "Invalid SwapType")

end SwapType

/-! ## Output tokens -/

structure OutputSwap where
  deadline : Uint 4
  limitAmount : Uint 16
  swapType : SwapType
  deriving DecidableEq

def OutputSwap.read : Reader OutputSwap := do
  let deadline ← readUint 4
  let limitAmount ← readUint 16
  let swapType ← SwapType.read
  return ⟨deadline, limitAmount, swapType⟩

def OutputSwap.write (s : OutputSwap) : Except IoError (List UInt8) := do
  let swapType ← s.swapType.write
  return writeUint s.deadline ++ (writeUint s.limitAmount ++ swapType)

inductive OutputToken
  | usdc
  | gas (swap : OutputSwap)
  | other (address : Fixed 32) (swap : OutputSwap)
  deriving DecidableEq

namespace OutputToken

def USDC : Uint 1 := 0
def GAS : Uint 1 := 1
def OTHER : Uint 1 := 2

def read : Reader OutputToken := do
  let byte ← readUint 1
  if byte = USDC then pure .usdc
  else if byte = GAS then do
    let swap ← OutputSwap.read
    return .gas swap
  else if byte = OTHER then do
    let address ← readExact 32
    let swap ← OutputSwap.read
    return .other address swap
  else fail (.invalidData "Invalid OutputToken")

def write : OutputToken → Except IoError (List UInt8)
  | usdc => .ok (writeUint USDC)
  | gas swap => do
    let bytes ← swap.write
    return writeUint GAS ++ bytes
  | other address swap => do
    let bytes ← swap.write
    return writeUint OTHER ++ (address.toList ++ bytes)

end OutputToken

/-! ## Redeem modes -/

inductive RedeemMode
  | direct
  | payload (sender : Fixed 32) (buf : Prefixed 2)
  | relay (gasDropoff : Uint 4) (relayingFee : Uint 6)
  deriving DecidableEq

namespace RedeemMode

def DIRECT : Uint 1 := 0
def PAYLOAD : Uint 1 := 1
def RELAY : Uint 1 := 2

def read : Reader RedeemMode := do
  let byte ← readUint 1
  if byte = DIRECT then pure .direct
  else if byte = PAYLOAD then do
    let sender ← readExact 32
    let buf ← readPrefixed 2
    return .payload sender buf
  else if byte = RELAY then do
    let gasDropoff ← readUint 4
    let relayingFee ← Uint48.read
    return .relay gasDropoff relayingFee
  else fail (.invalidData "Invalid RedeemMode")

def write : RedeemMode → List UInt8
  | direct => writeUint DIRECT
  | payload sender buf => writeUint PAYLOAD ++ (sender.toList ++ writePrefixed buf)
  | relay gasDropoff relayingFee => writeUint RELAY ++ (writeUint gasDropoff ++ writeUint relayingFee)

end RedeemMode

/-! ## The message -/

structure SwapMessageV1 where
  recipient : Fixed 32
  redeemMode : RedeemMode
  outputToken : OutputToken
  deriving DecidableEq

namespace SwapMessageV1

/-- `TypePrefixedPayload<1>::TYPE`. -/
def TYPE : Uint 1 := 1

def read : Reader SwapMessageV1 := do
  let recipient ← readExact 32
  let redeemMode ← RedeemMode.read
  let outputToken ← OutputToken.read
  return ⟨recipient, redeemMode, outputToken⟩

def write (m : SwapMessageV1) : Except IoError (List UInt8) := do
  let outputToken ← m.outputToken.write
  return m.recipient.toList ++ (m.redeemMode.write ++ outputToken)

/-- The type byte, and the message. -/
def readTyped : Reader SwapMessageV1 := do
  let byte ← readUint 1
  if byte = TYPE then SwapMessageV1.read else fail (.invalidData "Invalid type")

def readSlice (bs : List UInt8) : Except IoError SwapMessageV1 := readAll readTyped bs

/-- `to_vec`, which panics where the message cannot be written. -/
def toVec (m : SwapMessageV1) : Except IoError (List UInt8) := do
  let bytes ← m.write
  return writeUint TYPE ++ bytes

end SwapMessageV1

/-! ## Reading and writing are inverse -/

theorem UniswapSwapPath.read_exact : Exact read write := by
  intro bs p rest
  simp only [read, write, bind_ok, pure_ok, readExact_exact _ _ _ _, Uint24.read_exact _ _ _]
  constructor
  · rintro ⟨a, _, rfl, f, _, rfl, rfl, rfl⟩
    exact (List.append_assoc _ _ _).symm
  · rintro rfl
    exact ⟨_, _, List.append_assoc _ _ _, _, _, rfl, rfl, rfl⟩

theorem TraderJoePoolId.read_exact : Exact read write := by
  intro bs p rest
  simp only [read, write, bind_ok, pure_ok, readUint_exact _ _ _ _]
  constructor
  · rintro ⟨v, _, rfl, b, _, rfl, rfl, rfl⟩
    exact (List.append_assoc _ _ _).symm
  · rintro rfl
    exact ⟨_, _, List.append_assoc _ _ _, _, _, rfl, rfl, rfl⟩

theorem TraderJoeSwapPath.read_exact : Exact read write := by
  intro bs p rest
  simp only [read, write, bind_ok, pure_ok, readExact_exact _ _ _ _,
    TraderJoePoolId.read_exact _ _ _]
  constructor
  · rintro ⟨a, _, rfl, i, _, rfl, rfl, rfl⟩
    exact (List.append_assoc _ _ _).symm
  · rintro rfl
    exact ⟨_, _, List.append_assoc _ _ _, _, _, rfl, rfl, rfl⟩

theorem JupiterV6SwapParameters.read_exact : Exact read write := by
  intro bs p rest
  simp only [read, write, bind_ok, pure_ok, (readExact_exact 32).option _ _ _]
  constructor
  · rintro ⟨o, _, rfl, rfl, rfl⟩
    rfl
  · rintro rfl
    exact ⟨_, _, rfl, rfl, rfl⟩

theorem writePath_ok {α : Type} {write : α → List UInt8} {path : List α} {bytes : List UInt8} :
    writePath write path = .ok bytes ↔
      path.length < 256 ^ 1 ∧ bytes = toBE 1 path.length ++ path.flatMap write := by
  unfold writePath
  by_cases hlen : path.length < 256 ^ 1
  · rw [if_pos hlen]
    exact ⟨fun h => ⟨hlen, (Except.ok.inj h).symm⟩, fun h => h.2 ▸ rfl⟩
  · rw [if_neg hlen]
    exact ⟨fun h => (by cases h), fun h => absurd h.1 hlen⟩

theorem readPath_inverse {α : Type} {read : Reader α} {write : α → List UInt8}
    (h : Exact read write) : Inverse (readPath read) (writePath write) := by
  intro bs path rest
  simp only [readPath, bind_ok, readUint_exact _ _ _ _, readMany_ok h, writePath_ok]
  constructor
  · rintro ⟨len, _, rfl, hlen, rfl⟩
    exact ⟨_, ⟨hlen ▸ len.isLt, rfl⟩, by rw [hlen, writeUint, List.append_assoc]⟩
  · rintro ⟨_, ⟨hlt, rfl⟩, rfl⟩
    exact ⟨⟨path.length, hlt⟩, _, List.append_assoc _ _ _, rfl, rfl⟩

theorem UniswapSwapParameters.read_inverse : Inverse read write := by
  intro bs p rest
  simp only [read, write, bind_ok, pure_ok, except_bind_ok, except_pure_ok,
    Uint24.read_exact _ _ _, readPath_inverse UniswapSwapPath.read_exact _ _ _]
  constructor
  · rintro ⟨fee, _, rfl, path, _, ⟨out, hout, rfl⟩, rfl, rfl⟩
    exact ⟨_, ⟨out, hout, rfl⟩, (List.append_assoc _ _ _).symm⟩
  · rintro ⟨_, ⟨out, hout, rfl⟩, rfl⟩
    exact ⟨_, _, List.append_assoc _ _ _, _, _, ⟨out, hout, rfl⟩, rfl, rfl⟩

theorem TraderJoeSwapParameters.read_inverse : Inverse read write := by
  intro bs p rest
  simp only [read, write, bind_ok, pure_ok, except_bind_ok, except_pure_ok,
    TraderJoePoolId.read_exact _ _ _, readPath_inverse TraderJoeSwapPath.read_exact _ _ _]
  constructor
  · rintro ⟨pool, _, rfl, path, _, ⟨out, hout, rfl⟩, rfl, rfl⟩
    exact ⟨_, ⟨out, hout, rfl⟩, (List.append_assoc _ _ _).symm⟩
  · rintro ⟨_, ⟨out, hout, rfl⟩, rfl⟩
    exact ⟨_, _, List.append_assoc _ _ _, _, _, ⟨out, hout, rfl⟩, rfl, rfl⟩

theorem SwapType.read_inverse : Inverse read write := by
  intro bs t rest
  simp only [read, bind_ok, readUint_exact _ _ _ _]
  constructor
  · rintro ⟨byte, _, rfl, h⟩
    split at h
    · rename_i hbyte
      obtain ⟨p, _, hread, hret⟩ := bind_ok.1 h
      obtain ⟨rfl, rfl⟩ := pure_ok.1 hret
      obtain ⟨out, hout, rfl⟩ := (UniswapSwapParameters.read_inverse _ _ _).1 hread
      refine ⟨writeUint UNISWAP_V3 ++ out, except_bind_ok.2 ⟨out, hout, rfl⟩, ?_⟩
      rw [hbyte, List.append_assoc]
    · split at h
      · rename_i hbyte
        obtain ⟨p, _, hread, hret⟩ := bind_ok.1 h
        obtain ⟨rfl, rfl⟩ := pure_ok.1 hret
        obtain ⟨out, hout, rfl⟩ := (TraderJoeSwapParameters.read_inverse _ _ _).1 hread
        refine ⟨writeUint TRADER_JOE ++ out, except_bind_ok.2 ⟨out, hout, rfl⟩, ?_⟩
        rw [hbyte, List.append_assoc]
      · split at h
        · rename_i hbyte
          obtain ⟨p, _, hread, hret⟩ := bind_ok.1 h
          obtain ⟨rfl, rfl⟩ := pure_ok.1 hret
          rw [(JupiterV6SwapParameters.read_exact _ _ _).1 hread, hbyte]
          exact ⟨_, rfl, (List.append_assoc _ _ _).symm⟩
        · exact (fail_ok.1 h).elim
  · rintro ⟨out, hout, rfl⟩
    cases t with
    | invalid => cases hout
    | uniswapV3 p =>
      obtain ⟨bytes, hbytes, hret⟩ := except_bind_ok.1 hout
      cases hret
      have hread := (UniswapSwapParameters.read_inverse (bytes ++ rest) p rest).2 ⟨_, hbytes, rfl⟩
      refine ⟨UNISWAP_V3, bytes ++ rest, List.append_assoc _ _ _, ?_⟩
      exact bind_ok.2 ⟨p, rest, hread, rfl⟩
    | traderJoe p =>
      obtain ⟨bytes, hbytes, hret⟩ := except_bind_ok.1 hout
      cases hret
      have hread := (TraderJoeSwapParameters.read_inverse (bytes ++ rest) p rest).2 ⟨_, hbytes, rfl⟩
      refine ⟨TRADER_JOE, bytes ++ rest, List.append_assoc _ _ _, ?_⟩
      exact bind_ok.2 ⟨p, rest, hread, rfl⟩
    | jupiterV6 p =>
      cases hout
      have hread := (JupiterV6SwapParameters.read_exact (p.write ++ rest) p rest).2 rfl
      refine ⟨JUPITER_V6, p.write ++ rest, List.append_assoc _ _ _, ?_⟩
      exact bind_ok.2 ⟨p, rest, hread, rfl⟩

theorem OutputSwap.read_inverse : Inverse read write := by
  intro bs s rest
  simp only [read, write, bind_ok, pure_ok, except_bind_ok, except_pure_ok,
    readUint_exact _ _ _ _, SwapType.read_inverse _ _ _]
  constructor
  · rintro ⟨d, _, rfl, l, _, rfl, t, _, ⟨out, hout, rfl⟩, rfl, rfl⟩
    exact ⟨_, ⟨out, hout, rfl⟩, by simp only [List.append_assoc]⟩
  · rintro ⟨_, ⟨out, hout, rfl⟩, rfl⟩
    refine ⟨s.deadline, writeUint s.limitAmount ++ (out ++ rest), by simp only [List.append_assoc],
      s.limitAmount, out ++ rest, rfl, s.swapType, rest, ⟨out, hout, rfl⟩, rfl, rfl⟩

theorem OutputToken.read_inverse : Inverse read write := by
  intro bs t rest
  simp only [read, bind_ok, readUint_exact _ _ _ _]
  constructor
  · rintro ⟨byte, _, rfl, h⟩
    split at h
    · rename_i hbyte
      obtain ⟨rfl, rfl⟩ := pure_ok.1 h
      exact ⟨_, rfl, by rw [hbyte]⟩
    · split at h
      · rename_i hbyte
        obtain ⟨s, _, hread, hret⟩ := bind_ok.1 h
        obtain ⟨rfl, rfl⟩ := pure_ok.1 hret
        obtain ⟨out, hout, rfl⟩ := (OutputSwap.read_inverse _ _ _).1 hread
        refine ⟨writeUint GAS ++ out, except_bind_ok.2 ⟨out, hout, rfl⟩, ?_⟩
        rw [hbyte, List.append_assoc]
      · split at h
        · rename_i hbyte
          obtain ⟨a, _, haddr, h₁⟩ := bind_ok.1 h
          obtain ⟨s, _, hread, hret⟩ := bind_ok.1 h₁
          obtain ⟨rfl, rfl⟩ := pure_ok.1 hret
          obtain ⟨out, hout, rfl⟩ := (OutputSwap.read_inverse _ _ _).1 hread
          rw [(readExact_exact 32 _ _ _).1 haddr, hbyte]
          refine ⟨writeUint OTHER ++ (a.toList ++ out), except_bind_ok.2 ⟨out, hout, rfl⟩, ?_⟩
          simp only [List.append_assoc]
        · exact (fail_ok.1 h).elim
  · rintro ⟨out, hout, rfl⟩
    cases t with
    | usdc =>
      cases hout
      exact ⟨USDC, rest, rfl, rfl⟩
    | gas s =>
      obtain ⟨bytes, hbytes, hret⟩ := except_bind_ok.1 hout
      cases hret
      have hread := (OutputSwap.read_inverse (bytes ++ rest) s rest).2 ⟨_, hbytes, rfl⟩
      refine ⟨GAS, bytes ++ rest, List.append_assoc _ _ _, ?_⟩
      exact bind_ok.2 ⟨s, rest, hread, rfl⟩
    | other a s =>
      obtain ⟨bytes, hbytes, hret⟩ := except_bind_ok.1 hout
      cases hret
      have hread := (OutputSwap.read_inverse (bytes ++ rest) s rest).2 ⟨_, hbytes, rfl⟩
      have haddr := (readExact_exact 32 (a.toList ++ (bytes ++ rest)) a _).2 rfl
      refine ⟨OTHER, a.toList ++ (bytes ++ rest), by simp only [List.append_assoc], ?_⟩
      exact bind_ok.2 ⟨a, _, haddr, bind_ok.2 ⟨s, rest, hread, rfl⟩⟩

theorem RedeemMode.read_exact : Exact read write := by
  intro bs m rest
  simp only [read, bind_ok, readUint_exact _ _ _ _]
  constructor
  · rintro ⟨byte, _, rfl, h⟩
    split at h
    · rename_i hbyte
      obtain ⟨rfl, rfl⟩ := pure_ok.1 h
      rw [hbyte, write]
    · split at h
      · rename_i hbyte
        obtain ⟨sender, _, hsender, h₁⟩ := bind_ok.1 h
        obtain ⟨buf, _, hbuf, hret⟩ := bind_ok.1 h₁
        obtain ⟨rfl, rfl⟩ := pure_ok.1 hret
        rw [(readExact_exact 32 _ _ _).1 hsender, (readPrefixed_exact 2 _ _ _).1 hbuf, hbyte]
        simp only [write, List.append_assoc]
      · split at h
        · rename_i hbyte
          obtain ⟨dropoff, _, hdropoff, h₁⟩ := bind_ok.1 h
          obtain ⟨fee, _, hfee, hret⟩ := bind_ok.1 h₁
          obtain ⟨rfl, rfl⟩ := pure_ok.1 hret
          rw [(readUint_exact 4 _ _ _).1 hdropoff, (Uint48.read_exact _ _ _).1 hfee, hbyte]
          simp only [write, List.append_assoc]
        · exact (fail_ok.1 h).elim
  · rintro rfl
    cases m with
    | direct => exact ⟨DIRECT, rest, rfl, rfl⟩
    | payload sender buf =>
      have hbuf := (readPrefixed_exact 2 (writePrefixed buf ++ rest) buf rest).2 rfl
      have hsender :=
        (readExact_exact 32 (sender.toList ++ (writePrefixed buf ++ rest)) sender _).2 rfl
      refine ⟨PAYLOAD, sender.toList ++ (writePrefixed buf ++ rest),
        by simp only [write, List.append_assoc], ?_⟩
      exact bind_ok.2 ⟨sender, _, hsender, bind_ok.2 ⟨buf, rest, hbuf, rfl⟩⟩
    | relay dropoff fee =>
      have hfee := (Uint48.read_exact (writeUint fee ++ rest) fee rest).2 rfl
      have hdropoff :=
        (readUint_exact 4 (writeUint dropoff ++ (writeUint fee ++ rest)) dropoff _).2 rfl
      refine ⟨RELAY, writeUint dropoff ++ (writeUint fee ++ rest),
        by simp only [write, List.append_assoc], ?_⟩
      exact bind_ok.2 ⟨dropoff, _, hdropoff, bind_ok.2 ⟨fee, rest, hfee, rfl⟩⟩

namespace SwapMessageV1

theorem read_inverse : Inverse SwapMessageV1.read write := by
  intro bs m rest
  simp only [SwapMessageV1.read, write, bind_ok, pure_ok, except_bind_ok, except_pure_ok,
    readExact_exact _ _ _ _, RedeemMode.read_exact _ _ _, OutputToken.read_inverse _ _ _]
  constructor
  · rintro ⟨r, _, rfl, mode, _, rfl, t, _, ⟨out, hout, rfl⟩, rfl, rfl⟩
    exact ⟨_, ⟨out, hout, rfl⟩, by simp only [List.append_assoc]⟩
  · rintro ⟨_, ⟨out, hout, rfl⟩, rfl⟩
    refine ⟨m.recipient, m.redeemMode.write ++ (out ++ rest), by simp only [List.append_assoc],
      m.redeemMode, out ++ rest, rfl, m.outputToken, rest, ⟨out, hout, rfl⟩, rfl, rfl⟩

theorem readTyped_inverse : Inverse readTyped toVec := by
  intro bs m rest
  simp only [readTyped, toVec, bind_ok, except_bind_ok, except_pure_ok, readUint_exact _ _ _ _]
  constructor
  · rintro ⟨byte, _, rfl, h⟩
    split at h
    · rename_i hbyte
      obtain ⟨out, hout, rfl⟩ := (read_inverse _ _ _).1 h
      exact ⟨_, ⟨out, hout, rfl⟩, by rw [hbyte, List.append_assoc]⟩
    · exact (fail_ok.1 h).elim
  · rintro ⟨_, ⟨out, hout, rfl⟩, rfl⟩
    exact ⟨TYPE, out ++ rest, List.append_assoc _ _ _,
      (read_inverse _ _ _).2 ⟨out, hout, rfl⟩⟩

/-- **Reading and writing messages are inverse**: a string is accepted iff it is what is written
for its value. -/
theorem readSlice_iff_toVec {bs : List UInt8} {m : SwapMessageV1} :
    readSlice bs = .ok m ↔ m.toVec = .ok bs :=
  readTyped_inverse.readAll

end SwapMessageV1

/-! ## What has no encoding -/

/-- The number of hops behind the first pool. -/
def SwapType.hops : SwapType → ℕ
  | .uniswapV3 parameters => parameters.path.length
  | .traderJoe parameters => parameters.path.length
  | _ => 0

/-- The swap that an output token asks for. -/
def OutputToken.swap : OutputToken → Option OutputSwap
  | .usdc => none
  | .gas swap => some swap
  | .other _ swap => some swap

theorem writePath_isOk {α : Type} {write : α → List UInt8} {path : List α} :
    (∃ out, writePath write path = .ok out) ↔ path.length ≤ 255 := by
  simp only [writePath_ok]
  exact ⟨fun ⟨_, hlt, _⟩ => Nat.le_of_lt_succ hlt, fun h => ⟨_, Nat.lt_succ_of_le h, rfl⟩⟩

/-- What is put around the bytes of a writer does not make it fail. -/
theorem map_isOk {ε α β : Type} {x : Except ε α} {f : α → β} :
    (∃ b, f <$> x = Except.ok b) ↔ ∃ a, x = .ok a := by
  cases x with
  | error e => exact ⟨fun ⟨_, h⟩ => (by cases h), fun ⟨_, h⟩ => (by cases h)⟩
  | ok a => exact ⟨fun _ => ⟨a, rfl⟩, fun _ => ⟨f a, rfl⟩⟩

theorem SwapType.write_isOk (t : SwapType) :
    (∃ out, t.write = .ok out) ↔ ¬(t = .invalid ∨ 255 < t.hops) := by
  cases t with
  | invalid => exact ⟨fun ⟨_, h⟩ => (by cases h), fun h => absurd (.inl rfl) h⟩
  | uniswapV3 p =>
    simp [SwapType.write, UniswapSwapParameters.write, map_isOk, writePath_isOk,
      SwapType.hops]
  | traderJoe p =>
    simp [SwapType.write, TraderJoeSwapParameters.write, map_isOk, writePath_isOk,
      SwapType.hops]
  | jupiterV6 p => simp [SwapType.write, SwapType.hops]

theorem OutputToken.write_isOk (t : OutputToken) :
    (∃ out, t.write = .ok out) ↔
      ¬∃ s, t.swap = some s ∧ (s.swapType = .invalid ∨ 255 < s.swapType.hops) := by
  cases t with
  | usdc => simp [OutputToken.write, OutputToken.swap]
  | gas s =>
    simp [OutputToken.write, OutputToken.swap, OutputSwap.write, map_isOk, SwapType.write_isOk]
  | other a s =>
    simp [OutputToken.write, OutputToken.swap, OutputSwap.write, map_isOk, SwapType.write_isOk]

namespace SwapMessageV1

/-- **Only two kinds of values are refused**: a swap of type `Invalid`, and a path of more than 255
hops. -/
theorem write_error_iff (m : SwapMessageV1) :
    (∃ e, m.write = .error e) ↔
      ∃ s, m.outputToken.swap = some s ∧ (s.swapType = .invalid ∨ 255 < s.swapType.hops) := by
  have hok : (∃ out, m.write = .ok out) ↔ ∃ out, m.outputToken.write = .ok out := by
    simp [write, map_isOk]
  rw [OutputToken.write_isOk] at hok
  cases hwrite : m.write with
  | error e =>
    refine ⟨fun _ => by_contra fun h => ?_, fun _ => ⟨e, rfl⟩⟩
    obtain ⟨out, hout⟩ := hok.2 h
    cases hwrite.symm.trans hout
  | ok out => exact ⟨fun ⟨_, h⟩ => (by cases h), fun h => absurd h (hok.1 ⟨out, hwrite⟩)⟩

/-- **The codec is a bijection between the values that can be written and the strings that can be
read.** What is written is read back, with nothing left; what is read is written back, byte for
byte; and only a swap of type `Invalid` or a path of more than 255 hops is refused. -/
theorem codec (m : SwapMessageV1) :
    (∀ bs, m.toVec = .ok bs → readSlice bs = .ok m ∧ readTyped bs = .ok (m, [])) ∧
      (∀ bs, readSlice bs = .ok m → m.toVec = .ok bs) ∧
      ((∃ e, m.write = .error e) ↔
        ∃ s, m.outputToken.swap = some s ∧ (s.swapType = .invalid ∨ 255 < s.swapType.hops)) := by
  refine ⟨fun bs h => ⟨readSlice_iff_toVec.2 h, ?_⟩, fun bs h => readSlice_iff_toVec.1 h,
    write_error_iff m⟩
  exact (readTyped_inverse bs m []).2 ⟨bs, h, (List.append_nil bs).symm⟩

end SwapMessageV1

end SwapLayer.Messages
