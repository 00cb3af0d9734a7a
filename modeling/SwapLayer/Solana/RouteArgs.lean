import SwapLayer.Lib.Borsh
import SwapLayer.Solana.Jupiter

/-!
# Instructions for Jupiter

Model of the codec in `utils/jupiter_v6` and of the beginning of `set_up`, where the instruction data and the
accounts that a caller passes along become a `JupiterV6SharedAccountsRoute`. The instructions of the program
(`Solana/Jupiter`) start from there; `swap_exact_in` serializes the arguments again for Jupiter.

Borsh stops behind the last field; bytes that follow are ignored, and Jupiter does not get them.

Results:
* `Swap.read_exact`, `SharedAccountsRouteArgs.read_exact`: what was serialized is read back, and
  nothing else is.
* `deserializeChecked_iff`: which instruction data is accepted.
-/

namespace SwapLayer.Solana.JupiterV6

open ByteString Program

/-! ## Types -/

inductive Side
  | bid
  | ask
  deriving DecidableEq

/-- `Swap`. The number of a variant is its place. -/
inductive Swap
  | saber
  | saberAddDecimalsDeposit
  | saberAddDecimalsWithdraw
  | tokenSwap
  | sencha
  | step
  | cropper
  | raydium
  | crema (aToB : Bool)
  | lifinity
  | mercurial
  | cykura
  | serum (side : Side)
  | marinadeDeposit
  | marinadeUnstake
  | aldrin (side : Side)
  | aldrinV2 (side : Side)
  | whirlpool (aToB : Bool)
  | invariant (xToY : Bool)
  | meteora
  | gooseFX
  | deltaFi (stable : Bool)
  | balansol
  | marcoPolo (xToY : Bool)
  | dradex (side : Side)
  | lifinityV2
  | raydiumClmm
  | openbook (side : Side)
  | phoenix (side : Side)
  | symmetry (fromTokenId toTokenId : Uint 8)
  | tokenSwapV2
  | heliumTreasuryManagementRedeemV0
  | stakeDexStakeWrappedSol
  | stakeDexSwapViaStake (bridgeStakeSeed : Uint 4)
  | gooseFXV2
  | perps
  | perpsAddLiquidity
  | perpsRemoveLiquidity
  | meteoraDlmm
  | openbookV2 (side : Side)
  | raydiumClmmV2
  | stakeDexPrefundWithdrawStakeAndDepositStake (bridgeStakeSeed : Uint 4)
  deriving DecidableEq

structure RoutePlanStep where
  swap : Swap
  percent : Uint 1
  inputIndex : Uint 1
  outputIndex : Uint 1
  deriving DecidableEq

/-- `cpi::SharedAccountsRouteArgs`. -/
structure SharedAccountsRouteArgs where
  authorityId : Uint 1
  routePlan : Borsh.Vec RoutePlanStep
  inAmount : Uint 8
  quotedOutAmount : Uint 8
  slippageBps : Uint 2
  platformFeeBps : Uint 1
  deriving DecidableEq

def SHARED_ACCOUNTS_ROUTE_SELECTOR : List UInt8 := [193, 32, 155, 51, 65, 214, 156, 129]

/-! ## Writers -/

namespace Side

def tag : Side → ℕ
  | bid => 0
  | ask => 1

def serialize (s : Side) : List UInt8 := Borsh.uint 1 s.tag

end Side

namespace Swap

def tag : Swap → ℕ
  | saber => 0
  | saberAddDecimalsDeposit => 1
  | saberAddDecimalsWithdraw => 2
  | tokenSwap => 3
  | sencha => 4
  | step => 5
  | cropper => 6
  | raydium => 7
  | crema _ => 8
  | lifinity => 9
  | mercurial => 10
  | cykura => 11
  | serum _ => 12
  | marinadeDeposit => 13
  | marinadeUnstake => 14
  | aldrin _ => 15
  | aldrinV2 _ => 16
  | whirlpool _ => 17
  | invariant _ => 18
  | meteora => 19
  | gooseFX => 20
  | deltaFi _ => 21
  | balansol => 22
  | marcoPolo _ => 23
  | dradex _ => 24
  | lifinityV2 => 25
  | raydiumClmm => 26
  | openbook _ => 27
  | phoenix _ => 28
  | symmetry _ _ => 29
  | tokenSwapV2 => 30
  | heliumTreasuryManagementRedeemV0 => 31
  | stakeDexStakeWrappedSol => 32
  | stakeDexSwapViaStake _ => 33
  | gooseFXV2 => 34
  | perps => 35
  | perpsAddLiquidity => 36
  | perpsRemoveLiquidity => 37
  | meteoraDlmm => 38
  | openbookV2 _ => 39
  | raydiumClmmV2 => 40
  | stakeDexPrefundWithdrawStakeAndDepositStake _ => 41

/-- The fields of a variant. -/
def fields : Swap → List UInt8
  | crema b | whirlpool b | invariant b | deltaFi b | marcoPolo b => Borsh.bool b
  | serum s | aldrin s | aldrinV2 s | dradex s | openbook s | phoenix s | openbookV2 s => s.serialize
  | symmetry fromTokenId toTokenId => Borsh.uint 8 fromTokenId ++ Borsh.uint 8 toTokenId
  | stakeDexSwapViaStake seed | stakeDexPrefundWithdrawStakeAndDepositStake seed => Borsh.uint 4 seed
  | _ => []

def serialize (s : Swap) : List UInt8 := Borsh.uint 1 s.tag ++ s.fields

end Swap

def RoutePlanStep.serialize (s : RoutePlanStep) : List UInt8 :=
  s.swap.serialize ++ (Borsh.uint 1 s.percent ++ (Borsh.uint 1 s.inputIndex ++
    Borsh.uint 1 s.outputIndex))

def SharedAccountsRouteArgs.serialize (a : SharedAccountsRouteArgs) : List UInt8 :=
  Borsh.uint 1 a.authorityId ++ (Borsh.seq RoutePlanStep.serialize a.routePlan ++
    (Borsh.uint 8 a.inAmount ++ (Borsh.uint 8 a.quotedOutAmount ++ (Borsh.uint 2 a.slippageBps ++
      Borsh.uint 1 a.platformFeeBps))))

/-! ## Readers -/

def Side.read : Reader Side := do
  let tag ← Borsh.readUint 1
  if tag.val = 0 then pure .bid
  else if tag.val = 1 then pure .ask
  else fail .invalidInput

/-- A variant with a flag, a side or a seed. -/
def readVariant {α : Type} (read : Reader α) (variant : α → Swap) : Reader Swap := do
  let a ← read
  return variant a

/-- The variants of `Swap` by their numbers. -/
def readFields : ℕ → Reader Swap
  | 0 => pure .saber
  | 1 => pure .saberAddDecimalsDeposit
  | 2 => pure .saberAddDecimalsWithdraw
  | 3 => pure .tokenSwap
  | 4 => pure .sencha
  | 5 => pure .step
  | 6 => pure .cropper
  | 7 => pure .raydium
  | 8 => readVariant readBool .crema
  | 9 => pure .lifinity
  | 10 => pure .mercurial
  | 11 => pure .cykura
  | 12 => readVariant Side.read .serum
  | 13 => pure .marinadeDeposit
  | 14 => pure .marinadeUnstake
  | 15 => readVariant Side.read .aldrin
  | 16 => readVariant Side.read .aldrinV2
  | 17 => readVariant readBool .whirlpool
  | 18 => readVariant readBool .invariant
  | 19 => pure .meteora
  | 20 => pure .gooseFX
  | 21 => readVariant readBool .deltaFi
  | 22 => pure .balansol
  | 23 => readVariant readBool .marcoPolo
  | 24 => readVariant Side.read .dradex
  | 25 => pure .lifinityV2
  | 26 => pure .raydiumClmm
  | 27 => readVariant Side.read .openbook
  | 28 => readVariant Side.read .phoenix
  | 29 => do
    let fromTokenId ← Borsh.readUint 8
    let toTokenId ← Borsh.readUint 8
    return .symmetry fromTokenId toTokenId
  | 30 => pure .tokenSwapV2
  | 31 => pure .heliumTreasuryManagementRedeemV0
  | 32 => pure .stakeDexStakeWrappedSol
  | 33 => readVariant (Borsh.readUint 4) .stakeDexSwapViaStake
  | 34 => pure .gooseFXV2
  | 35 => pure .perps
  | 36 => pure .perpsAddLiquidity
  | 37 => pure .perpsRemoveLiquidity
  | 38 => pure .meteoraDlmm
  | 39 => readVariant Side.read .openbookV2
  | 40 => pure .raydiumClmmV2
  | 41 => readVariant (Borsh.readUint 4) .stakeDexPrefundWithdrawStakeAndDepositStake
  | _ => fail .invalidInput

def Swap.read : Reader Swap := do
  let tag ← Borsh.readUint 1
  readFields tag

def RoutePlanStep.read : Reader RoutePlanStep := do
  let swap ← Swap.read
  let percent ← Borsh.readUint 1
  let inputIndex ← Borsh.readUint 1
  let outputIndex ← Borsh.readUint 1
  return ⟨swap, percent, inputIndex, outputIndex⟩

def SharedAccountsRouteArgs.read : Reader SharedAccountsRouteArgs := do
  let authorityId ← Borsh.readUint 1
  let routePlan ← Borsh.readVec RoutePlanStep.read
  let inAmount ← Borsh.readUint 8
  let quotedOutAmount ← Borsh.readUint 8
  let slippageBps ← Borsh.readUint 2
  let platformFeeBps ← Borsh.readUint 1
  return ⟨authorityId, routePlan, inAmount, quotedOutAmount, slippageBps, platformFeeBps⟩

/-- `require_selector`. -/
def requireSelector : Reader Unit := do
  let selector ← readExact 8
  require (selector.toList = SHARED_ACCOUNTS_ROUTE_SELECTOR) .invalidInput

/-- `deserialize_checked`: what is left of the data is not looked at. -/
def deserializeChecked (data : List UInt8) : Except IoError SharedAccountsRouteArgs := do
  let (_, data) ← requireSelector data
  let (args, _) ← SharedAccountsRouteArgs.read data
  return args

/-! ## Round trips -/

theorem Side.read_exact : Exact Side.read Side.serialize := by
  intro bs s rest
  simp only [Side.read, bind_ok, Borsh.readUint_exact 1 _ _ _]
  constructor
  · rintro ⟨tag, _, rfl, h⟩
    split at h
    · rename_i h₀
      obtain ⟨rfl, rfl⟩ := pure_ok.1 h
      rw [h₀]
      rfl
    · split at h
      · rename_i h₁
        obtain ⟨rfl, rfl⟩ := pure_ok.1 h
        rw [h₁]
        rfl
      · exact (fail_ok.1 h).elim
  · rintro rfl
    cases s with
    | bid => exact ⟨0, rest, rfl, rfl⟩
    | ask => exact ⟨1, rest, rfl, rfl⟩

section Variants

variable {α : Type} {bs rest : List UInt8} {s : Swap} {tag : ℕ}

theorem readVariant_ok {read : Reader α} {variant : α → Swap} :
    readVariant read variant bs = .ok (s, rest) ↔ ∃ a, s = variant a ∧ read bs = .ok (a, rest) := by
  simp only [readVariant, bind_ok, pure_ok]
  constructor
  · rintro ⟨a, _, hread, rfl, rfl⟩
    exact ⟨a, rfl, hread⟩
  · rintro ⟨a, rfl, hread⟩
    exact ⟨a, rest, hread, rfl, rfl⟩

theorem tag_lt (s : Swap) : s.tag < 42 := by
  cases s <;> simp [Swap.tag]

/-- **The fields of a variant** are read where its number stands. -/
theorem readFields_iff :
    readFields tag bs = .ok (s, rest) ↔ s.tag = tag ∧ bs = s.fields ++ rest := by
  constructor
  · intro h
    unfold readFields at h
    split at h
    case h_30 =>
      -- the only variant with two fields
      simp only [bind_ok, pure_ok, Borsh.readUint_exact 8 _ _ _] at h
      obtain ⟨fromTokenId, _, rfl, toTokenId, _, rfl, rfl, rfl⟩ := h
      exact ⟨rfl, (List.append_assoc _ _ _).symm⟩
    case h_43 => exact (fail_ok.1 h).elim
    all_goals first
      | (obtain ⟨rfl, rfl⟩ := pure_ok.1 h
         exact ⟨rfl, rfl⟩)
      | (obtain ⟨b, rfl, hflag⟩ := readVariant_ok.1 h
         exact ⟨rfl, (Borsh.readBool_exact _ _ _).1 hflag⟩)
      | (obtain ⟨side, rfl, hside⟩ := readVariant_ok.1 h
         exact ⟨rfl, (Side.read_exact _ _ _).1 hside⟩)
      | (obtain ⟨seed, rfl, hseed⟩ := readVariant_ok.1 h
         exact ⟨rfl, (Borsh.readUint_exact 4 _ _ _).1 hseed⟩)
  · rintro ⟨rfl, h⟩
    cases s with
    | symmetry fromTokenId toTokenId =>
      obtain rfl := h
      refine bind_ok.2 ⟨fromTokenId, Borsh.uint 8 toTokenId ++ rest, ?_, ?_⟩
      · exact (Borsh.readUint_exact 8 _ _ _).2 (List.append_assoc _ _ _)
      · exact bind_ok.2 ⟨toTokenId, rest, (Borsh.readUint_exact 8 _ _ _).2 rfl, rfl⟩
    | crema b | whirlpool b | invariant b | deltaFi b | marcoPolo b =>
      exact readVariant_ok.2 ⟨b, rfl, (Borsh.readBool_exact _ _ _).2 h⟩
    | serum side | aldrin side | aldrinV2 side | dradex side | openbook side | phoenix side
    | openbookV2 side => exact readVariant_ok.2 ⟨side, rfl, (Side.read_exact _ _ _).2 h⟩
    | stakeDexSwapViaStake seed | stakeDexPrefundWithdrawStakeAndDepositStake seed =>
      exact readVariant_ok.2 ⟨seed, rfl, (Borsh.readUint_exact 4 _ _ _).2 h⟩
    | _ => exact pure_ok.2 ⟨rfl, Eq.symm h⟩

end Variants

theorem Swap.read_exact : Exact Swap.read Swap.serialize := by
  intro bs s rest
  simp only [Swap.read, bind_ok, Borsh.readUint_exact 1 _ _ _, readFields_iff]
  constructor
  · rintro ⟨tag, _, rfl, htag, rfl⟩
    rw [Swap.serialize, htag, List.append_assoc]
  · rintro rfl
    have hlt : s.tag < 256 ^ 1 := Nat.lt_trans (tag_lt s) (by decide)
    exact ⟨⟨s.tag, hlt⟩, s.fields ++ rest, List.append_assoc _ _ _, rfl, rfl⟩

theorem RoutePlanStep.read_exact : Exact RoutePlanStep.read RoutePlanStep.serialize := by
  intro bs s rest
  simp only [RoutePlanStep.read, bind_ok, pure_ok, Swap.read_exact _ _ _, Borsh.readUint_exact 1 _ _ _]
  constructor
  · rintro ⟨swap, _, rfl, percent, _, rfl, inputIndex, _, rfl, outputIndex, _, rfl, rfl, rfl⟩
    simp [RoutePlanStep.serialize]
  · rintro rfl
    refine ⟨s.swap, _, ?_, s.percent, _, rfl, s.inputIndex, _, rfl, s.outputIndex, rest, rfl, rfl, rfl⟩
    simp [RoutePlanStep.serialize]

theorem SharedAccountsRouteArgs.read_exact :
    Exact SharedAccountsRouteArgs.read SharedAccountsRouteArgs.serialize := by
  intro bs a rest
  simp only [SharedAccountsRouteArgs.read, bind_ok, pure_ok,
    Borsh.readVec_exact RoutePlanStep.read_exact _ _ _,
    Borsh.readUint_exact _ _ _ _]
  constructor
  · rintro ⟨authorityId, _, rfl, routePlan, _, rfl, inAmount, _, rfl, quotedOutAmount, _, rfl,
      slippageBps, _, rfl, platformFeeBps, _, rfl, rfl, rfl⟩
    simp [SharedAccountsRouteArgs.serialize]
  · rintro rfl
    refine ⟨a.authorityId, _, ?_, a.routePlan, _, rfl, a.inAmount, _, rfl, a.quotedOutAmount, _, rfl,
      a.slippageBps, _, rfl, a.platformFeeBps, rest, rfl, rfl, rfl⟩
    simp [SharedAccountsRouteArgs.serialize]

/-! ## Instruction data -/

/-- `(SHARED_ACCOUNTS_ROUTE_SELECTOR, args).try_to_vec()`. -/
def instructionData (a : SharedAccountsRouteArgs) : List UInt8 :=
  SHARED_ACCOUNTS_ROUTE_SELECTOR ++ a.serialize

theorem requireSelector_ok {data rest : List UInt8} {u : Unit} :
    requireSelector data = .ok (u, rest) ↔ data = SHARED_ACCOUNTS_ROUTE_SELECTOR ++ rest := by
  simp only [requireSelector, bind_ok, require_ok, readExact_exact 8 _ _ _]
  constructor
  · rintro ⟨selector, _, rfl, hselector, rfl⟩
    rw [hselector]
  · rintro rfl
    exact ⟨⟨SHARED_ACCOUNTS_ROUTE_SELECTOR, rfl⟩, rest, rfl, rfl, rfl⟩

/-- **Instruction data is accepted** iff the selector and serialized arguments are its beginning. -/
theorem deserializeChecked_iff {data : List UInt8} {a : SharedAccountsRouteArgs} :
    deserializeChecked data = .ok a ↔ ∃ rest, data = instructionData a ++ rest := by
  unfold deserializeChecked
  constructor
  · intro h
    obtain ⟨⟨_, bs⟩, hselector, h₁⟩ := except_bind_ok.1 h
    obtain ⟨⟨a', rest⟩, hread, hret⟩ := except_bind_ok.1 h₁
    cases hret
    obtain rfl := requireSelector_ok.1 hselector
    obtain rfl := (SharedAccountsRouteArgs.read_exact _ _ _).1 hread
    exact ⟨rest, by rw [instructionData, List.append_assoc]⟩
  · rintro ⟨rest, rfl⟩
    refine except_bind_ok.2 ⟨((), a.serialize ++ rest), ?_, ?_⟩
    · exact requireSelector_ok.2 (by rw [instructionData, List.append_assoc])
    · exact except_bind_ok.2 ⟨(a, rest), (SharedAccountsRouteArgs.read_exact _ _ _).2 rfl, rfl⟩

/-- What the instructions of the program use of the arguments. -/
def SharedAccountsRouteArgs.used (a : SharedAccountsRouteArgs) : Solana.SharedAccountsRouteArgs :=
  ⟨a.authorityId, a.routePlan.val.map RoutePlanStep.serialize, a.inAmount, a.quotedOutAmount,
    a.slippageBps, a.platformFeeBps⟩

/-! ## Accounts -/

/-- An account of an instruction. -/
structure AccountMeta where
  pubkey : Pubkey
  isSigner : Bool
  isWritable : Bool
  deriving DecidableEq

/-- The addresses that belong to Jupiter. -/
structure Addresses where
  /-- `JUPITER_V6_PROGRAM_ID`. -/
  program : Pubkey
  /-- Seeds `["authority", id]`. -/
  authority : ℕ → Pubkey
  tokenProgram : Pubkey
  token2022Program : Pubkey

/-- `JupiterV6SharedAccountsRoute` of `set_up`: the arguments, and the accounts in their order. What is
checked of them with the state is checked by `SharedAccountsRoute.setUp`. -/
def ofInstruction (j : Addresses) (accounts : List AccountMeta) (ixData : List UInt8) :
    Option SharedAccountsRoute := do
  let args ← (deserializeChecked ixData).toOption
  match accounts with
  | tokenProgram :: jupiterV6Authority :: transferAuthority :: srcCustodyToken ::
      jupiterV6SrcCustodyToken :: jupiterV6DstCustodyToken :: dstCustodyToken :: srcMint :: dstMint ::
      platformFeeNone :: token2022Program :: _jupiterV6EventAuthority :: jupiterV6Program :: rest =>
    if tokenProgram.pubkey = j.tokenProgram ∧ jupiterV6Authority.pubkey = j.authority args.authorityId ∧
        srcCustodyToken.isWritable ∧ jupiterV6SrcCustodyToken.isWritable ∧
        jupiterV6DstCustodyToken.isWritable ∧ dstCustodyToken.isWritable ∧
        platformFeeNone.pubkey = j.program ∧
        (token2022Program.pubkey = j.program ∨ token2022Program.pubkey = j.token2022Program) ∧
        jupiterV6Program.pubkey = j.program then
      some ⟨args.used, transferAuthority.pubkey, srcCustodyToken.pubkey, jupiterV6SrcCustodyToken.pubkey,
        jupiterV6DstCustodyToken.pubkey, dstCustodyToken.pubkey, srcMint.pubkey, dstMint.pubkey,
        rest.map AccountMeta.pubkey⟩
    else none
  | _ => none

end SwapLayer.Solana.JupiterV6
