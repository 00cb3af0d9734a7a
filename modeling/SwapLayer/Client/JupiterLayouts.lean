import Mathlib.Data.Set.List
import SwapLayer.Client.Messages
import SwapLayer.Lib.Layout
import SwapLayer.Solana.RouteArgs

/-!
# The layouts of Jupiter's arguments

Model of `solana/ts/src/jupiterV6/layouts.ts`: the arguments of a route as the TypeScript client has them,
and the layout that it reads and writes them with. The program has them in Borsh (`Solana/RouteArgs`).

* The layout of a swap is a table of 39 variants; the program has three more. It calls number 30 `FluxBeam`.
* A set flag is any byte but 0, and is written as 1.
* An array of the client has fewer than 2^32 elements.

Results:
* `swapItem_write`, `encode_eq`: the client writes what the program writes.
* `decode_agrees`: the client and the program find the same arguments in data that both accept.
* `route_codecs_agree`: which data and which arguments those are.
-/

namespace SwapLayer.JupiterClient

open ByteString Program Solana
open Client (uint8)

/-! ## Values -/

inductive Side
  | bid
  | ask
  deriving DecidableEq

inductive Swap
  | saber
  | saberAddDecimalsDeposit
  | saberAddDecimalsWithdraw
  | tokenSwap
  | sencha
  | step
  | cropper
  | raydium
  | crema (aToB : Bool)
  | lifinity
  | mercurial
  | cykura
  | serum (side : Side)
  | marinadeDeposit
  | marinadeUnstake
  | aldrin (side : Side)
  | aldrinV2 (side : Side)
  | whirlpool (aToB : Bool)
  | invariant (xToY : Bool)
  | meteora
  | gooseFX
  | deltaFi (stable : Bool)
  | balansol
  | marcoPolo (xToY : Bool)
  | dradex (side : Side)
  | lifinityV2
  | raydiumClmm
  | openbook (side : Side)
  | phoenix (side : Side)
  | symmetry (fromTokenId toTokenId : Uint 8)
  | fluxBeam
  | heliumTreasuryManagementRedeemV0
  | stakeDexStakeWrappedSol
  | stakeDexSwapViaStake (bridgeStakeSeed : Uint 4)
  | gooseFXV2
  | perps
  | perpsAddLiquidity
  | perpsRemoveLiquidity
  | meteoraDlmm
  deriving DecidableEq

structure RoutePlanStep where
  swap : Swap
  percent : Uint 1
  inputIndex : Uint 1
  outputIndex : Uint 1

structure SharedAccountsRouteArgs where
  id : Uint 1
  routePlan : Borsh.Vec RoutePlanStep
  inAmount : Uint 8
  quotedOutAmount : Uint 8
  slippageBps : Uint 2
  platformFeeBps : Uint 1

/-! ## Layouts -/

/-- An integer of `n` bytes, the lowest first. -/
def uintItem (n : ℕ) : Layout (Uint n) := .ofFormat (.ofExact (Borsh.readUint_exact n))

def uint8Item : Layout (Uint 1) := .ofFormat (.uint 1)

/-- The number of a flag. -/
def ofBool (val : Bool) : Uint 1 := if val then uint8 1 else uint8 0

theorem ofBool_pos (val : Bool) : decide (0 < (ofBool val).val) = val := by cases val <;> rfl

def boolItem : Layout Bool := uint8Item.custom (fun encoded => decide (0 < encoded.val)) ofBool ofBool_pos

def sides : List (Layout.Case 1 Side) := [.plain (uint8 0) .bid, .plain (uint8 1) .ask]

theorem sides_nodup : (sides.map Layout.Case.id).Nodup := by decide

def sideItem : Layout Side := .switch sides sides_nodup

def tokenIdsItem : Layout (Uint 8 × Uint 8) := (uintItem 8).pair (uintItem 8)

namespace Swap

def flag : Swap → Option Bool
  | crema b | whirlpool b | invariant b | deltaFi b | marcoPolo b => some b
  | _ => none

def side : Swap → Option Side
  | serum s | aldrin s | aldrinV2 s | dradex s | openbook s | phoenix s => some s
  | _ => none

def tokenIds : Swap → Option (Uint 8 × Uint 8)
  | symmetry fromTokenId toTokenId => some (fromTokenId, toTokenId)
  | _ => none

def seed : Swap → Option (Uint 4)
  | stakeDexSwapViaStake bridgeStakeSeed => some bridgeStakeSeed
  | _ => none

/-- `layouts` of `swapItem`. -/
def layouts : List (Layout.Case 1 Swap) := [
    .plain (uint8 0) .saber,
    .plain (uint8 1) .saberAddDecimalsDeposit,
    .plain (uint8 2) .saberAddDecimalsWithdraw,
    .plain (uint8 3) .tokenSwap,
    .plain (uint8 4) .sencha,
    .plain (uint8 5) .step,
    .plain (uint8 6) .cropper,
    .plain (uint8 7) .raydium,
    .row (uint8 8) boolItem .crema flag,
    .plain (uint8 9) .lifinity,
    .plain (uint8 10) .mercurial,
    .plain (uint8 11) .cykura,
    .row (uint8 12) sideItem .serum side,
    .plain (uint8 13) .marinadeDeposit,
    .plain (uint8 14) .marinadeUnstake,
    .row (uint8 15) sideItem .aldrin side,
    .row (uint8 16) sideItem .aldrinV2 side,
    .row (uint8 17) boolItem .whirlpool flag,
    .row (uint8 18) boolItem .invariant flag,
    .plain (uint8 19) .meteora,
    .plain (uint8 20) .gooseFX,
    .row (uint8 21) boolItem .deltaFi flag,
    .plain (uint8 22) .balansol,
    .row (uint8 23) boolItem .marcoPolo flag,
    .row (uint8 24) sideItem .dradex side,
    .plain (uint8 25) .lifinityV2,
    .plain (uint8 26) .raydiumClmm,
    .row (uint8 27) sideItem .openbook side,
    .row (uint8 28) sideItem .phoenix side,
    .row (uint8 29) tokenIdsItem (fun ids => .symmetry ids.1 ids.2) tokenIds,
    .plain (uint8 30) .fluxBeam,
    .plain (uint8 31) .heliumTreasuryManagementRedeemV0,
    .plain (uint8 32) .stakeDexStakeWrappedSol,
    .row (uint8 33) (uintItem 4) .stakeDexSwapViaStake seed,
    .plain (uint8 34) .gooseFXV2,
    .plain (uint8 35) .perps,
    .plain (uint8 36) .perpsAddLiquidity,
    .plain (uint8 37) .perpsRemoveLiquidity,
    .plain (uint8 38) .meteoraDlmm]

end Swap

theorem layouts_nodup : (Swap.layouts.map Layout.Case.id).Nodup := by decide

def swapItem : Layout Swap := .switch Swap.layouts layouts_nodup

/-- `routePlanStep`. -/
def routePlanStepItem : Layout RoutePlanStep :=
  (swapItem.pair (uint8Item.pair (uint8Item.pair uint8Item))).custom (fun p => ⟨p.1, p.2.1, p.2.2.1, p.2.2.2⟩)
    (fun s => (s.swap, s.percent, s.inputIndex, s.outputIndex)) fun _ => rfl

/-- `selectorItem`. -/
def SELECTOR : List UInt8 := [193, 32, 155, 51, 65, 214, 156, 129]

def sharedAccountsRouteArgsLayout : Layout SharedAccountsRouteArgs :=
  ((Layout.fixed SELECTOR).pair (uint8Item.pair (routePlanStepItem.vec.pair ((uintItem 8).pair
    ((uintItem 8).pair ((uintItem 2).pair uint8Item)))))).custom
    (fun p => ⟨p.2.1, p.2.2.1, p.2.2.2.1, p.2.2.2.2.1, p.2.2.2.2.2.1, p.2.2.2.2.2.2⟩)
    (fun a => ((), a.id, a.routePlan, a.inAmount, a.quotedOutAmount, a.slippageBps, a.platformFeeBps))
    fun _ => rfl

def decodeSharedAccountsRouteArgs (data : List UInt8) : Except IoError SharedAccountsRouteArgs :=
  sharedAccountsRouteArgsLayout.decode data

def encodeSharedAccountsRouteArgs (decoded : SharedAccountsRouteArgs) : Except IoError (List UInt8) :=
  sharedAccountsRouteArgsLayout.write decoded

/-! ## The values of the program -/

def Side.toRust : Side → JupiterV6.Side
  | bid => .bid
  | ask => .ask

def Swap.toRust : Swap → JupiterV6.Swap
  | saber => .saber
  | saberAddDecimalsDeposit => .saberAddDecimalsDeposit
  | saberAddDecimalsWithdraw => .saberAddDecimalsWithdraw
  | tokenSwap => .tokenSwap
  | sencha => .sencha
  | step => .step
  | cropper => .cropper
  | raydium => .raydium
  | crema aToB => .crema aToB
  | lifinity => .lifinity
  | mercurial => .mercurial
  | cykura => .cykura
  | serum side => .serum side.toRust
  | marinadeDeposit => .marinadeDeposit
  | marinadeUnstake => .marinadeUnstake
  | aldrin side => .aldrin side.toRust
  | aldrinV2 side => .aldrinV2 side.toRust
  | whirlpool aToB => .whirlpool aToB
  | invariant xToY => .invariant xToY
  | meteora => .meteora
  | gooseFX => .gooseFX
  | deltaFi stable => .deltaFi stable
  | balansol => .balansol
  | marcoPolo xToY => .marcoPolo xToY
  | dradex side => .dradex side.toRust
  | lifinityV2 => .lifinityV2
  | raydiumClmm => .raydiumClmm
  | openbook side => .openbook side.toRust
  | phoenix side => .phoenix side.toRust
  | symmetry fromTokenId toTokenId => .symmetry fromTokenId toTokenId
  | fluxBeam => .tokenSwapV2
  | heliumTreasuryManagementRedeemV0 => .heliumTreasuryManagementRedeemV0
  | stakeDexStakeWrappedSol => .stakeDexStakeWrappedSol
  | stakeDexSwapViaStake bridgeStakeSeed => .stakeDexSwapViaStake bridgeStakeSeed
  | gooseFXV2 => .gooseFXV2
  | perps => .perps
  | perpsAddLiquidity => .perpsAddLiquidity
  | perpsRemoveLiquidity => .perpsRemoveLiquidity
  | meteoraDlmm => .meteoraDlmm

def RoutePlanStep.toRust (s : RoutePlanStep) : JupiterV6.RoutePlanStep :=
  ⟨s.swap.toRust, s.percent, s.inputIndex, s.outputIndex⟩

theorem plan_lt (routePlan : Borsh.Vec RoutePlanStep) :
    (routePlan.val.map RoutePlanStep.toRust).length < 256 ^ 4 := by
  rw [List.length_map]
  exact routePlan.property

def SharedAccountsRouteArgs.toRust (a : SharedAccountsRouteArgs) : JupiterV6.SharedAccountsRouteArgs where
  authorityId := a.id
  routePlan := ⟨a.routePlan.val.map RoutePlanStep.toRust, plan_lt a.routePlan⟩
  inAmount := a.inAmount
  quotedOutAmount := a.quotedOutAmount
  slippageBps := a.slippageBps
  platformFeeBps := a.platformFeeBps

/-- A swap that the layouts have. -/
def KnownSwap (s : JupiterV6.Swap) : Prop := s.tag ≤ 38

def KnownRoute (a : JupiterV6.SharedAccountsRouteArgs) : Prop :=
  ∀ step ∈ a.routePlan.val, KnownSwap step.swap

theorem Swap.toRust_known (s : Swap) : KnownSwap s.toRust := by
  cases s <;> simp [toRust, KnownSwap, JupiterV6.Swap.tag]

theorem Swap.toRust_surjective {r : JupiterV6.Swap} (h : KnownSwap r) : ∃ s : Swap, s.toRust = r := by
  cases r with
  | saber => exact ⟨.saber, rfl⟩
  | saberAddDecimalsDeposit => exact ⟨.saberAddDecimalsDeposit, rfl⟩
  | saberAddDecimalsWithdraw => exact ⟨.saberAddDecimalsWithdraw, rfl⟩
  | tokenSwap => exact ⟨.tokenSwap, rfl⟩
  | sencha => exact ⟨.sencha, rfl⟩
  | step => exact ⟨.step, rfl⟩
  | cropper => exact ⟨.cropper, rfl⟩
  | raydium => exact ⟨.raydium, rfl⟩
  | crema aToB => exact ⟨.crema aToB, rfl⟩
  | lifinity => exact ⟨.lifinity, rfl⟩
  | mercurial => exact ⟨.mercurial, rfl⟩
  | cykura => exact ⟨.cykura, rfl⟩
  | serum side => cases side; exacts [⟨.serum .bid, rfl⟩, ⟨.serum .ask, rfl⟩]
  | marinadeDeposit => exact ⟨.marinadeDeposit, rfl⟩
  | marinadeUnstake => exact ⟨.marinadeUnstake, rfl⟩
  | aldrin side => cases side; exacts [⟨.aldrin .bid, rfl⟩, ⟨.aldrin .ask, rfl⟩]
  | aldrinV2 side => cases side; exacts [⟨.aldrinV2 .bid, rfl⟩, ⟨.aldrinV2 .ask, rfl⟩]
  | whirlpool aToB => exact ⟨.whirlpool aToB, rfl⟩
  | invariant xToY => exact ⟨.invariant xToY, rfl⟩
  | meteora => exact ⟨.meteora, rfl⟩
  | gooseFX => exact ⟨.gooseFX, rfl⟩
  | deltaFi stable => exact ⟨.deltaFi stable, rfl⟩
  | balansol => exact ⟨.balansol, rfl⟩
  | marcoPolo xToY => exact ⟨.marcoPolo xToY, rfl⟩
  | dradex side => cases side; exacts [⟨.dradex .bid, rfl⟩, ⟨.dradex .ask, rfl⟩]
  | lifinityV2 => exact ⟨.lifinityV2, rfl⟩
  | raydiumClmm => exact ⟨.raydiumClmm, rfl⟩
  | openbook side => cases side; exacts [⟨.openbook .bid, rfl⟩, ⟨.openbook .ask, rfl⟩]
  | phoenix side => cases side; exacts [⟨.phoenix .bid, rfl⟩, ⟨.phoenix .ask, rfl⟩]
  | symmetry a b => exact ⟨.symmetry a b, rfl⟩
  | tokenSwapV2 => exact ⟨.fluxBeam, rfl⟩
  | heliumTreasuryManagementRedeemV0 => exact ⟨.heliumTreasuryManagementRedeemV0, rfl⟩
  | stakeDexStakeWrappedSol => exact ⟨.stakeDexStakeWrappedSol, rfl⟩
  | stakeDexSwapViaStake seed => exact ⟨.stakeDexSwapViaStake seed, rfl⟩
  | gooseFXV2 => exact ⟨.gooseFXV2, rfl⟩
  | perps => exact ⟨.perps, rfl⟩
  | perpsAddLiquidity => exact ⟨.perpsAddLiquidity, rfl⟩
  | perpsRemoveLiquidity => exact ⟨.perpsRemoveLiquidity, rfl⟩
  | meteoraDlmm => exact ⟨.meteoraDlmm, rfl⟩
  | openbookV2 | raydiumClmmV2 | stakeDexPrefundWithdrawStakeAndDepositStake =>
    exact absurd h (by simp [KnownSwap, JupiterV6.Swap.tag])

/-! ## Writing -/

/-- **A swap** is written as the program writes it. -/
theorem swapItem_write (s : Swap) : swapItem.write s = .ok s.toRust.serialize := by
  cases s with
  | crema b | whirlpool b | invariant b | deltaFi b | marcoPolo b => cases b <;> rfl
  | serum s | aldrin s | aldrinV2 s | dradex s | openbook s | phoenix s => cases s <;> rfl
  | symmetry fromTokenId toTokenId =>
    simp only [swapItem, Layout.switch, Swap.layouts, List.findSome?, Layout.Case.row, Layout.Case.plain,
      Swap.flag, Swap.side, Swap.tokenIds, Option.bind_some, Option.bind_none, reduceCtorEq, if_false, if_true,
      Option.map_none, Option.map_some]
    rfl
  | stakeDexSwapViaStake bridgeStakeSeed =>
    simp only [swapItem, Layout.switch, Swap.layouts, List.findSome?, Layout.Case.row, Layout.Case.plain,
      Swap.flag, Swap.side, Swap.tokenIds, Swap.seed, Option.bind_some, Option.bind_none, reduceCtorEq,
      if_false, if_true, Option.map_none, Option.map_some]
    rfl
  | _ => rfl

theorem routePlanStepItem_write (s : RoutePlanStep) :
    routePlanStepItem.write s = .ok s.toRust.serialize :=
  Layout.pair_write (swapItem_write s.swap) rfl

theorem routePlan_write (routePlan : Borsh.Vec RoutePlanStep) : routePlanStepItem.vec.write routePlan =
    .ok (Borsh.seq JupiterV6.RoutePlanStep.serialize
      ⟨routePlan.val.map RoutePlanStep.toRust, plan_lt routePlan⟩) := by
  have hsteps : routePlanStepItem.write = fun s => .ok s.toRust.serialize := funext routePlanStepItem_write
  show (gather routePlanStepItem.write routePlan.val >>= fun out =>
    Except.ok (Borsh.uint 4 routePlan.val.length ++ out)) = _
  rw [hsteps, gather_ok]
  show Except.ok _ = Except.ok _
  rw [Borsh.seq, List.length_map, List.flatMap_map]

/-- **The arguments** are written as the program serializes them. -/
theorem encode_eq (a : SharedAccountsRouteArgs) :
    encodeSharedAccountsRouteArgs a = .ok (JupiterV6.instructionData a.toRust) :=
  Layout.pair_write rfl (Layout.pair_write rfl (Layout.pair_write (routePlan_write a.routePlan) rfl))

/-! ## Reading -/

/-- Where the program and the client accept a swap, it is the same. -/
theorem swapItem_agree :
    Agree (fun r s => r = Swap.toRust s) JupiterV6.Swap.read swapItem.read := by
  intro bs r rest s rest' h h'
  obtain rfl := (JupiterV6.Swap.read_exact _ _ _).1 h
  obtain ⟨c, hc, bs', hbs⟩ := Layout.switch_read h'
  -- the numbers are the first byte
  have hknown : KnownSwap r := by
    have hlt : r.tag < 256 ^ 1 := Nat.lt_trans (JupiterV6.tag_lt r) (by decide)
    rw [JupiterV6.Swap.serialize, List.append_assoc] at hbs
    have htag : (⟨r.tag, hlt⟩ : Uint 1) = c.id := ((readUint_exact 1).append_inj hbs).1
    have hids : ∀ c ∈ Swap.layouts, c.id.val ≤ 38 := by decide
    exact le_of_eq_of_le (congrArg Fin.val htag) (hids c hc)
  obtain ⟨s₀, rfl⟩ := Swap.toRust_surjective hknown
  obtain ⟨rfl, rfl⟩ := Prod.mk.inj (Except.ok.inj
    ((swapItem.readBack rest (swapItem_write s₀)).symm.trans h'))
  exact ⟨rfl, rfl⟩

theorem uint8_agree : Agree Eq (Borsh.readUint 1) uint8Item.read :=
  .of_exact (Borsh.readUint_exact 1) (readUint_exact 1)

theorem routePlanStep_agree : Agree (fun r s => r = RoutePlanStep.toRust s)
    JupiterV6.RoutePlanStep.read routePlanStepItem.read := by
  have hread : routePlanStepItem.read = do
      let swap ← swapItem.read
      let percent ← uint8Item.read
      let inputIndex ← uint8Item.read
      let outputIndex ← uint8Item.read
      return ⟨swap, percent, inputIndex, outputIndex⟩ := by
    simp only [routePlanStepItem, Layout.custom, Layout.pair, bind_assoc, pure_bind]
  rw [hread]
  refine swapItem_agree.bind fun _ swap hswap => uint8_agree.bind fun _ percent hpercent =>
    uint8_agree.bind fun _ inputIndex hinput => uint8_agree.bind fun _ outputIndex houtput => .pure ?_
  rw [hswap, hpercent, hinput, houtput, RoutePlanStep.toRust]

/-- **Where the program and the client accept arguments**, they are the same. -/
theorem args_agree : Agree (fun r a => r = SharedAccountsRouteArgs.toRust a)
    (JupiterV6.requireSelector >>= fun _ => JupiterV6.SharedAccountsRouteArgs.read)
    sharedAccountsRouteArgsLayout.read := by
  have hread : sharedAccountsRouteArgsLayout.read = do
      let _ ← JupiterV6.requireSelector
      let id ← uint8Item.read
      let routePlan ← Borsh.readVec routePlanStepItem.read
      let inAmount ← Borsh.readUint 8
      let quotedOutAmount ← Borsh.readUint 8
      let slippageBps ← Borsh.readUint 2
      let platformFeeBps ← uint8Item.read
      return ⟨id, routePlan, inAmount, quotedOutAmount, slippageBps, platformFeeBps⟩ := by
    simp only [sharedAccountsRouteArgsLayout, Layout.custom, Layout.pair, bind_assoc, pure_bind]
    rfl
  rw [hread]
  refine (Agree.refl _).bind fun _ _ _ => uint8_agree.bind fun _ id hid =>
    routePlanStep_agree.readVec.bind fun plan routePlan hplan => (Agree.refl _).bind fun _ inAmount hin =>
      (Agree.refl _).bind fun _ quotedOutAmount hout => (Agree.refl _).bind fun _ slippageBps hbps =>
        uint8_agree.bind fun _ platformFeeBps hfee => .pure ?_
  have hsteps : plan.val = routePlan.val.map RoutePlanStep.toRust :=
    List.forall₂_eq_eq_eq ▸ List.forall₂_map_right_iff.2 hplan
  have hsame : plan = ⟨routePlan.val.map RoutePlanStep.toRust, plan_lt routePlan⟩ := Subtype.ext hsteps
  rw [hid, hin, hout, hbps, hfee, hsame, SharedAccountsRouteArgs.toRust]

section Args

variable {data out : List UInt8} {r : JupiterV6.SharedAccountsRouteArgs} {a : SharedAccountsRouteArgs}

theorem decode_of_encode (h : encodeSharedAccountsRouteArgs a = .ok out) :
    decodeSharedAccountsRouteArgs out = .ok a :=
  Layout.decode_write _ h

/-- **The client and the program read the same arguments** from data that both accept. -/
theorem decode_agrees (h : JupiterV6.deserializeChecked data = .ok r)
    (h' : decodeSharedAccountsRouteArgs data = .ok a) : r = a.toRust := by
  obtain ⟨⟨_, bs⟩, hselector, h₁⟩ := except_bind_ok.1 h
  obtain ⟨⟨r', rest⟩, hread, hret⟩ := except_bind_ok.1 h₁
  cases hret
  obtain ⟨⟨a', rest'⟩, hread', h₂⟩ := except_bind_ok.1 h'
  obtain ⟨_, -, hret'⟩ := except_bind_ok.1 h₂
  cases hret'
  exact (args_agree _ _ _ _ _ (bind_ok.2 ⟨_, bs, hselector, hread⟩) hread').1

/-- **Where the program reads arguments**, the client does iff it has them and nothing follows them; and it
reads the same. -/
theorem decode_iff (h : JupiterV6.deserializeChecked data = .ok r) :
    decodeSharedAccountsRouteArgs data = .ok a ↔
      r = a.toRust ∧ encodeSharedAccountsRouteArgs a = .ok data := by
  refine ⟨fun h' => ?_, fun ⟨_, hencode⟩ => decode_of_encode hencode⟩
  obtain rfl := decode_agrees h h'
  refine ⟨rfl, ?_⟩
  obtain ⟨rest, hrest⟩ := JupiterV6.deserializeChecked_iff.1 h
  obtain ⟨⟨a', rest'⟩, hread, hall⟩ := except_bind_ok.1 h'
  obtain ⟨_, hempty, -⟩ := except_bind_ok.1 hall
  rw [hrest, sharedAccountsRouteArgsLayout.readBack rest (encode_eq a)] at hread
  obtain ⟨-, rfl⟩ := Prod.mk.inj (Except.ok.inj hread)
  obtain rfl : rest = [] := ensure_ok.1 hempty
  rw [hrest, List.append_nil, encode_eq]

/-- What the client writes is read back by both. -/
theorem encode_read (h : encodeSharedAccountsRouteArgs a = .ok out) :
    JupiterV6.deserializeChecked out = .ok a.toRust ∧ decodeSharedAccountsRouteArgs out = .ok a := by
  refine ⟨JupiterV6.deserializeChecked_iff.2 ⟨[], ?_⟩, decode_of_encode h⟩
  obtain rfl := Except.ok.inj (h.symm.trans (encode_eq a))
  exact (List.append_nil _).symm

theorem SharedAccountsRouteArgs.toRust_injective : Function.Injective toRust := by
  intro a a' h
  have hread' := decode_of_encode (encode_eq a')
  rw [← h] at hread'
  exact Except.ok.inj ((decode_of_encode (encode_eq a)).symm.trans hread')

/-- The routes of the client. -/
theorem knownRoute_iff : KnownRoute r ↔ ∃ a : SharedAccountsRouteArgs, a.toRust = r := by
  constructor
  · intro h
    obtain ⟨steps, hsteps⟩ : r.routePlan.val ∈ Set.range (List.map RoutePlanStep.toRust) := by
      rw [Set.range_list_map]
      intro step hmem
      obtain ⟨swap, hswap⟩ := Swap.toRust_surjective (h step hmem)
      exact ⟨⟨swap, step.percent, step.inputIndex, step.outputIndex⟩, by rw [RoutePlanStep.toRust, hswap]⟩
    have hlt : steps.length < 256 ^ 4 := by
      rw [← List.length_map RoutePlanStep.toRust, hsteps]
      exact r.routePlan.property
    refine ⟨⟨r.authorityId, ⟨steps, hlt⟩, r.inAmount, r.quotedOutAmount, r.slippageBps, r.platformFeeBps⟩, ?_⟩
    have hplan : (⟨steps.map RoutePlanStep.toRust, plan_lt ⟨steps, hlt⟩⟩ : Borsh.Vec _) = r.routePlan :=
      Subtype.ext hsteps
    rw [SharedAccountsRouteArgs.toRust, hplan]
  · rintro ⟨a, rfl⟩ step hmem
    obtain ⟨s, -, rfl⟩ := List.mem_map.1 hmem
    exact s.swap.toRust_known

/-- **Both programs have one format for the routes that the client knows.** The client writes the bytes that
the program serializes, and both read them back; its routes are those with known swaps. Of what the program
reads, the client takes what it would write itself, as the same arguments; of what the client reads, the
program takes what the client would write. -/
theorem route_codecs_agree :
    (∀ a, encodeSharedAccountsRouteArgs a = .ok (JupiterV6.instructionData a.toRust)) ∧
    (∀ a out, encodeSharedAccountsRouteArgs a = .ok out →
      JupiterV6.deserializeChecked out = .ok a.toRust ∧ decodeSharedAccountsRouteArgs out = .ok a) ∧
    (∀ r, KnownRoute r ↔ ∃! a : SharedAccountsRouteArgs, a.toRust = r) ∧
    (∀ data r, JupiterV6.deserializeChecked data = .ok r → ∀ a,
      decodeSharedAccountsRouteArgs data = .ok a ↔
        r = a.toRust ∧ encodeSharedAccountsRouteArgs a = .ok data) ∧
    ∀ data a, decodeSharedAccountsRouteArgs data = .ok a →
      ((∃ r, JupiterV6.deserializeChecked data = .ok r) ↔
        encodeSharedAccountsRouteArgs a = .ok data) := by
  refine ⟨encode_eq, fun a out => encode_read, fun r => ?_, fun data r h a => decode_iff h, fun data a h =>
    ⟨fun ⟨r, hr⟩ => ((decode_iff hr).1 h).2, fun hencode => ⟨_, (encode_read hencode).1⟩⟩⟩
  rw [knownRoute_iff]
  exact ⟨fun ⟨a, ha⟩ => ⟨a, ha, fun a' ha' => SharedAccountsRouteArgs.toRust_injective (ha'.trans ha.symm)⟩,
    fun h => h.exists⟩

end Args

end SwapLayer.JupiterClient
