import SwapLayer.Messages.WrittenSize
import SwapLayer.Evm.TraderJoePaths
import SwapLayer.Bridge.RustToEvm

/-!
# TraderJoe hops from a message to the router

A TraderJoe swap is written down by `TraderJoeSwapParameters`
(`universal/rs/messages/src/types/swap_type/evm/trader_joe.rs`): pool ids of a version and a bin size, and
the tokens between them. The contracts take it for a string of pools of 3 bytes and tokens, put the
tokens at its ends, and only in front of the router take it apart again. The same 3 bytes are a fee in
a Uniswap path, and nothing in between knows which.

`routerPath` is what the router should be given for some parameters.

Results:
* `evmPath_traderJoe`: the parsed path of the parameters is that of their hops.
* `filledTjPath_evmPath`: the contract fills its arrays with their hops.
* `traderJoe_lossless`: no parsed path loses anything on the way, and the router of a redemption is given
  the hops of the message.
-/

namespace SwapLayer.Bridge

open ByteString Program Messages

section Hops

variable (p : TraderJoeSwapParameters) (inputToken outputToken : Evm.Address)

/-- The pools of a swap. -/
def poolIds : List TraderJoePoolId := p.firstPoolId :: p.path.map TraderJoeSwapPath.poolId

/-- The path for the router: bin sizes and versions of the pools, and the tokens around them. -/
def routerPath : Evm.TraderJoePath where
  pairBinSteps := (poolIds p).map fun id => (id.binSize : ℕ)
  versions := (poolIds p).map fun id => (id.version : ℕ)
  tokenPath := inputToken :: (p.path.map TraderJoeSwapPath.evmAddress ++ [outputToken])

/-- A pool id as the contracts see it. -/
def poolBytes (id : TraderJoePoolId) : Fixed 3 := ⟨id.write, id.length_write⟩

/-- The hops of a swap as the contracts see them. -/
def hopList : Evm.HopList :=
  ⟨poolBytes p.firstPoolId, p.path.map fun hop => (hop.evmAddress, poolBytes hop.poolId)⟩

theorem poolVersion_poolBytes (id : TraderJoePoolId) :
    Evm.HopList.poolVersion (poolBytes id) = id.version :=
  readBE_toBE id.version.isLt _

theorem poolBinStep_poolBytes (id : TraderJoePoolId) :
    Evm.HopList.poolBinStep (poolBytes id) = id.binSize :=
  ((holds_self _).rest (length_toBE 1 _)).readBE id.binSize.isLt

/-- **The parsed path** of the parameters is that of their hops. -/
theorem evmPath_traderJoe :
    evmPath inputToken outputToken (.traderJoe p) = (hopList p).full inputToken outputToken := by
  simp only [evmPath, Evm.HopList.full, Evm.HopList.stripped, hopList, List.flatMap_map,
    List.append_assoc]
  rfl

/-- **The router is given the hops**: version, bin size and token of each go where they belong. -/
theorem filledTjPath_evmPath (hlt : p.path.length < 256) :
    Evm.filledTjPath (evmPath inputToken outputToken (.traderJoe p)) =
        .ok (routerPath p inputToken outputToken) ∧
      Evm.traderJoePath (evmPath inputToken outputToken (.traderJoe p)) =
        routerPath p inputToken outputToken := by
  have hpath := evmPath_traderJoe p inputToken outputToken
  have hlength := (hopList p).length_full inputToken outputToken
  have hhops : (hopList p).hops.length = p.path.length := List.length_map _
  unfold Evm.SHARED_PATH_ELEMENT_SIZE Evm.ADDRESS_SIZE Evm.SHARED_POOL_ID_SIZE at hlength
  have hrouter : Evm.traderJoePath (evmPath inputToken outputToken (.traderJoe p)) =
      routerPath p inputToken outputToken := by
    rw [hpath, Evm.HopList.traderJoePath_full _ _ _ (by omega)]
    simp only [Evm.HopList.pools, hopList, routerPath, poolIds, List.map_cons, List.map_map,
      Function.comp_def, poolVersion_poolBytes, poolBinStep_poolBytes]
  refine ⟨?_, hrouter⟩
  rw [← hrouter, hpath]
  exact (Evm.decomposes (n := p.path.length + 1) (by omega) (by omega)).fills

end Hops

/-! ## Messages -/

/-- The swap of an output token. -/
def swapOf : OutputToken → Option OutputSwap
  | .usdc => none
  | .gas s => some s
  | .other _ s => some s

/-- A path that is written has at most 255 hops behind the first pool. -/
theorem path_lt_of_write {p : TraderJoeSwapParameters} {s : OutputSwap} {token : OutputToken}
    {out : List UInt8} (h : token.write = .ok out) (hs : swapOf token = some s)
    (hp : s.swapType = .traderJoe p) : p.path.length < 256 := by
  have hswap : ∃ bytes, s.write = .ok bytes := by
    cases token with
    | usdc => cases hs
    | gas _ =>
      cases hs
      obtain ⟨bytes, hbytes, -⟩ := except_bind_ok.1 h
      exact ⟨bytes, hbytes⟩
    | other _ _ =>
      cases hs
      obtain ⟨bytes, hbytes, -⟩ := except_bind_ok.1 h
      exact ⟨bytes, hbytes⟩
  obtain ⟨_, hwrite⟩ := hswap
  obtain ⟨_, htype, -⟩ := except_bind_ok.1 hwrite
  rw [hp] at htype
  obtain ⟨_, hparameters, -⟩ := except_bind_ok.1 htype
  obtain ⟨_, hpath, -⟩ := except_bind_ok.1 hparameters
  exact (writePath_ok.1 hpath).1

/-- The output section of a message with a swap. -/
theorem evmOutput_of_swap (d : Evm.Deployment) {token : OutputToken} {s : OutputSwap}
    (hs : swapOf token = some s) : ∃ o, evmOutput d token = some o ∧
      o.params = evmSwapParams d.usdc o.token s := by
  cases token with
  | usdc => cases hs
  | gas _ =>
    cases hs
    exact ⟨_, rfl, rfl⟩
  | other _ _ =>
    cases hs
    exact ⟨_, rfl, rfl⟩

/-- **Taking a path apart loses nothing.** Every path that the contracts parse is taken apart into as
many pools as the parameters say, without an access out of range, and can be put together again. So a
redemption gives the TraderJoe router the hops that the Rust writer put into the message, between USDC
and the output token. -/
theorem traderJoe_lossless :
    (∀ (inputToken outputToken : Evm.Address) (params : Evm.Bytes) (offset : ℕ),
      Evm.IsEvmSwapType (Evm.parseEvmSwapParams inputToken outputToken params offset).1.swapType →
      Evm.Decomposes (Evm.parseEvmSwapParams inputToken outputToken params offset).1.path
        (Evm.pathLengthAt params offset + 1)
        (Evm.traderJoePath (Evm.parseEvmSwapParams inputToken outputToken params offset).1.path)) ∧
    ∀ (m : SwapMessageV1) (bs : List UInt8) (s : OutputSwap) (p : TraderJoeSwapParameters),
      m.toVec = .ok bs → swapOf m.outputToken = some s → s.swapType = .traderJoe p →
      ∀ (d : Evm.Deployment) (sms : Evm.SwapMessageStructure),
        Evm.parseSwapMessageStructure bs = .ok sms →
        ∃ o, redeemParse d bs = .ok (sms, some o) ∧ o.params.swapType = Evm.SWAP_TYPE_TRADERJOE ∧
          Evm.filledTjPath o.params.path = .ok (routerPath p d.usdc o.token) ∧
          ∀ (x : Evm.Externals) (isExactIn : Bool) (inputAmount outputAmount : ℕ),
            (Evm.traderJoeRequest d x isExactIn inputAmount outputAmount o.params.path).path =
              routerPath p d.usdc o.token := by
  refine ⟨fun inputToken outputToken params offset h => Evm.decomposes_parsed h, ?_⟩
  intro m bs s p hvec hs hp d sms hsms
  obtain ⟨out, hout, -⟩ := toVec_ok.1 hvec
  obtain ⟨o, ho, hparams⟩ := evmOutput_of_swap d hs
  have hparse := ((toVec_parsed d hvec).2 sms hsms).2
  have htype : o.params.swapType = Evm.SWAP_TYPE_TRADERJOE := by
    rw [hparams, evmSwapParams, hp]
    rfl
  have hpath : o.params.path = evmPath d.usdc o.token (.traderJoe p) := by
    rw [hparams, evmSwapParams, hp]
  obtain ⟨hfilled, hrouter⟩ := filledTjPath_evmPath p d.usdc o.token (path_lt_of_write hout hs hp)
  rw [ho] at hparse
  refine ⟨o, hparse, htype, hpath ▸ hfilled, fun x isExactIn inputAmount outputAmount => ?_⟩
  cases isExactIn with
  | true => exact (congrArg Evm.traderJoePath hpath).trans hrouter
  | false => exact (congrArg Evm.traderJoePath hpath).trans hrouter

end SwapLayer.Bridge
