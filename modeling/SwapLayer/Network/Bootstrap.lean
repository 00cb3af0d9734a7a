import SwapLayer.Network.Requests
import SwapLayer.Sdk.Deployment

/-!
# Bringing the network up

`deploySwapLayerProxy` deploys the contracts, and `run` of `configureSwapLayer.ts` registers them with each
other: for one operating chain after the other, the owner's batch of registrations, until one fails.

Results:
* `configure_step`: one batch is a step of the network.
* `run_connects`: the script goes through and connects the operating chains.
* `deployed_connects`: from contracts just deployed, it leads to a reachable state, in which the peers of
  every contract are the other swap layers of the environment, and no others.
-/

namespace SwapLayer.Network

open ByteString Program
open Sdk (Environment Chain)
open Sdk.Environment (Registration Configured)

/-! ## The script -/

section Script

variable (e : Environment) (n : Sites) (caller : ∀ chain, Evm.Msg (n.evm chain)) (x : ℕ → Evm.Externals)

/-- `run` of `configureSwapLayer.ts`, for the given chains. -/
def runConfiguration : List Chain → Net n → Except String (Net n)
  | [], s => .ok s
  | chain :: chains, s => do
    let commands ← e.createSwapLayerConfiguration chain
    let call := Evm.Call.batchGovernanceCommands (Sdk.encodeGovernanceCommandsBatch commands)
    let t := ⟨caller chain.val, x chain.val, call⟩
    match Evm.execute t (s.evm chain.val) with
    | .ok w => runConfiguration chains (s.executed chain.val t w)
    | .error _ => .error ("Failed to update configuration for chain " ++ toString chain.val.val)

/-- The environment is about the network: it has a swap layer with fees for every chain, which is the
one that is there. -/
structure Describes : Prop where
  updatePeers : e.shouldUpdatePeers = true
  evm : ∀ c ∈ e.chains, c.val.val ≠ Solana.SOLANA_CHAIN
  chainId : ∀ c ∈ e.chains, (n.evm c.val).chainId = c.val
  configured : ∀ c ∈ e.chains, ∃ p, e.Configured c (n.evm c.val).self p

/-- The contract of a chain has no peers but those of other chains of the environment. -/
def Unlisted (chain : Chain) (s : Evm.Storage) : Prop :=
  ∀ k, (∀ c ∈ e.chains, c ≠ chain → c.val.val ≠ k) → s.peers k = Evm.zeroBytes32

/-- The contract of a chain has the swap layers of the other chains as its peers, and no others, with the
fees that are configured for them. -/
structure Connected (chain : Chain) (s : Evm.Storage) : Prop where
  peers : ∀ c ∈ e.chains, c ≠ chain → s.peers c.val = n.address c.val
  unlisted : Unlisted e chain s
  feeParams : ∀ c ∈ e.chains, c ≠ chain →
    ∃ p, e.Configured c (n.evm c.val).self p ∧ s.feeParams c.val = p.packed

/-- The contracts have just been deployed, those of the operating chains by `deploySwapLayerProxy`. -/
structure Deployed (signer : Evm.Address) (s : Net n) : Prop where
  wire : s.wire = .empty
  fills : ∀ k, s.solana.fills k = none
  peers : ∀ peerChain, s.solana.peers peerChain = none
  outbound : ∀ k, s.solana.outbound k = none
  history : s.history = []
  constructed : ∀ c ∈ e.getOperatingChains, ∃ x w₀ implementation,
    w₀.storage = Evm.blankStorage implementation ∧ Evm.proxyConstructor (n.evm c.val) x
      (Sdk.encodeProxyConstructorArgs (Sdk.deploySwapLayerProxyArgs signer)) w₀ = .ok ((), s.evm c.val)
  blank : ∀ chain, (∀ c ∈ e.getOperatingChains, c.val.val ≠ chain) →
    ∀ k, (s.evm chain).storage.peers k = Evm.zeroBytes32

end Script

variable {e : Environment} {n : Sites} {caller : ∀ chain, Evm.Msg (n.evm chain)} {x : ℕ → Evm.Externals}
  {s s' : Net n}

theorem mem_of_mem_operatingChains {c : Chain} (h : c ∈ e.getOperatingChains) : c ∈ e.chains := by
  unfold Environment.getOperatingChains at h
  split at h
  · exact h
  · obtain ⟨id, -, hfind⟩ := List.mem_filterMap.1 h
    exact List.mem_of_find?_eq_some hfind

/-! ## One batch -/

/-- The registrations that the script makes for an operating chain. -/
theorem registrations_of_describes (h : Describes e n) (chain : Chain) :
    ∃ rs : List e.Registration, e.createSwapLayerConfiguration chain = .ok (rs.map Registration.toCommand) ∧
      (∀ c, c ∈ rs.map Registration.chain ↔ c ∈ e.chains ∧ c ≠ chain) ∧
      ∀ r ∈ rs, r.address = (n.evm r.chain.val).self := by
  obtain ⟨rs, hrs⟩ := Environment.registrations_exist chain fun c hc _ =>
    ⟨_, h.configured c hc⟩
  have hmem (c : Chain) : c ∈ rs.map Registration.chain ↔ c ∈ e.chains ∧ c ≠ chain := by
    rw [hrs]
    simp
  refine ⟨rs, Sdk.createSwapLayerConfiguration_ok.2 ⟨rs, ?_, rfl⟩, hmem, fun r hr => ?_⟩
  · rw [if_pos h.updatePeers, hrs]
  · obtain ⟨p, hp⟩ := h.configured r.chain ((hmem _).1 (List.mem_map_of_mem hr)).1
    exact (hp.unique r.configured).1

/-- Registering the other chains keeps the network honest and connects the contract. -/
theorem registerAll_connects (h : Describes e n) {chain : Chain} {rs : List e.Registration}
    (hmem : ∀ c, c ∈ rs.map Registration.chain ↔ c ∈ e.chains ∧ c ≠ chain)
    (haddress : ∀ r ∈ rs, r.address = (n.evm r.chain.val).self) {st : Evm.Storage}
    (hunlisted : Unlisted e chain st) :
    Connected e n chain (Sdk.registerAll st rs) ∧
      ∀ k, (Sdk.registerAll st rs).peers k = n.address k ∨ (Sdk.registerAll st rs).peers k = st.peers k := by
  have hregistered (r : e.Registration) (hr : r ∈ rs) :
      (Sdk.registerAll st rs).peers r.chain.val = n.address r.chain.val ∧
        (Sdk.registerAll st rs).feeParams r.chain.val = r.feeParams.packed := by
    have hevm := h.evm r.chain ((hmem _).1 (List.mem_map_of_mem hr)).1
    have hself : n.address r.chain.val = Evm.toUniversalAddress r.address := by
      rw [n.address_evm hevm, haddress r hr]
    rw [hself]
    exact Sdk.registerAll_of_mem hr (hself ▸ n.address_ne_zero r.chain.val) st
  constructor
  · constructor
    · intro c hc hne
      obtain ⟨r, hr, rfl⟩ := List.mem_map.1 ((hmem c).2 ⟨hc, hne⟩)
      exact (hregistered r hr).1
    · intro k hk
      have hnot (r : e.Registration) (hr : r ∈ rs) : r.chain.val.val ≠ k := by
        obtain ⟨hc, hne⟩ := (hmem _).1 (List.mem_map_of_mem hr)
        exact hk _ hc hne
      rw [(Sdk.registerAll_of_notMem hnot st).1, hunlisted k hk]
    · intro c hc hne
      obtain ⟨r, hr, rfl⟩ := List.mem_map.1 ((hmem c).2 ⟨hc, hne⟩)
      exact ⟨r.feeParams, haddress r hr ▸ r.configured, (hregistered r hr).2⟩
  · intro k
    by_cases hk : ∃ r ∈ rs, r.chain.val.val = k
    · obtain ⟨r, hr, rfl⟩ := hk
      exact .inl (hregistered r hr).1
    · exact .inr (Sdk.registerAll_of_notMem (fun r hr h => hk ⟨r, hr, h⟩) st).1

/-- **One batch is a step of the network**, which connects the contract. -/
theorem configure_step (h : Describes e n) {chain : Chain} (hchain : chain ∈ e.chains)
    (hvalue : (caller chain.val).value = 0)
    (howner : (s.evm chain.val).storage.governance.owner = (caller chain.val).sender)
    (hunlisted : Unlisted e chain (s.evm chain.val).storage) (hhonest : Honest n s) :
    ∃ commands w, e.createSwapLayerConfiguration chain = .ok commands ∧
      let t := ⟨caller chain.val, x chain.val,
        .batchGovernanceCommands (Sdk.encodeGovernanceCommandsBatch commands)⟩
      Evm.execute t (s.evm chain.val) = .ok w ∧ Next n s (s.executed chain.val t w) ∧
      Connected e n chain w.storage ∧ w.storage.governance = (s.evm chain.val).storage.governance := by
  obtain ⟨rs, hcommands, hmem, haddress⟩ := registrations_of_describes h chain
  have hne : ∀ r ∈ rs, r.chain.val.val ≠ (n.evm chain.val).chainId := by
    intro r hr heq
    rw [h.chainId chain hchain] at heq
    exact ((hmem _).1 (List.mem_map_of_mem hr)).2 (Subtype.ext (Fin.ext heq))
  obtain ⟨w, hbatch, -, hstorage⟩ :=
    Sdk.configure_exact (x := x chain.val) howner.symm rs hne
  obtain ⟨hconnected, hpeers⟩ := registerAll_connects h hmem haddress hunlisted
  obtain ⟨hgovernance, himplementation⟩ := Sdk.registerAll_keeps rs (s.evm chain.val).storage
  rw [← hstorage] at hconnected hpeers hgovernance himplementation
  have hexec : Evm.execute ⟨caller chain.val, x chain.val, .batchGovernanceCommands
      (Sdk.encodeGovernanceCommandsBatch (rs.map Registration.toCommand))⟩ (s.evm chain.val) = .ok w :=
    except_map_ok.2 ⟨((), w), bind_ok.2 ⟨(), _, require_ok.2 ⟨hvalue, rfl⟩, hbatch⟩, rfl⟩
  refine ⟨_, w, hcommands, hexec, ⟨?_, ?_⟩, hconnected, hgovernance⟩
  · -- no order is placed
    have horders : w.orders = (s.evm chain.val).orders := by
      rcases Evm.execute_orders hexec with hsame | ⟨targetChain, recipient, params, hcall, -⟩
      · exact hsame
      · cases hcall
    exact .transact s chain.val _ w [] s.wire (h.evm chain hchain) (by simp) hexec
      himplementation (by rw [horders, List.append_nil]) (.nil _)
  · constructor
    · intro c hc k hk
      by_cases hsame : c = chain.val
      · subst hsame
        simp only [Net.executed, Net.note, Net.withEvm, Function.update_self] at hk ⊢
        rcases hpeers k with hpeer | hpeer
        · exact hpeer
        · rw [hpeer] at hk ⊢
          exact hhonest.evm _ hc k hk
      · simp only [Net.executed, Net.note, Net.withEvm, Function.update_of_ne hsame] at hk ⊢
        exact hhonest.evm c hc k hk
    · exact hhonest.solana

/-! ## The whole script -/

/-- The script, by induction on the chains it works on. -/
theorem run_connects (h : Describes e n) (hvalue : ∀ chain, (caller chain).value = 0) (chains : List Chain)
    (hchains : ∀ c ∈ chains, c ∈ e.chains) (hreach : Reachable n s) (hhonest : Honest n s)
    (howner : ∀ c ∈ chains, (s.evm c.val).storage.governance.owner = (caller c.val).sender)
    (hunlisted : ∀ c ∈ chains, Unlisted e c (s.evm c.val).storage) :
    ∃ s', runConfiguration e n caller x chains s = .ok s' ∧ Reachable n s' ∧
      (∀ c ∈ chains, Connected e n c (s'.evm c.val).storage ∧
        (s'.evm c.val).storage.governance = (s.evm c.val).storage.governance) ∧
      ∀ chain, (∀ c ∈ chains, c.val.val ≠ chain) → s'.evm chain = s.evm chain := by
  induction chains generalizing s with
  | nil => exact ⟨s, rfl, hreach, by simp, fun _ _ => rfl⟩
  | cons chain chains ih =>
    obtain ⟨commands, w, hcommands, hexec, hnext, hconnected, hgovernance⟩ :=
      configure_step (x := x) h (hchains chain List.mem_cons_self) (hvalue _)
        (howner chain List.mem_cons_self) (hunlisted chain List.mem_cons_self) hhonest
    have hgov (c : Chain) : ((s.withEvm chain.val w).evm c.val).storage.governance =
        (s.evm c.val).storage.governance := by
      by_cases hc : c.val.val = chain.val
      · simp only [Net.withEvm, hc, Function.update_self, hgovernance]
      · simp only [Net.withEvm, Function.update_of_ne hc]
    have hrest' (c : Chain) (hc : c ∈ chains) : Unlisted e c ((s.withEvm chain.val w).evm c.val).storage := by
      by_cases hsame : c = chain
      · subst hsame
        simpa only [Net.withEvm, Function.update_self] using hconnected.unlisted
      · have hne : c.val.val ≠ chain.val := fun heq => hsame (Subtype.ext (Fin.ext heq))
        simpa only [Net.withEvm, Function.update_of_ne hne] using hunlisted c (List.mem_cons_of_mem _ hc)
    obtain ⟨s₀, hstart, hrun⟩ := hreach
    obtain ⟨s', hok, hreach', hall, hrest⟩ := ih (fun c hc => hchains c (List.mem_cons_of_mem _ hc))
      ⟨s₀, hstart, hrun.tail hnext⟩ hnext.2
      (fun c hc => (hgov c).symm ▸ howner c (List.mem_cons_of_mem _ hc)) hrest'
    refine ⟨s', ?_, hreach', fun c hc => ?_, fun k hk => ?_⟩
    · rw [runConfiguration, hcommands]
      show (match Evm.execute _ _ with | .ok w => _ | .error _ => _) = _
      rw [hexec]
      exact hok
    · by_cases hagain : c ∈ chains
      · exact ⟨(hall c hagain).1, (hall c hagain).2.trans (hgov c)⟩
      · obtain rfl : c = chain := (List.mem_cons.1 hc).resolve_right hagain
        have hkept : s'.evm c.val = w := by
          rw [hrest c.val fun c' hc' heq => hagain (Subtype.ext (Fin.ext heq) ▸ hc')]
          exact Function.update_self ..
        rw [hkept]
        exact ⟨hconnected, hgovernance⟩
    · rw [hrest k fun c hc => hk c (List.mem_cons_of_mem _ hc)]
      exact Function.update_of_ne (Ne.symm (hk chain List.mem_cons_self)) ..

/-- **Deployed, configured, connected.** From contracts that `deploySwapLayerProxy` has just deployed, the
configuration script goes through for every environment that describes the network. It leads to a
reachable state in which the peers of every operating contract are the other swap layers of the environment
and no others, with the fees that are configured for them, and the roles are those of the deployment. -/
theorem deployed_connects (caller : ∀ chain, Evm.Msg (n.evm chain)) (x : ℕ → Evm.Externals)
    {signer : Evm.Address} (h : Describes e n) (hd : Deployed e n signer s)
    (hsender : ∀ chain, (caller chain).sender = signer) (hvalue : ∀ chain, (caller chain).value = 0) :
    ∃ s', runConfiguration e n caller x e.getOperatingChains s = .ok s' ∧ Reachable n s' ∧
      ∀ c ∈ e.getOperatingChains, Connected e n c (s'.evm c.val).storage ∧
        (s'.evm c.val).storage.governance = (Sdk.deploySwapLayerProxyArgs signer).governance := by
  have hconstructed (c : Chain) (hc : c ∈ e.getOperatingChains) : ∃ implementation,
      (s.evm c.val).storage = { Evm.blankStorage implementation with
        governance := (Sdk.deploySwapLayerProxyArgs signer).governance } := by
    obtain ⟨x, w₀, implementation, hblank, hconstructor⟩ := hd.constructed c hc
    exact ⟨implementation, Sdk.proxyConstructor_encode hblank hconstructor⟩
  have hhonest : Honest n s := by
    constructor
    · intro chain _ k hk
      by_cases hoperating : ∃ c ∈ e.getOperatingChains, c.val.val = chain
      · obtain ⟨c, hc, rfl⟩ := hoperating
        obtain ⟨implementation, hstorage⟩ := hconstructed c hc
        rw [hstorage] at hk
        exact absurd rfl hk
      · exact absurd (hd.blank chain (fun c hc heq => hoperating ⟨c, hc, heq⟩) k) hk
    · intro peerChain p hp
      rw [hd.peers] at hp
      cases hp
  have hreach : Reachable n s :=
    ⟨s, ⟨hd.wire, hd.fills, hd.outbound, hd.history, hhonest⟩, .refl⟩
  have howner (c : Chain) (hc : c ∈ e.getOperatingChains) :
      (s.evm c.val).storage.governance = (Sdk.deploySwapLayerProxyArgs signer).governance := by
    obtain ⟨implementation, hstorage⟩ := hconstructed c hc
    rw [hstorage]
  obtain ⟨s', hok, hreach', hall, -⟩ := run_connects (x := x) h hvalue e.getOperatingChains
    (fun c => mem_of_mem_operatingChains) hreach hhonest (fun c hc => by rw [howner c hc, hsender]; rfl)
    (fun c hc k _ => by
      obtain ⟨implementation, hstorage⟩ := hconstructed c hc
      rw [hstorage]
      rfl)
  refine ⟨s', hok, hreach', fun c hc => ?_⟩
  obtain ⟨hconnected, hgovernance⟩ := hall c hc
  exact ⟨hconnected, hgovernance.trans (howner c hc)⟩

namespace Sample

open Evm.Sample (address externals)

theorem two_ne_zero : (uintAt 2 [0, 2] 0).val ≠ 0 := by decide

theorem three_ne_zero : (uintAt 2 [0, 3] 0).val ≠ 0 := by decide

def chain2 : Chain := ⟨uintAt 2 [0, 2] 0, two_ne_zero⟩

def chain3 : Chain := ⟨uintAt 2 [0, 3] 0, three_ne_zero⟩

/-- The contracts of `swapLayers` on the chains 2 and 3, and the example fees. -/
def environment : Environment where
  container := ""
  operatingChains := none
  chains := [chain2, chain3]
  swapLayers := [⟨chain2, address 0x5e1f⟩, ⟨chain3, address 0x5e1f⟩]
  shouldUpdatePeers := true
  feeConfig := [⟨chain2, Sdk.Sample.feeParams⟩, ⟨chain3, Sdk.Sample.feeParams⟩]

theorem environment_describes : Describes environment swapLayers where
  updatePeers := rfl
  evm c hc := by
    rcases List.mem_pair.1 hc with rfl | rfl <;> decide
  chainId c _ := rfl
  configured c hc := by
    rcases List.mem_pair.1 hc with rfl | rfl <;> exact ⟨Sdk.Sample.feeParams, rfl, rfl⟩

theorem signer_ne_self : address 1 ≠ Evm.Sample.deployment.self := by decide

theorem signer_ne_zero : address 1 ≠ Evm.zeroAddress := by decide

def signer (chain : ℕ) : Evm.Msg (swapLayers.evm chain) :=
  ⟨address 1, 0, signer_ne_self, signer_ne_zero⟩

def proxyArgs : Evm.Bytes := Sdk.encodeProxyConstructorArgs (Sdk.deploySwapLayerProxyArgs (address 1))

/-- The network with contracts on chain 2 and 3. -/
def newlyDeployed (w₂ w₃ : Evm.World) : Net swapLayers :=
  { newNet with evm := fun chain => if chain = 2 then w₂ else if chain = 3 then w₃
      else Evm.Sample.blankWorld }

theorem newlyDeployed_deployed {w₂ w₃ : Evm.World}
    (h₂ : Evm.proxyConstructor (swapLayers.evm 2) (externals 0 0) proxyArgs Evm.Sample.blankWorld =
      .ok ((), w₂))
    (h₃ : Evm.proxyConstructor (swapLayers.evm 3) (externals 0 0) proxyArgs Evm.Sample.blankWorld =
      .ok ((), w₃)) :
    Deployed environment swapLayers (address 1) (newlyDeployed w₂ w₃) where
  wire := rfl
  fills _ := rfl
  peers _ := rfl
  outbound _ := rfl
  history := rfl
  constructed c hc := by
    rcases List.mem_pair.1 hc with rfl | rfl
    · exact ⟨_, _, _, rfl, h₂⟩
    · exact ⟨_, _, _, rfl, h₃⟩
  blank chain hne k := by
    have h2 : chain ≠ 2 := fun h => hne chain2 (by simp [environment, Environment.getOperatingChains,
      Environment.containerChains]) h.symm
    have h3 : chain ≠ 3 := fun h => hne chain3 (by simp [environment, Environment.getOperatingChains,
      Environment.containerChains]) h.symm
    simp only [newlyDeployed, if_neg h2, if_neg h3]
    rfl

/-- Two contracts are deployed and registered with each other. -/
theorem two_connected : ∃ s s', runConfiguration environment swapLayers signer (fun _ => externals 0 0)
      environment.getOperatingChains s = .ok s' ∧ Reachable swapLayers s' ∧
    (s'.evm 2).storage.peers 3 = Evm.toUniversalAddress (address 0x5e1f) ∧
    (s'.evm 3).storage.governance.feeRecipient = address 1 := by
  have hruns (chain : ℕ) (h : (Evm.proxyConstructor (swapLayers.evm chain) (externals 0 0) proxyArgs
      Evm.Sample.blankWorld).toOption.isSome = true) : ∃ w, Evm.proxyConstructor (swapLayers.evm chain)
        (externals 0 0) proxyArgs Evm.Sample.blankWorld = .ok ((), w) := by
    obtain ⟨⟨_, w⟩, hw⟩ := Option.isSome_iff_exists.1 h
    exact ⟨w, toOption_eq_some.1 hw⟩
  obtain ⟨w₂, h₂⟩ := hruns 2 (by decide +kernel)
  obtain ⟨w₃, h₃⟩ := hruns 3 (by decide +kernel)
  obtain ⟨s', hrun, hreach, hall⟩ := deployed_connects signer (fun _ => externals 0 0)
    environment_describes (newlyDeployed_deployed h₂ h₃) (fun _ => rfl) (fun _ => rfl)
  have h2 := hall chain2 (List.mem_cons_self ..)
  have h3 := hall chain3 (List.mem_cons_of_mem _ (List.mem_cons_self ..))
  refine ⟨_, s', hrun, hreach, ?_, ?_⟩
  · have hpeer := h2.1.peers chain3 (List.mem_cons_of_mem _ (List.mem_cons_self ..)) (by decide)
    rw [swapLayers.address_evm (by decide)] at hpeer
    exact hpeer
  · have hgovernance : (s'.evm 3).storage.governance =
      (Sdk.deploySwapLayerProxyArgs (address 1)).governance := h3.2
    rw [hgovernance]
    rfl

end Sample

end SwapLayer.Network
