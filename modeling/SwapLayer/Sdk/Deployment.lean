import SwapLayer.Evm.Construction
import SwapLayer.Sdk.Governance

/-!
# Deployment scripts

Model of `encodeProxyConstructorArgs` of the SDK and of the scripts in `evm/ts-scripts` that deploy and
configure the contracts: `deploySwapLayerProxy` (`helpers/deployments.ts`) and
`createSwapLayerConfiguration` (`swapLayer/configureSwapLayer.ts`), which registers the swap layer of every
other chain.

* `Environment` is what the scripts load from the files of an environment. The lists are searched for the
  first entry of a chain, as `find` does; a missing entry is an error.
* The fee configuration of a chain are the values that `UpdatePeer` is given; what the scripts load
  beside them is not part of a command.

Results:
* `proxyConstructor_encode`: the constructor gives the roles to those that the SDK was told, and
  registers nobody.
* `createSwapLayerConfiguration_ok`: the script yields one command for each other chain, or an error.
* `configure_exact`: the owner's batch of these commands goes through, registers the configured swap
  layers with the configured fees, and leaves the rest.
-/

namespace SwapLayer.Sdk

open ByteString Program

/-! ## Construction -/

/-- The values of `proxyConstructorArgsLayout`. -/
structure ProxyConstructorArgs where
  owner : Fixed 20
  assistant : Fixed 20
  feeUpdater : Fixed 20
  feeRecipient : Fixed 20

def encodeProxyConstructorArgs (args : ProxyConstructorArgs) : List UInt8 :=
  args.owner.toList ++ (args.assistant.toList ++ (args.feeUpdater.toList ++ args.feeRecipient.toList))

/-- The roles of a contract that was constructed. -/
def ProxyConstructorArgs.governance (args : ProxyConstructorArgs) : Evm.GovernanceState where
  owner := args.owner
  pendingOwner := Evm.zeroAddress
  assistant := args.assistant
  feeUpdater := args.feeUpdater
  feeRecipient := args.feeRecipient

/-- `deploySwapLayerProxy` gives all roles to the signer. -/
def deploySwapLayerProxyArgs (signer : Fixed 20) : ProxyConstructorArgs :=
  ⟨signer, signer, signer, signer⟩

section Construction

variable {d : Evm.Deployment} {x : Evm.Externals} {w w' : Evm.World}

theorem length_encodeProxyConstructorArgs (args : ProxyConstructorArgs) :
    (encodeProxyConstructorArgs args).length = 80 := by
  simp [encodeProxyConstructorArgs]

/-- The addresses of the arguments are read where the SDK has put them. -/
theorem readAddress {bytes rest : List UInt8} {offset : ℕ} {a : Fixed 20}
    (h : Holds bytes offset (a.toList ++ rest)) :
    Evm.asAddressUnchecked bytes offset = (a, offset + 20) ∧ Holds bytes (offset + 20) rest := by
  refine ⟨?_, h.rest a.toList_length⟩
  show (sliceFixed 20 bytes offset, offset + 20) = _
  rw [h.left.sliceFixed]

/-- **The constructor on the arguments of the SDK**: everybody has the role that he was named for, there
are no peers and no fee parameters. -/
theorem proxyConstructor_encode {args : ProxyConstructorArgs} {implementation : Fixed 20} {u : Unit}
    (hblank : w.storage = Evm.blankStorage implementation)
    (h : Evm.proxyConstructor d x (encodeProxyConstructorArgs args) w = .ok (u, w')) :
    w'.storage = { Evm.blankStorage implementation with governance := args.governance } := by
  have hlength := length_encodeProxyConstructorArgs args
  obtain ⟨howner, h₁⟩ := readAddress (holds_self (encodeProxyConstructorArgs args))
  obtain ⟨hassistant, h₂⟩ := readAddress h₁
  obtain ⟨hfeeUpdater, h₃⟩ := readAddress h₂
  have hfeeRecipient : Evm.asAddressUnchecked (encodeProxyConstructorArgs args) (0 + 20 + 20 + 20) =
      (args.feeRecipient, 0 + 20 + 20 + 20 + 20) := by
    show (sliceFixed 20 _ _, _) = _
    rw [h₃.sliceFixed]
  unfold Evm.proxyConstructor at h
  simp only [howner, hassistant, hfeeUpdater, hfeeRecipient] at h
  obtain ⟨_, w₁, hgovernance, h⟩ := bind_ok.1 h
  obtain ⟨_, w₂, hloop, h⟩ := bind_ok.1 h
  obtain ⟨_, w₃, hliquidity, h⟩ := bind_ok.1 h
  obtain ⟨_, w₄, huniswap, h⟩ := bind_ok.1 h
  obtain ⟨_, w₅, huniswap', h⟩ := bind_ok.1 h
  obtain ⟨_, w₆, htraderJoe, htraderJoe'⟩ := bind_ok.1 h
  -- there are no registrations behind the roles
  have hw₂ : w₂ = w₁ := by
    rw [Evm.registrationLoop, if_neg (by omega)] at hloop
    exact (lift_ok.1 hloop).2
  have hw₁ : w₁.storage = { w.storage with
      governance := { w.storage.governance with
        owner := args.owner, assistant := args.assistant, feeUpdater := args.feeUpdater,
        feeRecipient := args.feeRecipient } } := by
    obtain ⟨_, w₀, hreq, hset⟩ := bind_ok.1 hgovernance
    obtain ⟨-, rfl⟩ := require_ok.1 hreq
    cases hset
    rfl
  rw [Evm.traderJoeMaxApprove_storage _ _ _ _ htraderJoe',
    Evm.traderJoeMaxApprove_storage _ _ _ _ htraderJoe, Evm.uniswapMaxApprove_storage _ _ _ _ huniswap',
    Evm.uniswapMaxApprove_storage _ _ _ _ huniswap, Evm.maxApprove_storage _ _ _ _ _ hliquidity, hw₂, hw₁,
    hblank]
  rfl

end Construction

/-! ## Configuration -/

/-- A contract of an environment. -/
structure Deployment where
  chainId : Chain
  address : Fixed 20

structure FeeConfig where
  chainId : Chain
  feeParams : FeeParams

structure Environment where
  container : String
  operatingChains : Option (List ℕ)
  chains : List Chain
  swapLayers : List Deployment
  shouldUpdatePeers : Bool
  feeConfig : List FeeConfig

namespace Environment

variable (e : Environment)

/-- The chains that a container works on, unless others are given. -/
def containerChains : String → Option (List ℕ)
  | "evm1" => some [2]
  | "evm2" => some [4]
  | _ => none

def getOperatingChains : List Chain :=
  match e.operatingChains.or (containerChains e.container) with
  | none => e.chains
  | some ids => ids.filterMap fun x => e.chains.find? fun y => y.val.val = x

def getSwapLayerAddress (chain : Chain) : Except String (Fixed 20) :=
  match e.swapLayers.find? fun x => x.chainId = chain with
  | some x => .ok x.address
  | none => .error ("Failed to find a SwapLayer contract address on chain " ++ toString chain.val.val)

def getFeeParams (chain : Chain) : Except String FeeParams :=
  match e.feeConfig.find? fun config => config.chainId = chain with
  | some config => .ok config.feeParams
  | none => .error ("No fee config found for chain " ++ toString chain.val.val)

/-- The command that registers a chain. -/
def registerCommand (currentChain : Chain) : Except String GovernanceCommand := do
  let swapLayerAddress ← e.getSwapLayerAddress currentChain
  let feeParams ← e.getFeeParams currentChain
  return .updatePeer currentChain (Evm.toUniversalAddress swapLayerAddress) feeParams

/-- The loop over all chains; a chain is not registered on itself. -/
def registerLoop (operatingChain : Chain) : List Chain → Except String (List GovernanceCommand)
  | [] => .ok []
  | currentChain :: chains =>
    if operatingChain = currentChain then registerLoop operatingChain chains
    else do
      let command ← e.registerCommand currentChain
      let commands ← registerLoop operatingChain chains
      return command :: commands

def createSwapLayerConfiguration (operatingChain : Chain) : Except String (List GovernanceCommand) :=
  if e.shouldUpdatePeers then e.registerLoop operatingChain e.chains else .ok []

/-- The swap layer and the fees that are configured for a chain. -/
structure Configured (chain : Chain) (address : Fixed 20) (feeParams : FeeParams) : Prop where
  address : e.getSwapLayerAddress chain = .ok address
  feeParams : e.getFeeParams chain = .ok feeParams

variable {e}

theorem Configured.unique {chain : Chain} {address address' : Fixed 20} {p p' : FeeParams}
    (h : e.Configured chain address p) (h' : e.Configured chain address' p') :
    address' = address ∧ p' = p :=
  ⟨Except.ok.inj (h'.address.symm.trans h.address), Except.ok.inj (h'.feeParams.symm.trans h.feeParams)⟩

/-- A chain as it is configured. -/
structure Registration (e : Environment) where
  chain : Chain
  address : Fixed 20
  feeParams : FeeParams
  configured : e.Configured chain address feeParams

def Registration.toCommand (r : e.Registration) : GovernanceCommand :=
  .updatePeer r.chain (Evm.toUniversalAddress r.address) r.feeParams

theorem registerCommand_ok {chain : Chain} {c : GovernanceCommand} :
    e.registerCommand chain = .ok c ↔ ∃ r : e.Registration, r.chain = chain ∧ c = r.toCommand := by
  constructor
  · intro h
    obtain ⟨address, haddress, h₁⟩ := except_bind_ok.1 h
    obtain ⟨feeParams, hfees, hret⟩ := except_bind_ok.1 h₁
    cases hret
    exact ⟨⟨chain, address, feeParams, haddress, hfees⟩, rfl, rfl⟩
  · rintro ⟨r, rfl, rfl⟩
    exact except_bind_ok.2 ⟨r.address, r.configured.address,
      except_bind_ok.2 ⟨r.feeParams, r.configured.feeParams, rfl⟩⟩

/-- **The loop** registers the chains other than the operating one, by induction on them. -/
theorem registerLoop_ok {operatingChain : Chain} {chains : List Chain}
    {commands : List GovernanceCommand} :
    e.registerLoop operatingChain chains = .ok commands ↔ ∃ rs : List e.Registration,
      rs.map Registration.chain = chains.filter (fun c => c ≠ operatingChain) ∧
        commands = rs.map Registration.toCommand := by
  induction chains generalizing commands with
  | nil =>
    constructor
    · rintro ⟨⟩
      exact ⟨[], rfl, rfl⟩
    · rintro ⟨rs, hrs, rfl⟩
      rw [List.map_eq_nil_iff.1 hrs]
      rfl
  | cons currentChain chains ih =>
    rw [registerLoop, List.filter_cons]
    by_cases hself : operatingChain = currentChain
    · rw [if_pos hself, ih, if_neg (by simp [hself])]
    · rw [if_neg hself, if_pos (by simpa using Ne.symm hself)]
      constructor
      · intro h
        obtain ⟨c, hc, h₁⟩ := except_bind_ok.1 h
        obtain ⟨cs, hcs, hret⟩ := except_bind_ok.1 h₁
        cases hret
        obtain ⟨r, rfl, rfl⟩ := registerCommand_ok.1 hc
        obtain ⟨rs, hrs, rfl⟩ := ih.1 hcs
        exact ⟨r :: rs, by rw [List.map_cons, hrs], rfl⟩
      · rintro ⟨rs, hrs, rfl⟩
        obtain ⟨r, rs, rfl, hr, hrs⟩ := List.map_eq_cons_iff.1 hrs
        exact except_bind_ok.2 ⟨r.toCommand, registerCommand_ok.2 ⟨r, hr, rfl⟩,
          except_bind_ok.2 ⟨_, ih.2 ⟨rs, hrs, rfl⟩, rfl⟩⟩

/-- The script goes through when every other chain is configured. -/
theorem registrations_exist (operatingChain : Chain) {chains : List Chain}
    (h : ∀ c ∈ chains, c ≠ operatingChain → ∃ address p, e.Configured c address p) :
    ∃ rs : List e.Registration,
      rs.map Registration.chain = chains.filter (fun c => c ≠ operatingChain) := by
  induction chains with
  | nil => exact ⟨[], rfl⟩
  | cons c chains ih =>
    obtain ⟨rs, hrs⟩ := ih fun c' hc' => h c' (List.mem_cons_of_mem _ hc')
    by_cases hself : c = operatingChain
    · exact ⟨rs, by simp [hself, hrs]⟩
    · obtain ⟨address, p, hc⟩ := h c List.mem_cons_self hself
      exact ⟨⟨c, address, p, hc⟩ :: rs, by simp [hself, hrs]⟩

end Environment

/-! ## What the commands do -/

open Environment

section Commands

variable {e : Environment} {d : Evm.Deployment} {x : Evm.Externals} {msg : Evm.Msg d} {w w' : Evm.World}

/-- The fee parameters of the SDK are accepted as they are. -/
theorem FeeParams.checkedWrap_word (p : FeeParams) :
    Evm.FeeParams.checkedWrap p.word = .ok p.packed :=
  Evm.FeeParams.checkedWrap_ok.2 ⟨p.packed_eq.symm, p.packed_bounded⟩

/-- **The owner registers a peer**, for any chain but zero and the own one. -/
theorem perform_updatePeer (x : Evm.Externals) (msg : Evm.Msg d) (w : Evm.World) {chain : Chain}
    (hne : chain.val.val ≠ d.chainId) (address : Fixed 32) (p : FeeParams) :
    ∃ w', Evm.Command.perform d x msg true (.updatePeer chain.val address p.word) w = .ok ((), w') ∧
      w'.held = w.held := by
  have hallowed : ¬(chain.val.val = 0 ∨ chain.val.val = d.chainId) := by
    rintro (h | h)
    · exact chain.property h
    · exact hne h
  let registered := w.withStorage { w.storage with
    peers := Function.update w.storage.peers chain.val address }
  have hset : Evm.setPeer d chain.val address w = .ok ((), registered) :=
    bind_ok.2 ⟨(), w, require_ok.2 ⟨hallowed, rfl⟩, rfl⟩
  obtain ⟨w₁, hregister, hheld⟩ : ∃ w₁,
      Evm.registerPeer d true chain.val address w = .ok ((), w₁) ∧ w₁.held = w.held := by
    by_cases hsame : address = w.storage.peers chain.val
    · refine ⟨w, bind_ok.2 ⟨_, w, rfl, ?_⟩, rfl⟩
      simp only [if_neg (not_not.2 hsame)]
      rfl
    · refine ⟨registered, bind_ok.2 ⟨_, w, rfl, ?_⟩, rfl⟩
      simp only [if_pos hsame]
      exact bind_ok.2 ⟨(), w, require_ok.2 ⟨by simp, rfl⟩, hset⟩
  obtain ⟨params, hparams⟩ : ∃ params, Evm.Command.peerFeeParams address p.word = .ok params := by
    unfold Evm.Command.peerFeeParams
    by_cases haddress : address = Evm.zeroBytes32
    · exact ⟨0, if_pos haddress⟩
    · exact ⟨p.packed, by rw [if_neg haddress, p.checkedWrap_word]⟩
  exact ⟨_, bind_ok.2 ⟨(), w₁, hregister, bind_ok.2 ⟨params, w₁, lift_ok.2 ⟨hparams, rfl⟩, rfl⟩⟩,
    hheld⟩

/-- **The owner registers a list of chains** that are not the own one. -/
theorem performAll_registrations (x : Evm.Externals) (msg : Evm.Msg d) (rs : List e.Registration)
    (hne : ∀ r ∈ rs, r.chain.val.val ≠ d.chainId) (w : Evm.World) :
    ∃ w', Evm.Command.performAll d x msg true
        ((rs.map Registration.toCommand).map GovernanceCommand.toCommand) w = .ok ((), w') ∧
      w'.held = w.held := by
  induction rs generalizing w with
  | nil => exact ⟨w, rfl, rfl⟩
  | cons r rs ih =>
    obtain ⟨w₁, hfirst, hheld₁⟩ := perform_updatePeer x msg w (hne r List.mem_cons_self)
      (Evm.toUniversalAddress r.address) r.feeParams
    obtain ⟨w', hrest, hheld⟩ := ih (fun r' hr' => hne r' (List.mem_cons_of_mem _ hr')) w₁
    exact ⟨w', bind_ok.2 ⟨(), w₁, hfirst, hrest⟩, hheld.trans hheld₁⟩

/-- The storage after a list of chains was registered. -/
def registerAll (s : Evm.Storage) (rs : List e.Registration) : Evm.Storage :=
  (rs.map Registration.toCommand).foldl GovernanceCommand.executed s

theorem registerAll_cons (s : Evm.Storage) (r : e.Registration) (rs : List e.Registration) :
    registerAll s (r :: rs) = registerAll (r.toCommand.executed s) rs := rfl

/-- Roles and implementation stay. -/
theorem registerAll_keeps (rs : List e.Registration) (s : Evm.Storage) :
    (registerAll s rs).governance = s.governance ∧
      (registerAll s rs).implementation = s.implementation := by
  induction rs generalizing s with
  | nil => exact ⟨rfl, rfl⟩
  | cons r rs ih => exact ih _

/-- A chain that is not in the list stays as it is. -/
theorem registerAll_of_notMem {rs : List e.Registration} {k : ℕ} (h : ∀ r ∈ rs, r.chain.val.val ≠ k)
    (s : Evm.Storage) :
    (registerAll s rs).peers k = s.peers k ∧ (registerAll s rs).feeParams k = s.feeParams k := by
  induction rs generalizing s with
  | nil => exact ⟨rfl, rfl⟩
  | cons r rs ih =>
    obtain ⟨hpeers, hfees⟩ :=
      ih (fun r' hr' => h r' (List.mem_cons_of_mem _ hr')) (r.toCommand.executed s)
    have hk : k ≠ r.chain.val.val := Ne.symm (h r List.mem_cons_self)
    rw [registerAll_cons, hpeers, hfees]
    exact ⟨Function.update_of_ne hk .., Function.update_of_ne hk ..⟩

/-- **A chain in the list has the peer and the fees that are configured for it.** The induction is on the
list; if the chain occurs again, it is with the same configuration. -/
theorem registerAll_of_mem {rs : List e.Registration} {r : e.Registration} (hr : r ∈ rs)
    (hself : Evm.toUniversalAddress r.address ≠ Evm.zeroBytes32) (s : Evm.Storage) :
    (registerAll s rs).peers r.chain.val = Evm.toUniversalAddress r.address ∧
      (registerAll s rs).feeParams r.chain.val = r.feeParams.packed := by
  induction rs generalizing s with
  | nil => cases hr
  | cons r' rs ih =>
    rw [registerAll_cons]
    by_cases hagain : ∃ r'' ∈ rs, r''.chain = r.chain
    · obtain ⟨r'', hmem, hchain⟩ := hagain
      obtain ⟨haddress, hfees⟩ := r.configured.unique (hchain ▸ r''.configured)
      have heq : r'' = r := by
        cases r''
        cases r
        simp_all
      exact ih (heq ▸ hmem) _
    · have hlast : r = r' := by
        rcases List.mem_cons.1 hr with h | h
        · exact h
        · exact absurd ⟨r, h, rfl⟩ hagain
      subst hlast
      have hnone : ∀ r'' ∈ rs, r''.chain.val.val ≠ r.chain.val.val := fun r'' hmem h =>
        hagain ⟨r'', hmem, Subtype.ext (Fin.ext h)⟩
      obtain ⟨hpeers, hfees⟩ := registerAll_of_notMem hnone (r.toCommand.executed s)
      rw [hpeers, hfees]
      refine ⟨Function.update_self .., ?_⟩
      show Function.update s.feeParams _ _ _ = _
      rw [Function.update_self, if_neg hself]

/-- The script's result is a list of registrations. -/
theorem createSwapLayerConfiguration_ok {operatingChain : Chain} {commands : List GovernanceCommand} :
    e.createSwapLayerConfiguration operatingChain = .ok commands ↔ ∃ rs : List e.Registration,
      rs.map Registration.chain =
          (if e.shouldUpdatePeers then e.chains.filter (fun c => c ≠ operatingChain) else []) ∧
        commands = rs.map Registration.toCommand := by
  unfold createSwapLayerConfiguration
  by_cases hupdate : e.shouldUpdatePeers
  · rw [if_pos hupdate, if_pos hupdate, registerLoop_ok]
  · rw [if_neg hupdate, if_neg hupdate]
    constructor
    · rintro ⟨⟩
      exact ⟨[], rfl, rfl⟩
    · rintro ⟨rs, hrs, rfl⟩
      rw [List.map_eq_nil_iff.1 hrs]
      rfl

/-- **The owner's batch of registrations** goes through and leaves what they say. -/
theorem configure_exact (howner : msg.sender = w.storage.governance.owner) (rs : List e.Registration)
    (hne : ∀ r ∈ rs, r.chain.val.val ≠ d.chainId) :
    ∃ w', Evm.batchGovernanceCommands d x msg
        (encodeGovernanceCommandsBatch (rs.map Registration.toCommand)) w = .ok ((), w') ∧
      w'.held = w.held ∧ w'.storage = registerAll w.storage rs := by
  have hlast : ∀ c ∈ ((rs.map Registration.toCommand).map GovernanceCommand.toCommand).dropLast,
      ¬c.EndsBatch := by
    intro c hc
    obtain ⟨c', hc', rfl⟩ := List.mem_map.1 (List.dropLast_subset _ hc)
    obtain ⟨r, -, rfl⟩ := List.mem_map.1 hc'
    exact id
  obtain ⟨w', hperform, hheld⟩ := performAll_registrations x msg rs hne w
  refine ⟨w', ?_, hheld, ?_⟩
  · rw [encodeGovernanceCommandsBatch_eq, Evm.batchGovernanceCommands_encode howner _ hlast, hperform]
  · rw [Evm.performAll_ok hperform, registerAll, List.foldl_map]
    simp only [GovernanceCommand.applied_toCommand]

end Commands

end SwapLayer.Sdk
