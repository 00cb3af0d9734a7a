import SwapLayer.Evm.System

/-!
# Deployed swap layers

Model of `_proxyConstructor` (`SwapLayerSansRouterImpls.sol:44-79`), and what holds of every state that
is reached from it.

Peers and fee parameters are written in three places: the loop of the constructor, `UpdatePeer`, and
the batched fee updates, which edit a copy of the parameters and write it back when the chain changes.
Two of these writes go past the checks: `UpdatePeer` does not call `_setPeer` when the peer stays as it
is, and does not check the fee parameters when it removes the peer.

`Sound` is the invariant: percentages of at most 1000 %, no peer for chain zero and the own chain, and
a fee recipient. `Reachable` are the states after the constructor and any calls.

Results:
* `runCommand_sound`, `batchFeeUpdates_sound`: governance commands and fee updates keep the
  invariant.
* `proxyConstructor_sound`: the constructor establishes it.
* `reachable_sound`: so it holds in every reachable state.
-/

namespace SwapLayer.Evm

open ByteString Program Ledger

section Definitions

variable (d : Deployment) (x : Externals)

/-- `_governanceConstruction`. -/
def governanceConstruction (owner assistant feeUpdater feeRecipient : Address) : Contract Unit := do
  require (feeRecipient ≠ zeroAddress) .invalidFeeRecipient
  modifyGovernance fun g => { g with
    owner := owner
    assistant := assistant
    feeUpdater := feeUpdater
    feeRecipient := feeRecipient }

/-- The loop of `_proxyConstructor`, and the check after it. -/
def registrationLoop (args : Bytes) : ℕ → ℕ → Contract Unit
  | 0, _ => fail .outOfGas
  | fuel + 1, offset =>
    if offset < args.length then do
      let (chain, offset) := asUint16Unchecked args offset
      let (peer, offset) := asBytes32Unchecked args offset
      let (feeParams, offset) := asUint256Unchecked args offset
      require (peer ≠ zeroBytes32) .peerIsZeroAddress
      setPeer d chain peer
      let params ← lift (FeeParams.checkedWrap feeParams)
      setFeeParams chain params
      registrationLoop args fuel offset
    else lift (checkLength args offset)

/-- `_proxyConstructor`. -/
def proxyConstructor (args : Bytes) : Contract Unit := do
  let (owner, offset) := asAddressUnchecked args 0
  let (admin, offset) := asAddressUnchecked args offset
  let (assistant, offset) := asAddressUnchecked args offset
  let (feeRecipient, offset) := asAddressUnchecked args offset
  governanceConstruction owner admin assistant feeRecipient
  registrationLoop d args (args.length + 1) offset
  maxApprove x d.usdc d.liquidityLayer
  uniswapMaxApprove d x d.usdc
  uniswapMaxApprove d x d.wnative
  traderJoeMaxApprove d x d.usdc
  traderJoeMaxApprove d x d.wnative

/-- Storage of a contract that has not been constructed yet. -/
def blankStorage (implementation : Address) : Storage where
  governance := ⟨zeroAddress, zeroAddress, zeroAddress, zeroAddress, zeroAddress⟩
  peers := fun _ => zeroBytes32
  feeParams := fun _ => 0
  implementation := implementation

/-- The states of a deployed swap layer: after its constructor, and after any call that did not
revert. -/
inductive Reachable : World → Prop
  | constructed {x : Externals} {args : Bytes} {implementation : Address} {w₀ w : World}
      (hblank : w₀.storage = blankStorage implementation)
      (h : proxyConstructor d x args w₀ = .ok ((), w)) : Reachable w
  | called {t : Transaction d} {w w' : World} (hw : Reachable w) (h : execute t w = .ok w') :
      Reachable w'

end Definitions

/-! ## The invariant -/

/-- The invariant of the storage. -/
structure Sound (d : Deployment) (s : Storage) : Prop where
  feeParams : ∀ chain, FeeParams.Bounded (s.feeParams chain)
  peer_zero : s.peers 0 = zeroBytes32
  peer_self : s.peers d.chainId = zeroBytes32
  feeRecipient : s.governance.feeRecipient ≠ zeroAddress

/-- The invariant is kept. -/
def KeepsSound (d : Deployment) (w w' : World) : Prop := Sound d w.storage → Sound d w'.storage

section Keeps

variable {d : Deployment} {x : Externals} {msg : Msg d} {w w' : World}

theorem keepsSound_refl (w : World) : KeepsSound d w w := id

theorem keepsSound_trans (w₁ w₂ w₃ : World) (h₁ : KeepsSound d w₁ w₂) (h₂ : KeepsSound d w₂ w₃) :
    KeepsSound d w₁ w₃ :=
  fun h => h₂ (h₁ h)

theorem keepsSound_of_storage {α : Type} {f : Contract α} (h : Guarantees StorageUnchanged f) :
    Guarantees (KeepsSound d) f := by
  intro w a w' hf hs
  have hstorage : w'.storage = w.storage := h w a w' hf
  rwa [hstorage]

theorem Sound.withFeeParams {s : Storage} (h : Sound d s) (chain : ℕ) {params : FeeParams}
    (hb : params.Bounded) :
    Sound d { s with feeParams := Function.update s.feeParams chain params } := by
  refine { h with feeParams := fun c => ?_ }
  show FeeParams.Bounded (Function.update s.feeParams chain params c)
  by_cases hc : c = chain
  · rw [hc, Function.update_self]
    exact hb
  · rw [Function.update_of_ne hc]
    exact h.feeParams c

theorem setFeeParams_sound (chain : ℕ) {params : FeeParams} (hb : params.Bounded) :
    Guarantees (KeepsSound d) (setFeeParams chain params) := by
  intro w u w' h hs
  cases h
  exact hs.withFeeParams chain hb

/-- **`_setPeer`** refuses chain zero and the own chain. -/
theorem setPeer_sound (chain : ℕ) (peer : Bytes32) :
    Guarantees (KeepsSound d) (setPeer d chain peer) := by
  intro w u w' h hs
  obtain ⟨_, w₁, hreq, hset⟩ := bind_ok.1 h
  obtain ⟨hallowed, rfl⟩ := require_ok.1 hreq
  cases hset
  have hzero : 0 ≠ chain := fun he => hallowed (.inl he.symm)
  have hself : d.chainId ≠ chain := fun he => hallowed (.inr he.symm)
  exact { hs with
    peer_zero := (Function.update_of_ne hzero ..).trans hs.peer_zero
    peer_self := (Function.update_of_ne hself ..).trans hs.peer_self }

theorem updateRole_sound (role : Role) (newAddress : Address) :
    Guarantees (KeepsSound d) (updateRole x role newAddress) := by
  intro w u w' h hs
  have hstorage := updateRole_ok h
  obtain ⟨_, w₁, hreq, -⟩ := bind_ok.1 h
  obtain ⟨hrecipient, -⟩ := require_ok.1 hreq
  rw [hstorage]
  refine { hs with feeRecipient := ?_ }
  cases role with
  | feeRecipient => exact fun hz => hrecipient ⟨rfl, hz⟩
  | _ => exact hs.feeRecipient

theorem updateRoleCommand_sound (role : Role) (commands : Bytes) (offset : ℕ) :
    Guarantees (KeepsSound d) (updateRoleCommand x role commands offset) :=
  .bind keepsSound_trans (updateRole_sound _ _) fun _ => .pure keepsSound_refl _

theorem registerPeer_sound (isOwner : Bool) (peerChain : ℕ) (newPeer : Bytes32) :
    Guarantees (KeepsSound d) (registerPeer d isOwner peerChain newPeer) := by
  unfold registerPeer
  refine .bind keepsSound_trans (keepsSound_of_storage getStorage_storage) fun storage => ?_
  dsimp only
  split
  · exact .bind keepsSound_trans (.require keepsSound_refl _ _) fun _ => setPeer_sound _ _
  · exact .pure keepsSound_refl _

/-- **`UpdatePeer`** keeps the invariant on the branches that go past the checks, too: a peer that stays
as it is needs none, and without a peer the fee parameters are zero. -/
theorem updatePeer_sound (isOwner : Bool) (commands : Bytes) (offset : ℕ) :
    Guarantees (KeepsSound d) (updatePeer d isOwner commands offset) := by
  intro w o w' h
  obtain ⟨_, w₁, hregister, h₁⟩ := bind_ok.1 h
  obtain ⟨params, w₂, hlift, h₂⟩ := bind_ok.1 h₁
  obtain ⟨hparams, rfl⟩ := lift_ok.1 hlift
  obtain ⟨_, w₃, hset, hret⟩ := bind_ok.1 h₂
  obtain ⟨-, rfl⟩ := pure_ok.1 hret
  have hb : params.Bounded := by
    split at hparams
    · cases hparams
      exact FeeParams.bounded_zero
    · exact (FeeParams.checkedWrap_ok.1 hparams).2
  intro hs
  exact setFeeParams_sound _ hb _ _ _ hset (registerPeer_sound _ _ _ _ _ _ hregister hs)

theorem sweepTokens_sound (commands : Bytes) (offset : ℕ) :
    Guarantees (KeepsSound d) (sweepTokens d x msg commands offset) := by
  refine .bind keepsSound_trans ?_ fun _ => .pure keepsSound_refl _
  exact keepsSound_of_storage fun w u w' h => sweep_ok h

theorem upgradeContract_sound (commands : Bytes) (offset : ℕ) :
    Guarantees (KeepsSound d) (upgradeContract x commands offset) := by
  unfold upgradeContract
  refine .bind keepsSound_trans (.lift keepsSound_refl _) fun _ => ?_
  refine .bind keepsSound_trans (.require keepsSound_refl _ _) fun _ => ?_
  intro w o w' h hs
  cases h
  exact { hs with }

theorem proposeOwnershipTransfer_sound (commands : Bytes) (offset : ℕ) :
    Guarantees (KeepsSound d) (proposeOwnershipTransfer commands offset) := by
  intro w o w' h hs
  cases h
  exact { hs with }

theorem relinquishOwnership_sound (commands : Bytes) (offset : ℕ) :
    Guarantees (KeepsSound d) (relinquishOwnership x commands offset) :=
  .bind keepsSound_trans (updateRole_sound _ _) fun _ =>
    .bind keepsSound_trans (.lift keepsSound_refl _) fun _ => .pure keepsSound_refl _

/-- **One governance command** keeps the invariant. -/
theorem runCommand_sound (isOwner : Bool) (command : GovernanceCommand) (commands : Bytes)
    (offset : ℕ) : Guarantees (KeepsSound d) (runCommand d x msg isOwner command commands offset) := by
  have howner {f : Contract ℕ} (hf : Guarantees (KeepsSound d) f) :
      Guarantees (KeepsSound d) (do require (isOwner = true) .notAuthorized; f) :=
    .bind keepsSound_trans (.require keepsSound_refl _ _) fun _ => hf
  cases command with
  | updatePeer => exact updatePeer_sound _ _ _
  | sweepTokens => exact sweepTokens_sound _ _
  | updateFeeUpdater => exact updateRoleCommand_sound _ _ _
  | updateAssistant => exact updateRoleCommand_sound _ _ _
  | updateFeeRecipient => exact howner (updateRoleCommand_sound _ _ _)
  | upgradeContract => exact howner (upgradeContract_sound _ _)
  | proposeOwnershipTransfer => exact howner (proposeOwnershipTransfer_sound _ _)
  | relinquishOwnership => exact howner (relinquishOwnership_sound _ _)

/-- The loop, by induction on its rounds. -/
theorem commandLoop_sound (isOwner : Bool) (commands : Bytes) (fuel offset : ℕ) :
    Guarantees (KeepsSound d) (commandLoop d x msg isOwner commands fuel offset) := by
  induction fuel generalizing offset with
  | zero => exact .fail _
  | succ fuel ih =>
    unfold commandLoop
    split
    · refine .bind keepsSound_trans (.lift keepsSound_refl _) fun command => ?_
      exact .bind keepsSound_trans (runCommand_sound _ _ _ _) fun next => ih next
    · exact .lift keepsSound_refl _

theorem privilege_sound : Guarantees (KeepsSound d) (privilege d x msg) := by
  unfold privilege
  refine .bind keepsSound_trans (keepsSound_of_storage getStorage_storage) fun storage => ?_
  split
  · exact .pure keepsSound_refl _
  split
  · exact .pure keepsSound_refl _
  split
  · exact .bind keepsSound_trans (updateRole_sound _ _) fun _ => .pure keepsSound_refl _
  · exact .fail _

theorem batchGovernanceCommands_sound (commands : Bytes) :
    Guarantees (KeepsSound d) (batchGovernanceCommands d x msg commands) :=
  .bind keepsSound_trans privilege_sound fun _ => commandLoop_sound _ _ _ _

/-! ### Batched fee updates -/

theorem batchFeeUpdates_sound (updates : Bytes) :
    Guarantees (KeepsSound d) (batchFeeUpdates d msg updates) := by
  intro w u w' h hs
  obtain ⟨us, -, -, hstorage⟩ := applyBatchFeeUpdates_ok (batchFeeUpdates_ok.1 h).2
  rw [hstorage]
  exact { hs with feeParams := storeAll_bounded us hs.feeParams }

/-! ### The constructor -/

theorem registrationLoop_sound (args : Bytes) (fuel offset : ℕ) :
    Guarantees (KeepsSound d) (registrationLoop d args fuel offset) := by
  induction fuel generalizing offset with
  | zero => exact .fail _
  | succ fuel ih =>
    intro w u w' h
    unfold registrationLoop at h
    split at h
    · obtain ⟨_, w₁, hreq, h₁⟩ := bind_ok.1 h
      obtain ⟨-, rfl⟩ := require_ok.1 hreq
      obtain ⟨_, w₂, hpeer, h₂⟩ := bind_ok.1 h₁
      obtain ⟨params, w₃, hlift, h₃⟩ := bind_ok.1 h₂
      obtain ⟨hparams, rfl⟩ := lift_ok.1 hlift
      obtain ⟨_, w₄, hset, hloop⟩ := bind_ok.1 h₃
      intro hs
      have hs₂ := setPeer_sound _ _ _ _ _ hpeer hs
      exact ih _ _ _ _ hloop
        (setFeeParams_sound _ (FeeParams.checkedWrap_ok.1 hparams).2 _ _ _ hset hs₂)
    · obtain ⟨-, rfl⟩ := lift_ok.1 h
      exact id

theorem maxApprove_storage (token spender : Address) :
    Guarantees StorageUnchanged (maxApprove x token spender) :=
  storageUnchanged_of_same (approve_sameStorage _)

theorem uniswapMaxApprove_storage (token : Address) :
    Guarantees StorageUnchanged (uniswapMaxApprove d x token) :=
  fun w u w' h => (uniswapMaxApprove_sameFunds _ w u w' h).storage

theorem traderJoeMaxApprove_storage (token : Address) :
    Guarantees StorageUnchanged (traderJoeMaxApprove d x token) := by
  unfold traderJoeMaxApprove
  split
  · exact .pure storageUnchanged_refl _
  · exact maxApprove_storage _ _

/-- **The constructor establishes the invariant.** -/
theorem proxyConstructor_sound {args : Bytes} {implementation : Address} {u : Unit}
    (hblank : w.storage = blankStorage implementation)
    (h : proxyConstructor d x args w = .ok (u, w')) : Sound d w'.storage := by
  obtain ⟨_, w₁, hgovernance, h₁⟩ := bind_ok.1 h
  obtain ⟨_, w₂, hreq, hmodify⟩ := bind_ok.1 hgovernance
  obtain ⟨hrecipient, rfl⟩ := require_ok.1 hreq
  cases hmodify
  obtain ⟨_, w₃, hloop, h₂⟩ := bind_ok.1 h₁
  have hs : Sound d w₃.storage := by
    refine registrationLoop_sound _ _ _ _ _ _ hloop ?_
    rw [World.withStorage, hblank]
    exact ⟨fun _ => FeeParams.bounded_zero, rfl, rfl, hrecipient⟩
  have happrove : Guarantees StorageUnchanged (do
      maxApprove x d.usdc d.liquidityLayer
      uniswapMaxApprove d x d.usdc
      uniswapMaxApprove d x d.wnative
      traderJoeMaxApprove d x d.usdc
      traderJoeMaxApprove d x d.wnative) :=
    .bind storageUnchanged_trans (maxApprove_storage _ _) fun _ =>
      .bind storageUnchanged_trans (uniswapMaxApprove_storage _) fun _ =>
      .bind storageUnchanged_trans (uniswapMaxApprove_storage _) fun _ =>
      .bind storageUnchanged_trans (traderJoeMaxApprove_storage _) fun _ =>
      traderJoeMaxApprove_storage _
  exact keepsSound_of_storage happrove _ _ _ h₂ hs

/-! ## Reachable states -/

/-- **One call** keeps the invariant. -/
theorem execute_sound {t : Transaction d} (h : execute t w = .ok w') (hs : Sound d w.storage) :
    Sound d w'.storage := by
  rcases execute_cases h with ⟨commands, hbatch⟩ | ⟨updates, hbatch⟩ | hstorage
  · exact batchGovernanceCommands_sound _ _ _ _ hbatch hs
  · exact batchFeeUpdates_sound _ _ _ _ hbatch hs
  · rw [hstorage]
    exact hs

/-- **The invariant of deployed swap layers.** In every reachable state, the percentages of every
chain's fee parameters have a mantissa of at most `1e4`, chain zero and the own chain have no peer, and
there is a fee recipient. -/
theorem reachable_sound (hw : Reachable d w) : Sound d w.storage := by
  induction hw with
  | constructed hblank h => exact proxyConstructor_sound hblank h
  | called hw h ih => exact execute_sound h ih

end Keeps

namespace Sample

/-- Owner, assistant, fee updater and fee recipient, and one peer with a margin of 1000 %. -/
def constructorArgs : Bytes :=
  (address 1).toList ++ (address 2).toList ++ (address 3).toList ++ (address 4).toList ++
    toBE 2 6 ++ (toUniversalAddress (address 0x9ee4)).toList ++ toBE 32 (40000 <<< 64)

def blankWorld : World := ⟨fun _ => 0, blankStorage (address 5), []⟩

theorem constructed : ∃ w, proxyConstructor deployment (externals 0 0) constructorArgs blankWorld =
      .ok ((), w) ∧ w.storage.governance = ⟨address 1, zeroAddress, address 2, address 3, address 4⟩ ∧
      (FeeParams.gasPriceMargin (w.storage.feeParams 6)) >>> EXPONENT_BITS = 10000 := by
  have hrun : ((proxyConstructor deployment (externals 0 0) constructorArgs blankWorld).toOption.map
      fun r => (r.2.storage.governance,
        (FeeParams.gasPriceMargin (r.2.storage.feeParams 6)) >>> EXPONENT_BITS)) =
      some (⟨address 1, zeroAddress, address 2, address 3, address 4⟩, 10000) := by decide +kernel
  obtain ⟨⟨u, w⟩, hok, hpair⟩ := Option.map_eq_some_iff.1 hrun
  exact ⟨w, toOption_eq_some.1 hok, congrArg Prod.fst hpair, congrArg Prod.snd hpair⟩

/-- The largest margin is stored, and the invariant holds. -/
theorem constructed_sound : ∃ w, Reachable deployment w ∧
    (FeeParams.gasPriceMargin (w.storage.feeParams 6)) >>> EXPONENT_BITS = 10000 ∧
    Sound deployment w.storage := by
  obtain ⟨w, hok, -, hmargin⟩ := constructed
  have hw : Reachable deployment w := .constructed (show blankWorld.storage = _ from rfl) hok
  exact ⟨w, hw, hmargin, reachable_sound hw⟩

end Sample

end SwapLayer.Evm
