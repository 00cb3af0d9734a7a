import SwapLayer.Evm.FeeUpdates

/-!
# Governance

Model of `evm/src/assets/SwapLayerGovernance.sol` and `_setPeer` (`SwapLayerBase.sol:92-97`).

`batchGovernanceCommands` decides the privilege of its caller once and then runs through a byte
string of commands. Each round of the loop reads at least the command byte, so the length of the
string bounds the number of rounds. `_upgradeTo` belongs to the proxy of the wormhole SDK: it sets
the implementation and lets the new one check the upgrade, which may fail (`Externals.upgrade`).

`PrivilegedUnchanged` is what only the owner and the pending owner can change: the owner, the
pending owner, the fee recipient, the implementation and every peer that is registered.

Results:
* `runCommand_keeps`: without the owner's privilege, no command changes what is privileged.
* `batchGovernanceCommands_keeps`: neither does a batch whose caller is not the owner or pending
  owner.
* `relinquishOwnership_ok`: after the owner has relinquished, there is none.
-/

namespace SwapLayer.Evm

open ByteString Program Ledger

inductive GovernanceCommand
  | updatePeer
  | sweepTokens
  | updateFeeUpdater
  | updateAssistant
  | updateFeeRecipient
  | upgradeContract
  | proposeOwnershipTransfer
  | relinquishOwnership
  deriving DecidableEq

/-- `GovernanceCommand(command_)`. -/
def GovernanceCommand.ofUint8 : ℕ → Except Revert GovernanceCommand
  | 0 => .ok .updatePeer
  | 1 => .ok .sweepTokens
  | 2 => .ok .updateFeeUpdater
  | 3 => .ok .updateAssistant
  | 4 => .ok .updateFeeRecipient
  | 5 => .ok .upgradeContract
  | 6 => .ok .proposeOwnershipTransfer
  | 7 => .ok .relinquishOwnership
  | _ => .error (.panic PANIC_ENUM)

section Definitions

variable (d : Deployment) (x : Externals) (msg : Msg d)

/-- Change the roles. -/
def modifyGovernance (f : GovernanceState → GovernanceState) : Contract Unit := fun w =>
  .ok ((), w.withStorage { w.storage with governance := f w.storage.governance })

/-- The address that has a role. -/
def GovernanceState.get (g : GovernanceState) : Role → Address
  | .owner => g.owner
  | .assistant => g.assistant
  | .feeUpdater => g.feeUpdater
  | .feeRecipient => g.feeRecipient

/-- Hand a role over; a change of the owner settles a pending one. -/
def GovernanceState.set (g : GovernanceState) (role : Role) (newAddress : Address) :
    GovernanceState :=
  match role with
  | .owner => { g with owner := newAddress, pendingOwner := zeroAddress }
  | .assistant => { g with assistant := newAddress }
  | .feeUpdater => { g with feeUpdater := newAddress }
  | .feeRecipient => { g with feeRecipient := newAddress }

/-- `_updateRole`. -/
def updateRole (role : Role) (newAddress : Address) : Contract Unit := do
  require (¬(role = .feeRecipient ∧ newAddress = zeroAddress)) .invalidFeeRecipient
  let storage ← getStorage
  modifyGovernance fun g => g.set role newAddress
  emit (.roleUpdated role (storage.governance.get role) newAddress x.blockTimestamp)

/-- `_setPeer`. -/
def setPeer (peerChain : ℕ) (peer : Bytes32) : Contract Unit := do
  require (¬(peerChain = 0 ∨ peerChain = d.chainId)) .invalidChainId
  fun w => .ok ((), w.withStorage { w.storage with
    peers := Function.update w.storage.peers peerChain peer })

/-- The registration part of `UpdatePeer`: only the owner may change one that exists. -/
def registerPeer (isOwner : Bool) (peerChain : ℕ) (newPeer : Bytes32) : Contract Unit := do
  let storage ← getStorage
  let curPeer := storage.peers peerChain
  if newPeer ≠ curPeer then do
    require (¬(curPeer ≠ zeroBytes32 ∧ isOwner = false)) .notAuthorized
    setPeer d peerChain newPeer
  else pure ()

/-- `UpdatePeer`: a peer and the fee parameters of its chain. -/
def updatePeer (isOwner : Bool) (commands : Bytes) (offset : ℕ) : Contract ℕ := do
  let (peerChain, offset) := asUint16Unchecked commands offset
  let (newPeer, offset) := asBytes32Unchecked commands offset
  registerPeer d isOwner peerChain newPeer
  let (feeParams_, offset) := asUint256Unchecked commands offset
  let feeParams ← lift (if newPeer = zeroBytes32 then .ok 0 else FeeParams.checkedWrap feeParams_)
  setFeeParams peerChain feeParams
  return offset

/-- Everything the contract holds of one asset goes to the caller. -/
def sweep (token : Address) : Contract Unit :=
  if token = zeroAddress then do
    let balance ← balanceOf x .eth
    transferEth d x msg.sender balance
  else do
    let balance ← balanceOf x (.erc20 token)
    safeTransfer d x token msg.sender balance

/-- `SweepTokens`. -/
def sweepTokens (commands : Bytes) (offset : ℕ) : Contract ℕ := do
  let (token, offset) := asAddressUnchecked commands offset
  sweep d x msg token
  return offset

/-- The commands that hand over a role, and the offset behind. -/
def updateRoleCommand (role : Role) (commands : Bytes) (offset : ℕ) : Contract ℕ := do
  let (newAddress, offset) := asAddressUnchecked commands offset
  updateRole x role newAddress
  return offset

/-- `UpgradeContract`, which must come last. -/
def upgradeContract (commands : Bytes) (offset : ℕ) : Contract ℕ := do
  let (newImplementation, offset) := asAddressUnchecked commands offset
  lift (checkLength commands offset)
  require (x.upgrade newImplementation = true) (.external .proxy)
  fun w => .ok (offset, w.withStorage { w.storage with implementation := newImplementation })

/-- `ProposeOwnershipTransfer`. -/
def proposeOwnershipTransfer (commands : Bytes) (offset : ℕ) : Contract ℕ := do
  let (newOwner, offset) := asAddressUnchecked commands offset
  modifyGovernance fun g => { g with pendingOwner := newOwner }
  return offset

/-- `RelinquishOwnership`, which must come last. -/
def relinquishOwnership (commands : Bytes) (offset : ℕ) : Contract ℕ := do
  updateRole x .owner zeroAddress
  lift (checkLength commands offset)
  return offset

/-- One command; its parameters start at `offset`, and the result is the offset behind them. -/
def runCommand (isOwner : Bool) (command : GovernanceCommand) (commands : Bytes) (offset : ℕ) :
    Contract ℕ :=
  match command with
  | .updatePeer => updatePeer d isOwner commands offset
  | .sweepTokens => sweepTokens d x msg commands offset
  | .updateFeeUpdater => updateRoleCommand x .feeUpdater commands offset
  | .updateAssistant => updateRoleCommand x .assistant commands offset
  | .updateFeeRecipient => do
    require (isOwner = true) .notAuthorized
    updateRoleCommand x .feeRecipient commands offset
  | .upgradeContract => do
    require (isOwner = true) .notAuthorized
    upgradeContract x commands offset
  | .proposeOwnershipTransfer => do
    require (isOwner = true) .notAuthorized
    proposeOwnershipTransfer commands offset
  | .relinquishOwnership => do
    require (isOwner = true) .notAuthorized
    relinquishOwnership x commands offset

/-- The loop of `batchGovernanceCommands`, and the check after it. -/
def commandLoop (isOwner : Bool) (commands : Bytes) : ℕ → ℕ → Contract Unit
  | 0, _ => fail .outOfGas
  | fuel + 1, offset =>
    if offset < commands.length then do
      let (command_, offset) := asUint8Unchecked commands offset
      let command ← lift (GovernanceCommand.ofUint8 command_)
      let offset ← runCommand d x msg isOwner command commands offset
      commandLoop isOwner commands fuel offset
    else lift (checkLength commands offset)

/-- The privilege of the caller: the highest first, and a pending owner becomes the owner. -/
def privilege : Contract Bool := do
  let storage ← getStorage
  if msg.sender = storage.governance.owner then pure true
  else if msg.sender = storage.governance.assistant then pure false
  else if msg.sender = storage.governance.pendingOwner then do
    updateRole x .owner msg.sender
    pure true
  else fail .notAuthorized

/-- `batchGovernanceCommands`. -/
def batchGovernanceCommands (commands : Bytes) : Contract Unit := do
  let isOwner ← privilege d x msg
  commandLoop d x msg isOwner commands (commands.length + 1) 0

/-- `batchFeeUpdates`. -/
def batchFeeUpdates (updates : Bytes) : Contract Unit := do
  let storage ← getStorage
  require (¬(msg.sender ≠ storage.governance.feeUpdater ∧
    msg.sender ≠ storage.governance.assistant ∧ msg.sender ≠ storage.governance.owner))
    .notAuthorized
  applyBatchFeeUpdates updates

end Definitions

/-! ## What is privileged -/

/-- What only the owner and the pending owner can change. -/
structure PrivilegedUnchanged (w w' : World) : Prop where
  owner : w'.storage.governance.owner = w.storage.governance.owner
  pendingOwner : w'.storage.governance.pendingOwner = w.storage.governance.pendingOwner
  feeRecipient : w'.storage.governance.feeRecipient = w.storage.governance.feeRecipient
  implementation : w'.storage.implementation = w.storage.implementation
  peers : ∀ chain, w.storage.peers chain ≠ zeroBytes32 →
    w'.storage.peers chain = w.storage.peers chain

namespace PrivilegedUnchanged

theorem refl (w : World) : PrivilegedUnchanged w w := ⟨rfl, rfl, rfl, rfl, fun _ _ => rfl⟩

theorem trans (w₁ w₂ w₃ : World) (h₁ : PrivilegedUnchanged w₁ w₂)
    (h₂ : PrivilegedUnchanged w₂ w₃) : PrivilegedUnchanged w₁ w₃ := by
  refine ⟨h₂.owner.trans h₁.owner, h₂.pendingOwner.trans h₁.pendingOwner,
    h₂.feeRecipient.trans h₁.feeRecipient, h₂.implementation.trans h₁.implementation,
    fun chain hne => ?_⟩
  have hkept := h₁.peers chain hne
  rw [← hkept] at hne ⊢
  exact h₂.peers chain hne

theorem of_storage_eq {w w' : World} (h : w'.storage = w.storage) : PrivilegedUnchanged w w' := by
  refine ⟨?_, ?_, ?_, ?_, fun chain _ => ?_⟩ <;> rw [h]

theorem of_feeParams {w w' : World}
    (h : w'.storage = { w.storage with feeParams := w'.storage.feeParams }) :
    PrivilegedUnchanged w w' := by
  refine ⟨?_, ?_, ?_, ?_, fun chain _ => ?_⟩ <;> rw [h]

end PrivilegedUnchanged

/-! ## The commands -/

section Specs

variable {d : Deployment} {x : Externals} {msg : Msg d} {w w' : World}

/-- **What handing over a role does** to the storage. -/
theorem updateRole_ok {role : Role} {newAddress : Address} {u : Unit}
    (h : updateRole x role newAddress w = .ok (u, w')) :
    w'.storage = { w.storage with governance := w.storage.governance.set role newAddress } := by
  obtain ⟨_, w₁, hreq, h₁⟩ := bind_ok.1 h
  obtain ⟨-, rfl⟩ := require_ok.1 hreq
  obtain ⟨_, w₂, hget, h₂⟩ := bind_ok.1 h₁
  cases hget
  obtain ⟨_, w₃, hmodify, hemit⟩ := bind_ok.1 h₂
  cases hmodify
  cases hemit
  rfl

/-- The assistant and the fee updater are not privileged. -/
theorem updateRoleCommand_keeps {role : Role} (hrole : role = .assistant ∨ role = .feeUpdater)
    (commands : Bytes) (offset : ℕ) :
    Guarantees PrivilegedUnchanged (updateRoleCommand x role commands offset) := by
  intro w o w' h
  obtain ⟨_, w₁, hupdate, hret⟩ := bind_ok.1 h
  obtain ⟨-, rfl⟩ := pure_ok.1 hret
  have hstorage := updateRole_ok hupdate
  rcases hrole with rfl | rfl <;>
  · refine ⟨?_, ?_, ?_, ?_, fun chain _ => ?_⟩ <;> rw [hstorage] <;> rfl

/-- **What registering a peer does**: the peer is stored. A change is not made for chain zero and the own
chain, and only the owner changes a registration. -/
theorem registerPeer_ok {isOwner : Bool} {peerChain : ℕ} {newPeer : Bytes32} {u : Unit}
    (h : registerPeer d isOwner peerChain newPeer w = .ok (u, w')) :
    w'.storage = { w.storage with peers := Function.update w.storage.peers peerChain newPeer } ∧
      (newPeer ≠ w.storage.peers peerChain →
        ¬(w.storage.peers peerChain ≠ zeroBytes32 ∧ isOwner = false) ∧
          ¬(peerChain = 0 ∨ peerChain = d.chainId)) := by
  obtain ⟨storage, w₁, hget, h₁⟩ := bind_ok.1 h
  cases hget
  split at h₁
  · obtain ⟨_, w₂, hreq, h₂⟩ := bind_ok.1 h₁
    obtain ⟨hallowed, rfl⟩ := require_ok.1 hreq
    obtain ⟨_, w₃, hreq, hset⟩ := bind_ok.1 h₂
    obtain ⟨hchain, rfl⟩ := require_ok.1 hreq
    cases hset
    exact ⟨rfl, fun _ => ⟨hallowed, hchain⟩⟩
  · rename_i hsame
    obtain ⟨-, rfl⟩ := pure_ok.1 h₁
    refine ⟨?_, fun hne => absurd hne hsame⟩
    rw [not_not.1 hsame, Function.update_eq_self]

/-- **Only the owner changes a registration**; anybody who gets here may add one. -/
theorem registerPeer_keeps (peerChain : ℕ) (newPeer : Bytes32) :
    Guarantees PrivilegedUnchanged (registerPeer d false peerChain newPeer) := by
  intro w u w' h
  obtain ⟨hstorage, hchange⟩ := registerPeer_ok h
  refine ⟨?_, ?_, ?_, ?_, fun chain hne => ?_⟩ <;> rw [hstorage]
  show Function.update w.storage.peers peerChain newPeer chain = _
  by_cases hchain : chain = peerChain
  · subst hchain
    rw [Function.update_self]
    by_contra hdiffers
    exact (hchange hdiffers).1 ⟨hne, rfl⟩
  · exact Function.update_of_ne hchain ..

theorem setFeeParams_keeps (chainId : ℕ) (params : FeeParams) :
    Guarantees PrivilegedUnchanged (setFeeParams chainId params) :=
  fun w u w' h => .of_feeParams (setFeeParams_only chainId params w u w' h).2

theorem updatePeer_keeps (commands : Bytes) (offset : ℕ) :
    Guarantees PrivilegedUnchanged (updatePeer d false commands offset) := by
  unfold updatePeer
  refine .bind PrivilegedUnchanged.trans (registerPeer_keeps _ _) fun _ => ?_
  refine .bind PrivilegedUnchanged.trans (.lift PrivilegedUnchanged.refl _) fun _ => ?_
  exact .bind PrivilegedUnchanged.trans (setFeeParams_keeps _ _) fun _ =>
    .pure PrivilegedUnchanged.refl _

/-- Sweeping does not touch the storage. -/
theorem sweep_ok {token : Address} {u : Unit} (h : sweep d x msg token w = .ok (u, w')) :
    w'.storage = w.storage := by
  unfold sweep at h
  split at h <;>
  · obtain ⟨balance, w₁, hread, hsend⟩ := bind_ok.1 h
    obtain ⟨rfl, -⟩ := balanceOf_ok hread
    exact (payOut_sameStorage _ _ _ _ _ hsend).storage

theorem sweep_keeps (token : Address) : Guarantees PrivilegedUnchanged (sweep d x msg token) :=
  fun _ _ _ h => .of_storage_eq (sweep_ok h)

/-- A command that only the owner may give fails for everybody else. -/
theorem ownerOnly_keeps {f : Contract ℕ} :
    Guarantees PrivilegedUnchanged (do require (false = true) .notAuthorized; f) := by
  intro w o w' h
  obtain ⟨_, w₁, hreq, -⟩ := bind_ok.1 h
  obtain ⟨hfalse, -⟩ := require_ok.1 hreq
  cases hfalse

/-- **One command**: without the owner's privilege it changes nothing that is privileged. -/
theorem runCommand_keeps (command : GovernanceCommand) (commands : Bytes) (offset : ℕ) :
    Guarantees PrivilegedUnchanged (runCommand d x msg false command commands offset) := by
  cases command with
  | updatePeer => exact updatePeer_keeps _ _
  | sweepTokens =>
    exact .bind PrivilegedUnchanged.trans (sweep_keeps _) fun _ => .pure PrivilegedUnchanged.refl _
  | updateFeeUpdater => exact updateRoleCommand_keeps (.inr rfl) _ _
  | updateAssistant => exact updateRoleCommand_keeps (.inl rfl) _ _
  | updateFeeRecipient => exact ownerOnly_keeps
  | upgradeContract => exact ownerOnly_keeps
  | proposeOwnershipTransfer => exact ownerOnly_keeps
  | relinquishOwnership => exact ownerOnly_keeps

/-- The loop, by induction on its rounds. -/
theorem commandLoop_keeps (commands : Bytes) (fuel offset : ℕ) :
    Guarantees PrivilegedUnchanged (commandLoop d x msg false commands fuel offset) := by
  induction fuel generalizing offset with
  | zero => exact .fail _
  | succ fuel ih =>
    unfold commandLoop
    split
    · refine .bind PrivilegedUnchanged.trans (.lift PrivilegedUnchanged.refl _) fun command => ?_
      exact .bind PrivilegedUnchanged.trans (runCommand_keeps _ _ _) fun next => ih next
    · exact .lift PrivilegedUnchanged.refl _

/-- Whoever is neither the owner nor the pending owner has no privilege, and nothing changes. -/
theorem privilege_ok {isOwner : Bool} (howner : msg.sender ≠ w.storage.governance.owner)
    (hpending : msg.sender ≠ w.storage.governance.pendingOwner)
    (h : privilege d x msg w = .ok (isOwner, w')) : isOwner = false ∧ w' = w := by
  obtain ⟨storage, w₁, hget, h₁⟩ := bind_ok.1 h
  cases hget
  rw [if_neg howner] at h₁
  split at h₁
  · exact pure_ok.1 h₁
  · exact (fail_ok.1 h₁).elim

/-- **A batch of governance commands** of somebody who is neither the owner nor the pending owner
changes nothing that is privileged. -/
theorem batchGovernanceCommands_keeps {commands : Bytes} {u : Unit}
    (howner : msg.sender ≠ w.storage.governance.owner)
    (hpending : msg.sender ≠ w.storage.governance.pendingOwner)
    (h : batchGovernanceCommands d x msg commands w = .ok (u, w')) : PrivilegedUnchanged w w' := by
  obtain ⟨isOwner, w₁, hprivilege, hloop⟩ := bind_ok.1 h
  obtain ⟨rfl, rfl⟩ := privilege_ok howner hpending hprivilege
  exact commandLoop_keeps commands _ _ _ _ _ hloop

/-- The callers that may update fees. -/
def MayUpdateFees (msg : Msg d) (w : World) : Prop :=
  msg.sender = w.storage.governance.feeUpdater ∨ msg.sender = w.storage.governance.assistant ∨
    msg.sender = w.storage.governance.owner

/-- `batchFeeUpdates` checks its caller and runs the batch. -/
theorem batchFeeUpdates_ok {updates : Bytes} {r : Unit × World} :
    batchFeeUpdates d msg updates w = .ok r ↔
      MayUpdateFees msg w ∧ applyBatchFeeUpdates updates w = .ok r := by
  constructor
  · intro h
    obtain ⟨storage, w₁, hget, h₁⟩ := bind_ok.1 h
    cases hget
    obtain ⟨_, w₂, hreq, hupdates⟩ := bind_ok.1 h₁
    obtain ⟨hmay, rfl⟩ := require_ok.1 hreq
    refine ⟨?_, hupdates⟩
    by_contra hnot
    exact hmay ⟨fun h => hnot (.inl h), fun h => hnot (.inr (.inl h)), fun h => hnot (.inr (.inr h))⟩
  · rintro ⟨hmay, hupdates⟩
    refine bind_ok.2 ⟨w.storage, w, rfl, bind_ok.2 ⟨(), w, require_ok.2 ⟨?_, rfl⟩, hupdates⟩⟩
    rintro ⟨hupdater, hassistant, howner⟩
    exact hmay.elim hupdater fun h => h.elim hassistant howner

/-- **A batch of fee updates** changes nothing that is privileged, whoever sends it. -/
theorem batchFeeUpdates_keeps (updates : Bytes) :
    Guarantees PrivilegedUnchanged (batchFeeUpdates d msg updates) := by
  intro w u w' h
  exact .of_feeParams (applyBatchFeeUpdates_only updates _ _ _ (batchFeeUpdates_ok.1 h).2).2

/-- **After the owner has relinquished** there is neither an owner nor a pending one. -/
theorem relinquishOwnership_ok {commands : Bytes} {offset o : ℕ}
    (h : relinquishOwnership x commands offset w = .ok (o, w')) :
    w'.storage.governance.owner = zeroAddress ∧
      w'.storage.governance.pendingOwner = zeroAddress := by
  obtain ⟨_, w₁, hupdate, h₁⟩ := bind_ok.1 h
  obtain ⟨_, w₂, hlift, hret⟩ := bind_ok.1 h₁
  obtain ⟨-, rfl⟩ := lift_ok.1 hlift
  obtain ⟨-, rfl⟩ := pure_ok.1 hret
  rw [updateRole_ok hupdate]
  exact ⟨rfl, rfl⟩

end Specs

end SwapLayer.Evm
