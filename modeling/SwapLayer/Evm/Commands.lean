import SwapLayer.Lib.Reader
import SwapLayer.Evm.Governance

/-!
# What a batch of governance commands does

A batch is a byte string without delimiters. `Command` is a command with its parameters, `encode` its
bytes, and `perform` what the contract does about it once it is parsed. The two commands that must come
last compare the length of the batch with the offset behind them.

Results:
* `commandLoop_encoded`: on an encoded list whose last command only may be one of these two, the loop
  performs the commands one after the other.
* `performAll_ok`: what that leaves in the storage.
* `batchGovernanceCommands_encode`: both for the owner, and a batch is as good as a call for each command.
-/

namespace SwapLayer.Evm

open ByteString Program

/-- A governance command with its parameters; the fee parameters are the word that is sent. -/
inductive Command
  | updatePeer (peerChain : Uint 2) (newPeer : Bytes32) (feeParams : Uint 32)
  | sweepTokens (token : Address)
  | updateFeeUpdater (newFeeUpdater : Address)
  | updateAssistant (newAssistant : Address)
  | updateFeeRecipient (newFeeRecipient : Address)
  | upgradeContract (newImplementation : Address)
  | proposeOwnershipTransfer (newOwner : Address)
  | relinquishOwnership

/-- The number of a command, the inverse of `GovernanceCommand(command_)`. -/
def GovernanceCommand.toUint8 : GovernanceCommand → ℕ
  | updatePeer => 0
  | sweepTokens => 1
  | updateFeeUpdater => 2
  | updateAssistant => 3
  | updateFeeRecipient => 4
  | upgradeContract => 5
  | proposeOwnershipTransfer => 6
  | relinquishOwnership => 7

theorem GovernanceCommand.toUint8_lt (c : GovernanceCommand) : c.toUint8 < 256 ^ 1 := by
  cases c <;> decide

theorem GovernanceCommand.ofUint8_toUint8 (c : GovernanceCommand) : ofUint8 c.toUint8 = .ok c := by
  cases c <;> rfl

namespace Command

def kind : Command → GovernanceCommand
  | updatePeer .. => .updatePeer
  | sweepTokens _ => .sweepTokens
  | updateFeeUpdater _ => .updateFeeUpdater
  | updateAssistant _ => .updateAssistant
  | updateFeeRecipient _ => .updateFeeRecipient
  | upgradeContract _ => .upgradeContract
  | proposeOwnershipTransfer _ => .proposeOwnershipTransfer
  | relinquishOwnership => .relinquishOwnership

/-- The bytes of the parameters. -/
def params : Command → Bytes
  | updatePeer peerChain newPeer feeParams =>
    writeUint peerChain ++ (newPeer.toList ++ writeUint feeParams)
  | sweepTokens a | updateFeeUpdater a | updateAssistant a | updateFeeRecipient a
  | upgradeContract a | proposeOwnershipTransfer a => a.toList
  | relinquishOwnership => []

def encode (c : Command) : Bytes := toBE 1 c.kind.toUint8 ++ c.params

/-- The command must be the last of its batch. -/
def EndsBatch : Command → Prop
  | upgradeContract _ | relinquishOwnership => True
  | _ => False

/-- The fee parameters that come with a peer; without a peer there are none. -/
def peerFeeParams (newPeer : Bytes32) (feeParams : ℕ) : Except Revert FeeParams :=
  if newPeer = zeroBytes32 then .ok 0 else FeeParams.checkedWrap feeParams

section Definitions

variable (d : Deployment) (x : Externals) (msg : Msg d) (isOwner : Bool)

/-- What the contract does about a command. -/
def perform : Command → Contract Unit
  | updatePeer peerChain newPeer feeParams => do
    registerPeer d isOwner peerChain newPeer
    let feeParams ← lift (peerFeeParams newPeer feeParams)
    setFeeParams peerChain feeParams
  | sweepTokens token => sweep d x msg token
  | updateFeeUpdater newFeeUpdater => updateRole x .feeUpdater newFeeUpdater
  | updateAssistant newAssistant => updateRole x .assistant newAssistant
  | updateFeeRecipient newFeeRecipient => do
    require (isOwner = true) .notAuthorized
    updateRole x .feeRecipient newFeeRecipient
  | upgradeContract newImplementation => do
    require (isOwner = true) .notAuthorized
    require (x.upgrade newImplementation = true) (.external .proxy)
    fun w => .ok ((), w.withStorage { w.storage with implementation := newImplementation })
  | proposeOwnershipTransfer newOwner => do
    require (isOwner = true) .notAuthorized
    modifyGovernance fun g => { g with pendingOwner := newOwner }
  | relinquishOwnership => do
    require (isOwner = true) .notAuthorized
    updateRole x .owner zeroAddress

/-- The commands of a list, one after the other. -/
def performAll : List Command → Contract Unit
  | [] => pure ()
  | c :: cs => do
    perform d x msg isOwner c
    performAll cs

end Definitions

/-- What a command leaves in the storage. -/
def applied (s : Storage) : Command → Storage
  | updatePeer peerChain newPeer feeParams =>
    { s with
      peers := Function.update s.peers peerChain newPeer
      feeParams := Function.update s.feeParams peerChain
        (if newPeer = zeroBytes32 then 0 else BitVec.ofNat 256 feeParams) }
  | sweepTokens _ => s
  | updateFeeUpdater a => { s with governance := { s.governance with feeUpdater := a } }
  | updateAssistant a => { s with governance := { s.governance with assistant := a } }
  | updateFeeRecipient a => { s with governance := { s.governance with feeRecipient := a } }
  | upgradeContract a => { s with implementation := a }
  | proposeOwnershipTransfer a => { s with governance := { s.governance with pendingOwner := a } }
  | relinquishOwnership =>
    { s with governance := { s.governance with owner := zeroAddress, pendingOwner := zeroAddress } }

end Command

/-! ## Parsing -/

section Parsing

open Command

variable {d : Deployment} {x : Externals} {msg : Msg d} {isOwner : Bool} {commands : Bytes}
  {offset : ℕ}

/-- **A command is read with its parameters and performed.** -/
theorem runCommand_encoded {c : Command} (h : Holds commands offset c.params)
    (hend : c.EndsBatch → commands.length = offset + c.params.length) :
    runCommand d x msg isOwner c.kind commands offset =
      (perform d x msg isOwner c >>= fun _ => pure (offset + c.params.length)) := by
  have haddress {a : Address} (ha : c.params = a.toList) :
      asAddressUnchecked commands offset = (a, offset + c.params.length) := by
    rw [ha] at h ⊢
    show (sliceFixed 20 commands offset, offset + 20) = _
    rw [h.sliceFixed, a.toList_length]
  have hlast (hc : c.EndsBatch) : checkLength commands (offset + c.params.length) = .ok () :=
    ensure_pos (hend hc)
  cases c with
  | updatePeer peerChain newPeer feeParams =>
    have hchain : readBE 2 commands offset = peerChain := h.left.readBE peerChain.isLt
    have h₁ : Holds commands (offset + 2) (newPeer.toList ++ writeUint feeParams) :=
      h.rest (length_toBE ..)
    have hpeer : sliceFixed 32 commands (offset + 2) = newPeer := h₁.left.sliceFixed
    have hparams : readBE 32 commands (offset + 2 + 32) = feeParams :=
      (h₁.rest newPeer.toList_length).readBE feeParams.isLt
    have hlength : offset + (Command.updatePeer peerChain newPeer feeParams).params.length =
        offset + 2 + 32 + 32 := by
      simp only [params, writeUint, List.length_append, length_toBE, newPeer.toList_length]
    simp only [hlength, perform, bind_assoc]
    show (registerPeer d isOwner (readBE 2 commands offset) (sliceFixed 32 commands (offset + 2)) >>=
      fun _ => lift (peerFeeParams (sliceFixed 32 commands (offset + 2))
        (readBE 32 commands (offset + 2 + 32))) >>= fun p =>
          setFeeParams (readBE 2 commands offset) p >>= fun _ => pure (offset + 2 + 32 + 32)) = _
    rw [hchain, hpeer, hparams]
  | sweepTokens a =>
    show sweepTokens d x msg commands offset = _
    rw [Evm.sweepTokens, haddress rfl]
    rfl
  | updateFeeUpdater a =>
    show updateRoleCommand x .feeUpdater commands offset = _
    rw [updateRoleCommand, haddress rfl]
    rfl
  | updateAssistant a =>
    show updateRoleCommand x .assistant commands offset = _
    rw [updateRoleCommand, haddress rfl]
    rfl
  | updateFeeRecipient a =>
    show (require (isOwner = true) .notAuthorized >>= fun _ =>
      updateRoleCommand x .feeRecipient commands offset) = _
    rw [updateRoleCommand, haddress rfl, perform, bind_assoc]
  | upgradeContract a =>
    show (require (isOwner = true) .notAuthorized >>= fun _ => upgradeContract x commands offset) = _
    rw [Evm.upgradeContract, haddress rfl, perform, bind_assoc]
    simp only [hlast trivial, lift_ok_bind, bind_assoc]
    rfl
  | proposeOwnershipTransfer a =>
    show (require (isOwner = true) .notAuthorized >>= fun _ =>
      proposeOwnershipTransfer commands offset) = _
    rw [Evm.proposeOwnershipTransfer, haddress rfl, perform, bind_assoc]
  | relinquishOwnership =>
    show (require (isOwner = true) .notAuthorized >>= fun _ =>
      relinquishOwnership x commands offset) = _
    have hcheck : checkLength commands offset = .ok () := hlast trivial
    rw [Evm.relinquishOwnership, perform, bind_assoc, hcheck]
    rfl

/-- **The loop performs an encoded list**, if only the last command may be one that must be last. The
induction is on the list; the fuel exceeds what is left of the string. -/
theorem commandLoop_encoded (cs : List Command) (hlast : ∀ c ∈ cs.dropLast, ¬c.EndsBatch) {fuel : ℕ}
    (hfuel : commands.length < offset + fuel) (hends : Ends commands offset (cs.flatMap encode)) :
    commandLoop d x msg isOwner commands fuel offset = performAll d x msg isOwner cs := by
  have hle := hends.1
  obtain ⟨fuel, rfl⟩ : ∃ n, fuel = n + 1 := ⟨fuel - 1, by omega⟩
  induction cs generalizing fuel offset with
  | nil =>
    have hend : offset = commands.length := ends_nil.1 hends
    rw [commandLoop, if_neg (by omega), checkLength, ensure_pos hend.symm]
    rfl
  | cons c cs ih =>
    rw [List.flatMap_cons, encode, List.append_assoc] at hends
    have hlt : offset < commands.length := hends.lt_iff.2 (by simp [toBE])
    have hkind : readBE 1 commands offset = c.kind.toUint8 := hends.head.readBE c.kind.toUint8_lt
    have hparams : Ends commands (offset + 1) (c.params ++ cs.flatMap encode) :=
      hends.rest (length_toBE ..)
    have hrest : Ends commands (offset + 1 + c.params.length) (cs.flatMap encode) :=
      hparams.rest rfl
    have hend : c.EndsBatch → commands.length = offset + 1 + c.params.length := by
      intro hc
      cases cs with
      | nil => exact (ends_nil.1 hrest).symm
      | cons c' cs => exact absurd hc (hlast c (by simp))
    have hlast' : ∀ c ∈ cs.dropLast, ¬c.EndsBatch := by
      intro c' hc'
      cases cs with
      | nil => cases hc'
      | cons c'' cs => exact hlast c' (List.mem_cons_of_mem _ hc')
    have hround : commandLoop d x msg isOwner commands (fuel + 1) offset =
        (lift (GovernanceCommand.ofUint8 (readBE 1 commands offset)) >>= fun command =>
          runCommand d x msg isOwner command commands (offset + 1) >>= fun offset =>
            commandLoop d x msg isOwner commands fuel offset) := by
      rw [commandLoop, if_pos hlt]
      rfl
    have hnext := hrest.1
    obtain ⟨fuel, rfl⟩ : ∃ n, fuel = n + 1 := ⟨fuel - 1, by omega⟩
    rw [hround, hkind, GovernanceCommand.ofUint8_toUint8, lift_ok_bind,
      runCommand_encoded hparams.head hend, bind_assoc, performAll]
    simp only [pure_bind]
    rw [ih hlast' hrest hnext fuel (by omega)]

end Parsing

/-! ## What commands leave in the storage -/

section Storage

open Command

variable {d : Deployment} {x : Externals} {msg : Msg d} {isOwner : Bool} {w w' : World}

/-- **One command**, if it is not rejected. -/
theorem perform_ok {c : Command} {u : Unit} (h : perform d x msg isOwner c w = .ok (u, w')) :
    w'.storage = c.applied w.storage := by
  cases c with
  | updatePeer peerChain newPeer feeParams =>
    obtain ⟨_, w₁, hregister, h₁⟩ := bind_ok.1 h
    obtain ⟨p, w₂, hlift, hset⟩ := bind_ok.1 h₁
    obtain ⟨hparams, rfl⟩ := lift_ok.1 hlift
    have hp : p = if newPeer = zeroBytes32 then 0 else BitVec.ofNat 256 feeParams := by
      unfold peerFeeParams at hparams
      split at hparams
      · rename_i hzero
        rw [if_pos hzero]
        exact (Except.ok.inj hparams).symm
      · rename_i hne
        rw [if_neg hne]
        exact (FeeParams.checkedWrap_ok.1 hparams).1
    cases hset
    rw [World.record_storage, World.withStorage_storage, (registerPeer_ok hregister).1, hp]
    rfl
  | sweepTokens token => exact sweep_ok h
  | updateFeeUpdater newFeeUpdater => exact updateRole_ok h
  | updateAssistant newAssistant => exact updateRole_ok h
  | updateFeeRecipient newFeeRecipient =>
    obtain ⟨_, w₁, hreq, hupdate⟩ := bind_ok.1 h
    obtain ⟨-, rfl⟩ := require_ok.1 hreq
    exact updateRole_ok hupdate
  | upgradeContract newImplementation =>
    obtain ⟨_, w₁, hreq, h₁⟩ := bind_ok.1 h
    obtain ⟨-, rfl⟩ := require_ok.1 hreq
    obtain ⟨_, w₂, hreq, h₂⟩ := bind_ok.1 h₁
    obtain ⟨-, rfl⟩ := require_ok.1 hreq
    cases h₂
    rfl
  | proposeOwnershipTransfer newOwner =>
    obtain ⟨_, w₁, hreq, hmodify⟩ := bind_ok.1 h
    obtain ⟨-, rfl⟩ := require_ok.1 hreq
    cases hmodify
    rfl
  | relinquishOwnership =>
    obtain ⟨_, w₁, hreq, hupdate⟩ := bind_ok.1 h
    obtain ⟨-, rfl⟩ := require_ok.1 hreq
    exact updateRole_ok hupdate

/-- **A list of commands.** -/
theorem performAll_ok {cs : List Command} {u : Unit} (h : performAll d x msg isOwner cs w = .ok (u, w')) :
    w'.storage = cs.foldl applied w.storage := by
  induction cs generalizing w with
  | nil =>
    obtain ⟨-, rfl⟩ := pure_ok.1 h
    rfl
  | cons c cs ih =>
    obtain ⟨_, w₁, hperform, hrest⟩ := bind_ok.1 h
    rw [ih hrest, perform_ok hperform, List.foldl_cons]

/-- Only relinquishing takes the ownership away. -/
theorem owner_applied {c : Command} (hc : ¬c.EndsBatch) (s : Storage) :
    (c.applied s).governance.owner = s.governance.owner := by
  cases c with
  | relinquishOwnership => exact absurd trivial hc
  | upgradeContract => exact absurd trivial hc
  | updatePeer | sweepTokens | updateFeeUpdater | updateAssistant | updateFeeRecipient
  | proposeOwnershipTransfer => rfl

end Storage

/-! ## Batches of the owner -/

section Owner

open Command

variable {d : Deployment} {x : Externals} {msg : Msg d} {w : World}

/-- **The owner's batch performs its commands.** -/
theorem batchGovernanceCommands_encode (howner : msg.sender = w.storage.governance.owner)
    (cs : List Command) (hlast : ∀ c ∈ cs.dropLast, ¬c.EndsBatch) :
    batchGovernanceCommands d x msg (cs.flatMap encode) w = performAll d x msg true cs w := by
  have hprivilege : privilege d x msg w = .ok (true, w) := by
    show (if msg.sender = w.storage.governance.owner then (pure true : Contract Bool) else _) w = _
    rw [if_pos howner]
    rfl
  rw [batchGovernanceCommands, bind_apply, hprivilege, except_ok_bind,
    commandLoop_encoded cs hlast (by omega) (ends_self _)]

/-- The commands of a list, each in a call of its own. -/
def callAll (d : Deployment) (x : Externals) (msg : Msg d) : List Command → Contract Unit
  | [] => pure ()
  | c :: cs => do
    batchGovernanceCommands d x msg c.encode
    callAll d x msg cs

/-- **A batch is as good as a call for each command.** The induction is on the list; only the last
command may take the ownership away. -/
theorem callAll_eq (howner : msg.sender = w.storage.governance.owner) {cs : List Command}
    (hlast : ∀ c ∈ cs.dropLast, ¬c.EndsBatch) :
    callAll d x msg cs w = performAll d x msg true cs w := by
  induction cs generalizing w with
  | nil => rfl
  | cons c cs ih =>
    have hcall : batchGovernanceCommands d x msg c.encode w = perform d x msg true c w := by
      have hsingle := batchGovernanceCommands_encode (x := x) howner [c] nofun
      rw [List.flatMap_cons, List.flatMap_nil, List.append_nil] at hsingle
      rw [hsingle, performAll, performAll]
      exact congrFun (bind_pure (perform d x msg true c)) w
    rw [callAll, performAll, bind_apply, bind_apply, hcall]
    cases hperform : perform d x msg true c w with
    | error e => rfl
    | ok r =>
      rw [except_ok_bind, except_ok_bind]
      cases cs with
      | nil => rfl
      | cons c' cs =>
        refine ih ?_ fun c'' hc'' => hlast c'' (List.mem_cons_of_mem _ hc'')
        rw [howner, perform_ok (u := r.1) hperform, owner_applied (hlast c (by simp))]

end Owner

end SwapLayer.Evm
