import SwapLayer.Evm.Construction

/-!
# Taking over ownership

The owner proposes a new owner, who takes over with the first call of `batchGovernanceCommands`. The
role of the caller is looked up in the order owner, assistant, pending owner, and only the last branch
takes over: a proposed owner who already has one of the other two roles never gets there.

Results:
* `privilege_pending`: a proposed owner without another role becomes the owner before the first command.
* `takesOwnership_iff`: exactly such a proposed owner takes over.
* `assistant_not_owner`: an assistant who was proposed remains an assistant.
-/

namespace SwapLayer.Evm

open ByteString Program Ledger

section Ownership

variable {d : Deployment} {x : Externals} {msg : Msg d} {w w' : World}

/-- What is between two states when the caller takes over: the caller is the owner, nobody is proposed,
and nothing else changed. -/
structure TookOver (sender : Address) (w w₁ : World) : Prop where
  owner : w₁.storage.governance.owner = sender
  pendingOwner : w₁.storage.governance.pendingOwner = zeroAddress
  storage : w₁.storage =
    { w.storage with governance := { w.storage.governance with
        owner := sender
        pendingOwner := zeroAddress } }
  held : w₁.held = w.held

/-- The caller takes over: every batch of commands that succeeds is executed with owner rights from a
state in which the caller has taken over, and the empty batch succeeds and does nothing else. -/
structure TakesOwnership (d : Deployment) (x : Externals) (msg : Msg d) (w : World) : Prop where
  batch : ∀ commands w', batchGovernanceCommands d x msg commands w = .ok ((), w') →
    ∃ w₁, TookOver msg.sender w w₁ ∧
      commandLoop d x msg true commands (commands.length + 1) 0 w₁ = .ok ((), w')
  empty : ∃ w', batchGovernanceCommands d x msg [] w = .ok ((), w') ∧ TookOver msg.sender w w'

/-- The state after the caller has become the owner. -/
def takenOver (x : Externals) (sender : Address) (w : World) : World :=
  (w.withStorage { w.storage with governance := w.storage.governance.set .owner sender }).record
    (.roleUpdated .owner w.storage.governance.owner sender x.blockTimestamp)

theorem takenOver_tookOver (x : Externals) (sender : Address) (w : World) :
    TookOver sender w (takenOver x sender w) :=
  ⟨rfl, rfl, rfl, rfl⟩

/-- **A proposed owner without another role** becomes the owner. -/
theorem privilege_pending (howner : msg.sender ≠ w.storage.governance.owner)
    (hassistant : msg.sender ≠ w.storage.governance.assistant)
    (hpending : w.storage.governance.pendingOwner = msg.sender) :
    privilege d x msg w = .ok (true, takenOver x msg.sender w) := by
  show (if msg.sender = w.storage.governance.owner then pure true
    else if msg.sender = w.storage.governance.assistant then pure false
    else if msg.sender = w.storage.governance.pendingOwner then do
      updateRole x .owner msg.sender
      pure true
    else fail .notAuthorized : Contract Bool) w = _
  rw [if_neg howner, if_neg hassistant, if_pos hpending.symm]
  rfl

/-- A caller with another role leaves the roles alone. -/
theorem privilege_other (hrole : msg.sender = w.storage.governance.owner ∨
      msg.sender = w.storage.governance.assistant) :
    ∃ isOwner, privilege d x msg w = .ok (isOwner, w) := by
  by_cases howner : msg.sender = w.storage.governance.owner
  · exact ⟨true, congrFun (if_pos howner) w⟩
  · have hassistant := hrole.resolve_left howner
    exact ⟨false, (congrFun (if_neg howner) w).trans (congrFun (if_pos hassistant) w)⟩

/-- The empty batch only looks up the role. -/
theorem batchGovernanceCommands_nil {isOwner : Bool} {w₁ : World}
    (h : privilege d x msg w = .ok (isOwner, w₁)) :
    batchGovernanceCommands d x msg [] w = .ok ((), w₁) :=
  bind_ok.2 ⟨isOwner, w₁, h, rfl⟩

/-- **When a proposed owner takes over.** In every reachable state in which the caller is the proposed
owner, the caller takes over iff it is neither the owner nor the assistant already. -/
theorem takesOwnership_iff (d : Deployment) :
    ∀ w, Reachable d w → ∀ (x : Externals) (msg : Msg d),
      w.storage.governance.pendingOwner = msg.sender →
      (TakesOwnership d x msg w ↔ msg.sender ≠ w.storage.governance.owner ∧
        msg.sender ≠ w.storage.governance.assistant) := by
  intro w _ x msg hpending
  constructor
  · intro h
    by_contra hrole
    have hrole : msg.sender = w.storage.governance.owner ∨
        msg.sender = w.storage.governance.assistant := by
      by_contra hneither
      exact hrole (not_or.1 hneither)
    obtain ⟨isOwner, hprivilege⟩ := privilege_other (x := x) hrole
    obtain ⟨w', hbatch, htook⟩ := h.empty
    rw [batchGovernanceCommands_nil hprivilege] at hbatch
    cases hbatch
    -- the proposal is still there, although no caller is the zero address
    exact msg.sender_ne_zero (hpending.symm.trans htook.pendingOwner)
  · rintro ⟨howner, hassistant⟩
    have hprivilege := privilege_pending (x := x) howner hassistant hpending
    refine ⟨fun commands w' h => ?_, _, batchGovernanceCommands_nil hprivilege,
      takenOver_tookOver x msg.sender w⟩
    obtain ⟨isOwner, w₁, hprivilege', hloop⟩ := bind_ok.1 h
    rw [hprivilege] at hprivilege'
    cases hprivilege'
    exact ⟨_, takenOver_tookOver x msg.sender w, hloop⟩

end Ownership

namespace Sample

/-- The owner proposes somebody. -/
def propose (newOwner : Address) : Transaction deployment :=
  commandsFrom (address 1) (by decide) (by decide) ([6] ++ newOwner.toList)

theorem proposed (newOwner : Address) (g : GovernanceState)
    (h : ((proxyConstructor deployment (externals 0 0) constructorArgs blankWorld).toOption.bind
      fun r => (execute (propose newOwner) r.2).toOption.map fun w => w.storage.governance) =
        some g) :
    ∃ w, Reachable deployment w ∧ w.storage.governance = g := by
  obtain ⟨⟨u, w₀⟩, hconstructor, hrest⟩ := Option.bind_eq_some_iff.1 h
  obtain ⟨w, hexecute, hgovernance⟩ := Option.map_eq_some_iff.1 hrest
  have hw₀ : Reachable deployment w₀ :=
    .constructed (show blankWorld.storage = _ from rfl) (toOption_eq_some.1 hconstructor)
  exact ⟨w, hw₀.called (toOption_eq_some.1 hexecute), hgovernance⟩

/-- The owner proposes the assistant, whose empty batch then changes nothing. -/
theorem assistant_not_owner :
    ∃ (w : World) (msg : Msg deployment), Reachable deployment w ∧ msg.sender = address 2 ∧
      w.storage.governance.pendingOwner = msg.sender ∧
      batchGovernanceCommands deployment (externals 0 0) msg [] w = .ok ((), w) ∧
      w.storage.governance.owner = address 1 ∧
      ¬TakesOwnership deployment (externals 0 0) msg w := by
  obtain ⟨w, hw, hgovernance⟩ :=
    proposed (address 2) ⟨address 1, address 2, address 2, address 3, address 4⟩ (by decide +kernel)
  obtain ⟨msg, hsender⟩ : ∃ msg : Msg deployment, msg.sender = address 2 :=
    ⟨⟨address 2, 0, by decide, by decide⟩, rfl⟩
  have howner : msg.sender ≠ w.storage.governance.owner := by
    rw [hgovernance, hsender]
    decide
  have hassistant : msg.sender = w.storage.governance.assistant := by rw [hgovernance, hsender]
  have hprivilege : privilege deployment (externals 0 0) msg w = .ok (false, w) :=
    (congrFun (if_neg howner) w).trans (congrFun (if_pos hassistant) w)
  have hbatch := batchGovernanceCommands_nil hprivilege
  refine ⟨w, msg, hw, hsender, by rw [hgovernance, hsender], hbatch, by rw [hgovernance],
    fun h => ?_⟩
  obtain ⟨w', hbatch', htook⟩ := h.empty
  rw [hbatch] at hbatch'
  cases hbatch'
  exact howner htook.owner.symm

/-- Somebody without a role takes over. -/
theorem stranger_takesOwnership :
    ∃ (w : World) (msg : Msg deployment), Reachable deployment w ∧ msg.sender = address 12 ∧
      w.storage.governance.pendingOwner = msg.sender ∧
      TakesOwnership deployment (externals 0 0) msg w := by
  obtain ⟨w, hw, hgovernance⟩ :=
    proposed (address 12) ⟨address 1, address 12, address 2, address 3, address 4⟩ (by decide +kernel)
  obtain ⟨msg, hsender⟩ : ∃ msg : Msg deployment, msg.sender = address 12 :=
    ⟨⟨address 12, 0, by decide, by decide⟩, rfl⟩
  have hpending : w.storage.governance.pendingOwner = msg.sender := by rw [hgovernance, hsender]
  refine ⟨w, msg, hw, hsender, hpending,
    (takesOwnership_iff deployment w hw _ _ hpending).2 ⟨?_, ?_⟩⟩ <;>
  · rw [hgovernance, hsender]
    decide

end Sample

end SwapLayer.Evm
