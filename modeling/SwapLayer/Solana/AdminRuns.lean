import SwapLayer.Solana.Admin
import SwapLayer.Solana.InboundRuns

/-!
# Runs of the admin instructions

Peers and roles along every sequence of admin instructions with any signers, from a program that is
deployed and not initialised. A call that fails leaves everything as it was; the calls that succeeded
are the journal of the run.

* A peer is `Registered` under its address: its chain is one of another network, its seeds are the
  canonical ones of this chain, and its relay parameters are verified.
* The custodian remembers one proposed owner. `LastSubmitted` says in terms of the journal what that
  is: the submission of the owner after which nothing was submitted, confirmed or cancelled.

Results:
* `wellFormed_effect`, `proposed_effect`: every call keeps the two.
* `run_controlled`: they hold after every run, and whatever call comes next, peers and roles change
  only with the signatures that `Controlled` lists.
-/

namespace SwapLayer.Solana.Admin

open ByteString Program

/-! ## Peers -/

/-- A peer account in order, under its address. -/
structure Registered (r : Build) (k : Pubkey) (p : Peer) : Prop where
  chain : (p.seeds.chain : ℕ) ≠ 0 ∧ (p.seeds.chain : ℕ) ≠ SOLANA_CHAIN
  address : p.address ≠ zeroKey
  canonical : r.findPeerAddress p.seeds.chain = some (k, p.seeds.bump)
  params : verifyRelayParams p.relayParams = .ok ()

/-- All peers are in order. -/
def WellFormed (r : Build) (s : State) : Prop := ∀ k p, s.peers k = some p → Registered r k p

/-! ## Signatures -/

/-- A transfer of ownership is submitted, confirmed or cancelled. -/
def Call.IsHandshake : Call → Prop
  | submitOwnershipTransferRequest _ => True
  | confirmOwnershipTransferRequest _ => True
  | cancelOwnershipTransferRequest _ => True
  | _ => False

/-- `newOwner` is what `owner` submitted last; it was neither cancelled nor replaced. -/
def LastSubmitted (log : List Call) (owner newOwner : Pubkey) : Prop :=
  ∃ before after, log = before ++ .submitOwnershipTransferRequest ⟨owner, newOwner⟩ :: after ∧
    ∀ call ∈ after, ¬call.IsHandshake

/-- What a call may do to a peer. -/
structure PeerControlled (c : Custodian) (call : Call) (p p' : Peer) : Prop where
  seeds : p'.seeds = p.seeds
  address : p'.address ≠ p.address → c.owner ∈ call.signers
  relayParams : p'.relayParams ≠ p.relayParams →
    c.owner ∈ call.signers ∨ c.ownerAssistant ∈ call.signers ∨ c.feeUpdater ∈ call.signers

/-- What a call may do to the roles, after the calls in `log`. -/
structure RolesControlled (log : List Call) (call : Call) (c c' : Custodian) : Prop where
  owner : c'.owner ≠ c.owner → c'.owner ∈ call.signers ∧ LastSubmitted log c.owner c'.owner
  ownerAssistant : c'.ownerAssistant ≠ c.ownerAssistant → c.owner ∈ call.signers
  feeUpdater : c'.feeUpdater ≠ c.feeUpdater →
    c.owner ∈ call.signers ∨ c.ownerAssistant ∈ call.signers
  feeRecipientToken : c'.feeRecipientToken ≠ c.feeRecipientToken →
    c.owner ∈ call.signers ∨ c.ownerAssistant ∈ call.signers

/-- **Who controls what.** Peers and the custodian are there once they have been created, and change
only with the signatures of those who had the roles before the call. -/
structure Controlled (log : List Call) (call : Call) (s s' : State) : Prop where
  peers : ∀ k p, s.peers k = some p → ∃ p', s'.peers k = some p' ∧
    (p' ≠ p → ∃ c, s.custodian = some c ∧ PeerControlled c call p p')
  roles : ∀ c, s.custodian = some c → ∃ c', s'.custodian = some c' ∧ RolesControlled log call c c'

/-- The proposed owner is the last one that the owner submitted. -/
def Proposed (log : List Call) (s : State) : Prop :=
  ∀ c k, s.custodian = some c → c.pendingOwner = some k → LastSubmitted log c.owner k

section Steps

variable {r : Build} {s s' : State} {call : Call} {k : Pubkey} {p : Peer} {log : List Call}

theorem WellFormed.setPeer (hs : WellFormed r s) (hp : Registered r k p) :
    WellFormed r (s.setPeer k p) := by
  intro k' p' hp'
  by_cases hk : k' = k
  · subst hk
    rw [State.setPeer_self] at hp'
    cases hp'
    exact hp
  · rw [State.setPeer_other hk] at hp'
    exact hs k' p' hp'

/-- **A stored bump is the one of the chain** that an update names. -/
theorem Registered.chain_eq (hfree : r.CollisionFree) (hp : Registered r k p) {chain : Uint 2}
    {bump : Uint 1} (h : r.createPeerAddress chain bump = some k) : chain = p.seeds.chain :=
  hfree _ _ _ _ _ h (createPeerAddress_of_find hp.canonical)

/-- **Every call keeps the peers in order.** -/
theorem wellFormed_effect (hfree : r.CollisionFree) (hs : WellFormed r s)
    (h : Effect r s call s') : WellFormed r s' := by
  cases h with
  | addPeer a args c bump custodian signed canonical new valid =>
    exact hs.setPeer ⟨valid.chain, valid.address, canonical, valid.params⟩
  | updatePeer a args c p custodian signed peer seeds valid =>
    have hp := hs a.peer p peer
    have hcanonical := hp.canonical
    rw [← hp.chain_eq hfree seeds] at hcanonical
    exact hs.setPeer ⟨valid.chain, valid.address, hcanonical, valid.params⟩
  | updateRelayParameters a args c p custodian signed peer params =>
    have hp := hs a.peer p peer
    exact hs.setPeer ⟨hp.chain, hp.address, hp.canonical, params⟩
  | _ => exact hs

/-! ## The handshake -/

theorem LastSubmitted.append {owner newOwner : Pubkey} (h : LastSubmitted log owner newOwner)
    (hcall : ¬call.IsHandshake) : LastSubmitted (log ++ [call]) owner newOwner := by
  obtain ⟨before, after, rfl, hafter⟩ := h
  refine ⟨before, after ++ [call], by simp, fun e he => ?_⟩
  rcases List.mem_append.1 he with he | he
  · exact hafter e he
  · rw [List.mem_singleton.1 he]
    exact hcall

theorem lastSubmitted_submit (log : List Call) (a : SubmitOwnershipTransferRequest) :
    LastSubmitted (log ++ [.submitOwnershipTransferRequest a]) a.owner a.newOwner :=
  ⟨log, [], rfl, nofun⟩

/-- A call outside of the handshake leaves the owner and the proposal alone. -/
theorem Proposed.append (hs : Proposed log s) (hcall : ¬call.IsHandshake) {c c' : Custodian}
    (hc : s.custodian = some c) (hc' : s'.custodian = some c') (howner : c'.owner = c.owner)
    (hpending : c'.pendingOwner = c.pendingOwner) : Proposed (log ++ [call]) s' := by
  intro c₁ k hc₁ hk
  obtain rfl : c' = c₁ := Option.some.inj (hc'.symm.trans hc₁)
  rw [howner]
  exact (hs c k hc (hpending.symm.trans hk)).append hcall

/-- **Every call keeps the proposal what it says it is.** -/
theorem proposed_effect (hs : Proposed log s) (h : Effect r s call s') :
    Proposed (log ++ [call]) s' := by
  cases h with
  | initializeProgram a new =>
    intro c k hc hk
    cases hc
    cases hk
  | addPeer a args c bump custodian => exact hs.append not_false custodian custodian rfl rfl
  | updatePeer a args c p custodian => exact hs.append not_false custodian custodian rfl rfl
  | updateRelayParameters a args c p custodian =>
    exact hs.append not_false custodian custodian rfl rfl
  | submitOwnershipTransferRequest a c custodian signed new =>
    intro c' k hc hk
    cases hc
    cases hk
    rw [← signed]
    exact lastSubmitted_submit log a
  | confirmOwnershipTransferRequest pendingOwner c custodian signed =>
    intro c' k hc hk
    cases hc
    cases hk
  | cancelOwnershipTransferRequest owner c custodian signed =>
    intro c' k hc hk
    cases hc
    cases hk
  | updateOwnerAssistant a c custodian signed => exact hs.append not_false custodian rfl rfl rfl
  | updateFeeUpdater a c custodian signed => exact hs.append not_false custodian rfl rfl rfl
  | updateFeeRecipient a c custodian signed => exact hs.append not_false custodian rfl rfl rfl

/-! ## Signatures of a step -/

theorem RolesControlled.refl (log : List Call) (call : Call) (c : Custodian) :
    RolesControlled log call c c :=
  ⟨fun h => absurd rfl h, fun h => absurd rfl h, fun h => absurd rfl h, fun h => absurd rfl h⟩

theorem signs_admin {signer : Pubkey} {c : Custodian}
    (h : signer = c.owner ∨ signer = c.ownerAssistant) :
    c.owner ∈ [signer] ∨ c.ownerAssistant ∈ [signer] :=
  h.imp (fun h => List.mem_singleton.2 h.symm) fun h => List.mem_singleton.2 h.symm

/-- A call that writes one peer. -/
theorem controlled_setPeer {c : Custodian} (hc : s.custodian = some c) {q : Peer}
    (hq : ∀ p, s.peers k = some p → PeerControlled c call p q) :
    Controlled log call s (s.setPeer k q) := by
  refine ⟨fun k' p hp => ?_, fun c' hc' => ⟨c', hc', .refl log call c'⟩⟩
  by_cases hk : k' = k
  · subst hk
    exact ⟨q, State.setPeer_self .., fun _ => ⟨c, hc, hq p hp⟩⟩
  · exact ⟨p, (State.setPeer_other hk).trans hp, fun hne => absurd rfl hne⟩

/-- A call that writes the custodian. -/
theorem controlled_setCustodian {c c' : Custodian} (hc : s.custodian = some c)
    (hroles : RolesControlled log call c c') :
    Controlled log call s { s with custodian := some c' } := by
  refine ⟨fun k p hp => ⟨p, hp, fun hne => absurd rfl hne⟩, fun c₁ hc₁ => ⟨c', rfl, ?_⟩⟩
  obtain rfl : c = c₁ := Option.some.inj (hc.symm.trans hc₁)
  exact hroles

/-- **Every call is signed by those who control what it changes.** -/
theorem controlled_effect (hfree : r.CollisionFree) (hs : WellFormed r s) (hlog : Proposed log s)
    (h : Effect r s call s') : Controlled log call s s' := by
  cases h with
  | initializeProgram a new =>
    refine ⟨fun k p hp => ⟨p, hp, fun hne => absurd rfl hne⟩, fun c hc => ?_⟩
    cases new.symm.trans hc
  | addPeer a args c bump custodian signed canonical new valid =>
    refine controlled_setPeer custodian fun p hp => ?_
    cases new.symm.trans hp
  | updatePeer a args c p custodian signed peer seeds valid =>
    refine controlled_setPeer custodian fun p' hp' => ?_
    obtain rfl : p = p' := Option.some.inj (peer.symm.trans hp')
    have howner : c.owner ∈ (Call.updatePeer a args).signers := signed ▸ List.mem_singleton_self _
    refine ⟨?_, fun _ => howner, fun _ => .inl howner⟩
    rw [(hs a.peer p peer).chain_eq hfree seeds]
  | updateRelayParameters a args c p custodian signed peer params =>
    refine controlled_setPeer custodian fun p' hp' => ?_
    obtain rfl : p = p' := Option.some.inj (peer.symm.trans hp')
    refine ⟨rfl, fun hne => absurd rfl hne, fun _ => ?_⟩
    rcases signed with h | h | h
    · exact .inr (.inr (h ▸ List.mem_singleton_self _))
    · exact .inl (h ▸ List.mem_singleton_self _)
    · exact .inr (.inl (h ▸ List.mem_singleton_self _))
  | submitOwnershipTransferRequest a c custodian signed new =>
    have hsame := RolesControlled.refl log (.submitOwnershipTransferRequest a) c
    exact controlled_setCustodian custodian
      ⟨hsame.owner, hsame.ownerAssistant, hsame.feeUpdater, hsame.feeRecipientToken⟩
  | confirmOwnershipTransferRequest pendingOwner c custodian signed =>
    have hsame := RolesControlled.refl log (.confirmOwnershipTransferRequest pendingOwner) c
    exact controlled_setCustodian custodian
      ⟨fun _ => ⟨List.mem_singleton_self _, hlog c pendingOwner custodian signed⟩,
        hsame.ownerAssistant, hsame.feeUpdater, hsame.feeRecipientToken⟩
  | cancelOwnershipTransferRequest owner c custodian signed =>
    have hsame := RolesControlled.refl log (.cancelOwnershipTransferRequest owner) c
    exact controlled_setCustodian custodian
      ⟨hsame.owner, hsame.ownerAssistant, hsame.feeUpdater, hsame.feeRecipientToken⟩
  | updateOwnerAssistant a c custodian signed =>
    have hsame := RolesControlled.refl log (.updateOwnerAssistant a) c
    exact controlled_setCustodian custodian
      ⟨hsame.owner, fun _ => signed ▸ List.mem_singleton_self _, hsame.feeUpdater,
        hsame.feeRecipientToken⟩
  | updateFeeUpdater a c custodian signed =>
    have hsame := RolesControlled.refl log (.updateFeeUpdater a) c
    exact controlled_setCustodian custodian
      ⟨hsame.owner, hsame.ownerAssistant, fun _ => signs_admin signed, hsame.feeRecipientToken⟩
  | updateFeeRecipient a c custodian signed =>
    have hsame := RolesControlled.refl log (.updateFeeRecipient a) c
    exact controlled_setCustodian custodian
      ⟨hsame.owner, hsame.ownerAssistant, hsame.feeUpdater, fun _ => signs_admin signed⟩

end Steps

/-! ## Runs -/

section Runs

variable {r : Build}

/-- **Peers and roles stay well-formed and controlled.** After every run every peer is in order; and
whatever call succeeds next changes peers and roles only as its signers control them, the owner only to
the key that signs and that the owner submitted last. -/
theorem run_controlled (hu : r.utils.AsNamed) (hfree : r.CollisionFree)
    (is : List (Surroundings × Call)) :
    WellFormed r (run (step r) is genesis) ∧
      ∀ i s', step r i (run (step r) is genesis) = .ok s' →
        Controlled ((journal (step r) is genesis).map Prod.snd) i.2 (run (step r) is genesis) s' := by
  have hinv : WellFormed r (run (step r) is genesis) ∧
      Proposed ((journal (step r) is genesis).map Prod.snd) (run (step r) is genesis) :=
    journal_induction (P := fun log s => WellFormed r s ∧ Proposed (log.map Prod.snd) s)
      (fun log s i s' ⟨hw, hp⟩ h => ?_) is [] genesis ⟨nofun, nofun⟩
  · exact ⟨hinv.1, fun i s' h => controlled_effect hfree hinv.1 hinv.2 (step_effect hu h)⟩
  · have heffect := step_effect hu h
    rw [List.map_append]
    exact ⟨wellFormed_effect hfree hw heffect, proposed_effect hp heffect⟩

end Runs

namespace Sample

open Solana.Sample

/-- The helpers as they are called. -/
def adminUtils : AdminUtils where
  onlyOwner c k := decide (k = c.owner)
  onlyAuthorized c k := decide (k = c.owner ∨ k = c.ownerAssistant)
  onlyPendingOwnerUnchecked c k := decide (c.pendingOwner = some k)
  transferOwnership c k := { c with pendingOwner := some k }
  acceptOwnershipUnchecked c := { c with owner := c.pendingOwner.getD c.owner, pendingOwner := none }
  cancelTransferOwnership c := { c with pendingOwner := none }
  transferOwnerAssistant c k := { c with ownerAssistant := k }

theorem adminUtils_asNamed : adminUtils.AsNamed where
  onlyOwner _ _ := decide_eq_true_iff
  onlyAuthorized _ _ := decide_eq_true_iff
  onlyPendingOwner _ _ := decide_eq_true_iff
  transferOwnership _ _ := rfl
  acceptOwnership c k h := by simp [adminUtils, h]
  cancelTransferOwnership _ := rfl
  transferOwnerAssistant _ _ := rfl

theorem length_peerKey (chain : Uint 2) : (toBE 2 chain ++ List.replicate 30 7).length = 32 := by
  rw [List.length_append, length_toBE, List.length_replicate]

/-- The address of a peer starts with its chain. -/
def peerKey (chain : Uint 2) : Pubkey := ⟨_, length_peerKey chain⟩

/-- Every chain has its address at the first bump. -/
def build : Build where
  deployment := deployment
  utils := adminUtils
  createPeerAddress chain bump := if (bump : ℕ) = 255 then some (peerKey chain) else none
  integrationTest := false

theorem build_collisionFree : build.CollisionFree := by
  have hkey : ∀ chain bump k, build.createPeerAddress chain bump = some k → peerKey chain = k := by
    intro chain bump k h
    by_cases hbump : (bump : ℕ) = 255
    · exact Option.some.inj ((if_pos hbump).symm.trans h)
    · cases (if_neg hbump).symm.trans h
  intro chain bump chain' bump' k h h'
  have hbytes := congrArg Subtype.val ((hkey _ _ _ h).trans (hkey _ _ _ h').symm)
  obtain ⟨hchain, -⟩ := List.append_inj hbytes (by rw [length_toBE, length_toBE])
  refine Fin.ext ?_
  rw [← ofBE_toBE_of_lt chain.isLt, hchain, ofBE_toBE_of_lt chain'.isLt]

/-- The deployer's program data, and wallets with a USDC account. -/
def surroundings : Surroundings where
  tokens k := if k = key 11 then some (account .token usdc (key 42) 0) else none
  systemOwned _ := true
  programData := some (some (key 40))

/-- The program is initialised, a peer on chain 2 is added, and the owner submits a new one. -/
def calls : List (Surroundings × Call) :=
  [(surroundings, .initializeProgram ⟨key 40, key 41, key 42, key 11, key 43⟩),
    (surroundings, .addPeer ⟨payer, key 41, peerKey 2⟩ ⟨2, key 50, relayParams⟩),
    (surroundings, .submitOwnershipTransferRequest ⟨key 40, key 44⟩)]

/-- The new owner confirms. -/
theorem confirmed : ∃ s', step build (surroundings, .confirmOwnershipTransferRequest (key 44))
      (run (step build) calls genesis) = .ok s' ∧
    s'.custodian.map Custodian.owner = some (key 44) ∧
    ((run (step build) calls genesis).peers (peerKey 2)).map Peer.address = some (key 50) ∧
    WellFormed build (run (step build) calls genesis) ∧
    Controlled ((journal (step build) calls genesis).map Prod.snd)
      (.confirmOwnershipTransferRequest (key 44)) (run (step build) calls genesis) s' := by
  have hrun : (step build (surroundings, .confirmOwnershipTransferRequest (key 44))
      (run (step build) calls genesis)).toOption.map (fun s' => s'.custodian.map Custodian.owner) =
        some (some (key 44)) := by decide +kernel
  obtain ⟨s', hs', howner⟩ := Option.map_eq_some_iff.1 hrun
  obtain ⟨hwell, hcontrolled⟩ := run_controlled adminUtils_asNamed build_collisionFree calls
  have hstep := toOption_eq_some.1 hs'
  exact ⟨s', hstep, howner, by decide +kernel, hwell, hcontrolled _ _ hstep⟩

end Sample

end SwapLayer.Solana.Admin
