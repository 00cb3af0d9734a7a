import SwapLayer.Solana.Peers

/-!
# The admin instructions

Model of `processor/admin` and of the composites in `composite/mod.rs` that decide who may call what.
`Peers.lean` has two of these instructions, on peers by chain; here all of them work on the accounts
that they write: the custodian, whose address is fixed, and the peers under their derived addresses,
each with the seeds that it stores.

* The helpers of the `common` crate are given functions (`AdminUtils`). `AdminUtils.AsNamed` says that
  they do what they are called.
* `create_program_address` is given for the seeds of a peer; `findPeerAddress` searches the bump as
  `find_program_address` does. That no two chains get one address is a hypothesis (`CollisionFree`).
* Token accounts, the owners of wallets and the upgrade authority are what each step finds.

Results:
* `step_effect`: what a successful instruction has checked and written, for every instruction.
-/

namespace SwapLayer.Solana.Admin

open ByteString Program SplToken

/-! ## Accounts -/

structure PeerSeeds where
  chain : Uint 2
  bump : Uint 1
  deriving DecidableEq

structure Peer where
  seeds : PeerSeeds
  address : Fixed 32
  relayParams : RelayParams
  deriving DecidableEq

structure Custodian where
  owner : Pubkey
  pendingOwner : Option Pubkey
  ownerAssistant : Pubkey
  feeUpdater : Pubkey
  feeRecipientToken : Pubkey
  deriving DecidableEq

/-- The accounts that admin instructions write; peers by their addresses. -/
structure State where
  custodian : Option Custodian
  peers : Pubkey → Option Peer

/-- Before `initialize`. -/
def genesis : State := ⟨none, fun _ => none⟩

def State.setPeer (s : State) (k : Pubkey) (p : Peer) : State :=
  { s with peers := Function.update s.peers k (some p) }

@[simp] theorem State.setPeer_self (s : State) (k : Pubkey) (p : Peer) :
    (s.setPeer k p).peers k = some p := Function.update_self ..

theorem State.setPeer_other {s : State} {k k' : Pubkey} {p : Peer} (h : k' ≠ k) :
    (s.setPeer k p).peers k' = s.peers k' := Function.update_of_ne h ..

/-! ## Surroundings -/

/-- `common::admin::utils`. A check that fails raises the error that the caller gives. -/
structure AdminUtils where
  onlyOwner : Custodian → Pubkey → Bool
  onlyAuthorized : Custodian → Pubkey → Bool
  onlyPendingOwnerUnchecked : Custodian → Pubkey → Bool
  transferOwnership : Custodian → Pubkey → Custodian
  acceptOwnershipUnchecked : Custodian → Custodian
  cancelTransferOwnership : Custodian → Custodian
  transferOwnerAssistant : Custodian → Pubkey → Custodian

/-- The helpers do what they are called. -/
structure AdminUtils.AsNamed (u : AdminUtils) : Prop where
  onlyOwner : ∀ c k, u.onlyOwner c k = true ↔ k = c.owner
  onlyAuthorized : ∀ c k, u.onlyAuthorized c k = true ↔ k = c.owner ∨ k = c.ownerAssistant
  onlyPendingOwner : ∀ c k, u.onlyPendingOwnerUnchecked c k = true ↔ c.pendingOwner = some k
  transferOwnership : ∀ c k, u.transferOwnership c k = { c with pendingOwner := some k }
  acceptOwnership : ∀ c k, c.pendingOwner = some k →
    u.acceptOwnershipUnchecked c = { c with owner := k, pendingOwner := none }
  cancelTransferOwnership : ∀ c, u.cancelTransferOwnership c = { c with pendingOwner := none }
  transferOwnerAssistant : ∀ c k, u.transferOwnerAssistant c k = { c with ownerAssistant := k }

/-- The program as it is built and deployed. -/
structure Build where
  deployment : Deployment
  utils : AdminUtils
  /-- `Pubkey::create_program_address` of the seeds `["peer", chain, bump]`. -/
  createPeerAddress : Uint 2 → Uint 1 → Option Pubkey
  /-- The feature `integration-test`. -/
  integrationTest : Bool

/-- No address belongs to two chains. -/
def Build.CollisionFree (r : Build) : Prop :=
  ∀ chain bump chain' bump' k, r.createPeerAddress chain bump = some k →
    r.createPeerAddress chain' bump' = some k → chain = chain'

/-- The bumps that `find_program_address` tries, from 255 down to 1. -/
def bumps : List (Uint 1) := (List.finRange (256 ^ 1)).tail.reverse

/-- `Pubkey::find_program_address` of the seeds `["peer", chain]`. -/
def Build.findPeerAddress (r : Build) (chain : Uint 2) : Option (Pubkey × Uint 1) :=
  bumps.findSome? fun bump => (r.createPeerAddress chain bump).map fun k => (k, bump)

/-- What a step finds in accounts of other programs. -/
structure Surroundings where
  tokens : Pubkey → Option (TokenAccount Pubkey)
  /-- The owner of the account is the system program, `Pubkey::default()`. -/
  systemOwned : Pubkey → Bool
  /-- `ProgramData`, with its `upgrade_authority_address`. -/
  programData : Option (Option Pubkey)

/-! ## Reading and writing -/

/-- A part of an admin instruction. -/
abbrev Instruction (α : Type) := StateT State (Except Error) α

def check (p : Prop) [Decidable p] (e : SwapLayerError) : Instruction Unit := require p (.swapLayer e)

/-- An account that must exist. -/
def loadAccount {α : Type} (f : State → Option α) : Instruction α := fun s =>
  match f s with
  | some a => .ok (a, s)
  | none => .error .accountNotInitialized

def setCustodian (c : Custodian) : Instruction Unit := fun s => .ok ((), { s with custodian := some c })

def setPeer (k : Pubkey) (p : Peer) : Instruction Unit := fun s => .ok ((), s.setPeer k p)

/-- `CheckedCustodian`. -/
def checkedCustodian : Instruction Custodian := loadAccount State.custodian

section Definitions

variable (r : Build) (x : Surroundings)

/-- An `Account<token::TokenAccount>` that is the USDC account of a wallet. -/
def checkUsdcAccount (k wallet : Pubkey) (t : TokenAccount Pubkey) : Instruction Unit := do
  require (t.owner = wallet) .constraintTokenOwner
  require (k = r.deployment.associatedToken wallet r.deployment.usdcMint .token) .constraintAssociated

def loadTokenAccount (k : Pubkey) : Instruction (TokenAccount Pubkey) := do
  let t ← loadAccount fun _ => x.tokens k
  require (t.program = .token) .accountOwnedByWrongProgram
  return t

/-- The seeds of a peer, with the canonical bump. -/
def canonicalPeer (k : Pubkey) (chain : Uint 2) : Instruction (Uint 1) :=
  match r.findPeerAddress chain with
  | some (expected, bump) => do
    require (k = expected) .constraintSeeds
    return bump
  | none => fail .panic

/-- The seeds of a peer, with a given bump. -/
def peerAddress (k : Pubkey) (seeds : PeerSeeds) : Instruction Unit :=
  match r.createPeerAddress seeds.chain seeds.bump with
  | some expected => require (k = expected) .constraintSeeds
  | none => fail .constraintSeeds

/-! ## Who may call -/

def ownerOnly (owner : Pubkey) : Instruction Custodian := do
  let c ← checkedCustodian
  check (r.utils.onlyOwner c owner = true) .ownerOnly
  return c

/-- The custodian is writable. -/
def ownerOnlyMut (owner : Pubkey) : Instruction Custodian := ownerOnly r owner

def admin (ownerOrAssistant : Pubkey) : Instruction Custodian := do
  let c ← checkedCustodian
  check (r.utils.onlyAuthorized c ownerOrAssistant = true) .ownerOrAssistantOnly
  return c

/-- The custodian is writable. -/
def adminMut (ownerOrAssistant : Pubkey) : Instruction Custodian := admin r ownerOrAssistant

def feeUpdater (feeUpdater : Pubkey) : Instruction Unit := do
  let c ← checkedCustodian
  check (feeUpdater = c.feeUpdater ∨ feeUpdater = c.owner ∨ feeUpdater = c.ownerAssistant)
    .invalidFeeUpdater

/-! ## `initialize` -/

structure Initialize where
  owner : Pubkey
  ownerAssistant : Pubkey
  feeRecipient : Pubkey
  feeRecipientToken : Pubkey
  feeUpdater : Pubkey

/-- A wallet that gets a role. -/
def checkWallet (k : Pubkey) (e : SwapLayerError) : Instruction Unit := do
  check (k ≠ zeroKey) e
  require (x.systemOwned k = true) .constraintOwner

/-- The upgrade authority must sign as the owner; in tests it is the zero key, and anyone may. -/
def checkDeployer (owner : Pubkey) : Option Pubkey → Instruction Unit
  | some upgradeAuthority =>
    check ((if r.integrationTest then zeroKey else owner) = upgradeAuthority) .ownerOnly
  | none => fail (.swapLayer .immutableProgram)

/-- `initialize`. -/
def initializeProgram (a : Initialize) : Instruction Unit := do
  let t ← loadTokenAccount x a.feeRecipientToken
  let upgradeAuthorityAddress ← loadAccount fun _ => x.programData
  require (a.owner ≠ r.deployment.custodian) .tryingToInitPayerAsProgramAccount
  let s ← get
  require (s.custodian = none) .accountAlreadyInUse
  checkWallet x a.ownerAssistant .assistantZeroPubkey
  checkWallet x a.feeRecipient .feeRecipientZeroPubkey
  checkUsdcAccount r a.feeRecipientToken a.feeRecipient t
  checkWallet x a.feeUpdater .feeUpdaterZeroPubkey
  checkDeployer r a.owner upgradeAuthorityAddress
  setCustodian
    { owner := a.owner
      pendingOwner := none
      ownerAssistant := a.ownerAssistant
      feeUpdater := a.feeUpdater
      feeRecipientToken := a.feeRecipientToken }

/-! ## Peers -/

structure AddPeerArgs where
  chain : Uint 2
  address : Fixed 32
  relayParams : RelayParams

/-- `handle_add_peer`. Without a bump the one is taken that the account stores. -/
def handleAddPeer (k : Pubkey) (storedBump : Uint 1) (args : AddPeerArgs) (bumpSeed : Option (Uint 1)) :
    Instruction Unit := do
  check ((args.chain : ℕ) ≠ 0 ∧ (args.chain : ℕ) ≠ SOLANA_CHAIN) .chainNotAllowed
  check (args.address ≠ zeroKey) .invalidPeer
  lift (verifyRelayParams args.relayParams)
  let seeds : PeerSeeds := ⟨args.chain, bumpSeed.getD storedBump⟩
  peerAddress r k seeds
  setPeer k ⟨seeds, args.address, args.relayParams⟩

structure AddPeer where
  payer : Pubkey
  ownerOrAssistant : Pubkey
  peer : Pubkey

theorem zero_lt_bumps : 0 < 256 ^ 1 := by decide

/-- `add_peer`; a new account is filled with zeros. -/
def addPeer (a : AddPeer) (args : AddPeerArgs) : Instruction Unit := do
  let _ ← admin r a.ownerOrAssistant
  let bump ← canonicalPeer r a.peer args.chain
  require (a.payer ≠ a.peer) .tryingToInitPayerAsProgramAccount
  let s ← get
  require (s.peers a.peer = none) .accountAlreadyInUse
  handleAddPeer r a.peer ⟨0, zero_lt_bumps⟩ args (some bump)

structure UpdatePeer where
  owner : Pubkey
  peer : Pubkey

def updatePeer (a : UpdatePeer) (args : AddPeerArgs) : Instruction Unit := do
  let _ ← ownerOnly r a.owner
  let p ← loadAccount fun s => s.peers a.peer
  peerAddress r a.peer ⟨args.chain, p.seeds.bump⟩
  handleAddPeer r a.peer p.seeds.bump args none

structure UpdateRelayParameters where
  feeUpdater : Pubkey
  peer : Pubkey

structure UpdateRelayParametersArgs where
  chain : Uint 2
  relayParams : RelayParams

def updateRelayParameters (a : UpdateRelayParameters) (args : UpdateRelayParametersArgs) :
    Instruction Unit := do
  feeUpdater a.feeUpdater
  let p ← loadAccount fun s => s.peers a.peer
  let _ ← canonicalPeer r a.peer args.chain
  lift (verifyRelayParams args.relayParams)
  setPeer a.peer { p with relayParams := args.relayParams }

/-! ## Ownership -/

structure SubmitOwnershipTransferRequest where
  owner : Pubkey
  newOwner : Pubkey

def submitOwnershipTransferRequest (a : SubmitOwnershipTransferRequest) : Instruction Unit := do
  let c ← ownerOnlyMut r a.owner
  check (a.newOwner ≠ zeroKey) .invalidNewOwner
  check (a.newOwner ≠ a.owner) .alreadyOwner
  setCustodian (r.utils.transferOwnership c a.newOwner)

/-- `confirm_ownership_transfer_request`, signed by `pendingOwner`. -/
def confirmOwnershipTransferRequest (pendingOwner : Pubkey) : Instruction Unit := do
  let c ← checkedCustodian
  check (c.pendingOwner ≠ none) .noTransferOwnershipRequest
  check (r.utils.onlyPendingOwnerUnchecked c pendingOwner = true) .notPendingOwner
  setCustodian (r.utils.acceptOwnershipUnchecked c)

/-- `cancel_ownership_transfer_request`, signed by `owner`. -/
def cancelOwnershipTransferRequest (owner : Pubkey) : Instruction Unit := do
  let c ← ownerOnlyMut r owner
  setCustodian (r.utils.cancelTransferOwnership c)

/-! ## Other roles -/

structure UpdateOwnerAssistant where
  owner : Pubkey
  newOwnerAssistant : Pubkey

def updateOwnerAssistant (a : UpdateOwnerAssistant) : Instruction Unit := do
  let c ← ownerOnlyMut r a.owner
  check (a.newOwnerAssistant ≠ zeroKey) .assistantZeroPubkey
  setCustodian (r.utils.transferOwnerAssistant c a.newOwnerAssistant)

structure UpdateFeeUpdater where
  ownerOrAssistant : Pubkey
  newFeeUpdater : Pubkey

def updateFeeUpdater (a : UpdateFeeUpdater) : Instruction Unit := do
  let c ← adminMut r a.ownerOrAssistant
  check (a.newFeeUpdater ≠ zeroKey) .feeUpdaterZeroPubkey
  setCustodian { c with feeUpdater := a.newFeeUpdater }

structure UpdateFeeRecipient where
  ownerOrAssistant : Pubkey
  newFeeRecipientToken : Pubkey
  newFeeRecipient : Pubkey

def updateFeeRecipient (a : UpdateFeeRecipient) : Instruction Unit := do
  let c ← adminMut r a.ownerOrAssistant
  let t ← loadTokenAccount x a.newFeeRecipientToken
  checkUsdcAccount r a.newFeeRecipientToken a.newFeeRecipient t
  check (a.newFeeRecipient ≠ zeroKey) .feeRecipientZeroPubkey
  setCustodian { c with feeRecipientToken := a.newFeeRecipientToken }

/-! ## Calls -/

inductive Call
  | initializeProgram (a : Initialize)
  | addPeer (a : AddPeer) (args : AddPeerArgs)
  | updatePeer (a : UpdatePeer) (args : AddPeerArgs)
  | updateRelayParameters (a : UpdateRelayParameters) (args : UpdateRelayParametersArgs)
  | submitOwnershipTransferRequest (a : SubmitOwnershipTransferRequest)
  | confirmOwnershipTransferRequest (pendingOwner : Pubkey)
  | cancelOwnershipTransferRequest (owner : Pubkey)
  | updateOwnerAssistant (a : UpdateOwnerAssistant)
  | updateFeeUpdater (a : UpdateFeeUpdater)
  | updateFeeRecipient (a : UpdateFeeRecipient)

def Call.instruction : Call → Instruction Unit
  | initializeProgram a => Admin.initializeProgram r x a
  | addPeer a args => Admin.addPeer r a args
  | updatePeer a args => Admin.updatePeer r a args
  | updateRelayParameters a args => Admin.updateRelayParameters r a args
  | submitOwnershipTransferRequest a => Admin.submitOwnershipTransferRequest r a
  | confirmOwnershipTransferRequest pendingOwner =>
    Admin.confirmOwnershipTransferRequest r pendingOwner
  | cancelOwnershipTransferRequest owner => Admin.cancelOwnershipTransferRequest r owner
  | updateOwnerAssistant a => Admin.updateOwnerAssistant r a
  | updateFeeUpdater a => Admin.updateFeeUpdater r a
  | updateFeeRecipient a => Admin.updateFeeRecipient r x a

/-- The accounts under the type `Signer`. -/
def Call.signers : Call → List Pubkey
  | initializeProgram a => [a.owner]
  | addPeer a _ => [a.payer, a.ownerOrAssistant]
  | updatePeer a _ => [a.owner]
  | updateRelayParameters a _ => [a.feeUpdater]
  | submitOwnershipTransferRequest a => [a.owner]
  | confirmOwnershipTransferRequest pendingOwner => [pendingOwner]
  | cancelOwnershipTransferRequest owner => [owner]
  | updateOwnerAssistant a => [a.owner]
  | updateFeeUpdater a => [a.ownerOrAssistant]
  | updateFeeRecipient a => [a.ownerOrAssistant]

/-- One transaction, with what it finds elsewhere. -/
def step (i : Surroundings × Call) (s : State) : Except Error State :=
  (i.2.instruction r i.1 s).map Prod.snd

end Definitions

/-! ## What a call does -/

section Effect

variable {r : Build} {x : Surroundings} {s s' : State} {u : Unit} {c : Custodian} {k : Pubkey}

theorem loadAccount_ok {α : Type} {f : State → Option α} {a : α} :
    loadAccount f s = .ok (a, s') ↔ f s = some a ∧ s' = s := by
  unfold loadAccount
  cases f s with
  | none => exact ⟨nofun, nofun⟩
  | some b =>
    constructor
    · intro h
      cases h
      exact ⟨rfl, rfl⟩
    · rintro ⟨h, rfl⟩
      cases h
      rfl

theorem check_ok {p : Prop} [Decidable p] {e : SwapLayerError} :
    check p e s = .ok (u, s') ↔ p ∧ s' = s := require_ok

theorem get_ok {t : State} : (get : Instruction State) s = .ok (t, s') ↔ t = s ∧ s' = s :=
  ⟨fun h => by cases h; exact ⟨rfl, rfl⟩, fun ⟨h, h'⟩ => by rw [h, h']; rfl⟩

theorem setCustodian_ok : setCustodian c s = .ok (u, s') ↔ s' = { s with custodian := some c } :=
  ⟨fun h => by cases h; rfl, fun h => by rw [h]; rfl⟩

theorem setPeer_ok {p : Peer} : setPeer k p s = .ok (u, s') ↔ s' = s.setPeer k p :=
  ⟨fun h => by cases h; rfl, fun h => by rw [h]; rfl⟩

theorem canonicalPeer_ok {chain : Uint 2} {bump : Uint 1} :
    canonicalPeer r k chain s = .ok (bump, s') ↔ r.findPeerAddress chain = some (k, bump) ∧ s' = s := by
  unfold canonicalPeer
  cases r.findPeerAddress chain with
  | none => exact ⟨fun h => (fail_ok.1 h).elim, nofun⟩
  | some found =>
    obtain ⟨expected, bump'⟩ := found
    simp only [bind_ok, require_ok, pure_ok, Option.some.injEq, Prod.mk.injEq]
    constructor
    · rintro ⟨_, _, ⟨rfl, rfl⟩, rfl, rfl⟩
      exact ⟨⟨rfl, rfl⟩, rfl⟩
    · rintro ⟨⟨rfl, rfl⟩, rfl⟩
      exact ⟨(), _, ⟨rfl, rfl⟩, rfl, rfl⟩

theorem peerAddress_ok {seeds : PeerSeeds} :
    peerAddress r k seeds s = .ok (u, s') ↔
      r.createPeerAddress seeds.chain seeds.bump = some k ∧ s' = s := by
  unfold peerAddress
  cases r.createPeerAddress seeds.chain seeds.bump with
  | none => exact ⟨fun h => (fail_ok.1 h).elim, nofun⟩
  | some expected =>
    simp only [require_ok, Option.some.injEq, eq_comm (a := k)]

theorem loadTokenAccount_ok {t : TokenAccount Pubkey} (h : loadTokenAccount x k s = .ok (t, s')) :
    x.tokens k = some t ∧ t.program = .token ∧ s' = s := by
  obtain ⟨t', _, hload, h₁⟩ := bind_ok.1 h
  obtain ⟨ht, rfl⟩ := loadAccount_ok.1 hload
  obtain ⟨_, _, hprogram, h₂⟩ := bind_ok.1 h₁
  obtain ⟨htoken, rfl⟩ := require_ok.1 hprogram
  obtain ⟨rfl, rfl⟩ := pure_ok.1 h₂
  exact ⟨ht, htoken, rfl⟩

theorem checkUsdcAccount_ok {wallet : Pubkey} {t : TokenAccount Pubkey} :
    checkUsdcAccount r k wallet t s = .ok (u, s') ↔ t.owner = wallet ∧
      k = r.deployment.associatedToken wallet r.deployment.usdcMint .token ∧ s' = s := by
  simp only [checkUsdcAccount, bind_ok, require_ok]
  constructor
  · rintro ⟨_, _, ⟨howner, rfl⟩, haddress, rfl⟩
    exact ⟨howner, haddress, rfl⟩
  · rintro ⟨howner, haddress, rfl⟩
    exact ⟨(), _, ⟨howner, rfl⟩, haddress, rfl⟩

theorem checkWallet_ok {e : SwapLayerError} :
    checkWallet x k e s = .ok (u, s') ↔ k ≠ zeroKey ∧ x.systemOwned k = true ∧ s' = s := by
  simp only [checkWallet, bind_ok, check_ok, require_ok]
  constructor
  · rintro ⟨_, _, ⟨hne, rfl⟩, howned, rfl⟩
    exact ⟨hne, howned, rfl⟩
  · rintro ⟨hne, howned, rfl⟩
    exact ⟨(), _, ⟨hne, rfl⟩, howned, rfl⟩

theorem checkDeployer_ok {owner : Pubkey} {upgradeAuthority : Option Pubkey}
    (h : checkDeployer r owner upgradeAuthority s = .ok (u, s')) : s' = s := by
  cases upgradeAuthority with
  | none => cases h
  | some authority => exact (check_ok.1 h).2

/-- The canonical address is one of those that can be created. -/
theorem createPeerAddress_of_find {chain : Uint 2} {bump : Uint 1}
    (h : r.findPeerAddress chain = some (k, bump)) : r.createPeerAddress chain bump = some k := by
  obtain ⟨bump', -, hmap⟩ := List.exists_of_findSome?_eq_some h
  obtain ⟨k', hk', he⟩ := Option.map_eq_some_iff.1 hmap
  cases he
  exact hk'

/-! ### Callers -/

theorem ownerOnly_ok (hu : r.utils.AsNamed) {owner : Pubkey}
    (h : ownerOnly r owner s = .ok (c, s')) : s.custodian = some c ∧ owner = c.owner ∧ s' = s := by
  obtain ⟨c', _, hload, h₁⟩ := bind_ok.1 h
  obtain ⟨hc, rfl⟩ := loadAccount_ok.1 hload
  obtain ⟨_, _, hcheck, h₂⟩ := bind_ok.1 h₁
  obtain ⟨howner, rfl⟩ := check_ok.1 hcheck
  obtain ⟨rfl, rfl⟩ := pure_ok.1 h₂
  exact ⟨hc, (hu.onlyOwner _ _).1 howner, rfl⟩

theorem admin_ok (hu : r.utils.AsNamed) {ownerOrAssistant : Pubkey}
    (h : admin r ownerOrAssistant s = .ok (c, s')) :
    s.custodian = some c ∧ (ownerOrAssistant = c.owner ∨ ownerOrAssistant = c.ownerAssistant) ∧
      s' = s := by
  obtain ⟨c', _, hload, h₁⟩ := bind_ok.1 h
  obtain ⟨hc, rfl⟩ := loadAccount_ok.1 hload
  obtain ⟨_, _, hcheck, h₂⟩ := bind_ok.1 h₁
  obtain ⟨hauthorized, rfl⟩ := check_ok.1 hcheck
  obtain ⟨rfl, rfl⟩ := pure_ok.1 h₂
  exact ⟨hc, (hu.onlyAuthorized _ _).1 hauthorized, rfl⟩

theorem feeUpdater_ok {signer : Pubkey} (h : feeUpdater signer s = .ok (u, s')) :
    ∃ c, s.custodian = some c ∧
      (signer = c.feeUpdater ∨ signer = c.owner ∨ signer = c.ownerAssistant) ∧ s' = s := by
  obtain ⟨c, _, hload, h₁⟩ := bind_ok.1 h
  obtain ⟨hc, rfl⟩ := loadAccount_ok.1 hload
  obtain ⟨hsigner, rfl⟩ := check_ok.1 h₁
  exact ⟨c, hc, hsigner, rfl⟩

/-! ### Peers -/

/-- What is checked about a peer before it is written. -/
structure AddPeerArgs.Valid (args : AddPeerArgs) : Prop where
  chain : (args.chain : ℕ) ≠ 0 ∧ (args.chain : ℕ) ≠ SOLANA_CHAIN
  address : args.address ≠ zeroKey
  params : verifyRelayParams args.relayParams = .ok ()

theorem handleAddPeer_ok {storedBump : Uint 1} {args : AddPeerArgs} {bumpSeed : Option (Uint 1)}
    (h : handleAddPeer r k storedBump args bumpSeed s = .ok (u, s')) :
    args.Valid ∧ s' = s.setPeer k
      ⟨⟨args.chain, bumpSeed.getD storedBump⟩, args.address, args.relayParams⟩ := by
  obtain ⟨_, _, hchain, h₁⟩ := bind_ok.1 h
  obtain ⟨hallowed, rfl⟩ := check_ok.1 hchain
  obtain ⟨_, _, haddress, h₂⟩ := bind_ok.1 h₁
  obtain ⟨hne, rfl⟩ := check_ok.1 haddress
  obtain ⟨_, _, hverify, h₃⟩ := bind_ok.1 h₂
  obtain ⟨hparams, rfl⟩ := lift_ok.1 hverify
  obtain ⟨_, _, hseeds, h₄⟩ := bind_ok.1 h₃
  obtain ⟨-, rfl⟩ := peerAddress_ok.1 hseeds
  exact ⟨⟨hallowed, hne, hparams⟩, setPeer_ok.1 h₄⟩

/-- **What a call can do**, with what it has checked about its signer and about what it writes. -/
inductive Effect (r : Build) (s : State) : Call → State → Prop
  | initializeProgram (a : Initialize) (new : s.custodian = none) :
    Effect r s (.initializeProgram a) { s with
      custodian := some ⟨a.owner, none, a.ownerAssistant, a.feeUpdater, a.feeRecipientToken⟩ }
  | addPeer (a : AddPeer) (args : AddPeerArgs) (c : Custodian) (bump : Uint 1)
    (custodian : s.custodian = some c)
    (signed : a.ownerOrAssistant = c.owner ∨ a.ownerOrAssistant = c.ownerAssistant)
    (canonical : r.findPeerAddress args.chain = some (a.peer, bump)) (new : s.peers a.peer = none)
    (valid : args.Valid) :
    Effect r s (.addPeer a args) (s.setPeer a.peer ⟨⟨args.chain, bump⟩, args.address, args.relayParams⟩)
  | updatePeer (a : UpdatePeer) (args : AddPeerArgs) (c : Custodian) (p : Peer)
    (custodian : s.custodian = some c) (signed : a.owner = c.owner) (peer : s.peers a.peer = some p)
    (seeds : r.createPeerAddress args.chain p.seeds.bump = some a.peer) (valid : args.Valid) :
    Effect r s (.updatePeer a args)
      (s.setPeer a.peer ⟨⟨args.chain, p.seeds.bump⟩, args.address, args.relayParams⟩)
  | updateRelayParameters (a : UpdateRelayParameters) (args : UpdateRelayParametersArgs)
    (c : Custodian) (p : Peer) (custodian : s.custodian = some c)
    (signed : a.feeUpdater = c.feeUpdater ∨ a.feeUpdater = c.owner ∨ a.feeUpdater = c.ownerAssistant)
    (peer : s.peers a.peer = some p) (params : verifyRelayParams args.relayParams = .ok ()) :
    Effect r s (.updateRelayParameters a args)
      (s.setPeer a.peer { p with relayParams := args.relayParams })
  | submitOwnershipTransferRequest (a : SubmitOwnershipTransferRequest) (c : Custodian)
    (custodian : s.custodian = some c) (signed : a.owner = c.owner) (new : a.newOwner ≠ a.owner) :
    Effect r s (.submitOwnershipTransferRequest a)
      { s with custodian := some { c with pendingOwner := some a.newOwner } }
  | confirmOwnershipTransferRequest (pendingOwner : Pubkey) (c : Custodian)
    (custodian : s.custodian = some c) (signed : c.pendingOwner = some pendingOwner) :
    Effect r s (.confirmOwnershipTransferRequest pendingOwner)
      { s with custodian := some { c with owner := pendingOwner, pendingOwner := none } }
  | cancelOwnershipTransferRequest (owner : Pubkey) (c : Custodian)
    (custodian : s.custodian = some c) (signed : owner = c.owner) :
    Effect r s (.cancelOwnershipTransferRequest owner)
      { s with custodian := some { c with pendingOwner := none } }
  | updateOwnerAssistant (a : UpdateOwnerAssistant) (c : Custodian)
    (custodian : s.custodian = some c) (signed : a.owner = c.owner) :
    Effect r s (.updateOwnerAssistant a)
      { s with custodian := some { c with ownerAssistant := a.newOwnerAssistant } }
  | updateFeeUpdater (a : UpdateFeeUpdater) (c : Custodian) (custodian : s.custodian = some c)
    (signed : a.ownerOrAssistant = c.owner ∨ a.ownerOrAssistant = c.ownerAssistant) :
    Effect r s (.updateFeeUpdater a) { s with custodian := some { c with feeUpdater := a.newFeeUpdater } }
  | updateFeeRecipient (a : UpdateFeeRecipient) (c : Custodian) (custodian : s.custodian = some c)
    (signed : a.ownerOrAssistant = c.owner ∨ a.ownerOrAssistant = c.ownerAssistant) :
    Effect r s (.updateFeeRecipient a)
      { s with custodian := some { c with feeRecipientToken := a.newFeeRecipientToken } }

theorem addPeer_effect (hu : r.utils.AsNamed) {a : AddPeer} {args : AddPeerArgs}
    (h : addPeer r a args s = .ok (u, s')) : Effect r s (.addPeer a args) s' := by
  obtain ⟨c, _, hadmin, h₁⟩ := bind_ok.1 h
  obtain ⟨hc, hsigned, rfl⟩ := admin_ok hu hadmin
  obtain ⟨bump, _, hseeds, h₂⟩ := bind_ok.1 h₁
  obtain ⟨hcanonical, rfl⟩ := canonicalPeer_ok.1 hseeds
  obtain ⟨_, _, hpayer, h₃⟩ := bind_ok.1 h₂
  obtain ⟨-, rfl⟩ := require_ok.1 hpayer
  obtain ⟨_, _, hget, h₄⟩ := bind_ok.1 h₃
  obtain ⟨rfl, rfl⟩ := get_ok.1 hget
  obtain ⟨_, _, hnew, h₅⟩ := bind_ok.1 h₄
  obtain ⟨hnone, rfl⟩ := require_ok.1 hnew
  obtain ⟨hvalid, rfl⟩ := handleAddPeer_ok h₅
  exact .addPeer a args c bump hc hsigned hcanonical hnone hvalid

theorem updatePeer_effect (hu : r.utils.AsNamed) {a : UpdatePeer} {args : AddPeerArgs}
    (h : updatePeer r a args s = .ok (u, s')) : Effect r s (.updatePeer a args) s' := by
  obtain ⟨c, _, howner, h₁⟩ := bind_ok.1 h
  obtain ⟨hc, hsigned, rfl⟩ := ownerOnly_ok hu howner
  obtain ⟨p, _, hload, h₂⟩ := bind_ok.1 h₁
  obtain ⟨hp, rfl⟩ := loadAccount_ok.1 hload
  obtain ⟨_, _, hseeds, h₃⟩ := bind_ok.1 h₂
  obtain ⟨haddress, rfl⟩ := peerAddress_ok.1 hseeds
  obtain ⟨hvalid, rfl⟩ := handleAddPeer_ok h₃
  exact .updatePeer a args c p hc hsigned hp haddress hvalid

theorem updateRelayParameters_effect {a : UpdateRelayParameters} {args : UpdateRelayParametersArgs}
    (h : updateRelayParameters r a args s = .ok (u, s')) :
    Effect r s (.updateRelayParameters a args) s' := by
  obtain ⟨_, _, hupdater, h₁⟩ := bind_ok.1 h
  obtain ⟨c, hc, hsigned, rfl⟩ := feeUpdater_ok hupdater
  obtain ⟨p, _, hload, h₂⟩ := bind_ok.1 h₁
  obtain ⟨hp, rfl⟩ := loadAccount_ok.1 hload
  obtain ⟨bump, _, hseeds, h₃⟩ := bind_ok.1 h₂
  obtain ⟨-, rfl⟩ := canonicalPeer_ok.1 hseeds
  obtain ⟨_, _, hverify, h₄⟩ := bind_ok.1 h₃
  obtain ⟨hparams, rfl⟩ := lift_ok.1 hverify
  obtain rfl := setPeer_ok.1 h₄
  exact .updateRelayParameters a args c p hc hsigned hp hparams

/-! ### Roles -/

theorem initializeProgram_effect {a : Initialize} (h : initializeProgram r x a s = .ok (u, s')) :
    Effect r s (.initializeProgram a) s' := by
  obtain ⟨t, _, htoken, h₁⟩ := bind_ok.1 h
  obtain ⟨-, -, rfl⟩ := loadTokenAccount_ok htoken
  obtain ⟨upgradeAuthority, _, hdata, h₂⟩ := bind_ok.1 h₁
  obtain ⟨-, rfl⟩ := loadAccount_ok.1 hdata
  obtain ⟨_, _, hpayer, h₃⟩ := bind_ok.1 h₂
  obtain ⟨-, rfl⟩ := require_ok.1 hpayer
  obtain ⟨_, _, hget, h₄⟩ := bind_ok.1 h₃
  obtain ⟨rfl, rfl⟩ := get_ok.1 hget
  obtain ⟨_, _, hnew, h₅⟩ := bind_ok.1 h₄
  obtain ⟨hnone, rfl⟩ := require_ok.1 hnew
  obtain ⟨_, _, hassistant, h₆⟩ := bind_ok.1 h₅
  obtain ⟨-, -, rfl⟩ := checkWallet_ok.1 hassistant
  obtain ⟨_, _, hrecipient, h₇⟩ := bind_ok.1 h₆
  obtain ⟨-, -, rfl⟩ := checkWallet_ok.1 hrecipient
  obtain ⟨_, _, husdc, h₈⟩ := bind_ok.1 h₇
  obtain ⟨-, -, rfl⟩ := checkUsdcAccount_ok.1 husdc
  obtain ⟨_, _, hupdater, h₉⟩ := bind_ok.1 h₈
  obtain ⟨-, -, rfl⟩ := checkWallet_ok.1 hupdater
  obtain ⟨_, _, hdeployer, h₁₀⟩ := bind_ok.1 h₉
  obtain rfl := checkDeployer_ok hdeployer
  obtain rfl := setCustodian_ok.1 h₁₀
  exact .initializeProgram a hnone

theorem submitOwnershipTransferRequest_effect (hu : r.utils.AsNamed)
    {a : SubmitOwnershipTransferRequest} (h : submitOwnershipTransferRequest r a s = .ok (u, s')) :
    Effect r s (.submitOwnershipTransferRequest a) s' := by
  obtain ⟨c, _, howner, h₁⟩ := bind_ok.1 h
  obtain ⟨hc, hsigned, rfl⟩ := ownerOnly_ok hu howner
  obtain ⟨_, _, hzero, h₂⟩ := bind_ok.1 h₁
  obtain ⟨-, rfl⟩ := check_ok.1 hzero
  obtain ⟨_, _, hne, h₃⟩ := bind_ok.1 h₂
  obtain ⟨hnew, rfl⟩ := check_ok.1 hne
  rw [hu.transferOwnership] at h₃
  obtain rfl := setCustodian_ok.1 h₃
  exact .submitOwnershipTransferRequest a c hc hsigned hnew

theorem confirmOwnershipTransferRequest_effect (hu : r.utils.AsNamed) {pendingOwner : Pubkey}
    (h : confirmOwnershipTransferRequest r pendingOwner s = .ok (u, s')) :
    Effect r s (.confirmOwnershipTransferRequest pendingOwner) s' := by
  obtain ⟨c, _, hload, h₁⟩ := bind_ok.1 h
  obtain ⟨hc, rfl⟩ := loadAccount_ok.1 hload
  obtain ⟨_, _, hsome, h₂⟩ := bind_ok.1 h₁
  obtain ⟨-, rfl⟩ := check_ok.1 hsome
  obtain ⟨_, _, hcheck, h₃⟩ := bind_ok.1 h₂
  obtain ⟨hpending, rfl⟩ := check_ok.1 hcheck
  have hsigned := (hu.onlyPendingOwner _ _).1 hpending
  rw [hu.acceptOwnership c pendingOwner hsigned] at h₃
  obtain rfl := setCustodian_ok.1 h₃
  exact .confirmOwnershipTransferRequest pendingOwner c hc hsigned

theorem cancelOwnershipTransferRequest_effect (hu : r.utils.AsNamed) {owner : Pubkey}
    (h : cancelOwnershipTransferRequest r owner s = .ok (u, s')) :
    Effect r s (.cancelOwnershipTransferRequest owner) s' := by
  obtain ⟨c, _, howner, h₁⟩ := bind_ok.1 h
  obtain ⟨hc, hsigned, rfl⟩ := ownerOnly_ok hu howner
  rw [hu.cancelTransferOwnership] at h₁
  obtain rfl := setCustodian_ok.1 h₁
  exact .cancelOwnershipTransferRequest owner c hc hsigned

theorem updateOwnerAssistant_effect (hu : r.utils.AsNamed) {a : UpdateOwnerAssistant}
    (h : updateOwnerAssistant r a s = .ok (u, s')) : Effect r s (.updateOwnerAssistant a) s' := by
  obtain ⟨c, _, howner, h₁⟩ := bind_ok.1 h
  obtain ⟨hc, hsigned, rfl⟩ := ownerOnly_ok hu howner
  obtain ⟨_, _, hzero, h₂⟩ := bind_ok.1 h₁
  obtain ⟨-, rfl⟩ := check_ok.1 hzero
  rw [hu.transferOwnerAssistant] at h₂
  obtain rfl := setCustodian_ok.1 h₂
  exact .updateOwnerAssistant a c hc hsigned

theorem updateFeeUpdater_effect (hu : r.utils.AsNamed) {a : UpdateFeeUpdater}
    (h : updateFeeUpdater r a s = .ok (u, s')) : Effect r s (.updateFeeUpdater a) s' := by
  obtain ⟨c, _, hadmin, h₁⟩ := bind_ok.1 h
  obtain ⟨hc, hsigned, rfl⟩ := admin_ok hu hadmin
  obtain ⟨_, _, hzero, h₂⟩ := bind_ok.1 h₁
  obtain ⟨-, rfl⟩ := check_ok.1 hzero
  obtain rfl := setCustodian_ok.1 h₂
  exact .updateFeeUpdater a c hc hsigned

theorem updateFeeRecipient_effect (hu : r.utils.AsNamed) {a : UpdateFeeRecipient}
    (h : updateFeeRecipient r x a s = .ok (u, s')) : Effect r s (.updateFeeRecipient a) s' := by
  obtain ⟨c, _, hadmin, h₁⟩ := bind_ok.1 h
  obtain ⟨hc, hsigned, rfl⟩ := admin_ok hu hadmin
  obtain ⟨t, _, htoken, h₂⟩ := bind_ok.1 h₁
  obtain ⟨-, -, rfl⟩ := loadTokenAccount_ok htoken
  obtain ⟨_, _, husdc, h₃⟩ := bind_ok.1 h₂
  obtain ⟨-, -, rfl⟩ := checkUsdcAccount_ok.1 husdc
  obtain ⟨_, _, hzero, h₄⟩ := bind_ok.1 h₃
  obtain ⟨-, rfl⟩ := check_ok.1 hzero
  obtain rfl := setCustodian_ok.1 h₄
  exact .updateFeeRecipient a c hc hsigned

/-- **What a successful step has done.** -/
theorem step_effect (hu : r.utils.AsNamed) {i : Surroundings × Call} (h : step r i s = .ok s') :
    Effect r s i.2 s' := by
  obtain ⟨⟨u, t⟩, hok, rfl⟩ := except_map_ok.1 h
  cases hi : i.2 with
  | initializeProgram a => exact initializeProgram_effect (hi ▸ hok)
  | addPeer a args => exact addPeer_effect hu (hi ▸ hok)
  | updatePeer a args => exact updatePeer_effect hu (hi ▸ hok)
  | updateRelayParameters a args => exact updateRelayParameters_effect (hi ▸ hok)
  | submitOwnershipTransferRequest a => exact submitOwnershipTransferRequest_effect hu (hi ▸ hok)
  | confirmOwnershipTransferRequest k => exact confirmOwnershipTransferRequest_effect hu (hi ▸ hok)
  | cancelOwnershipTransferRequest k => exact cancelOwnershipTransferRequest_effect hu (hi ▸ hok)
  | updateOwnerAssistant a => exact updateOwnerAssistant_effect hu (hi ▸ hok)
  | updateFeeUpdater a => exact updateFeeUpdater_effect hu (hi ▸ hok)
  | updateFeeRecipient a => exact updateFeeRecipient_effect hu (hi ▸ hok)

end Effect

end SwapLayer.Solana.Admin
