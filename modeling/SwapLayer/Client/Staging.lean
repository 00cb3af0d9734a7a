import SwapLayer.Bridge.RustToEvm
import SwapLayer.Client.RelayerFees
import SwapLayer.Solana.DelegatedStaging
import SwapLayer.Solana.RelayFee

/-!
# Staging with the TypeScript client

Model of `stageOutboundIx` of `solana/ts/src/swapLayer/index.ts`, which builds the instruction
`stage_outbound`, and an approval to go with it when the tokens are to be taken by a transfer authority.
An account that the caller leaves out is `none`, one that he sets to null is `some none`. The arguments
are hashed in the encoding that the program hashes, so that the derived address is that of the program.

Results:
* `transferTypes_agree`: what is staged by a transfer authority and what its owner signs.
* `staged_message`: the message that follows from a staging is what the client was asked for.
-/

namespace SwapLayer.Client

open ByteString Program SplToken

/-! ## Requests -/

inductive TransferType
  | native
  | programTransferAuthority
  | sender

inductive RedeemOption
  | relay (gasDropoff : Uint 4) (maxRelayerFee : Uint 8)
  | payload (buf : List UInt8)

/-- The accounts that a caller gives. The peer is given by its chain. -/
structure StageOutboundAccounts where
  payer : Solana.Pubkey
  stagedOutbound : Solana.Pubkey
  usdcRefundToken : Solana.Pubkey
  sender : Option (Option Solana.Pubkey)
  senderToken : Option (Option Solana.Pubkey)
  programTransferAuthority : Option (Option Solana.Pubkey)
  srcMint : Option Solana.Pubkey
  srcTokenProgram : Option TokenProgram
  peer : Option ℕ

structure StageOutboundRequest where
  transferType : TransferType
  amountIn : Uint 8
  minAmountOut : Option (Uint 8)
  isExactIn : Bool
  targetChain : Uint 2
  recipient : Fixed 32
  redeemOption : Option RedeemOption
  outputToken : Option OutputToken

/-- What is thrown. -/
inductive StagingError
  | noMint
  | noSenderToken
  | noSender
  | ownerOffCurve
  | layout (e : IoError)

/-! ## Instructions -/

/-- `createApproveInstruction`. -/
structure Approval where
  account : Option Solana.Pubkey
  delegate : Solana.Pubkey
  owner : Solana.Pubkey
  amount : ℕ

/-- No transaction can be made of an approval for null. -/
def Approval.instruction (p : Approval) : Solana.Instruction Unit :=
  match p.account with
  | some account => Solana.cpi (SplToken.approve .token account p.delegate p.owner p.amount)
  | none => fail .accountNotInitialized

/-- What `stageOutboundIx` returns. -/
structure Staging where
  approveIx : Option Approval
  accounts : Solana.StageOutbound
  args : Solana.StageOutboundArgs

/-- The approval, if there is one. -/
def Staging.approve (s : Staging) : Solana.Instruction Unit :=
  match s.approveIx with
  | some approval => approval.instruction
  | none => pure ()

/-- Both instructions in one transaction, which the payer and the named owner or sender sign. -/
def Staging.transaction (s : Staging) (d : Solana.Deployment) (x : Solana.Externals) :
    Solana.Instruction Unit := do
  s.approve
  Solana.stageOutbound d x s.accounts s.args

def RedeemOption.toRust : RedeemOption → Solana.RedeemOption
  | relay gasDropoff maxRelayerFee => .relay gasDropoff maxRelayerFee.val
  | payload buf => .payload buf

def encodeOutputToken (outputToken : OutputToken) : Except IoError (List UInt8) :=
  outputTokenItem.write outputToken

/-- Null is left for the program to replace. -/
def encodedOutputToken : Option OutputToken → Except StagingError (Option (List UInt8))
  | some outputToken => ((encodeOutputToken outputToken).mapError .layout).map some
  | none => .ok none

/-- The arguments of the instruction. -/
def stageOutboundArgs (r : StageOutboundRequest) : Except StagingError Solana.StageOutboundArgs := do
  let encodedOutputToken ← encodedOutputToken r.outputToken
  return {
    amountIn := r.amountIn.val
    minAmountOut := r.minAmountOut.map Fin.val
    isExactIn := r.isExactIn
    targetChain := r.targetChain.val
    recipient := r.recipient
    redeemOption := r.redeemOption.map RedeemOption.toRust
    encodedOutputToken := encodedOutputToken }

section Build

variable (d : Solana.Deployment) (x : Solana.Externals) (isOnCurve : Solana.Pubkey → Bool)

/-- `getAssociatedTokenAddressSync` with its defaults. -/
def getAssociatedTokenAddressSync (mint owner : Solana.Pubkey) : Except StagingError Solana.Pubkey :=
  if isOnCurve owner then .ok (d.associatedToken owner mint .token) else .error .ownerOffCurve

/-- The owner of a token account, as `getAccount` finds it; the default key if it does not. -/
def tokenOwner (b : Solana.Bank) (senderToken : Option Solana.Pubkey) : Solana.Pubkey :=
  match senderToken.bind b.tokens with
  | some t => if t.program = .token then t.owner else Solana.zeroKey
  | none => Solana.zeroKey

/-- The program of the source mint, which the mint's account names. -/
def srcTokenProgramOf (srcTokenProgram : Option TokenProgram) (srcMint : Solana.Pubkey) :
    Except StagingError TokenProgram :=
  match srcTokenProgram <|> x.mintProgram srcMint with
  | some program => .ok program
  | none => .error .noMint

/-- The token account of a sender who signs: his associated one, unless he names one. -/
def senderTokenOf (srcMint : Solana.Pubkey) (sender senderToken : Option Solana.Pubkey) :
    Except StagingError Solana.Pubkey :=
  match senderToken, sender with
  | some senderToken, _ => .ok senderToken
  | none, some sender => getAssociatedTokenAddressSync d isOnCurve srcMint sender
  | none, none => .error .noSender

/-- `stageOutboundIx`. The accounts of the chain are read in the state `b`. -/
def stageOutboundIx (b : Solana.Bank) (accounts : StageOutboundAccounts) (r : StageOutboundRequest) :
    Except StagingError Staging := do
  let srcMint := accounts.srcMint.getD
    (match r.transferType with
    | .native => d.nativeMint
    | _ => d.usdcMint)
  let srcTokenProgram ← srcTokenProgramOf x accounts.srcTokenProgram srcMint
  let args ← stageOutboundArgs r
  let definedAccounts (sender senderToken : Option Solana.Pubkey) : Solana.StageOutbound := {
    payer := accounts.payer
    sender := sender
    programTransferAuthority := none
    senderToken := senderToken
    targetPeer := accounts.peer.getD r.targetChain.val
    stagedOutbound := accounts.stagedOutbound
    usdcRefundToken := accounts.usdcRefundToken
    srcMint := srcMint
    srcTokenProgram := srcTokenProgram }
  match r.transferType with
  | .native =>
    let sender := accounts.sender.getD (some accounts.payer)
    return ⟨none, definedAccounts sender (accounts.senderToken.getD none), args⟩
  | .programTransferAuthority =>
    let sender := accounts.sender.getD none
    match accounts.senderToken with
    | none => .error .noSenderToken
    | some senderToken =>
      match accounts.programTransferAuthority with
      | none =>
        let programTransferAuthority := d.transferAuthority args
        return ⟨some ⟨senderToken, programTransferAuthority, tokenOwner b senderToken, r.amountIn.val⟩,
          { definedAccounts sender senderToken with
            programTransferAuthority := some programTransferAuthority }, args⟩
      -- an authority that the caller names is left out of the instruction
      | some _ => return ⟨none, definedAccounts sender senderToken, args⟩
  | .sender =>
    let sender := accounts.sender.getD (some accounts.payer)
    let senderToken ← senderTokenOf d isOnCurve srcMint sender accounts.senderToken.join
    return ⟨none, definedAccounts sender (some senderToken), args⟩

end Build

/-! ## By a transfer authority, or by the owner -/

/-- The accounts for a staging that the transfer authority takes from `senderToken`. -/
def StageOutboundAccounts.delegating (a : StageOutboundAccounts) (senderToken : Solana.Pubkey) :
    StageOutboundAccounts :=
  { a with
    sender := none
    senderToken := some (some senderToken)
    programTransferAuthority := none }

/-- The accounts for a staging that `owner` signs. -/
def StageOutboundAccounts.signing (a : StageOutboundAccounts) (senderToken owner : Solana.Pubkey) :
    StageOutboundAccounts :=
  { a with
    sender := some (some owner)
    senderToken := some (some senderToken)
    programTransferAuthority := none }

def StageOutboundRequest.withType (r : StageOutboundRequest) (t : TransferType) :
    StageOutboundRequest :=
  { r with transferType := t }

section TransferTypes

variable {d : Solana.Deployment} {x : Solana.Externals} {isOnCurve : Solana.Pubkey → Bool}
  {b b' : Solana.Bank} {accounts : StageOutboundAccounts} {r : StageOutboundRequest}
  {k owner : Solana.Pubkey} {t : TokenAccount Solana.Pubkey} {s : Staging}

/-- The staging that `s` asks for, with an approval for the amount in instead of a signature. -/
def Staging.delegated (s : Staging) (d : Solana.Deployment) (b : Solana.Bank) (k : Solana.Pubkey)
    (amountIn : ℕ) : Staging where
  approveIx := some ⟨some k, d.transferAuthority s.args, tokenOwner b (some k), amountIn⟩
  accounts := s.accounts.byAuthority d s.args
  args := s.args

/-- What the client builds for the transfer authority, by what it builds for the owner. -/
theorem stageOutboundIx_delegating (owner : Solana.Pubkey) :
    stageOutboundIx d x isOnCurve b (accounts.delegating k) (r.withType .programTransferAuthority) =
      (stageOutboundIx d x isOnCurve b (accounts.signing k owner) (r.withType .sender)).map
        fun s => s.delegated d b k r.amountIn := by
  have hargs : ∀ t, stageOutboundArgs (r.withType t) = stageOutboundArgs r := fun _ => rfl
  unfold stageOutboundIx
  rw [hargs, hargs]
  simp only [StageOutboundAccounts.delegating, StageOutboundAccounts.signing,
    StageOutboundRequest.withType]
  cases srcTokenProgramOf x accounts.srcTokenProgram (accounts.srcMint.getD d.usdcMint) with
  | error e => rfl
  | ok program => cases stageOutboundArgs r <;> rfl

theorem stageOutboundArgs_amountIn {args : Solana.StageOutboundArgs}
    (h : stageOutboundArgs r = .ok args) : args.amountIn = r.amountIn.val := by
  obtain ⟨encoded, -, hargs⟩ := except_bind_ok.1 h
  cases hargs
  rfl

/-- What the client builds for the owner. -/
structure Signed (d : Solana.Deployment) (x : Solana.Externals) (accounts : StageOutboundAccounts)
    (r : StageOutboundRequest) (k owner : Solana.Pubkey) (s : Staging) : Prop where
  approveIx : s.approveIx = none
  accounts : s.accounts = s.accounts.signedBy owner
  senderToken : s.accounts.senderToken = some k
  amountIn : s.args.amountIn = r.amountIn.val

theorem stageOutboundIx_signing
    (h : stageOutboundIx d x isOnCurve b (accounts.signing k owner) (r.withType .sender) = .ok s) :
    Signed d x accounts r k owner s := by
  obtain ⟨program, -, h₁⟩ := except_bind_ok.1 h
  obtain ⟨args, hargs, h₂⟩ := except_bind_ok.1 h₁
  obtain ⟨token, htoken, h₃⟩ := except_bind_ok.1 h₂
  cases htoken
  cases h₃
  exact ⟨rfl, rfl, rfl, stageOutboundArgs_amountIn (r := r) hargs⟩

/-- The client finds the owner of an account of the original token program. -/
theorem tokenOwner_eq (ht : b.tokens k = some t) (hprogram : t.program = .token) :
    tokenOwner b (some k) = t.owner := by
  have hfound : (some k).bind b.tokens = some t := ht
  rw [tokenOwner, hfound]
  exact if_pos hprogram

theorem Signed.transaction (hs : Signed d x accounts r k owner s) :
    s.transaction d x = Solana.stageOutbound d x s.accounts s.args := by
  rw [Staging.transaction, Staging.approve, hs.approveIx]
  rfl

/-- The approval and the staging by the transfer authority, against the staging that the owner signs. -/
theorem delegated_transaction_iff (ht : b.tokens k = some t) (hs : Signed d x accounts r k t.owner s) :
    (s.delegated d b k r.amountIn).transaction d x b = .ok ((), b') ↔
      t.program = .token ∧ ¬Nonempty (Solana.FeeOnTop d b.peers s.accounts s.args) ∧
        s.transaction d x (b.revoke k) = .ok ((), b') := by
  rw [hs.transaction]
  show (Solana.cpi (SplToken.approve .token k (d.transferAuthority s.args) (tokenOwner b (some k))
    r.amountIn.val) >>= fun _ => Solana.stageOutbound d x (s.accounts.byAuthority d s.args) s.args) b = _ ↔ _
  -- the state between the two instructions
  let b₁ := b.withAccounts
    (b.accounts.redelegate k (some (d.transferAuthority s.args)) r.amountIn)
  have ht₁ : b₁.tokens k = some (t.delegated (some (d.transferAuthority s.args)) r.amountIn) := by
    refine Accounts.redelegate_tokens_self.trans ?_
    exact congrArg (Option.map _) ht
  have hrevoke : b₁.revoke k = b.revoke k :=
    congrArg b.withAccounts Accounts.redelegate_redelegate
  have hstage : Solana.stageOutbound d x (s.accounts.byAuthority d s.args) s.args b₁ = .ok ((), b') ↔ _ :=
    Solana.stageOutbound_byAuthority_iff hs.senderToken ht₁ rfl
  rw [hrevoke] at hstage
  have hsigned : s.accounts.signedBy
      (t.delegated (some (d.transferAuthority s.args)) r.amountIn).owner = s.accounts := hs.accounts.symm
  rw [hsigned] at hstage
  have happrove : ∀ {u : Unit} {c : Solana.Bank}, Solana.cpi (SplToken.approve .token k
      (d.transferAuthority s.args) (tokenOwner b (some k)) r.amountIn.val) b = .ok (u, c) ↔
        t.program = .token ∧ c = b₁ := by
    intro u c
    rw [Solana.cpi_ok]
    constructor
    · rintro ⟨s', h, rfl⟩
      obtain ⟨hprogram, -, rfl⟩ := (approve_redelegates ht).1 h
      exact ⟨hprogram, rfl⟩
    · rintro ⟨hprogram, rfl⟩
      exact ⟨_, (approve_redelegates ht).2 ⟨hprogram, (tokenOwner_eq ht hprogram).symm, rfl⟩, rfl⟩
  constructor
  · intro h
    obtain ⟨u, c, happroved, hrest⟩ := bind_ok.1 h
    obtain ⟨hprogram, rfl⟩ := happrove.1 happroved
    obtain ⟨⟨m⟩, hsigned⟩ := hstage.1 hrest
    exact ⟨hprogram, (Solana.transfers_amountIn_iff m).1 hs.amountIn.symm, hsigned⟩
  · rintro ⟨hprogram, hfee, hsigned⟩
    refine bind_ok.2 ⟨(), b₁, happrove.2 ⟨hprogram, rfl⟩, hstage.2 ⟨?_, hsigned⟩⟩
    obtain ⟨stages⟩ := Solana.stageOutbound_iff.1 hsigned
    have hamount : stages.amount = r.amountIn.val :=
      ((Solana.transfers_amountIn_iff stages.transfers).2 hfee).trans hs.amountIn
    exact ⟨hamount ▸ stages.transfers⟩

/-- **Both transfer types stage alike.** What the client builds for a transfer authority goes through iff
the account is one of the original token program, no relaying fee comes on top of the amount in, and what
it builds for the owner to sign goes through with the delegate dismissed; both leave the same state. -/
theorem transferTypes_agree (ht : b.tokens k = some t) :
    (∃ s, stageOutboundIx d x isOnCurve b (accounts.delegating k)
        (r.withType .programTransferAuthority) = .ok s ∧ s.transaction d x b = .ok ((), b')) ↔
      t.program = .token ∧
        ∃ s, stageOutboundIx d x isOnCurve b (accounts.signing k t.owner) (r.withType .sender) = .ok s ∧
          ¬Nonempty (Solana.FeeOnTop d b.peers s.accounts s.args) ∧
          s.transaction d x (b.revoke k) = .ok ((), b') := by
  rw [stageOutboundIx_delegating t.owner]
  cases hbuild : stageOutboundIx d x isOnCurve b (accounts.signing k t.owner) (r.withType .sender) with
  | error e => exact ⟨fun ⟨_, h, _⟩ => (by cases h), fun ⟨_, _, h, _⟩ => (by cases h)⟩
  | ok s =>
    have hs := stageOutboundIx_signing hbuild
    constructor
    · rintro ⟨_, h, hrun⟩
      cases h
      obtain ⟨hprogram, hfee, hstage⟩ := (delegated_transaction_iff ht hs).1 hrun
      exact ⟨hprogram, s, rfl, hfee, hstage⟩
    · rintro ⟨hprogram, _, h, hfee, hstage⟩
      cases h
      exact ⟨_, rfl, (delegated_transaction_iff ht hs).2 ⟨hprogram, hfee, hstage⟩⟩

end TransferTypes

/-! ## What arrives -/

section Arrival

variable {d : Solana.Deployment} {x : Solana.Externals} {isOnCurve : Solana.Pubkey → Bool}
  {b b' : Solana.Bank} {accounts : StageOutboundAccounts} {r : StageOutboundRequest} {s : Staging}
  {args : Solana.StageOutboundArgs}

/-- The output token that is asked for. -/
def StageOutboundRequest.token (r : StageOutboundRequest) : OutputToken := r.outputToken.getD .usdc

/-- The arguments say what was asked for. -/
structure ArgsOf (r : StageOutboundRequest) (args : Solana.StageOutboundArgs) : Prop where
  targetChain : args.targetChain = r.targetChain.val
  recipient : args.recipient = r.recipient
  redeemOption : args.redeemOption = r.redeemOption.map RedeemOption.toRust
  outputToken : r.token.toRust.write = .ok args.outputToken

theorem stageOutboundArgs_ok (h : stageOutboundArgs r = .ok args) : ArgsOf r args := by
  obtain ⟨encoded, hencoded, hargs⟩ := except_bind_ok.1 h
  cases hargs
  refine ⟨rfl, rfl, rfl, ?_⟩
  unfold StageOutboundRequest.token
  cases htoken : r.outputToken with
  | none =>
    rw [htoken] at hencoded
    cases hencoded
    rfl
  | some token =>
    rw [htoken] at hencoded
    obtain ⟨bytes, hbytes, rfl⟩ := except_map_ok.1 hencoded
    exact (outputTokenItem_write token).symm.trans (except_mapError_ok.1 hbytes)

/-- The output token that the program reads. -/
theorem ArgsOf.read (h : ArgsOf r args) {e : Solana.Error} {token : Messages.OutputToken}
    (hread : Solana.readOutputToken args.outputToken e = .ok token) : token = r.token.toRust := by
  obtain ⟨rest, hrest⟩ := Solana.readOutputToken_ok.1 hread
  have hwritten : Messages.OutputToken.read args.outputToken = .ok (r.token.toRust, []) :=
    (Messages.OutputToken.read_inverse _ _ _).2 ⟨_, h.outputToken, (List.append_nil _).symm⟩
  exact congrArg Prod.fst (Except.ok.inj (hrest.symm.trans hwritten))

/-- A path that is written is short. -/
theorem ArgsOf.shortPath (h : ArgsOf r args) : Solana.ShortPath r.token.toRust := by
  intro swap hswap
  have hvalid := (Messages.OutputToken.write_isOk _).1 ⟨_, h.outputToken⟩
  have hle : swap.swapType.hops ≤ 255 := by
    by_contra hlong
    exact hvalid ⟨swap, hswap, .inr (Nat.lt_of_not_le hlong)⟩
  exact Nat.lt_of_le_of_lt hle (by decide)

/-- The redeem mode of the message for a redeem option. A relaying fee is within its maximum, and is what
the client quotes for the parameters of the peer. -/
inductive Asked (params : Solana.RelayParams) (token : OutputToken) (sender : Fixed 32) :
    Option RedeemOption → RedeemMode → Prop
  | direct : Asked params token sender none .direct
  | payload (buf : List UInt8) (h : buf.length < 256 ^ 2) :
    Asked params token sender (some (.payload buf)) (.payload sender ⟨buf, h⟩)
  | relay {gasDropoff : Uint 4} {maxRelayerFee : Uint 8} {fee : Uint 6} (hmax : fee.val ≤ maxRelayerFee.val)
    (hquote : params.InRange →
      calculateRelayerFee (ofRust params) (1000 * gasDropoff) token = .ok fee.val) :
    Asked params token sender (some (.relay gasDropoff maxRelayerFee)) (.relay gasDropoff fee)

/-- What the program puts into the message is what the client asked for. -/
theorem asked_of_requested (h : ArgsOf r args) {params : Solana.RelayParams} {sender : Fixed 32}
    {mode : Messages.RedeemMode}
    (hmax : ∀ gasDropoff maxRelayerFee fee, args.redeemOption = some (.relay gasDropoff maxRelayerFee) →
      Solana.calculateRelayerFee params gasDropoff r.token.toRust = .ok fee → fee ≤ maxRelayerFee)
    (hmode : Solana.Requested params r.token.toRust sender args.redeemOption mode) :
    ∃ m : RedeemMode, m.toRust = mode ∧ Asked params r.token sender r.redeemOption m := by
  have hoption := h.redeemOption
  cases hasked : r.redeemOption with
  | none =>
    rw [hoption, hasked] at hmode
    cases hmode
    exact ⟨.direct, rfl, .direct⟩
  | some option =>
    rw [hasked] at hoption
    rw [hoption] at hmode
    cases option with
    | payload buf =>
      obtain ⟨hlen, rfl⟩ := hmode
      exact ⟨.payload sender ⟨buf, hlen⟩, rfl, .payload buf hlen⟩
    | relay gasDropoff maxRelayerFee =>
      obtain ⟨fee, hfee, rfl⟩ := hmode
      refine ⟨.relay gasDropoff fee, rfl, .relay (hmax _ _ _ hoption hfee) fun hrange => ?_⟩
      obtain ⟨gasPrice, gasPriceMargin, hpriced, -, -, -, hexact⟩ :=
        (Solana.calculateRelayerFee_ok hrange gasDropoff.isLt h.shortPath).1 hfee
      exact calculateRelayerFee_ok.2 ⟨gasPrice, gasPriceMargin, hpriced, hexact⟩

/-- Who stages: the sender who signs, or the owner of the account that is delegated. -/
inductive Stager (s : Staging) (b : Solana.Bank) : Solana.Pubkey → Prop
  | signs {sender : Solana.Pubkey} (h : s.accounts.sender = some sender) : Stager s b sender
  | delegates {senderToken : Solana.Pubkey} {t : TokenAccount Solana.Pubkey}
    (hsender : s.accounts.sender = none) (htoken : s.accounts.senderToken = some senderToken)
    (ht : b.tokens senderToken = some t) : Stager s b t.owner

/-- The state in which the second instruction starts: the delegation may be another one. -/
structure Approved (b c : Solana.Bank) : Prop where
  peers : c.peers = b.peers
  owner : ∀ k t, c.tokens k = some t → ∃ t₀, b.tokens k = some t₀ ∧ t₀.owner = t.owner

theorem Staging.approve_ok {u : Unit} (h : s.approve b = .ok (u, b')) : Approved b b' := by
  unfold Staging.approve at h
  cases happrove : s.approveIx with
  | none =>
    rw [happrove] at h
    obtain ⟨-, rfl⟩ := pure_ok.1 h
    exact ⟨rfl, fun k t ht => ⟨t, ht, rfl⟩⟩
  | some approval =>
    rw [happrove] at h
    replace h : approval.instruction b = .ok (u, b') := h
    unfold Approval.instruction at h
    cases haccount : approval.account with
    | none =>
      rw [haccount] at h
      exact (fail_ok.1 h).elim
    | some account =>
      rw [haccount] at h
      obtain ⟨c, hop, rfl⟩ := Solana.cpi_ok.1 h
      obtain ⟨a, ha, -, -, rfl⟩ := SplToken.approve_ok.1 hop
      refine ⟨rfl, fun k t ht => ?_⟩
      by_cases hk : k = account
      · subst hk
        cases (Function.update_self ..).symm.trans ht
        exact ⟨a, ha, rfl⟩
      · exact ⟨t, (Function.update_of_ne hk ..).symm.trans ht, rfl⟩

/-- The recorded sender is the one who stages. -/
theorem stager_of_staged {c : Solana.Bank} (hc : Approved b c)
    (h : Solana.stageOutbound d x s.accounts s.args c = .ok ((), b'))
    (g : Solana.StagedAs d s.accounts s.args c b') : Stager s b g.sender := by
  cases hsender : s.accounts.sender with
  | some sender =>
    rw [← g.signed sender hsender]
    exact .signs hsender
  | none =>
    obtain ⟨stages⟩ := Solana.stageOutbound_iff.1 h
    obtain ⟨authority, senderToken, hauthority, htoken⟩ := stages.unsigned hsender
    obtain ⟨t, ht, ⟨e⟩⟩ := Solana.stageOutbound_delegated hauthority htoken h
    obtain ⟨t₀, ht₀, howner⟩ := hc.owner _ _ ht
    have hrecord := congrArg (fun s => s.info.sender) (Option.some.inj (g.outbound.symm.trans e.outbound))
    have hsame : g.sender = t₀.owner := hrecord.trans howner.symm
    rw [hsame]
    exact .delegates hsender htoken ht₀

/-- The client stages the account that it was given. -/
theorem stageOutboundIx_ok (h : stageOutboundIx d x isOnCurve b accounts r = .ok s) :
    ArgsOf r s.args ∧ s.accounts.stagedOutbound = accounts.stagedOutbound := by
  obtain ⟨program, -, h₁⟩ := except_bind_ok.1 h
  obtain ⟨args, hargs, h₂⟩ := except_bind_ok.1 h₁
  have hof := stageOutboundArgs_ok hargs
  cases htype : r.transferType with
  | native =>
    simp only [htype] at h₂
    cases h₂
    exact ⟨hof, rfl⟩
  | programTransferAuthority =>
    simp only [htype] at h₂
    cases htoken : accounts.senderToken with
    | none =>
      rw [htoken] at h₂
      cases h₂
    | some senderToken =>
      rw [htoken] at h₂
      cases hauthority : accounts.programTransferAuthority with
      | none =>
        rw [hauthority] at h₂
        cases h₂
        exact ⟨hof, rfl⟩
      | some authority =>
        rw [hauthority] at h₂
        cases h₂
        exact ⟨hof, rfl⟩
  | sender =>
    simp only [htype] at h₂
    obtain ⟨token, -, h₃⟩ := except_bind_ok.1 h₂
    cases h₃
    exact ⟨hof, rfl⟩

/-- **What is staged with the client arrives as it was asked for.** After every run from a staging at most
one order has followed. It goes to the target chain, its message is decoded to the recipient, the redeem
mode (with a fee within the maximum, the one that the client quotes) and the output token of the request
by the client and by the Rust reader, and if the recipient is an EVM address every contract parses it to
the end and finds the same, but for a swap with Jupiter, which is of no type that it knows. -/
theorem staged_message (h : stageOutboundIx d x isOnCurve b accounts r = .ok s)
    (hrun : s.transaction d x b = .ok ((), b')) (is : List (Solana.Externals × Solana.Act)) :
    ∃ (peer : Solana.Peer) (sender : Fixed 32) (new : List Solana.MarketOrder),
      b.peers r.targetChain = some peer ∧ Stager s b sender ∧
      Solana.ordersOf d accounts.stagedOutbound
          (run (Solana.step d accounts.stagedOutbound) is b') =
        Solana.ordersOf d accounts.stagedOutbound b' ++ new ∧ new.length ≤ 1 ∧
      ∀ o ∈ new, o.targetChain = r.targetChain ∧
        ∃ mode, Asked peer.relayParams r.token sender r.redeemOption mode ∧
          decodeSwapLayerMessage o.redeemerMessage = .ok ⟨r.recipient, mode, r.token⟩ ∧
          Messages.SwapMessageV1.readSlice o.redeemerMessage =
            .ok ⟨r.recipient, mode.toRust, r.token.toRust⟩ ∧
          ∀ (target : Evm.Deployment) (addr : Evm.Address), r.recipient = Evm.toUniversalAddress addr →
            ∃ sms, Bridge.redeemParse target o.redeemerMessage =
                .ok (sms, Bridge.evmOutput target r.token.toRust) ∧ sms.recipient = addr ∧
              Bridge.ReadWholly target o.redeemerMessage
                (SwapLayerMessage.toRust ⟨r.recipient, mode, r.token⟩) sms := by
  obtain ⟨hargs, hstaged⟩ := stageOutboundIx_ok h
  obtain ⟨u, c, happrove, hstage⟩ := bind_ok.1 hrun
  have hc := Staging.approve_ok happrove
  obtain ⟨g⟩ := Solana.stageOutbound_funded hstage
  obtain ⟨new, horders, hle, hall⟩ := Solana.ordered_run g.toStagedAs is
  rw [hstaged] at horders
  have hpeer : b.peers r.targetChain = some g.peer := by
    rw [← hc.peers, ← hargs.targetChain, g.chain]
    exact g.registered
  refine ⟨g.peer, g.sender, new, hpeer, stager_of_staged hc hstage g.toStagedAs, horders, hle,
    fun o ho => ⟨(hall o ho).chain.trans hargs.targetChain, ?_⟩⟩
  obtain ⟨mode, hrequested, hread⟩ := (hall o ho).message
  rw [hargs.read g.decoded] at hrequested hread
  obtain ⟨m, rfl, hasked⟩ := asked_of_requested hargs (fun gasDropoff maxRelayerFee fee hoption hfee =>
    (g.relay_fee hoption (hargs.read g.decoded ▸ hfee)).1) hrequested
  rw [hargs.recipient] at hread
  refine ⟨m, hasked, decodeSwapLayerMessage_iff.2 hread, hread, fun target addr haddr => ?_⟩
  have hzero : Evm.upperBytesZero r.recipient = true :=
    haddr ▸ Evm.upperBytesZero_toUniversalAddress addr
  obtain ⟨sms, hsms⟩ := (Bridge.parseSwapMessageStructure_readSlice hread).2 hzero
  have hwhole := Bridge.readWholly_of_structure target hread hsms
  refine ⟨sms, Bridge.redeemParse_of_structure target hread hsms, ?_, hwhole⟩
  exact Evm.toUniversalAddress_injective (hwhole.recipient.trans haddr)

end Arrival

namespace Sample

open Solana.Sample (deployment externals bank key payer sender senderToken staged usdc)

/-- 100 USDC for an address on chain 2, as USDC. -/
def directRequest : StageOutboundRequest :=
  ⟨.sender, uintAt 8 [0, 0, 0, 0, 0, 0, 0, 100] 0, none, true, uintAt 2 [0, 2] 0, key 70, none, none⟩

/-- The accounts that are derived or looked up are left out. -/
def givenAccounts : StageOutboundAccounts :=
  ⟨payer, staged, key 24, none, none, none, none, none, none⟩

/-- The sender signs nothing but the approval, or everything. -/
theorem direct_agrees : ∃ b', ∃ s s' : Staging,
    stageOutboundIx deployment (externals .token) (fun _ => true) (bank .token usdc)
      (givenAccounts.delegating senderToken) (directRequest.withType .programTransferAuthority) = .ok s ∧
    s.transaction deployment (externals .token) (bank .token usdc) = .ok ((), b') ∧
    stageOutboundIx deployment (externals .token) (fun _ => true) (bank .token usdc)
      (givenAccounts.signing senderToken sender) (directRequest.withType .sender) = .ok s' ∧
    s'.transaction deployment (externals .token) ((bank .token usdc).revoke senderToken) =
      .ok ((), b') := by
  have hrun : (stageOutboundIx deployment (externals .token) (fun _ => true) (bank .token usdc)
      (givenAccounts.delegating senderToken)
      (directRequest.withType .programTransferAuthority)).toOption.map (fun s =>
        (s.transaction deployment (externals .token) (bank .token usdc)).toOption.isSome) =
          some true := by
    decide +kernel
  obtain ⟨s, hs, hsome⟩ := Option.map_eq_some_iff.1 hrun
  obtain ⟨⟨u, b'⟩, hok⟩ := Option.isSome_iff_exists.1 hsome
  have hbuild := toOption_eq_some.1 hs
  have htransaction := toOption_eq_some.1 hok
  obtain ⟨-, s', hbuild', -, htransaction'⟩ := (transferTypes_agree
    (t := Solana.Sample.account .token usdc sender 1000) rfl).1 ⟨s, hbuild, htransaction⟩
  exact ⟨b', s, s', hbuild, htransaction, hbuild', htransaction'⟩

/-- The same for a relay, with the fee on top. -/
def relayRequest : StageOutboundRequest :=
  { directRequest with
    isExactIn := false
    redeemOption := some (.relay (uintAt 4 [0, 0, 0, 5] 0) (uintAt 8 [0, 0, 0, 0, 0, 0, 3, 232] 0)) }

/-- The staging of the sender is sent, and read. -/
theorem relay_arrives : ∃ s b' o mode,
    stageOutboundIx deployment (externals .token) (fun _ => true) (bank .token usdc)
      (givenAccounts.signing senderToken sender) relayRequest = .ok s ∧
    s.transaction deployment (externals .token) (bank .token usdc) = .ok ((), b') ∧
    Solana.ordersOf deployment staged (run (Solana.step deployment staged)
      [(externals .token, .transfer payer 2)] b') = [o] ∧ o.amountIn = 110 ∧
    decodeSwapLayerMessage o.redeemerMessage = .ok ⟨key 70, mode, .usdc⟩ := by
  have hrun : (stageOutboundIx deployment (externals .token) (fun _ => true) (bank .token usdc)
      (givenAccounts.signing senderToken sender) relayRequest).toOption.bind (fun s =>
        (s.transaction deployment (externals .token) (bank .token usdc)).toOption.map fun r =>
          (Solana.ordersOf deployment staged r.2, (Solana.ordersOf deployment staged
            (run (Solana.step deployment staged) [(externals .token, .transfer payer 2)] r.2)).map
              Solana.MarketOrder.amountIn)) = some ([], [110]) := by
    decide +kernel
  obtain ⟨s, hs, hrest⟩ := Option.bind_eq_some_iff.1 hrun
  obtain ⟨⟨u, b'⟩, hok, horders⟩ := Option.map_eq_some_iff.1 hrest
  obtain ⟨hnone, hone⟩ := Prod.mk.inj horders
  have hbuild := toOption_eq_some.1 hs
  have htransaction := toOption_eq_some.1 hok
  obtain ⟨o, ho, hamount⟩ := List.map_eq_singleton_iff.1 hone
  obtain ⟨peer, who, new, -, -, hnew, -, hall⟩ := staged_message
    hbuild htransaction [(externals .token, .transfer payer 2)]
  have hsent : [o] = new := ho.symm.trans (hnew.trans (congrArg (· ++ new) hnone))
  have hmem : o ∈ new := by
    rw [← hsent]
    exact List.mem_singleton.2 rfl
  obtain ⟨-, mode, -, hread, -⟩ := hall o hmem
  exact ⟨s, b', o, mode, hbuild, htransaction, ho, hamount, hread⟩

end Sample

end SwapLayer.Client
