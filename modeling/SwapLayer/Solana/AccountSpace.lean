import SwapLayer.Lib.Borsh
import SwapLayer.Solana.InboundRuns

/-!
# The space of staged accounts

How many bytes `StagedOutbound` and `StagedInbound` take (`state/staged`), against the space that
`try_compute_size` asks for when the account is created. The space is counted from the arguments, or
from the message; what is stored is made later, and a swap writes a staged transfer once more.

Anchor writes an account as its discriminator and its fields in Borsh. `INIT_SPACE` is the sum of the
largest sizes of the fields. An inbound account that exists already keeps its space.

Results:
* `StagedOutboundInfo.serialize_within`, `StagedInboundInfo.length_serialize`: `INIT_SPACE` is what
  the fields take at most.
* `StagedAs.fits`: what is staged fits, and `StagedOutbound.Fits.spent`: what a swap leaves does.
* `staged_accounts_fit`: the same along every run of a staged transfer, and for staged payloads.
-/

namespace SwapLayer.Solana

open ByteString Program SplToken Messages

/-! ## Outbound -/

namespace StagedOutboundInfo

/-- The fields in the order of the source; the bump comes first. -/
def serialize (custodyTokenBump : Uint 1) (i : StagedOutboundInfo) : Bytes :=
  Borsh.uint 1 custodyTokenBump ++ (i.preparedBy.toList ++ (i.sender.toList ++
    (Borsh.uint 2 i.targetChain ++ (i.recipient.toList ++ (Borsh.bool i.isExactIn ++
      (i.usdcRefundToken.toList ++ Borsh.option (Borsh.uint 8) i.minAmountOut))))))

def INIT_SPACE : ℕ := 1 + (32 + (32 + (2 + (32 + (1 + (32 + (1 + 8)))))))

/-- A key takes 32 bytes. -/
theorem key_within : Borsh.Within (fun k : Fixed 32 => k.toList) 32 :=
  .of_length fun k => k.toList_length

theorem uint_within (n : ℕ) : Borsh.Within (Borsh.uint n) n := .of_length (Borsh.length_uint n)

/-- **`INIT_SPACE` is enough for every info.** -/
theorem serialize_within (custodyTokenBump : Uint 1) :
    Borsh.Within (serialize custodyTokenBump) INIT_SPACE :=
  .append (.of_length fun _ => Borsh.length_uint 1 _) <| .append key_within.field <|
    .append key_within.field <| .append (uint_within 2).field <| .append key_within.field <|
    .append (.of_length fun _ => rfl) <| .append key_within.field (uint_within 8).option.field

end StagedOutboundInfo

/-- The number of the variant, and its fields. -/
def StagedRedeem.serialize : StagedRedeem → Bytes
  | .direct => [0]
  | .relay gasDropoff relayingFee => 1 :: (Borsh.uint 4 gasDropoff ++ Borsh.uint 8 relayingFee)
  | .payload buf => 2 :: Borsh.vec buf

namespace StagedOutbound

/-- The data of the account. -/
def serialize (discriminator : Fixed 8) (custodyTokenBump : Uint 1) (s : StagedOutbound) : Bytes :=
  discriminator.toList ++ (s.info.serialize custodyTokenBump ++
    (s.stagedRedeem.serialize ++ Borsh.vec s.encodedOutputToken))

/-- The account fits into `size` bytes. -/
def Fits (s : StagedOutbound) (size : ℕ) : Prop :=
  ∀ discriminator custodyTokenBump, (s.serialize discriminator custodyTokenBump).length ≤ size

/-- The parts of an account that have no fixed size. -/
theorem fits_of_parts {s : StagedOutbound} {redeem token : ℕ}
    (hredeem : s.stagedRedeem.serialize.length ≤ 1 + redeem)
    (htoken : s.encodedOutputToken.length + 4 ≤ token) :
    s.Fits (STAGED_OUTBOUND_BASE_SIZE + redeem + token) := by
  intro discriminator custodyTokenBump
  have hinfo := StagedOutboundInfo.serialize_within custodyTokenBump s.info
  have hspace : StagedOutboundInfo.INIT_SPACE = 141 := rfl
  have hbase : STAGED_OUTBOUND_BASE_SIZE = 150 := rfl
  simp only [serialize, List.length_append, List.Vector.toList_length, Borsh.length_vec]
  omega

/-- A swap that leaves dust takes the redeem option out and sets the recipient to zero. -/
theorem Fits.spent {s : StagedOutbound} {size : ℕ} (h : s.Fits size) : s.spent.Fits size := by
  intro discriminator custodyTokenBump
  have hdirect : s.spent.stagedRedeem.serialize.length ≤ s.stagedRedeem.serialize.length := by
    show 1 ≤ _
    cases s.stagedRedeem with
    | direct => exact Nat.le_refl 1
    | relay gasDropoff relayingFee => exact Nat.succ_le_succ (Nat.zero_le _)
    | payload buf => exact Nat.succ_le_succ (Nat.zero_le _)
  have hinfo : (s.spent.info.serialize custodyTokenBump).length =
      (s.info.serialize custodyTokenBump).length := by
    simp only [StagedOutboundInfo.serialize, List.length_append, List.Vector.toList_length]
    rfl
  have hwhole := h discriminator custodyTokenBump
  simp only [serialize, List.length_append] at hwhole ⊢
  have htoken : s.spent.encodedOutputToken = s.encodedOutputToken := rfl
  rw [htoken, hinfo]
  omega

end StagedOutbound

section Staged

variable {d : Deployment} {x : Externals} {a : StageOutbound} {args : StageOutboundArgs} {b b' : Bank}

/-- The size of the redeem option in `try_compute_size`. -/
def redeemSize : Option RedeemOption → ℕ
  | some (.relay ..) => 12
  | some (.payload payload) => payload.length + 4
  | none => 0

/-- What is staged for a redeem option takes what was counted for it. -/
theorem stagedRedeem_length {params : RelayParams} {token : OutputToken} {n : ℕ}
    {redeem : StagedRedeem} (h : stagedRedeem .panic d a args params token = .ok (n, redeem)) :
    redeem.serialize.length = 1 + redeemSize args.redeemOption := by
  have hpriced := stagedRedeem_redeems h
  generalize args.redeemOption = option at hpriced
  cases hpriced with
  | direct => rfl
  | payload buf =>
    rw [StagedRedeem.serialize, List.length_cons, Borsh.length_vec, redeemSize, Nat.add_comm 1]
  | relay hfee =>
    rw [StagedRedeem.serialize, List.length_cons, List.length_append, Borsh.length_uint,
      Borsh.length_uint, redeemSize, Nat.add_comm 1]

/-- The encoded output token, or that of USDC. -/
theorem tryComputeSize_ok {size : ℕ}
    (h : StagedOutbound.tryComputeSize args.redeemOption args.encodedOutputToken = .ok size) :
    size = STAGED_OUTBOUND_BASE_SIZE + redeemSize args.redeemOption +
      (args.outputToken.length + 4) := by
  unfold StagedOutbound.tryComputeSize at h
  unfold StageOutboundArgs.outputToken
  cases hencoded : args.encodedOutputToken with
  | none =>
    rw [hencoded] at h
    exact (except_pure_ok.1 h).symm
  | some encoded =>
    rw [hencoded] at h
    obtain ⟨_, -, hret⟩ := except_bind_ok.1 h
    exact (except_pure_ok.1 hret).symm

/-- The account constraints count the space. -/
theorem initStaged_size {peer : Peer} (h : initStaged d x a args b = .ok (peer, b')) :
    ∃ size, StagedOutbound.tryComputeSize args.redeemOption args.encodedOutputToken = .ok size := by
  obtain ⟨_, _, -, h₁⟩ := bind_ok.1 h
  obtain ⟨_, _, -, h₂⟩ := bind_ok.1 h₁
  obtain ⟨_, _, -, h₃⟩ := bind_ok.1 h₂
  obtain ⟨_, _, -, h₄⟩ := bind_ok.1 h₃
  obtain ⟨_, _, -, h₅⟩ := bind_ok.1 h₄
  obtain ⟨size, _, hsize, -⟩ := bind_ok.1 h₅
  exact ⟨size, (lift_ok.1 hsize).1⟩

/-- **What is staged fits into the space that was counted from the arguments.** -/
theorem StagedAs.fits (g : StagedAs d a args b b') {size : ℕ}
    (hsize : StagedOutbound.tryComputeSize args.redeemOption args.encodedOutputToken = .ok size) :
    g.account.Fits size := by
  rw [tryComputeSize_ok hsize]
  exact StagedOutbound.fits_of_parts (Nat.le_of_eq (stagedRedeem_length g.priced)) (Nat.le_refl _)

/-- Wherever a staging stands, its account is as staged, or spent, or gone. -/
theorem Standing.account {s₀ s : StagedOutbound} {old : List MarketOrder}
    (h : Standing d a s₀ old b) (hs : b.outbound a.stagedOutbound = some s) :
    s = s₀ ∨ s = s₀.spent := by
  cases h with
  | fresh c staged => exact .inl (Option.some.inj (hs.symm.trans staged))
  | spent c o staged => exact .inr (Option.some.inj (hs.symm.trans staged))
  | closed new closed => cases hs.symm.trans closed.outbound

end Staged

/-! ## Inbound -/

namespace StagedInbound

/-- `StagedInboundSeeds`. -/
def serializeSeeds (bump : Uint 1) (s : StagedInbound) : Bytes :=
  s.preparedFill.toList ++ Borsh.uint 1 bump

/-- `StagedInboundInfo`. -/
def serializeInfo (s : StagedInbound) : Bytes :=
  s.custodyToken.toList ++ (s.stagedBy.toList ++ (Borsh.uint 2 s.sourceChain ++
    (s.sender.toList ++ (s.recipient.toList ++ Borsh.bool s.isNative))))

/-- The data of the account. -/
def serialize (discriminator : Fixed 8) (bump : Uint 1) (s : StagedInbound) : Bytes :=
  discriminator.toList ++ (s.serializeSeeds bump ++ (s.serializeInfo ++ Borsh.vec s.recipientPayload))

/-- The account fits into `size` bytes. -/
def Fits (s : StagedInbound) (size : ℕ) : Prop :=
  ∀ discriminator bump, (s.serialize discriminator bump).length ≤ size

theorem length_serialize (discriminator : Fixed 8) (bump : Uint 1) (s : StagedInbound) :
    (s.serialize discriminator bump).length =
      s.recipientPayload.length + STAGED_INBOUND_BASE_SIZE := by
  have hbase : STAGED_INBOUND_BASE_SIZE = 176 := rfl
  simp only [serialize, serializeSeeds, serializeInfo, List.length_append, List.Vector.toList_length,
    Borsh.length_uint, Borsh.length_bool, Borsh.length_vec]
  omega

/-- **A staged payload takes the space that was counted from its message.** -/
theorem fits_of_message {m : SwapMessageV1} {sender : Fixed 32} {buf : Prefixed 2} {s : StagedInbound}
    (hmode : m.redeemMode = .payload sender buf) (hs : s.recipientPayload = buf.val) :
    ∃ size, tryComputeSize m = .ok size ∧ s.Fits size := by
  refine ⟨buf.val.length + STAGED_INBOUND_BASE_SIZE, ?_, fun discriminator bump => ?_⟩
  · rw [tryComputeSize, hmode]
  · rw [length_serialize, hs]

end StagedInbound

section Spaces

variable {d : Deployment} {x : Externals} {b b' : Bank}

/-- What a completion has stored for the payload of the message of its fill. -/
def StagesWithin (d : Deployment) (c : ConsumeSwapLayerFill) (b b' : Bank) : Prop :=
  ∃ f m p sender buf s size, c.Loads b f m p ∧ m.redeemMode = .payload sender buf ∧
    b'.inbound (d.stagedInbound c.fill) = some s ∧ s.recipientPayload = buf.val ∧
    StagedInbound.tryComputeSize m = .ok size ∧ s.Fits size

theorem completeTransferPayload_fits {a : CompleteTransferPayload}
    (h : completeTransferPayload d x a b = .ok ((), b')) :
    StagesWithin d a.consumeSwapLayerFill b b' := by
  obtain ⟨f, m, p, sender, buf, t, s, hloads, hmode, -, -, -, rfl, hstaged⟩ :=
    completeTransferPayload_ok h
  obtain ⟨size, hsize, hfits⟩ := StagedInbound.fits_of_message (s := ⟨_, _, _, _, _, _, _, buf.val⟩)
    hmode rfl
  refine ⟨f, m, p, sender, buf, _, size, hloads, hmode, ?_, rfl, hsize, hfits⟩
  rw [hstaged.inbound, Function.update_self]

theorem completeSwapPayload_fits {a : CompleteSwapPayload}
    (h : completeSwapPayload d x a b = .ok ((), b')) :
    StagesWithin d a.consumeSwapLayerFill b b' := by
  obtain ⟨f, m, p, staged, s, t, reply, hstaged⟩ := completeSwapPayload_ok h
  obtain ⟨sender, buf, hmode, rfl⟩ := hstaged.state
  obtain ⟨size, hsize, hfits⟩ := StagedInbound.fits_of_message (s := ⟨_, _, _, _, _, _, _, buf.val⟩)
    hmode rfl
  refine ⟨f, m, p, sender, buf, _, size, hstaged.loads, hmode, ?_, rfl, hsize, hfits⟩
  rw [hstaged.inbound, Function.update_self]

/-- **Staged accounts fit into their space.** What `stage_outbound` stores fits into the space that
it has counted from its arguments, and so does what any later step writes there, as long as the
account exists; what is stored for a payload fits into the space counted from the message. -/
theorem staged_accounts_fit (d : Deployment) :
    (∀ x a args b b₀, stageOutbound d x a args b = .ok ((), b₀) → ∃ size,
      StagedOutbound.tryComputeSize args.redeemOption args.encodedOutputToken = .ok size ∧
      (∃ s₀, b₀.outbound a.stagedOutbound = some s₀ ∧ s₀.Fits size) ∧
      ∀ is s, (run (step d a.stagedOutbound) is b₀).outbound a.stagedOutbound = some s →
        s.Fits size) ∧
    (∀ x a b b', completeTransferPayload d x a b = .ok ((), b') →
      StagesWithin d a.consumeSwapLayerFill b b') ∧
    (∀ x a b b', completeSwapPayload d x a b = .ok ((), b') →
      StagesWithin d a.consumeSwapLayerFill b b') := by
  refine ⟨fun x a args b b₀ h => ?_, fun x a b b' h => completeTransferPayload_fits h,
    fun x a b b' h => completeSwapPayload_fits h⟩
  obtain ⟨g⟩ := stageOutbound_ok h
  obtain ⟨_, _, hinit, -⟩ := bind_ok.1 h
  obtain ⟨size, hsize⟩ := initStaged_size hinit
  have hfits := g.fits hsize
  refine ⟨size, hsize, ⟨g.account, g.outbound, hfits⟩, fun is s hs => ?_⟩
  rcases (standing_run (standing_stageOutbound g) is).account hs with rfl | rfl
  · exact hfits
  · exact hfits.spent

end Spaces

namespace Sample

/-- A payload with at least 5 lamports for the key 70. -/
def swappedPayload : SwapMessageV1 :=
  ⟨key 70, .payload (key 71) ⟨[1, 2, 3], Nat.le_of_ble_eq_true rfl⟩, .gas ⟨uintAt 4 [0, 0, 0, 0] 0,
    uintAt 16 (toBE 16 5) 0, .jupiterV6 ⟨none⟩⟩⟩

/-- The accounts that the staged transfer needs for a swap. -/
def payloadBank (message : Bytes) : Bank :=
  (inboundBank message).withAccounts
    { tokens := fun k =>
        if k = key 11 then some (account .token usdc (key 10) 0)
        else if k = key 12 then some (account .token wrappedSol (key 10) 0)
        else (swapBank message).tokens k
      lamports := fun _ => 1000000 }

def payloadRoute : SharedAccountsRoute :=
  ⟨⟨0, [[]], 0, 0, 0, 0⟩, key 10, key 11, key 15, key 16, key 12, usdc, wrappedSol, [key 73]⟩

/-- A payload of USDC is staged, and one that is swapped by its recipient. -/
theorem payloads_fit :
    (∃ message b', SwapMessageV1.readSlice message = .ok payloadMessage ∧
      completeTransferPayload inboundDeployment (externals .token) ⟨payer, payer, consumeFill⟩
        (inboundBank message) = .ok ((), b') ∧
      StagesWithin inboundDeployment consumeFill (inboundBank message) b') ∧
    ∃ message b', SwapMessageV1.readSlice message = .ok swappedPayload ∧
      completeSwapPayload inboundDeployment jupiter
        ⟨key 70, consumeFill, wrappedSol, .token, payloadRoute⟩ (payloadBank message) = .ok ((), b') ∧
      StagesWithin inboundDeployment consumeFill (payloadBank message) b' := by
  obtain ⟨-, htransfer, hswap⟩ := staged_accounts_fit inboundDeployment
  constructor
  · have hrun : (payloadMessage.toVec.toOption.bind fun message =>
        (completeTransferPayload inboundDeployment (externals .token) ⟨payer, payer, consumeFill⟩
          (inboundBank message)).toOption).isSome = true := by decide +kernel
    obtain ⟨r, hr⟩ := Option.isSome_iff_exists.1 hrun
    obtain ⟨message, hwritten, hcomplete⟩ := Option.bind_eq_some_iff.1 hr
    have hok := toOption_eq_some.1 hcomplete
    exact ⟨message, r.2, SwapMessageV1.readSlice_iff_toVec.2 (toOption_eq_some.1 hwritten), hok,
      htransfer _ _ _ _ hok⟩
  · have hrun : (swappedPayload.toVec.toOption.bind fun message =>
        (completeSwapPayload inboundDeployment jupiter
          ⟨key 70, consumeFill, wrappedSol, .token, payloadRoute⟩ (payloadBank message)).toOption).isSome
        = true := by decide +kernel
    obtain ⟨r, hr⟩ := Option.isSome_iff_exists.1 hrun
    obtain ⟨message, hwritten, hcomplete⟩ := Option.bind_eq_some_iff.1 hr
    have hok := toOption_eq_some.1 hcomplete
    exact ⟨message, r.2, SwapMessageV1.readSlice_iff_toVec.2 (toOption_eq_some.1 hwritten), hok,
      hswap _ _ _ _ hok⟩

end Sample

end SwapLayer.Solana
