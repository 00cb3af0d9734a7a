import SwapLayer.Solana.AccountSpace
import SwapLayer.Solana.Redemption

/-!
# Instructions and their unwraps

The instructions unwrap values that have been checked elsewhere: in an account constraint, in the size
of an account, or in an earlier transaction. An unwrap that fails makes the outcome of its instruction
the error `e` that the instruction was given, as nothing catches an error.

* `read_message_unchecked` is called in the constraints of the completions, in
  `is_valid_output_swap`, for the space of a staged transfer and in the handlers.
* `limit_amount` becomes a `u64` in `handle_complete_swap_jup_v6`, and `handle_complete_transfer_relay`
  subtracts what the user gets from the fill.
* `stage_outbound` reads the output token again and unwraps `min_amount_out`, as
  `initiate_swap_exact_in` does; `to_swap_message_v1` unwraps the relaying fee as a `Uint48`, and its
  message is serialised.

Results: the outcome is the same for all `e`.
* `completion_eq`, `stageOutbound_eq`: in every state.
* `initiateTransfer_eq`, `initiateSwapExactIn_eq`: where the staged account is in order.
-/

namespace SwapLayer.Solana

open ByteString Program SplToken Messages

namespace Unwrapping

/-! ## No completion depends on an unwrap -/

section Completions

variable {e e' : Error} {d : Deployment} {x : Externals} {b b' : Bank} {u : Unit}

/-- What follows the constraints of the fill may take the message as read. -/
theorem load_congr {α : Type} {c : ConsumeSwapLayerFill}
    {i j : PreparedFill × SwapMessageV1 × Peer → Instruction α}
    (h : ∀ f m p, (∀ e, readMessageUnchecked e f = .ok m) → i (f, m, p) = j (f, m, p)) :
    (c.load >>= i) = (c.load >>= j) := by
  funext b
  refine bind_congr_ok fun ⟨f, m, p⟩ b' hload => congrFun (h f m p fun e => ?_) b'
  exact (ConsumeSwapLayerFill.load_ok.1 hload).1.read

theorem completeTransferDirect_eq (a : CompleteTransferDirect) :
    completeTransferDirectOr e d x a = completeTransferDirectOr e' d x a :=
  load_congr fun f m p hread => by simp only [hread]

theorem completeTransferPayload_eq (a : CompleteTransferPayload) :
    completeTransferPayloadOr e d x a = completeTransferPayloadOr e' d x a :=
  load_congr fun f m p hread => by simp only [hread]

/-! ### Relays -/

/-- **The user never gets more than the fill.** -/
theorem relayUserAmount_le {a : CompleteTransferRelay} {gasDropoff relayingFee fillAmount n : ℕ}
    (h : relayUserAmount a gasDropoff relayingFee fillAmount b = .ok (n, b')) : n ≤ fillAmount := by
  unfold relayUserAmount at h
  split at h
  · exact Nat.le_of_eq (pure_ok.1 h).1
  · obtain ⟨_, _, -, h₁⟩ := bind_ok.1 h
    obtain ⟨_, _, -, h₂⟩ := bind_ok.1 h₁
    rw [(pure_ok.1 h₂).1]
    exact Nat.sub_le _ _

theorem payFeeRecipient_eq {a : CompleteTransferRelay} {fillAmount n : ℕ} (h : n ≤ fillAmount) :
    payFeeRecipient e d a fillAmount n = payFeeRecipient e' d a fillAmount n := by
  simp only [payFeeRecipient, subUnwrap, if_pos h]

theorem handleCompleteTransferRelay_eq (a : CompleteTransferRelay) (gasDropoff relayingFee : ℕ) :
    handleCompleteTransferRelay e d x a gasDropoff relayingFee =
      handleCompleteTransferRelay e' d x a gasDropoff relayingFee := by
  funext b
  refine bind_congr_ok fun fillAmount b₁ _ => bind_congr_ok fun n b₂ hn => ?_
  have hfee : payFeeRecipient e d a fillAmount n = payFeeRecipient e' d a fillAmount n :=
    payFeeRecipient_eq (relayUserAmount_le hn)
  simp only [settleRelay, hfee]

/-- What follows the constraints of a relay may take its message as read. -/
theorem initCompleteRelay_congr {α : Type} {a : CompleteTransferRelay}
    {i j : SwapMessageV1 → Instruction α} (h : ∀ m, i m = j m) :
    (initCompleteRelay e d x a >>= fun fill => lift (readMessageUnchecked e fill) >>= i) =
      (initCompleteRelay e' d x a >>= fun fill => lift (readMessageUnchecked e' fill) >>= j) := by
  simp only [initCompleteRelay, bind_assoc, pure_bind]
  refine load_congr fun f m p hread => ?_
  simp only [hread, lift_ok_bind, h]

theorem completeTransferRelay_eq (a : CompleteTransferRelay) :
    completeTransferRelayOr e d x a = completeTransferRelayOr e' d x a := by
  refine initCompleteRelay_congr fun m => ?_
  cases m.redeemMode with
  | direct => rfl
  | payload sender buf => rfl
  | relay gasDropoff relayingFee => exact handleCompleteTransferRelay_eq a _ _

/-! ### Swaps -/

theorem limitAndParams_eq {swap : OutputSwap} (h : (swap.limitAmount : ℕ) < U64) :
    limitAndParams e swap = limitAndParams e' swap := by
  simp only [limitAndParams, if_pos h]

/-- **The limit is a `u64`**: `is_valid_output_swap` has checked it in the same message. -/
theorem requestedSwap_eq {payer dstMint : Pubkey} {msg : SwapMessageV1}
    {recipient : Option RecipientAccounts} (h : isValidOutputSwap d x msg dstMint = .ok u) :
    requestedSwap e d payer msg recipient = requestedSwap e' d payer msg recipient := by
  unfold requestedSwap
  cases hswap : outputSwap d msg.outputToken with
  | none => rfl
  | some r =>
    obtain ⟨mint, swap⟩ := r
    have hlimit := ((isValidOutputSwap_ok.1 h).2 mint swap hswap).limit
    exact congrArg (Except.map some) (limitAndParams_eq hlimit)

theorem handleCompleteSwapJupV6_eq {a : HandleCompleteSwap} {route : SharedAccountsRoute} {inAmount : ℕ}
    {msg : SwapMessageV1} {recipient : Option RecipientAccounts} {gasDropoff : ℕ}
    (h : isValidOutputSwap d x msg a.dstMint = .ok u) :
    handleCompleteSwapJupV6 e d x a route inAmount msg recipient gasDropoff =
      handleCompleteSwapJupV6 e' d x a route inAmount msg recipient gasDropoff := by
  unfold handleCompleteSwapJupV6
  rw [requestedSwap_eq h]

/-- What follows the constraints of a swap may take its message as read, and valid. -/
theorem loadSwap_congr {α : Type} {a : CompleteSwap} {i j : SwapMessageV1 → Instruction α}
    (h : ∀ m, isValidOutputSwap d x m a.dstMint = .ok () → i m = j m) :
    (a.load e d x >>= fun fill => lift (readMessageUnchecked e fill) >>= i) =
      (a.load e' d x >>= fun fill => lift (readMessageUnchecked e' fill) >>= j) := by
  simp only [CompleteSwap.load, bind_assoc, pure_bind]
  refine load_congr fun f m p hread => ?_
  simp only [hread, lift_ok_bind]
  funext b
  refine bind_congr_ok fun _ b' hload => congrFun (h m ?_) b'
  exact (HandleCompleteSwap.load_ok.1 hload).1.2.1

theorem completeSwapDirect_eq (a : CompleteSwap) :
    completeSwapDirectOr e d x a = completeSwapDirectOr e' d x a := by
  refine loadSwap_congr fun m hvalid => ?_
  funext b
  refine bind_congr_ok fun n b' _ => ?_
  cases m.redeemMode with
  | direct => exact congrFun (handleCompleteSwapJupV6_eq hvalid) b'
  | payload sender buf => rfl
  | relay gasDropoff relayingFee => rfl

theorem completeSwapRelay_eq (a : CompleteSwap) :
    completeSwapRelayOr e d x a = completeSwapRelayOr e' d x a := by
  refine loadSwap_congr fun m hvalid => ?_
  cases m.redeemMode with
  | direct => rfl
  | payload sender buf => rfl
  | relay gasDropoff relayingFee =>
    funext b
    exact bind_congr_ok fun n b₁ _ => bind_congr_ok fun r b₂ _ =>
      congrFun (handleCompleteSwapJupV6_eq hvalid) b₂

theorem completeSwapPayload_eq (a : CompleteSwapPayload) :
    completeSwapPayloadOr e d x a = completeSwapPayloadOr e' d x a := by
  refine load_congr fun f m p hread => ?_
  simp only [hread, lift_ok_bind]
  funext b
  refine bind_congr_ok fun _ b₁ _ => bind_congr_ok fun _ b₂ hload => ?_
  have hvalid := (HandleCompleteSwap.load_ok.1 hload).1.2.1
  exact bind_congr_ok fun n b₃ _ => bind_congr_ok fun s b₄ _ => bind_congr_ok fun _ b₅ _ =>
    congrFun (handleCompleteSwapJupV6_eq hvalid) b₅

/-- **No unwrap of a completion fails.** -/
theorem completion_eq (c : Completion) : c.instructionOr e d x = c.instruction d x := by
  cases c with
  | transferDirect a => exact completeTransferDirect_eq a
  | transferRelay a => exact completeTransferRelay_eq a
  | transferPayload a => exact completeTransferPayload_eq a
  | swapDirect a => exact completeSwapDirect_eq a
  | swapRelay a => exact completeSwapRelay_eq a
  | swapPayload a => exact completeSwapPayload_eq a

end Completions

/-! ## The unwraps of outbound transfers -/

section Outbound

variable {e e' : Error} {d : Deployment} {x : Externals} {b b' : Bank}

/-! ### Staging -/

/-- What can be read can be read again, whatever a failure would have been. -/
theorem readOutputToken_eq {bs : Bytes} {token : OutputToken}
    (h : readOutputToken bs e = .ok token) : readOutputToken bs e' = .ok token :=
  readOutputToken_ok.2 (readOutputToken_ok.1 h)

/-- **The output token that the space was counted for can be read.** -/
theorem outputToken_decodes {args : StageOutboundArgs} {size : ℕ}
    (h : StagedOutbound.tryComputeSize args.redeemOption args.encodedOutputToken = .ok size) :
    ∃ token, ∀ e, readOutputToken args.outputToken e = .ok token := by
  unfold StagedOutbound.tryComputeSize at h
  unfold StageOutboundArgs.outputToken
  cases hencoded : args.encodedOutputToken with
  | none =>
    refine ⟨.usdc, fun e => readOutputToken_ok.2 ⟨[], ?_⟩⟩
    exact (OutputToken.read_inverse _ _ _).2 ⟨_, rfl, (List.append_nil _).symm⟩
  | some encoded =>
    rw [hencoded] at h
    obtain ⟨token, hread, -⟩ := except_bind_ok.1 h
    exact ⟨token, fun e => readOutputToken_eq hread⟩

/-- **A minimum is there where it is needed**: the constraints ask for it unless the source is
USDC. -/
theorem relayTransferAmount_eq {a : StageOutbound} {args : StageOutboundArgs}
    (h : args.minAmountOut.isSome = true ∨ a.srcMint = d.usdcMint) (relayingFee : ℕ) :
    relayTransferAmount e d a args relayingFee = relayTransferAmount e' d a args relayingFee := by
  unfold relayTransferAmount
  by_cases hmint : a.srcMint = d.usdcMint
  · rw [if_pos hmint, if_pos hmint]
  · rw [if_neg hmint, if_neg hmint]
    obtain ⟨minAmountOut, hmin⟩ := Option.isSome_iff_exists.1 (h.resolve_right hmint)
    rw [hmin]

theorem stagedRedeem_eq {a : StageOutbound} {args : StageOutboundArgs}
    (h : args.minAmountOut.isSome = true ∨ a.srcMint = d.usdcMint) (params : RelayParams)
    (outputToken : OutputToken) :
    stagedRedeem e d a args params outputToken = stagedRedeem e' d a args params outputToken := by
  have hamount : ∀ fee, relayTransferAmount e d a args fee = relayTransferAmount e' d a args fee :=
    relayTransferAmount_eq h
  unfold stagedRedeem
  cases args.redeemOption with
  | none => rfl
  | some option =>
    cases option with
    | payload buf => rfl
    | relay gasDropoff maxRelayerFee => simp only [hamount]

/-- **No unwrap of `stage_outbound` fails.** -/
theorem stageOutbound_eq (a : StageOutbound) (args : StageOutboundArgs) :
    stageOutboundOr e d x a args = stageOutbound d x a args := by
  funext b
  refine bind_congr_ok fun peer b₁ hinit => ?_
  obtain ⟨-, -, -, -, hmin, -⟩ := initStaged_ok hinit
  obtain ⟨size, hsize⟩ := initStaged_size hinit
  obtain ⟨token, hread⟩ := outputToken_decodes hsize
  have hredeem : ∀ params token,
      stagedRedeem e d a args params token = stagedRedeem .panic d a args params token :=
    stagedRedeem_eq hmin
  simp only [hread, lift_ok_bind, hredeem]

/-! ### Initiating -/

/-- **A staged account in order**: its fee is a `Uint48`. -/
def FeeFits (s : StagedOutbound) : Prop :=
  ∀ gasDropoff relayingFee, s.stagedRedeem = .relay gasDropoff relayingFee → relayingFee < 256 ^ 6

theorem redeemMode_eq {s : StagedOutbound} (h : FeeFits s) : s.redeemModeOr e = s.redeemMode := by
  unfold StagedOutbound.redeemMode StagedOutbound.redeemModeOr
  cases hredeem : s.stagedRedeem with
  | direct => rfl
  | payload buf => rfl
  | relay gasDropoff relayingFee =>
    have hfee := h gasDropoff relayingFee hredeem
    simp only [dif_pos hfee]

theorem toSwapMessageV1_eq {s : StagedOutbound} (h : FeeFits s) :
    s.toSwapMessageV1Or e = s.toSwapMessageV1 := by
  unfold StagedOutbound.toSwapMessageV1 StagedOutbound.toSwapMessageV1Or
  rw [redeemMode_eq h, redeemMode_eq h]

/-- **A message whose output token was read can be serialised.** -/
theorem messageToVec_eq {s s' : StagedOutbound} {msg : SwapMessageV1}
    (h : s.toSwapMessageV1 = .ok (msg, s')) : messageToVecOr e msg = messageToVec msg := by
  obtain ⟨mode, token, -, htoken, rfl, -⟩ := StagedOutbound.toSwapMessageV1_ok.1 h
  obtain ⟨rest, hread⟩ := readOutputToken_ok.1 htoken
  obtain ⟨out, hout, -⟩ := (OutputToken.read_inverse _ _ _).1 hread
  have hwrite : ∃ bytes, SwapMessageV1.toVec ⟨s.info.recipient, mode, token⟩ = .ok bytes := by
    simp [SwapMessageV1.toVec, SwapMessageV1.write, hout]
  obtain ⟨bytes, hbytes⟩ := hwrite
  rw [messageToVec, messageToVecOr, messageToVecOr, hbytes]

/-- **No unwrap of `initiate_transfer` fails** where the staged account is in order. -/
theorem initiateTransfer_eq {a : InitiateTransfer}
    (h : ∀ s, b.outbound a.stagedOutbound = some s → FeeFits s) :
    initiateTransferOr e d x a b = initiateTransfer d x a b := by
  refine bind_congr_ok fun s b₁ hs => ?_
  obtain ⟨hstaged, rfl⟩ := loadAccount_ok.1 hs
  refine bind_congr_ok fun c b₂ _ => bind_congr_ok fun _ b₃ _ => bind_congr_ok fun peer b₄ _ => ?_
  refine bind_congr_ok fun _ b₅ _ => ?_
  rw [toSwapMessageV1_eq (h s hstaged)]
  refine bind_congr_ok fun ⟨msg, s'⟩ b₆ hmsg => ?_
  simp only [messageToVec_eq (lift_ok.1 hmsg).1]

theorem sendSwapped_eq {a : InitiateSwapExactIn} {s : StagedOutbound} {peer : Peer}
    {msg : SwapMessageV1} {out dust : ℕ} (hmin : s.info.minAmountOut ≠ none)
    (hmsg : ∀ e, messageToVecOr e msg = messageToVec msg) :
    sendSwapped e d x a s peer msg out dust = sendSwapped e' d x a s peer msg out dust := by
  unfold sendSwapped
  cases hs : s.info.minAmountOut with
  | none => exact absurd hs hmin
  | some minAmountOut => simp only [hmsg]

/-- **No unwrap of `initiate_swap_exact_in` fails** where the staged account is in order, and a custody
account of another mint than USDC has a minimum. -/
theorem initiateSwapExactIn_eq {a : InitiateSwapExactIn}
    (h : ∀ s, b.outbound a.stagedOutbound = some s → FeeFits s)
    (hmin : ∀ s, b.outbound a.stagedOutbound = some s → s.info.minAmountOut = none →
      ∀ c, b.tokens (d.stagedCustody a.stagedOutbound) = some c → c.mint = d.usdcMint) :
    initiateSwapExactInOr e d x a b = initiateSwapExactIn d x a b := by
  unfold initiateSwapExactIn initiateSwapExactInOr
  refine bind_congr_ok fun ⟨s, c, peer⟩ b₁ hcheck => ?_
  obtain ⟨hk, rfl⟩ := checkInitiateSwap_ok hcheck
  have hnone : s.info.minAmountOut ≠ none := fun hn =>
    hk.notUsdc (hk.mint.symm.trans (hmin s hk.staged hn c hk.custody))
  refine bind_congr_ok fun _ b₂ _ => bind_congr_ok fun _ b₃ _ => bind_congr_ok fun _ b₄ _ => ?_
  rw [toSwapMessageV1_eq (h s hk.staged)]
  refine bind_congr_ok fun ⟨msg, s'⟩ b₅ hmsg => ?_
  have hmsg' := (lift_ok.1 hmsg).1
  obtain ⟨mode, token, -, -, rfl, rfl⟩ := StagedOutbound.toSwapMessageV1_ok.1 hmsg'
  have hsend : ∀ out dust, sendSwapped e d x a { s with stagedRedeem := .direct } peer
        ⟨s.info.recipient, mode, token⟩ out dust =
      sendSwapped .panic d x a { s with stagedRedeem := .direct } peer
        ⟨s.info.recipient, mode, token⟩ out dust :=
    fun out dust => sendSwapped_eq hnone fun e => messageToVec_eq hmsg'
  simp only [hsend]

end Outbound

end Unwrapping

end SwapLayer.Solana
