import SwapLayer.Client.JupiterLayouts
import SwapLayer.Solana.StagedRuns

/-!
# Quotes of Jupiter in the TypeScript client

Model of `solana/ts/src/jupiterV6/index.ts`. The API of Jupiter returns an instruction for a user; the client
turns it into one for the swap authority, with the amounts asked for, and passes it to the program, which
takes it apart (`Solana/RouteArgs`). An account is replaced wherever its address occurs.

Results:
* `computeMinAmountOut_used`: both compute the same limit.
* `modified_accounts`: the accounts of the new instruction are accepted if those of the quote were.
* `modified_route`: the program accepts the new instruction for the swap authority, with the limit that the
  client reports, and Jupiter gets the bytes that the client wrote.
-/

namespace SwapLayer.JupiterClient

open ByteString Program
open Solana (Deployment Pubkey SharedAccountsRoute)
open SplToken (TokenProgram)
open Solana.JupiterV6 (AccountMeta Addresses deserializeChecked deserializeChecked_iff instructionData
  ofInstruction)

/-! ## Modifying a quote -/

/-- Why `modifySharedAccountsRouteInstruction` throws. -/
inductive RouteError
  | undefined
  | layout (e : IoError)

structure TransactionInstruction where
  programId : Pubkey
  keys : List AccountMeta
  data : List UInt8

structure ModifySharedAccountsRouteOpts where
  inAmount : Option ℕ
  quotedOutAmount : Option ℕ
  slippageBps : Option ℕ
  cpi : Option Bool
  srcTokenProgram : Option TokenProgram
  dstTokenProgram : Option TokenProgram

structure ModifiedSharedAccountsRoute where
  instruction : TransactionInstruction
  sourceToken : Pubkey
  destinationToken : Pubkey
  sourceMint : Pubkey
  destinationMint : Pubkey
  minAmountOut : ℤ
  sourceTokenProgram : TokenProgram
  destinationTokenProgram : TokenProgram

/-- The number that replaces a field, which must fit when the arguments are serialized. -/
def replaceUint {n : ℕ} (value : Option ℕ) (field : Uint n) : Except RouteError (Uint n) :=
  match value with
  | none => .ok field
  | some v => if h : v < 256 ^ n then .ok ⟨v, h⟩ else .error (.layout .invalidInput)

/-- The arguments with the changes. -/
def ModifySharedAccountsRouteOpts.modifyArgs (opts : ModifySharedAccountsRouteOpts)
    (args : SharedAccountsRouteArgs) : Except RouteError SharedAccountsRouteArgs := do
  let inAmount ← replaceUint opts.inAmount args.inAmount
  let quotedOutAmount ← replaceUint opts.quotedOutAmount args.quotedOutAmount
  let slippageBps ← replaceUint opts.slippageBps args.slippageBps
  return { args with inAmount, quotedOutAmount, slippageBps }

def keyAt (keys : List AccountMeta) (i : ℕ) : Except RouteError Pubkey :=
  match keys[i]? with
  | some key => .ok key.pubkey
  | none => .error .undefined

/-- Another address wherever this one occurs. -/
def replaceKey (old new : Pubkey) (key : AccountMeta) : AccountMeta :=
  if key.pubkey = old then { key with pubkey := new } else key

/-- The token owner wherever the user's authority occurs, who signs unless the program does. -/
def replaceAuthority (old tokenOwner : Pubkey) (cpi : Bool) (key : AccountMeta) : AccountMeta :=
  if key.pubkey = old then { key with pubkey := tokenOwner, isSigner := !cpi } else key

/-- The program that owns a mint, which is looked up if it is not given. -/
def tokenProgramOf (mintProgram : Pubkey → Option TokenProgram) (given : Option TokenProgram)
    (mint : Pubkey) : Except RouteError TokenProgram :=
  match given <|> mintProgram mint with
  | some program => .ok program
  | none => .error .undefined

/-- The quote less the slippage, as a division of integers that rounds towards zero. -/
def minAmountOut (args : SharedAccountsRouteArgs) : ℤ :=
  ((args.quotedOutAmount.val : ℤ) * (10000 - args.slippageBps.val)).tdiv 10000

def modifySharedAccountsRouteInstruction (d : Deployment) (mintProgram : Pubkey → Option TokenProgram)
    (instruction : TransactionInstruction) (tokenOwner : Pubkey) (opts : ModifySharedAccountsRouteOpts) :
    Except RouteError ModifiedSharedAccountsRoute := do
  let oldUserTransferAuthority ← keyAt instruction.keys 2
  let keys := instruction.keys.map
    (replaceAuthority oldUserTransferAuthority tokenOwner (opts.cpi.getD false))
  let sourceMint ← keyAt keys 7
  let srcTokenProgram ← tokenProgramOf mintProgram opts.srcTokenProgram sourceMint
  let destinationMint ← keyAt keys 8
  let dstTokenProgram ← tokenProgramOf mintProgram opts.dstTokenProgram destinationMint
  let oldSourceToken ← keyAt keys 3
  let sourceToken := d.associatedToken tokenOwner sourceMint srcTokenProgram
  let keys := keys.map (replaceKey oldSourceToken sourceToken)
  let oldDestinationToken ← keyAt keys 6
  let destinationToken := d.associatedToken tokenOwner destinationMint dstTokenProgram
  let keys := keys.map (replaceKey oldDestinationToken destinationToken)
  let args ← (decodeSharedAccountsRouteArgs instruction.data).mapError .layout
  let args ← opts.modifyArgs args
  let data ← (encodeSharedAccountsRouteArgs args).mapError .layout
  return ⟨⟨instruction.programId, keys, data⟩, sourceToken, destinationToken, sourceMint,
    destinationMint, minAmountOut args, srcTokenProgram, dstTokenProgram⟩

/-! ## The new arguments -/

/-- The arguments of a quote after the changes. -/
structure Modified (opts : ModifySharedAccountsRouteOpts) (args args' : SharedAccountsRouteArgs) :
    Prop where
  id : args'.id = args.id
  routePlan : args'.routePlan = args.routePlan
  inAmount : args'.inAmount.val = opts.inAmount.getD args.inAmount
  quotedOutAmount : args'.quotedOutAmount.val = opts.quotedOutAmount.getD args.quotedOutAmount
  slippageBps : args'.slippageBps.val = opts.slippageBps.getD args.slippageBps
  platformFeeBps : args'.platformFeeBps = args.platformFeeBps

theorem replaceUint_ok {n : ℕ} {value : Option ℕ} {field v : Uint n} :
    replaceUint value field = .ok v ↔ v.val = value.getD field := by
  cases value with
  | none => exact ⟨fun h => by cases h; rfl, fun h => congrArg Except.ok (Fin.ext h.symm)⟩
  | some x =>
    have hreplace : replaceUint (some x) field =
        if h : x < 256 ^ n then .ok ⟨x, h⟩ else .error (.layout .invalidInput) := rfl
    rw [hreplace]
    by_cases hx : x < 256 ^ n
    · rw [dif_pos hx]
      exact ⟨fun h => by cases h; rfl, fun h => congrArg Except.ok (Fin.ext h.symm)⟩
    · rw [dif_neg hx]
      constructor
      · intro h
        cases h
      · intro h
        have hlt := v.isLt
        rw [h] at hlt
        exact absurd hlt hx

theorem modifyArgs_ok {opts : ModifySharedAccountsRouteOpts} {args args' : SharedAccountsRouteArgs} :
    opts.modifyArgs args = .ok args' ↔ Modified opts args args' := by
  unfold ModifySharedAccountsRouteOpts.modifyArgs
  constructor
  · intro h
    obtain ⟨inAmount, hin, h₁⟩ := except_bind_ok.1 h
    obtain ⟨quotedOutAmount, hout, h₂⟩ := except_bind_ok.1 h₁
    obtain ⟨slippageBps, hbps, hret⟩ := except_bind_ok.1 h₂
    cases hret
    exact ⟨rfl, rfl, replaceUint_ok.1 hin, replaceUint_ok.1 hout, replaceUint_ok.1 hbps, rfl⟩
  · intro h
    obtain ⟨id, routePlan, inAmount, quotedOutAmount, slippageBps, platformFeeBps⟩ := args'
    obtain ⟨rfl, rfl, hin, hout, hbps, rfl⟩ := h
    exact except_bind_ok.2 ⟨inAmount, replaceUint_ok.2 hin, except_bind_ok.2
      ⟨quotedOutAmount, replaceUint_ok.2 hout, except_bind_ok.2 ⟨slippageBps, replaceUint_ok.2 hbps, rfl⟩⟩⟩

/-- **The limit that the client reports** is the one that the program computes. It is negative where the
slippage is more than everything, and the program stops at zero. -/
theorem computeMinAmountOut_used (a : SharedAccountsRouteArgs) :
    Solana.computeMinAmountOut a.toRust.used = (minAmountOut a).toNat := by
  unfold minAmountOut Solana.computeMinAmountOut
  show a.quotedOutAmount.val * (10000 - min a.slippageBps.val 10000) / 10000 = _
  rcases Nat.le_total a.slippageBps.val 10000 with hle | hle
  · have hcast : (a.quotedOutAmount.val : ℤ) * (10000 - a.slippageBps.val) =
        ((a.quotedOutAmount.val * (10000 - a.slippageBps.val) : ℕ) : ℤ) := by
      push_cast [Nat.cast_sub hle]
      rfl
    rw [Nat.min_eq_left hle, hcast]
    rfl
  · have hnonpos : ((a.quotedOutAmount.val : ℤ) * (10000 - a.slippageBps.val)).tdiv 10000 ≤ 0 := by
      have hneg : (a.quotedOutAmount.val : ℤ) * (10000 - a.slippageBps.val) =
          -(a.quotedOutAmount.val * (a.slippageBps.val - 10000)) := by ring
      rw [hneg, Int.neg_tdiv]
      have hfactor : (0 : ℤ) ≤ a.slippageBps.val - 10000 := by omega
      exact Int.neg_nonpos_of_nonneg (Int.tdiv_nonneg (mul_nonneg (Nat.cast_nonneg _) hfactor) (by decide))
    rw [Nat.min_eq_right hle, Int.toNat_of_nonpos hnonpos]
    simp

/-! ## The new accounts -/

def pubkeyAt (keys : List AccountMeta) (i : ℕ) : Option Pubkey := keys[i]?.map AccountMeta.pubkey

/-- The accounts of the quote's user (the authority, and what it pays from and gets into) occur at places
of their own, and those of the token owner are not among them. -/
structure Separate (keys : List AccountMeta) (tokenOwner sourceToken : Pubkey) : Prop where
  others : ∀ i ∈ [0, 1, 7, 8, 9, 10, 12], ∀ j ∈ [2, 3, 6], pubkeyAt keys i ≠ pubkeyAt keys j
  source_ne_authority : pubkeyAt keys 3 ≠ pubkeyAt keys 2
  destination_ne_authority : pubkeyAt keys 6 ≠ pubkeyAt keys 2
  destination_ne_source : pubkeyAt keys 6 ≠ pubkeyAt keys 3
  source_ne_owner : pubkeyAt keys 3 ≠ some tokenOwner
  destination_ne_owner : pubkeyAt keys 6 ≠ some tokenOwner
  destination_ne_new : pubkeyAt keys 6 ≠ some sourceToken

section Accounts

variable {old new : Pubkey} {cpi : Bool} {key : AccountMeta}

theorem keyAt_ok {keys : List AccountMeta} {i : ℕ} {k : Pubkey} :
    keyAt keys i = .ok k ↔ pubkeyAt keys i = some k := by
  unfold keyAt pubkeyAt
  cases keys[i]? with
  | none => exact ⟨fun h => (by cases h), fun h => (by cases h)⟩
  | some key => exact ⟨fun h => congrArg some (Except.ok.inj h), fun h => congrArg _ (Option.some.inj h)⟩

theorem keyAt_map {keys : List AccountMeta} {f : AccountMeta → AccountMeta} {i : ℕ} {k : Pubkey} :
    keyAt (keys.map f) i = .ok k ↔ ∃ key, keys[i]? = some key ∧ (f key).pubkey = k := by
  rw [keyAt_ok, pubkeyAt, List.getElem?_map]
  simp [Option.map_eq_some_iff]

theorem replaceKey_self (h : key.pubkey = old) : (replaceKey old new key).pubkey = new := by
  rw [replaceKey, if_pos h]

theorem replaceKey_other (h : key.pubkey ≠ old) : replaceKey old new key = key := if_neg h

theorem replaceAuthority_self (h : key.pubkey = old) :
    replaceAuthority old new cpi key = { key with pubkey := new, isSigner := !cpi } := if_pos h

theorem replaceAuthority_other (h : key.pubkey ≠ old) : replaceAuthority old new cpi key = key :=
  if_neg h

theorem replaceKey_isWritable : (replaceKey old new key).isWritable = key.isWritable := by
  unfold replaceKey
  split <;> rfl

theorem replaceAuthority_isWritable :
    (replaceAuthority old new cpi key).isWritable = key.isWritable := by
  unfold replaceAuthority
  split <;> rfl

end Accounts

section Modify

variable {d : Deployment} {mintProgram : Pubkey → Option TokenProgram} {ix : TransactionInstruction}
  {tokenOwner : Pubkey} {opts : ModifySharedAccountsRouteOpts} {m : ModifiedSharedAccountsRoute}

/-- What `modifySharedAccountsRouteInstruction` finds and computes on its way to `m`. -/
structure Modification (d : Deployment) (ix : TransactionInstruction) (tokenOwner : Pubkey)
    (opts : ModifySharedAccountsRouteOpts) (m : ModifiedSharedAccountsRoute) where
  oldUserTransferAuthority : Pubkey
  oldSourceToken : Pubkey
  oldDestinationToken : Pubkey
  args : SharedAccountsRouteArgs
  args' : SharedAccountsRouteArgs
  keys₁ : List AccountMeta
  keys₂ : List AccountMeta
  authority : keyAt ix.keys 2 = .ok oldUserTransferAuthority
  keys₁_eq : keys₁ = ix.keys.map
    (replaceAuthority oldUserTransferAuthority tokenOwner (opts.cpi.getD false))
  sourceMint : keyAt keys₁ 7 = .ok m.sourceMint
  destinationMint : keyAt keys₁ 8 = .ok m.destinationMint
  source : keyAt keys₁ 3 = .ok oldSourceToken
  keys₂_eq : keys₂ = keys₁.map (replaceKey oldSourceToken m.sourceToken)
  destination : keyAt keys₂ 6 = .ok oldDestinationToken
  keys : m.instruction.keys = keys₂.map (replaceKey oldDestinationToken m.destinationToken)
  sourceToken : m.sourceToken = d.associatedToken tokenOwner m.sourceMint m.sourceTokenProgram
  destinationToken : m.destinationToken =
    d.associatedToken tokenOwner m.destinationMint m.destinationTokenProgram
  decoded : decodeSharedAccountsRouteArgs ix.data = .ok args
  modified : Modified opts args args'
  encoded : encodeSharedAccountsRouteArgs args' = .ok m.instruction.data
  minAmountOut : m.minAmountOut = minAmountOut args'

theorem modify_ok
    (h : modifySharedAccountsRouteInstruction d mintProgram ix tokenOwner opts = .ok m) :
    Nonempty (Modification d ix tokenOwner opts m) := by
  obtain ⟨oldUserTransferAuthority, hauthority, h⟩ := except_bind_ok.1 h
  obtain ⟨sourceMint, hsourceMint, h⟩ := except_bind_ok.1 h
  obtain ⟨srcTokenProgram, -, h⟩ := except_bind_ok.1 h
  obtain ⟨destinationMint, hdestinationMint, h⟩ := except_bind_ok.1 h
  obtain ⟨dstTokenProgram, -, h⟩ := except_bind_ok.1 h
  obtain ⟨oldSourceToken, hsource, h⟩ := except_bind_ok.1 h
  obtain ⟨oldDestinationToken, hdestination, h⟩ := except_bind_ok.1 h
  obtain ⟨args, hargs, h⟩ := except_bind_ok.1 h
  obtain ⟨args', hmodify, h⟩ := except_bind_ok.1 h
  obtain ⟨data, hdata, h⟩ := except_bind_ok.1 h
  cases h
  exact ⟨⟨oldUserTransferAuthority, oldSourceToken, oldDestinationToken, args, args', _, _, hauthority,
    rfl, hsourceMint, hdestinationMint, hsource, rfl, hdestination, rfl, rfl, rfl,
    except_mapError_ok.1 hargs, modifyArgs_ok.1 hmodify, except_mapError_ok.1 hdata, rfl⟩⟩

namespace Modification

variable (s : Modification d ix tokenOwner opts m)

/-- **The new data** are the changed arguments, and the program reads them. -/
theorem data_eq : m.instruction.data = instructionData s.args'.toRust :=
  Except.ok.inj (s.encoded.symm.trans (encode_eq s.args'))

/-- What becomes of an account. -/
def renamed (key : AccountMeta) : AccountMeta :=
  replaceKey s.oldDestinationToken m.destinationToken (replaceKey s.oldSourceToken m.sourceToken
    (replaceAuthority s.oldUserTransferAuthority tokenOwner (opts.cpi.getD false) key))

theorem keys_eq : m.instruction.keys = ix.keys.map s.renamed := by
  rw [s.keys, s.keys₂_eq, s.keys₁_eq, List.map_map, List.map_map]
  rfl

theorem renamed_isWritable (key : AccountMeta) : (s.renamed key).isWritable = key.isWritable := by
  rw [renamed, replaceKey_isWritable, replaceKey_isWritable, replaceAuthority_isWritable]

/-- The accounts of others stay. -/
theorem renamed_other {key : AccountMeta} (hauthority : key.pubkey ≠ s.oldUserTransferAuthority)
    (hsource : key.pubkey ≠ s.oldSourceToken) (hdestination : key.pubkey ≠ s.oldDestinationToken) :
    s.renamed key = key := by
  rw [renamed, replaceAuthority_other hauthority, replaceKey_other hsource, replaceKey_other hdestination]

section Places

variable {s} (hs : Separate ix.keys tokenOwner m.sourceToken) {key : AccountMeta}

include hs in
/-- The accounts that are replaced are those of the quote's user. -/
theorem replaced : pubkeyAt ix.keys 2 = some s.oldUserTransferAuthority ∧
    pubkeyAt ix.keys 3 = some s.oldSourceToken ∧ pubkeyAt ix.keys 6 = some s.oldDestinationToken := by
  have hauthority := keyAt_ok.1 s.authority
  have hsource : pubkeyAt ix.keys 3 = some s.oldSourceToken := by
    have h := s.source
    rw [s.keys₁_eq] at h
    obtain ⟨key, hkey, hold⟩ := keyAt_map.1 h
    have hat : pubkeyAt ix.keys 3 = some key.pubkey := by rw [pubkeyAt, hkey]; rfl
    have hne : key.pubkey ≠ s.oldUserTransferAuthority := by
      rintro heq
      exact hs.source_ne_authority (by rw [hat, heq, hauthority])
    rw [replaceAuthority_other hne] at hold
    rw [hat, hold]
  refine ⟨hauthority, hsource, ?_⟩
  have h := s.destination
  rw [s.keys₂_eq, s.keys₁_eq, List.map_map] at h
  obtain ⟨key, hkey, hold⟩ := keyAt_map.1 h
  have hat : pubkeyAt ix.keys 6 = some key.pubkey := by rw [pubkeyAt, hkey]; rfl
  have hne : key.pubkey ≠ s.oldUserTransferAuthority := by
    rintro heq
    exact hs.destination_ne_authority (by rw [hat, heq, hauthority])
  have hne' : key.pubkey ≠ s.oldSourceToken := by
    rintro heq
    exact hs.destination_ne_source (by rw [hat, heq, hsource])
  rw [Function.comp_apply, replaceAuthority_other hne, replaceKey_other hne'] at hold
  rw [hat, hold]

include hs in
/-- The accounts at the other places that the program checks stay. -/
theorem renamed_fixed {i : ℕ} (hi : i ∈ [0, 1, 7, 8, 9, 10, 12]) (hkey : ix.keys[i]? = some key) :
    s.renamed key = key := by
  obtain ⟨hauthority, hsource, hdestination⟩ := replaced hs
  have hat : pubkeyAt ix.keys i = some key.pubkey := by rw [pubkeyAt, hkey]; rfl
  have hne (j : ℕ) (hj : j ∈ [2, 3, 6]) {old : Pubkey} (hold : pubkeyAt ix.keys j = some old) :
      key.pubkey ≠ old := by
    rintro heq
    exact hs.others i hi j hj (by rw [hat, hold, heq])
  exact s.renamed_other (hne 2 (by simp) hauthority) (hne 3 (by simp) hsource)
    (hne 6 (by simp) hdestination)

include hs in
theorem renamed_authority (hkey : ix.keys[2]? = some key) : (s.renamed key).pubkey = tokenOwner := by
  obtain ⟨hauthority, hsource, hdestination⟩ := replaced hs
  have hold : key.pubkey = s.oldUserTransferAuthority := by
    rw [pubkeyAt, hkey] at hauthority
    exact Option.some.inj hauthority
  rw [renamed, replaceAuthority_self hold, replaceKey_other, replaceKey_other]
  · rintro heq
    exact hs.source_ne_owner (hsource.trans (congrArg some heq.symm))
  · rw [replaceKey_other]
    · rintro heq
      exact hs.destination_ne_owner (hdestination.trans (congrArg some heq.symm))
    · rintro heq
      exact hs.source_ne_owner (hsource.trans (congrArg some heq.symm))

include hs in
theorem renamed_source (hkey : ix.keys[3]? = some key) : (s.renamed key).pubkey = m.sourceToken := by
  obtain ⟨hauthority, hsource, hdestination⟩ := replaced hs
  have hat : pubkeyAt ix.keys 3 = some key.pubkey := by rw [pubkeyAt, hkey]; rfl
  have hold : key.pubkey = s.oldSourceToken := Option.some.inj (hat.symm.trans hsource)
  have hne : key.pubkey ≠ s.oldUserTransferAuthority := by
    rintro heq
    exact hs.source_ne_authority (by rw [hat, heq, hauthority])
  rw [renamed, replaceAuthority_other hne, replaceKey_other, replaceKey_self hold]
  rw [replaceKey_self hold]
  rintro heq
  exact hs.destination_ne_new (hdestination.trans (congrArg some heq.symm))

include hs in
theorem renamed_destination (hkey : ix.keys[6]? = some key) :
    (s.renamed key).pubkey = m.destinationToken := by
  obtain ⟨hauthority, hsource, hdestination⟩ := replaced hs
  have hat : pubkeyAt ix.keys 6 = some key.pubkey := by rw [pubkeyAt, hkey]; rfl
  have hold : key.pubkey = s.oldDestinationToken := Option.some.inj (hat.symm.trans hdestination)
  have hne : key.pubkey ≠ s.oldUserTransferAuthority := by
    rintro heq
    exact hs.destination_ne_authority (by rw [hat, heq, hauthority])
  have hne' : key.pubkey ≠ s.oldSourceToken := by
    rintro heq
    exact hs.destination_ne_source (by rw [hat, heq, hsource])
  rw [renamed, replaceAuthority_other hne, replaceKey_other hne', replaceKey_self hold]

include s hs in
/-- The mints are those of the quote. -/
theorem mints_eq : pubkeyAt ix.keys 7 = some m.sourceMint ∧ pubkeyAt ix.keys 8 = some m.destinationMint := by
  obtain ⟨hauthority, -, -⟩ := replaced hs
  have hmint {i : ℕ} {mint : Pubkey} (hi : i ∈ [0, 1, 7, 8, 9, 10, 12])
      (h : keyAt s.keys₁ i = .ok mint) : pubkeyAt ix.keys i = some mint := by
    rw [s.keys₁_eq] at h
    obtain ⟨key, hkey, hnew⟩ := keyAt_map.1 h
    have hat : pubkeyAt ix.keys i = some key.pubkey := by rw [pubkeyAt, hkey]; rfl
    have hne : key.pubkey ≠ s.oldUserTransferAuthority := by
      rintro heq
      exact hs.others i hi 2 (by simp) (by rw [hat, heq, hauthority])
    rw [replaceAuthority_other hne] at hnew
    rw [hat, hnew]
  exact ⟨hmint (by simp) s.sourceMint, hmint (by simp) s.destinationMint⟩

end Places

end Modification

/-- **The new accounts** are accepted if those of the quote were, and they are the token owner's. -/
theorem modified_accounts {j : Addresses} {r : SharedAccountsRoute}
    (s : Modification d ix tokenOwner opts m) (hr : ofInstruction j ix.keys ix.data = some r)
    (hs : Separate ix.keys tokenOwner m.sourceToken) :
    ∃ r', ofInstruction j m.instruction.keys m.instruction.data = some r' ∧ r'.args = s.args'.toRust.used ∧
      r'.transferAuthority = tokenOwner ∧ r'.srcCustodyToken = m.sourceToken ∧
      r'.dstCustodyToken = m.destinationToken ∧ r'.srcMint = m.sourceMint ∧
      r'.dstMint = m.destinationMint := by
  obtain ⟨args, hargs, hr⟩ := Option.bind_eq_some_iff.1 hr
  split at hr
  · rename_i k₀ k₁ k₂ k₃ k₄ k₅ k₆ k₇ k₈ k₉ k₁₀ k₁₁ k₁₂ rest hkeys
    split at hr
    · rename_i hcond
      have hat (i : ℕ) {key : AccountMeta} (h : (k₀ :: k₁ :: k₂ :: k₃ :: k₄ :: k₅ :: k₆ :: k₇ :: k₈ :: k₉ ::
          k₁₀ :: k₁₁ :: k₁₂ :: rest)[i]? = some key) : ix.keys[i]? = some key := by rw [hkeys, h]
      have h₀ : s.renamed k₀ = k₀ := Modification.renamed_fixed hs (by simp) (hat 0 rfl)
      have h₁ : s.renamed k₁ = k₁ := Modification.renamed_fixed hs (by simp) (hat 1 rfl)
      have h₇ : s.renamed k₇ = k₇ := Modification.renamed_fixed hs (by simp) (hat 7 rfl)
      have h₈ : s.renamed k₈ = k₈ := Modification.renamed_fixed hs (by simp) (hat 8 rfl)
      have h₉ : s.renamed k₉ = k₉ := Modification.renamed_fixed hs (by simp) (hat 9 rfl)
      have h₁₀ : s.renamed k₁₀ = k₁₀ := Modification.renamed_fixed hs (by simp) (hat 10 rfl)
      have h₁₂ : s.renamed k₁₂ = k₁₂ := Modification.renamed_fixed hs (by simp) (hat 12 rfl)
      have hread : deserializeChecked ix.data = .ok args := toOption_eq_some.1 hargs
      have hnew : (deserializeChecked m.instruction.data).toOption = some s.args'.toRust := by
        rw [(encode_read s.encoded).1]
        rfl
      have hid : s.args'.toRust.authorityId = args.authorityId := by
        rw [decode_agrees hread s.decoded]
        exact s.modified.id
      obtain ⟨hmint, hmint'⟩ := s.mints_eq hs
      refine ⟨⟨s.args'.toRust.used, (s.renamed k₂).pubkey, (s.renamed k₃).pubkey, (s.renamed k₄).pubkey,
        (s.renamed k₅).pubkey, (s.renamed k₆).pubkey, k₇.pubkey, k₈.pubkey,
        (rest.map s.renamed).map AccountMeta.pubkey⟩, ?_, rfl, ?_, ?_, ?_, ?_, ?_⟩
      · refine Option.bind_eq_some_iff.2 ⟨s.args'.toRust, hnew, ?_⟩
        rw [s.keys_eq, hkeys]
        simp only [List.map_cons, h₀, h₁, h₇, h₈, h₉, h₁₀, h₁₂, s.renamed_isWritable, hid]
        exact if_pos hcond
      · exact Modification.renamed_authority hs (hat 2 rfl)
      · exact Modification.renamed_source hs (hat 3 rfl)
      · exact Modification.renamed_destination hs (hat 6 rfl)
      · rw [pubkeyAt, hat 7 rfl] at hmint
        exact Option.some.inj hmint
      · rw [pubkeyAt, hat 8 rfl] at hmint'
        exact Option.some.inj hmint'
    · cases hr
  · cases hr

/-- **A quote for the swap authority**: what the client makes of a quote is accepted by the program, with
the amounts that were asked for and the limit that the client reports; the accounts pass the checks for the
token owner; and what is serialized for Jupiter is what the client wrote. -/
theorem modified_route {j : Addresses} {r : SharedAccountsRoute}
    (h : modifySharedAccountsRouteInstruction d mintProgram ix tokenOwner opts = .ok m)
    (hr : ofInstruction j ix.keys ix.data = some r)
    (hs : Separate ix.keys tokenOwner m.sourceToken) :
    ∃ args args' r', decodeSharedAccountsRouteArgs ix.data = .ok args ∧
      deserializeChecked ix.data = .ok args.toRust ∧ Modified opts args args' ∧
      deserializeChecked m.instruction.data = .ok args'.toRust ∧
      instructionData args'.toRust = m.instruction.data ∧
      ofInstruction j m.instruction.keys m.instruction.data = some r' ∧ r'.args = args'.toRust.used ∧
      Solana.computeMinAmountOut r'.args = m.minAmountOut.toNat ∧
      m.sourceToken = d.associatedToken tokenOwner m.sourceMint m.sourceTokenProgram ∧
      m.destinationToken = d.associatedToken tokenOwner m.destinationMint m.destinationTokenProgram ∧
      ∀ b, r'.verify tokenOwner m.sourceToken m.destinationToken m.sourceMint m.destinationMint b =
        .ok ((), b) := by
  obtain ⟨s⟩ := modify_ok h
  obtain ⟨args, hargs, -⟩ := Option.bind_eq_some_iff.1 hr
  have hread : deserializeChecked ix.data = .ok args := toOption_eq_some.1 hargs
  obtain rfl := decode_agrees hread s.decoded
  obtain ⟨r', hr', hused, howner, hsource, hdestination, hmint, hmint'⟩ := modified_accounts s hr hs
  refine ⟨s.args, s.args', r', s.decoded, hread, s.modified, (encode_read s.encoded).1, s.data_eq.symm, hr',
    hused, ?_, s.sourceToken, s.destinationToken,
    fun b => Solana.verify_ok.2 ⟨howner, hsource, hdestination, hmint, hmint', rfl⟩⟩
  rw [hused, computeMinAmountOut_used, s.minAmountOut]

end Modify

namespace Sample

open Solana.Sample (key usdc wrappedSol deployment)

def addresses : Addresses := ⟨key 22, fun _ => key 21, key 20, key 23⟩

theorem number_lt (n v : ℕ) : v % 256 ^ n < 256 ^ n := Nat.mod_lt _ (Nat.pow_pos (by decide))

def number (n v : ℕ) : Uint n := ⟨v % 256 ^ n, number_lt n v⟩

/-- All of it goes into a pool of Whirlpool. -/
def step : Solana.JupiterV6.RoutePlanStep := ⟨.whirlpool true, number 1 100, number 1 0, number 1 1⟩

theorem oneStep_lt : [step].length < 256 ^ 4 := by decide

/-- Half a token for every token that goes in. -/
def quotedArgs : Solana.JupiterV6.SharedAccountsRouteArgs :=
  ⟨number 1 1, ⟨[step], oneStep_lt⟩, number 8 1000, number 8 500, number 2 50, number 1 0⟩

/-- A quote for the user with the key 30. -/
def quote : TransactionInstruction where
  programId := key 22
  keys := [⟨key 20, false, false⟩, ⟨key 21, false, false⟩, ⟨key 30, true, false⟩,
    ⟨key 31, false, true⟩, ⟨key 32, false, true⟩, ⟨key 33, false, true⟩, ⟨key 34, false, true⟩,
    ⟨wrappedSol, false, false⟩, ⟨usdc, false, false⟩, ⟨key 22, false, false⟩, ⟨key 22, false, false⟩,
    ⟨key 24, false, false⟩, ⟨key 22, false, false⟩, ⟨key 40, false, false⟩, ⟨key 31, false, true⟩]
  data := instructionData quotedArgs

/-- 700 units, for which 350 are quoted. -/
def opts : ModifySharedAccountsRouteOpts := ⟨some 700, some 350, none, some true, none, none⟩

/-- The program takes the modified quote for its swap authority, and wants at least 348 units. -/
theorem quote_modified : ∃ m r', modifySharedAccountsRouteInstruction deployment
      (fun _ => some .token) quote (key 7) opts = .ok m ∧
    ofInstruction addresses m.instruction.keys m.instruction.data = some r' ∧
    Solana.computeMinAmountOut r'.args = 348 ∧
    ∀ b, r'.verify (key 7) (key 12) (key 11) wrappedSol usdc b = .ok ((), b) := by
  have hrun : ((modifySharedAccountsRouteInstruction deployment (fun _ => some .token) quote (key 7)
      opts).toOption.map fun m => (m.sourceToken, m.destinationToken, m.sourceMint, m.destinationMint,
        m.minAmountOut)) = some (key 12, key 11, wrappedSol, usdc, 348) := by decide +kernel
  obtain ⟨m, hm, hfields⟩ := Option.map_eq_some_iff.1 hrun
  obtain ⟨hsource, hdestination, hmint, hmint', hmin⟩ : m.sourceToken = key 12 ∧
      m.destinationToken = key 11 ∧ m.sourceMint = wrappedSol ∧ m.destinationMint = usdc ∧
      m.minAmountOut = 348 := by simpa using hfields
  have hquoted : (ofInstruction addresses quote.keys quote.data).isSome = true := by decide +kernel
  obtain ⟨r, hr⟩ := Option.isSome_iff_exists.1 hquoted
  have hs : Separate quote.keys (key 7) m.sourceToken := by
    rw [hsource]
    exact ⟨by decide +kernel, by decide +kernel, by decide +kernel, by decide +kernel,
      by decide +kernel, by decide +kernel, by decide +kernel⟩
  obtain ⟨args, args', r', -, -, -, -, -, hr', -, hlimit, -, -, hverify⟩ :=
    modified_route (toOption_eq_some.1 hm) hr hs
  rw [hmin] at hlimit
  rw [hsource, hdestination, hmint, hmint'] at hverify
  exact ⟨m, r', toOption_eq_some.1 hm, hr', hlimit, hverify⟩

end Sample

end SwapLayer.JupiterClient
