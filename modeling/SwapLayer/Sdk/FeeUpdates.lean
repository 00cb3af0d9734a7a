import Mathlib.Algebra.Order.BigOperators.Group.List
import SwapLayer.Evm.Governance
import SwapLayer.Sdk.InitiateArgs

/-!
# Fee updates of the TypeScript SDK

Model of the fee parameter items and of `feeParamUpdatesBatchLayout` in `evm/ts-sdk/src/layout.ts`.
Prices and dropoffs are given in wei and written in their units. A percentage is the number that
`percentageItem` encodes it to: an exponent of two bits below a mantissa of at most 10000.

A `GasPrice` update is written with a timestamp in front of the price. The contract has no such field:
it reads four bytes, which are the timestamp, and goes on with the price as if it were the chain of the
next update.

Results:
* `encodeFeeParamUpdatesBatch_eq`: without a gas price, the bytes are what the contract reads the listed
  updates from.
* `gasPrice_rejected`: no batch of one gas price gets through.
* `encodeFeeParamUpdatesBatch_understood_iff`: the contract reads the listed updates and makes them iff
  there is no gas price among them.
-/

namespace SwapLayer.Sdk

open ByteString

/-! ## Fee parameter items -/

/-- Wei per unit of `gasPriceItem`. -/
def gasPriceUnit : ℕ := 10 ^ 6

/-- A price in wei that fits into a `gasPriceItem`. -/
abbrev GasPrice := {price : ℕ // price / gasPriceUnit < 256 ^ 4}

/-- What a percentage of at most 1000 is encoded to. -/
abbrev Percentage := {encoded : Uint 2 // encoded.val >>> Evm.EXPONENT_BITS ≤ Evm.MAX_MANTISSA}

/-- The id of a chain; none is zero. -/
abbrev Chain := {chain : Uint 2 // chain.val ≠ 0}

def chainItem (chain : Chain) : List UInt8 := writeUint chain.val

def timestampItem (timestamp : Uint 4) : List UInt8 := writeUint timestamp

def baseFeeItem (fee : Uint 4) : List UInt8 := writeUint fee

def gasPriceItem (price : GasPrice) : List UInt8 := toBE 4 (price.val / gasPriceUnit)

def percentageItem (percentage : Percentage) : List UInt8 := writeUint percentage.val

def gasTokenPriceItem (price : Uint 8) : List UInt8 := writeUint price

/-! ## Updates -/

/-- The cases of `feeParamUpdateItem`. -/
inductive ParamValue
  | gasPrice (gasPriceTimestamp : Uint 4) (gasPrice : GasPrice)
  | gasTokenPrice (value : Uint 8)
  | baseFee (value : Uint 4)
  | gasPriceMargin (value : Percentage)
  | gasDropoffMargin (value : Percentage)
  | maxGasDropoff (value : GasDropoff)

structure FeeParamUpdate where
  chain : Chain
  update : ParamValue

def timestampedGasPriceItem (gasPriceTimestamp : Uint 4) (gasPrice : GasPrice) : List UInt8 :=
  timestampItem gasPriceTimestamp ++ gasPriceItem gasPrice

def feeParamUpdateItem : ParamValue → List UInt8
  | .gasPrice gasPriceTimestamp gasPrice =>
    toBE 1 0 ++ timestampedGasPriceItem gasPriceTimestamp gasPrice
  | .gasTokenPrice value => toBE 1 1 ++ gasTokenPriceItem value
  | .baseFee value => toBE 1 2 ++ baseFeeItem value
  | .gasPriceMargin value => toBE 1 3 ++ percentageItem value
  | .gasDropoffMargin value => toBE 1 4 ++ percentageItem value
  | .maxGasDropoff value => toBE 1 5 ++ gasDropoffItem value

def feeParamUpdateLayout (u : FeeParamUpdate) : List UInt8 :=
  chainItem u.chain ++ feeParamUpdateItem u.update

def encodeFeeParamUpdatesBatch (args : List FeeParamUpdate) : List UInt8 :=
  args.flatMap feeParamUpdateLayout

/-! ## What an update means to the contract -/

namespace ParamValue

def field : ParamValue → Evm.FeeUpdate
  | gasPrice .. => .gasPrice
  | gasTokenPrice _ => .gasTokenPrice
  | baseFee _ => .baseFee
  | gasPriceMargin _ => .gasPriceMargin
  | gasDropoffMargin _ => .gasDropoffMargin
  | maxGasDropoff _ => .maxGasDropoff

/-- The integer that a value is encoded to. -/
def encoded : ParamValue → ℕ
  | gasPrice _ price => price.val / gasPriceUnit
  | gasTokenPrice value => value
  | baseFee value => value
  | gasPriceMargin value => value.val
  | gasDropoffMargin value => value.val
  | maxGasDropoff value => value.val / gasDropoffUnit

theorem encoded_lt (v : ParamValue) : v.encoded < 256 ^ v.field.size := by
  cases v with
  | gasPrice _ price => exact price.property
  | gasTokenPrice value => exact value.isLt
  | baseFee value => exact value.isLt
  | gasPriceMargin value => exact value.val.isLt
  | gasDropoffMargin value => exact value.val.isLt
  | maxGasDropoff value => exact value.property

theorem accepted (v : ParamValue) : v.field.Accepts v.encoded := by
  cases v with
  | gasPriceMargin value => exact value.property
  | gasDropoffMargin value => exact value.property
  | gasPrice | gasTokenPrice | baseFee | maxGasDropoff => trivial

def IsGasPrice : ParamValue → Prop
  | gasPrice .. => True
  | _ => False

end ParamValue

/-- The update that is meant. -/
def FeeParamUpdate.toUpdate (u : FeeParamUpdate) : Evm.ParamUpdate where
  chain := u.chain.val
  field := u.update.field
  value := u.update.encoded
  chain_ne_zero := u.chain.property
  chain_lt := u.chain.val.isLt
  value_lt := u.update.encoded_lt
  accepted := u.update.accepted

/-- A batch means these updates to the contract: it reads them from the bytes, and a call of anybody who
may update fees makes them, in any state. -/
structure UpdatesUnderstood (updates : List UInt8) (us : List Evm.ParamUpdate) : Prop where
  read : updates = us.flatMap Evm.ParamUpdate.encode
  made : ∀ {d : Evm.Deployment} (msg : Evm.Msg d) (w : Evm.World), Evm.MayUpdateFees msg w →
    ∃ w', Evm.batchFeeUpdates d msg updates w = .ok ((), w') ∧ w'.held = w.held ∧
      w'.storage = { w.storage with feeParams := Evm.storeAll us w.storage.feeParams }

theorem updatesUnderstood_encode (us : List Evm.ParamUpdate) :
    UpdatesUnderstood (us.flatMap Evm.ParamUpdate.encode) us where
  read := rfl
  made msg w hmay := by
    obtain ⟨w', happlied, hheld, hstorage⟩ := Evm.applyBatchFeeUpdates_encode us w
    exact ⟨w', Evm.batchFeeUpdates_ok.2 ⟨hmay, happlied⟩, hheld, hstorage⟩

/-! ## The bytes of a batch -/

/-- What the SDK writes of a gas price and the contract does not read. -/
def timestampBytes (u : FeeParamUpdate) : ℕ :=
  match u.update with
  | .gasPrice .. => 4
  | _ => 0

theorem length_feeParamUpdateLayout (u : FeeParamUpdate) :
    (feeParamUpdateLayout u).length = u.toUpdate.encode.length + timestampBytes u := by
  obtain ⟨chain, update⟩ := u
  rw [Evm.length_encode]
  cases update <;>
    simp only [feeParamUpdateLayout, chainItem, feeParamUpdateItem, timestampedGasPriceItem,
      timestampItem, gasPriceItem, gasTokenPriceItem, baseFeeItem, percentageItem, gasDropoffItem,
      writeUint, List.length_append, length_toBE] <;>
    rfl

/-- **An update other than a gas price** is written as the contract reads it. -/
theorem feeParamUpdateLayout_eq {u : FeeParamUpdate} (h : ¬u.update.IsGasPrice) :
    feeParamUpdateLayout u = u.toUpdate.encode := by
  obtain ⟨chain, update⟩ := u
  cases update with
  | gasPrice => exact absurd trivial h
  | gasTokenPrice | baseFee | gasPriceMargin | gasDropoffMargin | maxGasDropoff => rfl

theorem encodeFeeParamUpdatesBatch_eq {args : List FeeParamUpdate}
    (h : ∀ u ∈ args, ¬u.update.IsGasPrice) :
    encodeFeeParamUpdatesBatch args =
      (args.map FeeParamUpdate.toUpdate).flatMap Evm.ParamUpdate.encode := by
  rw [List.flatMap_map, encodeFeeParamUpdatesBatch]
  exact List.flatMap_congr fun u hu => feeParamUpdateLayout_eq (h u hu)

/-- A batch is longer than what the contract reads by the timestamps in it. -/
theorem length_encodeFeeParamUpdatesBatch (args : List FeeParamUpdate) :
    (encodeFeeParamUpdatesBatch args).length =
      ((args.map FeeParamUpdate.toUpdate).flatMap Evm.ParamUpdate.encode).length +
        (args.map timestampBytes).sum := by
  induction args with
  | nil => rfl
  | cons u args ih =>
    rw [encodeFeeParamUpdatesBatch, List.flatMap_cons, ← encodeFeeParamUpdatesBatch]
    simp only [List.map_cons, List.flatMap_cons, List.length_append, List.sum_cons, ih,
      length_feeParamUpdateLayout]
    omega

/-- **The contract reads the listed updates from a batch and makes them iff there is no gas price among
them.** -/
theorem encodeFeeParamUpdatesBatch_understood_iff (args : List FeeParamUpdate) :
    UpdatesUnderstood (encodeFeeParamUpdatesBatch args) (args.map FeeParamUpdate.toUpdate) ↔
      ∀ u ∈ args, ¬u.update.IsGasPrice := by
  constructor
  · intro hunderstood u hu hgasPrice
    have hlength := length_encodeFeeParamUpdatesBatch args
    rw [← hunderstood.read] at hlength
    have hfour : timestampBytes u = 4 := by
      unfold timestampBytes
      cases hupdate : u.update with
      | gasPrice => rfl
      | gasTokenPrice | baseFee | gasPriceMargin | gasDropoffMargin | maxGasDropoff =>
        rw [hupdate] at hgasPrice
        exact hgasPrice.elim
    have hle : timestampBytes u ≤ (args.map timestampBytes).sum :=
      List.single_le_sum (fun _ _ => Nat.zero_le _) _ (List.mem_map_of_mem hu)
    omega
  · intro h
    rw [encodeFeeParamUpdatesBatch_eq h]
    exact updatesUnderstood_encode _

/-- **A gas price alone never gets through**: behind the seven bytes that the contract reads there are
four, and no update is as short. -/
theorem gasPrice_rejected {u : FeeParamUpdate} (h : u.update.IsGasPrice) (w : Evm.World)
    (r : Unit × Evm.World) : Evm.applyBatchFeeUpdates (encodeFeeParamUpdatesBatch [u]) w ≠ .ok r := by
  intro hok
  obtain ⟨us, hus, -⟩ := Evm.applyBatchFeeUpdates_ok hok
  obtain ⟨chain, update⟩ := u
  cases update with
  | gasTokenPrice | baseFee | gasPriceMargin | gasDropoffMargin | maxGasDropoff => exact h.elim
  | gasPrice timestamp price =>
    have hbytes : encodeFeeParamUpdatesBatch [⟨chain, .gasPrice timestamp price⟩] =
        toBE 2 chain.val ++ (toBE 1 0 ++ (toBE 4 timestamp ++ gasPriceItem price)) :=
      List.append_nil _
    have hlength : (us.flatMap Evm.ParamUpdate.encode).length = 11 := by
      rw [← hus, hbytes]
      simp only [gasPriceItem, List.length_append, length_toBE]
    cases us with
    | nil => cases hlength
    | cons u us =>
      have hends : Ends (encodeFeeParamUpdatesBatch [⟨chain, .gasPrice timestamp price⟩]) 0
          (u.encode ++ us.flatMap Evm.ParamUpdate.encode) := ⟨Nat.zero_le _, hus⟩
      -- the byte behind the chain says that a gas price of four bytes comes next
      have hzero : readBE 1 (encodeFeeParamUpdatesBatch [⟨chain, .gasPrice timestamp price⟩]) 2 = 0 := by
        have hholds := holds_self (encodeFeeParamUpdatesBatch [⟨chain, .gasPrice timestamp price⟩])
        rw [hbytes] at hholds ⊢
        exact (hholds.rest (length_toBE ..)).left.readBE (by decide)
      have hfield : u.field = .gasPrice := by
        have hread := (Evm.readsUpdate_of_ends hends).field
        rw [hzero] at hread
        exact Except.ok.inj ((Evm.FeeUpdate.ofUint8_ok.2 hread).symm.trans rfl)
      rw [List.flatMap_cons, List.length_append, Evm.length_encode, hfield] at hlength
      cases us with
      | nil => cases hlength
      | cons u' us =>
        rw [List.flatMap_cons, List.length_append, Evm.length_encode] at hlength
        have hsize : 2 ≤ u'.field.size := by cases u'.field <;> decide
        have hfour : Evm.FeeUpdate.gasPrice.size = 4 := rfl
        omega

namespace Sample

/-- A gas price of 30 gwei on chain 2. -/
def gasPriceUpdate : FeeParamUpdate :=
  ⟨⟨uintAt 2 [0, 2] 0, by decide⟩,
    .gasPrice (uintAt 4 (toBE 4 1700000000) 0) ⟨30 * 10 ^ 9, by decide⟩⟩

/-- A call of the fee updater. -/
def feeUpdaterMsg : Evm.Msg Evm.Sample.deployment where
  sender := Evm.Sample.address 3
  value := 0
  sender_ne_self := by decide
  sender_ne_zero := by decide

/-- The contract takes the high bytes of the price for a chain, and rejects chain zero. -/
theorem gasPrice_not_understood :
    Evm.MayUpdateFees feeUpdaterMsg (Evm.Sample.world 0) ∧
      ((Evm.batchFeeUpdates Evm.Sample.deployment feeUpdaterMsg
        (encodeFeeParamUpdatesBatch [gasPriceUpdate]) (Evm.Sample.world 0)).map fun _ => ()) =
        .error .invalidChainId ∧
      ¬UpdatesUnderstood (encodeFeeParamUpdatesBatch [gasPriceUpdate])
        ([gasPriceUpdate].map FeeParamUpdate.toUpdate) := by
  have hmay : Evm.MayUpdateFees feeUpdaterMsg (Evm.Sample.world 0) := .inl rfl
  refine ⟨hmay, by decide +kernel, fun hunderstood => ?_⟩
  obtain ⟨w', hok, -, -⟩ := hunderstood.made feeUpdaterMsg (Evm.Sample.world 0) hmay
  exact gasPrice_rejected (u := gasPriceUpdate) trivial _ _ (Evm.batchFeeUpdates_ok.1 hok).2

end Sample

end SwapLayer.Sdk
