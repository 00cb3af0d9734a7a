import SwapLayer.Lib.WriteBack
import SwapLayer.Evm.Fees

/-!
# What a batch of fee updates does

`_batchFeeUpdates` keeps the parameters of one chain in a local variable and stores them when the
next update is for another chain, and once more at the end. What it should come to is simpler: every
update written to the storage as it is read.

* `ParamUpdate` is one update that the contract accepts, `encode` its bytes.
* `storeAll` writes a list of them to a mapping, one at a time.
* `editAll` is the loop of the source over such a list instead of over bytes; `loaded` reads its
  local variables as a `WriteBack.Cached` mapping.

Results:
* `batchFeeUpdatesLoop_encoded`, `batchFeeUpdatesLoop_decodes`: the loop over bytes is the loop over
  updates, and it only gets through what is a list of updates.
* `editAll_ok`: the loop over updates stores what `storeAll` does.
* `applyBatchFeeUpdates_exact`: both, with what the result holds field by field.
-/

namespace SwapLayer.Evm

open ByteString Program WriteBack

/-! ## One update -/

namespace FeeUpdate

/-- The number in front of an update, the inverse of `FeeUpdate(update_)`. -/
def toUint8 : FeeUpdate → ℕ
  | gasPrice => 0
  | gasTokenPrice => 1
  | baseFee => 2
  | gasPriceMargin => 3
  | gasDropoffMargin => 4
  | maxGasDropoff => 5

/-- The bytes of the new value. -/
def size : FeeUpdate → ℕ
  | gasPrice | baseFee | maxGasDropoff => 4
  | gasTokenPrice => 8
  | gasPriceMargin | gasDropoffMargin => 2

/-- The place of the field in the word of fee parameters. -/
def offset : FeeUpdate → ℕ
  | baseFee => FeeParams.BASE_FEE_OFFSET
  | gasPrice => FeeParams.GAS_PRICE_OFFSET
  | gasPriceMargin => FeeParams.GAS_PRICE_MARGIN_OFFSET
  | maxGasDropoff => FeeParams.MAX_GAS_DROPOFF_OFFSET
  | gasDropoffMargin => FeeParams.GAS_DROPOFF_MARGIN_OFFSET
  | gasTokenPrice => FeeParams.GAS_TOKEN_PRICE_OFFSET

/-- The getter of the field. -/
def get (field : FeeUpdate) : FeeParams → ℕ := FeeParams.getField field.offset (8 * field.size)

/-- The setter of the field. -/
def set (field : FeeUpdate) : FeeParams → ℕ → FeeParams :=
  FeeParams.setField field.offset (8 * field.size)

/-- The values a field may have: a percentage has a bounded mantissa. -/
def Accepts : FeeUpdate → ℕ → Prop
  | gasPriceMargin, value | gasDropoffMargin, value => value >>> EXPONENT_BITS ≤ MAX_MANTISSA
  | _, _ => True

instance : (field : FeeUpdate) → (value : ℕ) → Decidable (field.Accepts value)
  | gasPriceMargin, _ | gasDropoffMargin, _ => inferInstanceAs (Decidable (_ ≤ _))
  | gasPrice, _ | gasTokenPrice, _ | baseFee, _ | maxGasDropoff, _ => inferInstanceAs (Decidable True)

theorem ofUint8_ok {n : ℕ} {field : FeeUpdate} : ofUint8 n = .ok field ↔ n = field.toUint8 := by
  constructor
  · intro h
    match n with
    | 0 | 1 | 2 | 3 | 4 | 5 => cases h; rfl
    | n + 6 => cases h
  · rintro rfl
    cases field <;> rfl

theorem toUint8_lt (field : FeeUpdate) : field.toUint8 < 256 ^ 1 := by
  cases field <;> decide

/-- A value of the width of a field, in bits. -/
theorem lt_two_pow {field : FeeUpdate} {value : ℕ} (h : value < 256 ^ field.size) :
    value < 2 ^ (8 * field.size) := by
  rw [Nat.pow_mul]
  exact h

/-- The six fields fill the low 192 bits. -/
theorem offset_add_le (field : FeeUpdate) : field.offset + 8 * field.size ≤ 192 := by
  cases field <;> decide

theorem size_lt (field : FeeUpdate) : 8 * field.size < 256 := by
  cases field <;> decide

/-- **No two fields share a bit.** -/
theorem disjoint {field other : FeeUpdate} (hne : other ≠ field) :
    other.offset + 8 * other.size ≤ field.offset ∨ field.offset + 8 * field.size ≤ other.offset := by
  cases field <;> cases other <;> first | exact absurd rfl hne | decide

theorem get_set {field : FeeUpdate} {value : ℕ} (params : FeeParams)
    (hvalue : value < 256 ^ field.size) : field.get (field.set params value) = value :=
  FeeParams.getField_setField params (lt_two_pow hvalue) field.size_lt
    (field.offset_add_le.trans (by decide))

theorem get_set_of_ne {field other : FeeUpdate} {value : ℕ} (params : FeeParams)
    (hvalue : value < 256 ^ field.size) (hne : other ≠ field) :
    other.get (field.set params value) = other.get params :=
  FeeParams.getField_setField_of_disjoint params (lt_two_pow hvalue) field.size_lt
    (other.offset_add_le.trans (by decide)) (disjoint hne)

/-- The fields begin and end between bytes. -/
theorem offset_dvd (field : FeeUpdate) : 8 * (field.offset / 8) = field.offset := by
  cases field <;> rfl

/-- **A field of a number**, byte by byte. -/
theorem get_ofNat (field : FeeUpdate) {n : ℕ} (hn : n < 2 ^ 256) :
    field.get (BitVec.ofNat 256 n) = n / 256 ^ (field.offset / 8) % 256 ^ field.size := by
  have hget : field.get (BitVec.ofNat 256 n) = n / 2 ^ field.offset % 2 ^ (8 * field.size) := by
    simp only [get, FeeParams.getField, BitVec.toNat_setWidth, BitVec.toNat_ushiftRight,
      BitVec.toNat_ofNat, Nat.mod_eq_of_lt hn, Nat.shiftRight_eq_div_pow]
  rw [hget, ← field.offset_dvd, Nat.pow_mul, Nat.pow_mul, Nat.mul_div_cancel_left _ (by decide)]

/-- The bits above the fields are not written. -/
theorem getLsbD_set {field : FeeUpdate} {j : ℕ} (params : FeeParams) {value : ℕ}
    (hvalue : value < 256 ^ field.size) (hj : 192 ≤ j) :
    (field.set params value).getLsbD j = params.getLsbD j := by
  by_cases hlt : j < 256
  · have hend := field.offset_add_le
    have hout : ¬j - field.offset < 8 * field.size := by omega
    have hbit : value.testBit (j - field.offset) = false :=
      Nat.testBit_lt_two_pow (Nat.lt_of_lt_of_le (lt_two_pow hvalue)
        (Nat.pow_le_pow_right (by decide) (by omega)))
    rw [set, FeeParams.getLsbD_setField params value field.size_lt hlt]
    simp [hout, hbit]
  · rw [BitVec.getLsbD_of_ge _ _ (by omega), BitVec.getLsbD_of_ge _ _ (by omega)]

/-- The fields in the order of the enumeration. -/
def all : List FeeUpdate :=
  [gasPrice, gasTokenPrice, baseFee, gasPriceMargin, gasDropoffMargin, maxGasDropoff]

end FeeUpdate

/-- The word with the given fields and nothing else: each setter, applied to zero. -/
def packFields (value : FeeUpdate → ℕ) : FeeParams :=
  FeeUpdate.all.foldl (fun params field => field.set params (value field)) 0

/-- **Packed fields are read back.** -/
theorem get_packFields {value : FeeUpdate → ℕ} (hvalue : ∀ field, value field < 256 ^ field.size)
    (field : FeeUpdate) : field.get (packFields value) = value field := by
  have hread := @read_writeAll _ _ _ _ _ FeeUpdate.get
    (fun params f => FeeUpdate.set f params (value f)) id value
    (fun params f => FeeUpdate.get_set params (hvalue f))
    (fun params f _ hne => FeeUpdate.get_set_of_ne params (hvalue f) hne) FeeUpdate.all 0 field
  rw [packFields, hread]
  cases field <;> rfl

/-- No bit is set above the fields. -/
theorem getLsbD_packFields {value : FeeUpdate → ℕ} (hvalue : ∀ field, value field < 256 ^ field.size)
    {j : ℕ} (hj : 192 ≤ j) : (packFields value).getLsbD j = false := by
  simp only [packFields, FeeUpdate.all, List.foldl_cons, List.foldl_nil,
    FeeUpdate.getLsbD_set _ (hvalue _) hj]
  exact BitVec.getLsbD_zero

/-- **A word is determined by its fields** and the bits above them. -/
theorem FeeParams.ext_fields {p q : FeeParams} (hfields : ∀ field : FeeUpdate, field.get p = field.get q)
    (hunused : ∀ j, 192 ≤ j → p.getLsbD j = q.getLsbD j) : p = q := by
  refine BitVec.eq_of_getLsbD_eq fun j hj => ?_
  have hfield (field : FeeUpdate) (hle : field.offset ≤ j) (hlt : j - field.offset < 8 * field.size) :
      p.getLsbD j = q.getLsbD j := by
    have hbit := congrArg (fun n => n.testBit (j - field.offset)) (hfields field)
    simp only [FeeUpdate.get, testBit_getField, hlt, decide_true, Bool.true_and] at hbit
    rwa [Nat.add_sub_of_le hle] at hbit
  -- the fields in the order of their places, low bits first
  rcases Nat.lt_or_ge j 32 with hlt | h₁
  · exact hfield .baseFee (Nat.zero_le _) hlt
  rcases Nat.lt_or_ge j 64 with hlt | h₂
  · exact hfield .gasPrice h₁ (Nat.sub_lt_left_of_lt_add h₁ hlt)
  rcases Nat.lt_or_ge j 80 with hlt | h₃
  · exact hfield .gasPriceMargin h₂ (Nat.sub_lt_left_of_lt_add h₂ hlt)
  rcases Nat.lt_or_ge j 112 with hlt | h₄
  · exact hfield .maxGasDropoff h₃ (Nat.sub_lt_left_of_lt_add h₃ hlt)
  rcases Nat.lt_or_ge j 128 with hlt | h₅
  · exact hfield .gasDropoffMargin h₄ (Nat.sub_lt_left_of_lt_add h₄ hlt)
  rcases Nat.lt_or_ge j 192 with hlt | h₆
  · exact hfield .gasTokenPrice h₅ (Nat.sub_lt_left_of_lt_add h₅ hlt)
  · exact hunused j h₆

/-- The percentages are what a word may go wrong in. -/
theorem FeeParams.bounded_iff {params : FeeParams} :
    params.Bounded ↔ ∀ field : FeeUpdate, field.Accepts (field.get params) := by
  constructor
  · intro h field
    cases field with
    | gasPriceMargin => exact h.price
    | gasDropoffMargin => exact h.dropoff
    | gasPrice | gasTokenPrice | baseFee | maxGasDropoff => trivial
  · intro h
    exact ⟨h .gasPriceMargin, h .gasDropoffMargin⟩

/-- Setting a field to a value that it accepts keeps the percentages within their bounds. -/
theorem FeeParams.Bounded.set {params : FeeParams} (h : params.Bounded) {field : FeeUpdate}
    {value : ℕ} (hvalue : value < 256 ^ field.size) (haccepts : field.Accepts value) :
    (field.set params value).Bounded := by
  rw [bounded_iff] at h ⊢
  intro other
  by_cases hsame : other = field
  · rw [hsame, FeeUpdate.get_set params hvalue]
    exact haccepts
  · rw [FeeUpdate.get_set_of_ne params hvalue hsame]
    exact h other

/-- **One step of the parser**: it reads the value of a field and writes it, unless it is a percentage
that is too large. -/
theorem applyFeeUpdate_eq (update : FeeUpdate) (params : FeeParams) (updates : Bytes) (offset : ℕ) :
    applyFeeUpdate update params updates offset =
      if update.Accepts (readBE update.size updates offset) then
        .ok (update.set params (readBE update.size updates offset), offset + update.size)
      else .error (.invalidPercentage (readBE update.size updates offset)) := by
  have hmargin (value : ℕ) (f : ℕ → FeeParams × ℕ) :
      (percentageCheckedWrap value >>= fun margin => Except.ok (f margin)) =
        if value >>> EXPONENT_BITS ≤ MAX_MANTISSA then .ok (f value)
        else .error (.invalidPercentage value) := by
    unfold percentageCheckedWrap
    split
    · rename_i hgt
      rw [if_neg (Nat.not_le.2 hgt)]
      rfl
    · rename_i hle
      rw [if_pos (Nat.le_of_not_lt hle)]
      rfl
  cases update with
  | gasPrice => rfl
  | gasTokenPrice => rfl
  | baseFee => rfl
  | gasPriceMargin => exact hmargin _ fun margin => (params.setGasPriceMargin margin, offset + 2)
  | gasDropoffMargin => exact hmargin _ fun margin => (params.setGasDropoffMargin margin, offset + 2)
  | maxGasDropoff => rfl

/-! ## Lists of updates -/

/-- An update that the contract accepts. -/
structure ParamUpdate where
  chain : ℕ
  field : FeeUpdate
  value : ℕ
  chain_ne_zero : chain ≠ 0
  chain_lt : chain < 256 ^ 2
  value_lt : value < 256 ^ field.size
  accepted : field.Accepts value

namespace ParamUpdate

/-- The bytes of an update: the chain, the number of the field, the value. -/
def encode (u : ParamUpdate) : Bytes :=
  toBE 2 u.chain ++ (toBE 1 u.field.toUint8 ++ toBE u.field.size u.value)

/-- The update written to a mapping. -/
def store (u : ParamUpdate) (m : ℕ → FeeParams) : ℕ → FeeParams :=
  Function.update m u.chain (u.field.set (m u.chain) u.value)

/-- What an update writes to: a field of a chain. -/
def location (u : ParamUpdate) : ℕ × FeeUpdate := (u.chain, u.field)

/-- The update as an edit of the entry of its chain. -/
def asEdit (u : ParamUpdate) : ℕ × (FeeParams → FeeParams) :=
  (u.chain, fun params => u.field.set params u.value)

end ParamUpdate

/-- **The updates one at a time**, in order. -/
def storeAll (us : List ParamUpdate) (m : ℕ → FeeParams) : ℕ → FeeParams :=
  us.foldl (fun m u => u.store m) m

/-- What is stored at a location. -/
def readField (l : ℕ × FeeUpdate) (m : ℕ → FeeParams) : ℕ := l.2.get (m l.1)

theorem encode_ne_nil (u : ParamUpdate) (rest : Bytes) : u.encode ++ rest ≠ [] := by
  intro h
  have := congrArg List.length h
  simp [ParamUpdate.encode] at this

/-- **The last write to a field is the value it has.** -/
theorem readField_storeAll (us : List ParamUpdate) (m : ℕ → FeeParams) (l : ℕ × FeeUpdate) :
    readField l (storeAll us m) =
      lastWrite (us.map fun u => (u.location, u.value)) l (readField l m) := by
  refine read_writeAll (fun m u => ?_) (fun m u l hne => ?_) us m l
  · rw [readField, ParamUpdate.store, ParamUpdate.location, Function.update_self,
      FeeUpdate.get_set _ u.value_lt]
  · rw [readField, readField, ParamUpdate.store]
    by_cases hchain : l.1 = u.chain
    · have hfield : l.2 ≠ u.field := fun h => hne (Prod.ext hchain h)
      rw [hchain, Function.update_self, FeeUpdate.get_set_of_ne _ u.value_lt hfield]
    · rw [Function.update_of_ne hchain]

/-- The bits above the fields stay as they were. -/
theorem storeAll_unused (us : List ParamUpdate) (m : ℕ → FeeParams) (chain : ℕ) {j : ℕ}
    (hj : 192 ≤ j) : (storeAll us m chain).getLsbD j = (m chain).getLsbD j := by
  induction us generalizing m with
  | nil => rfl
  | cons u us ih =>
    rw [storeAll, List.foldl_cons, ← storeAll, ih, ParamUpdate.store]
    by_cases hchain : chain = u.chain
    · rw [hchain, Function.update_self, FeeUpdate.getLsbD_set _ u.value_lt hj]
    · rw [Function.update_of_ne hchain]

/-- A chain without an update keeps its word. -/
theorem storeAll_of_not_mem {us : List ParamUpdate} (m : ℕ → FeeParams) {chain : ℕ}
    (hnot : ∀ u ∈ us, u.chain ≠ chain) : storeAll us m chain = m chain := by
  induction us generalizing m with
  | nil => rfl
  | cons u us ih =>
    obtain ⟨hu, hus⟩ := List.forall_mem_cons.1 hnot
    rw [storeAll, List.foldl_cons, ← storeAll, ih _ hus, ParamUpdate.store,
      Function.update_of_ne (Ne.symm hu)]

/-- The percentages stay within their bounds. -/
theorem storeAll_bounded (us : List ParamUpdate) {m : ℕ → FeeParams} (hm : ∀ chain, (m chain).Bounded)
    (chain : ℕ) : (storeAll us m chain).Bounded := by
  induction us generalizing m with
  | nil => exact hm chain
  | cons u us ih =>
    refine ih fun c => ?_
    show FeeParams.Bounded (Function.update m u.chain (u.field.set (m u.chain) u.value) c)
    by_cases hc : c = u.chain
    · rw [hc, Function.update_self]
      exact (hm u.chain).set u.value_lt u.accepted
    · rw [Function.update_of_ne hc]
      exact hm c

/-! ## The loop over updates -/

/-- The loop of `_batchFeeUpdates` on a list that was parsed before. -/
def editAll : List ParamUpdate → ℕ → FeeParams → Contract Unit
  | [], curChain, curParams => storeEdited curChain curParams
  | u :: us, curChain, curParams => do
    let (curChain, curParams) ← switchChain u.chain curChain curParams
    editAll us curChain (u.field.set curParams u.value)

/-- The mapping, and the parameters in the local variables of the loop: chain 0 is none. -/
def loaded (w : World) (curChain : ℕ) (curParams : FeeParams) : Cached ℕ FeeParams :=
  ⟨w.storage.feeParams, if curChain = 0 then none else some (curChain, curParams)⟩

/-- The world with other fee parameters; events do not count. -/
def Stored (w : World) (m : ℕ → FeeParams) (w' : World) : Prop :=
  w'.held = w.held ∧ w'.storage = { w.storage with feeParams := m }

theorem stored_self (w : World) : Stored w w.storage.feeParams w := ⟨rfl, rfl⟩

theorem Stored.trans {w w₁ w₂ : World} {m m' : ℕ → FeeParams} (h : Stored w m w₁)
    (h' : Stored w₁ m' w₂) : Stored w m' w₂ := by
  refine ⟨h'.1.trans h.1, ?_⟩
  rw [h'.2, h.2]

theorem Stored.feeParams {w w' : World} {m : ℕ → FeeParams} (h : Stored w m w') :
    w'.storage.feeParams = m := by
  rw [h.2]

/-- What was edited so far is stored. -/
theorem storeEdited_ok (w : World) (curChain : ℕ) (curParams : FeeParams) :
    ∃ w', storeEdited curChain curParams w = .ok ((), w') ∧
      Stored w (loaded w curChain curParams).flush w' := by
  unfold storeEdited loaded Cached.flush
  by_cases hzero : curChain = 0
  · rw [if_neg (not_not.2 hzero), if_pos hzero]
    exact ⟨w, rfl, stored_self w⟩
  · rw [if_pos hzero, if_neg hzero]
    exact ⟨_, rfl, rfl, rfl⟩

/-- **A change of chain** turns the cached mapping to the new chain. -/
theorem switchChain_ok (w : World) {updateChain : ℕ} (hne : updateChain ≠ 0) (curChain : ℕ)
    (curParams : FeeParams) :
    ∃ params w', switchChain updateChain curChain curParams w = .ok ((updateChain, params), w') ∧
      Stored w w'.storage.feeParams w' ∧
      loaded w' updateChain params = (loaded w curChain curParams).turnTo updateChain := by
  unfold switchChain
  by_cases hsame : curChain = updateChain
  · subst hsame
    rw [if_neg (not_not.2 rfl)]
    refine ⟨curParams, w, rfl, stored_self w, ?_⟩
    rw [Cached.turnTo, if_pos]
    simp [loaded, hne]
  · rw [if_pos hsame]
    obtain ⟨w', hrun, hstored⟩ := storeEdited_ok w curChain curParams
    refine ⟨w'.storage.feeParams updateChain, w', ?_, hstored.feeParams ▸ hstored, ?_⟩
    · rw [bind_apply, hrun]
      rfl
    · have hreg : ¬(loaded w curChain curParams).register.map Prod.fst = some updateChain := by
        unfold loaded
        split <;> simp [hsame]
      rw [Cached.turnTo, if_neg hreg, loaded, if_neg hne, hstored.feeParams]

/-- **The loop over updates** never fails and leaves the mapping that the edits of the cached mapping
lead to. -/
theorem editAll_ok (us : List ParamUpdate) (w : World) (curChain : ℕ) (curParams : FeeParams) :
    ∃ w', editAll us curChain curParams w = .ok ((), w') ∧
      Stored w ((us.map ParamUpdate.asEdit).foldl Cached.edit (loaded w curChain curParams)).flush
        w' := by
  induction us generalizing w curChain curParams with
  | nil => exact storeEdited_ok w curChain curParams
  | cons u us ih =>
    obtain ⟨params, w₁, hswitch, hstored, hloaded⟩ :=
      switchChain_ok w u.chain_ne_zero curChain curParams
    obtain ⟨w', hrun, hrest⟩ := ih w₁ u.chain (u.field.set params u.value)
    have hedit : loaded w₁ u.chain (u.field.set params u.value) =
        (loaded w curChain curParams).edit u.asEdit := by
      rw [Cached.edit, ParamUpdate.asEdit, ← hloaded]
      simp [loaded, u.chain_ne_zero]
    refine ⟨w', ?_, ?_⟩
    · rw [editAll, bind_apply, hswitch]
      exact hrun
    · rw [List.map_cons, List.foldl_cons, ← hedit]
      exact hstored.trans hrest

/-- Edits of the cached mapping are updates of the mapping that is meant. -/
theorem editDirectly_asEdit (us : List ParamUpdate) (m : ℕ → FeeParams) :
    editDirectly (us.map ParamUpdate.asEdit) m = storeAll us m := by
  rw [editDirectly, List.foldl_map]
  rfl

/-! ## The loop over bytes -/

/-- The update `u` is what a round of the loop reads at `offset`. -/
structure ReadsUpdate (updates : Bytes) (offset : ℕ) (u : ParamUpdate) : Prop where
  chain : readBE 2 updates offset = u.chain
  field : readBE 1 updates (offset + 2) = u.field.toUint8
  value : readBE u.field.size updates (offset + 3) = u.value

section Loop

variable {updates rest : Bytes} {offset : ℕ} {u : ParamUpdate}

theorem length_encode (u : ParamUpdate) : u.encode.length = 3 + u.field.size := by
  simp only [ParamUpdate.encode, List.length_append, length_toBE]
  omega

/-- An update in front of the rest is read. -/
theorem readsUpdate_of_ends (h : Ends updates offset (u.encode ++ rest)) : ReadsUpdate updates offset u := by
  have hfield : Holds updates (offset + 2) (toBE 1 u.field.toUint8 ++ toBE u.field.size u.value) :=
    h.head.rest (length_toBE ..)
  exact ⟨h.head.left.readBE u.chain_lt, hfield.left.readBE u.field.toUint8_lt,
    (hfield.rest (length_toBE ..)).readBE u.value_lt⟩

/-- What was read stands in front of the rest. -/
theorem ReadsUpdate.ends (h : ReadsUpdate updates offset u)
    (hrest : Ends updates (offset + 3 + u.field.size) rest) :
    Ends updates offset (u.encode ++ rest) := by
  have hvalue : Ends updates (offset + 2 + 1) (toBE u.field.size u.value ++ rest) :=
    h.value ▸ hrest.toBE_append
  have hfield : Ends updates (offset + 2)
      (toBE 1 u.field.toUint8 ++ (toBE u.field.size u.value ++ rest)) := h.field ▸ hvalue.toBE_append
  have hchain : Ends updates offset (toBE 2 u.chain ++
      (toBE 1 u.field.toUint8 ++ (toBE u.field.size u.value ++ rest))) := h.chain ▸ hfield.toBE_append
  simpa only [ParamUpdate.encode, List.append_assoc] using hchain

/-- **What a round does**: it reads one acceptable update and edits the parameters of its chain. -/
theorem loop_round {fuel curChain : ℕ} {curParams : FeeParams} {w : World} {r : Unit × World}
    (hlt : offset < updates.length) :
    batchFeeUpdatesLoop updates (fuel + 1) offset curChain curParams w = .ok r ↔
      ∃ u params w₁, ReadsUpdate updates offset u ∧
        switchChain u.chain curChain curParams w = .ok ((u.chain, params), w₁) ∧
        batchFeeUpdatesLoop updates fuel (offset + 3 + u.field.size) u.chain
          (u.field.set params u.value) w₁ = .ok r := by
  rw [batchFeeUpdatesLoop, if_pos hlt]
  constructor
  · intro h
    obtain ⟨_, w₀, hrequire, h₁⟩ := bind_ok.1 h
    obtain ⟨hne, rfl⟩ := require_ok.1 hrequire
    obtain ⟨params, w₁, hswitch, -, -⟩ := switchChain_ok w₀ hne curChain curParams
    obtain ⟨⟨c, p⟩, w₂, hswitch', h₂⟩ := bind_ok.1 h₁
    rw [hswitch] at hswitch'
    cases hswitch'
    obtain ⟨field, w₃, hread, h₃⟩ := bind_ok.1 h₂
    obtain ⟨hfield, rfl⟩ := lift_ok.1 hread
    obtain ⟨⟨params', o⟩, w₄, hvalue, h₄⟩ := bind_ok.1 h₃
    obtain ⟨happly, rfl⟩ := lift_ok.1 hvalue
    rw [applyFeeUpdate_eq] at happly
    split at happly
    · rename_i haccepts
      cases happly
      exact ⟨⟨_, field, _, hne, readBE_lt 2 updates offset, readBE_lt _ updates _, haccepts⟩, params,
        _, ⟨rfl, FeeUpdate.ofUint8_ok.1 hfield, rfl⟩, hswitch, h₄⟩
    · cases happly
  · rintro ⟨u, params, w₁, hreads, hswitch, hloop⟩
    refine bind_ok.2 ⟨(), w, require_ok.2 ⟨?_, rfl⟩, bind_ok.2 ⟨(u.chain, params), w₁, ?_,
      bind_ok.2 ⟨u.field, w₁, lift_ok.2 ⟨FeeUpdate.ofUint8_ok.2 hreads.field, rfl⟩, bind_ok.2
        ⟨(u.field.set params u.value, offset + 3 + u.field.size), w₁, lift_ok.2 ⟨?_, rfl⟩, hloop⟩⟩⟩⟩
    · exact fun hzero => u.chain_ne_zero (hreads.chain ▸ hzero)
    · rw [← hswitch, ← hreads.chain]
    · have hvalue : readBE u.field.size updates (offset + 2 + 1) = u.value := hreads.value
      show applyFeeUpdate u.field params updates (offset + 2 + 1) = _
      rw [applyFeeUpdate_eq, hvalue, if_pos u.accepted]

/-- **The loop over bytes is the loop over updates**, on just those strings that encode a list. The
induction is on the fuel, of which there is more than bytes are left. -/
theorem batchFeeUpdatesLoop_ok {fuel curChain : ℕ} {curParams : FeeParams} {w : World}
    {r : Unit × World} (hfuel : updates.length < offset + fuel) :
    batchFeeUpdatesLoop updates fuel offset curChain curParams w = .ok r ↔
      ∃ us : List ParamUpdate, Ends updates offset (us.flatMap ParamUpdate.encode) ∧
        editAll us curChain curParams w = .ok r := by
  induction fuel generalizing offset curChain curParams w with
  | zero =>
    constructor
    · intro h
      cases h
    · rintro ⟨us, hends, -⟩
      have := hends.1
      omega
  | succ fuel ih =>
    by_cases hlt : offset < updates.length
    · rw [loop_round hlt]
      constructor
      · rintro ⟨u, params, w₁, hreads, hswitch, hloop⟩
        obtain ⟨us, hends, hedit⟩ := (ih (by omega)).1 hloop
        refine ⟨u :: us, hreads.ends hends, ?_⟩
        rw [editAll, bind_apply, hswitch]
        exact hedit
      · rintro ⟨us, hends, hedit⟩
        cases us with
        | nil =>
          have := ends_nil.1 hends
          omega
        | cons u us =>
          rw [List.flatMap_cons] at hends
          obtain ⟨params, w₁, hswitch, -, -⟩ := switchChain_ok w u.chain_ne_zero curChain curParams
          rw [editAll, bind_apply, hswitch] at hedit
          have hrest := hends.rest (length_encode u)
          rw [← Nat.add_assoc] at hrest
          exact ⟨u, params, w₁, readsUpdate_of_ends hends, hswitch, (ih (by omega)).2 ⟨us, hrest, hedit⟩⟩
    · rw [batchFeeUpdatesLoop, if_neg hlt]
      constructor
      · intro h
        obtain ⟨_, _, hcheck, hstore⟩ := bind_ok.1 h
        obtain ⟨hend, rfl⟩ := lift_ok.1 hcheck
        exact ⟨[], ends_nil.2 (ensure_ok.1 hend).symm, hstore⟩
      · rintro ⟨us, hends, hedit⟩
        cases us with
        | nil =>
          have hend : updates.length = offset := (ends_nil.1 hends).symm
          exact bind_ok.2 ⟨(), w, lift_ok.2 ⟨ensure_pos hend, rfl⟩, hedit⟩
        | cons u us => exact absurd (hends.lt_iff.2 (encode_ne_nil u _)) hlt

end Loop

/-! ## The whole batch -/

/-- An encoded list is written to the storage, one update after the other. -/
theorem applyBatchFeeUpdates_encode (us : List ParamUpdate) (w : World) :
    ∃ w', applyBatchFeeUpdates (us.flatMap ParamUpdate.encode) w = .ok ((), w') ∧
      Stored w (storeAll us w.storage.feeParams) w' := by
  obtain ⟨w', hrun, hstored⟩ := editAll_ok us w 0 0
  rw [Cached.flush_editAll, editDirectly_asEdit] at hstored
  exact ⟨w', (batchFeeUpdatesLoop_ok (by omega)).2 ⟨us, ends_self _, hrun⟩, hstored⟩

/-- **What a batch can have done**: it was an encoded list, and the list is what was stored. -/
theorem applyBatchFeeUpdates_ok {updates : Bytes} {w w' : World} {u : Unit}
    (h : applyBatchFeeUpdates updates w = .ok (u, w')) :
    ∃ us : List ParamUpdate, updates = us.flatMap ParamUpdate.encode ∧
      Stored w (storeAll us w.storage.feeParams) w' := by
  obtain ⟨us, ⟨-, rfl⟩, -⟩ := (batchFeeUpdatesLoop_ok (by omega)).1 h
  obtain ⟨w₁, hrun, hstored⟩ := applyBatchFeeUpdates_encode us w
  cases hrun.symm.trans h
  exact ⟨us, rfl, hstored⟩

/-- **A batch of fee updates only changes fee parameters.** -/
theorem applyBatchFeeUpdates_only (updates : Bytes) :
    Guarantees OnlyFeeParams (applyBatchFeeUpdates updates) := by
  intro w u w' h
  obtain ⟨us, -, hstored⟩ := applyBatchFeeUpdates_ok h
  exact ⟨hstored.1, hstored.feeParams.symm ▸ hstored.2⟩

/-- **Batched updates are updates one by one.** A batch succeeds iff its bytes are a list of updates;
it then leaves what the updates leave when they are written to the storage in order, where each field
holds its last write and everything else is as before. A batch that fails stores nothing. -/
theorem applyBatchFeeUpdates_exact (updates : Bytes) (w : World) :
    ((∃ w', applyBatchFeeUpdates updates w = .ok ((), w')) ↔
      ∃ us : List ParamUpdate, updates = us.flatMap ParamUpdate.encode) ∧
    (∀ us : List ParamUpdate, updates = us.flatMap ParamUpdate.encode →
      ∃ w', applyBatchFeeUpdates updates w = .ok ((), w') ∧
        w'.held = w.held ∧
        w'.storage = { w.storage with feeParams := storeAll us w.storage.feeParams } ∧
        (∀ chain field, FeeUpdate.get field (w'.storage.feeParams chain) =
          lastWrite (us.map fun u => (u.location, u.value)) (chain, field)
            (field.get (w.storage.feeParams chain))) ∧
        (∀ chain j, 192 ≤ j →
          (w'.storage.feeParams chain).getLsbD j = (w.storage.feeParams chain).getLsbD j) ∧
        (∀ chain, (∀ u ∈ us, u.chain ≠ chain) →
          w'.storage.feeParams chain = w.storage.feeParams chain)) ∧
    (∀ e, applyBatchFeeUpdates updates w = .error e →
      attempt (fun updates w => (applyBatchFeeUpdates updates w).map Prod.snd) updates w = w) := by
  refine ⟨⟨?_, ?_⟩, ?_, ?_⟩
  · rintro ⟨w', h⟩
    obtain ⟨us, hus, -⟩ := applyBatchFeeUpdates_ok h
    exact ⟨us, hus⟩
  · rintro ⟨us, rfl⟩
    obtain ⟨w', h, -⟩ := applyBatchFeeUpdates_encode us w
    exact ⟨w', h⟩
  · rintro us rfl
    obtain ⟨w', h, hstored⟩ := applyBatchFeeUpdates_encode us w
    refine ⟨w', h, hstored.1, hstored.2, fun chain field => ?_, fun chain j hj => ?_,
      fun chain hnot => ?_⟩
    · rw [hstored.feeParams]
      exact readField_storeAll us _ (chain, field)
    · rw [hstored.feeParams, storeAll_unused us _ chain hj]
    · rw [hstored.feeParams, storeAll_of_not_mem _ hnot]
  · intro e h
    simp only [attempt, h, Except.map]

end SwapLayer.Evm
