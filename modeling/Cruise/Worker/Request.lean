/-
A plan on its way to the device: the request record, and the rows the UDF reads of it.

- `parse_request`: the server reads from a packed request the plan's values, row by row.
- `CarriesPlan`: the inputs of a UDF call whose rows are the plan's.
- `readsRequest_carries`: what the UDF reads of a parsed plan is the plan.
-/
import Cruise.Worker.Sidecar
import Cruise.Native.FeedModes

namespace Cruise.Worker

open Cruise.Lib Cruise.Controller Cruise.Native

/-! ## A plan by row -/

/-- the value the request record holds for a row -/
def ResidentEpochPlan.atRow (plan : ResidentEpochPlan) (field : ResidentEpochRequest → Int) (fill : Int) (r : Row) :
    Int :=
  (plan.byRow GRAPH_BATCH_SIZE field fill).getD r 0

/-- the row of the static graph a request sits in -/
def ResidentEpochRequest.sitsIn (request : ResidentEpochRequest) (r : Row) : Prop := request.row = (r.val : Int)

instance (request : ResidentEpochRequest) (r : Row) : Decidable (request.sitsIn r) := by
  unfold ResidentEpochRequest.sitsIn
  infer_instance

theorem find?_of_nodup {α β : Type} [DecidableEq β] (key : α → β) {l : List α} (hl : (l.map key).Nodup) {a : α}
    (ha : a ∈ l) : l.find? (fun b => key b = key a) = some a := by
  induction l with
  | nil => cases ha
  | cons b rest ih =>
    obtain ⟨hb, hrest⟩ := List.nodup_cons.1 hl
    rcases List.mem_cons.1 ha with rfl | ha
    · exact List.find?_cons_of_pos (by simp)
    · have hne : key b ≠ key a := fun he => hb (he ▸ List.mem_map_of_mem ha)
      rw [List.find?_cons_of_neg (by simpa using hne)]
      exact ih hrest ha

section ByRow

variable {plan : ResidentEpochPlan} (h : plan.Valid) (hb : plan.graph_batch_size = 4)

include h

theorem rows_toNat_nodup : (plan.requests.map fun request => request.row.toNat).Nodup := by
  have hnodup := List.Nodup.of_map _ h.rows
  have hrows := (List.nodup_map_iff_inj_on hnodup).1 h.rows
  rw [List.nodup_map_iff_inj_on hnodup]
  intro a ha b hb heq
  have h0 := (h.row a ha).1
  have h1 := (h.row b hb).1
  exact hrows a ha b hb (by omega)

/-- two requests never share a row -/
theorem sitsIn_unique {a b : ResidentEpochRequest} (ha : a ∈ plan.requests) (hb : b ∈ plan.requests) {r : Row}
    (hra : a.sitsIn r) (hrb : b.sitsIn r) : a = b :=
  (List.nodup_map_iff_inj_on (List.Nodup.of_map _ h.rows)).1 h.rows a ha b hb (hra.trans hrb.symm)

theorem atRow_request (field : ResidentEpochRequest → Int) (fill : Int) {request : ResidentEpochRequest}
    (hr : request ∈ plan.requests) {r : Row} (hrow : request.sitsIn r) : plan.atRow field fill r = field request := by
  have hlt : r.val < (List.replicate GRAPH_BATCH_SIZE fill).length := by
    rw [List.length_replicate]
    exact r.isLt
  have hkey : request.row.toNat = r.val := by
    have : request.row = (r.val : Int) := hrow
    omega
  have hfind := find?_of_nodup (fun request : ResidentEpochRequest => request.row.toNat) (rows_toNat_nodup h) hr
  rw [ResidentEpochPlan.atRow, ResidentEpochPlan.byRow, List.getD_eq_getElem?_getD,
    foldl_set_getElem? (fun request : ResidentEpochRequest => request.row.toNat) field plan.requests
      (rows_toNat_nodup h) _ r.val hlt]
  rw [hkey] at hfind
  rw [hfind]
  rfl

theorem atRow_empty (field : ResidentEpochRequest → Int) (fill : Int) {r : Row}
    (hrow : ∀ request ∈ plan.requests, ¬ request.sitsIn r) : plan.atRow field fill r = fill := by
  have hlt : r.val < (List.replicate GRAPH_BATCH_SIZE fill).length := by
    rw [List.length_replicate]
    exact r.isLt
  have hfind : plan.requests.find? (fun request => request.row.toNat = r.val) = none := by
    rw [List.find?_eq_none]
    intro request hr heq
    have h0 := (h.row request hr).1
    have heq : request.row.toNat = r.val := of_decide_eq_true heq
    refine hrow request hr ?_
    show request.row = (r.val : Int)
    omega
  rw [ResidentEpochPlan.atRow, ResidentEpochPlan.byRow, List.getD_eq_getElem?_getD,
    foldl_set_getElem? (fun request : ResidentEpochRequest => request.row.toNat) field plan.requests
      (rows_toNat_nodup h) _ r.val hlt, hfind]
  show (List.replicate GRAPH_BATCH_SIZE fill)[r.val]?.getD 0 = fill
  rw [List.getElem?_replicate, if_pos (show r.val < GRAPH_BATCH_SIZE from r.isLt)]
  rfl

include hb

/-- every request of a valid plan sits in one row -/
theorem sitsIn_exists {request : ResidentEpochRequest} (hr : request ∈ plan.requests) : ∃ r, request.sitsIn r := by
  obtain ⟨h0, h1⟩ := h.row request hr
  rw [hb] at h1
  refine ⟨⟨request.row.toNat, by omega⟩, ?_⟩
  show request.row = ((request.row.toNat : ℕ) : Int)
  rw [Int.toNat_of_nonneg h0]

end ByRow

/-! ## The request record -/

/-- the words of the record, by row -/
theorem requestWords_eq (plan : ResidentEpochPlan) (hb : plan.graph_batch_size = 4) (operation transfer_id : Int) :
    requestWords plan operation transfer_id =
      [kRequestMagic, kProtocolVersion, operation, plan.requests.length, plan.max_steps, transfer_id] ++
        rows.map (plan.atRow (fun request => request.token_id) 0) ++
        rows.map (plan.atRow (fun request => request.position) 0) ++
        rows.map (plan.atRow (fun request => request.sequence_length) 0) ++
        rows.map (plan.atRow (fun request => request.eos_token_id) 151645) ++
        rows.map (plan.atRow (fun request => request.generation) 0) := by
  have hlist (field : ResidentEpochRequest → Int) (fill : Int) :
      plan.byRow GRAPH_BATCH_SIZE field fill = rows.map (plan.atRow field fill) :=
    list_of_length_four (byRow_length plan GRAPH_BATCH_SIZE field fill)
  rw [requestWords, hlist, hlist, hlist, hlist, ResidentEpochPlan.row_generations, hb]
  exact congrArg _ (hlist (fun request => request.generation) 0)

/-- what the server must read of a plan -/
structure ParsesPlan (plan : ResidentEpochPlan) (operation transfer_id : Int) (request : Request) : Prop where
  magic : request.magic = kRequestMagic
  version : request.version = kProtocolVersion
  operation : request.operation = operation
  request_count : request.request_count.toInt = plan.requests.length
  max_steps : request.max_steps.toInt = plan.max_steps
  transfer_id : (request.transfer_id.toNat : Int) = transfer_id
  token : ∀ r, (request.rows.token_ids r).toInt = plan.atRow (fun request => request.token_id) 0 r
  position : ∀ r, (request.rows.positions r).toInt = plan.atRow (fun request => request.position) 0 r
  length : ∀ r, (request.rows.sequence_lengths r).toInt = plan.atRow (fun request => request.sequence_length) 0 r
  eos : ∀ r, (request.rows.eos_token_ids r).toInt = plan.atRow (fun request => request.eos_token_id) 151645 r
  generation : ∀ r, (request.rows.row_generations r).toInt = plan.atRow (fun request => request.generation) 0 r

theorem int32_ofInt {v : Int} (h : Field.i.InRange v) : (Int32.ofInt v).toInt = v := by
  have h' : -(256 ^ 4 / 2) ≤ v ∧ v < 256 ^ 4 / 2 := h
  norm_num at h'
  exact Int32.toInt_ofInt_of_le (by norm_num; exact h'.1) (by norm_num; exact h'.2)

theorem int64_ofInt {v : Int} (h : Field.q.InRange v) : (Int64.ofInt v).toInt = v := by
  have h' : -(256 ^ 8 / 2) ≤ v ∧ v < 256 ^ 8 / 2 := h
  norm_num at h'
  exact Int64.toInt_ofInt_of_le (by norm_num; exact h'.1) (by norm_num; exact h'.2)

theorem uint64_ofNat {v : Int} (h : Field.Q.InRange v) : ((UInt64.ofNat v.toNat).toNat : Int) = v := by
  have h' : 0 ≤ v ∧ v < 256 ^ 8 := h
  norm_num at h'
  rw [UInt64.toNat_ofNat']
  omega

/-- **A packed request is read as the plan it was packed from**, whatever follows it. -/
theorem parse_request {plan : ResidentEpochPlan} (hb : plan.graph_batch_size = 4) {operation transfer_id : Int}
    {payload : List UInt8} (h : structPack requestFields (requestWords plan operation transfer_id) = some payload)
    (rest : List UInt8) : ParsesPlan plan operation transfer_id (parseRequest (payload ++ rest)) := by
  unfold structPack at h
  split_ifs at h with hfits
  cases h
  have hvalues : unpack requestFields (pack requestFields (requestWords plan operation transfer_id) ++ rest) =
      requestWords plan operation transfer_id := by
    rw [unpack_take _ _ _ (le_of_eq (pack_length hfits.length_eq).symm), unpack_pack hfits]
  unfold parseRequest
  rw [hvalues]
  rw [requestWords_eq plan hb] at hfits ⊢
  -- the fields of one column, for the word each row has in it
  have hq (base : ℕ) (hbase : ∀ r : Row, requestFields[base + r.val]? = some .q) (r : Row) :=
    int64_ofInt (fits_getD hfits (base + r) .q (hbase r))
  have hi (base : ℕ) (hbase : ∀ r : Row, requestFields[base + r.val]? = some .i) (r : Row) :=
    int32_ofInt (fits_getD hfits (base + r) .i (hbase r))
  refine ⟨rfl, rfl, rfl, int32_ofInt (fits_getD hfits 3 .i rfl), int32_ofInt (fits_getD hfits 4 .i rfl),
    uint64_ofNat (fits_getD hfits 5 .Q rfl), ?_, ?_, ?_, ?_, ?_⟩
  · intro r
    refine (hq 6 (by decide) r).trans ?_
    fin_cases r <;> rfl
  · intro r
    refine (hq 10 (by decide) r).trans ?_
    fin_cases r <;> rfl
  · intro r
    refine (hi 14 (by decide) r).trans ?_
    fin_cases r <;> rfl
  · intro r
    refine (hi 18 (by decide) r).trans ?_
    fin_cases r <;> rfl
  · intro r
    refine (hi 22 (by decide) r).trans ?_
    fin_cases r <;> rfl

/-! ## The rows the UDF reads -/

/-- a row of the UDF's inputs that is a request's -/
structure CarriesRow (request : ResidentEpochRequest) (inp : Inputs) (r : Row) : Prop where
  active : inp.active r = 1
  token : inp.token r = request.token_id
  position : inp.position r = request.position
  length : inp.length r = request.sequence_length
  eos : inp.eos r = request.eos_token_id
  generation : inp.row_generation r = request.generation
  masked : masked inp r = request.kv_import_required

/-- inputs whose rows are the plan's -/
structure CarriesPlan (plan : ResidentEpochPlan) (inp : Inputs) : Prop where
  max_steps : inp.max_steps = plan.max_steps
  sampling_mode : inp.sampling_mode = 0
  graph_variant : inp.graph_variant = 0
  block_table : ∀ i < 8, inp.block_table i = i
  importing : inp.importing = plan.importing
  row : ∀ request ∈ plan.requests, ∀ r, request.sitsIn r → CarriesRow request inp r
  empty : ∀ r, (∀ request ∈ plan.requests, ¬ request.sitsIn r) →
    inp.active r = 0 ∧ inp.length r = 0 ∧ inp.row_generation r = 0 ∧ masked inp r = false

/-- the rows a plan imports -/
def ResidentEpochPlan.importedRows (plan : ResidentEpochPlan) : Finset Row :=
  Finset.univ.filter fun r => ∃ request ∈ plan.requests, request.kv_import_required = true ∧ request.sitsIn r

theorem mask_bits (rows : Finset Row) (r : Row) :
    (((BitVec.ofNat 32 (∑ r ∈ rows, 2 ^ r.val) &&& (1 <<< r.val)) != 0) = true ↔ r ∈ rows) := by
  revert rows r
  decide

theorem expectedMask_eq {plan : ResidentEpochPlan} (h : plan.Valid) (hb : plan.graph_batch_size = 4) :
    expectedMask plan = ((∑ r ∈ plan.importedRows, 2 ^ r.val : ℕ) : Int) := by
  have hnodup : (plan.requests.filter fun request => request.kv_import_required).Nodup :=
    (List.Nodup.of_map _ h.rows).filter _
  have hmem {request : ResidentEpochRequest}
      (hr : request ∈ (plan.requests.filter fun request => request.kv_import_required).toFinset) :
      request ∈ plan.requests ∧ request.kv_import_required = true := by
    rw [List.mem_toFinset, List.mem_filter] at hr
    exact hr
  have hsits {request : ResidentEpochRequest} (hr : request ∈ plan.requests) :
      request.sitsIn ⟨request.row.toNat % 4, Nat.mod_lt _ (by decide)⟩ := by
    have := h.row request hr
    show request.row = ((request.row.toNat % 4 : ℕ) : Int)
    omega
  rw [expectedMask, ← List.sum_toFinset _ hnodup, Nat.cast_sum]
  refine Finset.sum_bij (fun request _ => ⟨request.row.toNat % 4, Nat.mod_lt _ (by decide)⟩) ?_ ?_ ?_ ?_
  · intro request hr
    exact Finset.mem_filter.2 ⟨Finset.mem_univ _, request, (hmem hr).1, (hmem hr).2, hsits (hmem hr).1⟩
  · intro a ha b hb heq
    exact sitsIn_unique h (hmem ha).1 (hmem hb).1 (hsits (hmem ha).1) (heq ▸ hsits (hmem hb).1)
  · intro r hr
    obtain ⟨-, request, hr, himport, hrow⟩ := Finset.mem_filter.1 hr
    refine ⟨request, List.mem_toFinset.2 (List.mem_filter.2 ⟨hr, himport⟩), ?_⟩
    have hrow : request.row = (r.val : Int) := hrow
    have hlt : r.val < 4 := r.isLt
    exact Fin.ext (show request.row.toNat % 4 = r.val by omega)
  · intro request hr
    have hrow : request.row.toNat % 4 = request.row.toNat := by
      have := h.row request (hmem hr).1
      omega
    show (2 : Int) ^ request.row.toNat = ((2 ^ (request.row.toNat % 4) : ℕ) : Int)
    rw [hrow]
    push_cast
    rfl

/-- the mask bit of a row is its request's import flag -/
theorem masked_eq {plan : ResidentEpochPlan} (h : plan.Valid) (hb : plan.graph_batch_size = 4) {inp : Inputs}
    (hmask : inp.import_mask = BitVec.ofNat 32 (expectedMask plan).toNat) (r : Row) :
    masked inp r = true ↔ ∃ request ∈ plan.requests, request.kv_import_required = true ∧ request.sitsIn r := by
  rw [expectedMask_eq h hb, Int.toNat_natCast] at hmask
  rw [masked, hmask, mask_bits, ResidentEpochPlan.importedRows, Finset.mem_filter]
  exact and_iff_right (Finset.mem_univ r)

theorem int32_eq_zero {v : Int32} : v = 0 ↔ v.toInt = 0 :=
  ⟨fun h => h ▸ rfl, fun h => Int32.toInt_inj.1 h⟩

/-- **What the UDF reads of a parsed plan is the plan.** -/
theorem readsRequest_carries {plan : ResidentEpochPlan} (h : plan.Valid) (hb : plan.graph_batch_size = 4)
    {operation transfer_id : Int} {request : Request} (hp : ParsesPlan plan operation transfer_id request)
    {inp : Inputs} (hr : ReadsRequest request.rows plan.max_steps plan.importing (expectedMask plan).toNat inp) :
    CarriesPlan plan inp := by
  have hmasked := masked_eq h hb hr.import_mask
  refine ⟨hr.max_steps, hr.sampling_mode, hr.graph_variant, hr.block_table, hr.importing, ?_, ?_⟩
  · intro own hown r hrow
    have hrows (field : ResidentEpochRequest → Int) (fill : Int) := atRow_request h field fill hown hrow
    have hgen : request.rows.row_generations r ≠ 0 := by
      rw [ne_eq, int32_eq_zero, hp.generation, hrows]
      exact (h.positive own hown).ne'
    refine ⟨?_, ?_, ?_, ?_, ?_, ?_, ?_⟩
    · rw [hr.active, requestActive, if_neg hgen]
    · rw [hr.token, requestToken, if_neg hgen, hp.token, hrows]
    · rw [hr.position, requestPosition, if_neg hgen, hp.position, hrows]
    · rw [hr.length, requestLength, if_neg hgen, hp.length, hrows]
    · rw [hr.eos, requestEos, if_neg hgen, hp.eos, hrows]
    · rw [hr.row_generation, hp.generation, hrows]
    · rw [Bool.eq_iff_iff, hmasked]
      constructor
      · intro ⟨other, hother, himport, hsits⟩
        rwa [sitsIn_unique h hown hother hrow hsits]
      · intro himport
        exact ⟨own, hown, himport, hrow⟩
  · intro r hempty
    have hgen : (request.rows.row_generations r).toInt = 0 := by rw [hp.generation, atRow_empty h _ _ hempty]
    have hzero : request.rows.row_generations r = 0 := int32_eq_zero.2 hgen
    refine ⟨?_, ?_, ?_, ?_⟩
    · rw [hr.active, requestActive, if_pos hzero]
    · rw [hr.length, requestLength, if_pos hzero]
    · rw [hr.row_generation, hgen]
    · rw [← Bool.not_eq_true, hmasked]
      intro ⟨other, hother, _, hsits⟩
      exact hempty other hother hsits

end Cruise.Worker
