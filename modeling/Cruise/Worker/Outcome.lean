/-
What becomes of an OK epoch: the tokens it emits are its requests' and its result validates.

- `run_result`: what the requests of a plan know of a run of its rows that ends with status OK.
- `checkOutput_accepts`: the backend accepts what the client decoded of it.
- `ok_epoch_delivered`: with the way back, from the emission to each request's tokens.
-/
import Cruise.Controller.Decoder
import Cruise.Worker.Reach

namespace Cruise.Worker

open Cruise.Lib Cruise.Controller Cruise.Native

/-! ## What an OK run of a plan's rows emits -/

/-- what the requests of a plan know of a run -/
structure RunResult (plan : ResidentEpochPlan) (e : Emission) : Prop where
  status : e.control 3 = 0
  steps : ∀ request ∈ plan.requests, 1 ≤ (requestTokens e request).length ∧
    ((requestTokens e request).length : Int) ≤ plan.max_steps
  short : ∀ request ∈ plan.requests, ((requestTokens e request).length : Int) < plan.max_steps →
    (requestTokens e request).getLast? = some request.eos_token_id
  generations : rows.map e.generation = plan.row_generations
  model_calls : (plan.requests.map fun request => ((requestTokens e request).length : Int)).max? = some e.model_calls

section Run

variable {plan : ResidentEpochPlan} (hplan : plan.Valid) (hb : plan.graph_batch_size = 4) {udf : Env} {inp : Inputs}
  {d d' : Device} {e : Emission} (hrows : CarriesPlan plan inp) (hrun : epoch udf inp d = (d', .ok, e))

include hrows hrun

theorem request_row {request : ResidentEpochRequest} (hr : request ∈ plan.requests) {r : Row} (hrow : request.sitsIn r) :
    RowResult inp e d' r ∧ CarriesRow request inp r := by
  have hcarries := hrows.row request hr r hrow
  exact ⟨epoch_row hrun (by rw [hcarries.active]; decide), hcarries⟩

theorem run_executed (r : Row) : 0 ≤ e.executed r ∧ e.executed r ≤ plan.max_steps := by
  have hsteps := (epoch_words hrun).validated.max_steps.1
  rw [← hrows.max_steps]
  by_cases ha : inp.active r = 0
  · rw [(epoch_idle hrun ha).1]
    omega
  · have := (epoch_row hrun ha).executed
    omega

/-- the steps of a request -/
theorem request_steps {request : ResidentEpochRequest} {r : Row} (hrow : request.sitsIn r) :
    ((requestTokens e request).length : Int) = e.executed r := by
  have := (run_executed hrows hrun r).1
  rw [requestTokens_eq e hrow, e.tokens_length]
  omega

include hplan

theorem run_generation (r : Row) : e.generation r = plan.atRow (fun request => request.generation) 0 r := by
  by_cases h : ∃ request ∈ plan.requests, request.sitsIn r
  · obtain ⟨request, hr, hrow⟩ := h
    obtain ⟨hresult, hcarries⟩ := request_row hrows hrun hr hrow
    rw [hresult.reported, hcarries.generation, atRow_request hplan _ _ hr hrow]
  · have hempty : ∀ request ∈ plan.requests, ¬ request.sitsIn r := fun request hr hrow => h ⟨request, hr, hrow⟩
    rw [(epoch_idle hrun (hrows.empty r hempty).1).2.1, atRow_empty hplan _ _ hempty]

/-- the words of the run fit what they are copied through -/
theorem run_fits (hgen : ∀ r, Field.i.InRange (plan.atRow (fun request => request.generation) 0 r)) :
    EmissionFits plan.max_steps e := by
  have hwords := epoch_words hrun
  have hsteps := hwords.validated.max_steps.2
  have hcalls := hwords.model_calls
  simp only [kMaxEpochSteps] at hsteps
  refine ⟨hwords.status, ?_, ?_, ?_, run_executed hrows hrun, ?_, ?_⟩
  · rw [← hrows.max_steps]
    exact hwords.validated.max_steps.2
  · exact (small_range (by omega) (by omega)).1
  · obtain ⟨checksum, hchecksum⟩ := hwords.checksum
    rw [hchecksum]
    split_ifs
    · have h1 := checksum.toBitVec.le_toInt
      have h2 := checksum.toBitVec.toInt_lt
      show -(256 ^ 4 / 2) ≤ checksum.toBitVec.toInt ∧ checksum.toBitVec.toInt < 256 ^ 4 / 2
      norm_num at h1 h2 ⊢
      exact ⟨h1, h2⟩
    · decide
  · intro r
    rw [run_generation hplan hrows hrun]
    exact hgen r
  · intro r k hk
    by_cases ha : inp.active r = 0
    · rw [(epoch_idle hrun ha).1] at hk
      exact absurd hk (Nat.not_lt_zero k)
    · have hmem : e.token_history (k * 4 + r) ∈ e.tokens r := List.mem_map.2 ⟨k, List.mem_range.2 hk, rfl⟩
      have hrange := (epoch_row hrun ha).range _ hmem
      simp only [kVocabSize] at hrange
      exact (small_range (by omega) (by omega)).2

include hb

theorem run_result : RunResult plan e := by
  have hwords := epoch_words hrun
  refine ⟨hwords.status, ?_, ?_, ?_, ?_⟩
  · intro request hr
    obtain ⟨r, hrow⟩ := sitsIn_exists hplan hb hr
    have hexec := (request_row hrows hrun hr hrow).1.executed
    rw [hrows.max_steps] at hexec
    have hlen := request_steps hrows hrun hrow
    omega
  · intro request hr hlt
    obtain ⟨r, hrow⟩ := sitsIn_exists hplan hb hr
    obtain ⟨hresult, hcarries⟩ := request_row hrows hrun hr hrow
    rw [request_steps hrows hrun hrow, ← hrows.max_steps] at hlt
    rw [requestTokens_eq e hrow, hresult.short hlt, hcarries.eos]
  · rw [ResidentEpochPlan.row_generations, hb]
    refine Eq.trans ?_ (list_of_length_four (byRow_length plan 4 (fun request => request.generation) 0)).symm
    exact List.map_congr_left (l := rows) fun r _ => run_generation hplan hrows hrun r
  · obtain ⟨first, hfirst⟩ := List.exists_mem_of_length_pos hplan.count.1
    obtain ⟨r₀, hrow₀⟩ := sitsIn_exists hplan hb hfirst
    have hactive : inp.active r₀ ≠ 0 := by
      rw [(hrows.row first hfirst r₀ hrow₀).active]
      decide
    obtain ⟨hle, r, hr, hmax⟩ := epoch_model_calls hrun hactive
    rw [List.max?_eq_some_iff]
    constructor
    · -- the longest row is active, so it is a request's
      have hown : ∃ request ∈ plan.requests, request.sitsIn r := by
        by_contra hnone
        exact hr (hrows.empty r fun request hreq hrow => hnone ⟨request, hreq, hrow⟩).1
      obtain ⟨request, hreq, hrow⟩ := hown
      refine List.mem_map.2 ⟨request, hreq, ?_⟩
      rw [request_steps hrows hrun hrow, hmax]
    · intro steps hsteps
      obtain ⟨request, hreq, rfl⟩ := List.mem_map.1 hsteps
      obtain ⟨r', hrow⟩ := sitsIn_exists hplan hb hreq
      rw [request_steps hrows hrun hrow]
      exact hle r'

end Run

/-! ## Backend -/

theorem lookup_of_nodup {α : Type} {β : Type} (key : α → ReqId) (value : α → β) {l : List α} (hl : (l.map key).Nodup)
    {a : α} (ha : a ∈ l) : (l.map fun b => (key b, value b)).lookup (key a) = some (value a) := by
  induction l with
  | nil => cases ha
  | cons b rest ih =>
    obtain ⟨hb, hrest⟩ := List.nodup_cons.1 hl
    rcases List.mem_cons.1 ha with rfl | ha
    · rw [List.map_cons, List.lookup_cons, beq_self_eq_true]
    · have hne : key a ≠ key b := fun he => hb (he ▸ List.mem_map_of_mem ha)
      rw [List.map_cons, List.lookup_cons, beq_eq_false_iff_ne.2 hne]
      exact ih hrest ha

theorem sameIds_graph {β : Type} (ids : List ReqId) (f : ReqId → β) : sameIds (ids.map fun id => (id, f id)) ids := by
  intro id
  rw [List.map_map]
  exact Iff.of_eq (congrArg (id ∈ ·) (List.map_id ids))

theorem importChecksum_ne_zero {v : Int} (hr : Field.i.InRange v) (h : v ≠ 0) : v % 2 ^ 32 ≠ 0 := by
  have h' : -(256 ^ 4 / 2) ≤ v ∧ v < 256 ^ 4 / 2 := hr
  norm_num at h' ⊢
  omega

section Accept

variable {plan : ResidentEpochPlan} {snapshot : Option ResidentKVSnapshot} {device_transfer : Option DeviceKVTransfer}
  {e : Emission} {output : NativeEpochOutput}

/-- the tokens the backend finds under a request's id -/
theorem output_tokens (hplan : plan.Valid) {operation : Int} (hd : DecodedAs plan e operation output)
    {request : ResidentEpochRequest} (hr : request ∈ plan.requests) :
    (output.token_ids.lookup request.req_id).getD [] = requestTokens e request := by
  rw [hd.token_ids, lookup_of_nodup (fun request : ResidentEpochRequest => request.req_id) (requestTokens e) hplan.ids hr]
  rfl

theorem output_sampled (hplan : plan.Valid) {operation : Int} (hd : DecodedAs plan e operation output) :
    (plan.req_ids.map fun req_id => (output.token_ids.lookup req_id).getD []) = plan.requests.map (requestTokens e) := by
  rw [ResidentEpochPlan.req_ids, List.map_map]
  exact List.map_congr_left fun request hr => output_tokens hplan hd hr

/-- an epoch that was sent with a snapshot, or with buffers on the device, is one that imported -/
theorem kv_imported_iff (hd : DecodedAs plan e (operationFor snapshot device_transfer) output) :
    output.kv_imported = true ↔ snapshot.isSome ∨ device_transfer.isSome := by
  rw [hd.kv_imported, operationFor, decide_eq_true_eq]
  generalize snapshot.isSome = a, device_transfer.isSome = b
  revert a b
  decide

theorem backendResult_steps (hplan : plan.Valid) {operation : Int} (hd : DecodedAs plan e operation output)
    {request : ResidentEpochRequest} (hr : request ∈ plan.requests) :
    (backendResult plan snapshot device_transfer output).steps request.req_id = (requestTokens e request).length := by
  have hmem : request.req_id ∈ plan.req_ids := List.mem_map_of_mem hr
  unfold ResidentEpochResult.steps backendResult
  dsimp only
  rw [List.lookup_graph _ hmem, Option.getD_some, output_tokens hplan hd hr]

theorem backendResult_mode (hd : DecodedAs plan e (operationFor snapshot device_transfer) output) :
    (backendResult plan snapshot device_transfer output).transfer_mode =
      if device_transfer.isSome then .deviceIpc else if snapshot.isSome then .hostSnapshot else .none := by
  unfold ResidentEpochResult.transfer_mode backendResult
  dsimp only
  refine if_neg fun ⟨hi, hnone⟩ => ?_
  have hsome := (kv_imported_iff hd).1 hi
  generalize snapshot.isSome = a, device_transfer.isSome = b at hsome hnone
  revert a b
  decide

/-- the import the result reports, in the mode it names -/
theorem backendResult_import (hsum : Field.i.InRange (e.control 5)) (hproved : ImportProved snapshot device_transfer e)
    (hd : DecodedAs plan e (operationFor snapshot device_transfer) output) :
    let result := backendResult plan snapshot device_transfer output
    if result.kv_imported = true then result.kv_import_checksum ≠ 0 ∧ result.transfer_mode ≠ .none ∧
      (result.transfer_mode = .hostSnapshot → result.kv_snapshot_checksum ≠ 0 ∧
        result.kv_import_checksum = result.kv_snapshot_checksum)
    else result.transfer_mode = .none := by
  intro result
  have hmode : result.transfer_mode = _ := backendResult_mode hd
  have himported : result.kv_imported = true ↔ snapshot.isSome ∨ device_transfer.isSome := kv_imported_iff hd
  by_cases hi : result.kv_imported = true
  · have hsome := himported.1 hi
    have hchecksum : result.kv_import_checksum ≠ 0 := by
      show output.kv_import_checksum ≠ 0
      rw [hd.checksum]
      exact importChecksum_ne_zero hsum (hproved.1 hsome)
    rw [if_pos hi]
    refine ⟨hchecksum, ?_, fun hhost => ?_⟩
    · rw [hmode]
      generalize snapshot.isSome = a, device_transfer.isSome = b at hsome ⊢
      revert a b
      decide
    · -- only a Host snapshot is in this mode, and its checksum is the device's
      have hsnapshot : snapshot.isSome = true := by
        rw [hmode] at hhost
        generalize snapshot.isSome = a, device_transfer.isSome = b at hhost ⊢
        revert a b
        decide
      obtain ⟨s, rfl⟩ := Option.isSome_iff_exists.1 hsnapshot
      have hsame : result.kv_import_checksum = s.checksum := hd.checksum.trans (hproved.2 s rfl)
      exact ⟨fun hzero => hchecksum (hsame.trans hzero), hsame⟩
  · have hnone := mt himported.2 hi
    rw [if_neg hi, hmode]
    generalize snapshot.isSome = a, device_transfer.isSome = b at hnone ⊢
    revert a b
    decide

/-- the result the backend builds proves its epoch -/
theorem backendResult_valid (hplan : plan.Valid) (hrun : RunResult plan e) (hsum : Field.i.InRange (e.control 5))
    (hmode : plan.importing = true → snapshot.isSome ∨ device_transfer.isSome)
    (hproved : ImportProved snapshot device_transfer e)
    (hd : DecodedAs plan e (operationFor snapshot device_transfer) output) :
    (backendResult plan snapshot device_transfer output).DeviceValid plan (plan.req_ids.zip
      (plan.req_ids.map fun req_id => (output.token_ids.lookup req_id).getD [])) := by
  have hzip : plan.req_ids.zip (plan.req_ids.map fun req_id => (output.token_ids.lookup req_id).getD []) =
      plan.req_ids.map fun req_id => (req_id, (output.token_ids.lookup req_id).getD []) := by
    have hmap := List.zip_map' (f := id) (g := fun req_id => (output.token_ids.lookup req_id).getD [])
      (l := plan.req_ids)
    rwa [List.map_id] at hmap
  have hsampled {request : ResidentEpochRequest} (hr : request ∈ plan.requests) :
      ((plan.req_ids.map fun req_id => (req_id, (output.token_ids.lookup req_id).getD [])).lookup
        request.req_id).getD [] = requestTokens e request := by
    have hmem : request.req_id ∈ plan.req_ids := List.mem_map_of_mem hr
    rw [List.lookup_graph _ hmem]
    exact output_tokens hplan hd hr
  have hsteps {request : ResidentEpochRequest} (hr : request ∈ plan.requests) :
      (backendResult plan snapshot device_transfer output).steps request.req_id =
        (requestTokens e request).length := backendResult_steps hplan hd hr
  rw [hzip]
  refine ⟨hplan.version.symm, sameIds_graph _ _, sameIds_graph _ _, rfl, hd.commit_state,
    ⟨hd.feed_calls, hd.fetch_calls⟩, hd.row_generations.trans hrun.generations,
    fun hi => (kv_imported_iff hd).2 (hmode hi), backendResult_import hsum hproved hd, ?_, ?_, ?_, ?_⟩
  · intro request hr
    rw [hsteps hr]
    have := hrun.steps request hr
    omega
  · intro request hr
    rw [hsampled hr, hsteps hr]
  · intro request hr hlt
    rw [hsteps hr] at hlt
    rw [hsampled hr]
    exact hrun.short request hr hlt
  · show ((plan.req_ids.map fun req_id => (req_id, _)).map Prod.snd).max? = some output.model_calls
    rw [hd.model_calls, ← hrun.model_calls, ResidentEpochPlan.req_ids, List.map_map, List.map_map]
    refine congrArg List.max? (List.map_congr_left fun request hr => ?_)
    show (((output.token_ids.lookup request.req_id).getD []).length : Int) = _
    rw [output_tokens hplan hd hr]

/-- **The backend.** It accepts what the client decoded. -/
theorem checkOutput_accepts (hplan : plan.Valid) (hrun : RunResult plan e) (hsum : Field.i.InRange (e.control 5))
    (hmode : plan.importing = true → snapshot.isSome ∨ device_transfer.isSome)
    (hproved : ImportProved snapshot device_transfer e)
    (hd : DecodedAs plan e (operationFor snapshot device_transfer) output) :
    checkOutput plan snapshot device_transfer output = .ok ⟨plan.req_ids, plan.requests.map (requestTokens e),
        some (backendResult plan snapshot device_transfer output)⟩ ∧
      (backendResult plan snapshot device_transfer output).validateAgainst plan
        (plan.req_ids.zip (plan.requests.map (requestTokens e))) = .ok () := by
  have hvalid := backendResult_valid hplan hrun hsum hmode hproved hd
  have hvalidate := (resultValidate_device_iff rfl plan _).2 hvalid
  refine ⟨?_, output_sampled hplan hd ▸ hvalidate⟩
  unfold checkOutput
  simp only [except_bind_ok, refuse_ok]
  refine ⟨(), not_not.2 hd.status, (), not_not.2 hd.commit_state, (), ?_, (), ?_, (), ?_, (), not_not.2 hvalidate, ?_⟩
  · cases snapshot with
    | none => exact Bool.false_ne_true
    | some s => simpa [hd.checksum] using hproved.2 s rfl
  · intro ⟨hsome, hzero⟩
    rw [hd.checksum] at hzero
    exact importChecksum_ne_zero hsum (hproved.1 (Or.inr hsome)) hzero
  · rw [not_not]
    intro id
    rw [hd.token_ids, List.map_map]
    rfl
  · rw [output_sampled hplan hd]

end Accept

/-! ## The three together -/

section Answered

variable {env : SidecarEnv} {plan : ResidentEpochPlan} {snapshot : Option ResidentKVSnapshot}
  {device_transfer : Option DeviceKVTransfer} {call : FeedCall} {udf : Env} {inp : Inputs} {d d' : Device} {e : Emission}

/-- the engine answers with what the UDF emitted, and the backend takes it -/
theorem epoch_answered (hplan : plan.validate = .ok ()) (hb : plan.graph_batch_size = 4) (hi : env.Intact)
    (hmode : plan.importing = true → snapshot.isSome ∨ device_transfer.isSome)
    (hfile : ∀ s ∈ snapshot, env.bridge.file env.transfer_path = kvSnapshotFile s)
    (hfed : (backendExecute (sidecarEngine env) plan snapshot device_transfer).fed = some call)
    (hfeed : env.bridge.feed call.inputs = 0) (hfetch : env.bridge.fetch call.inputs = (0, udfTensors e))
    (hrows : CarriesPlan plan inp) (hrun : epoch udf inp d = (d', .ok, e))
    (hproved : ImportProved snapshot device_transfer e) :
    ∃ output, (callEngine (sidecarEngine env) plan snapshot device_transfer).result = .ok output ∧
      DecodedAs plan e (operationFor snapshot device_transfer) output ∧
      (backendExecute (sidecarEngine env) plan snapshot device_transfer).result =
        .ok ⟨plan.req_ids, plan.requests.map (requestTokens e), some (backendResult plan snapshot device_transfer output)⟩ ∧
      (backendResult plan snapshot device_transfer output).validateAgainst plan
        (plan.req_ids.zip (plan.requests.map (requestTokens e))) = .ok () := by
  have hvalid := (planValidate_ok_iff plan).1 hplan
  unfold backendExecute at hfed ⊢
  by_cases hboth : snapshot.isSome ∧ device_transfer.isSome
  · rw [if_pos hboth] at hfed
    cases hfed
  rw [if_neg hboth, if_neg (not_not.2 hplan)] at hfed ⊢
  have hcalled : (callEngine (sidecarEngine env) plan snapshot device_transfer).fed = some call := by
    simp only at hfed
    split at hfed <;> exact hfed
  obtain ⟨hpublished, transfer_id, ipc_metadata, hcall⟩ := callEngine_sidecar hi hcalled
  rw [hcall] at hcalled
  have hpacked := fed_fits hcalled
  have hgen (r : Row) : Field.i.InRange (plan.atRow (fun request => request.generation) 0 r) := by
    rw [requestWords_eq plan hb] at hpacked
    have hrange := fits_getD hpacked (22 + r) .i (by revert r; decide)
    fin_cases r <;> exact hrange
  have hfits := run_fits hvalid hrows hrun hgen
  have hresult := run_result hvalid hb hrows hrun
  have hconfirms : Confirms env (operationFor snapshot device_transfer) e := by
    cases device_transfer with
    | some transfer => exact confirms_device (hproved.1 (Or.inr rfl))
    | none =>
      cases snapshot with
      | none => exact confirms_plain env e
      | some s => exact confirms_snapshot (hpublished s rfl rfl).length (hfile s rfl) (hproved.2 s rfl)
  obtain ⟨output, houtput, hdecoded⟩ := exchange_delivers hi hvalid hb hcalled hfits hfeed hfetch hconfirms
  obtain ⟨haccept, hvalidate⟩ := checkOutput_accepts hvalid hresult hfits.checksum hmode hproved hdecoded
  refine ⟨output, hcall ▸ houtput, hdecoded, ?_, hvalidate⟩
  simp only [hcall, houtput]
  exact haccept

end Answered

/-- **An OK epoch is delivered.** For a plan the contract accepts and a run of the UDF on its rows that ends with status
OK, the backend returns each request the tokens of its own row, with a result that validates against the plan. -/
theorem ok_epoch_delivered (env : SidecarEnv) (plan : ResidentEpochPlan) (snapshot : Option ResidentKVSnapshot)
    (device_transfer : Option DeviceKVTransfer) (call : FeedCall) (udf : Env) (inp : Inputs) (d d' : Device)
    (e : Emission) (hplan : plan.validate = .ok ()) (hb : plan.graph_batch_size = 4) (hi : env.Intact)
    (hmode : plan.importing = true → snapshot.isSome ∨ device_transfer.isSome)
    (hfile : ∀ s ∈ snapshot, env.bridge.file env.transfer_path = kvSnapshotFile s)
    (hfed : (backendExecute (sidecarEngine env) plan snapshot device_transfer).fed = some call)
    (hfeed : env.bridge.feed call.inputs = 0) (hfetch : env.bridge.fetch call.inputs = (0, udfTensors e))
    (hrows : CarriesPlan plan inp) (hrun : epoch udf inp d = (d', .ok, e))
    (hproved : ImportProved snapshot device_transfer e) :
    ∃ native_output result,
      (callEngine (sidecarEngine env) plan snapshot device_transfer).result = .ok native_output ∧
      (∀ request ∈ plan.requests, ∀ r, request.sitsIn r →
        native_output.token_ids.lookup request.req_id = some (e.tokens r)) ∧
      (backendExecute (sidecarEngine env) plan snapshot device_transfer).result =
        .ok ⟨plan.req_ids, plan.requests.map (requestTokens e), some result⟩ ∧
      result.validateAgainst plan (plan.req_ids.zip (plan.requests.map (requestTokens e))) = .ok () := by
  obtain ⟨output, houtput, hdecoded, haccept, hvalidate⟩ :=
    epoch_answered hplan hb hi hmode hfile hfed hfeed hfetch hrows hrun hproved
  refine ⟨output, _, houtput, fun request hr r hrow => ?_, haccept, hvalidate⟩
  have hids := ((planValidate_ok_iff plan).1 hplan).ids
  rw [hdecoded.token_ids, lookup_of_nodup (fun request : ResidentEpochRequest => request.req_id) (requestTokens e) hids hr,
    requestTokens_eq e hrow]

/-! ### Two requests against the order of their rows -/

/-- two requests, listed against the order of their rows -/
def swappedPlan : ResidentEpochPlan where
  version := 3
  graph_batch_size := 4
  max_steps := 2
  logical_capacity := 8
  requests := [
    ⟨5, 2, 2, 11, 0, 1, 9, [0], (4, 5), .host, false⟩,
    ⟨3, 0, 1, 12, 0, 1, 9, [1], (0, 1), .host, false⟩]
  active_mask := [1, 0, 1, 0]
  sampling_mode := 0
  graph_variant := 0

/-- its rows -/
def swappedInputs : Inputs where
  max_steps := 2
  eos := fun _ => 9
  sampling_mode := 0
  graph_variant := 0
  importing := false
  import_mask := 0
  row_generation := ![1, 0, 2, 0]
  token := ![12, 0, 11, 0]
  position := fun _ => 0
  length := ![1, 0, 1, 0]
  slot := ![0, 256, 512, 768]
  active := ![1, 0, 1, 0]
  block_table := fun i => i
  tiling := fun _ => 0
  payload := fun _ => 0

theorem swapped_carries : CarriesPlan swappedPlan swappedInputs where
  max_steps := rfl
  sampling_mode := rfl
  graph_variant := rfl
  block_table := fun _ _ => rfl
  importing := rfl
  row := by
    intro request hr r hrow
    rcases List.mem_cons.1 hr with rfl | hr
    · obtain rfl : r = 2 := by
        revert hrow
        revert r
        decide
      exact ⟨rfl, rfl, rfl, rfl, rfl, rfl, rfl⟩
    · obtain rfl := List.mem_singleton.1 hr
      obtain rfl : r = 0 := by
        revert hrow
        revert r
        decide
      exact ⟨rfl, rfl, rfl, rfl, rfl, rfl, rfl⟩
  empty := by
    decide

theorem swapped_validated : Validated swappedInputs := by
  obtain ⟨reasons, h⟩ : ∃ reasons, validate swappedInputs = .ok reasons := ⟨_, rfl⟩
  exact ((validate_ok_iff swappedInputs reasons).1 h).1

/-- a client whose session answers with this emission -/
def SidecarEnv.answering (e : Emission) : SidecarEnv where
  bridge := { BridgeEnv.plain with fetch := fun _ => (0, udfTensors e) }
  engine := some .plain
  faults := ⟨none, true⟩
  transfer_path := "/dev/shm/transfer"
  socket := true
  send_fault := none
  recv_fault := false
  snapshot_write := true
  unlink := true

theorem answering_intact (e : Emission) : (SidecarEnv.answering e).Intact := ⟨rfl, rfl, rfl, rfl, rfl, rfl, rfl⟩

theorem swapped_runs : ∃ d' e, epoch .steady swappedInputs .unused = (d', .ok, e) :=
  total_epoch steady_total steady_runs swapped_validated rfl
    (fun r hr => Or.inr ⟨by revert r; decide, by revert r; decide, by revert r; decide⟩)

theorem swapped_fed {env : SidecarEnv} (hi : env.Intact) (hengine : env.engine.isSome = true) :
    ∃ call, (backendExecute (sidecarEngine env) swappedPlan none none).fed = some call := by
  refine plain_fed hi hengine (by decide) rfl (by decide) (by decide) fun request hr => ?_
  rcases List.mem_cons.1 hr with rfl | hr
  · exact ⟨by decide, by decide, by decide⟩
  · obtain rfl := List.mem_singleton.1 hr
    exact ⟨by decide, by decide, by decide⟩

theorem ok_epoch_delivered_swapped : ∃ d' e native_output result,
    epoch .steady swappedInputs .unused = (d', .ok, e) ∧
      (callEngine (sidecarEngine (.answering e)) swappedPlan none none).result = .ok native_output ∧
      (∀ request ∈ swappedPlan.requests, ∀ r, request.sitsIn r →
        native_output.token_ids.lookup request.req_id = some (e.tokens r)) ∧
      (backendExecute (sidecarEngine (.answering e)) swappedPlan none none).result =
        .ok ⟨swappedPlan.req_ids, swappedPlan.requests.map (requestTokens e), some result⟩ ∧
      result.validateAgainst swappedPlan
        (swappedPlan.req_ids.zip (swappedPlan.requests.map (requestTokens e))) = .ok () := by
  obtain ⟨d', e, hrun⟩ := swapped_runs
  obtain ⟨call, hfed⟩ := swapped_fed (answering_intact e) rfl
  obtain ⟨native_output, result, h⟩ := ok_epoch_delivered (.answering e) swappedPlan none none call .steady
    swappedInputs .unused d' e (by decide) rfl (answering_intact e) (by decide) (fun _ h => (by cases h)) hfed
    rfl rfl swapped_carries hrun ⟨fun h => absurd h (by decide), fun _ h => (by cases h)⟩
  exact ⟨d', e, native_output, result, hrun, h⟩

end Cruise.Worker
