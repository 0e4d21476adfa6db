/-
The way back: the tensors a UDF call emits, through the bridge, the response record and the client, to the requests.

- `bridge_delivers`: after Feed and Fetch the bridge's outputs hold the emission, transposed row by row.
- `decode_delivers`: each request gets the tokens of its own row.
- `exchange_delivers`: a fed request is answered with its emission, when the checksum confirms what the mode imports.
- `confirms_plain`, `confirms_snapshot`, `confirms_device`: when it does.
-/
import Cruise.Controller.Result
import Cruise.Worker.Exchange
import Cruise.Worker.Request
import Cruise.Worker.TransferFile

namespace Cruise.Worker

open Cruise.Lib Cruise.Controller Cruise.Native

/-! ## What is delivered -/

/-- the UDF's two outputs, as the session fetches them -/
def udfTensors (e : Emission) : List GeTensor :=
  [makeTensor kTokenHistoryBytes (arrayOf .q e.token_history) [kMaxEpochSteps, 4] .DT_INT64,
    makeTensor (kControlOutputElements * 4) (arrayOf .i e.control) [kControlOutputElements] .DT_INT32]

/-- the words the bridge copies fit their types -/
structure EmissionFits (max_steps : Int) (e : Emission) : Prop where
  status : e.control 3 = 0
  steps : max_steps ≤ kMaxEpochSteps
  model_calls : Field.i.InRange e.model_calls
  checksum : Field.i.InRange (e.control 5)
  executed : ∀ r, 0 ≤ e.executed r ∧ e.executed r ≤ max_steps
  generation : ∀ r, Field.i.InRange (e.generation r)
  tokens : ∀ r, ∀ k < (e.executed r).toNat, Field.q.InRange (e.token_history (k * 4 + r))

/-- outputs that hold the emission, row-major -/
structure Delivered (e : Emission) (out : Outputs) : Prop where
  commit_state : out.commit_state = CommitState.committed.code
  device_status : out.device_status = 0
  model_calls : out.model_calls = e.model_calls
  feed_calls : out.feed_calls = 1
  fetch_calls : out.fetch_calls = 1
  checksum : out.kv_import_checksum = e.control 5
  executed : ∀ r, out.executed r = e.executed r
  generation : ∀ r, out.row_generations r = e.generation r
  tokens : ∀ r : Row, ∀ k < (e.executed r).toNat, out.token_ids (r * kMaxEpochSteps + k) = e.token_history (k * 4 + r)

theorem executed_range {max_steps : Int} {e : Emission} (h : EmissionFits max_steps e) (r : Row) :
    Field.i.InRange (e.executed r) := by
  have h1 := h.executed r
  have h2 := h.steps
  refine (small_range (by omega) ?_).1
  simp only [kMaxEpochSteps] at h2
  omega

/-! ## Bridge -/

/-- the outputs once the rows `pre` are copied -/
structure Copied (history control : ℕ → Int) (out : Outputs) (pre : List Row) (out' : Outputs) : Prop where
  executed : ∀ r ∈ pre, out'.executed r = control (kControlExecutedOffset + r)
  generation : ∀ r ∈ pre, out'.row_generations r = control (kControlGenerationOffset + r)
  tokens : ∀ r ∈ pre, ∀ k < (control (kControlExecutedOffset + r)).toNat,
    out'.token_ids (r * kMaxEpochSteps + k) = history (k * 4 + r)
  rest : out' = { out with
    executed := out'.executed, row_generations := out'.row_generations, token_ids := out'.token_ids }

theorem copyResultRow_ok {max_steps : Int} (hm : max_steps ≤ kMaxEpochSteps) {history control : ℕ → Int}
    {out out' : Outputs} {pre : List Row} {r : Row} (hr : r ∉ pre) (h : Copied history control out pre out')
    (he : ∀ r : Row, 0 ≤ control (kControlExecutedOffset + r) ∧ control (kControlExecutedOffset + r) ≤ max_steps) :
    ∃ out'', copyResultRow max_steps history control out' r = .ok out'' ∧
      Copied history control out (pre ++ [r]) out'' := by
  unfold copyResultRow
  simp only
  have her := he r
  rw [if_neg (by omega)]
  refine ⟨_, rfl, ?_, ?_, ?_, ?_⟩
  · intro r' hr'
    rcases List.mem_append.1 hr' with hr' | hr'
    · have hne : r' ≠ r := fun heq => hr (heq ▸ hr')
      exact (Function.update_of_ne hne _ _).trans (h.executed r' hr')
    · rw [List.mem_singleton.1 hr']
      exact Function.update_self _ _ _
  · intro r' hr'
    rcases List.mem_append.1 hr' with hr' | hr'
    · have hne : r' ≠ r := fun heq => hr (heq ▸ hr')
      exact (Function.update_of_ne hne _ _).trans (h.generation r' hr')
    · rw [List.mem_singleton.1 hr']
      exact Function.update_self _ _ _
  · intro r' hr' k hk
    simp only [kMaxEpochSteps] at hm
    rcases List.mem_append.1 hr' with hr' | hr'
    · -- an earlier row's tokens lie before or after the ones being copied
      have hne : r'.val ≠ r.val := fun heq => hr (Fin.ext heq ▸ hr')
      have her' := he r'
      refine (if_neg ?_).trans (h.tokens r' hr' k hk)
      simp only [kMaxEpochSteps]
      omega
    · obtain rfl := List.mem_singleton.1 hr'
      refine (if_pos ⟨Nat.le_add_right _ _, Nat.add_lt_add_left hk _⟩).trans ?_
      rw [Nat.add_sub_cancel_left]
  · rw [h.rest]

theorem copyResultRows_ok {max_steps : Int} (hm : max_steps ≤ kMaxEpochSteps) (history control : ℕ → Int)
    (out : Outputs)
    (he : ∀ r : Row, 0 ≤ control (kControlExecutedOffset + r) ∧ control (kControlExecutedOffset + r) ≤ max_steps) :
    ∃ out', rows.foldlM (copyResultRow max_steps history control) out = .ok out' ∧
      Copied history control out rows out' := by
  refine foldlM_total _ (Copied history control out) rows ?_ ?_
  · intro pre r post out' hl hcopied
    have hnodup := rows_nodup
    rw [hl, List.nodup_append] at hnodup
    exact copyResultRow_ok hm (fun hr => hnodup.2.2 r hr r List.mem_cons_self rfl) hcopied he
  · exact ⟨fun r hr => absurd hr List.not_mem_nil, fun r hr => absurd hr List.not_mem_nil,
      fun r hr => absurd hr List.not_mem_nil, rfl⟩

theorem isOutput_make (bytes : ℕ) (data : Mem) (shape : List ℕ) (dtype : TensorDataType) :
    isOutput (makeTensor bytes data shape dtype) bytes dtype = some data := by
  simp [isOutput, makeTensor]

theorem collectOutputs_udf (env : BridgeEnv) (source : ImportSource) (max_steps : Int) (e : Emission) (out : Outputs) :
    collectOutputs env source max_steps (udfTensors e) out =
      copyResults env source max_steps (arrayLoad .q (arrayOf .q e.token_history)) (arrayLoad .i (arrayOf .i e.control))
        out := by
  simp only [collectOutputs, udfTensors, isOutput_make]

/-- words that agree with the emission where the bridge reads them -/
structure WordsOf (e : Emission) (history control : ℕ → Int) : Prop where
  status : control 3 = 0
  model_calls : control 4 = e.model_calls
  checksum : control 5 = e.control 5
  executed : ∀ r : Row, control (kControlExecutedOffset + r) = e.executed r
  generation : ∀ r : Row, control (kControlGenerationOffset + r) = e.generation r
  tokens : ∀ r : Row, ∀ k < (e.executed r).toNat, history (k * 4 + r) = e.token_history (k * 4 + r)

/-- the words loaded from the fetched tensors -/
theorem udf_words {max_steps : Int} {e : Emission} (h : EmissionFits max_steps e) :
    WordsOf e (arrayLoad .q (arrayOf .q e.token_history)) (arrayLoad .i (arrayOf .i e.control)) where
  status := by rw [arrayLoad_arrayOf .i (by rw [h.status]; decide), h.status]
  model_calls := arrayLoad_arrayOf .i h.model_calls
  checksum := arrayLoad_arrayOf .i h.checksum
  executed := fun r => arrayLoad_arrayOf .i (executed_range h r)
  generation := fun r => arrayLoad_arrayOf .i (h.generation r)
  tokens := fun r k hk => arrayLoad_arrayOf .q (h.tokens r k hk)

theorem copyResults_ok {env : BridgeEnv} {source : ImportSource} {max_steps : Int} {e : Emission}
    {history control : ℕ → Int} (out : Outputs) (h : EmissionFits max_steps e) (hw : WordsOf e history control)
    (hfeed : out.feed_calls = 1) (hfetch : out.fetch_calls = 1)
    (hchecksum : checksumRefused source 0 (e.control 5) = false) :
    ∃ out', copyResults env source max_steps history control out = (0, out') ∧ Delivered e out' := by
  unfold copyResults
  simp only [hw.status, hw.model_calls, hw.checksum, hchecksum, Bool.false_eq_true, if_false]
  obtain ⟨copied, hfold, hcopied⟩ := copyResultRows_ok h.steps history control
    { out with device_status := 0, model_calls := e.model_calls, kv_import_checksum := e.control 5 }
    (fun r => by rw [hw.executed]; exact h.executed r)
  rw [hfold]
  have hrest := hcopied.rest
  have htokens (r : Row) (k : ℕ) (hk : k < (e.executed r).toNat) :
      copied.token_ids (r * kMaxEpochSteps + k) = e.token_history (k * 4 + r) := by
    rw [← hw.executed r] at hk
    rw [hcopied.tokens r (mem_rows r) k hk]
    rw [hw.executed r] at hk
    exact hw.tokens r k hk
  have hdelivered (native_cpu_us : Int) : Delivered e
      { copied with native_cpu_us := native_cpu_us, commit_state := CommitState.committed.code } := by
    refine ⟨rfl, ?_, ?_, ?_, ?_, ?_, ?_, ?_, ?_⟩
    · exact congrArg Outputs.device_status hrest
    · exact congrArg Outputs.model_calls hrest
    · exact (congrArg Outputs.feed_calls hrest).trans hfeed
    · exact (congrArg Outputs.fetch_calls hrest).trans hfetch
    · exact congrArg Outputs.kv_import_checksum hrest
    · exact fun r => (hcopied.executed r (mem_rows r)).trans (hw.executed r)
    · exact fun r => (hcopied.generation r (mem_rows r)).trans (hw.generation r)
    · exact htokens
  refine ⟨_, rfl, ?_⟩
  split_ifs
  · exact hdelivered _
  · exact hdelivered copied.native_cpu_us

/-- **The bridge.** Its outputs hold the emission of an OK epoch whose checksum confirms the import. -/
theorem bridge_delivers {env : BridgeEnv} {source : ImportSource} {max_steps : Int} {call : FeedCall} {e : Emission}
    (out : Outputs) (h : EmissionFits max_steps e) (hfeed : env.feed call.inputs = 0)
    (hfetch : env.fetch call.inputs = (0, udfTensors e)) (hchecksum : checksumRefused source 0 (e.control 5) = false) :
    ∃ out', runEpoch env source max_steps call out = (0, out') ∧ Delivered e out' := by
  unfold runEpoch
  rw [hfeed, hfetch, if_neg (not_not.2 rfl)]
  simp only
  rw [if_neg (not_not.2 rfl), collectOutputs_udf]
  exact copyResults_ok _ h (udf_words h) rfl rfl hchecksum

/-! ## Client -/

/-- the values the client unpacks -/
def unpacked (response : Response) : List Int := List.zipWith Field.wrap responseFields response.words

theorem unpacked_getElem? (response : Response) {i : ℕ} {f : Field} {v : Int} (hf : responseFields[i]? = some f)
    (hv : response.words[i]? = some v) (hr : f.InRange v) : (unpacked response)[i]? = some v := by
  rw [unpacked, List.getElem?_zipWith, hf, hv]
  exact congrArg some (wrap_eq f hr)

theorem unpacked_getD (response : Response) {i : ℕ} {f : Field} {v : Int} (hf : responseFields[i]? = some f)
    (hv : response.words[i]? = some v) (hr : f.InRange v) : (unpacked response).getD i 0 = v := by
  rw [List.getD_eq_getElem?_getD, unpacked_getElem? response hf hv hr, Option.getD_some]

theorem getElem?_append_at {α : Type} (l l' : List α) {n : ℕ} (h : l.length = n) (i : ℕ) : (l ++ l')[n + i]? = l'[i]? := by
  rw [List.getElem?_append_right (by omega), h, Nat.add_sub_cancel_left]

theorem words_token (response : Response) {i : ℕ} (hi : i < 32) :
    response.words[20 + i]? = some (response.outputs.token_ids i) := by
  refine (getElem?_append_at _ _ rfl i).trans ?_
  rw [List.getElem?_map, List.getElem?_range hi]
  rfl

theorem fields_token {i : ℕ} (hi : i < 32) : responseFields[20 + i]? = some .q := by
  refine (getElem?_append_at
    (Field.I :: (List.replicate 7 Field.i ++ List.replicate 4 Field.q ++ List.replicate 8 Field.i)) _ rfl i).trans ?_
  rw [List.getElem?_replicate, if_pos hi]

/-- the tokens of the row a request sits in -/
def requestTokens (e : Emission) (request : ResidentEpochRequest) : List Int :=
  (List.range (e.control (kControlExecutedOffset + request.row.toNat)).toNat).map fun k =>
    e.token_history (k * 4 + request.row.toNat)

theorem requestTokens_eq (e : Emission) {request : ResidentEpochRequest} {r : Row} (h : request.sitsIn r) :
    requestTokens e request = e.tokens r := by
  have hrow : request.row.toNat = r.val := by
    have : request.row = (r.val : Int) := h
    omega
  rw [requestTokens, hrow]
  rfl

theorem sliceTokens_ok (plan : ResidentEpochPlan) (executed flat_tokens : List Int) (commit_state : CommitState)
    (l : List ResidentEpochRequest)
    (h : ∀ request ∈ l, 0 ≤ executed.getD request.row.toNat 0 ∧ executed.getD request.row.toNat 0 ≤ plan.max_steps) :
    sliceTokens plan executed flat_tokens commit_state l = .ok (l.map fun request => (request.req_id,
      (flat_tokens.drop (request.row.toNat * MAX_EPOCH_STEPS)).take (executed.getD request.row.toNat 0).toNat)) := by
  induction l with
  | nil => rfl
  | cons request rest ih =>
    have hcount := h request List.mem_cons_self
    unfold sliceTokens
    rw [except_bind_ok]
    refine ⟨(), (refuse_ok _ _ _).2 (by omega), except_bind_ok.2 ⟨_, ih fun r hr => h r (List.mem_cons_of_mem _ hr), ?_⟩⟩
    rfl

section Decode

variable {plan : ResidentEpochPlan} {e : Emission} {response : Response}

/-- the client's four views into the values -/
theorem unpacked_executed (h : EmissionFits plan.max_steps e) (hd : Delivered e response.outputs) (r : Row) :
    (((unpacked response).drop 12).take 4).getD r 0 = e.executed r := by
  have hr : r.val < 4 := r.isLt
  have hword : response.words[12 + r.val]? = some (response.outputs.executed r) := by
    fin_cases r <;> rfl
  have hfield : responseFields[12 + r.val]? = some .i := by
    fin_cases r <;> rfl
  rw [hd.executed] at hword
  rw [List.getD_eq_getElem?_getD, List.getElem?_take_of_lt hr, List.getElem?_drop,
    unpacked_getElem? response hfield hword (executed_range h r), Option.getD_some]

theorem unpacked_generations (h : EmissionFits plan.max_steps e) (hd : Delivered e response.outputs) :
    ((unpacked response).drop 16).take 4 = rows.map e.generation := by
  have hget (r : Row) : (((unpacked response).drop 16).take 4)[r.val]? = some (e.generation r) := by
    have hr : r.val < 4 := r.isLt
    have hword : response.words[16 + r.val]? = some (response.outputs.row_generations r) := by
      fin_cases r <;> rfl
    have hfield : responseFields[16 + r.val]? = some .i := by
      fin_cases r <;> rfl
    rw [hd.generation] at hword
    rw [List.getElem?_take_of_lt hr, List.getElem?_drop, unpacked_getElem? response hfield hword (h.generation r)]
  have hlen : (((unpacked response).drop 16).take 4).length = 4 := by
    have h3 := hget 3
    obtain ⟨hlt, -⟩ := List.getElem?_eq_some_iff.1 h3
    have hle := List.length_take_le 4 ((unpacked response).drop 16)
    have hlt : 3 < (((unpacked response).drop 16).take 4).length := hlt
    omega
  have hrows : rows.map (fun r : Row => (((unpacked response).drop 16).take 4).getD r.val 0) = rows.map e.generation := by
    refine List.map_congr_left fun r _ => ?_
    rw [List.getD_eq_getElem?_getD, hget, Option.getD_some]
  exact (list_of_length_four hlen).trans hrows

theorem unpacked_tokens (h : EmissionFits plan.max_steps e) (hd : Delivered e response.outputs) (r : Row) :
    (((unpacked response).drop 20).drop (r * MAX_EPOCH_STEPS)).take (e.executed r).toNat = e.tokens r := by
  have hr : r.val < 4 := r.isLt
  have hexec := h.executed r
  have hsteps := h.steps
  simp only [kMaxEpochSteps] at hsteps
  have hget (k : ℕ) (hk : k < (e.executed r).toNat) :
      (unpacked response)[20 + (r * MAX_EPOCH_STEPS + k)]? = some (e.token_history (k * 4 + r)) := by
    have hi : r.val * MAX_EPOCH_STEPS + k < 32 := by
      simp only [MAX_EPOCH_STEPS]
      omega
    have htoken : response.outputs.token_ids (r * MAX_EPOCH_STEPS + k) = e.token_history (k * 4 + r) := hd.tokens r k hk
    exact unpacked_getElem? response (fields_token hi) ((words_token response hi).trans (congrArg some htoken))
      (h.tokens r k hk)
  refine List.ext_getElem? fun k => ?_
  by_cases hk : k < (e.executed r).toNat
  · rw [List.getElem?_take_of_lt hk, List.getElem?_drop, List.getElem?_drop, hget k hk, Emission.tokens,
      List.getElem?_map, List.getElem?_range hk]
    rfl
  · have hge := not_lt.1 hk
    rw [List.getElem?_eq_none ((List.length_take_le _ _).trans hge),
      List.getElem?_eq_none ((e.tokens_length r).le.trans hge)]

/-- what the client makes of a delivered emission -/
structure DecodedAs (plan : ResidentEpochPlan) (e : Emission) (operation : Int) (output : NativeEpochOutput) : Prop where
  status : output.status = 0
  model_calls : output.model_calls = e.model_calls
  token_ids : output.token_ids = plan.requests.map fun request => (request.req_id, requestTokens e request)
  row_generations : output.row_generations = rows.map e.generation
  commit_state : output.commit_state = .committed
  feed_calls : output.feed_calls = 1
  fetch_calls : output.fetch_calls = 1
  kv_imported : output.kv_imported = decide (operation = kImportExecute ∨ operation = kDeviceIpcExecute)
  checksum : output.kv_import_checksum = e.control 5 % 2 ^ 32

/-- **The client.** Each request gets the tokens of its own row. -/
theorem decode_delivers (hplan : plan.Valid) (hb : plan.graph_batch_size = 4) (operation : Int)
    (h : EmissionFits plan.max_steps e) (hd : Delivered e response.outputs) (hstatus : response.transport_status = 0) :
    ∃ output, decodeResponse plan operation (unpacked response) = .ok output ∧ DecodedAs plan e operation output := by
  have hat (i : ℕ) (v : Int) (hf : responseFields[i]? = some .i) (hw : response.words[i]? = some v)
      (hr : Field.i.InRange v) : (unpacked response).getD i 0 = v := unpacked_getD response hf hw hr
  have h1 : (unpacked response).getD 1 0 = 0 := hat 1 0 rfl (congrArg some hstatus) (by decide)
  have h2 : (unpacked response).getD 2 0 = 0 := hat 2 0 rfl (congrArg some hd.device_status) (by decide)
  have h3 : (unpacked response).getD 3 0 = e.model_calls := hat 3 _ rfl (congrArg some hd.model_calls) h.model_calls
  have h4 : (unpacked response).getD 4 0 = 1 := hat 4 1 rfl (congrArg some hd.feed_calls) (by decide)
  have h5 : (unpacked response).getD 5 0 = 1 := hat 5 1 rfl (congrArg some hd.fetch_calls) (by decide)
  have h6 : (unpacked response).getD 6 0 = 2 := hat 6 2 rfl (congrArg some hd.commit_state) (by decide)
  have h7 : (unpacked response).getD 7 0 = e.control 5 := hat 7 _ rfl (congrArg some hd.checksum) h.checksum
  have hcount (request : ResidentEpochRequest) (hr : request ∈ plan.requests) :
      ∃ r : Row, request.sitsIn r ∧ request.row.toNat = r.val ∧
        (((unpacked response).drop 12).take 4).getD request.row.toNat 0 = e.executed r := by
    obtain ⟨r, hrow⟩ := sitsIn_exists hplan hb hr
    have hnat : request.row.toNat = r.val := by
      have : request.row = (r.val : Int) := hrow
      omega
    exact ⟨r, hrow, hnat, by rw [hnat, unpacked_executed h hd r]⟩
  have hslice := sliceTokens_ok plan (((unpacked response).drop 12).take 4) ((unpacked response).drop 20) .committed
    plan.requests (fun request hr => by
      obtain ⟨r, -, -, hexec⟩ := hcount request hr
      rw [hexec]
      exact h.executed r)
  have htokens : (plan.requests.map fun request => (request.req_id,
      (((unpacked response).drop 20).drop (request.row.toNat * MAX_EPOCH_STEPS)).take
        ((((unpacked response).drop 12).take 4).getD request.row.toNat 0).toNat)) =
      plan.requests.map fun request => (request.req_id, requestTokens e request) := by
    refine List.map_congr_left fun request hr => ?_
    obtain ⟨r, hrow, hnat, hexec⟩ := hcount request hr
    rw [hexec, hnat, unpacked_tokens h hd r, requestTokens_eq e hrow]
  rw [htokens] at hslice
  unfold decodeResponse
  simp only [h1, h2, h3, h4, h5, h6, h7]
  refine ⟨_, except_bind_ok.2 ⟨.committed, rfl, except_bind_ok.2 ⟨(), (refuse_ok _ _ _).2 (not_not.2 rfl),
    except_bind_ok.2 ⟨_, hslice, rfl⟩⟩⟩, ?_⟩
  exact ⟨rfl, rfl, rfl, unpacked_generations h hd, rfl, rfl, rfl, rfl, rfl⟩

end Decode

/-! ## The exchange -/

/-- nothing goes wrong around the client -/
structure SidecarEnv.Intact (env : SidecarEnv) : Prop where
  socket : env.socket = true
  send : env.send_fault = none
  recv : env.recv_fault = false
  crash : env.faults.crash = none
  write : env.faults.write = true
  snapshot_write : env.snapshot_write = true
  unlink : env.unlink = true

/-- the response behind a request that was fed -/
theorem serveRequest_fed {env : BridgeEnv} {path : String} {engine : Option Engine} {incoming : List UInt8}
    {call : FeedCall} (h : (serveRequest env path engine incoming).fed = some call) :
    ∃ metadata, (residentEpochExecute env engine (serverArgs path (parseRequest incoming) metadata)
          (emptyResponse 0).outputs).fed = some call ∧
      (serveRequest env path engine incoming).response = some ⟨kResponseMagic,
        (residentEpochExecute env engine (serverArgs path (parseRequest incoming) metadata) (emptyResponse 0).outputs).ret,
        (residentEpochExecute env engine (serverArgs path (parseRequest incoming) metadata)
          (emptyResponse 0).outputs).outputs⟩ := by
  unfold serveRequest at h ⊢
  by_cases h1 : incoming.length < CRUISE_SIDECAR_REQUEST_BYTES
  · rw [if_pos h1] at h
    cases h
  rw [if_neg h1] at h ⊢
  simp only at h ⊢
  by_cases h2 : (parseRequest incoming).magic ≠ kRequestMagic ∨ (parseRequest incoming).version ≠ kProtocolVersion
  · rw [if_pos h2] at h
    cases h
  rw [if_neg h2] at h ⊢
  by_cases h3 : (parseRequest incoming).operation = kShutdown
  · rw [if_pos h3] at h
    cases h
  rw [if_neg h3] at h ⊢
  by_cases h4 : (parseRequest incoming).operation ∉ [kExecute, kWarmUp, kImportExecute, kDeviceIpcExecute]
  · rw [if_pos h4] at h
    cases h
  rw [if_neg h4] at h ⊢
  by_cases h5 : (parseRequest incoming).operation = kDeviceIpcExecute ∧
      (incoming.drop CRUISE_SIDECAR_REQUEST_BYTES).length < CRUISE_RESIDENT_IPC_METADATA_BYTES
  · rw [if_pos h5] at h
    cases h
  rw [if_neg h5] at h ⊢
  exact ⟨_, h, rfl⟩

theorem exchange_fed {env : SidecarEnv} (hi : env.Intact) (payload : List UInt8) :
    (exchange env payload).fed = (serveRequest env.bridge env.transfer_path env.engine payload).fed := by
  unfold exchange servePass
  simp only [hi.send, hi.recv, hi.crash]
  split
  · split_ifs <;> rfl
  · rfl

/-- a response that arrives is unpacked -/
theorem exchange_intact {env : SidecarEnv} (hi : env.Intact) {payload : List UInt8} {response : Response}
    (h : (serveRequest env.bridge env.transfer_path env.engine payload).response = some response)
    (hmagic : response.magic = kResponseMagic) :
    exchange env payload = ⟨.ok (unpacked response),
      (serveRequest env.bridge env.transfer_path env.engine payload).fed⟩ := by
  have hvalues : unpack responseFields response.bytes = unpacked response := by
    have := response_values response []
    rwa [List.append_nil] at this
  have hword : (unpacked response).getD 0 0 = kResponseMagic :=
    unpacked_getD response (f := .I) rfl (congrArg some hmagic) (by decide)
  unfold exchange servePass
  simp only [hi.send, hi.recv, hi.crash, hi.write, h, if_true, Option.map_some, hvalues]
  rw [if_neg (not_not.2 hword)]

/-- the emission's checksum confirms whatever the mode imports -/
def Confirms (env : SidecarEnv) (operation : Int) (e : Emission) : Prop :=
  ∀ (eng eng' : Engine) (args : Args) (rin : RowInputs) (source : ImportSource),
    args.transfer_path = (if operation = kImportExecute then some env.transfer_path else none) →
    (args.ipc_metadata.isSome ↔ operation = kDeviceIpcExecute) →
    loadImport env.bridge eng args rin = (eng', .ok source) → checksumRefused source 0 (e.control 5) = false

/-- the bridge's part of a fed request -/
structure Served (env : SidecarEnv) (plan : ResidentEpochPlan) (operation : Int) (incoming : List UInt8)
    (call : FeedCall) (eng eng' : Engine) (args : Args) (source : ImportSource) (out : Outputs) : Prop where
  transfer_path : args.transfer_path = if operation = kImportExecute then some env.transfer_path else none
  ipc_metadata : args.ipc_metadata.isSome ↔ operation = kDeviceIpcExecute
  checked : checkArgs args = some (parseRequest incoming).rows
  max_steps : args.max_steps.toInt = plan.max_steps
  loaded : loadImport env.bridge eng args (parseRequest incoming).rows = (eng', .ok source)
  pushed : call = feedCall eng'.tiling source (parseRequest incoming).rows plan.max_steps
    (rowLoops source.importing (parseRequest incoming).rows)
  response : (serveRequest env.bridge env.transfer_path env.engine incoming).response = some ⟨kResponseMagic,
    (runEpoch env.bridge source plan.max_steps call out).1, (runEpoch env.bridge source plan.max_steps call out).2⟩

theorem server_call {env : SidecarEnv} {plan : ResidentEpochPlan} {operation transfer_id : Int}
    {incoming : List UInt8} {call : FeedCall} (hparse : ParsesPlan plan operation transfer_id (parseRequest incoming))
    (hfed : (serveRequest env.bridge env.transfer_path env.engine incoming).fed = some call) :
    ∃ eng eng' args source out, Served env plan operation incoming call eng eng' args source out := by
  obtain ⟨record, hbridge, hresponse⟩ := serveRequest_fed hfed
  generalize hargs : serverArgs env.transfer_path (parseRequest incoming) record = args at hbridge hresponse
  have hsteps : args.max_steps.toInt = plan.max_steps := by
    rw [← hargs]
    exact hparse.max_steps
  obtain ⟨eng, eng', rin, source, -, hrin, hload, -, hcall, out, hret, hout⟩ := fed_call hbridge
  have hrows : rin = (parseRequest incoming).rows := by
    rw [← hargs] at hrin
    unfold checkArgs serverArgs at hrin
    simp only at hrin
    split_ifs at hrin
    all_goals exact (Option.some.inj hrin).symm
  rw [hsteps] at hret hout hcall
  subst hrows
  refine ⟨eng, eng', args, source, out, ?_, ?_, hrin, hsteps, hload, hcall, ?_⟩
  · rw [← hargs, serverArgs, hparse.operation]
  · rw [← hargs, serverArgs, hparse.operation]
    dsimp only
    split_ifs with hop
    · exact iff_of_true rfl hop
    · exact iff_of_false (by decide) hop
  · rw [hresponse, hret, hout]

/-- the request behind a call of the sidecar that fed the device -/
theorem sidecar_served {env : SidecarEnv} (hi : env.Intact) {plan : ResidentEpochPlan}
    (hb : plan.graph_batch_size = 4) {operation transfer_id : Int} {ipc_metadata : Option (List UInt8)} {call : FeedCall}
    (hfed : (sidecarExecute env plan operation transfer_id ipc_metadata).fed = some call) :
    ∃ incoming, ParsesPlan plan operation transfer_id (parseRequest incoming) ∧
      (serveRequest env.bridge env.transfer_path env.engine incoming).fed = some call ∧
      sidecarExecute env plan operation transfer_id ipc_metadata =
        (exchange env incoming).andThen (decodeResponse plan operation) := by
  have hsocket : ¬ env.socket = false := by rw [hi.socket]; decide
  have hbatch : ¬ plan.graph_batch_size ≠ GRAPH_BATCH_SIZE := not_not.2 hb
  unfold sidecarExecute at hfed ⊢
  rw [if_neg hsocket, if_neg hbatch] at hfed ⊢
  cases hpack : structPack requestFields (requestWords plan operation transfer_id) with
  | none => simp only [hpack] at hfed; cases hfed
  | some payload =>
    simp only [hpack] at hfed ⊢
    cases hmetadata : ipcPayload operation ipc_metadata with
    | error raised => simp only [hmetadata] at hfed; cases hfed
    | ok metadata =>
      simp only [hmetadata] at hfed ⊢
      rw [Attempt.andThen_fed, exchange_fed hi] at hfed
      exact ⟨_, parse_request hb hpack metadata, hfed, rfl⟩

/-- **The exchange.** A fed request is answered with its emission. -/
theorem exchange_delivers {env : SidecarEnv} {plan : ResidentEpochPlan} {operation transfer_id : Int}
    {ipc_metadata : Option (List UInt8)} {call : FeedCall} {e : Emission} (hi : env.Intact) (hplan : plan.Valid)
    (hb : plan.graph_batch_size = 4) (hfed : (sidecarExecute env plan operation transfer_id ipc_metadata).fed = some call)
    (h : EmissionFits plan.max_steps e) (hfeed : env.bridge.feed call.inputs = 0)
    (hfetch : env.bridge.fetch call.inputs = (0, udfTensors e)) (hconfirms : Confirms env operation e) :
    ∃ output, (sidecarExecute env plan operation transfer_id ipc_metadata).result = .ok output ∧
      DecodedAs plan e operation output := by
  obtain ⟨incoming, hparse, hserved, hattempt⟩ := sidecar_served hi hb hfed
  obtain ⟨eng, eng', args, source, out, hs⟩ := server_call hparse hserved
  have hchecksum := hconfirms eng eng' args _ source hs.transfer_path hs.ipc_metadata hs.loaded
  obtain ⟨out', hrun, hd⟩ := bridge_delivers out h hfeed hfetch hchecksum
  have hresponse := hs.response
  rw [hrun] at hresponse
  generalize hr : (⟨kResponseMagic, 0, out'⟩ : Response) = response at hresponse
  have hmagic : response.magic = kResponseMagic := by rw [← hr]
  have hstatus : response.transport_status = 0 := by rw [← hr]
  have hdelivered : Delivered e response.outputs := by rw [← hr]; exact hd
  have hreply : (exchange env incoming).result = .ok (unpacked response) := by
    rw [exchange_intact hi hresponse hmagic]
  rw [hattempt, Attempt.andThen_ok hreply]
  exact decode_delivers hplan hb operation h hdelivered hstatus

/-! ## The checksum -/

theorem readTransfer_header {env : BridgeEnv} {path : String} {transfer_id : UInt64} {gens : Row → Int32}
    {payload stream : Mem} {mask checksum bytes : ℕ} (hfile : env.file path = some (bytes, stream))
    (h : readTransfer env path transfer_id gens = some (payload, mask, checksum)) :
    mask = (readTransferHeader stream).import_mask.toNat ∧ checksum = (readTransferHeader stream).checksum.toNat := by
  unfold readTransfer at h
  rw [hfile] at h
  simp only at h
  split_ifs at h
  cases h
  exact ⟨rfl, rfl⟩

theorem readTransfer_snapshot {env : BridgeEnv} {path : String} {transfer_id : UInt64} {gens : Row → Int32}
    {payload : Mem} {mask checksum : ℕ} {snapshot : ResidentKVSnapshot} (hlen : snapshot.row_generations.length = 4)
    (hfile : env.file path = kvSnapshotFile snapshot)
    (h : readTransfer env path transfer_id gens = some (payload, mask, checksum)) :
    (mask : Int) = snapshot.import_mask ∧ (checksum : Int) = snapshot.checksum := by
  cases hpublished : kvSnapshotFile snapshot with
  | none =>
    rw [hpublished] at hfile
    unfold readTransfer at h
    rw [hfile] at h
    split_ifs at h
  | some file =>
    rw [hpublished] at hfile
    obtain ⟨bytes, stream⟩ := file
    have hheader := readTransferHeader_published hlen hpublished
    obtain ⟨hfits, -, -⟩ := file_parts hpublished
    rw [header_eq hlen] at hfits
    obtain ⟨h1, h2⟩ := readTransfer_header hfile h
    rw [h1, h2, hheader]
    exact ⟨Int.toNat_of_nonneg (fits_getD hfits 5 .I rfl).1, Int.toNat_of_nonneg (fits_getD hfits 16 .I rfl).1⟩

/-- what the UDF's checksum word must be in each transfer mode -/
def ImportProved (snapshot : Option ResidentKVSnapshot) (device_transfer : Option DeviceKVTransfer) (e : Emission) :
    Prop :=
  (snapshot.isSome ∨ device_transfer.isSome → e.control 5 ≠ 0) ∧ ∀ s ∈ snapshot, e.control 5 % 2 ^ 32 = s.checksum

theorem confirms_plain (env : SidecarEnv) (e : Emission) : Confirms env kExecute e := by
  intro eng eng' args rin source hpath hipc hload
  have hpath : args.transfer_path = none := hpath
  have hipc : args.ipc_metadata = none := by
    rw [← Option.not_isSome_iff_eq_none, hipc]
    decide
  unfold loadImport at hload
  rw [hpath, hipc] at hload
  cases hload
  rfl

theorem confirms_snapshot {env : SidecarEnv} {snapshot : ResidentKVSnapshot} {e : Emission}
    (hlen : snapshot.row_generations.length = 4)
    (hfile : env.bridge.file env.transfer_path = kvSnapshotFile snapshot)
    (he : e.control 5 % 2 ^ 32 = snapshot.checksum) : Confirms env kImportExecute e := by
  intro eng eng' args rin source hpath hipc hload
  have hpath : args.transfer_path = some env.transfer_path := hpath
  have hipc : args.ipc_metadata = none := by
    rw [← Option.not_isSome_iff_eq_none, hipc]
    decide
  unfold loadImport at hload
  rw [hpath, hipc] at hload
  simp only at hload
  cases hread : readTransfer env.bridge env.transfer_path args.transfer_id rin.row_generations with
  | none =>
    rw [hread] at hload
    cases hload
  | some transfer =>
    obtain ⟨payload, mask, checksum⟩ := transfer
    rw [hread] at hload
    cases hload
    have hsum := (readTransfer_snapshot hlen hfile hread).2
    simpa [checksumRefused, hsum] using he

theorem confirms_device {env : SidecarEnv} {e : Emission} (he : e.control 5 ≠ 0) : Confirms env kDeviceIpcExecute e := by
  intro eng eng' args rin source hpath hipc hload
  obtain ⟨m, hm⟩ := Option.isSome_iff_exists.1 (hipc.2 rfl)
  obtain ⟨payload, mask, rfl⟩ := (loadImport_mask hload).2.2 (by rw [hm]; exact Option.some_ne_none m)
  simp [checksumRefused, he]

end Cruise.Worker
