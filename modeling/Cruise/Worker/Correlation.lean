/-
Requests and responses on the sidecar's socket (`sidecar_backend.py` against `resident_epoch_server.cpp`).

MODEL. The socket is a byte stream each way, with any chunking and delay; a call ends by reading a whole response, or is
given up at a timeout or an error. What the device and the file system do to one request is the `BridgeEnv` it is served
with. A call that raises before it sends anything does not touch the socket. The server's end after a shutdown request is
the link's `close`, since no call sends one.
- `responses_correlated`: in every run in which no call is given up while its request may still be answered, what a call
  returns is decoded from the response to its own request.
- `late_response_misread`: a call that times out leaves its response to the next call.
- `sidecarExecute_link`: a call in step with the server is what `sidecarExecute` says it is.
-/
import Cruise.Lib.Link
import Cruise.Worker.Outcome

namespace Cruise.Worker

open Cruise.Lib Cruise.Controller Cruise.Native

/-! ## Calls -/

def WARMUP_GENERATION : Int := 2 ^ 31 - 1

structure NativeWarmupOutput where
  status : Int
  model_calls : Int
  feed_calls : Int
  fetch_calls : Int
  commit_state : CommitState
  wall_us : Int
  native_cpu_us : Int
  declared_input_bytes : Int
  declared_output_bytes : Int

inductive EngineCall where
  | execute (plan : ResidentEpochPlan)
  /-- with whether the transfer file is written, and removed afterwards -/
  | execute_with_import (plan : ResidentEpochPlan) (snapshot : ResidentKVSnapshot) (snapshot_write unlink : Bool)
  | execute_with_device_transfer (plan : ResidentEpochPlan) (transfer : DeviceKVTransfer)
  | warm_up

inductive EngineOutput where
  | epoch (output : NativeEpochOutput)
  | warmup (output : NativeWarmupOutput)

/-- what `_execute` sends -/
def executeRequest (plan : ResidentEpochPlan) (operation transfer_id : Int) (ipc_metadata : Option (List UInt8)) :
    Option (List UInt8) :=
  if plan.graph_batch_size ≠ GRAPH_BATCH_SIZE then none
  else
    match structPack requestFields (requestWords plan operation transfer_id), ipcPayload operation ipc_metadata with
    | some payload, .ok metadata => some (payload ++ metadata)
    | _, _ => none

def warmupWords : List Int :=
  [kRequestMagic, kProtocolVersion, kWarmUp, 1, 1, 0] ++ [11690, 0, 0, 0] ++ [0, 0, 0, 0] ++ [1, 0, 0, 0] ++
    [151645, 151645, 151645, 151645] ++ [WARMUP_GENERATION, 0, 0, 0]

/-- the bytes a call sends; `none` when it raises before -/
def EngineCall.request : EngineCall → Option (List UInt8)
  | .execute plan => executeRequest plan kExecute 0 none
  | .execute_with_import plan snapshot snapshot_write _ =>
    if snapshot.validate ≠ .ok () ∨ snapshot.import_mask ≠ expectedMask plan ∨
        snapshot.row_generations ≠ expectedGenerations plan then none
    else if (kvSnapshotFile snapshot).isNone ∨ snapshot_write = false then none
    else executeRequest plan kImportExecute snapshot.transfer_id none
  | .execute_with_device_transfer plan transfer =>
    if transfer.validate ≠ .ok () ∨ transfer.import_mask ≠ expectedMask plan ∨
        transfer.row_generations ≠ expectedGenerations plan then none
    else
      match transfer.wireBytes with
      | none => none
      | some metadata => executeRequest plan kDeviceIpcExecute transfer.transfer_id (some metadata)
  | .warm_up => structPack requestFields warmupWords

/-- `_receive_response` on the bytes it has read -/
def receiveResponse (bytes : List UInt8) : Option (List Int) :=
  let values := unpack responseFields bytes
  if values.getD 0 0 ≠ kResponseMagic then none else some values

/-- what `warm_up` makes of the unpacked response -/
def decodeWarmup (values : List Int) : Except Raised NativeWarmupOutput := do
  let at_ (i : ℕ) := values.getD i 0
  let commit_state ← commitState (at_ 6)
  refuse (at_ 1 ≠ 0) (.epoch commit_state (some (at_ 1)))
  refuse ((values.drop 12).take 4 ≠ [1, 0, 0, 0]) .other
  refuse ((values.drop 16).take 4 ≠ [WARMUP_GENERATION, 0, 0, 0]) .other
  .ok {
    status := at_ 2
    model_calls := at_ 3
    feed_calls := at_ 4
    fetch_calls := at_ 5
    commit_state
    wall_us := at_ 8
    native_cpu_us := at_ 9
    declared_input_bytes := at_ 10
    declared_output_bytes := at_ 11 }

def decodeEpoch (plan : ResidentEpochPlan) (operation : Int) (bytes : List UInt8) : Except Raised EngineOutput :=
  match receiveResponse bytes with
  | none => .error (.epoch .executing none)
  | some values => (decodeResponse plan operation values).map .epoch

/-- what a call makes of the response it has read -/
def EngineCall.decode (call : EngineCall) (bytes : List UInt8) : Except Raised EngineOutput :=
  match call with
  | .execute plan => decodeEpoch plan kExecute bytes
  | .execute_with_import plan _ _ unlink =>
    if unlink = false then .error .other else decodeEpoch plan kImportExecute bytes
  | .execute_with_device_transfer plan _ => decodeEpoch plan kDeviceIpcExecute bytes
  | .warm_up =>
    match receiveResponse bytes with
    | none => .error .other
    | some values => (decodeWarmup values).map .warmup

/-- a call that gets to sending -/
structure SentCall where
  call : EngineCall
  payload : List UInt8
  sends : call.request = some payload

/-! ## The link -/

/-- what the server still reads of a request: the record, then the metadata of a direct Device import -/
def requestWanted (arrived : List UInt8) : ℕ :=
  if arrived.length < CRUISE_SIDECAR_REQUEST_BYTES then CRUISE_SIDECAR_REQUEST_BYTES - arrived.length
  else
    let request := parseRequest arrived
    if request.magic = kRequestMagic ∧ request.version = kProtocolVersion ∧ request.operation = kDeviceIpcExecute then
      CRUISE_SIDECAR_REQUEST_BYTES + CRUISE_RESIDENT_IPC_METADATA_BYTES - arrived.length
    else 0

def sidecarLink (transfer_path : String) : Link.Protocol BridgeEnv (Option Engine) SentCall where
  request call := call.payload
  wanted := requestWanted
  serve env engine request :=
    let pass := serveRequest env transfer_path engine request
    (pass.engine, pass.response.map Response.bytes)
  responseBytes := CRUISE_SIDECAR_RESPONSE_BYTES

/-- the server reads from a packed record what was packed -/
theorem parse_record {words : List Int} {payload : List UInt8} (h : structPack requestFields words = some payload)
    (rest : List UInt8) :
    payload.length = CRUISE_SIDECAR_REQUEST_BYTES ∧ (parseRequest (payload ++ rest)).magic = words.getD 0 0 ∧
      (parseRequest (payload ++ rest)).version = words.getD 1 0 ∧
      (parseRequest (payload ++ rest)).operation = words.getD 2 0 := by
  unfold structPack at h
  split_ifs at h with hfits
  cases h
  have hvalues : unpack requestFields (pack requestFields words ++ rest) = words := by
    rw [unpack_take _ _ _ (le_of_eq (pack_length hfits.length_eq).symm), unpack_pack hfits]
  refine ⟨pack_length hfits.length_eq, ?_⟩
  unfold parseRequest
  rw [hvalues]
  exact ⟨rfl, rfl, rfl⟩

/-- a request on the wire: a record with the client's magic and version, and the metadata its operation asks for -/
structure Framing (payload record metadata : List UInt8) (operation : Int) : Prop where
  payload_eq : payload = record ++ metadata
  record_length : record.length = CRUISE_SIDECAR_REQUEST_BYTES
  metadata_length : metadata.length = if operation = kDeviceIpcExecute then CRUISE_RESIDENT_IPC_METADATA_BYTES else 0
  magic : ∀ rest, (parseRequest (record ++ rest)).magic = kRequestMagic
  version : ∀ rest, (parseRequest (record ++ rest)).version = kProtocolVersion
  operation : ∀ rest, (parseRequest (record ++ rest)).operation = operation

theorem executeRequest_framing {plan : ResidentEpochPlan} {op transfer_id : Int}
    {ipc_metadata : Option (List UInt8)} {payload : List UInt8}
    (h : executeRequest plan op transfer_id ipc_metadata = some payload) :
    ∃ record metadata, Framing payload record metadata op := by
  unfold executeRequest at h
  by_cases hb : plan.graph_batch_size ≠ GRAPH_BATCH_SIZE
  · rw [if_pos hb] at h
    cases h
  rw [if_neg hb] at h
  cases hpack : structPack requestFields (requestWords plan op transfer_id) with
  | none => simp only [hpack] at h; cases h
  | some record =>
    cases hipc : ipcPayload op ipc_metadata with
    | error raised => simp only [hpack, hipc] at h; cases h
    | ok metadata =>
      simp only [hpack, hipc, Option.some.injEq] at h
      have hparse (rest : List UInt8) := parse_record hpack rest
      refine ⟨record, metadata, h.symm, (hparse []).1, ?_, fun rest => (hparse rest).2.1,
        fun rest => (hparse rest).2.2.1, fun rest => (hparse rest).2.2.2⟩
      unfold ipcPayload at hipc
      by_cases hop : op = kDeviceIpcExecute
      · rw [if_pos hop] at hipc ⊢
        cases ipc_metadata with
        | none => cases hipc
        | some bytes =>
          dsimp only at hipc
          split_ifs at hipc with hlength
          cases hipc
          exact hlength
      · rw [if_neg hop] at hipc ⊢
        cases hipc
        rfl

theorem sentCall_framing (sent : SentCall) : ∃ record metadata op, Framing sent.payload record metadata op := by
  obtain ⟨call, payload, hsends⟩ := sent
  cases call with
  | execute plan =>
    have hexecute : executeRequest plan kExecute 0 none = some payload := hsends
    obtain ⟨record, metadata, h⟩ := executeRequest_framing hexecute
    exact ⟨record, metadata, _, h⟩
  | execute_with_import plan snapshot snapshot_write unlink =>
    unfold EngineCall.request at hsends
    dsimp only at hsends
    split_ifs at hsends
    obtain ⟨record, metadata, h⟩ := executeRequest_framing hsends
    exact ⟨record, metadata, _, h⟩
  | execute_with_device_transfer plan transfer =>
    unfold EngineCall.request at hsends
    dsimp only at hsends
    split_ifs at hsends
    cases hwire : transfer.wireBytes with
    | none => simp only [hwire] at hsends; cases hsends
    | some bytes =>
      simp only [hwire] at hsends
      obtain ⟨record, metadata, h⟩ := executeRequest_framing hsends
      exact ⟨record, metadata, _, h⟩
  | warm_up =>
    have hpack : structPack requestFields warmupWords = some payload := hsends
    have hparse (rest : List UInt8) := parse_record hpack rest
    exact ⟨payload, [], kWarmUp, (List.append_nil _).symm, (hparse []).1, rfl, fun rest => (hparse rest).2.1,
      fun rest => (hparse rest).2.2.1, fun rest => (hparse rest).2.2.2⟩

/-- the server reads a request to its end and no further -/
theorem Framing.wanted {payload record metadata : List UInt8} {operation : Int}
    (h : Framing payload record metadata operation) {arrived : List UInt8} (harrived : arrived <+: payload) :
    requestWanted arrived = 0 ↔ arrived = payload := by
  have hlength : payload.length = CRUISE_SIDECAR_REQUEST_BYTES + metadata.length := by
    rw [h.payload_eq, List.length_append, h.record_length]
  unfold requestWanted
  by_cases hrecord : arrived.length < CRUISE_SIDECAR_REQUEST_BYTES
  · rw [if_pos hrecord]
    refine iff_of_false (Nat.sub_ne_zero_of_lt hrecord) fun heq => ?_
    rw [heq, hlength] at hrecord
    exact absurd hrecord (not_lt.2 (Nat.le_add_right _ _))
  · rw [if_neg hrecord]
    -- the whole record has arrived, so its operation is the client's
    obtain ⟨rest, rfl⟩ : ∃ rest, arrived = record ++ rest := by
      have hrest : record <+: arrived := List.prefix_of_prefix_length_le (h.payload_eq ▸ List.prefix_append _ _) harrived
        (by rw [h.record_length]; exact not_lt.1 hrecord)
      exact ⟨_, (List.prefix_iff_eq_append.1 hrest).symm⟩
    rw [h.payload_eq, List.prefix_append_right_inj] at harrived
    rw [h.payload_eq, List.append_cancel_left_eq]
    simp only [h.magic, h.version, h.operation, true_and, List.length_append, h.record_length]
    have hmetadata := h.metadata_length
    by_cases hop : operation = kDeviceIpcExecute
    · rw [if_pos hop] at hmetadata ⊢
      rw [Nat.add_sub_add_left, Nat.sub_eq_zero_iff_le, ← hmetadata]
      exact ⟨fun hle => harrived.eq_of_length_le hle, fun heq => by rw [heq]⟩
    · rw [if_neg hop] at hmetadata ⊢
      have hnil := List.length_eq_zero_iff.1 hmetadata
      rw [hnil] at harrived ⊢
      exact iff_of_true rfl (List.prefix_nil.1 harrived)

theorem sidecarLink_framed (transfer_path : String) : Link.Framed (sidecarLink transfer_path) where
  wanted sent arrived harrived := by
    obtain ⟨record, metadata, op, h⟩ := sentCall_framing sent
    exact h.wanted harrived
  fresh := show requestWanted [] ≠ 0 by decide
  response env engine request response h := by
    obtain ⟨r, -, rfl⟩ := Option.map_eq_some_iff.1 h
    exact response_length r
  positive := show 0 < CRUISE_SIDECAR_RESPONSE_BYTES by decide

/-! ## Correlation -/

/-- what a call returned is decoded from the response the server produced for the request it sent, the only one at that
place of the stream -/
def Correlated (s : Link.State (Option Engine) SentCall) (a : Link.Answer SentCall) : Prop :=
  ∀ output, a.call.call.decode a.bytes = .ok output →
    ∃ r ∈ s.served, r.start = a.start ∧ r.request = a.call.payload ∧ a.call.call.decode r.response = .ok output ∧
      ∀ r' ∈ s.served, r'.start = a.start → r' = r

/-- **Correlation.** In every run whose calls are given up, if at all, before they send or at the end of the server's
stream, each call that returns normally returns the decoding of the response to its own request. -/
theorem responses_correlated (transfer_path : String) (engine : Option Engine)
    (s : Link.State (Option Engine) SentCall)
    (h : Run (Link.Steps (sidecarLink transfer_path)) Link.Safe (Link.State.start engine) s) :
    ∀ a ∈ s.answers, Correlated s a := by
  intro a ha output houtput
  have hframed := sidecarLink_framed transfer_path
  obtain ⟨r, hr, hstart, hrequest, hresponse⟩ := Link.run_correlated hframed h a ha
  obtain ⟨-, hstarts⟩ := Link.served_starts hframed h
  have hnodup : (s.served.map Link.Served.start).Nodup := (List.pairwise_map.2 hstarts).imp fun hlt => ne_of_lt hlt
  refine ⟨r, hr, hstart, hrequest, ?_, fun r' hr' hstart' => ?_⟩
  · rw [hresponse]
    exact houtput
  · exact List.inj_on_of_nodup_map hnodup hr' hr (hstart'.trans hstart.symm)

/-! ### A call that times out -/

/-- what is received begins with the server's magic word -/
theorem exchange_magic {env : SidecarEnv} {payload : List UInt8} {values : List Int}
    (h : (exchange env payload).result = .ok values) : values.getD 0 0 = kResponseMagic := by
  unfold exchange at h
  dsimp only at h
  split at h
  · split_ifs at h with hmagic
    cases h
    exact not_not.1 hmagic
  · cases h

/-- a call in step with the server sends its request and decodes the response to it -/
theorem sidecarExecute_link {env : SidecarEnv} {plan : ResidentEpochPlan} {operation transfer_id : Int}
    {ipc_metadata : Option (List UInt8)} {output : NativeEpochOutput}
    (h : (sidecarExecute env plan operation transfer_id ipc_metadata).result = .ok output) :
    ∃ payload engine response, executeRequest plan operation transfer_id ipc_metadata = some payload ∧
      (sidecarLink env.transfer_path).serve env.bridge env.engine payload = (engine, some response) ∧
      decodeEpoch plan operation response = .ok (.epoch output) := by
  unfold sidecarExecute at h
  by_cases hsocket : env.socket = false
  · rw [if_pos hsocket] at h
    cases h
  rw [if_neg hsocket] at h
  unfold executeRequest
  by_cases hbatch : plan.graph_batch_size ≠ GRAPH_BATCH_SIZE
  · rw [if_pos hbatch] at h
    cases h
  rw [if_neg hbatch] at h ⊢
  cases hpack : structPack requestFields (requestWords plan operation transfer_id) with
  | none => simp only [hpack] at h; cases h
  | some payload =>
    cases hipc : ipcPayload operation ipc_metadata with
    | error raised => simp only [hpack, hipc] at h; cases h
    | ok metadata =>
      simp only [hpack, hipc] at h ⊢
      rcases hreply : (exchange env (payload ++ metadata)).result with raised | values
      · rw [Attempt.andThen_error hreply] at h
        cases h
      · rw [Attempt.andThen_ok hreply] at h
        obtain ⟨response, hresponse, hvalues, -⟩ := exchange_ok hreply
        have hunpacked : unpack responseFields response.bytes = values := by
          rw [hvalues, ← response_values response [], List.append_nil]
        have hreceived : receiveResponse response.bytes = some values := by
          unfold receiveResponse
          rw [hunpacked]
          exact if_neg (not_not.2 (exchange_magic hreply))
        refine ⟨_, (serveRequest env.bridge env.transfer_path env.engine (payload ++ metadata)).engine,
          response.bytes, rfl, ?_, ?_⟩
        · unfold sidecarLink
          dsimp only
          rw [hresponse]
          rfl
        · unfold decodeEpoch
          simp only [hreceived, h]
          rfl

/-- the server reads the record of a plain call in one go -/
theorem plain_wanted {plan : ResidentEpochPlan} {payload : List UInt8}
    (h : executeRequest plan kExecute 0 none = some payload) : requestWanted [] = payload.length := by
  obtain ⟨record, metadata, hframing⟩ := executeRequest_framing h
  have hmetadata : metadata.length = 0 := hframing.metadata_length
  rw [hframing.payload_eq, List.length_append, hframing.record_length, hmetadata]
  rfl

/-- the client's surroundings, whatever became of the session's engine -/
def SidecarEnv.answeringWith (e : Emission) (engine : Option Engine) : SidecarEnv := { SidecarEnv.answering e with engine }

/-- a server that is asked for the epoch of two rows, in any state of its engine -/
theorem swapped_served {e : Emission} {d' : Device} (hrun : epoch .steady swappedInputs .unused = (d', .ok, e))
    {engine : Option Engine} (hengine : engine.isSome = true) : ∃ payload engine' response output,
    executeRequest swappedPlan kExecute 0 none = some payload ∧ engine'.isSome = true ∧
      (sidecarLink (SidecarEnv.answering e).transfer_path).serve (SidecarEnv.answering e).bridge engine payload =
        (engine', some response) ∧
      decodeEpoch swappedPlan kExecute response = .ok output := by
  have hintact : (SidecarEnv.answeringWith e engine).Intact := ⟨rfl, rfl, rfl, rfl, rfl, rfl, rfl⟩
  obtain ⟨call, hfed⟩ := swapped_fed hintact hengine
  have hproved : ImportProved none none e := ⟨fun h => absurd h (by decide), fun _ h => (by cases h)⟩
  obtain ⟨output, hanswer, -⟩ := epoch_answered (by decide) rfl hintact (by decide) (fun _ h => (by cases h)) hfed rfl rfl
    swapped_carries hrun hproved
  have hexecute : (sidecarExecute (.answeringWith e engine) swappedPlan kExecute 0 none).result = .ok output := hanswer
  obtain ⟨payload, engine', response, hsends, hserve, hdecode⟩ := sidecarExecute_link hexecute
  refine ⟨payload, engine', response, .epoch output, hsends, ?_, hserve, hdecode⟩
  have hafter : (serveRequest (SidecarEnv.answering e).bridge (SidecarEnv.answering e).transfer_path engine payload).engine =
      engine' := congrArg Prod.fst hserve
  rw [← hafter]
  exact serveRequest_engine hengine

/-- two calls that wait for their responses, and between them one that is given up before it sends -/
theorem responses_correlated_prompt :
    ∃ (transfer_path : String) (s : Link.State (Option Engine) SentCall) (a a' : Link.Answer SentCall)
      (output output' : EngineOutput),
      Run (Link.Steps (sidecarLink transfer_path)) Link.Safe (Link.State.start (some .plain)) s ∧ s.answers = [a, a'] ∧
        a.call.call.decode a.bytes = .ok output ∧ a'.call.call.decode a'.bytes = .ok output' ∧
        Correlated s a ∧ Correlated s a' := by
  obtain ⟨d', e, hrun⟩ := swapped_runs
  have hplain : (some Engine.plain).isSome = true := rfl
  obtain ⟨payload, engine, response, output, hsends, hengine, hserve, hdecode⟩ := swapped_served hrun hplain
  obtain ⟨payload', engine', response', output', hsends', -, hserve', hdecode'⟩ := swapped_served hrun hengine
  obtain rfl : payload = payload' := Option.some.inj (hsends.symm.trans hsends')
  let call : SentCall := ⟨.execute swappedPlan, payload, hsends⟩
  have hread : requestWanted [] = payload.length := plain_wanted hsends
  have hframed := sidecarLink_framed (SidecarEnv.answering e).transfer_path
  have hfirst := Link.prompt_answer hframed call (SidecarEnv.answering e).bridge hread hserve 0 [] []
  have hsecond := Link.prompt_answer hframed call (SidecarEnv.answering e).bridge hread hserve' (0 + payload.length)
    ([] ++ [⟨0, payload, response⟩]) ([] ++ [⟨call, 0, response⟩])
  have hreached := (hfirst.trans (Link.unsent_call call _ _ _ _)).trans hsecond
  exact ⟨_, _, _, _, output, output', hreached, rfl, hdecode, hdecode',
    responses_correlated _ _ _ hreached _ List.mem_cons_self,
    responses_correlated _ _ _ hreached _ (List.mem_cons_of_mem _ List.mem_cons_self)⟩

/-- two epochs of one session: the first call times out and the second returns the first one's response -/
theorem late_response_misread :
    ¬∀ (transfer_path : String) (engine : Option Engine) (s : Link.State (Option Engine) SentCall),
      Run (Link.Steps (sidecarLink transfer_path)) (fun _ _ => True) (Link.State.start engine) s →
        ∀ a ∈ s.answers, Correlated s a := by
  intro h
  obtain ⟨d', e, hrun⟩ := swapped_runs
  have hplain : (some Engine.plain).isSome = true := rfl
  obtain ⟨payload, engine, response, output, hsends, -, hserve, hdecode⟩ := swapped_served hrun hplain
  let call : SentCall := ⟨.execute swappedPlan, payload, hsends⟩
  have hread : requestWanted [] = payload.length := plain_wanted hsends
  have hframed := sidecarLink_framed (SidecarEnv.answering e).transfer_path
  obtain ⟨s, hrun, hserved, hanswers⟩ :=
    Link.stale_answer hframed call (SidecarEnv.answering e).bridge hread hserve call
  have ha : (⟨call, payload.length, response⟩ : Link.Answer SentCall) ∈ s.answers := by
    rw [hanswers]
    exact List.mem_cons_self
  obtain ⟨r, hr, hstart, -⟩ := h _ _ s hrun _ ha _ hdecode
  rw [hserved] at hr
  obtain rfl := List.mem_singleton.1 hr
  have hempty : requestWanted [] = 0 := hread.trans hstart.symm
  exact absurd hempty (by decide)

end Cruise.Worker
