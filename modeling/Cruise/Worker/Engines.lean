/-
The in-process engine and the sidecar on one host.

MODEL. Both have the same native library behind them; the transfer file of an import is where each engine puts it. The
sidecar's socket is intact. Results:
- `outcome_outputs`, `outcome_path`: what the native call does depends neither on what was in its outputs nor on where the
  transfer file is.
- `parsed_args`: what the server reads of a packed request are the arguments `ctypes` passes.
- `answer_agrees`: the response is read as the C variables are.
- `submitted_agree`: where both engines submit, they make the same call and give the same output or exception.
-/
import Cruise.Native.ServerLoop
import Cruise.Worker.Correlation
import Cruise.Worker.IpcMetadata
import Cruise.Worker.Submission

namespace Cruise.Worker

open Cruise.Lib Cruise.Controller Cruise.Native

/-! ## The native call -/

theorem loadImport_refused {env : BridgeEnv} {engine engine' : Engine} {args : Args} {rin : RowInputs} {status : Int}
    (h : loadImport env engine args rin = (engine', .error status)) : Field.wrap .i status ≠ 0 := by
  unfold loadImport at h
  split at h
  · split_ifs at h
    · cases h
      decide
    · split at h
      · cases h
        decide
      · cases h
  · split at h
    · cases h
      decide
    · cases h
  · cases h

/-- **The outputs do not matter before the call.** Afterwards they are the same, or the call has failed and left the same
commit state. -/
theorem outcome_outputs (env : BridgeEnv) (engine : Option Engine) {args : Args} (h : args.has_commit_state = true)
    (out out' : Outputs) :
    let outcome := residentEpochExecute env engine args out
    let outcome' := residentEpochExecute env engine args out'
    outcome.ret = outcome'.ret ∧ outcome.outputs.commit_state = outcome'.outputs.commit_state ∧
      (Field.wrap .i outcome.ret = 0 → outcome.outputs = outcome'.outputs) := by
  have hguard : ¬args.has_commit_state = false := by
    rw [h]
    decide
  have hten : Field.wrap .i 10 ≠ 0 := by decide +kernel
  unfold residentEpochExecute
  rw [if_neg hguard, if_neg hguard]
  cases engine with
  | none => exact ⟨rfl, rfl, fun h0 => absurd h0 hten⟩
  | some eng =>
    cases checkArgs args with
    | none => exact ⟨rfl, rfl, fun h0 => absurd h0 hten⟩
    | some rin =>
      dsimp only
      cases hload : loadImport env eng args rin with
      | mk eng' source =>
        cases source with
        | error status => exact ⟨rfl, rfl, fun h0 => absurd h0 (loadImport_refused hload)⟩
        | ok source =>
          have hclear : clearOutputs source { out with commit_state := CommitState.prepared.code } =
              clearOutputs source { out' with commit_state := CommitState.prepared.code } := rfl
          dsimp only
          rw [hclear]
          exact ⟨rfl, rfl, fun _ => rfl⟩

/-- a call that succeeds had passed the first check -/
theorem outcome_checked (env : BridgeEnv) (engine : Option Engine) {args : Args} (h : args.has_commit_state = true)
    (out : Outputs) (hret : Field.wrap .i (residentEpochExecute env engine args out).ret = 0) :
    args.max_steps.toInt ≤ kMaxEpochSteps := by
  have hguard : ¬args.has_commit_state = false := by
    rw [h]
    decide
  have hten : Field.wrap .i 10 ≠ 0 := by decide +kernel
  unfold residentEpochExecute at hret
  rw [if_neg hguard] at hret
  cases engine with
  | none => exact absurd hret hten
  | some eng =>
    cases hcheck : checkArgs args with
    | none =>
      rw [hcheck] at hret
      exact absurd hret hten
    | some rin => exact (checkArgs_steps hcheck).2

/-- the transfer file is what counts, not where it is -/
theorem outcome_path (env : BridgeEnv) (engine : Option Engine) (args : Args) (out : Outputs) {path path' : String}
    (hpath : path.toList.take 9 = "/dev/shm/".toList) (hpath' : path'.toList.take 9 = "/dev/shm/".toList)
    (hfile : env.file path = env.file path') :
    residentEpochExecute env engine { args with transfer_path := some path } out =
      residentEpochExecute env engine { args with transfer_path := some path' } out := by
  have hread (transfer_id : UInt64) (generations : Row → Int32) :
      readTransfer env path transfer_id generations = readTransfer env path' transfer_id generations := by
    unfold readTransfer
    rw [hpath, hpath', hfile]
  have hload (eng : Engine) (rin : RowInputs) : loadImport env eng { args with transfer_path := some path } rin =
      loadImport env eng { args with transfer_path := some path' } rin := by
    unfold loadImport
    cases args.ipc_metadata with
    | some m => rfl
    | none =>
      dsimp only
      rw [hread]
  have hcheck : checkArgs { args with transfer_path := some path } = checkArgs { args with transfer_path := some path' } := rfl
  unfold residentEpochExecute
  dsimp only
  rw [hcheck]
  simp only [hload]

/-! ## The answer -/

section Answer

variable {plan : ResidentEpochPlan}

theorem tokens_agree (executed flat_tokens : List Int) (hlength : flat_tokens.length = 32) (commit_state : CommitState)
    (hsteps : plan.max_steps ≤ 8) (l : List ResidentEpochRequest) (hrow : ∀ request ∈ l, request.row.toNat < 4) :
    readTokens plan executed flat_tokens commit_state l = sliceTokens plan executed flat_tokens commit_state l := by
  induction l with
  | nil => rfl
  | cons request rest ih =>
    have hlt := hrow request List.mem_cons_self
    unfold readTokens sliceTokens
    rw [ih fun other hother => hrow other (List.mem_cons_of_mem _ hother)]
    dsimp only
    generalize executed.getD request.row.toNat 0 = count
    by_cases hcount : count < 0 ∨ count > plan.max_steps
    · rw [refuse, if_pos hcount]
      rfl
    have hbytes : MAX_EPOCH_STEPS = 8 := rfl
    have hinside (step : ℕ) (h : step < count.toNat) : request.row.toNat * MAX_EPOCH_STEPS + step < 32 := by
      rw [hbytes]
      omega
    have hindex : ¬∃ step ∈ List.range count.toNat, flat_tokens.length ≤ request.row.toNat * MAX_EPOCH_STEPS + step := by
      rintro ⟨step, hstep, hle⟩
      have := hinside step (List.mem_range.1 hstep)
      omega
    have hslice : ((List.range count.toNat).map fun step => flat_tokens.getD (request.row.toNat * MAX_EPOCH_STEPS + step) 0) =
        (flat_tokens.drop (request.row.toNat * MAX_EPOCH_STEPS)).take count.toNat := by
      refine List.ext_getElem? fun step => ?_
      by_cases hstep : step < count.toNat
      · have hlt : request.row.toNat * MAX_EPOCH_STEPS + step < flat_tokens.length := by
          rw [hlength]
          exact hinside step hstep
        rw [List.getElem?_map, List.getElem?_range hstep, List.getElem?_take_of_lt hstep, List.getElem?_drop,
          List.getElem?_eq_getElem hlt, Option.map_some, List.getD_eq_getElem?_getD, List.getElem?_eq_getElem hlt]
        rfl
      · have hge := not_lt.1 hstep
        rw [List.getElem?_eq_none ((List.length_map _).trans List.length_range |>.le.trans hge),
          List.getElem?_eq_none ((List.length_take_le _ _).trans hge)]
    rw [hslice, refuse, refuse, if_neg hcount, if_neg hindex]
    rfl

/-- a word of a response -/
theorem unpacked_word (response : Response) {i : ℕ} {f : Field} {v : Int} (hf : responseFields[i]? = some f)
    (hv : response.words[i]? = some v) : (unpacked response).getD i 0 = Field.wrap f v := by
  rw [List.getD_eq_getElem?_getD, unpacked, List.getElem?_zipWith, hf, hv]
  rfl

/-- the token history of a response -/
theorem unpacked_history (response : Response) : (unpacked response).drop 20 =
    (List.range 32).map fun i => Field.wrap .q (response.outputs.token_ids i) := by
  have hlength : (unpacked response).length = 52 := rfl
  refine List.ext_getElem? fun i => ?_
  rw [List.getElem?_drop]
  by_cases hi : i < 32
  · rw [unpacked, List.getElem?_zipWith, fields_token hi, words_token response hi, List.getElem?_map, List.getElem?_range hi]
    rfl
  · rw [List.getElem?_eq_none (by omega), List.getElem?_eq_none (by rw [List.length_map, List.length_range]; omega)]

/-- **The answer is read alike** from the C variables and from the response. -/
theorem answer_agrees (hrow : ∀ request ∈ plan.requests, request.row.toNat < 4) (operation : Int) (response : Response)
    (hcommit : ∃ commit_state, commitState (Field.wrap .i response.outputs.commit_state) = .ok commit_state)
    (hsteps : Field.wrap .i response.transport_status = 0 → plan.max_steps ≤ 8) :
    decodeResponse plan operation (unpacked response) =
      ctypesOutput plan (decide (operation = kImportExecute ∨ operation = kDeviceIpcExecute))
        (Field.wrap .i response.transport_status) response.outputs := by
  obtain ⟨commit_state, hcommit⟩ := hcommit
  have hcounts : ((unpacked response).drop 12).take 4 = rows.map fun r => Field.wrap .i (response.outputs.executed r) := rfl
  have hgenerations : ((unpacked response).drop 16).take 4 =
      rows.map fun r => Field.wrap .i (response.outputs.row_generations r) := rfl
  have hhistory := unpacked_history response
  have hword (i : ℕ) (f : Field) (v : Int) (hf : responseFields[i]? = some f) (hv : response.words[i]? = some v) :=
    unpacked_word response hf hv
  generalize unpacked response = values at hcounts hgenerations hhistory hword
  have hstatus := hword 1 .i response.transport_status rfl rfl
  rw [← hstatus] at hsteps ⊢
  unfold decodeResponse ctypesOutput
  dsimp only
  rw [hword 2 .i response.outputs.device_status rfl rfl, hword 3 .i response.outputs.model_calls rfl rfl,
    hword 4 .i response.outputs.feed_calls rfl rfl, hword 5 .i response.outputs.fetch_calls rfl rfl,
    hword 6 .i response.outputs.commit_state rfl rfl, hword 7 .i response.outputs.kv_import_checksum rfl rfl,
    hword 8 .q response.outputs.wall_us rfl rfl, hword 9 .q response.outputs.native_cpu_us rfl rfl,
    hword 10 .q response.outputs.declared_input_bytes rfl rfl, hword 11 .q response.outputs.declared_output_bytes rfl rfl,
    hcounts, hgenerations, hhistory, hcommit]
  have hbind {β γ : Type} (c : β) (f : β → Except Raised γ) : (Except.ok c >>= f) = f c := rfl
  have hmap (c : CommitState) (f : Raised → Raised) : (Except.ok c).mapError f = .ok c := rfl
  rw [hmap, hbind, hbind]
  by_cases hret : values.getD 1 0 ≠ 0
  · rw [refuse, if_pos hret]
    rfl
  · rw [tokens_agree _ _ rfl commit_state (hsteps (not_not.1 hret)) plan.requests hrow]

end Answer

/-! ## One host -/

/-- what the server calls `resident_epoch_execute` with for a message -/
def servedArgs (transfer_path : String) (incoming : List UInt8) : Option Args :=
  if incoming.length < CRUISE_SIDECAR_REQUEST_BYTES then none
  else
    let request := parseRequest incoming
    let payload := incoming.drop CRUISE_SIDECAR_REQUEST_BYTES
    if request.refused ∨ request.operation = kShutdown ∨
        request.operation ∉ [kExecute, kWarmUp, kImportExecute, kDeviceIpcExecute] ∨
        (request.operation = kDeviceIpcExecute ∧ payload.length < CRUISE_RESIDENT_IPC_METADATA_BYTES) then none
    else some (serverArgs transfer_path request (parseIpcMetadata payload))

/-- a host that either engine runs on, with an engine of the native library and an intact socket -/
structure EngineHost where
  bridge : BridgeEnv
  engine : Engine
  /-- the transfer file of the sidecar -/
  transfer_path : String
  shm : transfer_path.toList.take 9 = "/dev/shm/".toList
  pid : ℕ
  snapshot_write : Bool
  unlink : Bool

namespace EngineHost

def sidecar (host : EngineHost) : SidecarEnv where
  bridge := host.bridge
  engine := some host.engine
  faults := ⟨none, true⟩
  transfer_path := host.transfer_path
  socket := true
  send_fault := none
  recv_fault := false
  snapshot_write := host.snapshot_write
  unlink := host.unlink

def ctypes (host : EngineHost) : CtypesEnv where
  bridge := host.bridge
  handle := some host.engine
  pid := host.pid
  snapshot_write := host.snapshot_write
  unlink := host.unlink

/-- the file either engine writes holds the same -/
def SameFile (host : EngineHost) (transfer_id : Int) : Prop :=
  host.bridge.file host.transfer_path = host.bridge.file (ctypesTransferPath host.pid transfer_id)

/-- the calls of `resident_epoch_execute` -/
def sidecarCalls (host : EngineHost) (plan : ResidentEpochPlan) (transfer : KvTransfer) : Option Args :=
  match sidecarSubmits host.sidecar plan transfer with
  | .error _ => none
  | .ok payload => servedArgs host.transfer_path payload

def ctypesCalls (host : EngineHost) (plan : ResidentEpochPlan) (transfer : KvTransfer) : Option Args :=
  match ctypesSubmits host.ctypes plan transfer with
  | .error _ => none
  | .ok args => some args

end EngineHost

/-! ## What is submitted -/

namespace KvTransfer

def metadata : KvTransfer → Option (List UInt8)
  | .deviceIpc transfer => transfer.wireBytes
  | _ => none

def path (path : String) : KvTransfer → Option String
  | .hostSnapshot _ => some path
  | _ => none

/-- the arguments of its call, with the transfer file at this path -/
def args (plan : ResidentEpochPlan) (file : String) (transfer : KvTransfer) : Args :=
  ctypesArgs plan (transfer.path file) transfer.transfer_id transfer.metadata

def Validated : KvTransfer → Prop
  | .plain => True
  | .hostSnapshot snapshot => snapshot.validate = .ok ()
  | .deviceIpc transfer => transfer.validate = .ok ()

/-- its file or its metadata can be packed -/
def Packed : KvTransfer → Prop
  | .plain => True
  | .hostSnapshot snapshot => (kvSnapshotFile snapshot).isSome = true
  | .deviceIpc transfer => transfer.wireBytes.isSome = true

/-- it is of the rows the plan imports -/
def Matches (plan : ResidentEpochPlan) : KvTransfer → Prop
  | .plain => True
  | .hostSnapshot snapshot => ImportsRows plan snapshot.import_mask snapshot.row_generations
  | .deviceIpc transfer => ImportsRows plan transfer.import_mask transfer.row_generations

/-- what the sidecar client checks and `ctypes` does not -/
structure Marshalled (plan : ResidentEpochPlan) (transfer : KvTransfer) : Prop where
  imports : transfer.Matches plan
  fits : Fits requestFields (requestWords plan transfer.operation transfer.transfer_id)

/-- what both check -/
def Submittable (host : EngineHost) : KvTransfer → Prop
  | .hostSnapshot snapshot => (KvTransfer.hostSnapshot snapshot).Packed ∧ host.snapshot_write = true
  | transfer => transfer.Packed

end KvTransfer

section Submitted

variable {plan : ResidentEpochPlan}

/-- the server calls the bridge with these -/
theorem served_call {path : String} {incoming : List UInt8} {args : Args} (h : servedArgs path incoming = some args)
    (env : BridgeEnv) (engine : Option Engine) :
    let outcome := residentEpochExecute env engine args (emptyResponse 0).outputs
    serveRequest env path engine incoming =
      ⟨some ⟨kResponseMagic, outcome.ret, outcome.outputs⟩, outcome.engine, outcome.fed⟩ := by
  unfold servedArgs at h
  dsimp only at h
  split_ifs at h with hshort hrefused
  cases h
  obtain ⟨hmagic, hshutdown, hknown, hcomplete⟩ : ¬_ ∧ ¬_ ∧ ¬_ ∧ ¬_ := by
    simpa only [not_or] using hrefused
  unfold Request.refused at hmagic
  unfold serveRequest
  dsimp only
  rw [if_neg hshort, if_neg hmagic, if_neg hshutdown, if_neg hknown, if_neg hcomplete]

/-- **A packed request is called with the arguments `ctypes` passes**, but for where the transfer file is. -/
theorem parsed_args (hb : plan.graph_batch_size = 4) {operation transfer_id : Int} {record : List UInt8}
    (h : structPack requestFields (requestWords plan operation transfer_id) = some record) (path : String)
    (metadata : List UInt8) :
    serverArgs path (parseRequest (record ++ metadata)) (parseIpcMetadata metadata) =
      ctypesArgs plan (if operation = kImportExecute then some path else none) transfer_id
        (if operation = kDeviceIpcExecute then some metadata else none) := by
  unfold structPack at h
  split_ifs at h with hfits
  cases h
  have hvalues : unpack requestFields (pack requestFields (requestWords plan operation transfer_id) ++ metadata) =
      requestWords plan operation transfer_id := by
    rw [unpack_take _ _ _ (le_of_eq (pack_length hfits.length_eq).symm), unpack_pack hfits]
  have hgeneration (r : Row) : plan.row_generations.getD r 0 = plan.atRow (fun request => request.generation) 0 r := by
    rw [ResidentEpochPlan.row_generations, hb]
    rfl
  have hid : (transfer_id % 2 ^ 64).toNat = transfer_id.toNat := by
    have hrange : Field.Q.InRange transfer_id := fits_getD hfits 5 .Q rfl
    have hrange : 0 ≤ transfer_id ∧ transfer_id < 256 ^ 8 := hrange
    norm_num at hrange
    rw [Int.emod_eq_of_lt hrange.1 (by norm_num; exact hrange.2)]
  unfold serverArgs ctypesArgs parseRequest
  rw [hvalues, requestWords_eq plan hb, hid]
  simp only [hgeneration, Args.mk.injEq, Option.some.injEq]
  refine ⟨trivial, trivial, rfl, rfl, ?_, ?_, ?_, ?_, ?_, rfl, rfl, ?_⟩
  · funext r
    fin_cases r <;> rfl
  · funext r
    fin_cases r <;> rfl
  · funext r
    fin_cases r <;> rfl
  · funext r
    fin_cases r <;> rfl
  · funext r
    fin_cases r <;> rfl
  · show (if operation = kDeviceIpcExecute then some (parseIpcMetadata metadata) else none) = _
    split_ifs <;> rfl

variable {host : EngineHost} {transfer : KvTransfer} (hb : plan.graph_batch_size = 4) (hvalid : transfer.Validated)

include hb hvalid

theorem ctypes_submits (h : transfer.Submittable host) : ctypesSubmits host.ctypes plan transfer =
    .ok (transfer.args plan (ctypesTransferPath host.pid transfer.transfer_id)) := by
  cases transfer with
  | plain => exact if_neg (not_not.2 hb)
  | hostSnapshot snapshot =>
    obtain ⟨hpacked, hwrite⟩ := h
    refine if_neg ?_
    rintro (hrefused | hnone | hfailed | hbatch)
    · exact hrefused hvalid
    · have hpacked : (kvSnapshotFile snapshot).isSome = true := hpacked
      rw [Option.isNone_iff_eq_none.1 hnone] at hpacked
      cases hpacked
    · exact absurd (hwrite.symm.trans hfailed) (by decide)
    · exact hbatch hb
  | deviceIpc transfer =>
    obtain ⟨metadata, hwire⟩ := Option.isSome_iff_exists.1 h
    unfold ctypesSubmits KvTransfer.args KvTransfer.metadata
    dsimp only
    rw [hwire]
    exact if_neg (not_not.2 hb)

omit hb in
theorem both_refuse (h : ¬transfer.Submittable host) : ctypesSubmits host.ctypes plan transfer = .error .other ∧
    sidecarSubmits host.sidecar plan transfer = .error .other := by
  cases transfer with
  | plain => exact absurd trivial h
  | hostSnapshot snapshot =>
    have hrefused : (kvSnapshotFile snapshot).isNone ∨ host.snapshot_write = false := by
      by_cases hnone : (kvSnapshotFile snapshot).isNone
      · exact Or.inl hnone
      · refine Or.inr ?_
        by_contra hwrite
        have hpacked : (kvSnapshotFile snapshot).isSome = true := by simpa [Option.isSome_iff_ne_none] using hnone
        exact h ⟨hpacked, by simpa using hwrite⟩
    exact ⟨if_pos (by tauto), if_pos (by tauto)⟩
  | deviceIpc transfer =>
    have hnone : transfer.wireBytes = none := by
      have h : ¬transfer.wireBytes.isSome = true := h
      simpa using h
    unfold ctypesSubmits sidecarSubmits
    dsimp only
    rw [hnone]
    exact ⟨rfl, by split_ifs <;> rfl⟩

omit hvalid in
theorem message_packed {operation transfer_id : Int} {ipc_metadata : Option (List UInt8)} {record metadata : List UInt8}
    (hpack : structPack requestFields (requestWords plan operation transfer_id) = some record)
    (hipc : ipcPayload operation ipc_metadata = .ok metadata) :
    sidecarMessage host.sidecar plan operation transfer_id ipc_metadata = .ok (record ++ metadata) := by
  have hsocket : ¬host.sidecar.socket = false := by
    show ¬true = false
    decide
  have hbatch : ¬plan.graph_batch_size ≠ (GRAPH_BATCH_SIZE : Int) := not_not.2 hb
  unfold sidecarMessage
  rw [if_neg hsocket, if_neg hbatch, hpack, hipc]

omit hvalid in
theorem message_unpacked {operation transfer_id : Int} (ipc_metadata : Option (List UInt8))
    (hpack : structPack requestFields (requestWords plan operation transfer_id) = none) :
    sidecarMessage host.sidecar plan operation transfer_id ipc_metadata = .error .other := by
  have hsocket : ¬host.sidecar.socket = false := by
    show ¬true = false
    decide
  have hbatch : ¬plan.graph_batch_size ≠ (GRAPH_BATCH_SIZE : Int) := not_not.2 hb
  unfold sidecarMessage
  rw [if_neg hsocket, if_neg hbatch, hpack]

/-- the message of a call that passes the client's checks -/
theorem sidecar_submits (h : transfer.Submittable host) (hm : transfer.Marshalled plan) : ∃ record metadata,
    structPack requestFields (requestWords plan transfer.operation transfer.transfer_id) = some record ∧
      sidecarSubmits host.sidecar plan transfer = .ok (record ++ metadata) ∧
      (transfer.operation = kDeviceIpcExecute → metadata.length = CRUISE_RESIDENT_IPC_METADATA_BYTES) ∧
      transfer.metadata = if transfer.operation = kDeviceIpcExecute then some metadata else none := by
  obtain ⟨himports, hfits⟩ := hm
  obtain ⟨record, hpack⟩ : ∃ record,
      structPack requestFields (requestWords plan transfer.operation transfer.transfer_id) = some record := ⟨_, if_pos hfits⟩
  cases transfer with
  | plain =>
    have hplain : ¬kExecute = kDeviceIpcExecute := by decide
    have hmessage : sidecarMessage host.sidecar plan kExecute 0 none = .ok (record ++ []) :=
      message_packed hb hpack (if_neg hplain)
    exact ⟨record, [], hpack, hmessage, fun hop => absurd hop hplain, (if_neg hplain).symm⟩
  | hostSnapshot snapshot =>
    obtain ⟨hpacked, hwrite⟩ := h
    have hpacked : (kvSnapshotFile snapshot).isSome = true := hpacked
    have himport : ¬kImportExecute = kDeviceIpcExecute := by decide
    have hmessage : sidecarMessage host.sidecar plan kImportExecute snapshot.transfer_id none = .ok (record ++ []) :=
      message_packed hb hpack (if_neg himport)
    refine ⟨record, [], hpack, ?_, fun hop => absurd hop himport, (if_neg himport).symm⟩
    unfold sidecarSubmits
    dsimp only
    rw [if_neg, hmessage]
    · rfl
    · rintro (hrefused | hother | hnone | hfailed)
      · exact hrefused hvalid
      · exact hother himports
      · rw [Option.isNone_iff_eq_none.1 hnone] at hpacked
        cases hpacked
      · exact absurd (hwrite.symm.trans hfailed) (by decide)
  | deviceIpc transfer =>
    obtain ⟨metadata, hwire⟩ := Option.isSome_iff_exists.1 h
    have hlength := (wire_parts hwire).2.2.2
    have hmessage : sidecarMessage host.sidecar plan kDeviceIpcExecute transfer.transfer_id (some metadata) =
        .ok (record ++ metadata) := message_packed hb hpack (if_pos hlength)
    have himports : ImportsRows plan transfer.import_mask transfer.row_generations := himports
    refine ⟨record, metadata, hpack, ?_, fun _ => hlength, hwire⟩
    unfold sidecarSubmits
    dsimp only
    rw [if_neg (not_not.2 himports), hwire]
    exact hmessage

theorem sidecar_refuses (hm : ¬transfer.Marshalled plan) : sidecarSubmits host.sidecar plan transfer = .error .other := by
  have hpack (himports : transfer.Matches plan) :
      structPack requestFields (requestWords plan transfer.operation transfer.transfer_id) = none :=
    if_neg fun hfits => hm ⟨himports, hfits⟩
  cases transfer with
  | plain =>
    have hmessage : sidecarMessage host.sidecar plan kExecute 0 none = .error .other := message_unpacked hb none (hpack trivial)
    exact hmessage
  | hostSnapshot snapshot =>
    have hmessage (himports : ImportsRows plan snapshot.import_mask snapshot.row_generations) :
        sidecarMessage host.sidecar plan kImportExecute snapshot.transfer_id none = .error .other :=
      message_unpacked hb none (hpack himports)
    unfold sidecarSubmits
    dsimp only
    by_cases hrefused : snapshot.validate ≠ .ok () ∨ ¬ImportsRows plan snapshot.import_mask snapshot.row_generations ∨
        (kvSnapshotFile snapshot).isNone ∨ host.sidecar.snapshot_write = false
    · rw [if_pos hrefused]
    · rw [if_neg hrefused, hmessage (not_not.1 (not_or.1 (not_or.1 hrefused).2).1)]
      dsimp only [Except.mapError]
      split_ifs <;> rfl
  | deviceIpc transfer =>
    unfold sidecarSubmits
    dsimp only
    by_cases himports : ImportsRows plan transfer.import_mask transfer.row_generations
    · have hmessage (metadata : List UInt8) :
          sidecarMessage host.sidecar plan kDeviceIpcExecute transfer.transfer_id (some metadata) = .error .other :=
        message_unpacked hb (some metadata) (hpack himports)
      rw [if_neg (not_not.2 himports)]
      cases transfer.wireBytes with
      | none => rfl
      | some metadata => exact hmessage metadata
    · rw [if_pos himports]

end Submitted

/-! ## Where both submit -/

/-- what a failed call raises -/
theorem ctypesOutput_failed {plan : ResidentEpochPlan} (kv_imported : Bool) {status : Int} (h : status ≠ 0) (out : Outputs) :
    ctypesOutput plan kv_imported status out =
      (((commitState (Field.wrap .i out.commit_state)).mapError fun _ => .epoch .executing (some status)).bind
        fun commit_state => .error (.epoch commit_state (some status))) := by
  unfold ctypesOutput
  refine congrArg (Except.bind _) (funext fun commit_state => ?_)
  have hrefuse : refuse (status ≠ 0) (Raised.epoch commit_state (some status)) = .error (.epoch commit_state (some status)) :=
    if_pos h
  rw [hrefuse]
  rfl

theorem ctypesOutput_congr {plan : ResidentEpochPlan} (kv_imported : Bool) {status : Int} {out out' : Outputs}
    (hcommit : out.commit_state = out'.commit_state) (h : status = 0 → out = out') :
    ctypesOutput plan kv_imported status out = ctypesOutput plan kv_imported status out' := by
  by_cases hstatus : status = 0
  · rw [h hstatus]
  · rw [ctypesOutput_failed _ hstatus, ctypesOutput_failed _ hstatus, hcommit]

theorem sidecarCalls_sent {host : EngineHost} {plan : ResidentEpochPlan} {transfer : KvTransfer} {payload : List UInt8}
    (h : sidecarSubmits host.sidecar plan transfer = .ok payload) :
    host.sidecarCalls plan transfer = servedArgs host.transfer_path payload := by
  unfold EngineHost.sidecarCalls
  rw [h]

theorem sidecarCalls_refused {host : EngineHost} {plan : ResidentEpochPlan} {transfer : KvTransfer} {raised : Raised}
    (h : sidecarSubmits host.sidecar plan transfer = .error raised) : host.sidecarCalls plan transfer = none := by
  unfold EngineHost.sidecarCalls
  rw [h]

theorem ctypesCalls_made {host : EngineHost} {plan : ResidentEpochPlan} {transfer : KvTransfer} {args : Args}
    (h : ctypesSubmits host.ctypes plan transfer = .ok args) : host.ctypesCalls plan transfer = some args := by
  unfold EngineHost.ctypesCalls
  rw [h]

theorem finish_result (transfer : KvTransfer) (unlink : Bool) {attempt attempt' : Attempt NativeEpochOutput}
    (h : attempt.result = attempt'.result) :
    (transfer.finish unlink attempt).result = (transfer.finish unlink attempt').result := by
  cases transfer with
  | plain => exact h
  | hostSnapshot snapshot =>
    unfold KvTransfer.finish
    dsimp only
    split_ifs
    · rfl
    · exact h
  | deviceIpc transfer => exact h

theorem CommitProof.known {commit_state status : Int} {fed : Option FeedCall} (h : CommitProof commit_state status fed) :
    ∃ state, commitState (Field.wrap .i commit_state) = .ok state := by
  rw [h.wrap]
  rcases h with ⟨rfl, -⟩ | ⟨rfl, -⟩ | ⟨rfl, -⟩
  · exact ⟨.prepared, rfl⟩
  · exact ⟨.executing, rfl⟩
  · exact ⟨.committed, rfl⟩

theorem submittable_packed {host : EngineHost} {transfer : KvTransfer} (h : transfer.Submittable host) : transfer.Packed := by
  cases transfer with
  | plain => trivial
  | hostSnapshot snapshot => exact h.1
  | deviceIpc transfer => exact h

section Agree

variable {plan : ResidentEpochPlan} {host : EngineHost} {transfer : KvTransfer} (hb : plan.graph_batch_size = 4)

include hb

/-- the arguments of the server's call, from a packed message -/
theorem message_args {record metadata : List UInt8}
    (hpack : structPack requestFields (requestWords plan transfer.operation transfer.transfer_id) = some record)
    (hlength : transfer.operation = kDeviceIpcExecute → metadata.length = CRUISE_RESIDENT_IPC_METADATA_BYTES)
    (hmetadata : transfer.metadata = if transfer.operation = kDeviceIpcExecute then some metadata else none) (path : String) :
    servedArgs path (record ++ metadata) = some (transfer.args plan path) := by
  obtain ⟨hrecord, hmagic, hversion, hoperation⟩ := parse_record hpack metadata
  have hoperation : (parseRequest (record ++ metadata)).operation = transfer.operation := hoperation
  have hdrop : (record ++ metadata).drop CRUISE_SIDECAR_REQUEST_BYTES = metadata := by
    rw [← hrecord]
    exact List.drop_left
  have hshort : ¬(record ++ metadata).length < CRUISE_SIDECAR_REQUEST_BYTES := by
    rw [List.length_append]
    omega
  have hknown : transfer.operation ≠ kShutdown ∧ transfer.operation ∈ [kExecute, kWarmUp, kImportExecute, kDeviceIpcExecute] ∧
      transfer.path path = if transfer.operation = kImportExecute then some path else none := by
    have hplain : kExecute ≠ kShutdown ∧ kExecute ∈ [kExecute, kWarmUp, kImportExecute, kDeviceIpcExecute] := by decide
    have himport : kImportExecute ≠ kShutdown ∧ kImportExecute ∈ [kExecute, kWarmUp, kImportExecute, kDeviceIpcExecute] := by
      decide
    have hdevice : kDeviceIpcExecute ≠ kShutdown ∧
        kDeviceIpcExecute ∈ [kExecute, kWarmUp, kImportExecute, kDeviceIpcExecute] := by decide
    cases transfer with
    | plain => exact ⟨hplain.1, hplain.2, rfl⟩
    | hostSnapshot snapshot => exact ⟨himport.1, himport.2, rfl⟩
    | deviceIpc transfer => exact ⟨hdevice.1, hdevice.2, rfl⟩
  unfold servedArgs
  dsimp only
  rw [if_neg hshort, hdrop, hoperation, if_neg, parsed_args hb hpack, KvTransfer.args, hknown.2.2, hmetadata]
  rintro (hrefused | hshutdown | hunknown | ⟨hop, hshort⟩)
  · exact hrefused.elim (fun h => h hmagic) fun h => h hversion
  · exact hknown.1 hshutdown
  · exact hunknown hknown.2.1
  · exact absurd hshort (by rw [hlength hop]; exact lt_irrefl _)

omit hb in
theorem ctypesTransferPath_shm (pid : ℕ) (transfer_id : Int) :
    (ctypesTransferPath pid transfer_id).toList.take 9 = "/dev/shm/".toList := by
  unfold ctypesTransferPath
  rw [String.toList_append, String.toList_append, String.toList_append, List.append_assoc, List.append_assoc,
    List.take_append_of_le_length (by decide)]
  rfl

omit hb in
/-- the call gives the same wherever the file lies that both engines wrote -/
theorem file_anywhere (hfile : host.SameFile transfer.transfer_id) (out : Outputs) :
    residentEpochExecute host.bridge (some host.engine) (transfer.args plan host.transfer_path) out =
      residentEpochExecute host.bridge (some host.engine)
        (transfer.args plan (ctypesTransferPath host.pid transfer.transfer_id)) out := by
  cases transfer with
  | plain => rfl
  | hostSnapshot snapshot =>
    exact outcome_path host.bridge (some host.engine) (ctypesArgs plan none snapshot.transfer_id none) out host.shm
      (ctypesTransferPath_shm _ _) hfile
  | deviceIpc transfer => rfl

omit hb in
/-- what is said to be imported -/
theorem imported_flag (h : transfer.Packed) (file : String) :
    ((transfer.args plan file).transfer_path.isSome || (transfer.args plan file).ipc_metadata.isSome) =
      decide (transfer.operation = kImportExecute ∨ transfer.operation = kDeviceIpcExecute) := by
  have hplain : decide (kExecute = kImportExecute ∨ kExecute = kDeviceIpcExecute) = false := by decide
  have himport : decide (kImportExecute = kImportExecute ∨ kImportExecute = kDeviceIpcExecute) = true := by decide
  have hdevice : decide (kDeviceIpcExecute = kImportExecute ∨ kDeviceIpcExecute = kDeviceIpcExecute) = true := by decide
  cases transfer with
  | plain => exact hplain.symm
  | hostSnapshot snapshot => exact himport.symm
  | deviceIpc transfer =>
    obtain ⟨metadata, hwire⟩ := Option.isSome_iff_exists.1 h
    unfold KvTransfer.args KvTransfer.metadata
    dsimp only [ctypesArgs]
    rw [hwire]
    exact hdevice.symm

omit hb in
theorem host_exchange {incoming : List UInt8} {args : Args} (h : servedArgs host.transfer_path incoming = some args) :
    let outcome := residentEpochExecute host.bridge (some host.engine) args (emptyResponse 0).outputs
    exchange host.sidecar incoming = ⟨.ok (unpacked ⟨kResponseMagic, outcome.ret, outcome.outputs⟩), outcome.fed⟩ := by
  have hserved := served_call h host.bridge (some host.engine)
  have hintact : { host.sidecar with snapshot_write := true, unlink := true }.Intact := ⟨rfl, rfl, rfl, rfl, rfl, rfl, rfl⟩
  have hexchange := exchange_intact hintact (congrArg ServerPass.response hserved) rfl
  exact hexchange.trans (congrArg _ (congrArg ServerPass.fed hserved))

/-- **Where both submit**, they make the same call and give the same output or exception. -/
theorem submitted_agree (hplan : plan.Valid) (hvalid : transfer.Validated) (h : transfer.Submittable host)
    (hm : transfer.Marshalled plan) (hfile : host.SameFile transfer.transfer_id) :
    host.sidecarCalls plan transfer = some (transfer.args plan host.transfer_path) ∧
      host.ctypesCalls plan transfer = some (transfer.args plan (ctypesTransferPath host.pid transfer.transfer_id)) ∧
      (transfer.call (sidecarEngine host.sidecar) plan).result = (transfer.call (ctypesEngine host.ctypes) plan).result := by
  obtain ⟨record, metadata, hpack, hsubmits, hlength, hmetadata⟩ := sidecar_submits hb hvalid h hm
  have hcalls := ctypes_submits hb hvalid h
  have hargs := message_args hb hpack hlength hmetadata host.transfer_path
  refine ⟨(sidecarCalls_sent hsubmits).trans hargs, ctypesCalls_made hcalls, ?_⟩
  rw [sidecar_call, ctypes_call, hsubmits, hcalls]
  refine finish_result transfer host.unlink ?_
  rw [host_exchange hargs, imported_flag (submittable_packed h)]
  have hguard : (transfer.args plan host.transfer_path).has_commit_state = true := rfl
  have hchecked := outcome_checked host.bridge (some host.engine) hguard (emptyResponse 0).outputs
  have hcommit := (bridge_commit host.bridge (some host.engine) (transfer.args plan host.transfer_path)
    (emptyResponse 0).outputs rfl).known
  have hsame := outcome_outputs host.bridge (some host.engine) hguard (emptyResponse 0).outputs ctypesOutputs
  rw [file_anywhere hfile ctypesOutputs] at hsame
  generalize residentEpochExecute host.bridge (some host.engine) (transfer.args plan host.transfer_path)
    (emptyResponse 0).outputs = outcome at hchecked hcommit hsame
  have hrow (request : ResidentEpochRequest) (hr : request ∈ plan.requests) : request.row.toNat < 4 := by
    have := hplan.row request hr
    omega
  have hsteps (h0 : Field.wrap .i outcome.ret = 0) : plan.max_steps ≤ 8 := by
    have hle : (Int32.ofInt plan.max_steps).toInt ≤ kMaxEpochSteps := hchecked h0
    have hvalue : (Int32.ofInt plan.max_steps).toInt = plan.max_steps := int32_ofInt (fits_getD hm.fits 4 .i rfl)
    rwa [hvalue] at hle
  obtain ⟨hret, hstate, houtputs⟩ := hsame
  have hanswer := answer_agrees hrow transfer.operation ⟨kResponseMagic, outcome.ret, outcome.outputs⟩ hcommit hsteps
  rw [Attempt.andThen_ok rfl, hanswer, ctypesOutput_congr _ hstate houtputs, hret]
  rfl

end Agree

end Cruise.Worker
