/-
The way in: a plan whose requests the bridge accepts reaches the device.

- `parsed_count`, `parsed_writes`: the bridge finds in a parsed plan as many active rows as it has requests, and stores
  all of them.
- `plain_fed`: a plain call of such a plan is fed when nothing goes wrong around the client.
- `feed_carries_plan`: in plain and transfer-file mode, the rows the UDF reads of a fed call are the plan's.
-/
import Cruise.Worker.Delivery

namespace Cruise.Worker

open Cruise.Lib Cruise.Controller Cruise.Native

/-! ## The rows of a parsed plan -/

/-- what the bridge asks of a request's values -/
structure ResidentEpochRequest.Accepted (request : ResidentEpochRequest) (max_steps : Int) : Prop where
  token : 0 ≤ request.token_id ∧ request.token_id < kVocabSize
  position : 0 ≤ request.position ∧ request.position + max_steps ≤ kLogicalCapacity
  eos : 0 ≤ request.eos_token_id ∧ request.eos_token_id < kVocabSize

theorem parsed_active {plan : ResidentEpochPlan} (hplan : plan.Valid) {operation transfer_id : Int} {request : Request}
    (hp : ParsesPlan plan operation transfer_id request) (r : Row) :
    request.rows.row_generations r ≠ 0 ↔ ∃ own ∈ plan.requests, own.sitsIn r := by
  rw [ne_eq, int32_eq_zero, hp.generation]
  constructor
  · intro hne
    by_contra hnone
    exact hne (atRow_empty hplan _ _ fun own hown hrow => hnone ⟨own, hown, hrow⟩)
  · intro ⟨own, hown, hrow⟩
    rw [atRow_request hplan _ _ hown hrow]
    exact (hplan.positive own hown).ne'

/-- the bridge counts a plan's requests -/
theorem parsed_count {plan : ResidentEpochPlan} (hplan : plan.Valid) (hb : plan.graph_batch_size = 4)
    {operation transfer_id : Int} {request : Request} (hp : ParsesPlan plan operation transfer_id request) :
    activeCount request.rows = plan.requests.length := by
  have hactive := parsed_active hplan hp
  have hrow {own : ResidentEpochRequest} (hown : own ∈ plan.requests) {r : Row} :
      own.sitsIn r ↔ Fin.ofNat 4 own.row.toNat = r := by
    have h := hplan.row own hown
    have hr : r.val < 4 := r.isLt
    rw [Fin.ext_iff, Fin.val_ofNat]
    show own.row = (r.val : Int) ↔ own.row.toNat % 4 = r.val
    omega
  have hnodup : (plan.requests.map fun own => (Fin.ofNat 4 own.row.toNat : Row)).Nodup := by
    rw [List.nodup_map_iff_inj_on (List.Nodup.of_map _ hplan.rows)]
    intro a ha b hb' heq
    exact sitsIn_unique hplan ha hb' ((hrow ha).2 heq) ((hrow hb').2 rfl)
  have hset : (rows.filter fun r => decide (request.rows.row_generations r ≠ 0)).Perm
      (plan.requests.map fun own => (Fin.ofNat 4 own.row.toNat : Row)) := by
    rw [List.perm_ext_iff_of_nodup (rows_nodup.filter _) hnodup]
    intro r
    rw [List.mem_filter, decide_eq_true_eq, hactive, List.mem_map]
    constructor
    · intro ⟨_, own, hown, hsits⟩
      exact ⟨own, hown, (hrow hown).1 hsits⟩
    · intro ⟨own, hown, heq⟩
      exact ⟨mem_rows r, own, hown, (hrow hown).2 heq⟩
  rw [activeCount, List.countP_eq_length_filter, hset.length_eq, List.length_map]

/-- the bridge accepts the rows of a plan whose requests it accepts -/
theorem parsed_writes {plan : ResidentEpochPlan} (hplan : plan.Valid) (hb : plan.graph_batch_size = 4)
    (haccepted : ∀ own ∈ plan.requests, own.Accepted plan.max_steps) {operation transfer_id : Int} {request : Request}
    (hp : ParsesPlan plan operation transfer_id request) (importing : Bool) :
    ∃ writes, rowWrites importing request.rows request.max_steps.toInt request.request_count.toInt = .ok writes := by
  have hrow (r : Row) (hr : request.rows.row_generations r ≠ 0) :
      rowAccepted request.rows request.max_steps.toInt r = true := by
    obtain ⟨own, hown, hsits⟩ := (parsed_active hplan hp r).1 hr
    have hvalues (field : ResidentEpochRequest → Int) (fill : Int) := atRow_request hplan field fill hown hsits
    have ha := haccepted own hown
    have hlength := hplan.length own hown
    have hpositive := hplan.positive own hown
    simp only [rowAccepted, hp.token, hp.position, hp.length, hp.eos, hp.generation, hp.max_steps, hvalues,
      Bool.not_eq_true', Bool.or_eq_false_iff, decide_eq_false_iff_not]
    have htoken := ha.token
    have hposition := ha.position
    have heos := ha.eos
    omega
  unfold rowWrites
  rw [if_neg, if_neg]
  · exact ⟨_, rfl⟩
  · rw [not_not, parsed_count hplan hb hp, hp.request_count]
  · intro hany
    obtain ⟨r, -, hr⟩ := List.any_eq_true.1 hany
    rw [Bool.and_eq_true, decide_eq_true_eq] at hr
    rw [hrow r hr.1] at hr
    exact absurd hr.2 (by decide)

/-- the bridge's row check and the plan's rows -/
theorem parsed_rows_iff {plan : ResidentEpochPlan} (hplan : plan.Valid) (hb : plan.graph_batch_size = 4)
    {operation transfer_id : Int} {request : Request} (hp : ParsesPlan plan operation transfer_id request)
    (importing : Bool) :
    rowWrites importing request.rows request.max_steps.toInt request.request_count.toInt ≠ .error 11 ↔
      ∀ own ∈ plan.requests, own.Accepted plan.max_steps := by
  constructor
  · intro haccepted own hown
    obtain ⟨r, hsits⟩ := sitsIn_exists hplan hb hown
    have hrow : rowAccepted request.rows request.max_steps.toInt r = true := by
      by_contra hrefused
      have hactive := (parsed_active hplan hp r).2 ⟨own, hown, hsits⟩
      refine haccepted ?_
      unfold rowWrites
      exact if_pos (List.any_eq_true.2 ⟨r, mem_rows r, by simp [hactive, hrefused]⟩)
    have hvalues (field : ResidentEpochRequest → Int) (fill : Int) := atRow_request hplan field fill hown hsits
    simp only [rowAccepted, hp.token, hp.position, hp.length, hp.eos, hp.generation, hp.max_steps, hvalues,
      Bool.not_eq_true', Bool.or_eq_false_iff, decide_eq_false_iff_not] at hrow
    obtain ⟨⟨⟨⟨⟨⟨⟨-, h1⟩, h2⟩, h3⟩, h4⟩, -⟩, h5⟩, h6⟩ := hrow
    exact ⟨⟨not_lt.1 h1, not_le.1 h2⟩, ⟨not_lt.1 h3, not_lt.1 h4⟩, ⟨not_lt.1 h5, not_le.1 h6⟩⟩
  · intro haccepted herror
    obtain ⟨writes, hwrites⟩ := parsed_writes hplan hb haccepted hp importing
    rw [hwrites] at herror
    cases herror

/-- the bridge feeds a parsed plan -/
theorem bridge_fed {env : BridgeEnv} {eng : Engine} {path : String} {plan : ResidentEpochPlan} (hplan : plan.Valid)
    (hb : plan.graph_batch_size = 4) (hsteps : 1 ≤ plan.max_steps ∧ plan.max_steps ≤ kMaxEpochSteps)
    (haccepted : ∀ own ∈ plan.requests, own.Accepted plan.max_steps) {request : Request}
    (hp : ParsesPlan plan kExecute 0 request) (record : IpcMetadata) (out : Outputs) :
    ∃ call, (residentEpochExecute env (some eng) (serverArgs path request record) out).fed = some call := by
  obtain ⟨writes, hwrites⟩ := parsed_writes hplan hb haccepted hp false
  have hid : request.transfer_id = 0 := by
    have hword := hp.transfer_id
    exact UInt64.toNat_inj.1 (show request.transfer_id.toNat = 0 by omega)
  have hargs : checkArgs (serverArgs path request record) = some request.rows := by
    have hcount := hplan.count
    rw [hb] at hcount
    unfold checkArgs serverArgs
    simp only [hp.operation, hp.request_count, hp.max_steps, hid]
    refine if_neg ?_
    simp only [kExecute, kImportExecute, kDeviceIpcExecute]
    norm_num
    exact ⟨List.ne_nil_of_length_pos hcount.1, by omega, hsteps⟩
  have hload : loadImport env eng (serverArgs path request record) request.rows = (eng, .ok .none) := by
    unfold loadImport serverArgs
    simp only [hp.operation]
    rfl
  unfold residentEpochExecute
  have hw : rowWrites ImportSource.none.importing request.rows (serverArgs path request record).max_steps.toInt
      (serverArgs path request record).request_count.toInt = .ok writes := hwrites
  simp only [hargs, hload, hw]
  exact ⟨_, rfl⟩

/-- the server hands a plain plan to the bridge -/
theorem serveRequest_plain (env : BridgeEnv) (path : String) (engine : Option Engine) {incoming : List UInt8}
    {plan : ResidentEpochPlan} (hlength : ¬ incoming.length < CRUISE_SIDECAR_REQUEST_BYTES)
    (hp : ParsesPlan plan kExecute 0 (parseRequest incoming)) :
    ∃ record, (serveRequest env path engine incoming).fed =
      (residentEpochExecute env engine (serverArgs path (parseRequest incoming) record) (emptyResponse 0).outputs).fed := by
  have h1 : ¬ ((parseRequest incoming).magic ≠ kRequestMagic ∨ (parseRequest incoming).version ≠ kProtocolVersion) :=
    not_or.2 ⟨not_not.2 hp.magic, not_not.2 hp.version⟩
  have h2 : ¬ (parseRequest incoming).operation = kShutdown := by
    rw [hp.operation]
    decide
  have h3 : ¬ (parseRequest incoming).operation ∉ [kExecute, kWarmUp, kImportExecute, kDeviceIpcExecute] := by
    rw [hp.operation]
    exact not_not.2 List.mem_cons_self
  have h4 : ¬ ((parseRequest incoming).operation = kDeviceIpcExecute ∧
      (incoming.drop CRUISE_SIDECAR_REQUEST_BYTES).length < CRUISE_RESIDENT_IPC_METADATA_BYTES) := by
    rw [hp.operation]
    exact fun h => absurd h.1 (by decide)
  unfold serveRequest
  rw [if_neg hlength]
  simp only
  rw [if_neg h1, if_neg h2, if_neg h3, if_neg h4]
  exact ⟨_, rfl⟩

/-- **A plan reaches the device.** When nothing goes wrong around it, a plain call of a plan whose requests the bridge
accepts is fed. -/
theorem plain_fed {env : SidecarEnv} (hi : env.Intact) (hengine : env.engine.isSome = true) {plan : ResidentEpochPlan}
    (hplan : plan.validate = .ok ()) (hb : plan.graph_batch_size = 4) (hfits : Fits requestFields (requestWords plan kExecute 0))
    (hsteps : 1 ≤ plan.max_steps ∧ plan.max_steps ≤ kMaxEpochSteps)
    (haccepted : ∀ own ∈ plan.requests, own.Accepted plan.max_steps) :
    ∃ call, (backendExecute (sidecarEngine env) plan none none).fed = some call := by
  have hvalid := (planValidate_ok_iff plan).1 hplan
  obtain ⟨eng, heng⟩ := Option.isSome_iff_exists.1 hengine
  have hpack : structPack requestFields (requestWords plan kExecute 0) =
      some (pack requestFields (requestWords plan kExecute 0)) := if_pos hfits
  have hparse := parse_request hb hpack []
  have hlength : ¬ (pack requestFields (requestWords plan kExecute 0) ++ []).length < CRUISE_SIDECAR_REQUEST_BYTES := by
    rw [List.append_nil, pack_length hfits.length_eq]
    decide
  have hsidecar : (sidecarExecute env plan kExecute 0 none).fed =
      (serveRequest env.bridge env.transfer_path env.engine
        (pack requestFields (requestWords plan kExecute 0) ++ [])).fed := by
    have hsocket : ¬ env.socket = false := by rw [hi.socket]; decide
    have hbatch : ¬ plan.graph_batch_size ≠ GRAPH_BATCH_SIZE := not_not.2 hb
    have hipc : ipcPayload kExecute none = .ok [] := rfl
    unfold sidecarExecute
    rw [if_neg hsocket, if_neg hbatch]
    simp only [hpack, hipc]
    rw [Attempt.andThen_fed, exchange_fed hi]
  have hbackend : (backendExecute (sidecarEngine env) plan none none).fed =
      (sidecarExecute env plan kExecute 0 none).fed := by
    unfold backendExecute
    rw [if_neg (by decide), if_neg (not_not.2 hplan)]
    simp only
    split <;> rfl
  rw [hbackend, hsidecar]
  generalize pack requestFields (requestWords plan kExecute 0) ++ [] = incoming at hparse hlength
  obtain ⟨record, hserved⟩ := serveRequest_plain env.bridge env.transfer_path env.engine hlength hparse
  rw [hserved, heng]
  exact bridge_fed hvalid hb hsteps haccepted hparse record _

/-! ## What reaches it -/

/-- a request that was fed had been packed -/
theorem fed_fits {env : SidecarEnv} {plan : ResidentEpochPlan} {operation transfer_id : Int}
    {ipc_metadata : Option (List UInt8)} {call : FeedCall}
    (hfed : (sidecarExecute env plan operation transfer_id ipc_metadata).fed = some call) :
    Fits requestFields (requestWords plan operation transfer_id) := by
  unfold sidecarExecute structPack at hfed
  split_ifs at hfed with hsocket hbatch hfits
  exact hfits

/-- the operation of each transfer mode -/
def operationFor (snapshot : Option ResidentKVSnapshot) (device_transfer : Option DeviceKVTransfer) : Int :=
  if device_transfer.isSome then kDeviceIpcExecute else if snapshot.isSome then kImportExecute else kExecute

/-- what the client has checked of a snapshot it published -/
structure Published (plan : ResidentEpochPlan) (snapshot : ResidentKVSnapshot) : Prop where
  length : snapshot.row_generations.length = 4
  mask : 0 < snapshot.import_mask ∧ snapshot.import_mask < 16
  planned : snapshot.import_mask = expectedMask plan

/-- the sidecar call behind a backend's call of the engine -/
theorem callEngine_sidecar {env : SidecarEnv} (hi : env.Intact) {plan : ResidentEpochPlan}
    {snapshot : Option ResidentKVSnapshot} {device_transfer : Option DeviceKVTransfer} {call : FeedCall}
    (hfed : (callEngine (sidecarEngine env) plan snapshot device_transfer).fed = some call) :
    (∀ s ∈ snapshot, device_transfer = none → Published plan s) ∧
      ∃ transfer_id ipc_metadata, callEngine (sidecarEngine env) plan snapshot device_transfer =
        sidecarExecute env plan (operationFor snapshot device_transfer) transfer_id ipc_metadata := by
  unfold callEngine at hfed ⊢
  cases device_transfer with
  | some transfer =>
    refine ⟨fun s _ h => (by cases h), ?_⟩
    simp only [sidecarEngine, sidecarExecuteWithDeviceTransfer] at hfed ⊢
    split_ifs at hfed ⊢
    cases hbytes : transfer.wireBytes with
    | none => simp only [hbytes] at hfed; cases hfed
    | some metadata => exact ⟨_, _, rfl⟩
  | none =>
    cases snapshot with
    | none =>
      have hop : operationFor none none = kExecute := rfl
      rw [hop]
      exact ⟨fun s h => (by cases h), 0, none, rfl⟩
    | some snapshot =>
      simp only [sidecarEngine, sidecarExecuteWithImport] at hfed ⊢
      split_ifs at hfed ⊢ with hchecks hwritten hunlink
      · rw [hi.unlink] at hunlink
        cases hunlink
      · refine ⟨fun s hs _ => ?_, _, _, rfl⟩
        cases hs
        obtain ⟨hvalid, hplanned⟩ := not_or.1 hchecks
        have hvalid := not_not.1 hvalid
        unfold ResidentKVSnapshot.validate at hvalid
        simp only [except_bind_ok, refuse_ok] at hvalid
        obtain ⟨-, -, -, hlen, -, -, -, hmask, -⟩ := hvalid
        exact ⟨not_not.1 hlen, by omega, not_not.1 (not_or.1 hplanned).1⟩

theorem importing_of_mask {plan : ResidentEpochPlan} (h : 0 < expectedMask plan) : plan.importing = true := by
  by_contra hnone
  have hfilter : plan.requests.filter (fun request => request.kv_import_required) = [] := by
    rw [List.filter_eq_nil_iff]
    intro request hr himport
    exact hnone (List.any_eq_true.2 ⟨request, hr, himport⟩)
  rw [expectedMask, hfilter] at h
  exact absurd h (by decide)

theorem mask_of_plain {plan : ResidentEpochPlan} (h : plan.importing = false) : expectedMask plan = 0 := by
  have hfilter : plan.requests.filter (fun request => request.kv_import_required) = [] := by
    rw [List.filter_eq_nil_iff]
    intro request hr himport
    exact absurd (List.any_eq_true.2 ⟨request, hr, himport⟩) (by rw [ResidentEpochPlan.importing] at h; rw [h]; decide)
  rw [expectedMask, hfilter]
  rfl

/-- **What reaches the device is the plan.** Without a direct Device transfer, a UDF whose allocations succeed reads the
plan's rows from the tensors of a fed call. -/
theorem feed_carries_plan {env : SidecarEnv} (hi : env.Intact) {plan : ResidentEpochPlan} (hplan : plan.Valid)
    (hb : plan.graph_batch_size = 4) {snapshot : Option ResidentKVSnapshot}
    (hmode : plan.importing = true → snapshot.isSome = true)
    (hfile : ∀ s ∈ snapshot, env.bridge.file env.transfer_path = kvSnapshotFile s) {call : FeedCall}
    (hfed : (callEngine (sidecarEngine env) plan snapshot none).fed = some call) (plat : Platform)
    (ho : plat.alloc_outputs = true) (hs : plat.alloc_slot = true) :
    ∃ inp, readInputs plat (call.inputs.map GeTensor.flowMsg) = some inp ∧ CarriesPlan plan inp := by
  obtain ⟨hpublished, transfer_id, ipc_metadata, hcall⟩ := callEngine_sidecar hi hfed
  rw [hcall] at hfed
  obtain ⟨incoming, hparse, hserved, -⟩ := sidecar_served hi hb hfed
  obtain ⟨eng, eng', args, source, out, hs'⟩ := server_call hparse hserved
  have hsteps := checkArgs_steps hs'.checked
  rw [hs'.max_steps] at hsteps
  obtain ⟨hmask, hdevice⟩ := loadImport_mask hs'.loaded
  have hipc : args.ipc_metadata = none := by
    rw [← Option.not_isSome_iff_eq_none, hs'.ipc_metadata]
    cases snapshot with
    | none => decide
    | some snapshot => exact show ¬ kImportExecute = kDeviceIpcExecute by decide
  have hfaithful := feedCall_faithful eng'.tiling source (parseRequest incoming).rows plan.max_steps hsteps hmask
    fun h => hdevice.1 h hipc
  obtain ⟨inp, hread, hreads⟩ := hfaithful.decoded plat ho hs
  rw [hs'.pushed]
  refine ⟨inp, hread, ?_⟩
  have hsource : source.importing = plan.importing ∧ source.import_mask = (expectedMask plan).toNat := by
    have hloaded := hs'.loaded
    have hpath := hs'.transfer_path
    unfold loadImport at hloaded
    rw [hipc] at hloaded
    cases snapshot with
    | none =>
      have hpath : args.transfer_path = none := hpath
      rw [hpath] at hloaded
      cases hloaded
      have hplain : plan.importing = false := by
        by_contra h
        exact absurd (hmode (by simpa using h)) (by decide)
      rw [hplain, mask_of_plain hplain]
      exact ⟨rfl, rfl⟩
    | some snapshot =>
      have hpath : args.transfer_path = some env.transfer_path := hpath
      have hpub := hpublished snapshot rfl rfl
      rw [hpath] at hloaded
      simp only at hloaded
      cases htransfer : readTransfer env.bridge env.transfer_path args.transfer_id
        (parseRequest incoming).rows.row_generations with
      | none =>
        rw [htransfer] at hloaded
        cases hloaded
      | some transfer =>
        obtain ⟨payload, mask, checksum⟩ := transfer
        rw [htransfer] at hloaded
        cases hloaded
        have hm := (readTransfer_snapshot hpub.length (hfile snapshot rfl) htransfer).1
        have himporting := importing_of_mask (hpub.planned ▸ hpub.mask.1)
        rw [himporting, ← hpub.planned]
        exact ⟨rfl, show mask = snapshot.import_mask.toNat by omega⟩
  rw [hsource.1, hsource.2] at hreads
  exact readsRequest_carries hplan hb hparse hreads

end Cruise.Worker
