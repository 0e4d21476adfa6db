/-
A Host snapshot, from the stock caches to the tokens it leads to.

The worker captures the blocks of the requests a plan imports, publishes them in a file, and the server feeds the file's
payload to the UDF, which copies it into the resident rows. Results:
- `fed_payload`: what the UDF reads of a fed snapshot import is the plan and the snapshot's payload.
- `snapshot_fed`: when nothing goes wrong on its way, a snapshot import reaches the device.
- `stock_blocks`: the blocks it copies are those of the stock caches.
- `host_import_greedy`: an OK epoch of it is delivered, and the tokens of an imported request continue the history whose
  KV rows the stock caches hold.
-/
import Cruise.Controller.Sessions
import Cruise.Worker.DevicePayload
import Cruise.Worker.KvImport
import Cruise.Worker.Outcome

namespace Cruise.Worker

open Cruise.Lib Cruise.Controller Cruise.Native

/-! ## The payload that is fed -/

/-- the payload of an import is the first input -/
theorem readInputs_payload {plat : Platform} {inputs : List (Option FlowMsg)} {inp : Inputs}
    (h : readInputs plat inputs = some inp) (himporting : inp.importing = true) :
    uint8Data (inputs[0]?).join kImportPayloadElements = some inp.payload := by
  unfold readInputs at h
  by_cases hlen : inputs.length ≠ kInputCount
  · rw [if_pos hlen] at h
    cases h
  by_cases ho : plat.alloc_outputs
  · simp only [ho, Bool.not_true, Bool.false_eq_true, if_false, if_neg hlen] at h
    cases hctl : int32Data (inputs[7]?).join kControlInputElements with
    | none =>
      simp only [hctl] at h
      cases h
    | some control =>
      simp only [hctl] at h
      generalize (BitVec.ofInt 32 (control (2 + 4)) &&& kImportGraphFlag != 0) = importing at h
      cases importing with
      | false =>
        simp only [Bool.false_eq_true, if_false] at h
        split at h
        · split at h
          · cases h
            cases himporting
          · cases h
        · cases h
      | true =>
        simp only [if_true] at h
        split at h
        · cases hpayload : uint8Data (inputs[0]?).join kImportPayloadElements with
          | none =>
            rw [hpayload] at h
            split at h
            · rename_i hnone
              cases hnone
            · cases h
          | some payload =>
            rw [hpayload] at h
            split at h
            · rename_i hsome
              cases hsome
              cases h
              rfl
            · cases h
        · cases h
  · simp only [ho, Bool.not_false, if_true, if_neg hlen] at h
    cases h

/-- an import stores no row into its payload's buffer -/
theorem rowLoops_payload (rin : RowInputs) : ∀ w ∈ rowLoops true rin, w.buffer ≠ 0 := by
  have hstore (r : Row) (token position length active : Int) :
      ∀ w ∈ storeRow true r token position length active, w.buffer ≠ 0 := by
    intro w hw
    simp only [storeRow, if_true, List.cons_append, List.nil_append, List.mem_cons, List.not_mem_nil, or_false] at hw
    rcases hw with rfl | rfl | rfl | rfl
    · exact (by decide : tokensAt true ≠ 0)
    · exact (by decide : positionsAt true ≠ 0)
    · exact (by decide : lengthsAt true ≠ 0)
    · exact (by decide : (4 : Fin 7) ≠ 0)
  intro w hw
  rcases List.mem_append.1 hw with hw | hw
  · obtain ⟨r, -, hw⟩ := List.mem_flatMap.1 hw
    rcases List.mem_append.1 hw with hw | hw
    · simp only [List.mem_cons, List.not_mem_nil, or_false] at hw
      rcases hw with rfl | rfl <;> exact (by decide : (5 : Fin 7) ≠ 0)
    · exact hstore r _ _ _ _ w hw
  · obtain ⟨r, -, hw⟩ := List.mem_flatMap.1 hw
    unfold fillRow at hw
    split_ifs at hw
    · cases hw
    · exact hstore r _ _ _ _ w hw

/-- the payload a file import is fed with is the file's -/
theorem feedCall_payload {tiling payload : Mem} {mask checksum : ℕ} {rin : RowInputs} {max_steps : Int} {plat : Platform}
    {inp : Inputs} (himporting : inp.importing = true)
    (h : readInputs plat ((feedCall tiling (.file payload mask checksum) rin max_steps (rowLoops true rin)).inputs.map
      GeTensor.flowMsg) = some inp) : inp.payload = payload := by
  have hread := readInputs_payload h himporting
  have hfirst : uint8Data (makeTensor (bufferBytes (.file payload mask checksum) 0)
      (Function.update (applyWrites (startBuffers (.file payload mask checksum)) (rowLoops true rin)) 6 tiling 0)
      [CRUISE_RESIDENT_IMPORT_PAYLOAD_BYTES] .DT_UINT8).flowMsg kImportPayloadElements = some inp.payload := hread
  rw [uint8Data_make _ _ (by decide), Function.update_of_ne (by decide),
    applyWrites_untouched _ _ (rowLoops_payload rin)] at hfirst
  exact (Option.some.inj hfirst).symm

/-- the bytes the bridge takes out of a snapshot's file; it refuses a checksum of zero -/
theorem readTransfer_published {env : BridgeEnv} {path : String} {transfer_id : UInt64} {gens : Row → Int32} {payload : Mem}
    {mask checksum : ℕ} {snapshot : ResidentKVSnapshot} (hlen : snapshot.row_generations.length = 4)
    (hfile : env.file path = kvSnapshotFile snapshot)
    (h : readTransfer env path transfer_id gens = some (payload, mask, checksum)) :
    payload = snapshot.payload ∧ snapshot.checksum ≠ 0 := by
  unfold readTransfer at h
  rw [hfile] at h
  cases hpublished : kvSnapshotFile snapshot with
  | none =>
    rw [hpublished] at h
    split_ifs at h
  | some file =>
    obtain ⟨bytes, stream⟩ := file
    have hheader : (readTransferHeader stream).checksum = snapshot.checksum := by
      rw [readTransferHeader_published hlen hpublished]
      rfl
    rw [hpublished] at h
    simp only at h
    split_ifs at h with hpath hbad hrow
    simp only [not_or] at hbad
    obtain ⟨-, -, -, -, -, -, -, -, -, -, -, -, -, -, hchecksum⟩ := hbad
    obtain ⟨rfl, -⟩ := Prod.mk.inj (Option.some.inj h)
    exact ⟨funext (file_payload hpublished), hheader ▸ hchecksum⟩

/-- the file an import was loaded from is the snapshot's -/
theorem loadImport_snapshot {env : BridgeEnv} {eng eng' : Engine} {args : Args} {rin : RowInputs} {source : ImportSource}
    {path : String} {snapshot : ResidentKVSnapshot} (hlen : snapshot.row_generations.length = 4)
    (hipc : args.ipc_metadata = none) (hpath : args.transfer_path = some path) (hfile : env.file path = kvSnapshotFile snapshot)
    (h : loadImport env eng args rin = (eng', .ok source)) : snapshot.checksum ≠ 0 ∧
      ∃ mask checksum : ℕ, source = .file snapshot.payload mask checksum ∧ (mask : Int) = snapshot.import_mask := by
  unfold loadImport at h
  rw [hipc, hpath] at h
  dsimp only at h
  cases htransfer : readTransfer env path args.transfer_id rin.row_generations with
  | none =>
    rw [htransfer] at h
    cases h
  | some transfer =>
    obtain ⟨payload, mask, checksum⟩ := transfer
    rw [htransfer] at h
    cases h
    obtain ⟨hmask, -⟩ := readTransfer_snapshot hlen hfile htransfer
    obtain ⟨rfl, hchecksum⟩ := readTransfer_published hlen hfile htransfer
    exact ⟨hchecksum, mask, checksum, rfl, hmask⟩

/-- what the UDF reads of a fed snapshot import -/
structure Imports (plan : ResidentEpochPlan) (snapshot : ResidentKVSnapshot) (inp : Inputs) : Prop where
  carries : CarriesPlan plan inp
  importing : Importing inp
  payload : inp.payload = snapshot.payload
  mask : (inp.import_mask.toNat : Int) = snapshot.import_mask
  checksum : snapshot.checksum ≠ 0

/-- **What reaches the device of a snapshot** is its payload, in the rows of the plan. -/
theorem fed_payload {env : SidecarEnv} (hi : env.Intact) {plan : ResidentEpochPlan} (hplan : plan.Valid)
    (hb : plan.graph_batch_size = 4) {snapshot : ResidentKVSnapshot}
    (hfile : env.bridge.file env.transfer_path = kvSnapshotFile snapshot) {call : FeedCall}
    (hfed : (callEngine (sidecarEngine env) plan (some snapshot) none).fed = some call) {plat : Platform} {inp : Inputs}
    (hread : readInputs plat (call.inputs.map GeTensor.flowMsg) = some inp) : Imports plan snapshot inp := by
  have hread := readInputs_allocated hread
  obtain ⟨hpublished, transfer_id, ipc_metadata, hcall⟩ := callEngine_sidecar hi hfed
  have hpub := hpublished snapshot rfl rfl
  have hgiven : plan.importing = true → (some snapshot).isSome = true := fun _ => rfl
  obtain ⟨inp', hread', hcarries⟩ := feed_carries_plan hi hplan hb hgiven
    (fun s hs => (Option.mem_some_iff.1 hs) ▸ hfile) hfed { plat with alloc_outputs := true, alloc_slot := true } rfl rfl
  obtain rfl : inp = inp' := Option.some.inj (hread.symm.trans hread')
  rw [hcall] at hfed
  obtain ⟨incoming, hparse, hserved, -⟩ := sidecar_served hi hb hfed
  obtain ⟨record, hbridge, -⟩ := serveRequest_fed hserved
  have hmode : (serverArgs env.transfer_path (parseRequest incoming) record).ipc_metadata = none := by
    have hop : (parseRequest incoming).operation = kImportExecute := hparse.operation
    unfold serverArgs
    rw [hop]
    rfl
  obtain ⟨inp', hread', hvalidated⟩ := fed_inputs_validated hbridge
    { plat with alloc_outputs := true, alloc_slot := true } rfl rfl
  obtain rfl : inp = inp' := Option.some.inj (hread.symm.trans hread')
  obtain ⟨eng, eng', args, source, out, hs⟩ := server_call hparse hserved
  have hipc : args.ipc_metadata = none := by
    rw [← Option.not_isSome_iff_eq_none, hs.ipc_metadata]
    exact show ¬kImportExecute = kDeviceIpcExecute by decide
  obtain ⟨hchecksum, mask, checksum, rfl, hmask⟩ := loadImport_snapshot hpub.length hipc hs.transfer_path hfile hs.loaded
  have hsteps := checkArgs_steps hs.checked
  rw [hs.max_steps] at hsteps
  obtain ⟨inp', hread', hreads, -⟩ := feedCall_reads eng'.tiling (.file snapshot.payload mask checksum)
    (parseRequest incoming).rows plan.max_steps hsteps (loadImport_mask hs.loaded).1
    { plat with alloc_outputs := true, alloc_slot := true } rfl rfl
  rw [hs.pushed] at hread
  obtain rfl : inp = inp' := Option.some.inj (hread.symm.trans hread')
  have himporting : inp.importing = true := hreads.importing
  have hword : inp.import_mask.toNat = mask := by
    rw [hreads.import_mask]
    exact Nat.mod_eq_of_lt (lt_trans (loadImport_mask hs.loaded).1 (by decide))
  have hrange := hpub.mask
  refine ⟨hcarries, ⟨hvalidated, himporting, by omega, fun r hr => ?_⟩, feedCall_payload himporting hread, ?_, hchecksum⟩
  · by_cases hrow : ∃ request ∈ plan.requests, request.sitsIn r
    · obtain ⟨request, hrequest, hsits⟩ := hrow
      exact (hcarries.row request hrequest r hsits).active
    · have hempty := hcarries.empty r fun request hrequest hsits => hrow ⟨request, hrequest, hsits⟩
      rw [hempty.2.2.2] at hr
      cases hr
  · rw [hword, hmask]

/-! ## The way in -/

/-- the bridge feeds arguments it takes, with an import it loads and rows it accepts -/
theorem execute_fed {env : BridgeEnv} {eng eng' : Engine} {args : Args} {rin : RowInputs} {source : ImportSource}
    {writes : List (Write (Fin 7))} (hcommit : args.has_commit_state = true) (hargs : checkArgs args = some rin)
    (hload : loadImport env eng args rin = (eng', .ok source))
    (hwrites : rowWrites source.importing rin args.max_steps.toInt args.request_count.toInt = .ok writes) (out : Outputs) :
    ∃ call, (residentEpochExecute env (some eng) args out).fed = some call := by
  unfold residentEpochExecute
  rw [if_neg (by rw [hcommit]; decide)]
  simp only [hargs, hload, hwrites]
  exact ⟨_, rfl⟩

/-- the server hands an import to the bridge -/
theorem serveRequest_import (env : BridgeEnv) (path : String) (engine : Option Engine) {incoming : List UInt8}
    {plan : ResidentEpochPlan} {transfer_id : Int} (hlength : ¬incoming.length < CRUISE_SIDECAR_REQUEST_BYTES)
    (hp : ParsesPlan plan kImportExecute transfer_id (parseRequest incoming)) :
    ∃ record, (serveRequest env path engine incoming).fed =
      (residentEpochExecute env engine (serverArgs path (parseRequest incoming) record) (emptyResponse 0).outputs).fed := by
  have h1 : ¬((parseRequest incoming).magic ≠ kRequestMagic ∨ (parseRequest incoming).version ≠ kProtocolVersion) :=
    not_or.2 ⟨not_not.2 hp.magic, not_not.2 hp.version⟩
  have h2 : ¬(parseRequest incoming).operation = kShutdown := by
    rw [hp.operation]
    decide
  have h3 : ¬(parseRequest incoming).operation ∉ [kExecute, kWarmUp, kImportExecute, kDeviceIpcExecute] := by
    rw [hp.operation]
    decide
  have h4 : ¬((parseRequest incoming).operation = kDeviceIpcExecute ∧
      (incoming.drop CRUISE_SIDECAR_REQUEST_BYTES).length < CRUISE_RESIDENT_IPC_METADATA_BYTES) := by
    rw [hp.operation]
    exact fun h => absurd h.1 (by decide)
  unfold serveRequest
  rw [if_neg hlength]
  dsimp only
  rw [if_neg h1, if_neg h2, if_neg h3, if_neg h4]
  exact ⟨_, rfl⟩

/-- the generations the server reads for the rows of the mask are the snapshot's -/
theorem import_generations {plan : ResidentEpochPlan} (hplan : plan.Valid) (hb : plan.graph_batch_size = 4)
    {snapshot : ResidentKVSnapshot} (hmask : snapshot.import_mask = expectedMask plan)
    (hgens : snapshot.row_generations = expectedGenerations plan) {operation transfer_id : Int} {request : Request}
    (hp : ParsesPlan plan operation transfer_id request) (r : Row) (hr : selected snapshot.import_mask.toNat r = true) :
    (request.rows.row_generations r).toInt = snapshot.row_generations.getD r 0 := by
  have hbits : ∀ (rows : Finset Row) (r : Row), (∑ r ∈ rows, 2 ^ r.val).testBit r = decide (r ∈ rows) := by decide
  have himported : r ∈ plan.importedRows := by
    rw [hmask, expectedMask_eq hplan hb, Int.toNat_natCast] at hr
    exact of_decide_eq_true ((hbits _ r).symm.trans hr)
  obtain ⟨-, own, hown, himport, hsits⟩ := Finset.mem_filter.1 himported
  rw [hp.generation, hgens, atRow_request hplan _ _ hown hsits]
  exact (rowVector_getD hplan (fun request => request.generation) (List.mem_filter.2 ⟨hown, himport⟩) hsits).symm

section Snapshot

variable {env : SidecarEnv} {plan : ResidentEpochPlan} {snapshot : ResidentKVSnapshot}

/-- what the backend sends with a snapshot it can publish is the server's to read -/
theorem snapshot_sent (hi : env.Intact) (hplan : plan.validate = .ok ()) (hb : plan.graph_batch_size = 4)
    (hvalid : snapshot.validate = .ok ()) (hmask : snapshot.import_mask = expectedMask plan)
    (hgens : snapshot.row_generations = expectedGenerations plan) (hpublished : (kvSnapshotFile snapshot).isSome = true)
    (hfits : Fits requestFields (requestWords plan kImportExecute snapshot.transfer_id)) :
    (backendExecute (sidecarEngine env) plan (some snapshot) none).fed = (serveRequest env.bridge env.transfer_path
      env.engine (pack requestFields (requestWords plan kImportExecute snapshot.transfer_id) ++ [])).fed := by
  have hpack : structPack requestFields (requestWords plan kImportExecute snapshot.transfer_id) =
      some (pack requestFields (requestWords plan kImportExecute snapshot.transfer_id)) := if_pos hfits
  have hmatches : ¬(snapshot.validate ≠ .ok () ∨ snapshot.import_mask ≠ expectedMask plan ∨
      snapshot.row_generations ≠ expectedGenerations plan) :=
    not_or.2 ⟨not_not.2 hvalid, not_or.2 ⟨not_not.2 hmask, not_not.2 hgens⟩⟩
  have hwritten : ¬((kvSnapshotFile snapshot).isNone ∨ env.snapshot_write = false) := by
    rw [hi.snapshot_write, Option.isNone_eq_false_iff.2 hpublished]
    decide
  have hunlink : ¬env.unlink = false := by rw [hi.unlink]; decide
  have hcall : callEngine (sidecarEngine env) plan (some snapshot) none =
      sidecarExecute env plan kImportExecute snapshot.transfer_id none :=
    (if_neg hmatches).trans ((if_neg hwritten).trans (if_neg hunlink))
  have hattempt : (backendExecute (sidecarEngine env) plan (some snapshot) none).fed =
      (callEngine (sidecarEngine env) plan (some snapshot) none).fed := by
    unfold backendExecute
    rw [if_neg (by simp), if_neg (not_not.2 hplan)]
    dsimp only
    split <;> rfl
  have hsocket : ¬env.socket = false := by rw [hi.socket]; decide
  have hbatch : ¬plan.graph_batch_size ≠ GRAPH_BATCH_SIZE := not_not.2 hb
  have hipc : ipcPayload kImportExecute none = .ok [] := rfl
  rw [hattempt, hcall]
  unfold sidecarExecute
  rw [if_neg hsocket, if_neg hbatch]
  simp only [hpack, hipc]
  rw [Attempt.andThen_fed, exchange_fed hi]

variable {request : Request} {record : IpcMetadata}

/-- the bridge takes the arguments of an import -/
theorem import_args (hplan : plan.Valid) (hb : plan.graph_batch_size = 4) {transfer_id : Int}
    (hpositive : 0 < transfer_id) (hsteps : 1 ≤ plan.max_steps ∧ plan.max_steps ≤ kMaxEpochSteps)
    (hp : ParsesPlan plan kImportExecute transfer_id request) (path : String) :
    checkArgs (serverArgs path request record) = some request.rows := by
  have hcount := hplan.count
  rw [hb] at hcount
  have hword := hp.transfer_id
  have hne : request.transfer_id ≠ 0 := by
    intro hzero
    rw [hzero] at hword
    have hword : (0 : Int) = transfer_id := hword
    omega
  unfold checkArgs serverArgs
  simp only [hp.operation, hp.request_count, hp.max_steps]
  refine if_neg ?_
  simp only [kImportExecute, kDeviceIpcExecute]
  norm_num
  exact ⟨List.ne_nil_of_length_pos hcount.1, by omega, hsteps.1, hsteps.2, hne⟩

/-- the bridge loads the file the client has published -/
theorem import_loaded (hplan : plan.Valid) (hb : plan.graph_batch_size = 4) (hvalid : snapshot.validate = .ok ())
    (hmask : snapshot.import_mask = expectedMask plan) (hgens : snapshot.row_generations = expectedGenerations plan)
    (hchecksum : snapshot.checksum ≠ 0) (hpath : env.transfer_path.toList.take 9 = "/dev/shm/".toList) {file : ℕ × Mem}
    (hpublished : kvSnapshotFile snapshot = some file) (hfile : env.bridge.file env.transfer_path = some file)
    (hp : ParsesPlan plan kImportExecute snapshot.transfer_id request) (eng : Engine) :
    loadImport env.bridge eng (serverArgs env.transfer_path request record) request.rows =
      (eng, .ok (.file snapshot.payload snapshot.import_mask.toNat snapshot.checksum.toNat)) := by
  obtain ⟨hwf, hsum⟩ := (snapshotValidate_ok_iff snapshot).1 hvalid
  have hpositive := hwf.transfer_id
  have hword := hp.transfer_id
  have hid : request.transfer_id = UInt64.ofNat snapshot.transfer_id.toNat := by
    rw [show snapshot.transfer_id.toNat = request.transfer_id.toNat by omega, UInt64.ofNat_toNat]
  have hbound : snapshot.transfer_id < 2 ^ 64 := by
    have := request.transfer_id.toNat_lt
    omega
  have hread := published_read hwf hbound hsum hpath hpublished hfile (import_generations hplan hb hmask hgens hp)
  rw [if_neg hchecksum, ← hid] at hread
  have hop : request.operation = kImportExecute := hp.operation
  unfold loadImport serverArgs
  rw [hop]
  dsimp only
  rw [if_pos rfl, if_neg (by decide)]
  dsimp only
  rw [hread]

/-- **A snapshot import reaches the device**, when nothing goes wrong around the client, the bridge accepts the requests and
the file is where the server looks for it. -/
theorem snapshot_fed (hi : env.Intact) (hengine : env.engine.isSome = true)
    (hplan : plan.validate = .ok ()) (hb : plan.graph_batch_size = 4)
    (hvalid : snapshot.validate = .ok ()) (hmask : snapshot.import_mask = expectedMask plan)
    (hgens : snapshot.row_generations = expectedGenerations plan) (hchecksum : snapshot.checksum ≠ 0)
    (hpath : env.transfer_path.toList.take 9 = "/dev/shm/".toList) {file : ℕ × Mem}
    (hpublished : kvSnapshotFile snapshot = some file) (hfile : env.bridge.file env.transfer_path = some file)
    (hfits : Fits requestFields (requestWords plan kImportExecute snapshot.transfer_id))
    (hsteps : 1 ≤ plan.max_steps ∧ plan.max_steps ≤ kMaxEpochSteps)
    (haccepted : ∀ own ∈ plan.requests, own.Accepted plan.max_steps) :
    ∃ call, (backendExecute (sidecarEngine env) plan (some snapshot) none).fed = some call := by
  have hplanned := (planValidate_ok_iff plan).1 hplan
  obtain ⟨hwf, -⟩ := (snapshotValidate_ok_iff snapshot).1 hvalid
  obtain ⟨eng, heng⟩ := Option.isSome_iff_exists.1 hengine
  have hpack : structPack requestFields (requestWords plan kImportExecute snapshot.transfer_id) =
      some (pack requestFields (requestWords plan kImportExecute snapshot.transfer_id)) := if_pos hfits
  have hparse := parse_request hb hpack []
  have hlength : ¬(pack requestFields (requestWords plan kImportExecute snapshot.transfer_id) ++ []).length <
      CRUISE_SIDECAR_REQUEST_BYTES := by
    rw [List.append_nil, pack_length hfits.length_eq]
    decide
  rw [snapshot_sent hi hplan hb hvalid hmask hgens (by rw [hpublished]; rfl) hfits]
  generalize pack requestFields (requestWords plan kImportExecute snapshot.transfer_id) ++ [] = incoming at hparse hlength
  obtain ⟨record, hserved⟩ := serveRequest_import env.bridge env.transfer_path env.engine hlength hparse
  obtain ⟨writes, hwrites⟩ := parsed_writes hplanned hb haccepted hparse true
  rw [hserved, heng]
  exact execute_fed rfl (import_args hplanned hb hwf.transfer_id hsteps hparse env.transfer_path)
    (import_loaded hplanned hb hvalid hmask hgens hchecksum hpath hpublished hfile hparse eng) hwrites _

end Snapshot

/-! ## The stock caches -/

/-- the blocks of a row with a request's block of one of the stock caches, which is the row's first -/
def stockBlocks (device : Int → UInt8) (kv_caches : List (KvTensor × KvTensor)) (value : Bool)
    (request : ResidentEpochRequest) : RowBlocks := fun layer b i =>
  if b.val = 0 then
    (kv_caches[layer.val]?).elim 0 fun layer_cache =>
      device ((cacheTensor layer_cache value).data_ptr + request.scheduler_block_ids.headD 0 * BLOCK_BYTES + i.val)
  else 0

section Stock

variable {plan : ResidentEpochPlan} {request : ResidentEpochRequest} {r : Row}

theorem byRowGet_request (hplan : plan.Valid) (hrequest : request ∈ plan.requests)
    (himport : request.kv_import_required = true) (hsits : request.sitsIn r) : byRowGet plan r = some request := by
  have hmem : request ∈ importRequests plan := List.mem_filter.2 ⟨hrequest, himport⟩
  cases hget : byRowGet plan r with
  | none => exact absurd hsits (byRowGet_none hget request hmem)
  | some other =>
    obtain ⟨hother, hrow⟩ := byRowGet_mem hget
    rw [sitsIn_unique hplan (List.mem_of_mem_filter hother) hrequest hrow hsits]

/-- **The blocks that are imported are the stock caches'.** -/
theorem stock_blocks (hplan : plan.Valid) {device : Int → UInt8} {kv_caches : List (KvTensor × KvTensor)} {transfer_id : Int}
    {snapshot : ResidentKVSnapshot} (hcapture : captureKvSnapshot device kv_caches plan transfer_id = some snapshot)
    (hrequest : request ∈ plan.requests) (himport : request.kv_import_required = true) (hsits : request.sitsIn r)
    (value : Bool) : importedBlocks snapshot.payload (if value then kImportCacheElements * 2 else 0) r =
      stockBlocks device kv_caches value request := by
  funext layer b ⟨i, hi⟩
  unfold importedBlocks stockBlocks
  by_cases hb : b.val = 0
  · rw [if_pos hb, if_pos hb]
    have hi : i < 131072 := hi
    have hblock : kBlockBytes = 131072 := rfl
    have hbytes : BLOCK_BYTES = 131072 := rfl
    have hhalf : kImportCacheElements * 2 = 112 * 131072 := rfl
    generalize ha : (if value then kImportCacheElements * 2 else 0) + (layer * 4 + r) * kBlockBytes + i = a
    have hplace : a / BLOCK_BYTES = payloadBlock value layer r ∧ a % BLOCK_BYTES = i := by
      rw [← ha, hblock, hbytes, hhalf]
      unfold payloadBlock
      split_ifs <;> omega
    obtain ⟨layer_cache, hlayer, hbyte⟩ := snapshot_byte hcapture value layer r hplace.1
    rw [hbyte, hlayer, hplace.2]
    unfold capturedBlock
    rw [byRowGet_request hplan hrequest himport hsits]
    rfl
  · rw [if_neg hb, if_neg hb]

end Stock

/-! ## End to end -/

theorem backend_called {engine : NativeEpochEngine} {plan : ResidentEpochPlan} {snapshot : Option ResidentKVSnapshot}
    {device_transfer : Option DeviceKVTransfer} {call : FeedCall}
    (h : (backendExecute engine plan snapshot device_transfer).fed = some call) :
    (callEngine engine plan snapshot device_transfer).fed = some call := by
  unfold backendExecute at h
  split_ifs at h
  dsimp only at h
  split at h <;> exact h

/-- a captured snapshot is valid and of the plan's rows -/
theorem captured_valid {plan : ResidentEpochPlan} {device : Int → UInt8} {kv_caches : List (KvTensor × KvTensor)}
    {transfer_id : Int} {snapshot : ResidentKVSnapshot}
    (h : captureKvSnapshot device kv_caches plan transfer_id = some snapshot) :
    snapshot.validate = .ok () ∧ snapshot.transfer_id = transfer_id ∧ snapshot.import_mask = expectedMask plan ∧
      snapshot.row_generations = expectedGenerations plan := by
  unfold captureKvSnapshot at h
  split_ifs at h
  cases hlayers : kv_caches.mapM (captureLayer device plan) with
  | none =>
    rw [hlayers] at h
    cases h
  | some layers =>
    rw [hlayers] at h
    dsimp only at h
    split_ifs at h with hvalid
    cases h
    exact ⟨hvalid, rfl, rfl, rfl⟩

/-- the checksum an import reports is the snapshot's -/
theorem import_proved {plan : ResidentEpochPlan} {snapshot : ResidentKVSnapshot} (hvalid : snapshot.validate = .ok ())
    {inp : Inputs} (himports : Imports plan snapshot inp) {plat : Platform} {udf : Env} {s : Resident}
    {inputs : List (Option FlowMsg)} {e : Emission} (hread : readInputs plat inputs = some inp)
    (he : (proc plat udf s inputs).emitted = some e) : ImportProved (some snapshot) none e := by
  have hword := import_emitted himports.importing hread he
  have hsum := ((snapshotValidate_ok_iff snapshot).1 hvalid).2
  rw [himports.payload, himports.mask, BitVec.toNat_ofInt] at hword
  have hconfirmed : e.control 5 % 2 ^ 32 = snapshot.checksum := by
    rw [hsum, ← hword]
    exact (Int.toNat_of_nonneg (Int.emod_nonneg _ (by decide))).symm
  refine ⟨fun _ hzero => ?_, fun other hother => ?_⟩
  · rw [hzero] at hconfirmed
    exact himports.checksum hconfirmed.symm
  · rw [← Option.mem_some_iff.1 hother]
    exact hconfirmed

/-- the tokens before the one a request is to decode, and their KV rows in the stock caches -/
structure StockHistory (model : GreedyModel) (device : Int → UInt8) (kv_caches : List (KvTensor × KvTensor))
    (request : ResidentEpochRequest) (history : List Int) : Prop where
  position : request.position = history.length
  holds : model.holds (stockBlocks device kv_caches false request) (stockBlocks device kv_caches true request) history

/-- **A Host import, end to end.** Blocks of the stock caches are captured, published, read and fed, and the UDF runs on what
it reads of them. When it reports OK, the backend returns each request its tokens, with a result that validates; those of an
imported request continue the history that the stock caches hold, and so does its resident row. -/
theorem host_import_greedy (env : SidecarEnv) (plan : ResidentEpochPlan) (device : Int → UInt8)
    (kv_caches : List (KvTensor × KvTensor)) (transfer_id : Int) (snapshot : ResidentKVSnapshot) (call : FeedCall)
    (plat : Platform) (udf : Env) (s : Resident) (e : Emission) (model : GreedyModel) (histories : ReqId → List Int)
    (hplan : plan.validate = .ok ()) (hb : plan.graph_batch_size = 4) (hi : env.Intact)
    (hcapture : captureKvSnapshot device kv_caches plan transfer_id = some snapshot)
    (hfile : env.bridge.file env.transfer_path = kvSnapshotFile snapshot)
    (hfed : (backendExecute (sidecarEngine env) plan (some snapshot) none).fed = some call)
    (hemitted : (proc plat udf s (call.inputs.map GeTensor.flowMsg)).emitted = some e)
    (hfeed : env.bridge.feed call.inputs = 0) (hfetch : env.bridge.fetch call.inputs = (0, udfTensors e))
    (hok : e.control 3 = Status.ok.code) (hgreedy : ∀ n, GreedyDecoder model (udf.run_flow_model n))
    (hstock : ∀ request ∈ plan.requests, request.kv_import_required = true →
      StockHistory model device kv_caches request (histories request.req_id)) :
    ∃ result, (backendExecute (sidecarEngine env) plan (some snapshot) none).result =
        .ok ⟨plan.req_ids, plan.requests.map (requestTokens e), some result⟩ ∧
      result.validateAgainst plan (plan.req_ids.zip (plan.requests.map (requestTokens e))) = .ok () ∧
      ∀ request ∈ plan.requests, request.kv_import_required = true →
        Follows model.next (histories request.req_id ++ [request.token_id]) (requestTokens e request) ∧
        ∀ r, request.sitsIn r →
          model.rowHolds (proc plat udf s (call.inputs.map GeTensor.flowMsg)).resident.keyCache
            (proc plat udf s (call.inputs.map GeTensor.flowMsg)).resident.valueCache r
            (histories request.req_id ++ request.token_id :: requestTokens e request).dropLast := by
  have hvalid := (planValidate_ok_iff plan).1 hplan
  obtain ⟨inp, d, hread, -, hemission, hresident⟩ := proc_emitted hemitted
  have himports := fed_payload hi hvalid hb hfile (backend_called hfed) hread
  have hstatus : (epoch udf inp d).2.1 = .ok := by
    rw [hemission, epoch_status] at hok
    exact (Status.code_eq_zero _).1 hok
  have hrun : epoch udf inp d = ((epoch udf inp d).1, .ok, e) := Prod.ext rfl (Prod.ext hstatus hemission.symm)
  have hproved := import_proved (captured_valid hcapture).1 himports hread hemitted
  obtain ⟨output, -, -, hresult, haccepted⟩ := epoch_answered hplan hb hi (fun _ => Or.inl rfl)
    (fun other hother => Option.mem_some_iff.1 hother ▸ hfile) hfed hfeed hfetch himports.carries hrun hproved
  refine ⟨_, hresult, haccepted, fun request hrequest himport => ?_⟩
  have hhistory := hstock request hrequest himport
  have hrow (r : Row) (hsits : request.sitsIn r) :
      Follows model.next (histories request.req_id ++ [request.token_id]) (requestTokens e request) ∧
        model.rowHolds (epoch udf inp d).1.key (epoch udf inp d).1.value r
          (histories request.req_id ++ request.token_id :: requestTokens e request).dropLast := by
    have hcarried := himports.carries.row request hrequest r hsits
    have hactive : inp.active r ≠ 0 := by
      rw [hcarried.active]
      decide
    have himported : Imported inp r := ⟨himports.importing.importing, hcarried.masked.trans himport⟩
    have hkey : importedBlocks snapshot.payload 0 r = stockBlocks device kv_caches false request :=
      stock_blocks hvalid hcapture hrequest himport hsits false
    have hvalue : importedBlocks snapshot.payload (kImportCacheElements * 2) r = stockBlocks device kv_caches true request :=
      stock_blocks hvalid hcapture hrequest himport hsits true
    have hprimed : Primed model inp d r (histories request.req_id) := by
      refine ⟨hcarried.position.trans hhistory.position, fun hfresh => absurd himported hfresh.2.1, fun _ => ?_,
        fun hnot => absurd himported hnot⟩
      rw [himports.payload, hkey, hvalue]
      exact hhistory.holds
    have hcontinued := epoch_history hgreedy himports.carries.block_table hrun hactive hprimed
    rwa [hcarried.token, ← requestTokens_eq e hsits] at hcontinued
  obtain ⟨r, hsits⟩ := sitsIn_exists hvalid hb hrequest
  refine ⟨(hrow r hsits).1, fun r hsits => ?_⟩
  rw [hresident]
  exact (hrow r hsits).2

/-! ### Row 1 of caches full of ones -/

/-- a block of ones takes the first sum 30 further -/
theorem zlibAdler32_ones {data : Mem} {offset value : ℕ} (h : ∀ k < BLOCK_BYTES, data (offset + k) = 1)
    (hlow : value % 65536 < 60000) (hhigh : value / 65536 < 65521) :
    zlibAdler32 data offset BLOCK_BYTES value % 65536 = value % 65536 + 30 ∧
      zlibAdler32 data offset BLOCK_BYTES value / 65536 < 65521 := by
  have hfirst : (value % 65536 + BLOCK_BYTES * (1 : UInt8).toNat) % 65521 = value % 65536 + 30 := by
    have hlength : BLOCK_BYTES * (1 : UInt8).toNat = 2 * 65521 + 30 := rfl
    rw [hlength, Nat.add_left_comm, Nat.mul_add_mod_self_right]
    exact Nat.mod_eq_of_lt (by omega)
  rw [zlibAdler32_eq, adlerSums_run 1 h (by omega) hhigh, hfirst]
  have hsecond := Nat.mod_lt (value / 65536 + BLOCK_BYTES * (value % 65536) +
    (1 : UInt8).toNat * ((BLOCK_BYTES + 1) * BLOCK_BYTES / 2)) (show 0 < 65521 by decide)
  dsimp only
  omega

/-- the checksum of blocks of ones is not zero: their first sum stays below the modulus -/
theorem ones_checksum {payload : Mem} {import_mask : Int}
    (h : ∀ cache_base ∈ [0, 28 * 4 * BLOCK_BYTES], ∀ layer ∈ List.range 28, ∀ row ∈ List.range 4,
      maskSelects import_mask row = true →
      ∀ k < BLOCK_BYTES, payload (cache_base + (layer * 4 + row) * BLOCK_BYTES + k) = 1) :
    kvPayloadChecksum payload import_mask ≠ 0 := by
  let P (n c : ℕ) : Prop := n ≤ 224 → 1 ≤ c % 65536 ∧ c % 65536 ≤ 1 + 30 * n ∧ c / 65536 < 65521
  have hcount : P (0 + 2 * (28 * (4 * 1))) (kvPayloadChecksum payload import_mask) := by
    refine foldl_counted P [0, 28 * 4 * BLOCK_BYTES] (fun cache_base hbase n c hc => ?_) fun _ => by decide
    refine foldl_counted P (List.range 28) (fun layer hlayer n c hc => ?_) hc
    refine foldl_counted P (List.range 4) (fun row hrow n c hc => ?_) hc
    intro hn
    obtain ⟨hpos, hle, hhigh⟩ := hc (by omega)
    split_ifs with hselected
    · obtain ⟨hlow, hhigh⟩ := zlibAdler32_ones (h cache_base hbase layer hlayer row hrow hselected) (by omega) hhigh
      omega
    · omega
  have hpos := (hcount (by decide)).1
  omega

/-- a total decoder finishes an import of all active rows -/
theorem import_total {decoder : ModelInputs → ModelReply} (ht : Total decoder) {env : Env} (hr : Runs env decoder)
    {inp : Inputs} (h : Importing inp) (hall : ∀ r, inp.active r ≠ 0 → masked inp r = true) (d : Device) :
    ∃ d' e, epoch env inp d = (d', .ok, e) := by
  obtain ⟨l, hl, hphase⟩ := importing_written h d
  have hcontinues (r : Row) (ha : inp.active r ≠ 0) : Continues (importPhase inp d).1.metadata inp r := by
    have hr : r ∈ l := (hl r).2 (hall r ha)
    have hvalid : (overlay inp d l).metadata.valid r = 1 := if_pos hr
    rw [hphase]
    exact ⟨if_pos hr, by rw [hvalid]; exact one_ne_zero, if_pos hr, if_pos hr, if_pos hr⟩
  obtain ⟨ng, hng⟩ := (continuity_iff _ inp).2 fun r ha => Or.inl (hcontinues r ha)
  exact total_prepared ht hr ⟨h.validated, ⟨_, by rw [hphase], rfl⟩, ng, hng, rfl⟩

/-- a client whose server finds this snapshot, and answers with what the UDF emits on what is fed -/
def SidecarEnv.publishing (snapshot : ResidentKVSnapshot) : SidecarEnv where
  bridge := { BridgeEnv.plain with
    file := fun _ => kvSnapshotFile snapshot
    fetch := fun inputs => (0, (proc .granted .echo init (inputs.map GeTensor.flowMsg)).emitted.elim [] udfTensors) }
  engine := some .plain
  faults := ⟨none, true⟩
  transfer_path := "/dev/shm/transfer"
  socket := true
  send_fault := none
  recv_fault := false
  snapshot_write := true
  unlink := true

theorem publishing_intact (snapshot : ResidentKVSnapshot) : (SidecarEnv.publishing snapshot).Intact :=
  ⟨rfl, rfl, rfl, rfl, rfl, rfl, rfl⟩

/-- four steps of the row after its import -/
def onesPlan : ResidentEpochPlan := { poolPlan with max_steps := 4 }

/-- a device on which every byte is one -/
def onesDevice (_ : Int) : UInt8 := 1

theorem onesPlan_valid : onesPlan.validate = .ok () := by decide

theorem ones_snapshot : ∃ snapshot, captureKvSnapshot onesDevice poolCaches onesPlan 1 = some snapshot := by
  have htable : (getDeviceKvExports poolRange poolKey none poolCaches).isSome = true := by decide +kernel
  obtain ⟨table, htable⟩ := Option.isSome_iff_exists.1 htable
  have hcaches : StockCaches poolCaches := by
    refine ⟨by decide, fun layer_cache hmem => ?_⟩
    obtain ⟨layer, -, rfl⟩ := List.mem_map.1 hmem
    exact ⟨rfl, rfl⟩
  have hplan : ImportPlan poolCaches onesPlan := by
    refine ⟨(planValidate_ok_iff onesPlan).1 onesPlan_valid, rfl, by decide, by decide, fun request hmem => ?_⟩
    obtain rfl := List.mem_singleton.1 hmem
    refine ⟨6, rfl, by decide, fun layer_cache hmem => ?_⟩
    obtain ⟨layer, -, rfl⟩ := List.mem_map.1 hmem
    exact show (6 : Int) < 8 by decide
  exact snapshot_exists onesDevice hcaches hplan htable (by decide)

/-- the blocks that are captured of the request -/
theorem stockBlocks_ones {request : ResidentEpochRequest} (value : Bool) (layer : Fin 28) (i : Fin kBlockBytes) :
    stockBlocks onesDevice poolCaches value request layer 0 i = 1 := by
  have hlayer : layer.val < poolCaches.length := layer.isLt
  refine (if_pos (rfl : (0 : Fin 2).val = 0)).trans ?_
  rw [List.getElem?_eq_getElem hlayer]
  rfl

theorem captured_checksum {snapshot : ResidentKVSnapshot}
    (h : captureKvSnapshot onesDevice poolCaches onesPlan 1 = some snapshot) :
    kvPayloadChecksum snapshot.payload snapshot.import_mask ≠ 0 := by
  have hvalid := (planValidate_ok_iff onesPlan).1 onesPlan_valid
  obtain ⟨-, -, hmask, -⟩ := captured_valid h
  refine ones_checksum fun cache_base hbase layer hlayer row hrow hselected k hk => ?_
  have hrow1 : row = 1 := by
    rw [hmask] at hselected
    have hall : ∀ row ∈ List.range 4, maskSelects (expectedMask onesPlan) row = true → row = 1 := by decide
    exact hall row hrow hselected
  subst hrow1
  have hlt := List.mem_range.1 hlayer
  have hstock (value : Bool) := stock_blocks (r := 1) hvalid h (List.mem_singleton_self _) rfl rfl value
  have hbyte (value : Bool) := congrFun (congrFun (congrFun (hstock value) ⟨layer, hlt⟩) 0) ⟨k, hk⟩
  rcases List.mem_cons.1 hbase with rfl | hbase
  · exact (hbyte false).trans (stockBlocks_ones false _ _)
  · obtain rfl := List.mem_singleton.1 hbase
    exact (hbyte true).trans (stockBlocks_ones true _ _)

theorem ones_fed {snapshot : ResidentKVSnapshot} (h : captureKvSnapshot onesDevice poolCaches onesPlan 1 = some snapshot) :
    ∃ call, (backendExecute (sidecarEngine (.publishing snapshot)) onesPlan (some snapshot) none).fed = some call := by
  obtain ⟨hvalid, hid, hmask, hgens⟩ := captured_valid h
  obtain ⟨hwf, hsum⟩ := (snapshotValidate_ok_iff snapshot).1 hvalid
  have hchecksum : snapshot.checksum ≠ 0 := by
    rw [hsum]
    exact Int.natCast_ne_zero.2 (captured_checksum h)
  have hfits : Fits transferHeaderFields snapshot.header := by
    refine header_fits hwf (by rw [hid]; decide) (fun generation hmem => ?_) hsum
    rw [hgens] at hmem
    have hall : ∀ generation ∈ expectedGenerations onesPlan, generation < 2 ^ 31 := by decide
    exact hall generation hmem
  have hfile : ∃ file, kvSnapshotFile snapshot = some file := by
    unfold kvSnapshotFile structPack
    rw [if_pos hfits]
    exact ⟨_, rfl⟩
  obtain ⟨file, hfile⟩ := hfile
  have hpath : "/dev/shm/transfer".toList.take 9 = "/dev/shm/".toList := by decide
  refine snapshot_fed (publishing_intact snapshot) rfl onesPlan_valid rfl hvalid hmask hgens hchecksum hpath hfile hfile ?_
    (by decide) fun own hmem => ?_
  · rw [hid]
    exact (by decide : Fits requestFields (requestWords onesPlan kImportExecute 1))
  · obtain rfl := List.mem_singleton.1 hmem
    exact ⟨by decide, by decide, by decide⟩

/-- the stock caches hold a history of ones, which the tokens echo, though the request is at token 11 -/
theorem host_import_greedy_ones : ∃ snapshot call e result,
    captureKvSnapshot onesDevice poolCaches onesPlan 1 = some snapshot ∧
    (backendExecute (sidecarEngine (.publishing snapshot)) onesPlan (some snapshot) none).fed = some call ∧
    (backendExecute (sidecarEngine (.publishing snapshot)) onesPlan (some snapshot) none).result =
      .ok ⟨onesPlan.req_ids, onesPlan.requests.map (requestTokens e), some result⟩ ∧
    e.executed 1 = 4 ∧ e.tokens 1 = [1, 1, 1, 1] := by
  obtain ⟨snapshot, hcapture⟩ := ones_snapshot
  obtain ⟨call, hfed⟩ := ones_fed hcapture
  have hvalid := (planValidate_ok_iff onesPlan).1 onesPlan_valid
  have hcalled := backend_called hfed
  obtain ⟨inp, hread, hcarries⟩ := feed_carries_plan (publishing_intact snapshot) hvalid rfl (fun _ => rfl)
    (fun s hs => Option.mem_some_iff.1 hs ▸ rfl) hcalled .granted rfl rfl
  have himports := fed_payload (publishing_intact snapshot) hvalid rfl rfl hcalled hread
  have hrow := hcarries.row _ (List.mem_singleton_self _) 1 rfl
  have hall : ∀ r, inp.active r ≠ 0 → masked inp r = true := by
    intro r hactive
    by_cases hrow : ∃ request ∈ onesPlan.requests, request.sitsIn r
    · obtain ⟨request, hmem, hsits⟩ := hrow
      rw [(hcarries.row request hmem r hsits).masked]
      obtain rfl := List.mem_singleton.1 hmem
      rfl
    · exact absurd (hcarries.empty r fun request hmem hsits => hrow ⟨request, hmem, hsits⟩).1 hactive
  obtain ⟨d, halloc⟩ : ∃ d, allocResident .granted init = .ok d := ⟨_, rfl⟩
  obtain ⟨d', e, hepoch⟩ := import_total echo_total echo_runs himports.importing hall d
  have hemitted : (proc .granted .echo init (call.inputs.map GeTensor.flowMsg)).emitted = some e :=
    proc_emits hread halloc hepoch fun _ => rfl
  have hok : e.control 3 = Status.ok.code := by
    have h := epoch_status .echo inp d
    rwa [hepoch] at h
  have hfetch : (SidecarEnv.publishing snapshot).bridge.fetch call.inputs = (0, udfTensors e) := by
    show (0, (proc .granted .echo init (call.inputs.map GeTensor.flowMsg)).emitted.elim [] udfTensors) = _
    rw [hemitted]
    rfl
  have hstock : ∀ request ∈ onesPlan.requests, request.kv_import_required = true →
      StockHistory .echo onesDevice poolCaches request [1, 1, 1] := by
    intro request hmem _
    obtain rfl := List.mem_singleton.1 hmem
    refine ⟨rfl, fun p token hp => ?_⟩
    have hone : ∀ token ∈ ([1, 1, 1] : List Int), tokenByte token = 1 := by decide
    rw [hone token (List.mem_of_getElem? hp)]
    exact stockBlocks_ones false 0 (kvRow p)
  obtain ⟨result, hresult, -, hfollows⟩ := host_import_greedy (.publishing snapshot) onesPlan onesDevice poolCaches 1 snapshot
    call .granted .echo init e .echo (fun _ => [1, 1, 1]) onesPlan_valid rfl (publishing_intact snapshot) hcapture rfl hfed
    hemitted rfl hfetch hok (fun _ => echo_greedy) hstock
  have htokens : e.tokens 1 = List.replicate (e.tokens 1).length 1 :=
    echo_follows (hfollows _ (List.mem_singleton.2 rfl) rfl).1
  have hresult1 := epoch_row hepoch (r := 1) (by rw [hrow.active]; decide)
  have hexecuted : e.executed 1 = 4 := by
    obtain ⟨-, hmax⟩ := hresult1.executed
    have hsteps : inp.max_steps = 4 := hcarries.max_steps
    by_contra hshort
    have heos := List.mem_of_getLast? (hresult1.short (by omega))
    rw [htokens, hrow.eos] at heos
    exact absurd (List.eq_of_mem_replicate heos) (by decide : (9 : Int) ≠ 1)
  rw [e.tokens_length, hexecuted] at htokens
  exact ⟨snapshot, call, e, result, hcapture, hfed, hresult, hexecuted, htokens⟩

end Cruise.Worker
