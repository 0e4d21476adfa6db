/-
The direct Device import against the Host snapshot: the same plan, captured both ways, gives the same payload.

- `staged_byte`: a byte the bridge copies out of an imported allocation is the byte of the cache at the block's address.
- `device_payload_eq_snapshot`: so the staging buffer holds the snapshot's payload.
What is assumed of the ACL is `ImportYieldsBase`: an exported key is a C string, and importing it yields the base of its
allocation. What earlier transfers left behind is whatever a run of them can leave (`TableReached`, `EngineReached`).
-/
import Cruise.Worker.DeviceCapture
import Cruise.Worker.TransferFile

namespace Cruise.Worker

open Cruise.Lib Cruise.Controller Cruise.Native

section Payload

variable {Exported : String → Int → Int → Prop} {Yields : List UInt8 → ℕ → Prop} {device : Int → UInt8}

/-- importing an exported key yields the base of the allocation it was exported for -/
structure ImportYieldsBase (Exported : String → Int → Int → Prop) (Yields : List UInt8 → ℕ → Prop)
    (device : Int → UInt8) (env : BridgeEnv) : Prop where
  cstring : ∀ key base size, Exported key base size → 0 ∉ encodedKey key
  memory : ∀ key base size, Exported key base size → ∀ pointer, Yields (encodedKey key) pointer →
    ∀ a : ℕ, (a : Int) < size → env.ipc_memory pointer a = device (base + a)

/-- the engines that transfers leave, whatever they were and however they ended -/
inductive EngineReached (Yields : List UInt8 → ℕ → Prop) : Engine → Prop
  | fresh (tiling : Mem) : EngineReached Yields ⟨tiling, none, []⟩
  | prepared {engine : Engine} {env : BridgeEnv} (m : IpcMetadata) : EngineReached Yields engine →
      env.ImportsBy Yields → EngineReached Yields (prepareDeviceIpcPayload env engine m).1

theorem EngineReached.importsFrom {engine : Engine} (h : EngineReached Yields engine) : engine.ImportsFrom Yields := by
  induction h with
  | fresh tiling =>
    intro entry hentry
    cases hentry
  | prepared m _ henv ih => exact prepare_keeps_imports henv ih

/-! ## The captured snapshot -/

/-- the stock caches: 28 layers of blocks -/
structure StockCaches (kv_caches : List (KvTensor × KvTensor)) : Prop where
  layers : kv_caches.length = LAYERS
  shape : ∀ layer_cache ∈ kv_caches, layer_cache.1.shape.tail = BLOCK_SHAPE ∧ layer_cache.2.shape.tail = BLOCK_SHAPE

/-- an import plan with one scheduler block a row, inside the caches -/
structure ImportPlan (kv_caches : List (KvTensor × KvTensor)) (plan : ResidentEpochPlan) : Prop where
  valid : plan.Valid
  batch : plan.graph_batch_size = 4
  capacity : plan.logical_capacity ≤ BLOCK_SIZE
  importing : plan.importing = true
  block : ∀ request ∈ importRequests plan, ∃ block_id, request.scheduler_block_ids = [block_id] ∧ 0 ≤ block_id ∧
    ∀ layer_cache ∈ kv_caches, block_id < layer_cache.1.shape.headD 0

theorem view_blocks {tensor : KvTensor} (h : tensor.shape.tail = BLOCK_SHAPE) :
    tensor.view_bytes = tensor.shape.headD 0 * BLOCK_BYTES := by
  have hbytes : BLOCK_BYTES = 65536 * ELEMENT_BYTES := rfl
  have hprod : BLOCK_SHAPE.prod = 65536 := rfl
  unfold KvTensor.view_bytes
  generalize tensor.shape = shape at h ⊢
  cases shape with
  | nil => cases h
  | cons blocks rest =>
    have h : rest = BLOCK_SHAPE := h
    rw [List.prod_cons, h, hprod, hbytes]
    push_cast
    exact mul_assoc _ _ _

theorem exported_dtype {address_range : Int → Option (Int × Int)} {kv_caches : List (KvTensor × KvTensor)}
    {signature : List Signature} (h : (cacheTensors kv_caches).mapM (cacheSignature address_range) = some signature)
    {tensor : KvTensor} (htensor : tensor ∈ cacheTensors kv_caches) :
    ∃ entry ∈ signature, tensor.is_bfloat16 = true ∧ entry.view_bytes = tensor.view_bytes := by
  obtain ⟨i, hi⟩ := List.mem_iff_getElem?.1 htensor
  obtain ⟨entry, hentry, hsignature⟩ := forall₂_getElem? (mapM_some h) hi
  obtain ⟨hdtype, hview, -⟩ := signature_tensor hsignature
  exact ⟨entry, List.mem_of_getElem? hentry, hdtype, hview⟩

theorem mem_cacheTensors {kv_caches : List (KvTensor × KvTensor)} {layer_cache : KvTensor × KvTensor}
    (h : layer_cache ∈ kv_caches) : layer_cache.1 ∈ cacheTensors kv_caches ∧ layer_cache.2 ∈ cacheTensors kv_caches :=
  ⟨List.mem_flatMap.2 ⟨layer_cache, h, List.mem_cons_self⟩,
    List.mem_flatMap.2 ⟨layer_cache, h, List.mem_cons_of_mem _ List.mem_cons_self⟩⟩

section Snapshot

variable {kv_caches : List (KvTensor × KvTensor)} {plan : ResidentEpochPlan}

/-- the mask's bit and the generation of a row agree -/
theorem expected_agree (hplan : plan.Valid) (hb : plan.graph_batch_size = 4) (r : Row) :
    maskSelects (expectedMask plan) r = decide (0 < (expectedGenerations plan).getD r 0) := by
  have hbits : ∀ (rows : Finset Row) (r : Row), (∑ r ∈ rows, 2 ^ r.val).testBit r = decide (r ∈ rows) := by decide
  rw [expectedMask_eq hplan hb, maskSelects, Int.toNat_natCast, hbits]
  cases hrequest : byRowGet plan r with
  | none =>
    have hnone := byRowGet_none hrequest
    have hout : r ∉ plan.importedRows := by
      intro hmem
      obtain ⟨-, request, hr, himport, hrow⟩ := Finset.mem_filter.1 hmem
      exact hnone request (List.mem_filter.2 ⟨hr, himport⟩) hrow
    have hzero : (expectedGenerations plan).getD r 0 = 0 := by
      have hfind : ((importRequests plan).find? fun other => other.row.toNat = r.val) = none := by
        rw [List.find?_eq_none]
        intro other hother hrow
        have h0 := (hplan.row other (List.mem_of_mem_filter hother)).1
        rw [decide_eq_true_eq] at hrow
        exact hnone other hother (by omega)
      have hget := foldl_set_getElem? (fun request : ResidentEpochRequest => request.row.toNat)
        (fun request => request.generation) _ (importRows_nodup hplan) (List.replicate GRAPH_BATCH_SIZE 0) r r.isLt
      rw [hfind] at hget
      have hget : (expectedGenerations plan)[r.val]? = (List.replicate GRAPH_BATCH_SIZE (0 : Int))[r.val]? := hget
      rw [List.getD_eq_getElem?_getD, hget, List.getElem?_replicate]
      exact congrArg (fun o => Option.getD o 0) (if_pos r.isLt)
    rw [hzero, decide_eq_false hout]
    rfl
  | some request =>
    obtain ⟨hmem, hrow⟩ := byRowGet_mem hrequest
    obtain ⟨hr, himport⟩ := List.mem_filter.1 hmem
    have hin : r ∈ plan.importedRows := Finset.mem_filter.2 ⟨Finset.mem_univ r, request, hr, himport, hrow⟩
    have hgeneration : (expectedGenerations plan).getD r 0 = request.generation :=
      rowVector_getD hplan (fun request => request.generation) hmem hrow
    rw [hgeneration, decide_eq_true hin, decide_eq_true (hplan.positive request hr)]

theorem importRequests_ne_nil (h : plan.importing = true) : ∃ request, request ∈ importRequests plan := by
  obtain ⟨request, hr, himport⟩ := List.any_eq_true.1 h
  exact ⟨request, List.mem_filter.2 ⟨hr, himport⟩⟩

theorem expectedMask_range (h : plan.Valid) (hb : plan.graph_batch_size = 4) (himport : plan.importing = true) :
    0 < expectedMask plan ∧ expectedMask plan < 16 := by
  have hrange : ∀ rows : Finset Row, (∑ r ∈ rows, 2 ^ r.val) < 16 ∧ (rows.Nonempty → 0 < ∑ r ∈ rows, 2 ^ r.val) := by decide
  obtain ⟨request, hmem⟩ := importRequests_ne_nil himport
  obtain ⟨hr, hflag⟩ := List.mem_filter.1 hmem
  obtain ⟨r, hrow⟩ := sitsIn_exists h hb hr
  have hne : plan.importedRows.Nonempty := ⟨r, Finset.mem_filter.2 ⟨Finset.mem_univ r, request, hr, hflag, hrow⟩⟩
  have hlt := (hrange plan.importedRows).1
  have hpos := (hrange plan.importedRows).2 hne
  rw [expectedMask_eq h hb]
  omega

theorem captureRow_exists (device : Int → UInt8) (hplan : ImportPlan kv_caches plan) {layer_cache : KvTensor × KvTensor}
    (hmem : layer_cache ∈ kv_caches) (hshape : layer_cache.1.shape.tail = BLOCK_SHAPE ∧ layer_cache.2.shape.tail = BLOCK_SHAPE)
    (hblocks : layer_cache.2.shape.headD 0 = layer_cache.1.shape.headD 0) (row : ℕ) :
    ∃ blocks, captureRow device plan layer_cache row = some blocks := by
  unfold captureRow
  cases hrequest : byRowGet plan row with
  | none => exact ⟨_, rfl⟩
  | some request =>
    obtain ⟨block_id, hids, h0, hlt⟩ := hplan.block request (byRowGet_mem hrequest).1
    have hlt := hlt layer_cache hmem
    have hlen : ¬ request.scheduler_block_ids.length ≠ 1 := by
      rw [hids]
      exact not_not.2 rfl
    have hhead : request.scheduler_block_ids.headD 0 = block_id := by rw [hids]; rfl
    simp only [KvTensor.block]
    rw [if_neg hlen, hhead, if_neg (by omega), if_pos hlt, if_pos (by rw [hblocks]; exact hlt)]
    simp only
    rw [if_neg (by simp [hshape.1, hshape.2])]
    exact ⟨_, rfl⟩

/-- **The snapshot of an import plan is captured** from caches that can be exported. -/
theorem snapshot_exists (device : Int → UInt8) {address_range : Int → Option (Int × Int)}
    {get_export_key : Int → Int → Option String} {current : Option DeviceKVExportTable} {table : DeviceKVExportTable}
    (hcaches : StockCaches kv_caches) (hplan : ImportPlan kv_caches plan)
    (hexports : getDeviceKvExports address_range get_export_key current kv_caches = some table) {snapshot_id : Int}
    (hid : 0 < snapshot_id) : ∃ snapshot, captureKvSnapshot device kv_caches plan snapshot_id = some snapshot := by
  obtain ⟨hsignature, ⟨view_bytes, hviews⟩, -⟩ := exports_table hexports
  have htensor (tensor : KvTensor) (h : tensor ∈ cacheTensors kv_caches) :
      tensor.is_bfloat16 = true ∧ tensor.view_bytes = view_bytes := by
    obtain ⟨entry, hentry, hdtype, hview⟩ := exported_dtype hsignature h
    exact ⟨hdtype, hview.symm.trans (hviews entry hentry)⟩
  have hlayer : ∀ layer_cache ∈ kv_caches, ∃ blocks, captureLayer device plan layer_cache = some blocks := by
    intro layer_cache hmem
    obtain ⟨hkey, hvalue⟩ := mem_cacheTensors hmem
    obtain ⟨hshape, hshape'⟩ := hcaches.shape layer_cache hmem
    have hsame : layer_cache.2.view_bytes = layer_cache.1.view_bytes :=
      (htensor _ hvalue).2.trans (htensor _ hkey).2.symm
    rw [view_blocks hshape, view_blocks hshape'] at hsame
    have hblocks : layer_cache.2.shape.headD 0 = layer_cache.1.shape.headD 0 := by
      have hpos : (BLOCK_BYTES : Int) ≠ 0 := by decide
      exact_mod_cast mul_right_cancel₀ hpos hsame
    unfold captureLayer
    rw [if_neg (by simp [(htensor _ hkey).1, (htensor _ hvalue).1])]
    exact mapM_exists fun row _ => captureRow_exists device hplan hmem ⟨hshape, hshape'⟩ hblocks row
  obtain ⟨layers, hlayers⟩ := mapM_exists hlayer
  obtain ⟨request, hrequest⟩ := importRequests_ne_nil hplan.importing
  have hguard : ¬ (importRequests plan = [] ∨ plan.logical_capacity > BLOCK_SIZE ∨ kv_caches.length ≠ LAYERS) := by
    rintro (hnil | hcapacity | hlength)
    · rw [hnil] at hrequest
      cases hrequest
    · exact absurd hplan.capacity (not_le.2 hcapacity)
    · exact hlength hcaches.layers
  unfold captureKvSnapshot
  rw [if_neg hguard, hlayers]
  simp only
  rw [if_pos]
  · exact ⟨_, rfl⟩
  · refine (snapshotValidate_ok_iff _).2 ⟨⟨hid, ?_, ?_, ?_, ?_, rfl⟩, rfl⟩
    · exact (foldl_set_length (fun request : ResidentEpochRequest => request.row.toNat) _ _ _).trans List.length_replicate
    · intro generation hgeneration
      rcases foldl_set_mem (fun request : ResidentEpochRequest => request.row.toNat) (fun request => request.generation) _ _
        hgeneration with h | ⟨request, hr, rfl⟩
      · rw [(List.mem_replicate.1 h).2]
      · exact (hplan.valid.positive request (List.mem_of_mem_filter hr)).le
    · exact expectedMask_range hplan.valid hplan.batch hplan.importing
    · intro row hrow
      exact expected_agree hplan.valid hplan.batch ⟨row, List.mem_range.1 hrow⟩

end Snapshot

/-! ## The captured transfer -/

variable {address_range : Int → Option (Int × Int)} {get_export_key : Int → Int → Option String}
  {current : Option DeviceKVExportTable} {kv_caches : List (KvTensor × KvTensor)} {plan : ResidentEpochPlan}
  {transfer_id : Int} {transfer : DeviceKVTransfer}

theorem captured_transfer
    (h : captureKvDeviceTransfer address_range get_export_key current kv_caches plan transfer_id = some transfer) :
    ∃ table, getDeviceKvExports address_range get_export_key current kv_caches = some table ∧
      transfer.import_mask = importMask (importRequests plan) ∧
      transfer.block_ids = (importRequests plan).foldl (fun values request =>
        values.set request.row.toNat (request.scheduler_block_ids.headD 0)) (List.replicate GRAPH_BATCH_SIZE 0) ∧
      transfer.source_bytes = table.source_bytes ∧ transfer.source_offsets = table.source_offsets ∧
      transfer.keys = table.keys := by
  unfold captureKvDeviceTransfer at h
  cases htable : getDeviceKvExports address_range get_export_key current kv_caches with
  | none =>
    simp only [htable] at h
    split_ifs at h
  | some table =>
    simp only [htable] at h
    split_ifs at h
    cases h
    exact ⟨table, rfl, rfl, rfl, rfl, rfl, rfl⟩

/-- the mask selects the imported rows -/
theorem importMask_selected (hplan : plan.Valid) (r : Row) :
    selected (importMask (importRequests plan)) r = (byRowGet plan r).isSome := by
  rw [selected, importMask_testBit]
  cases hrequest : byRowGet plan r with
  | none =>
    rw [Option.isSome_none, decide_eq_false_iff_not]
    rintro ⟨request, hmem, hrow⟩
    have h0 := (hplan.row request (List.mem_of_mem_filter hmem)).1
    exact byRowGet_none hrequest request hmem (by omega)
  | some request =>
    rw [Option.isSome_some, decide_eq_true_eq]
    obtain ⟨hmem, hrow⟩ := byRowGet_mem hrequest
    exact ⟨request, hmem, by omega⟩

/-! ## Bytes -/

variable {env : BridgeEnv} {bytes : List UInt8} {sources : Fin 28 → ℕ × ℕ}

/-- **A staged byte.** The block of an imported row lies at the cache's own address. -/
theorem staged_byte (hplan : plan.Valid) (hcurrent : TableReached Exported current)
    (hexport : ∀ base size key, get_export_key base size = some key → Exported key base size)
    (hbase : ImportYieldsBase Exported Yields device env)
    (htransfer : captureKvDeviceTransfer address_range get_export_key current kv_caches plan transfer_id = some transfer)
    (hbytes : transfer.wireBytes = some bytes)
    (hsources : SourcesOf Yields (parseIpcMetadata bytes) sources (List.finRange 28)) {layer : Fin 28}
    {layer_cache : KvTensor × KvTensor} (hcache : kv_caches[layer.val]? = some layer_cache) (value : Bool) {r : Row}
    {request : ResidentEpochRequest} (hrequest : byRowGet plan r = some request) {k : ℕ} (hk : k < BLOCK_BYTES) :
    (blockCopy env (parseIpcMetadata bytes) sources value layer r).source
        ((blockCopy env (parseIpcMetadata bytes) sources value layer r).origin + k) =
      device ((cacheTensor layer_cache value).data_ptr + request.scheduler_block_ids.headD 0 * BLOCK_BYTES + k) := by
  obtain ⟨table, htable, hmask, hblocks, hsize, hoffsets, hkeys⟩ := captured_transfer htransfer
  obtain ⟨entry, key, hsignature, hkey, hexported, hallocation, hoffset⟩ :=
    exports_hold hcurrent hexport htable hcache value
  obtain ⟨-, -, hentry, -, -⟩ := signature_tensor hsignature
  obtain ⟨hvalid, -, -, -⟩ := wire_parts hbytes
  obtain ⟨hmem, hrow⟩ := byRowGet_mem hrequest
  rw [← hkeys] at hkey
  rw [← hsize] at hexported
  have hm := metadata_parsed hbytes
  -- the pointer is an import of the exported key
  have hread := (key_read_iff hbytes hkey).2 (hbase.cstring _ _ _ hexported)
  have hpointer : Yields (encodedKey key) (if value then (sources layer).2 else (sources layer).1) := by
    rw [← hread]
    cases value with
    | false => exact (hsources layer (List.mem_finRange layer)).1
    | true => exact (hsources layer (List.mem_finRange layer)).2
  -- the block lies in the allocation
  have hblock : transfer.block_ids.getD r 0 = request.scheduler_block_ids.headD 0 := by
    rw [hblocks]
    exact rowVector_getD hplan (fun request => request.scheduler_block_ids.headD 0) hmem hrow
  have hselected : maskSelects transfer.import_mask r = true := by
    rw [hmask]
    exact (importMask_selected hplan r).trans (by rw [hrequest]; rfl)
  have hindex : (cacheIndex layer value).val < transfer.source_offsets.length := by
    rw [hvalid.offsets]
    exact (cacheIndex layer value).isLt
  obtain ⟨-, hblock0, hroom⟩ := hvalid.selected r hselected
  obtain ⟨hoffset0, hend⟩ := hroom _ (getD_mem hindex 0)
  have horigin : ((ipcOrigin (parseIpcMetadata bytes) (cacheIndex layer value) r : ℕ) : Int) =
      transfer.source_offsets.getD (cacheIndex layer value) 0 + transfer.block_ids.getD r 0 * BLOCK_BYTES := by
    have hbytes : CRUISE_RESIDENT_KV_BLOCK_BYTES = BLOCK_BYTES := rfl
    rw [← hm.block_ids] at hblock0
    rw [ipcOrigin, Nat.cast_add, Nat.cast_mul, hm.source_offsets, Int.toNat_of_nonneg hblock0, hm.block_ids, hbytes]
  have hinside : ((ipcOrigin (parseIpcMetadata bytes) (cacheIndex layer value) r + k : ℕ) : Int) < transfer.source_bytes := by
    have hsplit : (transfer.block_ids.getD r 0 + 1) * (BLOCK_BYTES : Int) =
        transfer.block_ids.getD r 0 * BLOCK_BYTES + BLOCK_BYTES := by ring
    rw [Nat.cast_add, horigin]
    omega
  refine (hbase.memory _ _ _ hexported _ hpointer _ hinside).trans (congrArg device ?_)
  rw [Nat.cast_add, horigin, hoffsets, hoffset, hentry, hblock]
  ring

/-- **The staging buffer holds the snapshot's payload.** -/
theorem staged_payload {engine engine' : Engine} {payload : Mem} {snapshot : ResidentKVSnapshot} {snapshot_id : Int}
    (hplan : plan.Valid) (hcurrent : TableReached Exported current)
    (hexport : ∀ base size key, get_export_key base size = some key → Exported key base size)
    (hengine : EngineReached Yields engine) (henv : env.ImportsBy Yields)
    (hbase : ImportYieldsBase Exported Yields device env)
    (hsnapshot : captureKvSnapshot device kv_caches plan snapshot_id = some snapshot)
    (htransfer : captureKvDeviceTransfer address_range get_export_key current kv_caches plan transfer_id = some transfer)
    (hbytes : transfer.wireBytes = some bytes)
    (hprepared : prepareDeviceIpcPayload env engine (parseIpcMetadata bytes) = (engine', some payload)) {a : ℕ}
    (ha : a < PAYLOAD_BYTES) : payload a = snapshot.payload a := by
  obtain ⟨destination, sources, hsources, rfl⟩ := prepare_payload henv hengine.importsFrom hprepared
  have hblocks : a / BLOCK_BYTES < 224 := by
    have hpayload : PAYLOAD_BYTES = 29360128 := by decide
    have hblock : BLOCK_BYTES = 131072 := rfl
    rw [hpayload] at ha
    rw [hblock]
    omega
  obtain ⟨value, layer, r, hblock⟩ := payloadBlock_surj hblocks
  obtain ⟨layer_cache, hcache, hbyte⟩ := snapshot_byte hsnapshot value layer r hblock
  obtain ⟨table, -, hmask, -⟩ := captured_transfer htransfer
  rw [hbyte, copied_byte sources destination value layer r hblock (by rw [← payload_bytes_eq]; exact ha),
    selected_iff (metadata_parsed hbytes), hmask]
  have hselected : maskSelects (importMask (importRequests plan)) r = (byRowGet plan r).isSome :=
    importMask_selected hplan r
  rw [hselected, capturedBlock]
  cases hrequest : byRowGet plan r with
  | none => rfl
  | some request =>
    have hk : a % BLOCK_BYTES < BLOCK_BYTES := Nat.mod_lt _ (by decide)
    exact staged_byte hplan hcurrent hexport hbase htransfer hbytes hsources hcache value hrequest hk

theorem cacheIndex_surj (i : Fin 56) : ∃ layer value, i = cacheIndex layer value := by
  refine ⟨⟨i / 2, by omega⟩, decide (i.val % 2 = 1), Fin.ext ?_⟩
  by_cases h : i.val % 2 = 1
  · rw [decide_eq_true h]
    show i.val = i.val / 2 * 2 + 1
    omega
  · rw [decide_eq_false h]
    show i.val = i.val / 2 * 2
    omega

/-- **The Device-IPC payload equals the Host snapshot's.** For an import plan over exported caches the snapshot is captured;
the staging buffer that the transfer of the same plan fills holds its payload; and it is filled when the ACL calls succeed
and the allocations have the bridge's least size. -/
theorem device_payload_eq_snapshot {engine : Engine} {table : DeviceKVExportTable} {snapshot_id : Int}
    (hcaches : StockCaches kv_caches) (hplan : ImportPlan kv_caches plan) (hcurrent : TableReached Exported current)
    (hexport : ∀ base size key, get_export_key base size = some key → Exported key base size)
    (hexports : getDeviceKvExports address_range get_export_key current kv_caches = some table)
    (hengine : EngineReached Yields engine) (henv : env.ImportsBy Yields)
    (hbase : ImportYieldsBase Exported Yields device env) (hid : 0 < snapshot_id) :
    ∃ snapshot, captureKvSnapshot device kv_caches plan snapshot_id = some snapshot ∧
      ∀ transfer_id transfer bytes,
        captureKvDeviceTransfer address_range get_export_key current kv_caches plan transfer_id = some transfer →
        transfer.wireBytes = some bytes →
        (∀ engine' payload, prepareDeviceIpcPayload env engine (parseIpcMetadata bytes) = (engine', some payload) →
          ∀ a < PAYLOAD_BYTES, payload a = snapshot.payload a) ∧
        (AclOk env (parseIpcMetadata bytes) → (kPhysicalBlocks * BLOCK_BYTES : ℕ) ≤ transfer.source_bytes →
          ∃ engine' payload, prepareDeviceIpcPayload env engine (parseIpcMetadata bytes) = (engine', some payload)) := by
  obtain ⟨snapshot, hsnapshot⟩ := snapshot_exists device hcaches hplan hexports hid
  refine ⟨snapshot, hsnapshot, fun transfer_id transfer bytes htransfer hbytes => ⟨?_, ?_⟩⟩
  · intro engine' payload hprepared a ha
    exact staged_payload hplan.valid hcurrent hexport hengine henv hbase hsnapshot htransfer hbytes hprepared ha
  · intro hacl hsize
    have hm := metadata_parsed hbytes
    obtain ⟨hvalid, -, -, -⟩ := wire_parts hbytes
    obtain ⟨table, htable, -, -, -, -, hkeys⟩ := captured_transfer htransfer
    refine prepare_total hacl (fun i => ?_) ?_ engine
    · obtain ⟨layer, value, rfl⟩ := cacheIndex_surj i
      have hlt : layer.val < kv_caches.length := by
        rw [hcaches.layers]
        exact layer.isLt
      obtain ⟨entry, key, -, hkey, hexported, -⟩ :=
        exports_hold hcurrent hexport htable (List.getElem?_eq_getElem hlt) value
      rw [← hkeys] at hkey
      rw [(key_read_iff hbytes hkey).2 (hbase.cstring _ _ _ hexported)]
      exact (hvalid.key key (List.mem_of_getElem? hkey)).1
    · rw [← hm.source_bytes] at hsize
      exact_mod_cast hsize

end Payload

/-! ## A transfer from two allocations -/

/-- eight blocks of a layer, in one allocation with the other layers -/
def poolTensor (base : Int) (layer : ℕ) : KvTensor where
  is_bfloat16 := true
  is_contiguous := true
  shape := [8, 128, 4, 128]
  data_ptr := base + layer * 1048576
  storage_ptr := base
  storage_bytes := 29360128
  storage_offset := layer * 524288

/-- the keys in one pool, the values in another -/
def poolCaches : List (KvTensor × KvTensor) :=
  (List.range 28).map fun layer => (poolTensor 4096 layer, poolTensor 1073741824 layer)

def poolRange (data_ptr : Int) : Option (Int × Int) :=
  if data_ptr < 1073741824 then some (4096, 29360128) else some (1073741824, 29360128)

def poolKey (base _size : Int) : Option String := if base = 4096 then some "k" else if base = 1073741824 then some "v" else none

def PoolExported (key : String) (base size : Int) : Prop := poolKey base size = some key

/-- an imported pointer is the base's own address -/
def poolImport (key : List UInt8) : Option ℕ :=
  if key = [107] then some 4096 else some 1073741824

def poolDevice (address : Int) : UInt8 := UInt8.ofNat (address.toNat / 7)

def poolEnv : BridgeEnv :=
  { BridgeEnv.plain with aclrtIpcMemImportByKey := poolImport, ipc_memory := fun pointer a => poolDevice (pointer + a) }

/-- row 1 imports scheduler block 6 -/
def poolPlan : ResidentEpochPlan where
  version := 3
  graph_batch_size := 4
  max_steps := 1
  logical_capacity := 8
  requests := [⟨0, 1, 5, 11, 3, 4, 9, [6], (2, 3), .host, true⟩]
  active_mask := [0, 1, 0, 0]
  sampling_mode := 0
  graph_variant := 0

theorem pool_yieldsBase : ImportYieldsBase PoolExported (fun key pointer => poolImport key = some pointer) poolDevice poolEnv := by
  have hkey {key : String} {base size : Int} (h : PoolExported key base size) :
      key = "k" ∧ base = 4096 ∨ key = "v" ∧ base = 1073741824 := by
    unfold PoolExported poolKey at h
    split_ifs at h with h1 h2
    · exact Or.inl ⟨(Option.some.inj h).symm, h1⟩
    · exact Or.inr ⟨(Option.some.inj h).symm, h2⟩
  constructor
  · intro key base size h
    obtain ⟨rfl, -⟩ | ⟨rfl, -⟩ := hkey h
    · decide
    · decide
  · intro key base size h pointer hpointer a _
    obtain ⟨rfl, rfl⟩ | ⟨rfl, rfl⟩ := hkey h
    · have himport : poolImport (encodedKey "k") = some 4096 := by decide
      cases himport.symm.trans hpointer
      rfl
    · have himport : poolImport (encodedKey "v") = some 1073741824 := by decide
      cases himport.symm.trans hpointer
      rfl

theorem device_payload_eq_snapshot_pools : ∃ snapshot transfer bytes engine' payload,
    captureKvSnapshot poolDevice poolCaches poolPlan 1 = some snapshot ∧
    captureKvDeviceTransfer poolRange poolKey none poolCaches poolPlan 1 = some transfer ∧
    transfer.wireBytes = some bytes ∧
    prepareDeviceIpcPayload poolEnv Engine.plain (parseIpcMetadata bytes) = (engine', some payload) ∧
    ∀ a < PAYLOAD_BYTES, payload a = snapshot.payload a := by
  have htable : (getDeviceKvExports poolRange poolKey none poolCaches).isSome = true := by decide +kernel
  have htransfer : (captureKvDeviceTransfer poolRange poolKey none poolCaches poolPlan 1).any
      (fun transfer => transfer.wireBytes.isSome && decide (transfer.source_bytes = 29360128)) = true := by decide +kernel
  obtain ⟨table, htable⟩ := Option.isSome_iff_exists.1 htable
  obtain ⟨transfer, htransfer, hwire⟩ := (Option.any_eq_true _ _).1 htransfer
  rw [Bool.and_eq_true, decide_eq_true_eq] at hwire
  obtain ⟨hwire, hsize⟩ := hwire
  obtain ⟨bytes, hbytes⟩ := Option.isSome_iff_exists.1 hwire
  have hcaches : StockCaches poolCaches := by
    refine ⟨by decide, fun layer_cache hmem => ?_⟩
    obtain ⟨layer, -, rfl⟩ := List.mem_map.1 hmem
    exact ⟨rfl, rfl⟩
  have hvalid : poolPlan.Valid := (planValidate_ok_iff poolPlan).1 (by decide)
  have hplan : ImportPlan poolCaches poolPlan := by
    refine ⟨hvalid, rfl, by decide, by decide, fun request hmem => ?_⟩
    have hmem : request ∈ [(⟨0, 1, 5, 11, 3, 4, 9, [6], (2, 3), .host, true⟩ : ResidentEpochRequest)] := hmem
    obtain rfl := List.mem_singleton.1 hmem
    refine ⟨6, rfl, by decide, fun layer_cache hmem => ?_⟩
    obtain ⟨layer, -, rfl⟩ := List.mem_map.1 hmem
    exact show (6 : Int) < 8 by decide
  have hengine : EngineReached (fun key pointer => poolImport key = some pointer) Engine.plain := .fresh _
  have hexport : ∀ base size key, poolKey base size = some key → PoolExported key base size := fun _ _ _ h => h
  have himports : poolEnv.ImportsBy fun key pointer => poolImport key = some pointer := fun _ _ h => h
  obtain ⟨snapshot, hsnapshot, hall⟩ := device_payload_eq_snapshot hcaches hplan (TableReached.fresh)
    hexport htable hengine himports pool_yieldsBase (show (0 : Int) < 1 by decide)
  obtain ⟨hequal, hfilled⟩ := hall 1 transfer bytes htransfer hbytes
  have hacl : AclOk poolEnv (parseIpcMetadata bytes) := by
    refine ⟨rfl, rfl, fun i => ?_, fun _ _ _ => rfl⟩
    show (poolImport (keyBytes ((parseIpcMetadata bytes).keys i))).isSome = true
    unfold poolImport
    split_ifs
    · rfl
    · rfl
  obtain ⟨engine', payload, hprepared⟩ := hfilled hacl (by rw [hsize]; decide)
  exact ⟨snapshot, transfer, bytes, engine', payload, hsnapshot, htransfer, hbytes, hprepared, hequal engine' payload hprepared⟩

end Cruise.Worker
