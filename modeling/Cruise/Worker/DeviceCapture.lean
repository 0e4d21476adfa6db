/-
The two captures of the stock KV caches (`kv_transfer.py`): `capture_kv_snapshot`, which copies the imported blocks to the
Host, and `capture_kv_device_transfer`, which exports the allocations they lie in.

MODEL. Device memory is a function of the address. A tensor is what the captures ask of it; one that is read is a
contiguous array of blocks. `aclrtMemGetAddressRange` and `acl.rt.ipc_mem_get_export_key` are parameters, `none` when the
call fails; closing a key leaves no trace here. An exception is `none`.
- `exports_hold`: the table of exports has, for every cache in order, a key of its allocation and its offset in it.
- `snapshot_byte`: a byte of the snapshot's payload is the byte of the cache it was captured from.
-/
import Cruise.Native.IpcPayload
import Cruise.Worker.IpcMetadata

namespace Cruise.Worker

open Cruise.Lib Cruise.Controller Cruise.Native

/-! ## Caches -/

def LAYERS : ℕ := 28
def BLOCK_SIZE : ℕ := 128
def ELEMENT_BYTES : ℕ := 2
/-- a block of a cache: `(BLOCK_SIZE, NUM_KV_HEADS, HEAD_SIZE)` -/
def BLOCK_SHAPE : List ℕ := [128, 4, 128]

structure KvTensor where
  is_bfloat16 : Bool
  is_contiguous : Bool
  shape : List ℕ
  data_ptr : Int
  storage_ptr : Int
  storage_bytes : Int
  storage_offset : Int

def KvTensor.view_bytes (tensor : KvTensor) : Int := tensor.shape.prod * ELEMENT_BYTES

/-- `cache[block_id]` for a non-negative index -/
def KvTensor.block (tensor : KvTensor) (device : Int → UInt8) (block_id : Int) : Option Mem :=
  if block_id < tensor.shape.headD 0 then some fun k => device (tensor.data_ptr + block_id * BLOCK_BYTES + k) else none

/-- the requests a plan imports -/
def importRequests (plan : ResidentEpochPlan) : List ResidentEpochRequest :=
  plan.requests.filter fun request => request.kv_import_required

/-- `by_row.get(row)` -/
def byRowGet (plan : ResidentEpochPlan) (row : ℕ) : Option ResidentEpochRequest :=
  (importRequests plan).reverse.find? fun request => request.row = row

/-! ## Host snapshot -/

/-- the key and the value block of a row in one layer, zeros when the row is not imported -/
def captureRow (device : Int → UInt8) (plan : ResidentEpochPlan) (layer_cache : KvTensor × KvTensor) (row : ℕ) :
    Option (Mem × Mem) :=
  match byRowGet plan row with
  | none => some (fun _ => 0, fun _ => 0)
  | some request =>
    if request.scheduler_block_ids.length ≠ 1 then none
    else
      let block_id := request.scheduler_block_ids.headD 0
      if block_id < 0 ∨ block_id ≥ layer_cache.1.shape.headD 0 then none
      else
        match layer_cache.1.block device block_id, layer_cache.2.block device block_id with
        | some key_block, some value_block =>
          if layer_cache.1.shape.tail ≠ BLOCK_SHAPE ∨ layer_cache.2.shape.tail ≠ BLOCK_SHAPE then none
          else some (key_block, value_block)
        | _, _ => none

/-- one layer's rows; `_tensor_bytes` refuses anything but bfloat16 -/
def captureLayer (device : Int → UInt8) (plan : ResidentEpochPlan) (layer_cache : KvTensor × KvTensor) :
    Option (List (Mem × Mem)) :=
  if layer_cache.1.is_bfloat16 = false ∨ layer_cache.2.is_bfloat16 = false then none
  else (List.range GRAPH_BATCH_SIZE).mapM (captureRow device plan layer_cache)

/-- the row-major bytes of stacked layers of stacked rows -/
def stackBytes (layers : List (List Mem)) : Mem := fun a =>
  (layers.getD (a / (GRAPH_BATCH_SIZE * BLOCK_BYTES)) []).getD (a / BLOCK_BYTES % GRAPH_BATCH_SIZE) (fun _ => 0)
    (a % BLOCK_BYTES)

/-- `key_payload + value_payload` -/
def joinPayload (key_payload value_payload : Mem) : Mem := fun a =>
  if a < LAYERS * GRAPH_BATCH_SIZE * BLOCK_BYTES then key_payload a
  else value_payload (a - LAYERS * GRAPH_BATCH_SIZE * BLOCK_BYTES)

def captureKvSnapshot (device : Int → UInt8) (kv_caches : List (KvTensor × KvTensor)) (plan : ResidentEpochPlan)
    (transfer_id : Int) : Option ResidentKVSnapshot :=
  if importRequests plan = [] ∨ plan.logical_capacity > BLOCK_SIZE ∨ kv_caches.length ≠ LAYERS then none
  else
    match kv_caches.mapM (captureLayer device plan) with
    | none => none
    | some layers =>
      let payload := joinPayload (stackBytes (layers.map fun rows => rows.map Prod.fst))
        (stackBytes (layers.map fun rows => rows.map Prod.snd))
      let import_mask := expectedMask plan
      let snapshot : ResidentKVSnapshot :=
        { transfer_id, import_mask, row_generations := expectedGenerations plan, payload_bytes := PAYLOAD_BYTES, payload
          checksum := kvPayloadChecksum payload import_mask }
      if snapshot.validate = .ok () then some snapshot else none

/-! ## Device exports -/

structure Signature where
  data_ptr : Int
  view_bytes : Int
  allocation_ptr : Int
  allocation_bytes : Int
  source_offset : Int
deriving DecidableEq

/-- `_device_allocation_range` -/
def deviceAllocationRange (address_range : Int → Option (Int × Int)) (data_ptr : Int) : Option (Int × Int) :=
  match address_range data_ptr with
  | none => none
  | some (allocation_ptr, allocation_bytes) =>
    if allocation_ptr ≤ 0 ∨ allocation_bytes ≤ 0 then none else some (allocation_ptr, allocation_bytes)

/-- `_device_tensor_signature` -/
def deviceTensorSignature (address_range : Int → Option (Int × Int)) (tensor : KvTensor) : Option Signature :=
  if tensor.is_contiguous = false then none
  else
    match deviceAllocationRange address_range tensor.data_ptr with
    | none => none
    | some (allocation_ptr, allocation_bytes) =>
      let source_offset := tensor.data_ptr - allocation_ptr
      if tensor.data_ptr ≤ 0 ∨ tensor.view_bytes ≤ 0 ∨ tensor.storage_ptr ≤ 0 ∨ tensor.storage_bytes ≤ 0 ∨
          allocation_ptr ≤ 0 ∨ allocation_bytes ≤ 0 ∨ source_offset < 0 ∨
          source_offset + tensor.view_bytes > allocation_bytes then none
      else if tensor.data_ptr - tensor.storage_ptr ≠ tensor.storage_offset * ELEMENT_BYTES then none
      else some ⟨tensor.data_ptr, tensor.view_bytes, allocation_ptr, allocation_bytes, source_offset⟩

/-- `_DeviceKVExportTable` -/
structure DeviceKVExportTable where
  signature : List Signature
  source_bytes : Int
  source_offsets : List Int
  keys : List String

/-- the loop that exports every allocation once; `exported_by_storage` is a dict, newest first -/
def exportKeys (get_export_key : Int → Int → Option String) (exported_by_storage : List (Int × String)) :
    List Signature → Option (List String)
  | [] => some []
  | entry :: rest =>
    match exported_by_storage.lookup entry.allocation_ptr with
    | some key => (exportKeys get_export_key exported_by_storage rest).map (key :: ·)
    | none =>
      match get_export_key entry.allocation_ptr entry.allocation_bytes with
      | none => none
      | some key =>
        if key = "" then none
        else (exportKeys get_export_key ((entry.allocation_ptr, key) :: exported_by_storage) rest).map (key :: ·)

/-- the tensors in the order they are exported in -/
def cacheTensors (kv_caches : List (KvTensor × KvTensor)) : List KvTensor :=
  kv_caches.flatMap fun layer_cache => [layer_cache.1, layer_cache.2]

def cacheSignature (address_range : Int → Option (Int × Int)) (tensor : KvTensor) : Option Signature :=
  if tensor.is_bfloat16 = false then none else deviceTensorSignature address_range tensor

/-- `_get_device_kv_exports`; `current` is the table the worker keeps -/
def getDeviceKvExports (address_range : Int → Option (Int × Int)) (get_export_key : Int → Int → Option String)
    (current : Option DeviceKVExportTable) (kv_caches : List (KvTensor × KvTensor)) : Option DeviceKVExportTable :=
  match (cacheTensors kv_caches).mapM (cacheSignature address_range) with
  | none => none
  | some [] => none
  | some (first :: rest) =>
    let signature := first :: rest
    if ∃ entry ∈ signature, entry.view_bytes ≠ first.view_bytes then none
    else if ∃ entry ∈ signature, entry.allocation_bytes ≠ first.allocation_bytes then none
    else
      match current.filter fun table => table.signature = signature with
      | some table => some table
      | none =>
        (exportKeys get_export_key [] signature).map fun keys =>
          { signature, source_bytes := first.allocation_bytes
            source_offsets := signature.map fun entry => entry.source_offset, keys }

/-- `import_mask |= 1 << request.row` -/
def importMask (requests : List ResidentEpochRequest) : ℕ :=
  requests.foldl (fun import_mask request => import_mask ||| 1 <<< request.row.toNat) 0

/-- `capture_kv_device_transfer` -/
def captureKvDeviceTransfer (address_range : Int → Option (Int × Int)) (get_export_key : Int → Int → Option String)
    (current : Option DeviceKVExportTable) (kv_caches : List (KvTensor × KvTensor)) (plan : ResidentEpochPlan)
    (transfer_id : Int) : Option DeviceKVTransfer :=
  let requests := importRequests plan
  if requests = [] ∨ kv_caches.length ≠ LAYERS then none
  else
    match getDeviceKvExports address_range get_export_key current kv_caches with
    | none => none
    | some table =>
      if ∃ request ∈ requests, request.scheduler_block_ids.length ≠ 1 then none
      else
        let transfer : DeviceKVTransfer :=
          { transfer_id
            import_mask := importMask requests
            row_generations := expectedGenerations plan
            block_ids := requests.foldl (fun values request =>
              values.set request.row.toNat (request.scheduler_block_ids.headD 0)) (List.replicate GRAPH_BATCH_SIZE 0)
            source_bytes := table.source_bytes
            source_offsets := table.source_offsets
            keys := table.keys }
        if transfer.validate = .ok () then some transfer else none

/-! ## The table of exports -/

section Exports

-- the keys that were exported, with the base and the size of their allocation
variable {Exported : String → Int → Int → Prop}

/-- a table whose keys were exported for its allocations -/
structure DeviceKVExportTable.Holds (Exported : String → Int → Int → Prop) (table : DeviceKVExportTable) : Prop where
  keys : List.Forall₂ (fun entry key => Exported key entry.allocation_ptr entry.allocation_bytes) table.signature table.keys
  offsets : table.source_offsets = table.signature.map fun entry => entry.source_offset
  size : ∀ entry ∈ table.signature, entry.allocation_bytes = table.source_bytes

/-- the tables a worker can keep -/
inductive TableReached (Exported : String → Int → Int → Prop) : Option DeviceKVExportTable → Prop
  | fresh : TableReached Exported none
  | exported {current : Option DeviceKVExportTable} {address_range : Int → Option (Int × Int)}
      {get_export_key : Int → Int → Option String} {kv_caches : List (KvTensor × KvTensor)} {table : DeviceKVExportTable} :
      TableReached Exported current →
      (∀ base size key, get_export_key base size = some key → Exported key base size) →
      getDeviceKvExports address_range get_export_key current kv_caches = some table →
      TableReached Exported (some table)

theorem exportKeys_exported {get_export_key : Int → Int → Option String}
    (hexport : ∀ base size key, get_export_key base size = some key → Exported key base size) {source_bytes : Int}
    (l : List Signature) (hsize : ∀ entry ∈ l, entry.allocation_bytes = source_bytes)
    {exported_by_storage : List (Int × String)}
    (hdict : ∀ item ∈ exported_by_storage, Exported item.2 item.1 source_bytes) {keys : List String}
    (h : exportKeys get_export_key exported_by_storage l = some keys) :
    List.Forall₂ (fun entry key => Exported key entry.allocation_ptr entry.allocation_bytes) l keys := by
  induction l generalizing exported_by_storage keys with
  | nil =>
    cases h
    exact .nil
  | cons entry rest ih =>
    have hentry := hsize entry List.mem_cons_self
    have hrest (e : Signature) (he : e ∈ rest) := hsize e (List.mem_cons_of_mem _ he)
    unfold exportKeys at h
    cases hlookup : exported_by_storage.lookup entry.allocation_ptr with
    | some key =>
      simp only [hlookup, Option.map_eq_some_iff] at h
      obtain ⟨keys', hkeys, rfl⟩ := h
      obtain ⟨l, l', hitems, -⟩ := List.lookup_eq_some_iff.1 hlookup
      have hkey := hdict (entry.allocation_ptr, key) (by rw [hitems]; exact List.mem_append_right _ List.mem_cons_self)
      refine .cons ?_ (ih hrest hdict hkeys)
      rw [hentry]
      exact hkey
    | none =>
      simp only [hlookup] at h
      cases hkey : get_export_key entry.allocation_ptr entry.allocation_bytes with
      | none =>
        rw [hkey] at h
        cases h
      | some key =>
        have hexported := hexport _ _ _ hkey
        simp only [hkey] at h
        split_ifs at h
        rw [Option.map_eq_some_iff] at h
        obtain ⟨keys', hkeys, rfl⟩ := h
        refine .cons hexported (ih hrest ?_ hkeys)
        intro item hitem
        rcases List.mem_cons.1 hitem with rfl | hitem
        · rw [hentry] at hexported
          exact hexported
        · exact hdict item hitem

/-- what a returned table says of the caches -/
theorem exports_table {address_range : Int → Option (Int × Int)} {get_export_key : Int → Int → Option String}
    {current : Option DeviceKVExportTable} {kv_caches : List (KvTensor × KvTensor)} {table : DeviceKVExportTable}
    (h : getDeviceKvExports address_range get_export_key current kv_caches = some table) :
    (cacheTensors kv_caches).mapM (cacheSignature address_range) = some table.signature ∧
      (∃ view_bytes, ∀ entry ∈ table.signature, entry.view_bytes = view_bytes) ∧
      (current = some table ∨
        (∃ keys, exportKeys get_export_key [] table.signature = some keys ∧ keys = table.keys) ∧
          table.source_offsets = (table.signature.map fun entry => entry.source_offset) ∧
          ∀ entry ∈ table.signature, entry.allocation_bytes = table.source_bytes) := by
  unfold getDeviceKvExports at h
  cases hsignature : (cacheTensors kv_caches).mapM (cacheSignature address_range) with
  | none =>
    rw [hsignature] at h
    cases h
  | some signature =>
    rw [hsignature] at h
    cases signature with
    | nil => cases h
    | cons first rest =>
      simp only at h
      split_ifs at h with hview hsize
      have hviews : ∀ entry ∈ first :: rest, entry.view_bytes = first.view_bytes := by
        intro entry hentry
        by_contra hne
        exact hview ⟨entry, hentry, hne⟩
      cases hcurrent : current.filter fun table => table.signature = first :: rest with
      | some kept =>
        simp only [hcurrent] at h
        cases h
        obtain ⟨hkept, hsame⟩ := Option.filter_eq_some_iff.1 hcurrent
        have hsame := of_decide_eq_true hsame
        exact ⟨congrArg some hsame.symm, ⟨_, by rw [hsame]; exact hviews⟩, Or.inl hkept⟩
      | none =>
        simp only [hcurrent, Option.map_eq_some_iff] at h
        obtain ⟨keys, hkeys, rfl⟩ := h
        refine ⟨rfl, ⟨_, hviews⟩, Or.inr ⟨⟨keys, hkeys, rfl⟩, rfl, fun entry hentry => ?_⟩⟩
        by_contra hne
        exact hsize ⟨entry, hentry, hne⟩

theorem table_holds {current : Option DeviceKVExportTable} (h : TableReached Exported current) :
    ∀ table ∈ current, table.Holds Exported := by
  induction h with
  | fresh =>
    intro table htable
    cases htable
  | exported _ hexport htable ih =>
    rintro table ⟨⟩
    obtain ⟨-, -, hkept | ⟨⟨keys, hkeys, rfl⟩, hoffsets, hsize⟩⟩ := exports_table htable
    · exact ih _ hkept
    · exact ⟨exportKeys_exported hexport _ hsize (fun item hitem => (by cases hitem)) hkeys, hoffsets, hsize⟩

/-- the signature of a tensor -/
theorem signature_tensor {address_range : Int → Option (Int × Int)} {tensor : KvTensor} {entry : Signature}
    (h : cacheSignature address_range tensor = some entry) : tensor.is_bfloat16 = true ∧
      entry.view_bytes = tensor.view_bytes ∧ entry.source_offset = tensor.data_ptr - entry.allocation_ptr ∧
      0 ≤ entry.source_offset ∧ entry.source_offset + entry.view_bytes ≤ entry.allocation_bytes := by
  unfold cacheSignature at h
  by_cases hdtype : tensor.is_bfloat16 = false
  · rw [if_pos hdtype] at h
    cases h
  rw [if_neg hdtype] at h
  unfold deviceTensorSignature at h
  by_cases hcontiguous : tensor.is_contiguous = false
  · rw [if_pos hcontiguous] at h
    cases h
  rw [if_neg hcontiguous] at h
  cases hrange : deviceAllocationRange address_range tensor.data_ptr with
  | none =>
    rw [hrange] at h
    cases h
  | some range =>
    rw [hrange] at h
    simp only at h
    split_ifs at h with hbad
    cases h
    simp only [not_or, not_lt] at hbad
    exact ⟨by simpa using hdtype, rfl, rfl, hbad.2.2.2.2.2.2.1, hbad.2.2.2.2.2.2.2⟩

def cacheTensor (layer_cache : KvTensor × KvTensor) (value : Bool) : KvTensor :=
  if value then layer_cache.2 else layer_cache.1

theorem cacheTensors_getElem? (kv_caches : List (KvTensor × KvTensor)) (layer : ℕ) :
    (cacheTensors kv_caches)[layer * 2]? = kv_caches[layer]?.map Prod.fst ∧
      (cacheTensors kv_caches)[layer * 2 + 1]? = kv_caches[layer]?.map Prod.snd := by
  induction kv_caches generalizing layer with
  | nil => exact ⟨rfl, rfl⟩
  | cons layer_cache rest ih =>
    cases layer with
    | zero => exact ⟨rfl, rfl⟩
    | succ layer =>
      have hindex : (layer + 1) * 2 = layer * 2 + 2 := by omega
      rw [hindex]
      exact ih layer

theorem cacheTensors_at {kv_caches : List (KvTensor × KvTensor)} {layer : Fin 28} {layer_cache : KvTensor × KvTensor}
    (h : kv_caches[layer.val]? = some layer_cache) (value : Bool) :
    (cacheTensors kv_caches)[(cacheIndex layer value).val]? = some (cacheTensor layer_cache value) := by
  obtain ⟨hkey, hvalue⟩ := cacheTensors_getElem? kv_caches layer
  rw [h] at hkey hvalue
  cases value with
  | false => exact hkey
  | true => exact hvalue

theorem forall₂_getElem? {α β : Type} {R : α → β → Prop} {l : List α} {l' : List β} (h : List.Forall₂ R l l') {i : ℕ}
    {a : α} (ha : l[i]? = some a) : ∃ b, l'[i]? = some b ∧ R a b := by
  obtain ⟨hi, rfl⟩ := List.getElem?_eq_some_iff.1 ha
  have hi' : i < l'.length := h.length_eq ▸ hi
  exact ⟨l'[i], List.getElem?_eq_getElem hi', h.get hi hi'⟩

/-- **The table of exports.** For every cache it has a key of its allocation and its offset there. -/
theorem exports_hold {address_range : Int → Option (Int × Int)} {get_export_key : Int → Int → Option String}
    {current : Option DeviceKVExportTable} {kv_caches : List (KvTensor × KvTensor)} {table : DeviceKVExportTable}
    (hcurrent : TableReached Exported current)
    (hexport : ∀ base size key, get_export_key base size = some key → Exported key base size)
    (h : getDeviceKvExports address_range get_export_key current kv_caches = some table) {layer : Fin 28}
    {layer_cache : KvTensor × KvTensor} (hcache : kv_caches[layer.val]? = some layer_cache) (value : Bool) :
    ∃ entry key, cacheSignature address_range (cacheTensor layer_cache value) = some entry ∧
      table.keys[(cacheIndex layer value).val]? = some key ∧ Exported key entry.allocation_ptr table.source_bytes ∧
      entry.allocation_bytes = table.source_bytes ∧
      table.source_offsets.getD (cacheIndex layer value) 0 = entry.source_offset := by
  obtain ⟨hkeys, hoffsets, hsize⟩ := table_holds (hcurrent.exported hexport h) table rfl
  obtain ⟨entry, hentry, hsignature⟩ := forall₂_getElem? (mapM_some (exports_table h).1) (cacheTensors_at hcache value)
  obtain ⟨key, hkey, hexported⟩ := forall₂_getElem? hkeys hentry
  have hbytes := hsize entry (List.mem_of_getElem? hentry)
  rw [hbytes] at hexported
  refine ⟨entry, key, hsignature, hkey, hexported, hbytes, ?_⟩
  rw [List.getD_eq_getElem?_getD, hoffsets, List.getElem?_map, hentry]
  rfl

end Exports

/-! ## The rows of a plan -/

section Rows

variable {plan : ResidentEpochPlan}

theorem byRowGet_mem {row : ℕ} {request : ResidentEpochRequest} (h : byRowGet plan row = some request) :
    request ∈ importRequests plan ∧ request.row = row := by
  have hmem := List.mem_of_find?_eq_some h
  have hrow := List.find?_some h
  exact ⟨List.mem_reverse.1 hmem, of_decide_eq_true hrow⟩

theorem byRowGet_none {row : ℕ} (h : byRowGet plan row = none) : ∀ request ∈ importRequests plan, request.row ≠ row := by
  intro request hrequest hrow
  have hall := List.find?_eq_none.1 h request (List.mem_reverse.2 hrequest)
  exact hall (decide_eq_true hrow)

theorem importRows_nodup (h : plan.Valid) : ((importRequests plan).map fun request => request.row.toNat).Nodup := by
  have hnodup : ((importRequests plan).map fun request => request.row).Nodup :=
    h.rows.sublist (List.filter_sublist.map _)
  rw [List.nodup_map_iff_inj_on (List.Nodup.of_map _ hnodup)]
  intro a ha b hb hab
  have ha0 := (h.row a (List.mem_of_mem_filter ha)).1
  have hb0 := (h.row b (List.mem_of_mem_filter hb)).1
  exact List.inj_on_of_nodup_map hnodup ha hb (by omega)

/-- the value of a request in a row vector -/
theorem rowVector_getD (h : plan.Valid) (field : ResidentEpochRequest → Int)
    {request : ResidentEpochRequest} (hrequest : request ∈ importRequests plan) {r : Row} (hrow : request.row = r.val) :
    ((importRequests plan).foldl (fun values request => values.set request.row.toNat (field request))
      (List.replicate GRAPH_BATCH_SIZE 0)).getD r 0 = field request := by
  have hfind : ((importRequests plan).find? fun other => other.row.toNat = r.val) = some request := by
    have hsome : ((importRequests plan).find? fun other => other.row.toNat = r.val).isSome = true := by
      rw [List.find?_isSome]
      exact ⟨request, hrequest, decide_eq_true (by omega)⟩
    obtain ⟨other, hother⟩ := Option.isSome_iff_exists.1 hsome
    have hrow' := List.find?_some hother
    rw [decide_eq_true_eq] at hrow'
    have hsame := List.inj_on_of_nodup_map (importRows_nodup h) (List.mem_of_find?_eq_some hother) hrequest
      (hrow'.trans (by omega))
    rw [hother, hsame]
  rw [List.getD_eq_getElem?_getD, foldl_set_getElem? (fun request : ResidentEpochRequest => request.row.toNat) field _
    (importRows_nodup h) _ _ r.isLt, hfind]
  rfl

/-- the rows an import mask selects -/
theorem importMask_testBit (l : List ResidentEpochRequest) (r : ℕ) :
    (importMask l).testBit r = decide (∃ request ∈ l, request.row.toNat = r) := by
  suffices ∀ mask : ℕ, (l.foldl (fun import_mask request => import_mask ||| 1 <<< request.row.toNat) mask).testBit r =
      (mask.testBit r || decide (∃ request ∈ l, request.row.toNat = r)) by
    rw [importMask, this, Nat.zero_testBit, Bool.false_or]
  induction l with
  | nil => simp
  | cons request rest ih =>
    intro mask
    rw [List.foldl_cons, ih, Nat.testBit_or, Nat.one_shiftLeft, Nat.testBit_two_pow, Bool.or_assoc]
    simp [List.mem_cons]

end Rows

/-! ## The snapshot's bytes -/

section Snapshot

variable {device : Int → UInt8} {kv_caches : List (KvTensor × KvTensor)} {plan : ResidentEpochPlan} {transfer_id : Int}
  {snapshot : ResidentKVSnapshot}

/-- the block captured of a cache for a row -/
def capturedBlock (device : Int → UInt8) (plan : ResidentEpochPlan) (tensor : KvTensor) (row : ℕ) : Mem :=
  match byRowGet plan row with
  | none => fun _ => 0
  | some request => fun k => device (tensor.data_ptr + request.scheduler_block_ids.headD 0 * BLOCK_BYTES + k)

theorem captureRow_blocks {layer_cache : KvTensor × KvTensor} {row : ℕ} {blocks : Mem × Mem}
    (h : captureRow device plan layer_cache row = some blocks) :
    blocks = (capturedBlock device plan layer_cache.1 row, capturedBlock device plan layer_cache.2 row) := by
  unfold captureRow at h
  unfold capturedBlock
  cases hrequest : byRowGet plan row with
  | none =>
    rw [hrequest] at h
    cases h
    rfl
  | some request =>
    rw [hrequest] at h
    simp only [KvTensor.block] at h
    by_cases hkey : request.scheduler_block_ids.headD 0 < layer_cache.1.shape.headD 0
    · by_cases hvalue : request.scheduler_block_ids.headD 0 < layer_cache.2.shape.headD 0
      · rw [if_pos hkey, if_pos hvalue] at h
        simp only at h
        split_ifs at h
        cases h
        rfl
      · rw [if_pos hkey, if_neg hvalue] at h
        split_ifs at h
    · rw [if_neg hkey] at h
      split_ifs at h

/-- a layer's captured rows -/
theorem captureLayer_rows {layer_cache : KvTensor × KvTensor} {blocks : List (Mem × Mem)}
    (h : captureLayer device plan layer_cache = some blocks) (r : Row) :
    (blocks.map Prod.fst).getD r (fun _ => 0) = capturedBlock device plan layer_cache.1 r ∧
      (blocks.map Prod.snd).getD r (fun _ => 0) = capturedBlock device plan layer_cache.2 r := by
  unfold captureLayer at h
  split_ifs at h
  have hrange : (List.range GRAPH_BATCH_SIZE)[r.val]? = some r.val := List.getElem?_range r.isLt
  obtain ⟨rowBlocks, hget, hcaptured⟩ := forall₂_getElem? (mapM_some h) hrange
  rw [List.getD_eq_getElem?_getD, List.getD_eq_getElem?_getD, List.getElem?_map, List.getElem?_map, hget,
    captureRow_blocks hcaptured]
  exact ⟨rfl, rfl⟩

/-- the layer, row and offset of a byte of one half of the payload -/
theorem stackBytes_at {layers : List (List Mem)} {layer : Fin 28} {r : Row} {a : ℕ}
    (ha : a / BLOCK_BYTES = layer * 4 + r) :
    stackBytes layers a = (layers.getD layer []).getD r (fun _ => 0) (a % BLOCK_BYTES) := by
  have hr : r.val < 4 := r.isLt
  have hlayer : a / (GRAPH_BATCH_SIZE * BLOCK_BYTES) = layer := by
    rw [Nat.mul_comm, ← Nat.div_div_eq_div_mul, ha]
    simp only [GRAPH_BATCH_SIZE]
    omega
  have hrow : a / BLOCK_BYTES % GRAPH_BATCH_SIZE = r := by
    rw [ha]
    simp only [GRAPH_BATCH_SIZE]
    omega
  rw [stackBytes, hlayer, hrow]

/-- the half of the payload a block lies in, and where -/
theorem joinPayload_at (key_payload value_payload : Mem) {value : Bool} {layer : Fin 28} {r : Row} {a : ℕ}
    (ha : a / BLOCK_BYTES = payloadBlock value layer r) : ∃ a', a' / BLOCK_BYTES = layer * 4 + r ∧
      a' % BLOCK_BYTES = a % BLOCK_BYTES ∧
      joinPayload key_payload value_payload a = (if value then value_payload else key_payload) a' := by
  have hlayer := layer.isLt
  have hr : r.val < 4 := r.isLt
  have hhalf : LAYERS * GRAPH_BATCH_SIZE * BLOCK_BYTES = 14680064 := rfl
  have hbytes : BLOCK_BYTES = 131072 := rfl
  unfold joinPayload
  rw [hhalf]
  rw [hbytes] at ha ⊢
  cases value with
  | false =>
    have ha : a / 131072 = layer.val * 4 + r.val := ha.trans (Nat.zero_add _)
    exact ⟨a, ha, rfl, if_pos (by omega)⟩
  | true =>
    have ha : a / 131072 = 112 + (layer.val * 4 + r.val) := ha
    exact ⟨a - 14680064, by omega, by omega, if_neg (by omega)⟩

/-- **A byte of the snapshot is the byte of the cache it was captured from.** -/
theorem snapshot_byte (h : captureKvSnapshot device kv_caches plan transfer_id = some snapshot) (value : Bool)
    (layer : Fin 28) (r : Row) {a : ℕ} (ha : a / BLOCK_BYTES = payloadBlock value layer r) :
    ∃ layer_cache, kv_caches[layer.val]? = some layer_cache ∧
      snapshot.payload a = capturedBlock device plan (cacheTensor layer_cache value) r (a % BLOCK_BYTES) := by
  unfold captureKvSnapshot at h
  split_ifs at h with hguard
  cases hlayers : kv_caches.mapM (captureLayer device plan) with
  | none =>
    rw [hlayers] at h
    cases h
  | some layers =>
    rw [hlayers] at h
    simp only at h
    split_ifs at h
    cases h
    simp only [not_or, not_not] at hguard
    have hlt : layer.val < kv_caches.length := by
      rw [hguard.2.2]
      exact layer.isLt
    refine ⟨kv_caches[layer.val], List.getElem?_eq_getElem hlt, ?_⟩
    obtain ⟨blocks, hblocks, hcaptured⟩ := forall₂_getElem? (mapM_some hlayers) (List.getElem?_eq_getElem hlt)
    obtain ⟨hkeys, hvalues⟩ := captureLayer_rows hcaptured r
    obtain ⟨a', hdiv, hmod, hjoin⟩ := joinPayload_at (stackBytes (layers.map fun rows => rows.map Prod.fst))
      (stackBytes (layers.map fun rows => rows.map Prod.snd)) ha
    have hget (f : List (Mem × Mem) → List Mem) : (layers.map f).getD layer [] = f blocks := by
      rw [List.getD_eq_getElem?_getD, List.getElem?_map, hblocks]
      rfl
    refine hjoin.trans ?_
    cases value with
    | false =>
      refine (stackBytes_at hdiv).trans ?_
      rw [hget, hmod]
      exact congrFun hkeys _
    | true =>
      refine (stackBytes_at hdiv).trans ?_
      rw [hget, hmod]
      exact congrFun hvalues _

end Snapshot

end Cruise.Worker
