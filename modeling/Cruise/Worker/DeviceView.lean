/-
Where the direct Device import reads: the blocks it copies against the views of the caches it was given.

Both checks, `DeviceKVTransfer.validate` and `ValidateIpcMetadata`, hold a block against the size of the exported
allocation; a view can end before its allocation does. Results:
- `reads_view_iff`: for a table of exports, every accepted transfer of every plan stays inside the views exactly when some
  view is followed by less than a block in its allocation, or nothing can be transferred with the table at all.
- `slack_block_outside`: with room behind every view, a block outside the caches that the Host snapshot refuses is accepted.
-/
import Cruise.Worker.DevicePayload

namespace Cruise.Worker

open Cruise.Lib Cruise.Controller Cruise.Native

/-! ## What is read -/

section View

variable {address_range : Int → Option (Int × Int)} {get_export_key : Int → Int → Option String}
  {current : Option DeviceKVExportTable} {kv_caches : List (KvTensor × KvTensor)} {table : DeviceKVExportTable}

/-- a plan's transfer has been captured, and the bridge accepts it and goes on to copy -/
structure AcceptedTransfer (address_range : Int → Option (Int × Int)) (get_export_key : Int → Int → Option String)
    (current : Option DeviceKVExportTable) (kv_caches : List (KvTensor × KvTensor)) (plan : ResidentEpochPlan)
    (transfer : DeviceKVTransfer) (m : IpcMetadata) : Prop where
  valid : plan.Valid
  captured : ∃ transfer_id,
    captureKvDeviceTransfer address_range get_export_key current kv_caches plan transfer_id = some transfer
  packed : ∃ bytes, transfer.wireBytes = some bytes ∧ m = parseIpcMetadata bytes
  accepted : ∃ gens, validateIpcMetadata m gens = true
  size : sourceSizeOk m = true

/-- the copy of a row's block lies in the view of its cache -/
def CopyInView (entry : Signature) (m : IpcMetadata) (layer : Fin 28) (value : Bool) (r : Row) : Prop :=
  ∀ env sources, let copy := blockCopy env m sources value layer r
    entry.source_offset ≤ copy.origin ∧
      (copy.origin : Int) + CRUISE_RESIDENT_KV_BLOCK_BYTES ≤ entry.source_offset + entry.view_bytes

/-- so do all copies of all transfers -/
def ReadsViewsOnly (address_range : Int → Option (Int × Int)) (get_export_key : Int → Int → Option String)
    (current : Option DeviceKVExportTable) (kv_caches : List (KvTensor × KvTensor)) : Prop :=
  ∀ plan transfer m, AcceptedTransfer address_range get_export_key current kv_caches plan transfer m →
    ∀ layer layer_cache value r entry, kv_caches[(layer : Fin 28).val]? = some layer_cache →
      cacheSignature address_range (cacheTensor layer_cache value) = some entry →
      selected m.import_mask.toNat r = true → CopyInView entry m layer value r

/-- the block ids it takes are those the Host snapshot takes -/
def RefusesOutsideBlocks (address_range : Int → Option (Int × Int)) (get_export_key : Int → Int → Option String)
    (current : Option DeviceKVExportTable) (kv_caches : List (KvTensor × KvTensor)) : Prop :=
  ∀ plan transfer m, AcceptedTransfer address_range get_export_key current kv_caches plan transfer m →
    ∀ request ∈ importRequests plan, ∀ layer_cache ∈ kv_caches,
      0 ≤ request.scheduler_block_ids.headD 0 ∧ request.scheduler_block_ids.headD 0 < layer_cache.1.shape.headD 0

/-- the bridge accepts the key as it is packed -/
structure PackedKeyOk (key : String) : Prop where
  encoded : encodedKey key ≠ [] ∧ (encodedKey key).length ≤ IPC_KEY_BYTES
  accepted : ∀ field : Fin 64 → UInt8, List.ofFn field = paddedKey key → ipcKeyOk field = true

/-- transfers can be made with the table -/
structure DeviceKVExportTable.Usable (table : DeviceKVExportTable) : Prop where
  keys : ∀ key ∈ table.keys, PackedKeyOk key
  size : (kPhysicalBlocks * BLOCK_BYTES : ℕ) ≤ table.source_bytes ∧ table.source_bytes < 2 ^ 64
  /-- the number of the block behind a view fits its field -/
  blocks : ∀ entry ∈ table.signature, entry.view_bytes / BLOCK_BYTES < 2 ^ 31

/-- behind every view there is room for a block in its allocation -/
def DeviceKVExportTable.Slack (table : DeviceKVExportTable) : Prop :=
  ∀ entry ∈ table.signature,
    entry.source_offset + (entry.view_bytes / BLOCK_BYTES + 1) * BLOCK_BYTES ≤ table.source_bytes

/-! ### A transfer against its table -/

/-- what is known of a table and the caches it was made for -/
structure TableOf (address_range : Int → Option (Int × Int)) (kv_caches : List (KvTensor × KvTensor))
    (table : DeviceKVExportTable) : Prop where
  signature : List.Forall₂ (fun tensor entry => cacheSignature address_range tensor = some entry)
    (cacheTensors kv_caches) table.signature
  views : ∃ view_bytes, ∀ entry ∈ table.signature, entry.view_bytes = view_bytes
  holds : table.Holds fun _ _ _ => True
  layers : kv_caches.length = LAYERS

theorem table_of (hcurrent : TableReached (fun _ _ _ => True) current) (hlayers : kv_caches.length = LAYERS)
    (hexports : getDeviceKvExports address_range get_export_key current kv_caches = some table) :
    TableOf address_range kv_caches table := by
  obtain ⟨hsignature, hviews, -⟩ := exports_table hexports
  exact ⟨mapM_some hsignature, hviews, table_holds (hcurrent.exported (fun _ _ _ _ => trivial) hexports) table rfl, hlayers⟩

theorem cacheTensors_length (kv_caches : List (KvTensor × KvTensor)) :
    (cacheTensors kv_caches).length = kv_caches.length * 2 := by
  unfold cacheTensors
  rw [List.length_flatMap]
  simp

namespace TableOf

variable (ht : TableOf address_range kv_caches table)

include ht

theorem signature_length : table.signature.length = IPC_KEY_COUNT := by
  rw [← ht.signature.length_eq, cacheTensors_length, ht.layers]
  rfl

theorem keys_length : table.keys.length = IPC_KEY_COUNT := by
  rw [← ht.holds.keys.length_eq, ht.signature_length]

/-- the entry of a cache -/
theorem entry {layer : Fin 28} {layer_cache : KvTensor × KvTensor} (hcache : kv_caches[layer.val]? = some layer_cache)
    {value : Bool} {entry : Signature} (h : cacheSignature address_range (cacheTensor layer_cache value) = some entry) :
    entry ∈ table.signature ∧ table.source_offsets.getD (cacheIndex layer value) 0 = entry.source_offset := by
  obtain ⟨entry', hentry, hsignature⟩ := forall₂_getElem? ht.signature (cacheTensors_at hcache value)
  obtain rfl : entry' = entry := Option.some.inj (hsignature.symm.trans h)
  refine ⟨List.mem_of_getElem? hentry, ?_⟩
  rw [List.getD_eq_getElem?_getD, ht.holds.offsets, List.getElem?_map, hentry]
  rfl

/-- an entry is a cache's -/
theorem cache {entry : Signature} (h : entry ∈ table.signature) : ∃ layer layer_cache value,
    kv_caches[(layer : Fin 28).val]? = some layer_cache ∧
      cacheSignature address_range (cacheTensor layer_cache value) = some entry := by
  obtain ⟨i, hi⟩ := List.mem_iff_getElem?.1 h
  have hlt : i < 56 := by
    rw [← show IPC_KEY_COUNT = 56 from rfl, ← ht.signature_length]
    exact (List.getElem?_eq_some_iff.1 hi).1
  obtain ⟨layer, value, hindex⟩ := cacheIndex_surj ⟨i, hlt⟩
  have hlayer : layer.val < kv_caches.length := by
    rw [ht.layers]
    exact layer.isLt
  refine ⟨layer, kv_caches[layer.val], value, List.getElem?_eq_getElem hlayer, ?_⟩
  obtain ⟨entry', hentry, hsignature⟩ := forall₂_getElem? ht.signature
    (cacheTensors_at (List.getElem?_eq_getElem hlayer) value)
  have hindex : i = (cacheIndex layer value).val := congrArg Fin.val hindex
  rw [← hindex, hi] at hentry
  cases hentry
  exact hsignature

end TableOf

/-- the block of an accepted transfer's row -/
theorem accepted_block (ht : TableOf address_range kv_caches table)
    (hexports : getDeviceKvExports address_range get_export_key current kv_caches = some table)
    {plan : ResidentEpochPlan} {transfer : DeviceKVTransfer} {m : IpcMetadata}
    (h : AcceptedTransfer address_range get_export_key current kv_caches plan transfer m) {r : Row}
    (hsel : selected m.import_mask.toNat r = true) : 0 ≤ transfer.block_ids.getD r 0 ∧
      (∀ entry ∈ table.signature,
        entry.source_offset + (transfer.block_ids.getD r 0 + 1) * BLOCK_BYTES ≤ table.source_bytes) ∧
      ∀ layer layer_cache value entry, kv_caches[(layer : Fin 28).val]? = some layer_cache →
        cacheSignature address_range (cacheTensor layer_cache value) = some entry →
        (CopyInView entry m layer value r ↔ (transfer.block_ids.getD r 0 + 1) * BLOCK_BYTES ≤ entry.view_bytes) := by
  obtain ⟨transfer_id, hcaptured⟩ := h.captured
  obtain ⟨bytes, hbytes, rfl⟩ := h.packed
  obtain ⟨table', htable, -, -, hsize, hoffsets, -⟩ := captured_transfer hcaptured
  obtain rfl : table = table' := Option.some.inj (hexports.symm.trans htable)
  obtain ⟨hvalid, -, -, -⟩ := wire_parts hbytes
  have hm := metadata_parsed hbytes
  rw [selected_iff hm] at hsel
  obtain ⟨-, hblock, hroom⟩ := hvalid.selected r hsel
  refine ⟨hblock, fun entry hentry => ?_, fun layer layer_cache value entry hcache hsignature => ?_⟩
  · rw [← hsize]
    refine (hroom entry.source_offset ?_).2
    rw [hoffsets, ht.holds.offsets]
    exact List.mem_map_of_mem hentry
  · obtain ⟨-, hoffset⟩ := ht.entry hcache hsignature
    have horigin : ((ipcOrigin (parseIpcMetadata bytes) (cacheIndex layer value) r : ℕ) : Int) =
        entry.source_offset + transfer.block_ids.getD r 0 * BLOCK_BYTES := by
      have hbytes : CRUISE_RESIDENT_KV_BLOCK_BYTES = BLOCK_BYTES := rfl
      rw [← hm.block_ids] at hblock
      rw [ipcOrigin, Nat.cast_add, Nat.cast_mul, hm.source_offsets, Int.toNat_of_nonneg hblock, hm.block_ids, hbytes,
        hoffsets, hoffset]
    have hblock_bytes : (CRUISE_RESIDENT_KV_BLOCK_BYTES : Int) = BLOCK_BYTES := rfl
    have hsplit : (transfer.block_ids.getD r 0 + 1) * (BLOCK_BYTES : Int) =
        transfer.block_ids.getD r 0 * BLOCK_BYTES + BLOCK_BYTES := by ring
    have hpos : (0 : Int) ≤ transfer.block_ids.getD r 0 * BLOCK_BYTES := by positivity
    constructor
    · intro hview
      have hend := (hview .plain fun _ => (0, 0)).2
      have hend : ((ipcOrigin (parseIpcMetadata bytes) (cacheIndex layer value) r : ℕ) : Int) +
          CRUISE_RESIDENT_KV_BLOCK_BYTES ≤ entry.source_offset + entry.view_bytes := hend
      rw [horigin, hblock_bytes] at hend
      omega
    · intro hfits env sources
      show entry.source_offset ≤ ((ipcOrigin (parseIpcMetadata bytes) (cacheIndex layer value) r : ℕ) : Int) ∧
        ((ipcOrigin (parseIpcMetadata bytes) (cacheIndex layer value) r : ℕ) : Int) + CRUISE_RESIDENT_KV_BLOCK_BYTES ≤
          entry.source_offset + entry.view_bytes
      rw [horigin, hblock_bytes]
      omega

/-- a table with an accepted transfer is usable, up to its blocks -/
theorem accepted_usable (hexports : getDeviceKvExports address_range get_export_key current kv_caches = some table)
    {plan : ResidentEpochPlan} {transfer : DeviceKVTransfer} {m : IpcMetadata}
    (h : AcceptedTransfer address_range get_export_key current kv_caches plan transfer m) :
    (∀ key ∈ table.keys, PackedKeyOk key) ∧
      ((kPhysicalBlocks * BLOCK_BYTES : ℕ) ≤ table.source_bytes ∧ table.source_bytes < 2 ^ 64) ∧
      ∀ r : Row, transfer.block_ids.getD r 0 < 2 ^ 31 := by
  obtain ⟨transfer_id, hcaptured⟩ := h.captured
  obtain ⟨bytes, hbytes, rfl⟩ := h.packed
  obtain ⟨gens, hgens⟩ := h.accepted
  obtain ⟨table', htable, -, -, hsize, -, hkeys⟩ := captured_transfer hcaptured
  obtain rfl : table = table' := Option.some.inj (hexports.symm.trans htable)
  obtain ⟨hvalid, hfits, -, -⟩ := wire_parts hbytes
  have hm := metadata_parsed hbytes
  refine ⟨fun key hkey => ?_, ⟨?_, ?_⟩, fun r => ?_⟩
  · rw [← hkeys] at hkey
    refine ⟨hvalid.key key hkey, fun field hfield => ?_⟩
    obtain ⟨i, hi⟩ := List.mem_iff_getElem?.1 hkey
    have hlt : i < 56 := by
      rw [← show IPC_KEY_COUNT = 56 from rfl, ← hvalid.keys]
      exact (List.getElem?_eq_some_iff.1 hi).1
    have hsame : field = (parseIpcMetadata bytes).keys ⟨i, hlt⟩ :=
      List.ofFn_injective (hfield.trans (key_field hbytes (i := ⟨i, hlt⟩) hi).symm)
    rw [hsame]
    exact validated_key hgens ⟨i, hlt⟩
  · rw [← hsize]
    exact (sourceSizeOk_iff hm).1 h.size
  · rw [← hsize, ← hm.source_bytes]
    have hlt := (parseIpcMetadata bytes).source_bytes.toNat_lt
    exact_mod_cast hlt
  · rw [← hm.block_ids]
    have hlt := ((parseIpcMetadata bytes).block_ids r).toInt_lt
    omega

/-! ### A transfer of the block behind the view -/

/-- row 0 imports a block -/
def blockPlan (block_id : Int) : ResidentEpochPlan where
  version := 3
  graph_batch_size := 4
  max_steps := 1
  logical_capacity := 8
  requests := [⟨0, 0, 5, 11, 3, 4, 9, [block_id], (0, 1), .host, true⟩]
  active_mask := [1, 0, 0, 0]
  sampling_mode := 0
  graph_variant := 0

def blockTransfer (table : DeviceKVExportTable) (block_id : Int) : DeviceKVTransfer where
  transfer_id := 1
  import_mask := 1
  row_generations := [5, 0, 0, 0]
  block_ids := [block_id, 0, 0, 0]
  source_bytes := table.source_bytes
  source_offsets := table.source_offsets
  keys := table.keys

theorem blockPlan_valid (block_id : Int) : (blockPlan block_id).Valid := (planValidate_ok_iff _).1 rfl

theorem row_cases (r : Row) : r = 0 ∨ r ≠ 0 ∧ (maskSelects 1 r = false ∧ [5, 0, 0, 0].getD r.val (0 : Int) = 0) := by
  revert r
  decide

section Block

variable {block_id : Int} (ht : TableOf address_range kv_caches table) (hu : table.Usable) (h0 : 0 ≤ block_id)
  (hroom : ∀ entry ∈ table.signature, entry.source_offset + (block_id + 1) * BLOCK_BYTES ≤ table.source_bytes)

include ht hroom

/-- the offsets of the table -/
theorem block_offsets {source_offset : Int} (h : source_offset ∈ table.source_offsets) :
    0 ≤ source_offset ∧ source_offset + (block_id + 1) * BLOCK_BYTES ≤ table.source_bytes := by
  rw [ht.holds.offsets] at h
  obtain ⟨entry, hentry, rfl⟩ := List.mem_map.1 h
  obtain ⟨layer, layer_cache, value, -, hsignature⟩ := ht.cache hentry
  exact ⟨(signature_tensor hsignature).2.2.2.1, hroom entry hentry⟩

include hu h0

theorem blockTransfer_validate : (blockTransfer table block_id).validate = .ok () := by
  have hsize : 0 < table.source_bytes := by
    have hpos : (0 : Int) < (kPhysicalBlocks * BLOCK_BYTES : ℕ) := by decide
    exact hpos.trans_le hu.size.1
  have hlength : table.source_offsets.length = IPC_KEY_COUNT := by
    rw [ht.holds.offsets, List.length_map, ht.signature_length]
  have hid : ¬(1 : Int) ≤ 0 := by decide
  have hmask : ¬((1 : Int) ≤ 0 ∨ (1 : Int) ≥ 16) := by decide
  unfold DeviceKVTransfer.validate
  simp only [except_bind_ok, refuse_ok, forM_ok_iff, exists_const]
  refine ⟨hid, by simp [blockTransfer], by simp [blockTransfer], hmask, not_le.2 hsize, not_not.2 hlength,
    not_not.2 ht.keys_length, fun row hrow => ?_, fun key hkey => ?_⟩
  · have hlt : row < 4 := List.mem_range.1 hrow
    unfold DeviceKVTransfer.validateRow
    rcases row_cases ⟨row, hlt⟩ with hzero | ⟨hne, hmask, -⟩
    · obtain rfl : row = 0 := congrArg Fin.val hzero
      have hmask : maskSelects 1 0 = true := by decide
      have hgeneration : (0 : Int) < 5 := by decide
      rw [if_pos (show maskSelects (blockTransfer table block_id).import_mask 0 = true from hmask)]
      simp only [except_bind_ok, refuse_ok, exists_const, not_exists, not_and, not_or, not_lt, not_le]
      refine ⟨⟨hgeneration, h0⟩, fun source_offset hoffset => ?_⟩
      exact block_offsets ht hroom hoffset
    · have hmask : ¬maskSelects (blockTransfer table block_id).import_mask row = true := by
        show ¬maskSelects 1 row = true
        rw [show maskSelects 1 row = false from hmask]
        exact Bool.false_ne_true
      have hrest : row = 1 ∨ row = 2 ∨ row = 3 := by
        have : row ≠ 0 := fun h => hne (Fin.ext h)
        omega
      rw [if_neg hmask, refuse_ok]
      rcases hrest with rfl | rfl | rfl <;> simp [blockTransfer]
  · obtain ⟨⟨hne, hlen⟩, -⟩ := hu.keys key hkey
    unfold encodedKey at hne hlen
    cases hencoded : encodeAscii key with
    | none => simp [hencoded] at hne
    | some encoded =>
      rw [hencoded] at hne hlen
      have hne : encoded ≠ [] := hne
      have hlen : encoded.length ≤ IPC_KEY_BYTES := hlen
      simp [hne, hlen]

theorem blockTransfer_fits (hlt : block_id < 2 ^ 31) : Fits ipcMetadataFields (metadataWords (blockTransfer table block_id)) := by
  have hlength : table.source_offsets.length = 56 := by
    rw [ht.holds.offsets, List.length_map, ht.signature_length]
    rfl
  have hsize := hu.size
  have hsource : 0 ≤ table.source_bytes ∧ table.source_bytes < 256 ^ 8 := by
    have hpos : (0 : Int) ≤ (kPhysicalBlocks * BLOCK_BYTES : ℕ) := by decide
    exact ⟨hpos.trans hsize.1, by norm_num; omega⟩
  have hblock : -(256 ^ 4 / 2 : ℤ) ≤ block_id ∧ block_id < 256 ^ 4 / 2 := by
    norm_num
    omega
  have hbytes : (0 : Int) ≤ (block_id + 1) * BLOCK_BYTES := by positivity
  have hoffsets : Fits (List.replicate 56 Field.Q) table.source_offsets := by
    have hall : ∀ source_offset ∈ table.source_offsets, Field.InRange .Q source_offset := by
      intro source_offset hmem
      obtain ⟨hpos, hend⟩ := block_offsets ht hroom hmem
      have hrange : 0 ≤ source_offset ∧ source_offset < 256 ^ 8 := ⟨hpos, by omega⟩
      exact hrange
    unfold Fits
    rw [← hlength, ← List.map_const', List.forall₂_map_left_iff, List.forall₂_same]
    exact hall
  have hword : Fits ([.Q, .I, .I, .Q] ++ List.replicate 8 .i) ([0x4352554953454950, 2, 1, table.source_bytes] ++
      ([5, 0, 0, 0] ++ [block_id, 0, 0, 0])) := by
    refine .cons (by decide) (.cons (by decide) (.cons (by decide) (.cons hsource (.cons (by decide) (.cons (by decide)
      (.cons (by decide) (.cons (by decide) (.cons hblock (.cons (by decide) (.cons (by decide) (.cons (by decide)
      .nil)))))))))))
  exact List.rel_append hword hoffsets

theorem blockTransfer_packed (hlt : block_id < 2 ^ 31) : ∃ bytes, (blockTransfer table block_id).wireBytes = some bytes := by
  have hvalidate := blockTransfer_validate ht hu h0 hroom
  have hvalid := transferValidate_ok hvalidate
  have hfits := blockTransfer_fits ht hu h0 hroom hlt
  have hkeys : ((blockTransfer table block_id).keys.flatMap paddedKey).length = 56 * 64 := by
    have hwidth : ∀ key ∈ table.keys, (paddedKey key).length = 64 := fun key hkey =>
      paddedKey_length (hu.keys key hkey).encoded.2
    show (table.keys.flatMap paddedKey).length = _
    rw [List.length_flatMap, List.map_congr_left hwidth, List.map_const', List.sum_replicate, ht.keys_length]
    rfl
  have hpack : structPack ipcMetadataFields (metadataWords (blockTransfer table block_id)) =
      some (pack ipcMetadataFields (metadataWords (blockTransfer table block_id))) := if_pos hfits
  unfold metadataWords at hpack
  unfold DeviceKVTransfer.wireBytes
  rw [hvalidate]
  dsimp only
  rw [hpack]
  dsimp only
  refine ⟨_, if_pos ?_⟩
  have hheader : (pack ipcMetadataFields (metadataWords (blockTransfer table block_id))).length =
      recordSize ipcMetadataFields := pack_length hfits.length_eq
  unfold metadataWords at hheader
  rw [List.length_append, hheader]
  exact congrArg (recordSize ipcMetadataFields + ·) hkeys

/-- the block is accepted -/
theorem blockTransfer_accepted (hexports : getDeviceKvExports address_range get_export_key current kv_caches = some table)
    (hlt : block_id < 2 ^ 31) : ∃ m, AcceptedTransfer address_range get_export_key current kv_caches (blockPlan block_id)
      (blockTransfer table block_id) m ∧ selected m.import_mask.toNat 0 = true := by
  have hvalidate := blockTransfer_validate ht hu h0 hroom
  obtain ⟨bytes, hbytes⟩ := blockTransfer_packed ht hu h0 hroom hlt
  have hm := metadata_parsed hbytes
  have hcaptured : captureKvDeviceTransfer address_range get_export_key current kv_caches (blockPlan block_id) 1 =
      some (blockTransfer table block_id) := by
    have hguard : ¬(importRequests (blockPlan block_id) = [] ∨ kv_caches.length ≠ LAYERS) :=
      not_or.2 ⟨List.cons_ne_nil _ _, not_not.2 ht.layers⟩
    have hmask : importMask (importRequests (blockPlan block_id)) = 1 := by
      show 0 ||| 1 <<< (0 : Int).toNat = 1
      decide
    have hsingle : ¬∃ request ∈ importRequests (blockPlan block_id), request.scheduler_block_ids.length ≠ 1 := by
      rintro ⟨request, hmem, hlength⟩
      obtain rfl := List.mem_singleton.1 hmem
      exact hlength rfl
    unfold captureKvDeviceTransfer
    dsimp only
    rw [if_neg hguard, hexports]
    dsimp only
    rw [if_neg hsingle, hmask]
    exact if_pos hvalidate
  refine ⟨parseIpcMetadata bytes, ⟨blockPlan_valid block_id, ⟨1, hcaptured⟩, ⟨bytes, hbytes, rfl⟩,
    ⟨fun r => if r = 0 then 5 else 0, ?_⟩, (sourceSizeOk_iff hm).2 hu.size.1⟩, ?_⟩
  · refine metadata_accepted hbytes (fun r hsel => ?_) fun i => ?_
    · rcases row_cases r with rfl | ⟨-, hmask, -⟩
      · rfl
      · have hsel : maskSelects 1 r = true := hsel
        rw [hmask] at hsel
        cases hsel
    · have hi : i.val < table.keys.length := by
        rw [ht.keys_length]
        exact i.isLt
      exact (hu.keys _ (List.getElem_mem hi)).accepted _ (key_field hbytes (List.getElem?_eq_getElem hi))
  · have hmask : maskSelects 1 0 = true := by decide
    rw [selected_iff hm]
    exact hmask

end Block

/-- the first block that is not all in a view -/
theorem block_behind {view_bytes : Int} {block_id : Int} :
    ¬(block_id + 1) * BLOCK_BYTES ≤ view_bytes ↔ view_bytes / BLOCK_BYTES ≤ block_id := by
  have hbytes : (BLOCK_BYTES : Int) = 131072 := rfl
  rw [hbytes]
  omega

/-! ## The exact condition -/

/-- a table is exported with which a block behind every view can be transferred -/
def Transferable (address_range : Int → Option (Int × Int)) (get_export_key : Int → Int → Option String)
    (current : Option DeviceKVExportTable) (kv_caches : List (KvTensor × KvTensor)) (table : DeviceKVExportTable) : Prop :=
  kv_caches.length = LAYERS ∧ getDeviceKvExports address_range get_export_key current kv_caches = some table ∧
    table.Usable ∧ table.Slack

/-- the table of a captured transfer -/
theorem captured_table {plan : ResidentEpochPlan} {transfer : DeviceKVTransfer} {transfer_id : Int}
    (h : captureKvDeviceTransfer address_range get_export_key current kv_caches plan transfer_id = some transfer) :
    kv_caches.length = LAYERS ∧
      ∃ table, getDeviceKvExports address_range get_export_key current kv_caches = some table := by
  obtain ⟨table, htable, -⟩ := captured_transfer h
  refine ⟨?_, table, htable⟩
  by_contra hlayers
  unfold captureKvDeviceTransfer at h
  dsimp only at h
  rw [if_pos (Or.inr hlayers)] at h
  cases h

/-- the block behind the views of a table can be transferred -/
theorem behind_accepted (hcurrent : TableReached (fun _ _ _ => True) current)
    (h : Transferable address_range get_export_key current kv_caches table) :
    ∃ view_bytes m, (∀ entry ∈ table.signature, entry.view_bytes = view_bytes) ∧
      AcceptedTransfer address_range get_export_key current kv_caches (blockPlan (view_bytes / BLOCK_BYTES))
        (blockTransfer table (view_bytes / BLOCK_BYTES)) m ∧ selected m.import_mask.toNat 0 = true := by
  obtain ⟨hlayers, hexports, hu, hslack⟩ := h
  have ht := table_of hcurrent hlayers hexports
  obtain ⟨view_bytes, hviews⟩ := ht.views
  have hne : table.signature ≠ [] := by
    intro hnil
    have hlength := ht.signature_length
    rw [hnil] at hlength
    cases hlength
  obtain ⟨first, hfirst⟩ := List.exists_mem_of_ne_nil _ hne
  have hpos : 0 ≤ view_bytes / BLOCK_BYTES := by
    obtain ⟨layer, layer_cache, value, -, hsignature⟩ := ht.cache hfirst
    have hview : 0 ≤ view_bytes := by
      rw [← hviews first hfirst, (signature_tensor hsignature).2.1]
      unfold KvTensor.view_bytes
      positivity
    exact Int.ediv_nonneg hview (by positivity)
  have hroom : ∀ entry ∈ table.signature,
      entry.source_offset + (view_bytes / BLOCK_BYTES + 1) * BLOCK_BYTES ≤ table.source_bytes := by
    intro entry hentry
    have hbehind := hslack entry hentry
    rwa [hviews entry hentry] at hbehind
  have hlt : view_bytes / BLOCK_BYTES < 2 ^ 31 := by
    have hblocks := hu.blocks first hfirst
    rwa [hviews first hfirst] at hblocks
  obtain ⟨m, hm, hsel⟩ := blockTransfer_accepted ht hu hpos hroom hexports hlt
  exact ⟨view_bytes, m, hviews, hm, hsel⟩

/-- a copy that leaves its view needs room behind every view -/
theorem left_view (hcurrent : TableReached (fun _ _ _ => True) current) {plan : ResidentEpochPlan}
    {transfer : DeviceKVTransfer} {m : IpcMetadata}
    (h : AcceptedTransfer address_range get_export_key current kv_caches plan transfer m) {layer : Fin 28}
    {layer_cache : KvTensor × KvTensor} {value : Bool} {r : Row} {entry : Signature}
    (hcache : kv_caches[layer.val]? = some layer_cache)
    (hsignature : cacheSignature address_range (cacheTensor layer_cache value) = some entry)
    (hsel : selected m.import_mask.toNat r = true) (hleft : ¬CopyInView entry m layer value r) :
    ∃ table, Transferable address_range get_export_key current kv_caches table := by
  obtain ⟨transfer_id, hcaptured⟩ := h.captured
  obtain ⟨hlayers, table, hexports⟩ := captured_table hcaptured
  have ht := table_of hcurrent hlayers hexports
  obtain ⟨view_bytes, hviews⟩ := ht.views
  obtain ⟨hkeys, hsize, hlt⟩ := accepted_usable hexports h
  obtain ⟨-, hroom, hview⟩ := accepted_block ht hexports h hsel
  have hbehind : view_bytes / BLOCK_BYTES ≤ transfer.block_ids.getD r 0 := by
    rw [hview layer layer_cache value entry hcache hsignature, hviews entry (ht.entry hcache hsignature).1] at hleft
    exact block_behind.1 hleft
  refine ⟨table, hlayers, hexports, ⟨hkeys, hsize, fun other hother => ?_⟩, fun other hother => ?_⟩
  · rw [hviews other hother]
    exact hbehind.trans_lt (hlt r)
  · have hblock : (view_bytes / BLOCK_BYTES + 1) * (BLOCK_BYTES : Int) ≤
        (transfer.block_ids.getD r 0 + 1) * BLOCK_BYTES :=
      mul_le_mul_of_nonneg_right (by omega) (by positivity)
    rw [hviews other hother]
    exact (add_le_add_right hblock _).trans (hroom other hother)

theorem copies_in_view_iff (hcurrent : TableReached (fun _ _ _ => True) current) :
    ReadsViewsOnly address_range get_export_key current kv_caches ↔
      ¬∃ table, Transferable address_range get_export_key current kv_caches table := by
  constructor
  · rintro hreads ⟨table, htable⟩
    obtain ⟨view_bytes, m, hviews, hm, hsel⟩ := behind_accepted hcurrent htable
    obtain ⟨hlayers, hexports, -⟩ := htable
    have ht := table_of hcurrent hlayers hexports
    have hzero : (0 : Fin 28).val < kv_caches.length := by
      rw [hlayers]
      decide
    obtain ⟨layer_cache, hcache⟩ : ∃ layer_cache, kv_caches[(0 : Fin 28).val]? = some layer_cache :=
      ⟨_, List.getElem?_eq_getElem hzero⟩
    obtain ⟨entry, hentry, hsignature⟩ := forall₂_getElem? ht.signature (cacheTensors_at hcache false)
    have hcopy := hreads _ _ m hm 0 layer_cache false 0 entry hcache hsignature hsel
    rw [(accepted_block ht hexports hm hsel).2.2 0 layer_cache false entry hcache hsignature,
      hviews entry (List.mem_of_getElem? hentry)] at hcopy
    exact block_behind.2 le_rfl hcopy
  · intro hnone plan transfer m hm layer layer_cache value r entry hcache hsignature hsel
    by_contra hleft
    exact hnone (left_view hcurrent hm hcache hsignature hsel hleft)

/-- the row of an import of an accepted transfer, and the block the transfer has for it -/
theorem accepted_row {plan : ResidentEpochPlan} {transfer : DeviceKVTransfer} {m : IpcMetadata}
    (h : AcceptedTransfer address_range get_export_key current kv_caches plan transfer m) {request : ResidentEpochRequest}
    (hrequest : request ∈ importRequests plan) : ∃ r : Row, selected m.import_mask.toNat r = true ∧
      transfer.block_ids.getD r 0 = request.scheduler_block_ids.headD 0 := by
  obtain ⟨transfer_id, hcaptured⟩ := h.captured
  obtain ⟨bytes, hbytes, rfl⟩ := h.packed
  obtain ⟨table, -, hmask, hblocks, -⟩ := captured_transfer hcaptured
  obtain ⟨hvalid, -, -, -⟩ := wire_parts hbytes
  have hrow := (h.valid.row request (List.mem_of_mem_filter hrequest)).1
  have hbit : (importMask (importRequests plan)).testBit request.row.toNat = true := by
    rw [importMask_testBit]
    exact decide_eq_true ⟨request, hrequest, rfl⟩
  -- a row from 4 on would leave the mask too large for the transfer
  have hlt : request.row.toNat < 4 := by
    by_contra hge
    have hpow : 2 ^ 4 ≤ 2 ^ request.row.toNat := Nat.pow_le_pow_right (by decide) (not_lt.1 hge)
    have hlarge := hpow.trans (Nat.ge_two_pow_of_testBit hbit)
    have hsmall := hvalid.mask.2
    rw [hmask] at hsmall
    omega
  refine ⟨⟨request.row.toNat, hlt⟩, ?_, ?_⟩
  · rw [selected_iff (metadata_parsed hbytes), hmask]
    exact hbit
  · rw [hblocks]
    exact rowVector_getD h.valid (fun request => request.scheduler_block_ids.headD 0) hrequest (Int.toNat_of_nonneg hrow).symm

/-- over stock caches, copies in the views are copies of the caches' blocks -/
theorem refuses_outside (hcurrent : TableReached (fun _ _ _ => True) current) (hcaches : StockCaches kv_caches)
    (hreads : ReadsViewsOnly address_range get_export_key current kv_caches) :
    RefusesOutsideBlocks address_range get_export_key current kv_caches := by
  intro plan transfer m hm request hrequest layer_cache hmem
  obtain ⟨r, hsel, hblock⟩ := accepted_row hm hrequest
  obtain ⟨transfer_id, hcaptured⟩ := hm.captured
  obtain ⟨hlayers, table, hexports⟩ := captured_table hcaptured
  have ht := table_of hcurrent hlayers hexports
  obtain ⟨hpos, -, hview⟩ := accepted_block ht hexports hm hsel
  obtain ⟨i, hi⟩ := List.mem_iff_getElem?.1 hmem
  have hlayer : i < 28 := by
    rw [← show LAYERS = 28 from rfl, ← hlayers]
    exact (List.getElem?_eq_some_iff.1 hi).1
  obtain ⟨layer, rfl⟩ : ∃ layer : Fin 28, i = layer.val := ⟨⟨i, hlayer⟩, rfl⟩
  obtain ⟨entry, -, hsignature⟩ := forall₂_getElem? ht.signature (cacheTensors_at hi false)
  have hfits := hreads plan transfer m hm layer layer_cache false r entry hi hsignature hsel
  have hbytes : entry.view_bytes = layer_cache.1.shape.headD 0 * BLOCK_BYTES :=
    (signature_tensor hsignature).2.1.trans (view_blocks (hcaches.shape layer_cache hmem).1)
  rw [hview layer layer_cache false entry hi hsignature, hbytes] at hfits
  have hle := le_of_mul_le_mul_right hfits (by decide)
  rw [hblock] at hpos hle
  exact ⟨hpos, Int.lt_of_add_one_le hle⟩

/-- the block behind the views of stock caches is outside them -/
theorem behind_outside (hcurrent : TableReached (fun _ _ _ => True) current) (hcaches : StockCaches kv_caches)
    (h : Transferable address_range get_export_key current kv_caches table) :
    ¬RefusesOutsideBlocks address_range get_export_key current kv_caches := by
  intro hrefuses
  obtain ⟨view_bytes, m, hviews, hm, -⟩ := behind_accepted hcurrent h
  obtain ⟨hlayers, hexports, -⟩ := h
  have ht := table_of hcurrent hlayers hexports
  have hzero : (0 : Fin 28).val < kv_caches.length := by
    rw [hlayers]
    decide
  have hcache := List.getElem?_eq_getElem hzero
  obtain ⟨entry, hentry, hsignature⟩ := forall₂_getElem? ht.signature (cacheTensors_at hcache false)
  have hmem := List.getElem_mem hzero
  have hbytes : view_bytes = kv_caches[(0 : Fin 28).val].1.shape.headD 0 * BLOCK_BYTES := by
    rw [← hviews entry (List.mem_of_getElem? hentry)]
    exact (signature_tensor hsignature).2.1.trans (view_blocks (hcaches.shape _ hmem).1)
  have hlt := (hrefuses _ _ m hm _ (List.mem_singleton.2 rfl) _ hmem).2
  have hlt : view_bytes / BLOCK_BYTES < kv_caches[(0 : Fin 28).val].1.shape.headD 0 := hlt
  rw [hbytes, Int.mul_ediv_cancel _ (by decide)] at hlt
  exact lt_irrefl _ hlt

/-- **The copies of the direct Device import stay in the views**, and its blocks in the stock caches, exactly when no table
has room for a block behind every view, as far as transfers can be made with it. -/
theorem reads_view_iff (hcurrent : TableReached (fun _ _ _ => True) current) :
    (ReadsViewsOnly address_range get_export_key current kv_caches ↔
      ¬∃ table, Transferable address_range get_export_key current kv_caches table) ∧
    (StockCaches kv_caches → (RefusesOutsideBlocks address_range get_export_key current kv_caches ↔
      ¬∃ table, Transferable address_range get_export_key current kv_caches table)) := by
  refine ⟨copies_in_view_iff hcurrent, fun hcaches => ⟨?_, fun hnone => ?_⟩⟩
  · rintro hrefuses ⟨table, htable⟩
    exact behind_outside hcurrent hcaches htable hrefuses
  · exact refuses_outside hcurrent hcaches ((copies_in_view_iff hcurrent).2 hnone)

end View

/-! ## Pools with and without room behind them -/

/-- the pools of 28 MiB end with the last layer -/
theorem pool_reads_views : ReadsViewsOnly poolRange poolKey none poolCaches ∧
    RefusesOutsideBlocks poolRange poolKey none poolCaches := by
  have htables : (getDeviceKvExports poolRange poolKey none poolCaches).any (fun table => table.signature.all fun entry =>
      decide (entry.source_offset + (entry.view_bytes / BLOCK_BYTES + 1) * BLOCK_BYTES ≤ table.source_bytes)) = false := by
    decide +kernel
  have hnone : ¬∃ table, Transferable poolRange poolKey none poolCaches table := by
    rintro ⟨table, -, hexports, -, hslack⟩
    rw [hexports, Option.any_some] at htables
    exact Bool.false_ne_true (htables.symm.trans (List.all_eq_true.2 fun entry hentry => decide_eq_true (hslack entry hentry)))
  have hcaches : StockCaches poolCaches := by
    refine ⟨by decide, fun layer_cache hmem => ?_⟩
    obtain ⟨layer, -, rfl⟩ := List.mem_map.1 hmem
    exact ⟨rfl, rfl⟩
  have hviews : ReadsViewsOnly poolRange poolKey none poolCaches ↔
    ¬∃ table, Transferable poolRange poolKey none poolCaches table := (reads_view_iff TableReached.fresh).1
  have hblocks : RefusesOutsideBlocks poolRange poolKey none poolCaches ↔
    ¬∃ table, Transferable poolRange poolKey none poolCaches table := (reads_view_iff TableReached.fresh).2 hcaches
  exact ⟨hviews.2 hnone, hblocks.2 hnone⟩

/-- the pools in allocations of 30 MiB -/
def slackRange (data_ptr : Int) : Option (Int × Int) :=
  if data_ptr < 1073741824 then some (4096, 31457280) else some (1073741824, 31457280)

theorem pool_key_ok {key : String} (h : key = "k" ∨ key = "v") : PackedKeyOk key := by
  rcases h with rfl | rfl
  · exact ⟨by decide, fun field hfield => key_ok (by decide) (by decide) hfield⟩
  · exact ⟨by decide, fun field hfield => key_ok (by decide) (by decide) hfield⟩

/-- **A block outside the caches is imported.** Row 0 imports block 8 of caches with blocks 0 to 7; what is copied of the
first layer lies behind its view. The Host snapshot refuses the block. -/
theorem slack_block_outside : ∃ transfer m entry,
    AcceptedTransfer slackRange poolKey none poolCaches (blockPlan 8) transfer m ∧
    selected m.import_mask.toNat 0 = true ∧
    cacheSignature slackRange (poolTensor 4096 0) = some entry ∧ ¬CopyInView entry m 0 false 0 ∧
    captureKvSnapshot poolDevice poolCaches (blockPlan 8) 1 = none := by
  have htables : (getDeviceKvExports slackRange poolKey none poolCaches).any (fun table =>
      (table.signature.all fun entry => decide (entry.view_bytes = 1048576 ∧
        entry.source_offset + (8 + 1) * BLOCK_BYTES ≤ table.source_bytes)) &&
      (table.keys.all fun key => decide (key = "k" ∨ key = "v")) && decide (table.source_bytes = 31457280)) = true := by
    decide +kernel
  obtain ⟨table, hexports, htable⟩ := (Option.any_eq_true _ _).1 htables
  simp only [Bool.and_eq_true, List.all_eq_true, decide_eq_true_eq] at htable
  obtain ⟨⟨hentries, hkeys⟩, hsize⟩ := htable
  have ht := table_of TableReached.fresh (show poolCaches.length = LAYERS by decide) hexports
  have hu : table.Usable := by
    refine ⟨fun key hkey => pool_key_ok (hkeys key hkey), ?_, fun entry hentry => ?_⟩
    · rw [hsize]
      decide
    · rw [(hentries entry hentry).1]
      decide
  obtain ⟨m, hm, hsel⟩ := blockTransfer_accepted ht hu (show (0 : Int) ≤ 8 by decide)
    (fun entry hentry => (hentries entry hentry).2) hexports (by decide)
  have hcache : poolCaches[(0 : Fin 28).val]? = some (poolTensor 4096 0, poolTensor 1073741824 0) := rfl
  obtain ⟨entry, hentry, hsignature⟩ := forall₂_getElem? ht.signature (cacheTensors_at hcache false)
  refine ⟨_, m, entry, hm, hsel, hsignature, fun hcopy => ?_, ?_⟩
  · rw [(accepted_block ht hexports hm hsel).2.2 0 _ false entry hcache hsignature,
      (hentries entry (List.mem_of_getElem? hentry)).1] at hcopy
    have hcopy : (8 + 1) * (BLOCK_BYTES : Int) ≤ 1048576 := hcopy
    exact absurd hcopy (by decide)
  · have hsnapshot : (captureKvSnapshot poolDevice poolCaches (blockPlan 8) 1).isSome = false := by decide +kernel
    exact Option.not_isSome_iff_eq_none.1 (by rw [hsnapshot]; exact Bool.false_ne_true)

end Cruise.Worker
