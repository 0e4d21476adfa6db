/-
What `PrepareDeviceIpcPayload` leaves in the staging buffer.

The buffer is cleared and then filled by block copies, two for every selected row of every layer. Results:
- `importIpcMemory_yields`: an imported pointer, cached or not, is one an import of its key gave.
- `prepare_keeps_imports`: so are all the cached ones, after any transfer.
- `prepare_payload`: the buffer of a transfer that succeeds is the cleared one with the transfer's block copies.
- `prepare_total`: a transfer whose ACL calls succeed does.
-/
import Cruise.Native.Bridge

namespace Cruise.Native

open Cruise.Lib Cruise.Controller

/-! ## Imports -/

section Imports

-- the pointers that an import of a key gives
variable {Yields : List UInt8 → ℕ → Prop}

def Engine.ImportsFrom (engine : Engine) (Yields : List UInt8 → ℕ → Prop) : Prop :=
  ∀ entry ∈ engine.ipc_imports, Yields entry.1 entry.2

/-- the ACL's imports are of the kind -/
def BridgeEnv.ImportsBy (env : BridgeEnv) (Yields : List UInt8 → ℕ → Prop) : Prop :=
  ∀ key pointer, env.aclrtIpcMemImportByKey key = some pointer → Yields key pointer

variable {env : BridgeEnv} {engine engine' : Engine} {m : IpcMetadata}

theorem importIpcMemory_keeps (henv : env.ImportsBy Yields) (h : engine.ImportsFrom Yields) (key : Fin 64 → UInt8) :
    (importIpcMemory env engine key).1.ImportsFrom Yields := by
  unfold importIpcMemory
  simp only
  split_ifs
  · exact h
  · cases hlookup : engine.ipc_imports.lookup (keyBytes key) with
    | some pointer => exact h
    | none =>
      cases himport : env.aclrtIpcMemImportByKey (keyBytes key) with
      | none => exact h
      | some pointer =>
        intro entry hentry
        rcases List.mem_cons.1 hentry with rfl | hentry
        · exact henv _ _ himport
        · exact h entry hentry

theorem importIpcMemory_yields (henv : env.ImportsBy Yields) (h : engine.ImportsFrom Yields) {key : Fin 64 → UInt8}
    {pointer : ℕ} (hpointer : (importIpcMemory env engine key).2 = some pointer) : Yields (keyBytes key) pointer := by
  unfold importIpcMemory at hpointer
  simp only at hpointer
  split_ifs at hpointer
  cases hlookup : engine.ipc_imports.lookup (keyBytes key) with
  | some cached =>
    simp only [hlookup] at hpointer
    cases hpointer
    obtain ⟨l, l', hentries, -⟩ := List.lookup_eq_some_iff.1 hlookup
    apply h (keyBytes key, pointer)
    rw [hentries]
    exact List.mem_append_right _ List.mem_cons_self
  | none =>
    cases himport : env.aclrtIpcMemImportByKey (keyBytes key) with
    | none =>
      simp only [hlookup, himport] at hpointer
      cases hpointer
    | some imported =>
      simp only [hlookup, himport] at hpointer
      cases hpointer
      exact henv _ _ himport

theorem importIpcMemory_total (engine : Engine) {key : Fin 64 → UInt8} (hkey : keyBytes key ≠ [])
    (himport : (env.aclrtIpcMemImportByKey (keyBytes key)).isSome = true) :
    ∃ pointer, (importIpcMemory env engine key).2 = some pointer := by
  obtain ⟨imported, himported⟩ := Option.isSome_iff_exists.1 himport
  unfold importIpcMemory
  simp only [if_neg hkey]
  cases engine.ipc_imports.lookup (keyBytes key) with
  | some cached => exact ⟨cached, rfl⟩
  | none =>
    rw [himported]
    exact ⟨imported, rfl⟩

/-! ## Copies -/

theorem keyIndex_lt (layer : Fin 28) : layer.val * 2 < 56 := by omega

theorem valueIndex_lt (layer : Fin 28) : layer.val * 2 + 1 < 56 := by omega

def keyIndex (layer : Fin 28) : Fin 56 := ⟨layer * 2, keyIndex_lt layer⟩
def valueIndex (layer : Fin 28) : Fin 56 := ⟨layer * 2 + 1, valueIndex_lt layer⟩
def cacheIndex (layer : Fin 28) (value : Bool) : Fin 56 := if value then valueIndex layer else keyIndex layer

/-- where a row's block starts in the allocation of a cache -/
def ipcOrigin (m : IpcMetadata) (index : Fin 56) (r : Row) : ℕ :=
  (m.source_offsets index).toNat + (m.block_ids r).toInt.toNat * CRUISE_RESIDENT_KV_BLOCK_BYTES

/-- the block copies of one row of one layer -/
def rowCopies (env : BridgeEnv) (m : IpcMetadata) (layer : Fin 28) (sources : ℕ × ℕ) (r : Row) : List BlockCopy :=
  if selected m.import_mask.toNat r = false then []
  else [⟨layer * 4 + r, env.ipc_memory sources.1, ipcOrigin m (keyIndex layer) r⟩,
    ⟨112 + (layer * 4 + r), env.ipc_memory sources.2, ipcOrigin m (valueIndex layer) r⟩]

theorem rowCopies_apply (payload : Mem) (layer : Fin 28) (sources : ℕ × ℕ) (r : Row) {payload' : Mem}
    (h : copyIpcRow env m layer sources.1 sources.2 payload r = some payload') :
    payload' = copyBlocks CRUISE_RESIDENT_KV_BLOCK_BYTES payload (rowCopies env m layer sources r) := by
  unfold copyIpcRow at h
  unfold rowCopies
  by_cases hsel : selected m.import_mask.toNat r = false
  · rw [if_pos hsel] at h ⊢
    cases h
    rfl
  · rw [if_neg hsel] at h ⊢
    simp only at h
    have hhalf : CRUISE_RESIDENT_IMPORT_PAYLOAD_BYTES / 2 + (layer.val * 4 + r.val) * CRUISE_RESIDENT_KV_BLOCK_BYTES =
        (112 + (layer.val * 4 + r.val)) * CRUISE_RESIDENT_KV_BLOCK_BYTES := by
      simp only [CRUISE_RESIDENT_IMPORT_PAYLOAD_BYTES, CRUISE_RESIDENT_KV_BLOCK_BYTES]
      omega
    split_ifs at h
    rw [hhalf] at h
    cases h
    rfl

theorem rowCopies_total (hcopy : ∀ layer r half, env.aclrtMemcpy layer r half = true) (payload : Mem) (layer : Fin 28)
    (sources : ℕ × ℕ) (r : Row) : ∃ payload', copyIpcRow env m layer sources.1 sources.2 payload r = some payload' := by
  unfold copyIpcRow
  by_cases hsel : selected m.import_mask.toNat r = false
  · rw [if_pos hsel]
    exact ⟨payload, rfl⟩
  · rw [if_neg hsel]
    simp only [hcopy, Bool.and_self, if_true]
    exact ⟨_, rfl⟩

theorem layerRows_apply (payload : Mem) (layer : Fin 28) (sources : ℕ × ℕ) (l : List Row) {payload' : Mem}
    (h : l.foldlM (copyIpcRow env m layer sources.1 sources.2) payload = some payload') :
    payload' = copyBlocks CRUISE_RESIDENT_KV_BLOCK_BYTES payload (l.flatMap (rowCopies env m layer sources)) := by
  induction l generalizing payload with
  | nil =>
    cases h
    rfl
  | cons r rest ih =>
    rw [List.foldlM_cons, Option.bind_eq_bind, Option.bind_eq_some_iff] at h
    obtain ⟨payload1, h1, h2⟩ := h
    rw [List.flatMap_cons, copyBlocks_append, ← rowCopies_apply payload layer sources r h1]
    exact ih payload1 h2

theorem layerRows_total (hcopy : ∀ layer r half, env.aclrtMemcpy layer r half = true) (payload : Mem) (layer : Fin 28)
    (sources : ℕ × ℕ) (l : List Row) :
    ∃ payload', l.foldlM (copyIpcRow env m layer sources.1 sources.2) payload = some payload' := by
  induction l generalizing payload with
  | nil => exact ⟨payload, rfl⟩
  | cons r rest ih =>
    obtain ⟨payload1, h1⟩ := rowCopies_total (m := m) hcopy payload layer sources r
    obtain ⟨payload', h'⟩ := ih payload1
    exact ⟨payload', by rw [List.foldlM_cons, h1]; exact h'⟩

/-- the block copies of a list of layers -/
def layerCopies (env : BridgeEnv) (m : IpcMetadata) (sources : Fin 28 → ℕ × ℕ) (l : List (Fin 28)) : List BlockCopy :=
  l.flatMap fun layer => rows.flatMap (rowCopies env m layer (sources layer))

/-- the imports of the layers' keys gave the sources -/
def SourcesOf (Yields : List UInt8 → ℕ → Prop) (m : IpcMetadata) (sources : Fin 28 → ℕ × ℕ) (l : List (Fin 28)) : Prop :=
  ∀ layer ∈ l, Yields (keyBytes (m.keys (keyIndex layer))) (sources layer).1 ∧
    Yields (keyBytes (m.keys (valueIndex layer))) (sources layer).2

theorem copyIpcLayers_keeps (henv : env.ImportsBy Yields) (h : engine.ImportsFrom Yields) (payload : Mem)
    (l : List (Fin 28)) : (copyIpcLayers env m engine payload l).1.ImportsFrom Yields := by
  induction l generalizing engine payload with
  | nil => exact h
  | cons layer rest ih =>
    unfold copyIpcLayers
    have hkey := importIpcMemory_keeps henv h (m.keys (keyIndex layer))
    have hvalue := importIpcMemory_keeps henv hkey (m.keys (valueIndex layer))
    simp only
    split
    · split
      · exact hvalue
      · exact ih hvalue _
    · exact hvalue

theorem layerCopies_apply (henv : env.ImportsBy Yields) (h : engine.ImportsFrom Yields) (payload : Mem)
    {l : List (Fin 28)} (hl : l.Nodup) {payload' : Mem} (hcopied : (copyIpcLayers env m engine payload l).2 = some payload') :
    ∃ sources, SourcesOf Yields m sources l ∧
      payload' = copyBlocks CRUISE_RESIDENT_KV_BLOCK_BYTES payload (layerCopies env m sources l) := by
  induction l generalizing engine payload with
  | nil =>
    cases hcopied
    exact ⟨fun _ => (0, 0), fun layer hlayer => (by cases hlayer), rfl⟩
  | cons layer rest ih =>
    obtain ⟨hlayer, hrest⟩ := List.nodup_cons.1 hl
    unfold copyIpcLayers at hcopied
    have hkey := importIpcMemory_keeps henv h (m.keys (keyIndex layer))
    have hvalue := importIpcMemory_keeps henv hkey (m.keys (valueIndex layer))
    simp only [← keyIndex.eq_1, ← valueIndex.eq_1] at hcopied
    split at hcopied
    case h_2 => cases hcopied
    case h_1 key_source value_source h1 h2 =>
      split at hcopied
      case h_1 => cases hcopied
      case h_2 payload1 hrows =>
        obtain ⟨sources, hsources, hpayload⟩ := ih hvalue payload1 hrest hcopied
        refine ⟨Function.update sources layer (key_source, value_source), ?_, ?_⟩
        · intro other hother
          by_cases heq : other = layer
          · rw [heq, Function.update_self]
            exact ⟨importIpcMemory_yields henv h h1, importIpcMemory_yields henv hkey h2⟩
          · rw [Function.update_of_ne heq]
            exact hsources other ((List.mem_cons.1 hother).resolve_left heq)
        · have hcongr : layerCopies env m (Function.update sources layer (key_source, value_source)) rest =
              layerCopies env m sources rest := by
            refine List.flatMap_congr fun other hother => ?_
            have hne : other ≠ layer := fun heq => hlayer (heq ▸ hother)
            rw [Function.update_of_ne hne]
          have hsplit : layerCopies env m (Function.update sources layer (key_source, value_source)) (layer :: rest) =
              rows.flatMap (rowCopies env m layer (key_source, value_source)) ++ layerCopies env m sources rest := by
            rw [← hcongr, layerCopies, List.flatMap_cons, Function.update_self]
            rfl
          rw [hpayload, hsplit, copyBlocks_append, ← layerRows_apply payload layer (key_source, value_source) rows hrows]

theorem layerCopies_total (hkeys : ∀ i, keyBytes (m.keys i) ≠ [] ∧
      (env.aclrtIpcMemImportByKey (keyBytes (m.keys i))).isSome = true)
    (hcopy : ∀ layer r half, env.aclrtMemcpy layer r half = true) (engine : Engine) (payload : Mem) (l : List (Fin 28)) :
    ∃ payload', (copyIpcLayers env m engine payload l).2 = some payload' := by
  induction l generalizing engine payload with
  | nil => exact ⟨payload, rfl⟩
  | cons layer rest ih =>
    obtain ⟨key_source, hkey⟩ := importIpcMemory_total engine (hkeys (keyIndex layer)).1 (hkeys (keyIndex layer)).2
    obtain ⟨value_source, hvalue⟩ := importIpcMemory_total (importIpcMemory env engine (m.keys (keyIndex layer))).1
      (hkeys (valueIndex layer)).1 (hkeys (valueIndex layer)).2
    obtain ⟨payload1, hrows⟩ := layerRows_total (m := m) hcopy payload layer (key_source, value_source) rows
    unfold copyIpcLayers
    simp only [← keyIndex.eq_1, ← valueIndex.eq_1, hkey, hvalue, hrows]
    exact ih _ payload1

/-! ## The whole transfer -/

/-- **Cached pointers stay imports.** -/
theorem prepare_keeps_imports (henv : env.ImportsBy Yields) (h : engine.ImportsFrom Yields) :
    (prepareDeviceIpcPayload env engine m).1.ImportsFrom Yields := by
  unfold prepareDeviceIpcPayload
  by_cases hsize : m.source_bytes.toNat < kPhysicalBlocks * CRUISE_RESIDENT_KV_BLOCK_BYTES
  · rw [if_pos hsize]
    exact h
  rw [if_neg hsize]
  cases hdestination : engine.device_import_payload.or env.aclrtMalloc with
  | none => exact h
  | some destination =>
    simp only
    have hengine : ({ engine with device_import_payload := some destination } : Engine).ImportsFrom Yields := h
    by_cases hmemset : env.aclrtMemset = false
    · rw [if_pos hmemset]
      exact hengine
    rw [if_neg hmemset]
    have hkept := copyIpcLayers_keeps (m := m) henv hengine
      (memset destination 0 0 CRUISE_RESIDENT_IMPORT_PAYLOAD_BYTES) (List.finRange 28)
    split
    next engine1 hcopied =>
      rw [hcopied] at hkept
      exact hkept
    next engine1 payload hcopied =>
      rw [hcopied] at hkept
      exact hkept

/-- **The staging buffer.** Nothing of what it held before is left in the payload's bytes. -/
theorem prepare_payload (henv : env.ImportsBy Yields) (h : engine.ImportsFrom Yields) {payload : Mem}
    (hprepared : prepareDeviceIpcPayload env engine m = (engine', some payload)) :
    ∃ destination sources, SourcesOf Yields m sources (List.finRange 28) ∧
      payload = copyBlocks CRUISE_RESIDENT_KV_BLOCK_BYTES (memset destination 0 0 CRUISE_RESIDENT_IMPORT_PAYLOAD_BYTES)
        (layerCopies env m sources (List.finRange 28)) := by
  unfold prepareDeviceIpcPayload at hprepared
  by_cases hsize : m.source_bytes.toNat < kPhysicalBlocks * CRUISE_RESIDENT_KV_BLOCK_BYTES
  · rw [if_pos hsize] at hprepared
    cases hprepared
  rw [if_neg hsize] at hprepared
  cases hdestination : engine.device_import_payload.or env.aclrtMalloc with
  | none =>
    rw [hdestination] at hprepared
    cases hprepared
  | some destination =>
    rw [hdestination] at hprepared
    simp only at hprepared
    by_cases hmemset : env.aclrtMemset = false
    · rw [if_pos hmemset] at hprepared
      cases hprepared
    rw [if_neg hmemset] at hprepared
    split at hprepared
    next engine1 hcopied => cases hprepared
    next engine1 payload1 hcopied =>
      cases hprepared
      have hengine : ({ engine with device_import_payload := some destination } : Engine).ImportsFrom Yields := h
      obtain ⟨sources, hsources, hpayload⟩ :=
        layerCopies_apply henv hengine _ (List.nodup_finRange 28) (congrArg Prod.snd hcopied)
      exact ⟨destination, sources, hsources, hpayload⟩

/-! ## Bytes -/

/-- the number of a cache's block in the payload: keys first, then values -/
def payloadBlock (value : Bool) (layer : Fin 28) (r : Row) : ℕ := (if value then 112 else 0) + (layer * 4 + r)

theorem payloadBlock_inj {value value' : Bool} {layer layer' : Fin 28} {r r' : Row}
    (h : payloadBlock value layer r = payloadBlock value' layer' r') : value = value' ∧ layer = layer' ∧ r = r' := by
  have hr : r.val < 4 := r.isLt
  have hr' : r'.val < 4 := r'.isLt
  have hl := layer.isLt
  have hl' := layer'.isLt
  have hvalue : value = value' := by
    unfold payloadBlock at h
    cases value <;> cases value' <;> first | rfl | (simp only [Bool.false_eq_true, if_false, if_true] at h; omega)
  subst hvalue
  have h : layer.val * 4 + r.val = layer'.val * 4 + r'.val := Nat.add_left_cancel h
  exact ⟨rfl, Fin.ext (by omega), Fin.ext (by omega)⟩

theorem payloadBlock_surj {b : ℕ} (h : b < 224) : ∃ value layer r, b = payloadBlock value layer r := by
  refine ⟨decide (112 ≤ b), ⟨b % 112 / 4, by omega⟩, ⟨b % 4, by omega⟩, ?_⟩
  unfold payloadBlock
  by_cases hb : 112 ≤ b
  · rw [if_pos (decide_eq_true hb)]
    dsimp only
    omega
  · rw [if_neg (by simpa using hb)]
    dsimp only
    omega

/-- the copy that fills a block -/
def blockCopy (env : BridgeEnv) (m : IpcMetadata) (sources : Fin 28 → ℕ × ℕ) (value : Bool) (layer : Fin 28) (r : Row) :
    BlockCopy where
  target := payloadBlock value layer r
  source := env.ipc_memory (if value then (sources layer).2 else (sources layer).1)
  origin := ipcOrigin m (cacheIndex layer value) r

theorem mem_layerCopies {sources : Fin 28 → ℕ × ℕ} {c : BlockCopy} : c ∈ layerCopies env m sources (List.finRange 28) ↔
    ∃ value layer r, selected m.import_mask.toNat r = true ∧ c = blockCopy env m sources value layer r := by
  have hkey (layer : Fin 28) (r : Row) : blockCopy env m sources false layer r =
      ⟨layer * 4 + r, env.ipc_memory (sources layer).1, ipcOrigin m (keyIndex layer) r⟩ := by
    rw [blockCopy, payloadBlock, cacheIndex, if_neg Bool.false_ne_true, if_neg Bool.false_ne_true,
      if_neg Bool.false_ne_true, Nat.zero_add]
  have hvalue (layer : Fin 28) (r : Row) : blockCopy env m sources true layer r =
      ⟨112 + (layer * 4 + r), env.ipc_memory (sources layer).2, ipcOrigin m (valueIndex layer) r⟩ := rfl
  have hrow (layer : Fin 28) (r : Row) : c ∈ rowCopies env m layer (sources layer) r ↔
      selected m.import_mask.toNat r = true ∧ (c = blockCopy env m sources false layer r ∨
        c = blockCopy env m sources true layer r) := by
    rw [hkey, hvalue, rowCopies]
    cases hsel : selected m.import_mask.toNat r with
    | false => simp
    | true => simp
  constructor
  · intro h
    obtain ⟨layer, -, h⟩ := List.mem_flatMap.1 h
    obtain ⟨r, -, h⟩ := List.mem_flatMap.1 h
    obtain ⟨hsel, h | h⟩ := (hrow layer r).1 h
    · exact ⟨false, layer, r, hsel, h⟩
    · exact ⟨true, layer, r, hsel, h⟩
  · rintro ⟨value, layer, r, hsel, rfl⟩
    refine List.mem_flatMap.2 ⟨layer, List.mem_finRange layer, List.mem_flatMap.2 ⟨r, mem_rows r, (hrow layer r).2 ⟨hsel, ?_⟩⟩⟩
    cases value with
    | false => exact Or.inl rfl
    | true => exact Or.inr rfl

/-- **The staging buffer, byte by byte.** -/
theorem copied_byte (sources : Fin 28 → ℕ × ℕ) (destination : Mem) (value : Bool) (layer : Fin 28) (r : Row) {a : ℕ}
    (ha : a / CRUISE_RESIDENT_KV_BLOCK_BYTES = payloadBlock value layer r) (hlt : a < CRUISE_RESIDENT_IMPORT_PAYLOAD_BYTES) :
    copyBlocks CRUISE_RESIDENT_KV_BLOCK_BYTES (memset destination 0 0 CRUISE_RESIDENT_IMPORT_PAYLOAD_BYTES)
        (layerCopies env m sources (List.finRange 28)) a =
      if selected m.import_mask.toNat r then
        (blockCopy env m sources value layer r).source
          ((blockCopy env m sources value layer r).origin + a % CRUISE_RESIDENT_KV_BLOCK_BYTES)
      else 0 := by
  have hs : 0 < CRUISE_RESIDENT_KV_BLOCK_BYTES := by decide
  split_ifs with hsel
  · refine copyBlocks_target hs ?_ ⟨_, mem_layerCopies.2 ⟨value, layer, r, hsel, rfl⟩, ha.symm⟩ _
    intro c hc htarget
    obtain ⟨value', layer', r', -, rfl⟩ := mem_layerCopies.1 hc
    obtain ⟨rfl, rfl, rfl⟩ := payloadBlock_inj (htarget.trans ha)
    rfl
  · have hnone : ∀ c ∈ layerCopies env m sources (List.finRange 28), c.target ≠ a / CRUISE_RESIDENT_KV_BLOCK_BYTES := by
      intro c hc htarget
      obtain ⟨value', layer', r', hsel', rfl⟩ := mem_layerCopies.1 hc
      obtain ⟨rfl, rfl, rfl⟩ := payloadBlock_inj (htarget.trans ha)
      exact hsel hsel'
    rw [copyBlocks_other hs hnone, memset, if_pos ⟨Nat.zero_le a, by omega⟩]

/-! ## Success -/

/-- the ACL calls of a transfer succeed -/
structure AclOk (env : BridgeEnv) (m : IpcMetadata) : Prop where
  malloc : env.aclrtMalloc.isSome = true
  memset : env.aclrtMemset = true
  imported : ∀ i, (env.aclrtIpcMemImportByKey (keyBytes (m.keys i))).isSome = true
  memcpy : ∀ layer r half, env.aclrtMemcpy layer r half = true

theorem prepare_total (hacl : AclOk env m) (hkeys : ∀ i, keyBytes (m.keys i) ≠ [])
    (hsize : kPhysicalBlocks * CRUISE_RESIDENT_KV_BLOCK_BYTES ≤ m.source_bytes.toNat) (engine : Engine) :
    ∃ engine' payload, prepareDeviceIpcPayload env engine m = (engine', some payload) := by
  obtain ⟨fresh, hmalloc⟩ := Option.isSome_iff_exists.1 hacl.malloc
  obtain ⟨destination, hdestination⟩ : ∃ destination, engine.device_import_payload.or env.aclrtMalloc = some destination := by
    rw [hmalloc]
    cases engine.device_import_payload with
    | none => exact ⟨fresh, rfl⟩
    | some kept => exact ⟨kept, rfl⟩
  obtain ⟨payload, hpayload⟩ := layerCopies_total (fun i => ⟨hkeys i, hacl.imported i⟩) hacl.memcpy
    { engine with device_import_payload := some destination }
    (Lib.memset destination 0 0 CRUISE_RESIDENT_IMPORT_PAYLOAD_BYTES) (List.finRange 28)
  unfold prepareDeviceIpcPayload
  rw [if_neg (by omega), hdestination]
  simp only [hacl.memset, Bool.true_eq_false, if_false]
  split
  next engine1 hcopied =>
    rw [hcopied] at hpayload
    cases hpayload
  next engine1 payload1 hcopied => exact ⟨_, _, rfl⟩

end Imports

end Cruise.Native
