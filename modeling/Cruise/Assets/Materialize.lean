/-
Publishing the runtime weights under a persistent asset root (`materialize_runtime_weights.py`).

MODEL. The state is what stands at the four paths a run uses: the content-addressed directory and its manifest, and the
staging names of both, which carry the process id. Of a directory the regular files count; what is no regular file at the
manifest's path is no manifest. Any operation may raise instead (`fault`), and a write that raises leaves any content.
SHA-256 and the one table that is computed in floating point are parameters. Left out: `/dev/shm` as the output, the
preparation of the root and the lines printed. The cleanup at exit is not interrupted.
- `stage_ok`: what is staged when a run comes to publishing: the files with their records, and the manifest of these.
- `staged_accepted`: **what a run stages, `validate_existing_bundle` accepts**.
-/
import Cruise.Assets.RuntimeConfig
import Cruise.Lib.Effect
import Cruise.Lib.JsonText
import Cruise.Lib.Lines

namespace Cruise.Assets

open Cruise.Lib

/-! ## The frozen decoder -/

def MODEL_REVISION : String := "a09a35458c702b33eeacc393d103063234e8bc28"
def MODEL_CONFIG_SHA256 : String := "7463bb0ea78315365e6c6b74de4e73bbcc8359dfb0c5a737584e077d42c0b03c"
def MODEL_INDEX_SHA256 : String := "624bf7c47cd12468fdc16e38a47cf4f19e0415b859a223ba3c027eed2f0e1028"
def NUM_LAYERS : ℕ := 28
def HIDDEN_SIZE : ℕ := 3584
def INTERMEDIATE_SIZE : ℕ := 18944
def NUM_HEADS : ℕ := 28
def NUM_KV_HEADS : ℕ := 4
def HEAD_SIZE : ℕ := 128
def VOCAB_SIZE : ℕ := 152064
def ROPE_THETA : ℕ := 1000000
def PHYSICAL_BLOCKS : ℕ := 8
def BLOCK_SIZE : ℕ := 128
def LOGICAL_CAPACITY : ℕ := 8
def EXPECTED_CHECKPOINT_TENSORS : ℕ := 339
def EXPECTED_EXTERNAL_FILES : ℕ := 342
def EXPECTED_EXTERNAL_BYTES : ℕ := 15231237408
def EXPECTED_MANIFEST_SHA256 : String := "2ec95bf8e78cfaf091782b3c531b19b9cced35dcfab0e418c756e25abe456761"

/-- the tensors of a layer: the end of the key, the local name and the shape -/
def layerTensors : List (String × String × List ℕ) := [
  (".input_layernorm.weight", "input_norm", [HIDDEN_SIZE]),
  (".post_attention_layernorm.weight", "post_norm", [HIDDEN_SIZE]),
  (".self_attn.q_proj.weight", "q_weight", [HIDDEN_SIZE, HIDDEN_SIZE]),
  (".self_attn.q_proj.bias", "q_bias", [HIDDEN_SIZE]),
  (".self_attn.k_proj.weight", "k_weight", [NUM_KV_HEADS * HEAD_SIZE, HIDDEN_SIZE]),
  (".self_attn.k_proj.bias", "k_bias", [NUM_KV_HEADS * HEAD_SIZE]),
  (".self_attn.v_proj.weight", "v_weight", [NUM_KV_HEADS * HEAD_SIZE, HIDDEN_SIZE]),
  (".self_attn.v_proj.bias", "v_bias", [NUM_KV_HEADS * HEAD_SIZE]),
  (".self_attn.o_proj.weight", "o_weight", [HIDDEN_SIZE, HIDDEN_SIZE]),
  (".mlp.gate_proj.weight", "gate_weight", [INTERMEDIATE_SIZE, HIDDEN_SIZE]),
  (".mlp.up_proj.weight", "up_weight", [INTERMEDIATE_SIZE, HIDDEN_SIZE]),
  (".mlp.down_proj.weight", "down_weight", [HIDDEN_SIZE, INTERMEDIATE_SIZE])]

def layerKey (layer : ℕ) (suffix : String) : String := s!"model.layers.{layer}{suffix}"

/-- the checkpoint's tensors: key, destination and shape; the items of `checkpoint_destinations()` and `expected_shapes()` -/
def checkpointTensors : List (String × String × List ℕ) := [
  ("model.embed_tokens.weight", "embedding", [VOCAB_SIZE, HIDDEN_SIZE]),
  ("model.norm.weight", "final_norm", [HIDDEN_SIZE]),
  ("lm_head.weight", "lm_head", [VOCAB_SIZE, HIDDEN_SIZE])] ++
  (List.range NUM_LAYERS).flatMap fun layer =>
    layerTensors.map fun (suffix, local_name, shape) => (layerKey layer suffix, s!"layers_{layer}_{local_name}", shape)

/-- `checkpoint_destinations` -/
def checkpointDestinations : List (String × String) :=
  dictOf (checkpointTensors.map fun (key, destination, _) => (key, destination))

/-- `expected_shapes` -/
def expectedShapes : List (String × List ℕ) := dictOf (checkpointTensors.map fun (key, _, shape) => (key, shape))

def expectedConfig : List (String × Int) := [
  ("hidden_size", HIDDEN_SIZE), ("intermediate_size", INTERMEDIATE_SIZE), ("num_attention_heads", NUM_HEADS),
  ("num_key_value_heads", NUM_KV_HEADS), ("num_hidden_layers", NUM_LAYERS), ("vocab_size", VOCAB_SIZE),
  ("rope_theta", ROPE_THETA)]

/-! ## What a run meets -/

structure Tensor where
  dtype : String
  shape : List ℕ
  /-- the bytes of its contiguous view -/
  bytes : Bytes

/-- `torch.arange(n, dtype=torch.int32)`, little-endian -/
def arangeInt32 (n : ℕ) : Tensor where
  dtype := "int32"
  shape := [n]
  bytes := (List.range n).flatMap fun i => (List.range 4).map fun k => UInt8.ofNat (i / 256 ^ k)

structure ModelDirectory where
  config : Bytes
  index : Bytes
  /-- the tensor of a key in a shard; none where it cannot be read -/
  get_tensor : String → String → Option Tensor

/-- the operations of a run that may raise -/
inductive Operation where
  | validate
  | target_parent
  | manifest_parent
  | staging
  | config
  | index
  | shard (name : String)
  | write (name : String)
  | record (name : String)
  | temporary_parent
  | manifest_write
  | manifest_hash
  | rename
  | replace
  | print
deriving DecidableEq

inductive Failure where
  | runtime (message : String)
  | other

/-- the regular files of a directory -/
abbrev Directory := List (String × Bytes)

/-- what stands at the content-addressed path -/
inductive Node where
  | directory (files : Directory)
  | other

structure Staging where
  output_dir : Option Directory := none
  temporary_manifest : Option Bytes := none

@[ext]
structure AssetStore where
  target : Option Node := none
  manifest : Option Bytes := none
  staging : Staging := {}

abbrev Stage := EStateM Failure Staging

section Run

variable (sha256 : Bytes → String) (inv_freq : Tensor) (model : ModelDirectory) (fault : Operation → Option Bytes)

/-! ## The reuse check -/

/-- `by_name[name]` -/
def recordOf (records : List Json) (name : String) : Option Json :=
  (records.reverse.filter fun record => record.items.isSome).find? fun record => (record.get "name").any (·.equalsStr name)

/-- one file of the directory against its record -/
def checkFile (records : List Json) (file : String × Bytes) : Except Failure Unit :=
  match recordOf records file.1 with
  | none => .error .other
  | some record =>
    if (record.get "bytes").any (·.equalsInt file.2.length) = false then
      .error (.runtime s!"existing runtime-weight size mismatch: {file.1}")
    else if (record.get "sha256").any (·.equalsStr (sha256 file.2)) = false then
      .error (.runtime s!"existing runtime-weight hash mismatch: {file.1}")
    else .ok ()

/-- `validate_existing_bundle`; the files are gone through in the order of their names -/
def validateExistingBundle (target : Option Node) (manifest : Option Bytes) : Except Failure Unit :=
  match target, manifest with
  | some (.directory directory), some text =>
    if sha256 text ≠ EXPECTED_MANIFEST_SHA256 then
      .error (.runtime "existing runtime-weight manifest hash is incompatible")
    else
      match (decodeText text).bind Json.loads with
      | none => .error .other
      | some value =>
        if value.items.isNone then .error .other
        else
          match value.get "files" with
          | some (.arr records) =>
            let files := directory.insertionSort fun a b => a.1 ≤ b.1
            if records.length ≠ EXPECTED_EXTERNAL_FILES then
              .error (.runtime "existing runtime-weight manifest file list is incomplete")
            else if files.length ≠ EXPECTED_EXTERNAL_FILES then
              .error (.runtime "existing runtime-weight file count is incompatible")
            else if (files.map fun file => file.2.length).sum ≠ EXPECTED_EXTERNAL_BYTES then
              .error (.runtime "existing runtime-weight byte count is incompatible")
            else if (manifestNames records).all hashable = false then .error .other
            else if sameNames (manifestNames records) (files.map Prod.fst) = false then
              .error (.runtime "existing runtime-weight names are incompatible")
            else files.forM (checkFile sha256 records)
          | _ => .error (.runtime "existing runtime-weight manifest file list is incomplete")
  | _, _ => .error (.runtime "content-addressed runtime-weight bundle is incomplete")

/-! ## Staging -/

def attempt (operation : Operation) : Stage Unit :=
  if (fault operation).isSome then throw .other else pure ()

/-- what cannot be read or converted raises -/
def orRaise {α : Type} (value : Option α) : Stage α :=
  match value with
  | none => throw .other
  | some a => pure a

def check (condition : Bool) (message : String) : Stage Unit :=
  if condition then pure () else throw (.runtime message)

/-- `output_dir.mkdir(parents=True, exist_ok=False)` -/
def makeOutputDir : Stage Unit := do
  attempt fault .staging
  let staging ← get
  if staging.output_dir.isSome then throw .other
  set { staging with output_dir := some [] }

/-- `write_tensor`: the file must be new; a write that is short raises, too -/
def writeTensor (name : String) (tensor : Tensor) : Stage Unit := do
  let staging ← get
  let files := staging.output_dir.getD []
  if name ∈ files.map Prod.fst then throw .other
  match fault (.write name) with
  | some content =>
    set { staging with output_dir := some (files ++ [(name, content)]) }
    throw .other
  | none => set { staging with output_dir := some (files ++ [(name, tensor.bytes)]) }

structure FileRecord where
  name : String
  source : String
  shape : List ℕ
  dtype : String
  bytes : ℕ
  sha256 : String

/-- a tensor is written, and its file read back for its record -/
def stageTensor (name source : String) (tensor : Tensor) : Stage FileRecord := do
  writeTensor fault name tensor
  attempt fault (.record name)
  let staging ← get
  let content ← orRaise ((staging.output_dir.getD []).lookup name)
  return { name, source, shape := tensor.shape, dtype := tensor.dtype, bytes := content.length, sha256 := sha256 content }

/-- one key of a shard -/
def stageKey (shard key : String) : Stage FileRecord := do
  let tensor ← orRaise (model.get_tensor shard key)
  check (tensor.dtype = "bfloat16") s!"unexpected dtype for {key}: torch.{tensor.dtype}"
  let shape ← orRaise (expectedShapes.lookup key)
  check (tensor.shape = shape) s!"unexpected shape for {key}: torch.Size({tensor.shape})"
  let destination ← orRaise (checkpointDestinations.lookup key)
  stageTensor sha256 fault destination key tensor

/-- the shards, each with its keys, in the order they are gone through -/
def keysByShard (weight_map : List (String × String)) : List (String × List String) :=
  ((weight_map.map Prod.snd).dedup.insertionSort (· ≤ ·)).map fun shard =>
    (shard, ((weight_map.filter fun item => item.2 = shard).map Prod.fst).insertionSort (· ≤ ·))

def stageShard (shard : String × List String) : Stage (List FileRecord) := do
  attempt fault (.shard shard.1)
  shard.2.mapM fun key => stageKey sha256 model fault shard.1 key

/-- an item of the weight map, whose shard is a file name -/
def shardItem (item : String × Json) : Option (String × String) :=
  match item.2 with
  | .str shard => some (item.1, shard)
  | _ => none

/-- `validate_model_identity`, and the checks of the two files -/
def readModel : Stage (List (String × String)) := do
  attempt fault .config
  check (sha256 model.config = MODEL_CONFIG_SHA256) "model config hash does not match the frozen revision"
  attempt fault .index
  check (sha256 model.index = MODEL_INDEX_SHA256) "model index hash does not match the frozen revision"
  let config ← orRaise ((decodeText model.config).bind Json.loads)
  let index ← orRaise ((decodeText model.index).bind Json.loads)
  check (checkpointDestinations.length = EXPECTED_CHECKPOINT_TENSORS) "internal checkpoint mapping count changed"
  let weight_map ← orRaise ((index.get "weight_map").bind Json.items)
  check (weight_map.map Prod.fst ⊆ checkpointDestinations.map Prod.fst ∧
    checkpointDestinations.map Prod.fst ⊆ weight_map.map Prod.fst) "checkpoint keys do not match the frozen decoder"
  let _ ← orRaise config.items
  check (expectedConfig.all fun item => (config.get item.1).any (·.equalsInt item.2))
    "model configuration does not match the frozen decoder"
  orRaise (weight_map.mapM shardItem)

/-- `derived` -/
def derived : List (String × Tensor) := [
  ("inv_freq", inv_freq),
  ("physical_slots", arangeInt32 (PHYSICAL_BLOCKS * BLOCK_SIZE)),
  ("logical_offsets", arangeInt32 LOGICAL_CAPACITY)]

def FileRecord.toJson (record : FileRecord) : Json := .obj [
  ("name", .str record.name), ("source", .str record.source), ("shape", .arr (record.shape.map fun n => .int n)),
  ("dtype", .str record.dtype), ("bytes", .int record.bytes), ("sha256", .str record.sha256)]

def manifestOf (files : List FileRecord) (total_bytes : ℕ) : Json := .obj [
  ("gate", .str "Attempt 71 runtime external-weight materialization"), ("pass", .bool true),
  ("model_revision", .str MODEL_REVISION), ("model_config_sha256", .str MODEL_CONFIG_SHA256),
  ("model_index_sha256", .str MODEL_INDEX_SHA256), ("checkpoint_tensors", .int EXPECTED_CHECKPOINT_TENSORS),
  ("derived_tensors", .int (derived inv_freq).length), ("external_files", .int files.length),
  ("external_bytes", .int total_bytes), ("files", .arr (files.map FileRecord.toJson))]

/-- `json.dumps(manifest, indent=2, sort_keys=True) + "\n"` -/
def writtenManifest (manifest : Json) : Bytes := encodeText (manifest.dumps (some 2) ++ ['\n'])

/-- the records are checked, and the manifest is written and hashed -/
def stageManifest (records : List FileRecord) : Stage Unit := do
  let files := records.insertionSort fun a b => a.name ≤ b.name
  let total_bytes := (files.map FileRecord.bytes).sum
  check (files.length = EXPECTED_EXTERNAL_FILES) s!"unexpected external file count: {files.length}"
  check (total_bytes = EXPECTED_EXTERNAL_BYTES) s!"unexpected external byte count: {total_bytes}"
  check (files.map FileRecord.name).Nodup "duplicate external weight destination"
  attempt fault .temporary_parent
  let staging ← get
  match fault .manifest_write with
  | some content =>
    set { staging with temporary_manifest := some content }
    throw .other
  | none => set { staging with temporary_manifest := some (writtenManifest (manifestOf inv_freq files total_bytes)) }
  attempt fault .manifest_hash
  let staging ← get
  let written ← orRaise staging.temporary_manifest
  check (sha256 written = EXPECTED_MANIFEST_SHA256)
    s!"runtime-weight manifest changed: expected {EXPECTED_MANIFEST_SHA256}, observed {sha256 written}"

/-- `main` from the staging directory to the manifest's hash -/
def stage : Stage Unit := do
  makeOutputDir fault
  let weight_map ← readModel sha256 model fault
  let checkpoint ← (keysByShard weight_map).mapM (stageShard sha256 model fault)
  let tables ← (derived inv_freq).mapM fun (name, tensor) => stageTensor sha256 fault name "derived" tensor
  stageManifest sha256 inv_freq fault (checkpoint.flatten ++ tables)

/-! ## Publishing -/

/-- `cleanup_partial_output`, while it is enabled -/
def cleanup (store : AssetStore) : AssetStore := { store with staging := {} }

/-- the two moves; whatever raises, the cleanup runs at exit -/
def publish (store : AssetStore) : Except Failure Unit × AssetStore :=
  if (fault .rename).isSome then (.error .other, cleanup store)
  else
    let renamed := { store with
      target := store.staging.output_dir.map .directory
      staging := { store.staging with output_dir := none } }
    if (fault .replace).isSome then (.error .other, cleanup renamed)
    else
      let replaced := { renamed with
        manifest := renamed.staging.temporary_manifest
        staging := { renamed.staging with temporary_manifest := none } }
      -- the cleanup is disabled from here on
      if (fault .print).isSome then (.error .other, replaced) else (.ok (), replaced)

/-- `main` after `prepare_asset_store` -/
def main (asset_root manifest_path : Path) (store : AssetStore) : Except Failure Unit × AssetStore :=
  let expected_manifest := asset_root ++ ["manifests", s!"{EXPECTED_MANIFEST_SHA256}.json"]
  if manifest_path ≠ expected_manifest then
    (.error (.runtime s!"persistent runtime-weight manifest must equal the content-addressed path {expected_manifest.str}"),
      store)
  else if store.target.isSome then
    if (fault .validate).isSome then (.error .other, store)
    else
      match validateExistingBundle sha256 store.target store.manifest with
      | .error e => (.error e, store)
      | .ok () => if (fault .print).isSome then (.error .other, store) else (.ok (), store)
  else if (fault .target_parent).isSome ∨ (fault .manifest_parent).isSome then (.error .other, store)
  else
    match stage sha256 inv_freq model fault store.staging with
    | .error e staging => (.error e, cleanup { store with staging := staging })
    | .ok () staging => publish fault { store with staging := staging }

end Run

/-! ## What is staged -/

section Staged

variable {sha256 : Bytes → String} {inv_freq : Tensor} {model : ModelDirectory} {fault : Operation → Option Bytes}
  {s s' : Staging}

theorem attempt_ok {operation : Operation} (h : attempt fault operation s = .ok () s') :
    s' = s ∧ fault operation = none := by
  unfold attempt at h
  split_ifs at h with hfault
  · cases h
  · cases h
    exact ⟨rfl, by simpa using hfault⟩

theorem orRaise_ok {α : Type} {value : Option α} {a : α} (h : orRaise value s = .ok a s') : s' = s ∧ value = some a := by
  cases value with
  | none => cases h
  | some b =>
    cases h
    exact ⟨rfl, rfl⟩

theorem check_ok {condition : Bool} {message : String} (h : check condition message s = .ok () s') :
    s' = s ∧ condition = true := by
  unfold check at h
  split_ifs at h with hcondition
  · cases h
    exact ⟨rfl, hcondition⟩
  · cases h

/-- a record and the file it is of -/
structure Records (sha256 : Bytes → String) (record : FileRecord) (file : String × Bytes) : Prop where
  name : record.name = file.1
  bytes : record.bytes = file.2.length
  sha256 : record.sha256 = sha256 file.2

/-- the files of the staging directory, each with its record -/
structure Staged (sha256 : Bytes → String) (records : List FileRecord) (s : Staging) (files : Directory) : Prop where
  output_dir : s.output_dir = some files
  distinct : (files.map Prod.fst).Nodup
  records : List.Forall₂ (Records sha256) records files

theorem writeTensor_ok {name : String} {tensor : Tensor} (h : writeTensor fault name tensor s = .ok () s') :
    name ∉ (s.output_dir.getD []).map Prod.fst ∧
      s' = { s with output_dir := some (s.output_dir.getD [] ++ [(name, tensor.bytes)]) } := by
  unfold writeTensor at h
  rw [effect_bind_ok] at h
  obtain ⟨staging, _, hget, h⟩ := h
  cases hget
  dsimp only at h
  split_ifs at h with hname
  · rw [effect_bind_ok] at h
    obtain ⟨_, _, hthrow, -⟩ := h
    cases hthrow
  · cases hwrite : fault (.write name) with
    | none =>
      rw [hwrite] at h
      cases h
      exact ⟨hname, rfl⟩
    | some content =>
      rw [hwrite] at h
      cases h

theorem makeOutputDir_ok (h : makeOutputDir fault s = .ok () s') :
    fault .staging = none ∧ s.output_dir = none ∧ s' = { s with output_dir := some [] } := by
  unfold makeOutputDir at h
  rw [effect_bind_ok] at h
  obtain ⟨_, _, hattempt, h⟩ := h
  obtain ⟨rfl, hfault⟩ := attempt_ok hattempt
  rw [effect_bind_ok] at h
  obtain ⟨staging, _, hget, h⟩ := h
  cases hget
  split_ifs at h with hexists
  · rw [effect_bind_ok] at h
    obtain ⟨_, _, hthrow, -⟩ := h
    cases hthrow
  · cases h
    exact ⟨hfault, by simpa using hexists, rfl⟩

variable {records : List FileRecord} {files : Directory}

/-- **A tensor is staged with its record.** -/
theorem stageTensor_ok {name source : String} {tensor : Tensor} {record : FileRecord} (hs : Staged sha256 records s files)
    (h : stageTensor sha256 fault name source tensor s = .ok record s') :
    Staged sha256 (records ++ [record]) s' (files ++ [(name, tensor.bytes)]) := by
  unfold stageTensor at h
  rw [effect_bind_ok] at h
  obtain ⟨_, _, hwrite, h⟩ := h
  obtain ⟨hnew, rfl⟩ := writeTensor_ok hwrite
  rw [effect_bind_ok] at h
  obtain ⟨_, _, hattempt, h⟩ := h
  obtain ⟨rfl, -⟩ := attempt_ok hattempt
  rw [effect_bind_ok] at h
  obtain ⟨staging, _, hget, h⟩ := h
  cases hget
  rw [effect_bind_ok] at h
  obtain ⟨content, _, hread, h⟩ := h
  obtain ⟨rfl, hcontent⟩ := orRaise_ok hread
  cases h
  rw [hs.output_dir, Option.getD_some] at hnew hcontent ⊢
  have hdistinct : ((files ++ [(name, tensor.bytes)]).map Prod.fst).Nodup := by
    rw [List.map_append, List.map_singleton]
    refine List.nodup_append.2 ⟨hs.distinct, List.nodup_singleton _, fun a ha b hb hab => ?_⟩
    rw [hab, List.mem_singleton.1 hb] at ha
    exact hnew ha
  have hbytes : content = tensor.bytes := by
    rw [Option.getD_some, lookup_concat hnew] at hcontent
    exact (Option.some.inj hcontent).symm
  subst hbytes
  exact ⟨rfl, hdistinct, List.rel_append hs.records (.cons ⟨rfl, rfl, rfl⟩ .nil)⟩

theorem stageKey_ok {shard key : String} {record : FileRecord} (hs : Staged sha256 records s files)
    (h : stageKey sha256 model fault shard key s = .ok record s') :
    ∃ file, Staged sha256 (records ++ [record]) s' (files ++ [file]) := by
  unfold stageKey at h
  rw [effect_bind_ok] at h
  obtain ⟨tensor, _, htensor, h⟩ := h
  obtain ⟨rfl, -⟩ := orRaise_ok htensor
  rw [effect_bind_ok] at h
  obtain ⟨_, _, hdtype, h⟩ := h
  obtain ⟨rfl, -⟩ := check_ok hdtype
  rw [effect_bind_ok] at h
  obtain ⟨_, _, hshape, h⟩ := h
  obtain ⟨rfl, -⟩ := orRaise_ok hshape
  rw [effect_bind_ok] at h
  obtain ⟨_, _, hcheck, h⟩ := h
  obtain ⟨rfl, -⟩ := check_ok hcheck
  rw [effect_bind_ok] at h
  obtain ⟨destination, _, hdestination, h⟩ := h
  obtain ⟨rfl, -⟩ := orRaise_ok hdestination
  exact ⟨_, stageTensor_ok hs h⟩

/-- a loop that stages files, from what was staged before it -/
theorem stageAll_ok {ι : Type} (step : ι → Stage FileRecord) {l : List ι} {collected : List FileRecord}
    (hstep : ∀ a ∈ l, ∀ records files s record s', Staged sha256 records s files → step a s = .ok record s' →
      ∃ file, Staged sha256 (records ++ [record]) s' (files ++ [file]))
    (hs : Staged sha256 records s files) (h : l.mapM step s = .ok collected s') :
    ∃ files', Staged sha256 (records ++ collected) s' files' := by
  have hinv := effect_mapM_ok (fun done t => ∃ files', Staged sha256 (records ++ done) t files')
    (fun a ha done t record t' ⟨files', hfiles⟩ hrun => by
      obtain ⟨file, hnext⟩ := hstep a ha _ _ _ _ _ hfiles hrun
      rw [List.append_assoc] at hnext
      exact ⟨_, hnext⟩)
    ⟨files, by rwa [List.append_nil]⟩ h
  exact hinv

theorem stageShard_ok {shard : String × List String} {collected : List FileRecord} (hs : Staged sha256 records s files)
    (h : stageShard sha256 model fault shard s = .ok collected s') :
    ∃ files', Staged sha256 (records ++ collected) s' files' := by
  unfold stageShard at h
  rw [effect_bind_ok] at h
  obtain ⟨_, _, hattempt, h⟩ := h
  obtain ⟨rfl, -⟩ := attempt_ok hattempt
  exact stageAll_ok _ (fun key _ records files s record s' hs hkey => stageKey_ok hs hkey) hs h

theorem readModel_keeps : KeepsState (readModel sha256 model fault) := by
  have hattempt (operation : Operation) : KeepsState (attempt fault operation) := fun _ _ _ h => (attempt_ok h).1
  have hcheck (condition : Bool) (message : String) : KeepsState (check condition message) := fun _ _ _ h => (check_ok h).1
  have hraise {α : Type} (value : Option α) : KeepsState (orRaise value) := fun _ _ _ h => (orRaise_ok h).1
  unfold readModel
  exact (hattempt _).bind fun _ => (hcheck _ _).bind fun _ => (hattempt _).bind fun _ => (hcheck _ _).bind fun _ =>
    (hraise _).bind fun _ => (hraise _).bind fun _ => (hcheck _ _).bind fun _ => (hraise _).bind fun _ =>
    (hcheck _ _).bind fun _ => (hraise _).bind fun _ => (hcheck _ _).bind fun _ => hraise _

/-- the records are those of a whole bundle, and their manifest has the expected hash -/
structure Complete (sha256 : Bytes → String) (inv_freq : Tensor) (records : List FileRecord) (text : Bytes) : Prop where
  files : records.length = EXPECTED_EXTERNAL_FILES
  bytes : (records.map FileRecord.bytes).sum = EXPECTED_EXTERNAL_BYTES
  written : text = writtenManifest (manifestOf inv_freq (records.insertionSort fun a b => a.name ≤ b.name)
    EXPECTED_EXTERNAL_BYTES)
  digest : sha256 text = EXPECTED_MANIFEST_SHA256

theorem stageManifest_ok (h : stageManifest sha256 inv_freq fault records s = .ok () s') :
    ∃ text, Complete sha256 inv_freq records text ∧ s' = { s with temporary_manifest := some text } := by
  have hperm := List.perm_insertionSort (fun a b : FileRecord => a.name ≤ b.name) records
  unfold stageManifest at h
  dsimp only at h
  rw [effect_bind_ok] at h
  obtain ⟨_, _, hcheck, h⟩ := h
  obtain ⟨rfl, hfiles⟩ := check_ok hcheck
  rw [effect_bind_ok] at h
  obtain ⟨_, _, hcheck, h⟩ := h
  obtain ⟨rfl, hbytes⟩ := check_ok hcheck
  rw [effect_bind_ok] at h
  obtain ⟨_, _, hcheck, h⟩ := h
  obtain ⟨rfl, -⟩ := check_ok hcheck
  rw [effect_bind_ok] at h
  obtain ⟨_, _, hattempt, h⟩ := h
  obtain ⟨rfl, -⟩ := attempt_ok hattempt
  rw [effect_bind_ok] at h
  obtain ⟨staging, _, hget, h⟩ := h
  cases hget
  rw [decide_eq_true_eq, hperm.length_eq] at hfiles
  rw [decide_eq_true_eq] at hbytes
  cases hwrite : fault .manifest_write with
  | some content =>
    rw [hwrite] at h
    cases h
  | none =>
    rw [hwrite] at h
    dsimp only at h
    rw [effect_bind_ok] at h
    obtain ⟨_, _, hset, h⟩ := h
    cases hset
    rw [effect_bind_ok] at h
    obtain ⟨_, _, hattempt, h⟩ := h
    obtain ⟨rfl, -⟩ := attempt_ok hattempt
    rw [effect_bind_ok] at h
    obtain ⟨staging, _, hget, h⟩ := h
    cases hget
    rw [effect_bind_ok] at h
    obtain ⟨written, _, hread, h⟩ := h
    obtain ⟨rfl, hwritten⟩ := orRaise_ok hread
    obtain ⟨rfl, hdigest⟩ := check_ok h
    obtain rfl := Option.some.inj hwritten
    rw [hbytes] at hdigest ⊢
    refine ⟨_, ⟨hfiles, ?_, rfl, of_decide_eq_true hdigest⟩, rfl⟩
    rw [← hbytes, (hperm.map _).sum_eq]

/-- **What a run has staged when it comes to publishing.** -/
theorem stage_ok (h : stage sha256 inv_freq model fault s = .ok () s') : ∃ records files text,
    Staged sha256 records s' files ∧ s'.temporary_manifest = some text ∧ Complete sha256 inv_freq records text := by
  unfold stage at h
  rw [effect_bind_ok] at h
  obtain ⟨_, _, hmake, h⟩ := h
  obtain ⟨-, -, rfl⟩ := makeOutputDir_ok hmake
  rw [effect_bind_ok] at h
  obtain ⟨weight_map, _, hread, h⟩ := h
  obtain rfl := readModel_keeps _ _ _ hread
  rw [effect_bind_ok] at h
  obtain ⟨checkpoint, t, hcheckpoint, h⟩ := h
  rw [effect_bind_ok] at h
  obtain ⟨tables, t', htables, h⟩ := h
  have hempty : Staged sha256 [] { s with output_dir := some [] } [] := ⟨rfl, List.nodup_nil, .nil⟩
  -- the shards one after the other, then the tables
  obtain ⟨files, hfiles⟩ := effect_mapM_ok
    (fun done t => ∃ files, Staged sha256 done.flatten t files)
    (fun shard _ done t collected t' ⟨files, hfiles⟩ hrun => by
      rw [List.flatten_append, List.flatten_singleton]
      exact stageShard_ok hfiles hrun)
    ⟨[], hempty⟩ hcheckpoint
  obtain ⟨files', hfiles'⟩ := stageAll_ok
    (fun entry : String × Tensor => stageTensor sha256 fault entry.1 "derived" entry.2)
    (fun entry _ records files t record t' hs hrun => ⟨_, stageTensor_ok hs hrun⟩) hfiles htables
  obtain ⟨text, hcomplete, rfl⟩ := stageManifest_ok h
  exact ⟨_, files', text, ⟨hfiles'.output_dir, hfiles'.distinct, hfiles'.records⟩, rfl, hcomplete⟩

/-! ## The reuse check accepts it -/

theorem toJson_plain (record : FileRecord) : record.toJson.Plain := by
  have hkeys : ["name", "source", "shape", "dtype", "bytes", "sha256"].Nodup := by decide
  have hshape : (Json.arr (record.shape.map fun n => .int n)).Plain :=
    Json.plainValues_iff.2 fun value hvalue => by
      obtain ⟨_, -, rfl⟩ := List.mem_map.1 hvalue
      trivial
  exact ⟨hkeys, trivial, trivial, hshape, trivial, trivial, trivial, trivial⟩

theorem manifestOf_plain (records : List FileRecord) (total_bytes : ℕ) : (manifestOf inv_freq records total_bytes).Plain := by
  have hkeys : ["gate", "pass", "model_revision", "model_config_sha256", "model_index_sha256", "checkpoint_tensors",
      "derived_tensors", "external_files", "external_bytes", "files"].Nodup := by decide
  have hfiles : (Json.arr (records.map FileRecord.toJson)).Plain :=
    Json.plainValues_iff.2 fun value hvalue => by
      obtain ⟨record, -, rfl⟩ := List.mem_map.1 hvalue
      exact toJson_plain record
  exact ⟨hkeys, trivial, trivial, trivial, trivial, trivial, trivial, trivial, trivial, trivial, hfiles, trivial⟩

/-- a record as it is read from a manifest -/
def FileRecord.read (record : FileRecord) : Json := record.toJson.sortKeys

theorem read_get (record : FileRecord) : record.read.get "name" = some (.str record.name) ∧
    record.read.get "bytes" = some (.int record.bytes) ∧ record.read.get "sha256" = some (.str record.sha256) := by
  unfold FileRecord.read
  rw [Json.get_sortKeys (toJson_plain record), Json.get_sortKeys (toJson_plain record),
    Json.get_sortKeys (toJson_plain record)]
  simp [FileRecord.toJson, Json.get, Json.items, List.lookup_cons, Json.sortKeys]

theorem writtenManifest_files (records : List FileRecord) (total_bytes : ℕ) : ∃ value,
    (decodeText (writtenManifest (manifestOf inv_freq records total_bytes))).bind Json.loads = some value ∧
      value.items.isNone = false ∧ value.get "files" = some (.arr (records.map FileRecord.read)) := by
  have hplain := @manifestOf_plain inv_freq records total_bytes
  refine ⟨(manifestOf inv_freq records total_bytes).sortKeys, ?_, rfl, ?_⟩
  · unfold writtenManifest
    rw [decodeText_encodeText, Option.bind_some]
    exact Json.loads_dumps (some 2) hplain fun c hc => by
      rw [List.mem_singleton.1 hc]
      rfl
  · have hmember : (manifestOf inv_freq records total_bytes).get "files" = some (.arr (records.map FileRecord.toJson)) := by
      simp [manifestOf, Json.get, Json.items, List.lookup_cons]
    rw [Json.get_sortKeys hplain, hmember, Option.map_some, Json.sortKeys, Json.sortValues_eq, List.map_map]
    rfl

theorem manifestNames_read (records : List FileRecord) :
    manifestNames (records.map FileRecord.read) = records.map fun record => .str record.name := by
  unfold manifestNames
  have hall : (records.map FileRecord.read).filter (fun record => record.items.isSome) = records.map FileRecord.read := by
    rw [List.filter_eq_self]
    intro value hvalue
    obtain ⟨record, -, rfl⟩ := List.mem_map.1 hvalue
    rfl
  rw [hall, List.map_map]
  refine List.map_congr_left fun record _ => ?_
  show (record.read.get "name").getD .null = _
  rw [(read_get record).1, Option.getD_some]

theorem recordOf_read {records : List FileRecord} {record : FileRecord} (h : record ∈ records) :
    ∃ other ∈ records, recordOf (records.map FileRecord.read) record.name = some other.read ∧ other.name = record.name := by
  have hnamed (other : FileRecord) (name : String) :
      ((other.read.get "name").any (·.equalsStr name)) = true ↔ other.name = name := by
    rw [(read_get other).1, Option.any_some, Json.equalsStr_iff, Json.str.injEq]
  have hfound : (recordOf (records.map FileRecord.read) record.name).isSome = true := by
    unfold recordOf
    rw [List.find?_isSome]
    refine ⟨record.read, List.mem_filter.2 ⟨List.mem_reverse.2 (List.mem_map_of_mem h), rfl⟩, ?_⟩
    exact (hnamed record record.name).2 rfl
  obtain ⟨value, hvalue⟩ := Option.isSome_iff_exists.1 hfound
  have hfind := hvalue
  unfold recordOf at hfind
  have hmem := List.mem_reverse.1 (List.mem_of_mem_filter (List.mem_of_find?_eq_some hfind))
  obtain ⟨other, hother, rfl⟩ := List.mem_map.1 hmem
  have hmatch := List.find?_some hfind
  exact ⟨other, hother, hvalue, (hnamed other record.name).1 hmatch⟩

/-- **What a run stages is accepted.** -/
theorem staged_accepted {text : Bytes} (hs : Staged sha256 records s files) (hc : Complete sha256 inv_freq records text) :
    validateExistingBundle sha256 (some (.directory files)) (some text) = .ok () := by
  have hfiles := List.perm_insertionSort (fun a b : String × Bytes => a.1 ≤ b.1) files
  have hrecords := List.perm_insertionSort (fun a b : FileRecord => a.name ≤ b.name) records
  have hlength : files.length = EXPECTED_EXTERNAL_FILES := hs.records.length_eq.symm.trans hc.files
  have hnames : records.map FileRecord.name = files.map Prod.fst := forall₂_map_eq hs.records fun _ _ h => h.name
  have hbytes : records.map FileRecord.bytes = files.map fun file => file.2.length :=
    forall₂_map_eq hs.records fun _ _ h => h.bytes
  obtain ⟨value, hvalue, hitems, hget⟩ := @writtenManifest_files inv_freq
    (records.insertionSort fun a b => a.name ≤ b.name) EXPECTED_EXTERNAL_BYTES
  rw [← hc.written] at hvalue
  unfold validateExistingBundle
  dsimp only
  rw [if_neg (not_not.2 hc.digest), hvalue]
  dsimp only
  rw [hitems, if_neg Bool.noConfusion, hget]
  dsimp only
  rw [List.length_map, hrecords.length_eq, hc.files, if_neg (not_not.2 rfl), hfiles.length_eq, hlength,
    if_neg (not_not.2 rfl), (hfiles.map _).sum_eq, ← hbytes, hc.bytes, if_neg (not_not.2 rfl), manifestNames_read]
  have hsorted : ∀ name, name ∈ (files.insertionSort fun a b => a.1 ≤ b.1).map Prod.fst ↔
      name ∈ (records.insertionSort fun a b => a.name ≤ b.name).map FileRecord.name := by
    intro name
    rw [(hfiles.map Prod.fst).mem_iff, (hrecords.map FileRecord.name).mem_iff, hnames]
  have hhashable : ((records.insertionSort fun a b => a.name ≤ b.name).map fun record => Json.str record.name).all hashable =
      true := by
    rw [List.all_map, List.all_eq_true]
    exact fun _ _ => rfl
  have hsame : sameNames ((records.insertionSort fun a b => a.name ≤ b.name).map fun record => Json.str record.name)
      ((files.insertionSort fun a b => a.1 ≤ b.1).map Prod.fst) = true := by
    unfold sameNames
    rw [Bool.and_eq_true, List.all_eq_true, List.all_eq_true]
    constructor
    · intro value hvalue
      obtain ⟨record, hrecord, rfl⟩ := List.mem_map.1 hvalue
      exact List.any_eq_true.2 ⟨record.name, (hsorted _).2 (List.mem_map_of_mem hrecord), Json.equalsStr_iff.2 rfl⟩
    · intro name hname
      obtain ⟨record, hrecord, rfl⟩ := List.mem_map.1 ((hsorted name).1 hname)
      exact List.any_eq_true.2 ⟨.str record.name, List.mem_map.2 ⟨record, hrecord, rfl⟩, Json.equalsStr_iff.2 rfl⟩
  rw [hhashable, if_neg Bool.noConfusion, hsame, if_neg Bool.noConfusion, forM_ok_iff]
  intro file hfile
  rw [hfiles.mem_iff] at hfile
  obtain ⟨record, hrecord, hof⟩ := forall₂_mem hs.records hfile
  obtain ⟨other, hother, hlookup, hname⟩ := recordOf_read (hrecords.mem_iff.2 hrecord)
  -- the record found is that of a file of the same name, which is this one
  obtain ⟨file', hfile', hof'⟩ := forall₂_mem hs.records.flip (hrecords.mem_iff.1 hother)
  have hof' : Records sha256 other file' := hof'
  have heq : file' = file := List.inj_on_of_nodup_map hs.distinct hfile' hfile (by rw [← hof'.name, hname, hof.name])
  subst heq
  unfold checkFile
  rw [← hof.name, hlookup]
  dsimp only
  obtain ⟨-, hsize, hdigest⟩ := read_get other
  rw [hsize, hdigest, Option.any_some, Option.any_some, Json.equalsInt_iff.2 (by rw [hof'.bytes]; rfl),
    if_neg Bool.noConfusion, Json.equalsStr_iff.2 (by rw [hof'.sha256]), if_neg Bool.noConfusion]

end Staged

end Cruise.Assets
