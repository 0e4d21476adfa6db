/-
The frozen checkpoint under the materialization (`materialize_runtime_weights.py`).

- `checkpoint_keys`, `checkpoint_names`: no two tensors share a key or a file name.
- `keysByShard_perm`: the loop over the shards meets every key of the weight map once.
- `stage_returns`: **a run over the frozen checkpoint is staged**, whatever its tensors hold and however the index spreads
  them over shards, if no operation of the staging raises.
-/
import Cruise.Assets.Materialize

namespace Cruise.Assets

open Cruise.Lib

/-! ## Numbered names -/

/-- a number between two texts, of which the second does not begin with a digit -/
theorem numbered_inj {head : String} {i j : ℕ} {a b : String} (ha : ∀ c ∈ a.toList.head?, c.isDigit = false)
    (hb : ∀ c ∈ b.toList.head?, c.isDigit = false) (h : head ++ toString i ++ a = head ++ toString j ++ b) :
    i = j ∧ a = b := by
  have hchars : digits i ++ a.toList = digits j ++ b.toList := by
    have hlists := congrArg String.toList h
    simp only [String.toList_append, List.append_assoc, List.append_cancel_left_eq] at hlists
    rwa [show toString i = i.repr from rfl, show toString j = j.repr from rfl, Nat.toList_repr, Nat.toList_repr] at hlists
  have hspan := congrArg (List.span Char.isDigit) hchars
  rw [span_digits i ha, span_digits j hb, Prod.mk.injEq] at hspan
  have hnumber := congrArg digitsValue hspan.1
  rw [digitsValue_digits, digitsValue_digits] at hnumber
  exact ⟨hnumber, String.toList_injective hspan.2⟩

/-- names that are numbered in this way, after some that do not begin as they do -/
theorem numbered_nodup {head : String} {fixed locals : List String} (hfixed : fixed.Nodup) (hlocals : locals.Nodup)
    (hhead : ∀ name ∈ fixed, ¬head.toList <+: name.toList)
    (hdigit : ∀ name ∈ locals, name.toList.head?.any Char.isDigit = false) (n : ℕ) :
    (fixed ++ (List.range n).flatMap fun i => locals.map fun name => head ++ toString i ++ name).Nodup := by
  have hlead : ∀ name ∈ locals, ∀ c ∈ name.toList.head?, c.isDigit = false := by
    intro name hname c hc
    have hfirst := hdigit name hname
    rwa [Option.mem_def.1 hc, Option.any_some] at hfirst
  refine List.nodup_append.2 ⟨hfixed, ?_, ?_⟩
  · rw [List.nodup_flatMap]
    constructor
    · intro i _
      refine hlocals.map_on fun a ha b hb h => ?_
      exact (numbered_inj (hlead a ha) (hlead b hb) h).2
    · refine List.nodup_range.imp_of_mem ?_
      intro i j _ _ hne
      refine List.disjoint_left.2 fun name hi hj => ?_
      obtain ⟨a, ha, rfl⟩ := List.mem_map.1 hi
      obtain ⟨b, hb, h⟩ := List.mem_map.1 hj
      exact hne (numbered_inj (hlead b hb) (hlead a ha) h).1.symm
  · intro a ha b hb hab
    subst hab
    obtain ⟨i, -, hi⟩ := List.mem_flatMap.1 hb
    obtain ⟨name, -, rfl⟩ := List.mem_map.1 hi
    refine hhead _ ha ?_
    rw [String.append_assoc, String.toList_append]
    exact List.prefix_append _ _

theorem checkpoint_keys : (checkpointTensors.map fun tensor => tensor.1).Nodup := by
  have h : (["model.embed_tokens.weight", "model.norm.weight", "lm_head.weight"] ++
      (List.range NUM_LAYERS).flatMap fun i => (layerTensors.map fun tensor => tensor.1).map fun name =>
        "model.layers." ++ toString i ++ name).Nodup :=
    numbered_nodup (by decide) (by decide) (by decide) (by decide) NUM_LAYERS
  unfold checkpointTensors layerKey
  rw [List.map_append, List.map_flatMap]
  simp only [List.map_map] at h ⊢
  exact h

theorem checkpoint_names : (checkpointTensors.map (fun tensor => tensor.2.1) ++
    ["inv_freq", "physical_slots", "logical_offsets"]).Nodup := by
  have h : (["inv_freq", "physical_slots", "logical_offsets", "embedding", "final_norm", "lm_head"] ++
      (List.range NUM_LAYERS).flatMap fun i => (layerTensors.map fun tensor => "_" ++ tensor.2.1).map fun name =>
        "layers_" ++ toString i ++ name).Nodup :=
    numbered_nodup (by decide) (by decide) (by decide) (by decide) NUM_LAYERS
  have hnames : checkpointTensors.map (fun tensor => tensor.2.1) = ["embedding", "final_norm", "lm_head"] ++
      (List.range NUM_LAYERS).flatMap fun i => (layerTensors.map fun tensor => "_" ++ tensor.2.1).map fun name =>
        "layers_" ++ toString i ++ name := by
    unfold checkpointTensors
    rw [List.map_append, List.map_flatMap]
    simp only [List.map_map, Function.comp_def, String.append_assoc]
    rfl
  rw [hnames]
  exact List.perm_append_comm.nodup h

theorem checkpointDestinations_eq :
    checkpointDestinations = checkpointTensors.map fun (key, destination, _) => (key, destination) := by
  refine dictOf_self ?_
  rw [List.map_map]
  exact checkpoint_keys

theorem expectedShapes_eq : expectedShapes = checkpointTensors.map fun (key, _, shape) => (key, shape) := by
  refine dictOf_self ?_
  rw [List.map_map]
  exact checkpoint_keys

theorem destination_of {entry : String × String × List ℕ} (h : entry ∈ checkpointTensors) :
    checkpointDestinations.lookup entry.1 = some entry.2.1 := by
  refine (lookup_iff_mem (dictOf_nodup _)).2 ?_
  have hitem := List.mem_map_of_mem (f := fun entry : String × String × List ℕ => (entry.1, entry.2.1)) h
  rwa [← checkpointDestinations_eq] at hitem

theorem shape_of {entry : String × String × List ℕ} (h : entry ∈ checkpointTensors) :
    expectedShapes.lookup entry.1 = some entry.2.2 := by
  refine (lookup_iff_mem (dictOf_nodup _)).2 ?_
  have hitem := List.mem_map_of_mem (f := fun entry : String × String × List ℕ => (entry.1, entry.2.2)) h
  rwa [← expectedShapes_eq] at hitem

theorem destinations_keys : checkpointDestinations.map Prod.fst = checkpointTensors.map fun entry => entry.1 := by
  rw [checkpointDestinations_eq, List.map_map]
  rfl

theorem checkpointTensors_length : checkpointTensors.length = EXPECTED_CHECKPOINT_TENSORS := by decide +kernel

/-- two bytes an element, and the three tables -/
theorem checkpointTensors_bytes : (checkpointTensors.map fun tensor => 2 * tensor.2.2.prod).sum + 4384 =
    EXPECTED_EXTERNAL_BYTES := by decide +kernel

/-! ## The loop over the shards -/

theorem keysByShard_perm {weight_map : List (String × String)} (h : (weight_map.map Prod.fst).Nodup) :
    ((keysByShard weight_map).flatMap fun shard => shard.2.map fun key => (key, shard.1)).Perm weight_map := by
  have hmem (shard key : String) : key ∈ ((weight_map.filter fun item => item.2 = shard).map Prod.fst) ↔
      (key, shard) ∈ weight_map := by
    rw [List.mem_map]
    constructor
    · rintro ⟨item, hitem, rfl⟩
      obtain ⟨hitem, hshard⟩ := List.mem_filter.1 hitem
      rw [← of_decide_eq_true hshard]
      exact hitem
    · intro hitem
      exact ⟨(key, shard), List.mem_filter.2 ⟨hitem, decide_eq_true rfl⟩, rfl⟩
  have hshards := List.perm_insertionSort (· ≤ ·) (weight_map.map Prod.snd).dedup
  unfold keysByShard
  rw [List.flatMap_map]
  refine (List.perm_ext_iff_of_nodup ?_ h.of_map).2 fun item => ?_
  · -- a key is met once in its shard, and in no other
    rw [List.nodup_flatMap]
    constructor
    · intro shard _
      refine List.Nodup.map (fun a b hab => (Prod.mk.inj hab).1) ?_
      exact (List.perm_insertionSort _ _).symm.nodup (h.sublist (List.filter_sublist.map _))
    · refine (hshards.symm.nodup (List.nodup_dedup _)).imp ?_
      intro a b hne
      refine List.disjoint_left.2 fun item ha hb => hne ?_
      obtain ⟨_, -, rfl⟩ := List.mem_map.1 ha
      obtain ⟨_, -, heq⟩ := List.mem_map.1 hb
      exact (Prod.mk.inj heq).2.symm
  · obtain ⟨key, shard⟩ := item
    simp only [List.mem_flatMap, List.mem_map, Prod.mk.injEq]
    constructor
    · rintro ⟨_, -, _, hkey, rfl, rfl⟩
      exact (hmem _ _).1 ((List.mem_insertionSort _).1 hkey)
    · intro hitem
      refine ⟨shard, hshards.mem_iff.2 (List.mem_dedup.2 (List.mem_map_of_mem hitem)), key, ?_, rfl, rfl⟩
      exact (List.mem_insertionSort _).2 ((hmem _ _).2 hitem)

/-! ## A run over it -/

section Returns

variable {sha256 : Bytes → String} {inv_freq : Tensor} {model : ModelDirectory} {fault : Operation → Option Bytes}
  {s : Staging} {records : List FileRecord} {files : Directory}

/-- a model directory that holds the frozen checkpoint, in any shards -/
structure Frozen (sha256 : Bytes → String) (model : ModelDirectory) (weight_map : List (String × String))
    (tensor : String → Tensor) : Prop where
  config_digest : sha256 model.config = MODEL_CONFIG_SHA256
  index_digest : sha256 model.index = MODEL_INDEX_SHA256
  config : ∃ value, (decodeText model.config).bind Json.loads = some value ∧ value.items.isSome = true ∧
    (expectedConfig.all fun item => (value.get item.1).any (·.equalsInt item.2)) = true
  index : ∃ value, (decodeText model.index).bind Json.loads = some value ∧
    (value.get "weight_map").bind Json.items = some (weight_map.map fun item => (item.1, .str item.2))
  keys : (weight_map.map Prod.fst).Perm (checkpointTensors.map fun tensor => tensor.1)
  tensors : ∀ item ∈ weight_map, model.get_tensor item.2 item.1 = some (tensor item.1)
  dtypes : ∀ item ∈ weight_map, (tensor item.1).dtype = "bfloat16"
  shapes : ∀ entry ∈ checkpointTensors, (tensor entry.1).shape = entry.2.2
  bytes : ∀ entry ∈ checkpointTensors, (tensor entry.1).bytes.length = 2 * entry.2.2.prod

/-- no operation of the staging raises -/
def Undisturbed (fault : Operation → Option Bytes) : Prop :=
  ∀ operation, operation ∉ [.rename, .replace, .print] → fault operation = none

/-- the record of a tensor -/
def tensorRecord (sha256 : Bytes → String) (name source : String) (tensor : Tensor) : FileRecord where
  name := name
  source := source
  shape := tensor.shape
  dtype := tensor.dtype
  bytes := tensor.bytes.length
  sha256 := sha256 tensor.bytes

/-- the record of a key of the checkpoint -/
def keyRecord (sha256 : Bytes → String) (tensor : String → Tensor) (key : String) : FileRecord :=
  tensorRecord sha256 ((checkpointDestinations.lookup key).getD "") key (tensor key)

theorem attempt_returns {operation : Operation} (h : fault operation = none) : attempt fault operation s = .ok () s := by
  unfold attempt
  rw [h]
  rfl

theorem orRaise_returns {α : Type} {value : Option α} {a : α} (h : value = some a) : orRaise value s = .ok a s := by
  rw [h]
  rfl

theorem check_returns {condition : Bool} {message : String} (h : condition = true) : check condition message s = .ok () s := by
  rw [h]
  rfl

theorem stageTensor_returns {name source : String} {tensor : Tensor} (hs : Staged sha256 records s files)
    (hnew : name ∉ records.map FileRecord.name) (hwrite : fault (.write name) = none)
    (hrecord : fault (.record name) = none) :
    ∃ s' files', stageTensor sha256 fault name source tensor s = .ok (tensorRecord sha256 name source tensor) s' ∧
      Staged sha256 (records ++ [tensorRecord sha256 name source tensor]) s' files' := by
  have hnames : records.map FileRecord.name = files.map Prod.fst := forall₂_map_eq hs.records fun _ _ h => h.name
  rw [hnames] at hnew
  let after : Staging := { s with output_dir := some (files ++ [(name, tensor.bytes)]) }
  have hwritten : writeTensor fault name tensor s = .ok () after := by
    unfold writeTensor
    rw [effect_bind_eq (rfl : (get : Stage Staging) s = .ok s s)]
    dsimp only
    rw [hs.output_dir, Option.getD_some, if_neg hnew, hwrite]
    rfl
  have hread : orRaise ((after.output_dir.getD []).lookup name) after = .ok tensor.bytes after :=
    orRaise_returns (lookup_concat hnew tensor.bytes)
  have hrun : stageTensor sha256 fault name source tensor s = .ok (tensorRecord sha256 name source tensor) after := by
    unfold stageTensor
    rw [effect_bind_eq hwritten, effect_bind_eq (attempt_returns hrecord),
      effect_bind_eq (rfl : (get : Stage Staging) after = .ok after after)]
    exact (effect_bind_eq hread).trans rfl
  exact ⟨after, _, hrun, stageTensor_ok hs hrun⟩

/-- **A loop that stages files of new names.** -/
theorem stageAll_returns {ι : Type} (step : ι → Stage FileRecord) {record : ι → FileRecord} {l : List ι}
    (hstep : ∀ a ∈ l, ∀ records s files, Staged sha256 records s files → (record a).name ∉ records.map FileRecord.name →
      ∃ s' files', step a s = .ok (record a) s' ∧ Staged sha256 (records ++ [record a]) s' files')
    (hs : Staged sha256 records s files) (hnew : ((records ++ l.map record).map FileRecord.name).Nodup) :
    ∃ s' files', l.mapM step s = .ok (l.map record) s' ∧ Staged sha256 (records ++ l.map record) s' files' := by
  obtain ⟨s', hrun, files', hfiles⟩ := effect_mapM_returns (f := step) (g := record) (l := l)
    (fun done t => ∃ files', Staged sha256 (records ++ done.map record) t files')
    (fun done a rest hl t ⟨files', hfiles⟩ => by
      subst hl
      have hfresh : (record a).name ∉ (records ++ done.map record).map FileRecord.name := by
        rw [List.map_append (f := record), List.map_cons, ← List.append_assoc, List.map_append] at hnew
        exact fun hmem => (List.nodup_append.1 hnew).2.2 _ hmem _ List.mem_cons_self rfl
      obtain ⟨t', files'', hrun, hnext⟩ := hstep a (by simp) _ t _ hfiles hfresh
      refine ⟨t', hrun, files'', ?_⟩
      rwa [List.map_append, List.map_singleton, ← List.append_assoc])
    ⟨files, by rwa [List.map_nil, List.append_nil]⟩
  exact ⟨s', files', hrun, hfiles⟩

section Checkpoint

variable {weight_map : List (String × String)} {tensor : String → Tensor} (h : Frozen sha256 model weight_map tensor)
  (hfault : Undisturbed fault)
include h hfault

theorem readModel_returns : readModel sha256 model fault s = .ok weight_map s := by
  obtain ⟨config, hconfig, hitems, hexpected⟩ := h.config
  obtain ⟨index, hindex, hweights⟩ := h.index
  obtain ⟨items, hitems⟩ := Option.isSome_iff_exists.1 hitems
  have hlength : checkpointDestinations.length = EXPECTED_CHECKPOINT_TENSORS := by
    rw [checkpointDestinations_eq, List.length_map, checkpointTensors_length]
  have hkeys : (weight_map.map fun item => (item.1, Json.str item.2)).map Prod.fst ⊆ checkpointDestinations.map Prod.fst ∧
      checkpointDestinations.map Prod.fst ⊆ (weight_map.map fun item => (item.1, Json.str item.2)).map Prod.fst := by
    rw [List.map_map, destinations_keys]
    exact ⟨fun key hkey => h.keys.mem_iff.1 hkey, fun key hkey => h.keys.mem_iff.2 hkey⟩
  have hshards : (weight_map.map fun item => (item.1, Json.str item.2)).mapM shardItem = some weight_map := by
    rw [List.mapM_map]
    exact (mapM_eq_map fun item _ => rfl).trans (congrArg some (List.map_id weight_map))
  unfold readModel
  rw [effect_bind_eq (attempt_returns (hfault .config (by decide))), effect_bind_eq (check_returns (by simpa using h.config_digest)),
    effect_bind_eq (attempt_returns (hfault .index (by decide))), effect_bind_eq (check_returns (by simpa using h.index_digest)),
    effect_bind_eq (orRaise_returns hconfig), effect_bind_eq (orRaise_returns hindex),
    effect_bind_eq (check_returns (decide_eq_true hlength)), effect_bind_eq (orRaise_returns hweights),
    effect_bind_eq (check_returns (decide_eq_true hkeys)), effect_bind_eq (orRaise_returns hitems),
    effect_bind_eq (check_returns hexpected)]
  exact orRaise_returns hshards

theorem stageKey_returns {shard key : String} (hitem : (key, shard) ∈ weight_map) (hs : Staged sha256 records s files)
    (hnew : (keyRecord sha256 tensor key).name ∉ records.map FileRecord.name) :
    ∃ s' files', stageKey sha256 model fault shard key s = .ok (keyRecord sha256 tensor key) s' ∧
      Staged sha256 (records ++ [keyRecord sha256 tensor key]) s' files' := by
  obtain ⟨entry, hentry, hkey⟩ := List.mem_map.1 (h.keys.mem_iff.1 (List.mem_map_of_mem (f := Prod.fst) hitem))
  have hkey : entry.1 = key := hkey
  have hdestination := destination_of hentry
  have hshape := shape_of hentry
  have hread := h.shapes entry hentry
  rw [hkey] at hdestination hshape hread
  unfold keyRecord at hnew ⊢
  rw [hdestination, Option.getD_some] at hnew ⊢
  obtain ⟨s', files', hrun, hstaged⟩ := stageTensor_returns hs hnew (hfault (.write entry.2.1) (by simp))
    (hfault (.record entry.2.1) (by simp))
  refine ⟨s', files', ?_, hstaged⟩
  unfold stageKey
  rw [effect_bind_eq (orRaise_returns (h.tensors _ hitem)), effect_bind_eq (check_returns (by simpa using h.dtypes _ hitem)),
    effect_bind_eq (orRaise_returns hshape), effect_bind_eq (check_returns (decide_eq_true hread)),
    effect_bind_eq (orRaise_returns hdestination)]
  exact hrun

theorem stageShard_returns {shard : String × List String} (hkeys : ∀ key ∈ shard.2, (key, shard.1) ∈ weight_map)
    (hs : Staged sha256 records s files)
    (hnew : ((records ++ shard.2.map (keyRecord sha256 tensor)).map FileRecord.name).Nodup) :
    ∃ s' files', stageShard sha256 model fault shard s = .ok (shard.2.map (keyRecord sha256 tensor)) s' ∧
      Staged sha256 (records ++ shard.2.map (keyRecord sha256 tensor)) s' files' := by
  unfold stageShard
  rw [effect_bind_eq (attempt_returns (hfault (.shard shard.1) (by simp)))]
  exact stageAll_returns _ (fun key hkey records s files hs hnew => stageKey_returns h hfault (hkeys key hkey) hs hnew) hs hnew

/-- the records of a loop over shards -/
def shardRecords (sha256 : Bytes → String) (tensor : String → Tensor) (shards : List (String × List String)) :
    List FileRecord :=
  shards.flatMap fun shard => shard.2.map (keyRecord sha256 tensor)

theorem stageShards_returns {shards : List (String × List String)}
    (hkeys : ∀ shard ∈ shards, ∀ key ∈ shard.2, (key, shard.1) ∈ weight_map) (hs : Staged sha256 [] s files)
    (hnew : ((shardRecords sha256 tensor shards).map FileRecord.name).Nodup) :
    ∃ collected s' files', shards.mapM (stageShard sha256 model fault) s = .ok collected s' ∧
      collected.flatten = shardRecords sha256 tensor shards ∧
      Staged sha256 (shardRecords sha256 tensor shards) s' files' := by
  obtain ⟨s', hrun, files', hfiles⟩ := effect_mapM_returns (f := stageShard sha256 model fault) (l := shards)
    (g := fun shard : String × List String => shard.2.map (keyRecord sha256 tensor))
    (fun done t => ∃ files', Staged sha256 (shardRecords sha256 tensor done) t files')
    (fun done shard rest hl t ⟨files', hfiles⟩ => by
      subst hl
      have hsplit : shardRecords sha256 tensor (done ++ shard :: rest) = (shardRecords sha256 tensor done ++
          shard.2.map (keyRecord sha256 tensor)) ++ shardRecords sha256 tensor rest := by
        simp [shardRecords]
      rw [hsplit, List.map_append] at hnew
      obtain ⟨t', files'', hrun, hnext⟩ := stageShard_returns h hfault (hkeys shard (by simp)) hfiles
        (List.nodup_append.1 hnew).1
      refine ⟨t', hrun, files'', ?_⟩
      have hdone : shardRecords sha256 tensor (done ++ [shard]) = shardRecords sha256 tensor done ++
          shard.2.map (keyRecord sha256 tensor) := by
        simp [shardRecords]
      rwa [hdone])
    ⟨files, hs⟩
  exact ⟨_, s', files', hrun, (List.flatMap_def).symm, hfiles⟩

omit hfault in
theorem shardRecords_perm : (shardRecords sha256 tensor (keysByShard weight_map)).Perm
    ((checkpointTensors.map fun entry => entry.1).map (keyRecord sha256 tensor)) := by
  have hkeys : (weight_map.map Prod.fst).Nodup := h.keys.symm.nodup checkpoint_keys
  have hitems := ((keysByShard_perm hkeys).map Prod.fst).trans h.keys
  have hrecords : shardRecords sha256 tensor (keysByShard weight_map) =
      (((keysByShard weight_map).flatMap fun shard => shard.2.map fun key => (key, shard.1)).map Prod.fst).map
        (keyRecord sha256 tensor) := by
    simp only [shardRecords, List.map_flatMap, List.map_map, Function.comp_def]
  rw [hrecords]
  exact hitems.map (keyRecord sha256 tensor)

/-- the three tables -/
def tableRecords (sha256 : Bytes → String) (inv_freq : Tensor) : List FileRecord :=
  (derived inv_freq).map fun entry => tensorRecord sha256 entry.1 "derived" entry.2

omit hfault in
theorem frozen_names : ((shardRecords sha256 tensor (keysByShard weight_map) ++ tableRecords sha256 inv_freq).map
    FileRecord.name).Nodup := by
  have hnames : ((checkpointTensors.map fun entry => entry.1).map (keyRecord sha256 tensor)).map FileRecord.name =
      checkpointTensors.map fun entry => entry.2.1 := by
    rw [List.map_map, List.map_map, List.map_inj_left]
    intro entry hentry
    rw [Function.comp_apply, Function.comp_apply, keyRecord, destination_of hentry, Option.getD_some, tensorRecord]
  have htables : (tableRecords sha256 inv_freq).map FileRecord.name = ["inv_freq", "physical_slots", "logical_offsets"] := by
    simp only [tableRecords, derived, tensorRecord, List.map_cons, List.map_nil]
  have hperm := (@shardRecords_perm sha256 model _ _ h).map FileRecord.name
  rw [hnames] at hperm
  rw [List.map_append, htables]
  exact (hperm.append_right _).symm.nodup checkpoint_names

omit hfault in
theorem frozen_length : (shardRecords sha256 tensor (keysByShard weight_map) ++ tableRecords sha256 inv_freq).length =
    EXPECTED_EXTERNAL_FILES := by
  have htables : (tableRecords sha256 inv_freq).length = 3 := by
    simp only [tableRecords, derived, List.length_map, List.length_cons, List.length_nil]
  rw [List.length_append, (shardRecords_perm h).length_eq, List.length_map, List.length_map, checkpointTensors_length, htables]
  rfl

omit hfault in
theorem frozen_bytes (hfreq : inv_freq.bytes.length = 256) :
    ((shardRecords sha256 tensor (keysByShard weight_map) ++ tableRecords sha256 inv_freq).map FileRecord.bytes).sum =
      EXPECTED_EXTERNAL_BYTES := by
  have hbytes : ((checkpointTensors.map fun entry => entry.1).map (keyRecord sha256 tensor)).map FileRecord.bytes =
      checkpointTensors.map fun entry => 2 * entry.2.2.prod := by
    rw [List.map_map, List.map_map, List.map_inj_left]
    intro entry hentry
    rw [Function.comp_apply, Function.comp_apply, keyRecord, tensorRecord, h.bytes entry hentry]
  have htables : ((tableRecords sha256 inv_freq).map FileRecord.bytes).sum = 4384 := by
    have harange (n : ℕ) : (arangeInt32 n).bytes.length = 4 * n := by
      simp [arangeInt32, Nat.mul_comm]
    simp only [tableRecords, derived, tensorRecord, List.map_cons, List.map_nil, List.sum_cons, List.sum_nil, hfreq, harange,
      PHYSICAL_BLOCKS, BLOCK_SIZE, LOGICAL_CAPACITY]
    norm_num
  rw [List.map_append, List.sum_append, htables, ((shardRecords_perm h).map _).sum_eq, hbytes, checkpointTensors_bytes]

end Checkpoint

theorem stageManifest_returns (hfault : Undisturbed fault) (hlength : records.length = EXPECTED_EXTERNAL_FILES)
    (hbytes : (records.map FileRecord.bytes).sum = EXPECTED_EXTERNAL_BYTES) (hnames : (records.map FileRecord.name).Nodup)
    (hdigest : ∀ records, sha256 (writtenManifest (manifestOf inv_freq records EXPECTED_EXTERNAL_BYTES)) =
      EXPECTED_MANIFEST_SHA256) :
    ∃ s', stageManifest sha256 inv_freq fault records s = .ok () s' := by
  have hperm := List.perm_insertionSort (fun a b : FileRecord => a.name ≤ b.name) records
  let files := records.insertionSort fun a b => a.name ≤ b.name
  have hlength' : files.length = EXPECTED_EXTERNAL_FILES := hperm.length_eq.trans hlength
  have hbytes' : (files.map FileRecord.bytes).sum = EXPECTED_EXTERNAL_BYTES := (hperm.map _).sum_eq.trans hbytes
  have hnames' : (files.map FileRecord.name).Nodup := (hperm.map _).symm.nodup hnames
  let after : Staging := { s with temporary_manifest := some (writtenManifest (manifestOf inv_freq files (files.map
    FileRecord.bytes).sum)) }
  have hwritten : sha256 (writtenManifest (manifestOf inv_freq files (files.map FileRecord.bytes).sum)) =
      EXPECTED_MANIFEST_SHA256 := by
    rw [hbytes']
    exact hdigest files
  refine ⟨after, ?_⟩
  unfold stageManifest
  dsimp only
  rw [effect_bind_eq (check_returns (decide_eq_true hlength')), effect_bind_eq (check_returns (decide_eq_true hbytes')),
    effect_bind_eq (check_returns (decide_eq_true hnames')),
    effect_bind_eq (attempt_returns (hfault .temporary_parent (by decide))),
    effect_bind_eq (rfl : (get : Stage Staging) s = .ok s s), hfault .manifest_write (by decide)]
  dsimp only
  rw [effect_bind_eq (rfl : (set after : Stage PUnit) s = .ok () after),
    effect_bind_eq (attempt_returns (hfault .manifest_hash (by decide))),
    effect_bind_eq (rfl : (get : Stage Staging) after = .ok after after)]
  exact check_returns (decide_eq_true hwritten)

/-- **A run over the frozen checkpoint is staged**, if nothing raises and the manifest is the expected one. -/
theorem stage_returns {weight_map : List (String × String)} {tensor : String → Tensor}
    (h : Frozen sha256 model weight_map tensor) (hfault : Undisturbed fault) (hs : s.output_dir = none)
    (hfreq : inv_freq.bytes.length = 256)
    (hdigest : ∀ records, sha256 (writtenManifest (manifestOf inv_freq records EXPECTED_EXTERNAL_BYTES)) =
      EXPECTED_MANIFEST_SHA256) :
    ∃ s', stage sha256 inv_freq model fault s = .ok () s' := by
  have hmade : makeOutputDir fault s = .ok () { s with output_dir := some [] } := by
    unfold makeOutputDir
    rw [effect_bind_eq (attempt_returns (hfault .staging (by decide))), effect_bind_eq (rfl : (get : Stage Staging) s = .ok s s)]
    dsimp only
    rw [hs]
    rfl
  have hempty : Staged sha256 [] { s with output_dir := some [] } [] := ⟨rfl, List.nodup_nil, .nil⟩
  have hnames := @frozen_names sha256 inv_freq _ _ _ h
  have hkeys : ∀ shard ∈ keysByShard weight_map, ∀ key ∈ shard.2, (key, shard.1) ∈ weight_map := by
    intro shard hshard key hkey
    have hdistinct : (weight_map.map Prod.fst).Nodup := h.keys.symm.nodup checkpoint_keys
    exact (keysByShard_perm hdistinct).mem_iff.1 (List.mem_flatMap.2 ⟨shard, hshard, List.mem_map_of_mem hkey⟩)
  have hshards := hnames
  rw [List.map_append] at hshards
  obtain ⟨collected, t, files, hcheckpoint, hflatten, hstaged⟩ := stageShards_returns h hfault hkeys hempty
    (List.nodup_append.1 hshards).1
  obtain ⟨t', files', htables, hstaged'⟩ := stageAll_returns (l := derived inv_freq)
    (fun entry : String × Tensor => stageTensor sha256 fault entry.1 "derived" entry.2)
    (fun entry _ records s files hs hnew => stageTensor_returns hs hnew (hfault _ (by simp)) (hfault _ (by simp)))
    hstaged hnames
  obtain ⟨s', hmanifest⟩ := stageManifest_returns hfault (frozen_length h) (frozen_bytes h hfreq) hnames hdigest (s := t')
  refine ⟨s', ?_⟩
  unfold stage
  rw [effect_bind_eq hmade, effect_bind_eq (readModel_returns h hfault), effect_bind_eq hcheckpoint, hflatten,
    effect_bind_eq htables]
  exact hmanifest

end Returns

end Cruise.Assets
