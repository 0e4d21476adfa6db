/-
All or nothing: the two moves that publish the runtime weights (`materialize_runtime_weights.py`, `main`).

The directory is moved first, and the manifest replaced second. If the second move raises, the cleanup removes the staged
manifest and leaves the directory, which the next run finds without its manifest and refuses.
- `all_or_nothing_iff`: a run publishes both or neither, exactly if the second move does not raise after the first, or the
  manifest that was there before is accepted with the new directory.
- `later_runs_usable`: after runs that meet this, the next one finds no directory, or a bundle it accepts.
- `publish_half_done`: the frozen checkpoint, with the second move raising.
-/
import Cruise.Assets.Checkpoint
import Cruise.Lib.Run

namespace Cruise.Assets

open Cruise.Lib

section Publish

variable {sha256 : Bytes → String} {inv_freq : Tensor} {model : ModelDirectory} {fault : Operation → Option Bytes}
  {asset_root manifest_path : Path} {store : AssetStore}

/-- the reuse check accepts what stands at the two paths -/
def Accepted (sha256 : Bytes → String) (store : AssetStore) : Prop :=
  validateExistingBundle sha256 store.target store.manifest = .ok ()

/-- neither is newly published, or both stand there and are accepted; no staging files are left, but those that were there -/
structure AllOrNothing (sha256 : Bytes → String) (before after : AssetStore) : Prop where
  published : after.target = before.target ∧ after.manifest = before.manifest ∨ Accepted sha256 after
  staging : after.staging = {} ∨ after.staging = before.staging

/-- a run can build the bundle, or use the one that is there -/
def Usable (sha256 : Bytes → String) (store : AssetStore) : Prop := store.target = none ∨ Accepted sha256 store

/-- the run moves its directory into place -/
structure Renames (sha256 : Bytes → String) (inv_freq : Tensor) (model : ModelDirectory) (fault : Operation → Option Bytes)
    (asset_root manifest_path : Path) (store : AssetStore) (staging : Staging) : Prop where
  path : manifest_path = asset_root ++ ["manifests", s!"{EXPECTED_MANIFEST_SHA256}.json"]
  absent : store.target = none
  target_parent : fault .target_parent = none
  manifest_parent : fault .manifest_parent = none
  staged : stage sha256 inv_freq model fault store.staging = .ok () staging
  rename : fault .rename = none

/-- `replace` raises after `rename`, and the manifest that was there is not accepted with the new directory -/
def HalfDone (sha256 : Bytes → String) (inv_freq : Tensor) (model : ModelDirectory) (fault : Operation → Option Bytes)
    (asset_root manifest_path : Path) (store : AssetStore) : Prop :=
  ∃ staging, Renames sha256 inv_freq model fault asset_root manifest_path store staging ∧ fault .replace ≠ none ∧
    ¬Accepted sha256 { target := staging.output_dir.map .directory, manifest := store.manifest }

theorem publish_unmoved (h : fault .rename ≠ none) : (publish fault store).2 = cleanup store := by
  unfold publish
  rw [if_pos (Option.isSome_iff_ne_none.2 h)]

theorem publish_moved (h : fault .rename = none) : let after := (publish fault store).2
    after.target = store.staging.output_dir.map .directory ∧ after.staging = {} ∧
      (fault .replace ≠ none ∧ after.manifest = store.manifest ∨
        fault .replace = none ∧ after.manifest = store.staging.temporary_manifest) := by
  dsimp only
  unfold publish
  rw [h, if_neg (by decide)]
  dsimp only
  by_cases hreplace : fault .replace = none
  · rw [hreplace, if_neg (by decide)]
    split_ifs
    · exact ⟨rfl, rfl, Or.inr ⟨rfl, rfl⟩⟩
    · exact ⟨rfl, rfl, Or.inr ⟨rfl, rfl⟩⟩
  · rw [if_pos (Option.isSome_iff_ne_none.2 hreplace)]
    exact ⟨rfl, rfl, Or.inl ⟨hreplace, rfl⟩⟩

/-- what a run publishes, and what it leaves of its staging -/
inductive Ends (sha256 : Bytes → String) (inv_freq : Tensor) (model : ModelDirectory) (fault : Operation → Option Bytes)
    (asset_root manifest_path : Path) (before after : AssetStore) : Prop where
  | nothing (target : after.target = before.target) (manifest : after.manifest = before.manifest)
      (staging : after.staging = {} ∨ after.staging = before.staging)
  | directory (staging : Staging) (renames : Renames sha256 inv_freq model fault asset_root manifest_path before staging)
      (replace : fault .replace ≠ none) (target : after.target = staging.output_dir.map .directory)
      (manifest : after.manifest = before.manifest) (clean : after.staging = {})
  | both (staging : Staging) (renames : Renames sha256 inv_freq model fault asset_root manifest_path before staging)
      (replace : fault .replace = none) (target : after.target = staging.output_dir.map .directory)
      (manifest : after.manifest = staging.temporary_manifest) (clean : after.staging = {})

theorem Renames.main_eq {staging : Staging}
    (h : Renames sha256 inv_freq model fault asset_root manifest_path store staging) :
    (main sha256 inv_freq model fault asset_root manifest_path store).2 =
      (publish fault { store with staging := staging }).2 := by
  have hparents : ¬((fault .target_parent).isSome = true ∨ (fault .manifest_parent).isSome = true) := by
    rw [h.target_parent, h.manifest_parent]
    decide
  have habsent : ¬store.target.isSome = true := by
    rw [h.absent]
    decide
  unfold main
  dsimp only
  rw [if_neg (not_not.2 h.path), if_neg habsent, if_neg hparents, h.staged]

/-- **How a run ends**, wherever it raises. -/
theorem main_ends : Ends sha256 inv_freq model fault asset_root manifest_path store
    (main sha256 inv_freq model fault asset_root manifest_path store).2 := by
  by_cases hrenames : ∃ staging, Renames sha256 inv_freq model fault asset_root manifest_path store staging
  · obtain ⟨staging, hrenames⟩ := hrenames
    rw [hrenames.main_eq]
    obtain ⟨htarget, hclean, ⟨hreplace, hmanifest⟩ | ⟨hreplace, hmanifest⟩⟩ :=
      @publish_moved fault { store with staging := staging } hrenames.rename
    · exact .directory staging hrenames hreplace htarget hmanifest hclean
    · exact .both staging hrenames hreplace htarget hmanifest hclean
  · have hunchanged : Ends sha256 inv_freq model fault asset_root manifest_path store store :=
      .nothing rfl rfl (Or.inr rfl)
    unfold main
    dsimp only
    by_cases hpath : manifest_path = asset_root ++ ["manifests", s!"{EXPECTED_MANIFEST_SHA256}.json"]
    · rw [if_neg (not_not.2 hpath)]
      by_cases htarget : store.target.isSome = true
      · -- the bundle that is there is used, or refused
        rw [if_pos htarget]
        by_cases hvalidate : (fault .validate).isSome = true
        · rw [if_pos hvalidate]
          exact hunchanged
        · rw [if_neg hvalidate]
          cases validateExistingBundle sha256 store.target store.manifest with
          | error e => exact hunchanged
          | ok _ =>
            dsimp only
            split_ifs
            · exact hunchanged
            · exact hunchanged
      · rw [if_neg htarget]
        by_cases hparents : (fault .target_parent).isSome = true ∨ (fault .manifest_parent).isSome = true
        · rw [if_pos hparents]
          exact hunchanged
        · rw [if_neg hparents]
          cases hstage : stage sha256 inv_freq model fault store.staging with
          | error e staging => exact .nothing rfl rfl (Or.inl rfl)
          | ok _ staging =>
            have hunmoved : fault .rename ≠ none := by
              intro hrename
              have hparents : fault .target_parent = none ∧ fault .manifest_parent = none := by simpa using hparents
              have habsent : store.target = none := by simpa using htarget
              exact hrenames ⟨staging, hpath, habsent, hparents.1, hparents.2, hstage, hrename⟩
            dsimp only
            rw [publish_unmoved hunmoved]
            exact .nothing rfl rfl (Or.inl rfl)
    · rw [if_pos hpath]
      exact hunchanged

/-- A run publishes nothing over a directory, nor if the first move raises. -/
theorem main_keeps (h : store.target ≠ none ∨ fault .rename ≠ none) :
    let after := (main sha256 inv_freq model fault asset_root manifest_path store).2
    after.target = store.target ∧ after.manifest = store.manifest ∧
      (after.staging = {} ∨ after.staging = store.staging) := by
  intro after
  have hstays (staging : Staging) : ¬Renames sha256 inv_freq model fault asset_root manifest_path store staging :=
    fun hrenames => h.elim (fun htarget => htarget hrenames.absent) (fun hrename => hrename hrenames.rename)
  cases (main_ends : Ends sha256 inv_freq model fault asset_root manifest_path store after) with
  | nothing htarget hmanifest hstaging => exact ⟨htarget, hmanifest, hstaging⟩
  | directory staging hrenames => exact absurd hrenames (hstays staging)
  | both staging hrenames => exact absurd hrenames (hstays staging)

/-- a directory and a manifest that one run staged -/
theorem Renames.accepted {staging : Staging}
    (h : Renames sha256 inv_freq model fault asset_root manifest_path store staging) :
    Accepted sha256 { target := staging.output_dir.map .directory, manifest := staging.temporary_manifest } := by
  obtain ⟨records, files, text, hstaged, htext, hcomplete⟩ := stage_ok h.staged
  unfold Accepted
  rw [hstaged.output_dir, htext]
  exact staged_accepted hstaged hcomplete

theorem Accepted.mono {after : AssetStore} (h : Accepted sha256 store) (htarget : after.target = store.target)
    (hmanifest : after.manifest = store.manifest) : Accepted sha256 after := by
  unfold Accepted at h ⊢
  rwa [htarget, hmanifest]

theorem Usable.mono {after : AssetStore} (h : Usable sha256 store) (htarget : after.target = store.target)
    (hmanifest : after.manifest = store.manifest) : Usable sha256 after := by
  rcases h with habsent | haccepted
  · exact Or.inl (htarget.trans habsent)
  · exact Or.inr (haccepted.mono htarget hmanifest)

/-- the next run finds the new directory without its manifest -/
theorem HalfDone.broken (h : HalfDone sha256 inv_freq model fault asset_root manifest_path store) :
    ¬AllOrNothing sha256 store (main sha256 inv_freq model fault asset_root manifest_path store).2 := by
  obtain ⟨staging, hrenames, hreplace, hrefused⟩ := h
  rintro ⟨hpublished, -⟩
  obtain ⟨_, files, _, hstaged, -, -⟩ := stage_ok hrenames.staged
  obtain ⟨htarget, -, ⟨-, hmanifest⟩ | ⟨hnone, -⟩⟩ :=
    @publish_moved fault { store with staging := staging } hrenames.rename
  · rw [← hrenames.main_eq] at htarget hmanifest
    rcases hpublished with ⟨hsame, -⟩ | haccepted
    · rw [hsame, hrenames.absent, hstaged.output_dir] at htarget
      cases htarget
    · exact hrefused (haccepted.mono htarget.symm hmanifest.symm)
  · exact hreplace hnone

theorem all_or_nothing (h : ¬HalfDone sha256 inv_freq model fault asset_root manifest_path store) :
    let after := (main sha256 inv_freq model fault asset_root manifest_path store).2
    AllOrNothing sha256 store after ∧ (Usable sha256 store → Usable sha256 after) := by
  intro after
  cases (main_ends : Ends sha256 inv_freq model fault asset_root manifest_path store after) with
  | nothing htarget hmanifest hstaging =>
    exact ⟨⟨Or.inl ⟨htarget, hmanifest⟩, hstaging⟩, fun h => h.mono htarget hmanifest⟩
  | directory staging hrenames hreplace htarget hmanifest hclean =>
    -- the manifest that was there is accepted with the new directory
    have haccepted : Accepted sha256 after := by
      by_contra hrefused
      exact h ⟨staging, hrenames, hreplace, fun h => hrefused (h.mono htarget hmanifest)⟩
    exact ⟨⟨Or.inr haccepted, Or.inl hclean⟩, fun _ => Or.inr haccepted⟩
  | both staging hrenames _ htarget hmanifest hclean =>
    have haccepted : Accepted sha256 after := hrenames.accepted.mono htarget hmanifest
    exact ⟨⟨Or.inr haccepted, Or.inl hclean⟩, fun _ => Or.inr haccepted⟩

end Publish

/-- what one run is given, and what it meets -/
structure RunInput where
  inv_freq : Tensor
  model : ModelDirectory
  fault : Operation → Option Bytes
  asset_root : Path
  manifest_path : Path

/-- **Run after run.** -/
theorem later_runs_usable {sha256 : Bytes → String} {first store : AssetStore} (hfirst : Usable sha256 first)
    (hrun : Run (fun store (r : RunInput) after =>
        after = (main sha256 r.inv_freq r.model r.fault r.asset_root r.manifest_path store).2)
      (fun store r => ¬HalfDone sha256 r.inv_freq r.model r.fault r.asset_root r.manifest_path store) first store) :
    Usable sha256 store := by
  refine hrun.invariant hfirst ?_
  rintro s r _ hs rfl hdone
  exact (all_or_nothing hdone).2 hs

/-- **All or nothing.** -/
theorem all_or_nothing_iff (sha256 : Bytes → String) (inv_freq : Tensor) (model : ModelDirectory)
    (fault : Operation → Option Bytes) (asset_root manifest_path : Path) (store : AssetStore) :
    let after := (main sha256 inv_freq model fault asset_root manifest_path store).2
    AllOrNothing sha256 store after ∧ (Usable sha256 store → Usable sha256 after) ↔
      ¬HalfDone sha256 inv_freq model fault asset_root manifest_path store :=
  ⟨fun ⟨hafter, _⟩ hdone => hdone.broken hafter, all_or_nothing⟩

/-! ## The second move raises -/

def zeroTensor (dtype : String) (shape : List ℕ) (element_size : ℕ) : Tensor where
  dtype := dtype
  shape := shape
  bytes := List.replicate (element_size * shape.prod) 0

def frozenConfig : Json := .obj (expectedConfig.map fun item => (item.1, .int item.2))

/-- an index with all tensors in one shard -/
def indexOf (keys : List String) : Json :=
  .obj [("weight_map", .obj (keys.map fun key => (key, .str "model.safetensors")))]

def frozenIndex : Json := indexOf (checkpointDestinations.map Prod.fst)

def modelOf (config index : Json) : ModelDirectory where
  config := encodeText (config.dumps none)
  index := encodeText (index.dumps none)
  get_tensor := fun _ key => (expectedShapes.lookup key).map fun shape => zeroTensor "bfloat16" shape 2

def frozenModel : ModelDirectory := modelOf frozenConfig frozenIndex

def frozenTable : Tensor := zeroTensor "float32" [HEAD_SIZE / 2] 4

/-- the digests of the texts of a run, whatever those of its tensors are -/
def frozenDigest (bytes : Bytes) : String :=
  if (((decodeText bytes).bind Json.loads).bind fun value => value.get "files").isSome then EXPECTED_MANIFEST_SHA256
  else if bytes = frozenModel.config then MODEL_CONFIG_SHA256
  else if bytes = frozenModel.index then MODEL_INDEX_SHA256
  else identityDigest bytes

/-- only the second move raises -/
def replaceRaises (operation : Operation) : Option Bytes := if operation = .replace then some [] else none

theorem frozenConfig_plain : frozenConfig.Plain := by
  have hkeys : (expectedConfig.map Prod.fst).Nodup := by decide
  refine ⟨by rwa [List.map_map], Json.plainItems_iff.2 fun item hitem => ?_⟩
  obtain ⟨_, -, rfl⟩ := List.mem_map.1 hitem
  trivial

theorem indexOf_plain {keys : List String} (h : keys.Nodup) : (indexOf keys).Plain := by
  have hmap : (Json.obj (keys.map fun key => (key, .str "model.safetensors"))).Plain := by
    refine ⟨?_, Json.plainItems_iff.2 fun item hitem => ?_⟩
    · rw [List.map_map]
      exact (List.map_id keys).symm ▸ h
    · obtain ⟨_, -, rfl⟩ := List.mem_map.1 hitem
      trivial
  exact ⟨List.nodup_singleton _, hmap, trivial⟩

theorem loads_encoded {value : Json} (h : value.Plain) :
    (decodeText (encodeText (value.dumps none))).bind Json.loads = some value.sortKeys := by
  have hload : Json.loads (value.dumps none ++ []) = some value.sortKeys := Json.loads_dumps none h fun c hc => by cases hc
  rw [List.append_nil] at hload
  rw [decodeText_encodeText, Option.bind_some, hload]

theorem modelOf_loads {config index : Json} (hconfig : config.Plain) (hindex : index.Plain) :
    (decodeText (modelOf config index).config).bind Json.loads = some config.sortKeys ∧
      (decodeText (modelOf config index).index).bind Json.loads = some index.sortKeys :=
  ⟨loads_encoded hconfig, loads_encoded hindex⟩

theorem modelOf_tensor {config index : Json} {shard key : String} {shape : List ℕ}
    (h : expectedShapes.lookup key = some shape) :
    (modelOf config index).get_tensor shard key = some (zeroTensor "bfloat16" shape 2) := by
  simp only [modelOf, h, Option.map_some]

theorem frozenModel_loads : (decodeText frozenModel.config).bind Json.loads = some frozenConfig.sortKeys ∧
    (decodeText frozenModel.index).bind Json.loads = some frozenIndex.sortKeys :=
  modelOf_loads frozenConfig_plain (indexOf_plain (dictOf_nodup _))

/-- the items of the index, as they are read -/
def weightMap (keys : List String) : List (String × String) :=
  (keys.map fun key => (key, "model.safetensors")).insertionSort fun a b => a.1 ≤ b.1

theorem weightMap_keys (keys : List String) : ((weightMap keys).map Prod.fst).Perm keys := by
  have hperm := List.perm_insertionSort (fun a b : String × String => a.1 ≤ b.1)
    (keys.map fun key => (key, "model.safetensors"))
  have hkeys := hperm.map Prod.fst
  rwa [List.map_map, show (Prod.fst ∘ fun key : String => (key, "model.safetensors")) = id from rfl, List.map_id] at hkeys

theorem indexOf_weights {keys : List String} (h : keys.Nodup) :
    ((indexOf keys).sortKeys.get "weight_map").bind Json.items = some ((weightMap keys).map fun item => (item.1, .str item.2)) := by
  have hget : (indexOf keys).get "weight_map" = some (.obj (keys.map fun key => (key, .str "model.safetensors"))) := by
    simp [indexOf, Json.get, Json.items]
  have hsorted : (weightMap keys).map (fun item => (item.1, Json.str item.2)) =
      (keys.map fun key => (key, Json.str "model.safetensors")).insertionSort fun a b => a.1 ≤ b.1 := by
    unfold weightMap
    rw [List.map_insertionSort (fun a b : String × String => a.1 ≤ b.1) (fun a b : String × Json => a.1 ≤ b.1) _ _
      fun a _ b _ => Iff.rfl, List.map_map]
    rfl
  rw [Json.get_sortKeys (indexOf_plain h), hget, Option.map_some, Option.bind_some, Json.sortKeys, Json.sortItems_eq,
    List.map_map, hsorted]
  rfl

theorem frozenDigest_config : frozenDigest frozenModel.config = MODEL_CONFIG_SHA256 := by
  unfold frozenDigest
  rw [frozenModel_loads.1, Option.bind_some, Json.get_sortKeys frozenConfig_plain, if_neg (by decide +kernel), if_pos rfl]

theorem frozenDigest_index : frozenDigest frozenModel.index = MODEL_INDEX_SHA256 := by
  have hplain : frozenIndex.Plain := indexOf_plain (dictOf_nodup _)
  have hne : frozenModel.index ≠ frozenModel.config := by
    intro h
    have hload := frozenModel_loads.2
    rw [h, frozenModel_loads.1, Option.some.injEq] at hload
    have hget := congrArg (fun value : Json => (value.get "weight_map").isSome) hload
    rw [Json.get_sortKeys frozenConfig_plain, Json.get_sortKeys hplain, Option.isSome_map, Option.isSome_map] at hget
    exact absurd hget (by decide +kernel)
  unfold frozenDigest
  rw [frozenModel_loads.2, Option.bind_some, Json.get_sortKeys hplain, if_neg (by decide +kernel), if_neg hne, if_pos rfl]

theorem frozenDigest_manifest (records : List FileRecord) (total_bytes : ℕ) :
    frozenDigest (writtenManifest (manifestOf frozenTable records total_bytes)) = EXPECTED_MANIFEST_SHA256 := by
  obtain ⟨value, hvalue, -, hget⟩ := @writtenManifest_files frozenTable records total_bytes
  unfold frozenDigest
  rw [hvalue, Option.bind_some, hget]
  exact if_pos rfl

/-- what is read of the frozen model -/
def frozenTensor (key : String) : Tensor := zeroTensor "bfloat16" ((expectedShapes.lookup key).getD []) 2

theorem frozenModel_frozen :
    Frozen frozenDigest frozenModel (weightMap (checkpointDestinations.map Prod.fst)) frozenTensor where
  config_digest := frozenDigest_config
  index_digest := frozenDigest_index
  config := by
    refine ⟨_, frozenModel_loads.1, rfl, ?_⟩
    rw [List.all_eq_true]
    intro item hitem
    have hkeys : (expectedConfig.map Prod.fst).Nodup := by decide
    have hlookup : frozenConfig.get item.1 = some (.int item.2) := by
      have hvalue := lookup_values (fun n : Int => Json.int n) expectedConfig item.1
      rw [(lookup_iff_mem hkeys).2 hitem] at hvalue
      exact hvalue
    rw [Json.get_sortKeys frozenConfig_plain, hlookup, Option.map_some, Option.any_some]
    exact Json.equalsInt_iff.2 rfl
  index := ⟨_, frozenModel_loads.2, indexOf_weights (dictOf_nodup _)⟩
  keys := by
    rw [← destinations_keys]
    exact weightMap_keys _
  tensors := by
    intro item hitem
    have hkey : item.1 ∈ checkpointTensors.map fun entry => entry.1 := by
      rw [← destinations_keys]
      exact (weightMap_keys _).mem_iff.1 (List.mem_map_of_mem hitem)
    obtain ⟨entry, hentry, hkey⟩ := List.mem_map.1 hkey
    have hshape := shape_of hentry
    rw [hkey] at hshape
    rw [frozenTensor, hshape, Option.getD_some]
    exact modelOf_tensor hshape
  dtypes := fun _ _ => rfl
  shapes := by
    intro entry hentry
    rw [frozenTensor, shape_of hentry]
    rfl
  bytes := by
    intro entry hentry
    rw [frozenTensor, shape_of hentry, zeroTensor, List.length_replicate, Option.getD_some]

/-- `main` raises at the second move, over the frozen checkpoint and an empty store. -/
theorem publish_half_done : ¬∀ (sha256 : Bytes → String) (inv_freq : Tensor) (model : ModelDirectory)
    (fault : Operation → Option Bytes) (asset_root manifest_path : Path) (store : AssetStore),
    AllOrNothing sha256 store (main sha256 inv_freq model fault asset_root manifest_path store).2 := by
  intro h
  have hundisturbed : Undisturbed replaceRaises := by
    intro operation hoperation
    refine if_neg fun heq => hoperation ?_
    rw [heq]
    decide
  have hfreq : frozenTable.bytes.length = 256 := List.length_replicate
  obtain ⟨staging, hstaged⟩ := stage_returns (s := {}) frozenModel_frozen hundisturbed rfl hfreq
    fun records => frozenDigest_manifest records _
  have hhalf : HalfDone frozenDigest frozenTable frozenModel replaceRaises ["assets"]
      (["assets"] ++ ["manifests", s!"{EXPECTED_MANIFEST_SHA256}.json"]) {} := by
    refine ⟨staging, ⟨rfl, rfl, rfl, rfl, hstaged, rfl⟩, fun hnone => ?_, fun haccepted => ?_⟩
    · cases hnone
    · unfold Accepted at haccepted
      cases hdir : staging.output_dir with
      | none =>
        rw [hdir] at haccepted
        cases haccepted
      | some files =>
        rw [hdir] at haccepted
        cases haccepted
  exact hhalf.broken (h _ _ _ _ _ _ _)

end Cruise.Assets
