/-
The loader of a runtime configuration (`runtime_config.py`, `load_runtime_config`), down to the compatibility profiles.

MODEL. What `Path.resolve` makes of a path and the home directories are the file system's; `resolve` does not raise, and a
text does not begin with exactly two slashes. A profile is what `validate_compatibility_manifest` has accepted of it, as far
as the loader reads it. Of several bad asset paths the first of the list is reported. What `json` says of a text that is no
JSON is left out of the message.
- `load_ok`: what an accepted configuration is.
- `LoadedConfig.Valid.weights`: it names the weights of the frozen checkpoint, whichever profile it is of.
-/
import Cruise.Assets.Materialize
import Cruise.Worker.Contract

namespace Cruise.Assets

open Cruise.Lib Cruise.Worker

/-! ## Paths -/

/-- the components of a text: what stands between its slashes, without the dots -/
def components (text : String) : Path :=
  ((text.toList.splitOn '/').map String.ofList).filter fun part => part ≠ "" ∧ part ≠ "."

def isAbsolute (text : String) : Bool := text.toList.head? = some '/'

/-- `str.isspace` of a character -/
def isWhite (c : Char) : Bool := isBlank c ∨ 0x1c ≤ c.toNat ∧ c.toNat ≤ 0x1f ∨ c.toNat ∈ unicodeSpaces

/-- a path that is written as it is read -/
def Path.Proper (path : Path) : Prop := ∀ part ∈ path, part ≠ "" ∧ part ≠ "." ∧ '/' ∉ part.toList

theorem str_toList (path : Path) : path.str.toList = '/' :: ['/'].intercalate (path.map String.toList) := by
  unfold Path.str
  rw [String.toList_append, String.toList_intercalate]
  rfl

/-- **A path is read back from its text.** -/
theorem components_str {path : Path} (h : path.Proper) : components path.str = path := by
  have hkept : path.filter (fun part => part ≠ "" ∧ part ≠ ".") = path :=
    List.filter_eq_self.2 fun part hpart => decide_eq_true ⟨(h part hpart).1, (h part hpart).2.1⟩
  have hread : (path.map String.toList).map String.ofList = path := by
    rw [List.map_map]
    exact (List.map_congr_left fun part _ => String.ofList_toList).trans (List.map_id path)
  unfold components
  rw [str_toList]
  cases path with
  | nil => rfl
  | cons part rest =>
    have hslash : ∀ l ∈ (part :: rest).map String.toList, '/' ∉ l := by
      intro l hl
      obtain ⟨part, hpart, rfl⟩ := List.mem_map.1 hl
      exact (h part hpart).2.2
    have hsplit : ('/' :: ['/'].intercalate ((part :: rest).map String.toList)).splitOn '/' =
        [] :: (part :: rest).map String.toList := by
      have hall : ∀ l ∈ [] :: (part :: rest).map String.toList, '/' ∉ l := by
        intro l hl
        rcases List.mem_cons.1 hl with rfl | hl
        · exact List.not_mem_nil
        · exact hslash l hl
      rw [← List.splitOn_intercalate '/' hall (by simp)]
      rfl
    rw [hsplit, List.map_cons, hread, List.filter_cons_of_neg (by simp), hkept]

theorem str_absolute (path : Path) : isAbsolute path.str = true := by
  unfold isAbsolute
  rw [str_toList]
  rfl

/-! ## Configuration and profiles -/

def RUNTIME_CONFIG_SCHEMA_VERSION : Int := 1

def ALLOWED_TOP_LEVEL : List String := [
  "schema_version", "compatibility_profile", "device_id", "cann_set_env", "custom_opp_vendors", "runtime", "assets",
  "integrity"]

/-- `scratch_root` stands with the assets -/
structure RuntimeSettings where
  minimum_scratch_free_bytes : Int
  max_steps : Int
  logical_capacity : Int
  startup_timeout_seconds : Int
  persistent_output_limit_bytes : Int
deriving DecidableEq, Repr

/-- a configuration with the fields that no check of the paths reads -/
structure LoadedConfig extends CruiseRuntimeConfig where
  source : Path
  device_id : Int
  runtime : RuntimeSettings

structure CompatibilityProfile where
  id : String
  graph_config_sha256 : String
  tiling_sha256 : String
  runtime_weights_manifest_sha256 : String
  runtime_weight_files : Int
  runtime_weight_bytes : Int
  model_config_sha256 : String
  model_index_sha256 : String

/-- `compatibility.json` -/
def compatibilityProfiles : List CompatibilityProfile := [
  { id := "attempt74-910b2-cann851-r5"
    graph_config_sha256 := "341cc9b8af8fc36d42c9cbaca2fcc31ec594ebcd03063fc556a7ccec71c1d31e"
    tiling_sha256 := "1fc40ec0d67e231128773a5448cdd3333bdd1b97ea8a67bb7ba881d43b0da51f"
    runtime_weights_manifest_sha256 := "2ec95bf8e78cfaf091782b3c531b19b9cced35dcfab0e418c756e25abe456761"
    runtime_weight_files := 342
    runtime_weight_bytes := 15231237408
    model_config_sha256 := "7463bb0ea78315365e6c6b74de4e73bbcc8359dfb0c5a737584e077d42c0b03c"
    model_index_sha256 := "624bf7c47cd12468fdc16e38a47cf4f19e0415b859a223ba3c027eed2f0e1028" },
  { id := "attempt74-910b2-cann900-npu01-r1"
    graph_config_sha256 := "341cc9b8af8fc36d42c9cbaca2fcc31ec594ebcd03063fc556a7ccec71c1d31e"
    tiling_sha256 := "1fc40ec0d67e231128773a5448cdd3333bdd1b97ea8a67bb7ba881d43b0da51f"
    runtime_weights_manifest_sha256 := "2ec95bf8e78cfaf091782b3c531b19b9cced35dcfab0e418c756e25abe456761"
    runtime_weight_files := 342
    runtime_weight_bytes := 15231237408
    model_config_sha256 := "7463bb0ea78315365e6c6b74de4e73bbcc8359dfb0c5a737584e077d42c0b03c"
    model_index_sha256 := "624bf7c47cd12468fdc16e38a47cf4f19e0415b859a223ba3c027eed2f0e1028" }]

/-- `get_compatibility_profile` -/
def getCompatibilityProfile (profile_id : String) : Except Raised CompatibilityProfile :=
  match compatibilityProfiles.find? fun profile => profile.id = profile_id with
  | some profile => .ok profile
  | none => .error .other

/-! ## Fields -/

/-- `_mapping` -/
def mapping (value : Json) (name : String) : Except Raised (List (String × Json)) :=
  match value.items with
  | some items => .ok items
  | none => .error (configError s!"{name} must be an object")

/-- `_positive_int` -/
def positiveInt (value : Json) (name : String) : Except Raised Int :=
  match value with
  | .int n => if n < 1 then .error (configError s!"{name} must be a positive integer") else .ok n
  | _ => .error (configError s!"{name} must be a positive integer")

def isSha256 (text : String) : Bool :=
  text.toList.length = 64 ∧ text.toList.all fun c => c.isDigit ∨ 'a' ≤ c ∧ c ≤ 'f'

/-- `_sha256` -/
def digest (value : Json) (name : String) : Except Raised String :=
  match value with
  | .str text => if isSha256 text then .ok text else .error (configError s!"{name} must be a lowercase SHA256")
  | _ => .error (configError s!"{name} must be a lowercase SHA256")

/-- `_require_keys` -/
def requireKeys (record : List (String × Json)) (required : List String) (name : String) : Except Raised Unit :=
  let missing := (required.insertionSort fun a b => a ≤ b).filter fun key => !(record.map Prod.fst).contains key
  let listed := ", ".intercalate missing
  refuse (missing ≠ []) (configError s!"{name} is missing: {listed}")

/-- all required keys are there, so another one makes the sets differ -/
def onlyKeys (record : List (String × Json)) (required : List String) : Bool :=
  (record.map Prod.fst).all fun key => required.contains key

/-- `record[key]` -/
def member (record : List (String × Json)) (key : String) : Except Raised Json :=
  match record.lookup key with
  | some value => .ok value
  | none => .error .other

section Load

variable (resolve : Path → Path) (home : String → Option Path)

/-- `_path`; a home directory that is not known raises -/
def pathOf (value : Json) (name : String) (base : Path) : Except Raised Path :=
  match value with
  | .str text =>
    if text.toList.all isWhite then .error (configError s!"{name} must be a non-empty path")
    else if isAbsolute text then .ok (resolve (components text))
    else
      match components text with
      | [] => .ok (resolve base)
      | part :: rest =>
        if part.toList.head? = some '~' then
          match home part with
          | some directory => .ok (resolve (directory ++ rest))
          | none => .error .other
        else .ok (resolve (base ++ part :: rest))
  | _ => .error (configError s!"{name} must be a non-empty path")

/-- `runtime` -/
def runtimeSettings (value : Json) (base : Path) : Except Raised (Path × RuntimeSettings) := do
  let record ← mapping value "runtime"
  let required := ["scratch_root", "minimum_scratch_free_bytes", "max_steps", "logical_capacity", "startup_timeout_seconds",
    "persistent_output_limit_bytes"]
  requireKeys record required "runtime"
  refuse (onlyKeys record required = false) (configError "runtime contains unknown fields")
  let max_steps ← positiveInt (← member record "max_steps") "runtime.max_steps"
  refuse (max_steps ∉ [1, 2, 4, 8]) (configError "runtime.max_steps must be one of 1, 2, 4, 8")
  let logical_capacity ← positiveInt (← member record "logical_capacity") "runtime.logical_capacity"
  refuse (logical_capacity < max_steps) (configError "runtime.logical_capacity must cover max_steps")
  let scratch_root ← pathOf resolve home (← member record "scratch_root") "runtime.scratch_root" base
  let minimum_scratch_free_bytes ←
    positiveInt (← member record "minimum_scratch_free_bytes") "runtime.minimum_scratch_free_bytes"
  let startup_timeout_seconds ← positiveInt (← member record "startup_timeout_seconds") "runtime.startup_timeout_seconds"
  let persistent_output_limit_bytes ←
    positiveInt (← member record "persistent_output_limit_bytes") "runtime.persistent_output_limit_bytes"
  .ok (scratch_root, ⟨minimum_scratch_free_bytes, max_steps, logical_capacity, startup_timeout_seconds,
    persistent_output_limit_bytes⟩)

/-- `assets` -/
def runtimeAssets (value : Json) (base : Path) : Except Raised RuntimeAssets := do
  let record ← mapping value "assets"
  let required := ["server", "air", "graph_config", "function_config", "tiling", "external_weights",
    "external_weights_manifest", "resource_config", "model_config", "model_index"]
  requireKeys record required "assets"
  refuse (onlyKeys record required = false) (configError "assets contains unknown fields")
  let asset (name : String) : Except Raised Path := do pathOf resolve home (← member record name) s!"assets.{name}" base
  let server ← asset "server"
  let air ← asset "air"
  let graph_config ← asset "graph_config"
  let function_config ← asset "function_config"
  let tiling ← asset "tiling"
  let external_weights ← asset "external_weights"
  let external_weights_manifest ← asset "external_weights_manifest"
  let resource_config ← asset "resource_config"
  let model_config ← asset "model_config"
  let model_index ← asset "model_index"
  .ok { server, air, graph_config, function_config, tiling, external_weights, external_weights_manifest, resource_config,
        model_config, model_index }

/-- `integrity` -/
def assetIntegrity (value : Json) : Except Raised AssetIntegrity := do
  let record ← mapping value "integrity"
  let required := ["air_sha256", "graph_config_sha256", "tiling_sha256", "external_weights_manifest_sha256",
    "external_weight_files", "external_weight_bytes", "model_config_sha256", "model_index_sha256"]
  requireKeys record required "integrity"
  refuse (onlyKeys record required = false) (configError "integrity contains unknown fields")
  let air_sha256 ← digest (← member record "air_sha256") "integrity.air_sha256"
  let graph_config_sha256 ← digest (← member record "graph_config_sha256") "integrity.graph_config_sha256"
  let tiling_sha256 ← digest (← member record "tiling_sha256") "integrity.tiling_sha256"
  let external_weights_manifest_sha256 ←
    digest (← member record "external_weights_manifest_sha256") "integrity.external_weights_manifest_sha256"
  let external_weight_files ← positiveInt (← member record "external_weight_files") "integrity.external_weight_files"
  let external_weight_bytes ← positiveInt (← member record "external_weight_bytes") "integrity.external_weight_bytes"
  let model_config_sha256 ← digest (← member record "model_config_sha256") "integrity.model_config_sha256"
  let model_index_sha256 ← digest (← member record "model_index_sha256") "integrity.model_index_sha256"
  .ok { air_sha256, graph_config_sha256, tiling_sha256, external_weights_manifest_sha256, external_weight_files,
        external_weight_bytes, model_config_sha256, model_index_sha256 }

def digestMismatch (name actual expected : String) : Option String :=
  if actual ≠ expected then some s!"{name} expected '{expected}', got '{actual}'" else none

def countMismatch (name : String) (actual expected : Int) : Option String :=
  if actual ≠ expected then some s!"{name} expected {expected}, got {actual}" else none

def profileMismatches (profile : CompatibilityProfile) (integrity : AssetIntegrity) : List String := [
  digestMismatch "integrity.graph_config_sha256" integrity.graph_config_sha256 profile.graph_config_sha256,
  digestMismatch "integrity.tiling_sha256" integrity.tiling_sha256 profile.tiling_sha256,
  digestMismatch "integrity.external_weights_manifest_sha256" integrity.external_weights_manifest_sha256
    profile.runtime_weights_manifest_sha256,
  countMismatch "integrity.external_weight_files" integrity.external_weight_files profile.runtime_weight_files,
  countMismatch "integrity.external_weight_bytes" integrity.external_weight_bytes profile.runtime_weight_bytes,
  digestMismatch "integrity.model_config_sha256" integrity.model_config_sha256 profile.model_config_sha256,
  digestMismatch "integrity.model_index_sha256" integrity.model_index_sha256 profile.model_index_sha256].reduceOption

/-- `_validate_profile_identity` -/
def validateProfileIdentity (profile : CompatibilityProfile) (integrity : AssetIntegrity) : Except Raised Unit :=
  let mismatches := profileMismatches profile integrity
  let listed := "; ".intercalate mismatches
  refuse (mismatches ≠ [])
    (configError s!"runtime assets do not match compatibility profile {profile.id}: {listed}")

/-- `custom_opp_vendors` -/
def oppVendors (value : Json) (base : Path) : Except Raised (List Path) :=
  match value with
  | .arr values => do
    refuse (values = []) (configError "custom_opp_vendors must be a non-empty list")
    let vendors ← values.zipIdx.mapM fun entry => pathOf resolve home entry.1 s!"custom_opp_vendors[{entry.2}]" base
    refuse (¬vendors.Nodup) (configError "custom_opp_vendors contains duplicates")
    .ok vendors
  | _ => .error (configError "custom_opp_vendors must be a non-empty list")

def profileId : Json → Except Raised String
  | .str profile_id => .ok profile_id
  | _ => .error (configError "compatibility_profile must be a string")

def deviceId : Json → Except Raised Int
  | .int n => if n < 0 then .error (configError "device_id must be a non-negative integer") else .ok n
  | _ => .error (configError "device_id must be a non-negative integer")

/-- `load_runtime_config` from the parsed value on -/
def configOf (source : Path) (value : Json) : Except Raised LoadedConfig := do
  let root ← mapping value "configuration"
  let unknown := ((root.map Prod.fst).filter fun key => !ALLOWED_TOP_LEVEL.contains key).insertionSort fun a b => a ≤ b
  let listed := ", ".intercalate unknown
  refuse (unknown ≠ []) (configError s!"unknown top-level fields: {listed}")
  requireKeys root ALLOWED_TOP_LEVEL "configuration"
  refuse ((← member root "schema_version").equalsInt RUNTIME_CONFIG_SCHEMA_VERSION = false)
    (configError "unsupported runtime configuration schema")
  let compatibility_profile ← profileId (← member root "compatibility_profile")
  let profile ← getCompatibilityProfile compatibility_profile
  let device_id ← deviceId (← member root "device_id")
  let base := source.dropLast
  let (scratch_root, runtime) ← runtimeSettings resolve home (← member root "runtime") base
  let assets ← runtimeAssets resolve home (← member root "assets") base
  let integrity ← assetIntegrity (← member root "integrity")
  validateProfileIdentity profile integrity
  let custom_opp_vendors ← oppVendors resolve home (← member root "custom_opp_vendors") base
  let cann_set_env ← pathOf resolve home (← member root "cann_set_env") "cann_set_env" base
  .ok { compatibility_profile, cann_set_env, custom_opp_vendors, scratch_root, assets, integrity, source, device_id, runtime }

/-- `load_runtime_config` of a resolved path; a text that cannot be decoded, or a directory, raises -/
def loadRuntimeConfig (fs : FileSystem) (source : Path) : Except Raised LoadedConfig :=
  match fs.file source with
  | none =>
    if fs.is_dir source then .error .other
    else .error (configError s!"configuration does not exist: {source.str}")
  | some bytes =>
    match decodeText bytes with
    | none => .error .other
    | some text =>
      match Json.loads text with
      | none => .error (configError "configuration is not valid JSON")
      | some value => configOf resolve home source value

end Load

/-! ## What is accepted -/

/-- the integrity fields are the profile's -/
structure OfProfile (profile : CompatibilityProfile) (integrity : AssetIntegrity) : Prop where
  graph_config : integrity.graph_config_sha256 = profile.graph_config_sha256
  tiling : integrity.tiling_sha256 = profile.tiling_sha256
  manifest : integrity.external_weights_manifest_sha256 = profile.runtime_weights_manifest_sha256
  files : integrity.external_weight_files = profile.runtime_weight_files
  bytes : integrity.external_weight_bytes = profile.runtime_weight_bytes
  model_config : integrity.model_config_sha256 = profile.model_config_sha256
  model_index : integrity.model_index_sha256 = profile.model_index_sha256

def RuntimeAssets.paths (assets : RuntimeAssets) : List Path := [
  assets.server, assets.air, assets.graph_config, assets.function_config, assets.tiling, assets.external_weights,
  assets.external_weights_manifest, assets.resource_config, assets.model_config, assets.model_index]

/-- an accepted configuration -/
structure LoadedConfig.Valid (resolve : Path → Path) (config : LoadedConfig) : Prop where
  profile : ∃ profile ∈ compatibilityProfiles, profile.id = config.compatibility_profile ∧ OfProfile profile config.integrity
  device_id : 0 ≤ config.device_id
  steps : config.runtime.max_steps ∈ [1, 2, 4, 8]
  capacity : config.runtime.max_steps ≤ config.runtime.logical_capacity
  startup_timeout : 1 ≤ config.runtime.startup_timeout_seconds
  vendors : config.custom_opp_vendors ≠ [] ∧ config.custom_opp_vendors.Nodup
  scratch_root : ∃ path, config.scratch_root = resolve path
  assets : ∀ asset ∈ config.assets.paths, ∃ path, asset = resolve path

section Accepted

variable {resolve : Path → Path} {home : String → Option Path} {value : Json} {name : String} {base : Path}

theorem positiveInt_ok {n : Int} (h : positiveInt value name = .ok n) : 1 ≤ n := by
  unfold positiveInt at h
  split at h
  · split_ifs at h with hn
    cases h
    omega
  · cases h

theorem pathOf_ok {path : Path} (h : pathOf resolve home value name base = .ok path) : ∃ p, path = resolve p := by
  unfold pathOf at h
  split at h
  · split_ifs at h
    · cases h
      exact ⟨_, rfl⟩
    · split at h
      · cases h
        exact ⟨_, rfl⟩
      · split_ifs at h
        · split at h
          · cases h
            exact ⟨_, rfl⟩
          · cases h
        · cases h
          exact ⟨_, rfl⟩
  · cases h

theorem runtimeSettings_ok {scratch_root : Path} {runtime : RuntimeSettings}
    (h : runtimeSettings resolve home value base = .ok (scratch_root, runtime)) :
    (∃ path, scratch_root = resolve path) ∧ runtime.max_steps ∈ [1, 2, 4, 8] ∧
      runtime.max_steps ≤ runtime.logical_capacity ∧ 1 ≤ runtime.startup_timeout_seconds := by
  unfold runtimeSettings at h
  simp only [except_bind_ok, refuse_ok, exists_const, not_not, not_lt] at h
  obtain ⟨_, -, _, -, -, _, -, _, -, hsteps, _, -, _, -, hcapacity, _, -, _, hpath, _, -, _, -, _, -, _, hstartup, _, -,
    _, -, h⟩ := h
  cases h
  exact ⟨pathOf_ok hpath, hsteps, hcapacity, positiveInt_ok hstartup⟩

theorem runtimeAssets_ok {assets : RuntimeAssets} (h : runtimeAssets resolve home value base = .ok assets) :
    ∀ asset ∈ assets.paths, ∃ path, asset = resolve path := by
  unfold runtimeAssets at h
  simp only [except_bind_ok, refuse_ok, exists_const] at h
  obtain ⟨_, -, _, -, -, _, ⟨_, -, hserver⟩, _, ⟨_, -, hair⟩, _, ⟨_, -, hgraph⟩, _, ⟨_, -, hfunction⟩, _, ⟨_, -, htiling⟩, _,
    ⟨_, -, hweights⟩, _, ⟨_, -, hmanifest⟩, _, ⟨_, -, hresource⟩, _, ⟨_, -, hconfig⟩, _, ⟨_, -, hindex⟩, h⟩ := h
  cases h
  intro asset hasset
  simp only [RuntimeAssets.paths, List.mem_cons, List.not_mem_nil, or_false] at hasset
  rcases hasset with rfl | rfl | rfl | rfl | rfl | rfl | rfl | rfl | rfl | rfl
  · exact pathOf_ok hserver
  · exact pathOf_ok hair
  · exact pathOf_ok hgraph
  · exact pathOf_ok hfunction
  · exact pathOf_ok htiling
  · exact pathOf_ok hweights
  · exact pathOf_ok hmanifest
  · exact pathOf_ok hresource
  · exact pathOf_ok hconfig
  · exact pathOf_ok hindex

theorem digestMismatch_none {actual expected : String} (h : digestMismatch name actual expected = none) : actual = expected := by
  unfold digestMismatch at h
  split_ifs at h with hne
  exact not_not.1 hne

theorem countMismatch_none {actual expected : Int} (h : countMismatch name actual expected = none) : actual = expected := by
  unfold countMismatch at h
  split_ifs at h with hne
  exact not_not.1 hne

theorem validateProfileIdentity_ok {profile : CompatibilityProfile} {integrity : AssetIntegrity}
    (h : validateProfileIdentity profile integrity = .ok ()) : OfProfile profile integrity := by
  unfold validateProfileIdentity at h
  dsimp only at h
  rw [refuse_ok, not_not] at h
  unfold profileMismatches List.reduceOption at h
  simp only [List.filterMap_eq_nil_iff, List.mem_cons, List.not_mem_nil, or_false, forall_eq_or_imp, forall_eq, id] at h
  obtain ⟨hgraph, htiling, hmanifest, hfiles, hbytes, hconfig, hindex⟩ := h
  exact ⟨digestMismatch_none hgraph, digestMismatch_none htiling, digestMismatch_none hmanifest, countMismatch_none hfiles,
    countMismatch_none hbytes, digestMismatch_none hconfig, digestMismatch_none hindex⟩

theorem oppVendors_ok {vendors : List Path} (h : oppVendors resolve home value base = .ok vendors) :
    vendors ≠ [] ∧ vendors.Nodup := by
  unfold oppVendors at h
  split at h
  · simp only [except_bind_ok, refuse_ok, exists_const, not_not] at h
    obtain ⟨hvalues, _, hpaths, hnodup, h⟩ := h
    cases h
    refine ⟨?_, hnodup⟩
    rintro rfl
    have hlength := (mapM_ok.1 hpaths).length_eq
    rw [List.length_zipIdx, List.length_nil, List.length_eq_zero_iff] at hlength
    exact hvalues hlength
  · cases h

theorem getCompatibilityProfile_ok {profile_id : String} {profile : CompatibilityProfile}
    (h : getCompatibilityProfile profile_id = .ok profile) : profile ∈ compatibilityProfiles ∧ profile.id = profile_id := by
  unfold getCompatibilityProfile at h
  split at h
  · rename_i hfind
    cases h
    exact ⟨List.mem_of_find?_eq_some hfind, by simpa using List.find?_some hfind⟩
  · cases h

theorem deviceId_ok {n : Int} (h : deviceId value = .ok n) : 0 ≤ n := by
  unfold deviceId at h
  split at h
  · split_ifs at h with hn
    cases h
    omega
  · cases h

theorem configOf_ok {source : Path} {config : LoadedConfig} (h : configOf resolve home source value = .ok config) :
    config.Valid resolve := by
  unfold configOf at h
  simp only [except_bind_ok, refuse_ok, exists_const] at h
  obtain ⟨_, -, -, _, -, _, -, -, _, -, _, -, profile, hprofile, _, -, _, hdevice, _, -, ⟨scratch_root, runtime⟩, hruntime,
    _, -, _, hassets, _, -, _, -, _, hidentity, _, -, _, hvendors, _, -, _, -, h⟩ := h
  cases h
  obtain ⟨hmem, hid⟩ := getCompatibilityProfile_ok hprofile
  obtain ⟨hscratch, hsteps, hcapacity, hstartup⟩ := runtimeSettings_ok hruntime
  exact ⟨⟨profile, hmem, hid, validateProfileIdentity_ok hidentity⟩, deviceId_ok hdevice, hsteps, hcapacity, hstartup,
    oppVendors_ok hvendors, hscratch, runtimeAssets_ok hassets⟩

/-- **What the loader accepts.** -/
theorem load_ok {fs : FileSystem} {source : Path} {config : LoadedConfig}
    (h : loadRuntimeConfig resolve home fs source = .ok config) : config.Valid resolve := by
  unfold loadRuntimeConfig at h
  split at h
  · split_ifs at h
  · split at h
    · cases h
    · split at h
      · cases h
      · exact configOf_ok h

/-- a file with the text of a value -/
theorem loadRuntimeConfig_text {fs : FileSystem} {source : Path} (hplain : value.Plain)
    (hfile : fs.file source = some (encodeText (value.text none 0))) :
    loadRuntimeConfig resolve home fs source = configOf resolve home source value := by
  have hloads : Json.loads (value.text none 0) = some value := by
    have h : Json.loads (value.text none 0 ++ []) = some value := Json.loads_text none hplain fun c hc => (by cases hc)
    rwa [List.append_nil] at h
  unfold loadRuntimeConfig
  rw [hfile]
  dsimp only
  rw [decodeText_encodeText]
  dsimp only
  rw [hloads]

/-- **The weights of every profile** are those of the frozen checkpoint. -/
theorem LoadedConfig.Valid.weights {config : LoadedConfig} (h : config.Valid resolve) :
    config.integrity.external_weights_manifest_sha256 = EXPECTED_MANIFEST_SHA256 ∧
      config.integrity.external_weight_files = EXPECTED_EXTERNAL_FILES ∧
      config.integrity.external_weight_bytes = EXPECTED_EXTERNAL_BYTES := by
  obtain ⟨profile, hmem, -, hof⟩ := h.profile
  have hprofile : profile.runtime_weights_manifest_sha256 = EXPECTED_MANIFEST_SHA256 ∧
      profile.runtime_weight_files = EXPECTED_EXTERNAL_FILES ∧ profile.runtime_weight_bytes = EXPECTED_EXTERNAL_BYTES := by
    simp only [compatibilityProfiles, List.mem_cons, List.not_mem_nil, or_false] at hmem
    rcases hmem with rfl | rfl
    · exact ⟨rfl, rfl, rfl⟩
    · exact ⟨rfl, rfl, rfl⟩
  exact ⟨hof.manifest.trans hprofile.1, hof.files.trans hprofile.2.1, hof.bytes.trans hprofile.2.2⟩

end Accepted

/-! ### A configuration of one-letter paths -/

def letterValueOf (logical_capacity : Int) : Json := .obj [
  ("schema_version", .int 1),
  ("compatibility_profile", .str "attempt74-910b2-cann851-r5"),
  ("device_id", .int 7),
  ("cann_set_env", .str "/e"),
  ("custom_opp_vendors", .arr [.str "/v"]),
  ("runtime", .obj [
    ("scratch_root", .str "/dev/shm/s"),
    ("minimum_scratch_free_bytes", .int 1),
    ("max_steps", .int 8),
    ("logical_capacity", .int logical_capacity),
    ("startup_timeout_seconds", .int 3600),
    ("persistent_output_limit_bytes", .int 1)]),
  ("assets", .obj [
    ("server", .str "/b"),
    ("air", .str "/a"),
    ("graph_config", .str "/g"),
    ("function_config", .str "/f"),
    ("tiling", .str "/t"),
    ("external_weights", .str "/w"),
    ("external_weights_manifest", .str "/m"),
    ("resource_config", .str "/r"),
    ("model_config", .str "/c"),
    ("model_index", .str "/i")]),
  ("integrity", .obj [
    ("air_sha256", .str "341cc9b8af8fc36d42c9cbaca2fcc31ec594ebcd03063fc556a7ccec71c1d31e"),
    ("graph_config_sha256", .str "341cc9b8af8fc36d42c9cbaca2fcc31ec594ebcd03063fc556a7ccec71c1d31e"),
    ("tiling_sha256", .str "1fc40ec0d67e231128773a5448cdd3333bdd1b97ea8a67bb7ba881d43b0da51f"),
    ("external_weights_manifest_sha256", .str "2ec95bf8e78cfaf091782b3c531b19b9cced35dcfab0e418c756e25abe456761"),
    ("external_weight_files", .int 342),
    ("external_weight_bytes", .int 15231237408),
    ("model_config_sha256", .str "7463bb0ea78315365e6c6b74de4e73bbcc8359dfb0c5a737584e077d42c0b03c"),
    ("model_index_sha256", .str "624bf7c47cd12468fdc16e38a47cf4f19e0415b859a223ba3c027eed2f0e1028")])]

def letterValue : Json := letterValueOf 8

def letterConfig : LoadedConfig where
  compatibility_profile := "attempt74-910b2-cann851-r5"
  cann_set_env := ["e"]
  custom_opp_vendors := [["v"]]
  scratch_root := ["dev", "shm", "s"]
  assets :=
    { server := ["b"], air := ["a"], graph_config := ["g"], function_config := ["f"], tiling := ["t"], external_weights := ["w"]
      external_weights_manifest := ["m"], resource_config := ["r"], model_config := ["c"], model_index := ["i"] }
  integrity :=
    { air_sha256 := "341cc9b8af8fc36d42c9cbaca2fcc31ec594ebcd03063fc556a7ccec71c1d31e"
      graph_config_sha256 := "341cc9b8af8fc36d42c9cbaca2fcc31ec594ebcd03063fc556a7ccec71c1d31e"
      tiling_sha256 := "1fc40ec0d67e231128773a5448cdd3333bdd1b97ea8a67bb7ba881d43b0da51f"
      external_weights_manifest_sha256 := EXPECTED_MANIFEST_SHA256
      external_weight_files := EXPECTED_EXTERNAL_FILES
      external_weight_bytes := EXPECTED_EXTERNAL_BYTES
      model_config_sha256 := MODEL_CONFIG_SHA256
      model_index_sha256 := MODEL_INDEX_SHA256 }
  source := ["cruise.json"]
  device_id := 7
  runtime := ⟨1, 8, 8, 3600, 1⟩

deriving instance DecidableEq for RuntimeAssets, AssetIntegrity, CruiseRuntimeConfig, LoadedConfig

/-- without links, a path is resolved as it is written -/
def written (path : Path) : Path := path.filter fun part => part ≠ "" ∧ part ≠ "." ∧ '/' ∉ part.toList

theorem letter_config : configOf written (fun _ => none) ["cruise.json"] letterValue = .ok letterConfig := by decide +kernel

/-- a file system with one file -/
def oneFile (source : Path) (content : Bytes) : FileSystem where
  file := fun path => if path = source then some content else none
  executable := fun _ => false
  is_dir := fun _ => false
  names := fun _ => []
  resolve := written
  names_nodup := fun _ => List.nodup_nil

theorem letterValueOf_plain (logical_capacity : Int) : (letterValueOf logical_capacity).Plain := by
  unfold letterValueOf
  simp [Json.Plain, Json.PlainItems, Json.PlainItem, Json.PlainValues]

theorem letter_loads {fs : FileSystem} (hfile : fs.file ["cruise.json"] = some (encodeText (letterValue.text none 0))) :
    loadRuntimeConfig written (fun _ => none) fs ["cruise.json"] = .ok letterConfig :=
  (loadRuntimeConfig_text (letterValueOf_plain 8) hfile).trans letter_config

theorem oneFile_file (source : Path) (content : Bytes) : (oneFile source content).file source = some content := by
  unfold oneFile
  simp only [if_true]

end Cruise.Assets
