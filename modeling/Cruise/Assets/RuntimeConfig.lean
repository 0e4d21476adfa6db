/-
The checks of a runtime configuration against the file system (`runtime_config.py`, `CruiseRuntimeConfig.validate_paths`).

MODEL. A path is its components; the platform is POSIX. The file system is what the checks ask of it, and does not change
while they run. SHA-256 and `json.loads` (with the decoding of the text) are parameters. An exception that is no
`RuntimeConfigError` is `other`. The fields of the configuration that no check reads are left out.
- `validateHashes_ok_iff`: what the digest table accepts.
- `validateExternalWeights_ok`: what the deep check of the weights accepts.
- `deep_validation_iff`: an accepted configuration has every asset's digest exactly if assets at one path have one digest.
-/
import Cruise.Lib.Dict
import Cruise.Lib.Fold
import Cruise.Lib.Json
import Cruise.Lib.Lines

namespace Cruise.Assets

open Cruise.Lib

/-! ## Files -/

abbrev Path := List String

def Path.str (path : Path) : String := "/" ++ "/".intercalate path

structure FileSystem where
  /-- the regular files, as they are opened -/
  file : Path → Option (List UInt8)
  /-- some executable bit of the mode is set -/
  executable : Path → Bool
  is_dir : Path → Bool
  /-- the names `iterdir` goes through -/
  names : Path → List String
  resolve : Path → Path
  names_nodup : ∀ path, (names path).Nodup

namespace FileSystem

def is_file (fs : FileSystem) (path : Path) : Bool := (fs.file path).isSome

/-- the names of the regular files of a directory -/
def fileNames (fs : FileSystem) (directory : Path) : List String :=
  (fs.names directory).filter fun name => fs.is_file (directory ++ [name])

/-- `path.stat().st_size` of a regular file -/
def size (fs : FileSystem) (path : Path) : ℕ := ((fs.file path).getD []).length

end FileSystem

/-! ## Configuration -/

structure RuntimeAssets where
  server : Path
  air : Path
  graph_config : Path
  function_config : Path
  tiling : Path
  external_weights : Path
  external_weights_manifest : Path
  resource_config : Path
  model_config : Path
  model_index : Path

structure AssetIntegrity where
  air_sha256 : String
  graph_config_sha256 : String
  tiling_sha256 : String
  external_weights_manifest_sha256 : String
  external_weight_files : Int
  external_weight_bytes : Int
  model_config_sha256 : String
  model_index_sha256 : String

structure CruiseRuntimeConfig where
  compatibility_profile : String
  cann_set_env : Path
  custom_opp_vendors : List Path
  scratch_root : Path
  assets : RuntimeAssets
  integrity : AssetIntegrity

structure RuntimeConfigError where
  message : String
  code : Option String := none
  expected : Option String := none
  observed : Option String := none
  remediation : Option String := none
deriving DecidableEq, Repr

inductive Raised where
  | config (error : RuntimeConfigError)
  | other
deriving DecidableEq, Repr

def configError (message : String) : Raised := .config { message }

def HOST_UDF_INPUTS : Int := 8
def HOST_UDF_OUTPUTS : Int := 2

/-- the assets that are hashed, and the digests their integrity fields name -/
def CruiseRuntimeConfig.hashedAssets (config : CruiseRuntimeConfig) : List (Path × String) := [
  (config.assets.air, config.integrity.air_sha256),
  (config.assets.graph_config, config.integrity.graph_config_sha256),
  (config.assets.tiling, config.integrity.tiling_sha256),
  (config.assets.external_weights_manifest, config.integrity.external_weights_manifest_sha256),
  (config.assets.model_config, config.integrity.model_config_sha256),
  (config.assets.model_index, config.integrity.model_index_sha256)]

/-! ## The checks -/

section Checks

variable (sha256 : List UInt8 → String) (loads : List UInt8 → Option Json) (fs : FileSystem) (config : CruiseRuntimeConfig)

def sha256File (path : Path) : Option String := (fs.file path).map sha256

def requiredFiles : List (String × Path) := [
  ("cann_set_env", config.cann_set_env),
  ("server", config.assets.server),
  ("air", config.assets.air),
  ("graph_config", config.assets.graph_config),
  ("function_config", config.assets.function_config),
  ("tiling", config.assets.tiling),
  ("external_weights_manifest", config.assets.external_weights_manifest),
  ("resource_config", config.assets.resource_config),
  ("model_config", config.assets.model_config),
  ("model_index", config.assets.model_index)]

def checkRequired (item : String × Path) : Except Raised Unit :=
  let (name, path) := item
  if fs.is_file path then .ok ()
  else .error (.config {
    message := s!"{name} is not a file: {path.str}"
    code := some "missing-runtime-asset"
    expected := some s!"regular file for {name} at {path.str}"
    observed := some "missing or not a regular file"
    remediation := some (s!"provision the content-addressed asset bundle declared by profile " ++
      s!"{config.compatibility_profile}; do not substitute an unqualified model or artifact") })

def checkServer : Except Raised Unit :=
  let server := config.assets.server
  if fs.executable server then .ok ()
  else .error (.config {
    message := s!"server is not executable: {server.str}"
    code := some "invalid-runtime-asset-permissions"
    expected := some s!"executable server at {server.str}"
    observed := some "regular file without an executable bit"
    remediation := some "restore the executable mode from the qualified asset bundle" })

def checkWeightsDirectory : Except Raised Unit :=
  let weights := config.assets.external_weights
  if fs.is_dir weights then .ok ()
  else .error (.config {
    message := s!"external_weights is not a directory: {weights.str}"
    code := some "missing-runtime-asset"
    expected := some (s!"external weight directory with {config.integrity.external_weight_files} files and " ++
      s!"{config.integrity.external_weight_bytes} bytes at {weights.str}")
    observed := some "missing or not a directory"
    remediation := some (s!"provision the content-addressed runtime weights declared by profile " ++
      s!"{config.compatibility_profile}; do not download or reuse a different model revision") })

/-- `_validate_device_paths` -/
def validateDevicePaths : Except Raised Unit :=
  let scratch := fs.resolve config.scratch_root
  let weights := fs.resolve config.assets.external_weights
  let shared : Path := ["dev", "shm"]
  if ¬shared <+: scratch then .error (configError s!"scratch_root must be below /dev/shm: {scratch.str}")
  else if scratch = shared then .error (configError "scratch_root must not be /dev/shm itself")
  else if scratch <+: weights then
    .error (configError "external_weights must not be inside the cleanup-managed scratch_root")
  else .ok ()

/-- `_validate_opp_vendors` -/
def validateOppVendors : Except Raised Unit :=
  config.custom_opp_vendors.forM fun vendor =>
    [["op_impl"], ["op_proto"], ["op_api", "lib"]].forM fun relative =>
      let path : Path := vendor ++ relative
      if fs.is_dir path then .ok () else .error (configError s!"custom OPP directory is missing: {path.str}")

/-- the list `func_list` must be -/
def isFunctionList : Option Json → Bool
  | some (.arr [.obj [("func_name", .str name)]]) => name = "g4c_b4_resident_epoch"
  | _ => false

/-- `_validate_function_config`; an unreadable or unparsable file is reported, a value that is no object raises -/
def validateFunctionConfig (path_of : String → Path) : Except Raised Unit :=
  match (fs.file config.assets.function_config).bind loads with
  | none => .error (configError "cannot parse function_config")
  | some value =>
    if value.items.isNone then .error .other
    else if isFunctionList (value.get "func_list") = false then
      .error (configError "function_config selects an unexpected UDF")
    else if (value.get "input_num").any (·.equalsInt HOST_UDF_INPUTS) = false then
      .error (configError "function_config Host-UDF input count is incompatible")
    else if (value.get "output_num").any (·.equalsInt HOST_UDF_OUTPUTS) = false then
      .error (configError "function_config Host-UDF output count is incompatible")
    else
      match value.get "workspace" with
      | some (.str workspace) =>
        if fs.is_dir (path_of workspace) then .ok () else .error (configError "function_config workspace is missing")
      | _ => .error (configError "function_config workspace is missing")

def checkHash (item : Path × String) : Except Raised Unit :=
  let (path, digest) := item
  match sha256File sha256 fs path with
  | none => .error .other
  | some observed =>
    if observed ≠ digest then
      .error (configError s!"SHA256 mismatch for {path.str}: expected {digest}, observed {observed}")
    else .ok ()

/-- `_validate_hashes`: the expected digests are a dictionary by path -/
def validateHashes : Except Raised Unit := (dictOf config.hashedAssets).forM (checkHash sha256 fs)

/-- the names of the records that are objects -/
def manifestNames (records : List Json) : List Json :=
  (records.filter fun record => record.items.isSome).map fun record => (record.get "name").getD .null

/-- a value a set can hold -/
def hashable : Json → Bool
  | .arr _ => false
  | .obj _ => false
  | _ => true

/-- the sets of names are equal -/
def sameNames (names : List Json) (expected : List String) : Bool :=
  names.all (fun name => expected.any name.equalsStr) && expected.all fun s => names.any (·.equalsStr s)

/-- one record of the manifest against its file -/
def checkRecord (directory : Path) (record : Json) : Except Raised Unit :=
  match record.get "name" with
  | some (.str name) =>
    match fs.file (directory ++ [name]) with
    | none => .error .other
    | some content =>
      if (record.get "bytes").any (·.equalsInt content.length) = false then
        .error (configError s!"external weight size mismatch: {name}")
      else if (record.get "sha256").any (·.equalsStr (sha256 content)) = false then
        .error (configError s!"external weight SHA256 mismatch: {name}")
      else .ok ()
  | _ => .error .other

/-- `_validate_external_weights` from the manifest on -/
def validateManifest : Except Raised Unit :=
  let files := fs.fileNames config.assets.external_weights
  match (fs.file config.assets.external_weights_manifest).bind loads with
  | none => .error (configError "cannot parse external weight manifest")
  | some manifest =>
    if manifest.items.isNone then .error .other
    else
      match manifest.get "files" with
      | some (.arr records) =>
        if records.length ≠ files.length then .error (configError "external weight manifest file list is incomplete")
        else if (manifestNames records).all hashable = false then .error .other
        else if sameNames (manifestNames records) files = false then
          .error (configError "external weight manifest names do not match directory")
        else records.forM (checkRecord sha256 fs config.assets.external_weights)
      | _ => .error (configError "external weight manifest file list is incomplete")

/-- `_validate_external_weights` -/
def validateExternalWeights (deep : Bool) : Except Raised Unit :=
  let files := fs.fileNames config.assets.external_weights
  let observed_bytes := (files.map fun name => fs.size (config.assets.external_weights ++ [name])).sum
  if (files.length : Int) ≠ config.integrity.external_weight_files then
    .error (configError (s!"external weight file count mismatch: expected {config.integrity.external_weight_files}, " ++
      s!"observed {files.length}"))
  else if (observed_bytes : Int) ≠ config.integrity.external_weight_bytes then
    .error (configError (s!"external weight byte count mismatch: expected {config.integrity.external_weight_bytes}, " ++
      s!"observed {observed_bytes}"))
  else if deep = false then .ok ()
  else validateManifest sha256 loads fs config

/-- `validate_paths` -/
def validatePaths (path_of : String → Path) (deep : Bool) : Except Raised Unit := do
  (requiredFiles config).forM (checkRequired fs config)
  checkServer fs config
  checkWeightsDirectory fs config
  validateDevicePaths fs config
  validateOppVendors fs config
  validateFunctionConfig loads fs config path_of
  validateHashes sha256 fs config
  validateExternalWeights sha256 loads fs config deep

end Checks

/-! ## What is accepted -/

section Accepted

variable {sha256 : List UInt8 → String} {loads : List UInt8 → Option Json} {fs : FileSystem} {config : CruiseRuntimeConfig}

theorem checkHash_ok_iff {item : Path × String} :
    checkHash sha256 fs item = .ok () ↔ sha256File sha256 fs item.1 = some item.2 := by
  obtain ⟨path, digest⟩ := item
  unfold checkHash
  dsimp only
  cases sha256File sha256 fs path with
  | none => exact iff_of_false (fun h => by cases h) fun h => by cases h
  | some observed =>
    dsimp only
    by_cases hsame : observed = digest
    · rw [if_neg (not_not.2 hsame), hsame]
      exact iff_of_true rfl rfl
    · rw [if_pos hsame]
      exact iff_of_false (fun h => by cases h) fun h => hsame (Option.some.inj h)

/-- **What the digest table accepts.** -/
theorem validateHashes_ok_iff : validateHashes sha256 fs config = .ok () ↔
    ∀ item ∈ dictOf config.hashedAssets, sha256File sha256 fs item.1 = some item.2 := by
  unfold validateHashes
  rw [forM_ok_iff]
  simp only [checkHash_ok_iff]

/-- assets at one path have one digest -/
def OneDigest (config : CruiseRuntimeConfig) : Prop :=
  ∀ a ∈ config.hashedAssets, ∀ b ∈ config.hashedAssets, a.1 = b.1 → a.2 = b.2

instance : Decidable (OneDigest config) := inferInstanceAs (Decidable (∀ a ∈ config.hashedAssets, _))

/-- every asset has the digest its own field names -/
def HashesHold (sha256 : List UInt8 → String) (fs : FileSystem) (config : CruiseRuntimeConfig) : Prop :=
  ∀ asset ∈ config.hashedAssets, sha256File sha256 fs asset.1 = some asset.2

theorem hashesHold_iff (h : validateHashes sha256 fs config = .ok ()) : HashesHold sha256 fs config ↔ OneDigest config := by
  rw [validateHashes_ok_iff] at h
  constructor
  · intro hold a ha b hb hpath
    have hdigest := hold b hb
    rw [← hpath, hold a ha] at hdigest
    exact Option.some.inj hdigest
  · intro hone asset hasset
    -- the table has an item of the path, whose digest is that of some asset there
    obtain ⟨digest, hitem⟩ := dictOf_key hasset
    have hsame := hone asset hasset _ (mem_dictOf hitem) rfl
    exact hsame ▸ h _ hitem

/-- a record and its file -/
structure RecordHolds (sha256 : List UInt8 → String) (fs : FileSystem) (directory : Path) (record : Json) (name : String) :
    Prop where
  named : record.get "name" = some (.str name)
  content : ∃ content bytes, fs.file (directory ++ [name]) = some content ∧ record.get "bytes" = some bytes ∧
    bytes.number = some (content.length : ℚ) ∧ record.get "sha256" = some (.str (sha256 content))

theorem checkRecord_ok_iff {directory : Path} {record : Json} : checkRecord sha256 fs directory record = .ok () ↔
    ∃ name, RecordHolds sha256 fs directory record name := by
  unfold checkRecord
  constructor
  · intro h
    split at h
    · rename_i name hname
      split at h
      · cases h
      · rename_i content hcontent
        split_ifs at h with hbytes hdigest
        rw [Bool.not_eq_false, Option.any_eq_true] at hbytes hdigest
        obtain ⟨bytes, hbytes, hsize⟩ := hbytes
        obtain ⟨digest, hdigest, hsha⟩ := hdigest
        rw [Json.equalsStr_iff] at hsha
        rw [Json.equalsInt_iff] at hsize
        exact ⟨name, hname, content, bytes, hcontent, hbytes, by exact_mod_cast hsize, hsha ▸ hdigest⟩
    · cases h
  · rintro ⟨name, hname, content, bytes, hcontent, hbytes, hsize, hdigest⟩
    have hsize : bytes.equalsInt content.length = true := Json.equalsInt_iff.2 (by exact_mod_cast hsize)
    rw [hname]
    dsimp only
    rw [hcontent]
    dsimp only
    rw [hbytes, hdigest, Option.any_some, Option.any_some, hsize, if_neg Bool.noConfusion,
      Json.equalsStr_iff.2 rfl, if_neg Bool.noConfusion]

/-- the files of the directory and the records of the manifest, one by one -/
structure WeightsHold (sha256 : List UInt8 → String) (loads : List UInt8 → Option Json) (fs : FileSystem)
    (config : CruiseRuntimeConfig) : Prop where
  records : ∃ text manifest records, fs.file config.assets.external_weights_manifest = some text ∧
    loads text = some manifest ∧ manifest.get "files" = some (.arr records) ∧
    ∃ names, names.Perm (fs.fileNames config.assets.external_weights) ∧
      List.Forall₂ (RecordHolds sha256 fs config.assets.external_weights) records names
  distinct : (fs.fileNames config.assets.external_weights).Nodup
  files : ((fs.fileNames config.assets.external_weights).length : Int) = config.integrity.external_weight_files
  bytes : (((fs.fileNames config.assets.external_weights).map
    fun name => fs.size (config.assets.external_weights ++ [name])).sum : Int) = config.integrity.external_weight_bytes

/-- as many records as files, with the same set of names, are one record for each file -/
theorem names_perm {records : List Json} {files names : List String} (hfiles : files.Nodup)
    (hcount : records.length = files.length) (hsame : sameNames (manifestNames records) files = true)
    (hnames : List.Forall₂ (fun (record : Json) name => record.get "name" = some (.str name)) records names) :
    names.Perm files := by
  have hlength : names.length = files.length := hnames.length_eq.symm.trans hcount
  have hsub : files ⊆ names := by
    intro name hname
    unfold sameNames at hsame
    rw [Bool.and_eq_true, List.all_eq_true, List.all_eq_true] at hsame
    obtain ⟨value, hvalue, hequal⟩ := List.any_eq_true.1 (hsame.2 name hname)
    rw [Json.equalsStr_iff] at hequal
    subst hequal
    obtain ⟨record, hrecord, heq⟩ := List.mem_map.1 hvalue
    obtain ⟨other, hother, hget⟩ := forall₂_mem hnames.flip (List.mem_filter.1 hrecord).1
    have hget : record.get "name" = some (.str other) := hget
    rw [hget, Option.getD_some, Json.str.injEq] at heq
    exact heq ▸ hother
  exact ((hfiles.subperm hsub).perm_of_length_le hlength.le).symm

theorem validateManifest_ok (h : validateManifest sha256 loads fs config = .ok ()) :
    ∃ text manifest records, fs.file config.assets.external_weights_manifest = some text ∧ loads text = some manifest ∧
      manifest.get "files" = some (.arr records) ∧ ∃ names, names.Perm (fs.fileNames config.assets.external_weights) ∧
      List.Forall₂ (RecordHolds sha256 fs config.assets.external_weights) records names := by
  unfold validateManifest at h
  dsimp only at h
  split at h
  · cases h
  · rename_i manifest hmanifest
    obtain ⟨text, htext, hloads⟩ := Option.bind_eq_some_iff.1 hmanifest
    split_ifs at h
    split at h
    · rename_i records hrecords
      split_ifs at h with hcount _ hsame
      rw [forM_ok_iff] at h
      obtain ⟨names, hnames⟩ := forall₂_exists fun record hrecord => checkRecord_ok_iff.1 (h record hrecord)
      refine ⟨text, manifest, records, htext, hloads, hrecords, names, ?_, hnames⟩
      exact names_perm ((fs.names_nodup _).filter _) (not_not.1 hcount) (by simpa using hsame)
        (hnames.imp fun _ _ hrecord => hrecord.named)
    · cases h

theorem validateExternalWeights_ok (h : validateExternalWeights sha256 loads fs config true = .ok ()) :
    WeightsHold sha256 loads fs config := by
  unfold validateExternalWeights at h
  dsimp only at h
  rw [if_neg (show ¬true = false by decide)] at h
  split_ifs at h with hfiles hbytes
  · exact ⟨validateManifest_ok h, (fs.names_nodup _).filter _, not_not.1 hfiles, not_not.1 hbytes⟩

/-- the checks that come last -/
theorem validatePaths_ok {path_of : String → Path} {deep : Bool}
    (h : validatePaths sha256 loads fs config path_of deep = .ok ()) :
    validateHashes sha256 fs config = .ok () ∧ validateExternalWeights sha256 loads fs config deep = .ok () := by
  unfold validatePaths at h
  simp only [except_bind_ok] at h
  obtain ⟨_, -, _, -, _, -, _, -, _, -, _, -, _, hhashes, hweights⟩ := h
  exact ⟨hhashes, hweights⟩

end Accepted

/-- **Deep path validation.** -/
theorem deep_validation_iff {sha256 : List UInt8 → String} {loads : List UInt8 → Option Json} {fs : FileSystem}
    {config : CruiseRuntimeConfig} {path_of : String → Path}
    (h : validatePaths sha256 loads fs config path_of true = .ok ()) :
    HashesHold sha256 fs config ∧ WeightsHold sha256 loads fs config ↔ OneDigest config := by
  obtain ⟨hhashes, hweights⟩ := validatePaths_ok h
  rw [← hashesHold_iff hhashes]
  exact and_iff_left (validateExternalWeights_ok hweights)

/-! ### Assets of one byte -/

/-- a digest that is as long as what it is of -/
def identityDigest (bytes : List UInt8) : String := String.ofList (bytes.map fun b => Char.ofNat b.toNat)

theorem identityDigest_injective : Function.Injective identityDigest := by
  intro a b h
  have hlists : (a.map fun b : UInt8 => Char.ofNat b.toNat) = b.map fun b => Char.ofNat b.toNat := String.ofList_injective h
  refine List.map_injective_iff.2 (fun x y hxy => ?_) hlists
  have hvalid (n : ℕ) (hn : n < 256) : (Char.ofNat n).toNat = n := by
    have hscalar : n.isValidChar := Or.inl (by omega)
    unfold Char.ofNat
    rw [dif_pos hscalar]
    rfl
  have hvalue := congrArg Char.toNat hxy
  rw [hvalid _ x.toNat_lt, hvalid _ y.toNat_lt] at hvalue
  exact UInt8.toNat_inj.1 hvalue

def functionText : List UInt8 :=
  asciiBytes ("\x7b\"func_list\": [\x7b\"func_name\": \"g4c_b4_resident_epoch\"\x7d], \"input_num\": 8," ++
    "\"output_num\": 2, \"workspace\": \"/udf\"\x7d")

def manifestText : List UInt8 := asciiBytes "\x7b\"files\": [\x7b\"name\": \"w\", \"bytes\": 1, \"sha256\": \"A\"\x7d]\x7d"

/-- the values of the two texts -/
def plainLoads (text : List UInt8) : Option Json :=
  if text = functionText then
    some (.obj [("func_list", .arr [.obj [("func_name", .str "g4c_b4_resident_epoch")]]), ("input_num", .int 8),
      ("output_num", .int 2), ("workspace", .str "/udf")])
  else if text = manifestText then
    some (.obj [("files", .arr [.obj [("name", .str "w"), ("bytes", .int 1), ("sha256", .str "A")]])])
  else none

/-- a directory of empty assets, and one weight of one byte -/
def plainFiles : FileSystem where
  file := fun path =>
    if path = ["assets", "function"] then some functionText
    else if path = ["assets", "manifest"] then some manifestText
    else if path = ["weights", "w"] then some [65]
    else if path.head? = some "assets" then some []
    else none
  executable := fun _ => true
  is_dir := fun path => path.head? ≠ some "assets"
  names := fun path => if path = ["weights"] then ["w"] else []
  resolve := fun path => path
  names_nodup := fun path => by split_ifs <;> decide

/-- all assets in place, with the given digest for an AIR file at the given path -/
def plainConfig (air : Path) (air_sha256 : String) : CruiseRuntimeConfig where
  compatibility_profile := "plain"
  cann_set_env := ["assets", "set_env"]
  custom_opp_vendors := []
  scratch_root := ["dev", "shm", "cruise"]
  assets := {
    server := ["assets", "server"]
    air := air
    graph_config := ["assets", "graph"]
    function_config := ["assets", "function"]
    tiling := ["assets", "tiling"]
    external_weights := ["weights"]
    external_weights_manifest := ["assets", "manifest"]
    resource_config := ["assets", "resource"]
    model_config := ["assets", "model"]
    model_index := ["assets", "index"] }
  integrity := {
    air_sha256 := air_sha256
    graph_config_sha256 := ""
    tiling_sha256 := ""
    external_weights_manifest_sha256 := identityDigest manifestText
    external_weight_files := 1
    external_weight_bytes := 1
    model_config_sha256 := ""
    model_index_sha256 := "" }

theorem deep_validation_plain :
    validatePaths identityDigest plainLoads plainFiles (plainConfig ["assets", "air"] "") (fun _ => ["udf"]) true = .ok () ∧
      HashesHold identityDigest plainFiles (plainConfig ["assets", "air"] "") ∧
      WeightsHold identityDigest plainLoads plainFiles (plainConfig ["assets", "air"] "") := by
  have h : validatePaths identityDigest plainLoads plainFiles (plainConfig ["assets", "air"] "") (fun _ => ["udf"]) true =
      .ok () := by decide +kernel
  exact ⟨h, (deep_validation_iff h).2 (by decide +kernel)⟩

/-- **An AIR file that is not the one named.** -/
theorem shared_path_accepted : ¬∀ (sha256 : List UInt8 → String) (loads : List UInt8 → Option Json) (fs : FileSystem)
    (config : CruiseRuntimeConfig) (path_of : String → Path), Function.Injective sha256 →
      validatePaths sha256 loads fs config path_of true = .ok () →
      HashesHold sha256 fs config ∧ WeightsHold sha256 loads fs config := by
  intro h
  have hvalid : validatePaths identityDigest plainLoads plainFiles (plainConfig ["assets", "graph"] "A")
      (fun _ => ["udf"]) true = .ok () := by decide +kernel
  obtain ⟨hhashes, -⟩ := h _ _ _ _ _ identityDigest_injective hvalid
  have hair := hhashes (["assets", "graph"], "A") List.mem_cons_self
  exact absurd hair (by decide +kernel)

end Cruise.Assets
