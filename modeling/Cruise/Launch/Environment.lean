/-
From a runtime configuration to the server: the environment of a run (`runtime_config.py`, `environment`), what the plugin
and the sidecar's client read of it (`config.py`, `sidecar_backend.py`), and the server's arguments
(`resident_epoch_server.cpp`).

MODEL. An environment is its variables in order. Between the two stands `source "$1"`, CANN's set_env.sh, which may set any
variable but the plugin's. Making the directories of a run, and removing old sockets, may raise; the process is started.
- `environment_config`: the plugin reads the steps and the capacity that were configured.
- `command_arguments`: the server's arguments are the client's paths.
- `launch_arguments`: **a validated configuration reaches the server**.
-/
import Cruise.Assets.RuntimeLoad
import Cruise.Scheduler.Leases

namespace Cruise.Launch

open Cruise.Lib Cruise.Worker Cruise.Assets Cruise.Scheduler

/-! ## The environment of a run -/

abbrev Environ := List (String × String)

/-- `str(n)` -/
def intText (n : Int) : String := String.ofList (decimal n)

/-- `environment.update(items)` -/
def update (environ items : Environ) : Environ := items.foldl setItem environ

def runVariables (config : LoadedConfig) (run_directory : Path) : Environ := [
  ("ASCEND_RT_VISIBLE_DEVICES", intText config.device_id),
  ("ASCEND_GLOBAL_LOG_LEVEL", "3"),
  ("ASCEND_SLOG_PRINT_TO_STDOUT", "1"),
  ("ASCEND_PROCESS_LOG_PATH", (run_directory ++ ["logs"]).str),
  ("ASCEND_CACHE_PATH", (run_directory ++ ["cache", "ascend"]).str),
  ("TMPDIR", (run_directory ++ ["tmp"]).str),
  ("TORCHINDUCTOR_CACHE_DIR", (run_directory ++ ["cache", "torchinductor"]).str),
  ("TRITON_CACHE_DIR", (run_directory ++ ["cache", "triton"]).str),
  ("XDG_CACHE_HOME", (run_directory ++ ["cache", "xdg"]).str),
  ("PYTHONDONTWRITEBYTECODE", "1"),
  ("RESOURCE_CONFIG_PATH", config.assets.resource_config.str),
  ("VLLM_ASCEND_RESIDENT_EPOCH_BACKEND_FACTORY", "vllm_ascend_resident_epoch.sidecar_backend:create_sidecar_engine"),
  ("VLLM_ASCEND_RESIDENT_EPOCH_SERVER", config.assets.server.str),
  ("VLLM_ASCEND_RESIDENT_EPOCH_AIR", config.assets.air.str),
  ("VLLM_ASCEND_RESIDENT_EPOCH_GRAPH_CONFIG", config.assets.graph_config.str),
  ("VLLM_ASCEND_RESIDENT_EPOCH_FUNC_CONFIG", config.assets.function_config.str),
  ("VLLM_ASCEND_RESIDENT_EPOCH_TILING", config.assets.tiling.str),
  ("VLLM_ASCEND_RESIDENT_EPOCH_EXTERNAL_WEIGHTS", (run_directory ++ ["graph-external-weights"]).str),
  ("VLLM_ASCEND_RESIDENT_EPOCH_RUNTIME_WEIGHTS", config.assets.external_weights.str),
  ("VLLM_ASCEND_RESIDENT_EPOCH_SOCKET", (run_directory ++ ["resident-epoch.sock"]).str),
  ("VLLM_ASCEND_RESIDENT_EPOCH_STARTUP_TIMEOUT", intText config.runtime.startup_timeout_seconds),
  ("VLLM_ASCEND_RESIDENT_EPOCH_STEPS", intText config.runtime.max_steps),
  ("VLLM_ASCEND_RESIDENT_EPOCH_CAPACITY", intText config.runtime.logical_capacity)]

/-- `paths`, before what the variable was set to, unless that is empty -/
def prepended (environ : Environ) (name paths : String) : String :=
  match environ.lookup name with
  | none => paths
  | some existing => if existing = "" then paths else s!"{paths}:{existing}"

/-- `environment`, in a resolved run directory -/
def environment (config : LoadedConfig) (run_directory : Path) (base : Environ) : Environ :=
  let environ := update base (runVariables config run_directory)
  if config.custom_opp_vendors = [] then environ
  else
    let vendors := ":".intercalate (config.custom_opp_vendors.map Path.str)
    let environ := setItem environ ("ASCEND_CUSTOM_OPP_PATH", prepended environ "ASCEND_CUSTOM_OPP_PATH" vendors)
    let libraries := ":".intercalate (config.custom_opp_vendors.map fun path => Path.str (path ++ ["op_api", "lib"]))
    setItem environ ("LD_LIBRARY_PATH", prepended environ "LD_LIBRARY_PATH" libraries)

/-! ## The plugin -/

inductive EnvironError where
  | integer (name raw : String)
  | config (error : ConfigError)
deriving DecidableEq, Repr

/-- `_read_int` -/
def readVariable (environ : Environ) (name : String) (default : Int) : Except EnvironError Int :=
  match environ.lookup name with
  | none => .ok default
  | some raw =>
    match readInt raw.toList with
    | some value => .ok value
    | none => .error (.integer name raw)

/-- `ResidentEpochConfig.from_env` -/
def fromEnv (environ : Environ) : Except EnvironError ResidentEpochConfig := do
  let max_steps ← readVariable environ "VLLM_ASCEND_RESIDENT_EPOCH_STEPS" 8
  let logical_capacity ← readVariable environ "VLLM_ASCEND_RESIDENT_EPOCH_CAPACITY" 8
  let config := ResidentEpochConfig.make max_steps logical_capacity
  match config.validate with
  | .error e => .error (.config e)
  | .ok () => .ok config

/-! ## The sidecar's client -/

inductive SidecarError where
  | runtime (message : String)
  | other
deriving DecidableEq, Repr

/-- what removing the old socket, or making the trace's directory, raises -/
structure LaunchFaults where
  unlink : Option String
  mkdir : Bool

structure Command where
  argv : List String
  env : Environ
  socket_path : Path
  transfer_path : Path

section Client

variable (fs : FileSystem) (cwd : Path) (faults : LaunchFaults) (environ : Environ)

/-- `Path(raw).resolve()` -/
def resolved (raw : String) : Path := fs.resolve (if isAbsolute raw then components raw else cwd ++ components raw)

/-- `str(path).startswith("/dev/shm/")` -/
def inShm (path : Path) : Bool := path.str.toList.take 9 = "/dev/shm/".toList

/-- `os.getenv(name)`; an empty value counts as none where it is used -/
def getenv (name : String) : Option String := (environ.lookup name).filter fun raw => raw ≠ ""

/-- `_required_path` -/
def requiredPath (name kind : String) (valid : Path → Bool) : Except SidecarError Path :=
  match getenv environ name with
  | none => .error (.runtime s!"{name} is required by the DataFlow sidecar")
  | some raw =>
    let path := resolved fs cwd raw
    if valid path then .ok path else .error (.runtime s!"{name} must name an existing {kind}: {path.str}")

/-- the directories of a list that is separated by colons -/
def directoryList (value : String) : List Path :=
  ((value.toList.splitOn ':').map String.ofList).map (resolved fs cwd)

/-- `ASCEND_CUSTOM_OPP_PATH` of the child -/
def childOpp (child_env : Environ) : Except SidecarError Environ :=
  match getenv environ "VLLM_ASCEND_RESIDENT_EPOCH_CHILD_ASCEND_CUSTOM_OPP_PATH" with
  | none => .ok child_env
  | some value => do
    let opp_roots := directoryList fs cwd value
    refuse (opp_roots.all fs.is_dir = false) (.runtime "resident sidecar custom OPP path is invalid")
    .ok (setItem child_env ("ASCEND_CUSTOM_OPP_PATH", ":".intercalate (opp_roots.map Path.str)))

/-- `LD_LIBRARY_PATH` of the child -/
def childLibraries (child_env : Environ) : Except SidecarError Environ :=
  match getenv environ "VLLM_ASCEND_RESIDENT_EPOCH_CHILD_LIBRARY_PATH" with
  | none => .ok child_env
  | some value => do
    let library_roots := directoryList fs cwd value
    refuse (library_roots.all fs.is_dir = false) (.runtime "resident sidecar library path is invalid")
    let inherited := (getenv child_env "LD_LIBRARY_PATH").toList
    .ok (setItem child_env ("LD_LIBRARY_PATH", ":".intercalate (library_roots.map Path.str ++ inherited)))

/-- the trace of the child's copies -/
def childTrace (child_env : Environ) : Except SidecarError Environ := do
  let library := getenv environ "VLLM_ASCEND_RESIDENT_EPOCH_MEMCPY_TRACE_LIBRARY"
  let path := getenv environ "VLLM_ASCEND_RESIDENT_EPOCH_MEMCPY_TRACE_PATH"
  match library, path with
  | none, none => .ok child_env
  | some library, some path =>
    let trace_library := resolved fs cwd library
    let trace_path := resolved fs cwd path
    refuse (fs.is_file trace_library = false) (.runtime s!"memcpy trace library is missing: {trace_library.str}")
    refuse (inShm trace_library = false) (.runtime "memcpy trace library must be in /dev/shm")
    refuse (inShm trace_path = false) (.runtime "memcpy trace output must be in /dev/shm")
    refuse (fs.is_file trace_path ∨ fs.is_dir trace_path) (.runtime s!"memcpy trace output already exists: {trace_path.str}")
    refuse faults.mkdir .other
    let child_env := setItem child_env ("LD_PRELOAD", prepended child_env "LD_PRELOAD" trace_library.str)
    .ok (setItem child_env ("ASCEND_RT_MEMCPY_TRACE_PATH", trace_path.str))
  | _, _ => .error (.runtime "memcpy trace library and output path must be set together")

/-- `SidecarDataFlowEngine.__init__` up to the process it starts -/
def sidecarCommand : Except SidecarError Command := do
  let server ← requiredPath fs cwd environ "VLLM_ASCEND_RESIDENT_EPOCH_SERVER" "file" fs.is_file
  let air ← requiredPath fs cwd environ "VLLM_ASCEND_RESIDENT_EPOCH_AIR" "file" fs.is_file
  let graph_config ← requiredPath fs cwd environ "VLLM_ASCEND_RESIDENT_EPOCH_GRAPH_CONFIG" "file" fs.is_file
  let func_config ← requiredPath fs cwd environ "VLLM_ASCEND_RESIDENT_EPOCH_FUNC_CONFIG" "file" fs.is_file
  let tiling ← requiredPath fs cwd environ "VLLM_ASCEND_RESIDENT_EPOCH_TILING" "file" fs.is_file
  let weights ← requiredPath fs cwd environ "VLLM_ASCEND_RESIDENT_EPOCH_EXTERNAL_WEIGHTS" "directory" fs.is_dir
  match getenv environ "VLLM_ASCEND_RESIDENT_EPOCH_SOCKET" with
  | none => .error (.runtime "VLLM_ASCEND_RESIDENT_EPOCH_SOCKET is required")
  | some socket_raw =>
    let socket_path := resolved fs cwd socket_raw
    refuse (inShm socket_path = false) (.runtime "resident epoch socket must be under /dev/shm")
    refuse (inShm weights = false) (.runtime "resident epoch external weights must be in /dev/shm")
    let transfer_path := socket_path.dropLast ++ [socket_path.getLastD "" ++ ".kv-transfer"]
    refuse (inShm transfer_path = false) (.runtime "resident KV transfer file must be under /dev/shm")
    let child_env ← childOpp fs cwd environ environ
    let child_env ← childLibraries fs cwd environ child_env
    let child_env ← childTrace fs cwd faults environ child_env
    match faults.unlink with
    | some raised => .error (.runtime s!"cannot reset sidecar socket: {raised}")
    | none =>
      .ok
        { argv := [server.str, socket_path.str, air.str, graph_config.str, func_config.str, weights.str, tiling.str]
          env := child_env
          socket_path
          transfer_path }

end Client

/-- the seconds the client waits for the socket -/
def startupTimeout (environ : Environ) : Option Int :=
  readInt ((environ.lookup "VLLM_ASCEND_RESIDENT_EPOCH_STARTUP_TIMEOUT").getD "3600").toList

/-! ## The server -/

structure ServerArguments where
  socket_path : String
  transfer_path : String
  air_path : String
  graph_config : String
  func_config : String
  external_weight_dir : String
  tiling_path : String
deriving DecidableEq, Repr

/-- `main` up to `resident_epoch_create`, or its exit status -/
def serverArguments : List String → Except ℕ ServerArguments
  | [_, socket_path, air_path, graph_config, func_config, external_weight_dir, tiling_path] =>
    .ok { socket_path, transfer_path := socket_path ++ ".kv-transfer", air_path, graph_config, func_config,
          external_weight_dir, tiling_path }
  | _ => .error 64

/-- the bytes of `sockaddr_un::sun_path` -/
def SUN_PATH : ℕ := 108

/-- `CreateListener`, where the calls of the system succeed -/
def createListener (path : String) : Bool := path.toList.take 9 = "/dev/shm/".toList ∧ path.utf8ByteSize < SUN_PATH

/-- `resident_epoch_create` takes the directory of the weights -/
def ServerArguments.accepted (args : ServerArguments) : Bool :=
  args.external_weight_dir.toList.take 9 = "/dev/shm/".toList

/-! ## What is read back -/

section Paths

variable {path : Path}

theorem str_ne_empty (path : Path) : path.str ≠ "" := by
  intro h
  have hlist := str_toList path
  rw [h] at hlist
  cases hlist

theorem inShm_below {rest : Path} (hrest : rest ≠ []) : inShm (["dev", "shm"] ++ rest) = true := by
  unfold inShm
  rw [str_toList]
  cases rest with
  | nil => exact absurd rfl hrest
  | cons part rest =>
    refine decide_eq_true ?_
    rw [List.map_append, List.map_cons, List.map_cons, List.map_cons, List.map_nil]
    rfl

/-- the path of the transfer file, as the client and as the server write it -/
theorem str_suffix (parts : Path) (last suffix : String) :
    Path.str (parts ++ [last ++ suffix]) = Path.str (parts ++ [last]) ++ suffix := by
  unfold Path.str
  by_cases hparts : parts = []
  · rw [hparts]
    simp [String.append_assoc]
  · rw [String.intercalate_append_of_ne_nil hparts (by simp), String.intercalate_append_of_ne_nil hparts (by simp)]
    simp [String.append_assoc]

theorem readInt_intText (n : Int) : readInt (intText n).toList = some n := by
  unfold intText
  rw [String.toList_ofList, readInt_decimal]

end Paths

section Variables

variable {config : LoadedConfig} {run_directory : Path} {base environ : Environ} {name value : String}

theorem runVariables_nodup (config : LoadedConfig) (run_directory : Path) :
    ((runVariables config run_directory).map Prod.fst).Nodup := by
  unfold runVariables
  simp

theorem environment_lookup (hopp : name ≠ "ASCEND_CUSTOM_OPP_PATH") (hlibrary : name ≠ "LD_LIBRARY_PATH") :
    (environment config run_directory base).lookup name =
      ((runVariables config run_directory).lookup name).or (base.lookup name) := by
  have hupdate : (update base (runVariables config run_directory)).lookup name =
      ((runVariables config run_directory).lookup name).or (base.lookup name) := by
    unfold update
    rw [lookup_foldl_setItem, lookup_perm (List.reverse_perm _) (by
      rw [List.map_reverse, List.nodup_reverse]
      exact runVariables_nodup config run_directory)]
  unfold environment
  dsimp only
  split_ifs
  · exact hupdate
  · rw [lookup_setItem, if_neg hlibrary, lookup_setItem, if_neg hopp, hupdate]

/-- the variables the plugin reads -/
def pluginVariables : List String := [
  "VLLM_ASCEND_RESIDENT_EPOCH_SERVER",
  "VLLM_ASCEND_RESIDENT_EPOCH_AIR",
  "VLLM_ASCEND_RESIDENT_EPOCH_GRAPH_CONFIG",
  "VLLM_ASCEND_RESIDENT_EPOCH_FUNC_CONFIG",
  "VLLM_ASCEND_RESIDENT_EPOCH_TILING",
  "VLLM_ASCEND_RESIDENT_EPOCH_EXTERNAL_WEIGHTS",
  "VLLM_ASCEND_RESIDENT_EPOCH_SOCKET",
  "VLLM_ASCEND_RESIDENT_EPOCH_STARTUP_TIMEOUT",
  "VLLM_ASCEND_RESIDENT_EPOCH_STEPS",
  "VLLM_ASCEND_RESIDENT_EPOCH_CAPACITY",
  "VLLM_ASCEND_RESIDENT_EPOCH_CHILD_ASCEND_CUSTOM_OPP_PATH",
  "VLLM_ASCEND_RESIDENT_EPOCH_CHILD_LIBRARY_PATH",
  "VLLM_ASCEND_RESIDENT_EPOCH_MEMCPY_TRACE_LIBRARY",
  "VLLM_ASCEND_RESIDENT_EPOCH_MEMCPY_TRACE_PATH"]

/-- set_env.sh has left the plugin's variables as they were -/
def Sourced (environ child : Environ) : Prop := ∀ name ∈ pluginVariables, child.lookup name = environ.lookup name

variable {child : Environ}

theorem sourced_lookup (h : Sourced (environment config run_directory base) child) (hname : name ∈ pluginVariables) :
    child.lookup name = ((runVariables config run_directory).lookup name).or (base.lookup name) := by
  rw [h name hname]
  refine environment_lookup ?_ ?_
  · rintro rfl
    revert hname
    simp [pluginVariables]
  · rintro rfl
    revert hname
    simp [pluginVariables]

theorem sourced_variable (h : Sourced (environment config run_directory base) child) (hname : name ∈ pluginVariables)
    (hvalue : (name, value) ∈ runVariables config run_directory) : child.lookup name = some value := by
  rw [sourced_lookup h hname, (lookup_iff_mem (runVariables_nodup config run_directory)).2 hvalue, Option.some_or]

/-- a variable that the run does not set is the base's -/
theorem sourced_base (h : Sourced (environment config run_directory base) child) (hname : name ∈ pluginVariables)
    (hunset : name ∉ (runVariables config run_directory).map Prod.fst) : child.lookup name = base.lookup name := by
  have hnone : (runVariables config run_directory).lookup name = none := by
    rw [List.lookup_eq_none_iff]
    intro item hitem
    exact bne_iff_ne.2 fun heq => hunset (heq ▸ List.mem_map_of_mem hitem)
  rw [sourced_lookup h hname, hnone, Option.none_or]

theorem readVariable_returns {n : Int} (h : environ.lookup name = some (intText n)) (default : Int) :
    readVariable environ name default = .ok n := by
  unfold readVariable
  rw [h]
  dsimp only
  rw [readInt_intText]

/-- **The plugin's configuration is the one that was loaded.** -/
theorem environment_config {resolve : Path → Path} (hvalid : config.Valid resolve)
    (h : Sourced (environment config run_directory base) child) :
    fromEnv child = .ok (.make config.runtime.max_steps config.runtime.logical_capacity) := by
  have hsteps : readVariable child "VLLM_ASCEND_RESIDENT_EPOCH_STEPS" 8 = .ok config.runtime.max_steps :=
    readVariable_returns (sourced_variable h (by simp [pluginVariables]) (by simp [runVariables])) 8
  have hcapacity : readVariable child "VLLM_ASCEND_RESIDENT_EPOCH_CAPACITY" 8 = .ok config.runtime.logical_capacity :=
    readVariable_returns (sourced_variable h (by simp [pluginVariables]) (by simp [runVariables])) 8
  have haccepted : (ResidentEpochConfig.make config.runtime.max_steps config.runtime.logical_capacity).validate = .ok () :=
    (ResidentEpochConfig.validate_ok_iff _).2 ⟨hvalid.steps, hvalid.capacity, rfl⟩
  unfold fromEnv
  refine except_bind_ok.2 ⟨_, hsteps, except_bind_ok.2 ⟨_, hcapacity, ?_⟩⟩
  dsimp only
  rw [haccepted]

end Variables

/-! ## The launch -/

section Client

variable {fs : FileSystem} {cwd : Path} {faults : LaunchFaults} {environ : Environ} {path : Path}

theorem resolved_str (cwd : Path) (hproper : path.Proper) : resolved fs cwd path.str = fs.resolve path := by
  unfold resolved
  rw [str_absolute, if_pos rfl, components_str hproper]

theorem requiredPath_returns {name kind : String} {valid : Path → Bool} (hvariable : environ.lookup name = some path.str)
    (hproper : path.Proper) (hresolved : fs.resolve path = path) (hvalid : valid path = true) :
    requiredPath fs cwd environ name kind valid = .ok path := by
  have hget : getenv environ name = some path.str := by
    unfold getenv
    rw [hvariable, Option.filter_some, if_pos (decide_eq_true (str_ne_empty path))]
  unfold requiredPath
  rw [hget]
  dsimp only
  rw [resolved_str cwd hproper, hresolved, if_pos hvalid]

theorem inShm_ne_nil (h : inShm path = true) : path ≠ [] := by
  rintro rfl
  revert h
  unfold inShm
  rw [str_toList]
  decide

/-- **The server's arguments are the client's paths**, in the order the server takes them in. -/
theorem command_arguments {command : Command} (h : sidecarCommand fs cwd faults environ = .ok command) :
    ∃ args, serverArguments command.argv = .ok args ∧ args.accepted = true ∧
      args.socket_path = command.socket_path.str ∧ args.transfer_path = command.transfer_path.str := by
  unfold sidecarCommand at h
  simp only [except_bind_ok] at h
  obtain ⟨server, -, air, -, graph_config, -, func_config, -, tiling, -, weights, -, h⟩ := h
  split at h
  · cases h
  · rename_i socket_raw _
    simp only [except_bind_ok, refuse_ok, exists_const, Bool.not_eq_false] at h
    obtain ⟨hsocket, hweights, -, child_env, -, child_env', -, child_env'', -, h⟩ := h
    split at h
    · cases h
    · cases h
      refine ⟨_, rfl, hweights, rfl, ?_⟩
      generalize resolved fs cwd socket_raw = socket_path at hsocket
      obtain ⟨parts, last, rfl⟩ : ∃ parts last, socket_path = parts ++ [last] :=
        ⟨_, _, (List.dropLast_append_getLast (inShm_ne_nil hsocket)).symm⟩
      show Path.str (parts ++ [last]) ++ ".kv-transfer" = _
      rw [List.dropLast_concat, List.getLastD_concat]
      exact (str_suffix parts last ".kv-transfer").symm

/-- once the paths are there -/
theorem sidecarCommand_eq {server air graph_config func_config tiling weights socket_path : Path}
    (hserver : requiredPath fs cwd environ "VLLM_ASCEND_RESIDENT_EPOCH_SERVER" "file" fs.is_file = .ok server)
    (hair : requiredPath fs cwd environ "VLLM_ASCEND_RESIDENT_EPOCH_AIR" "file" fs.is_file = .ok air)
    (hgraph : requiredPath fs cwd environ "VLLM_ASCEND_RESIDENT_EPOCH_GRAPH_CONFIG" "file" fs.is_file = .ok graph_config)
    (hfunc : requiredPath fs cwd environ "VLLM_ASCEND_RESIDENT_EPOCH_FUNC_CONFIG" "file" fs.is_file = .ok func_config)
    (htiling : requiredPath fs cwd environ "VLLM_ASCEND_RESIDENT_EPOCH_TILING" "file" fs.is_file = .ok tiling)
    (hweights : requiredPath fs cwd environ "VLLM_ASCEND_RESIDENT_EPOCH_EXTERNAL_WEIGHTS" "directory" fs.is_dir = .ok weights)
    (hsocket : getenv environ "VLLM_ASCEND_RESIDENT_EPOCH_SOCKET" = some socket_path.str)
    (hproper : socket_path.Proper) (hresolved : fs.resolve socket_path = socket_path) (hshm : inShm socket_path = true)
    (hweights_shm : inShm weights = true)
    (htransfer : inShm (socket_path.dropLast ++ [socket_path.getLastD "" ++ ".kv-transfer"]) = true) :
    sidecarCommand fs cwd faults environ = (do
      let child_env ← childOpp fs cwd environ environ
      let child_env ← childLibraries fs cwd environ child_env
      let child_env ← childTrace fs cwd faults environ child_env
      match faults.unlink with
      | some raised => .error (.runtime s!"cannot reset sidecar socket: {raised}")
      | none =>
        .ok
          { argv := [server.str, socket_path.str, air.str, graph_config.str, func_config.str, weights.str, tiling.str]
            env := child_env
            socket_path
            transfer_path := socket_path.dropLast ++ [socket_path.getLastD "" ++ ".kv-transfer"] }) := by
  have hread : resolved fs cwd socket_path.str = socket_path := (resolved_str cwd hproper).trans hresolved
  unfold sidecarCommand
  rw [hserver, hair, hgraph, hfunc, htiling, hweights, hsocket]
  dsimp only [bind, Except.bind]
  rw [hread, hshm, hweights_shm, htransfer]
  rfl

/-- without the variables for a child of its own, the client's environment is the server's -/
theorem child_unchanged (hopp : getenv environ "VLLM_ASCEND_RESIDENT_EPOCH_CHILD_ASCEND_CUSTOM_OPP_PATH" = none)
    (hlibraries : getenv environ "VLLM_ASCEND_RESIDENT_EPOCH_CHILD_LIBRARY_PATH" = none)
    (hlibrary : getenv environ "VLLM_ASCEND_RESIDENT_EPOCH_MEMCPY_TRACE_LIBRARY" = none)
    (hpath : getenv environ "VLLM_ASCEND_RESIDENT_EPOCH_MEMCPY_TRACE_PATH" = none) (child_env : Environ) :
    childOpp fs cwd environ child_env = .ok child_env ∧ childLibraries fs cwd environ child_env = .ok child_env ∧
      childTrace fs cwd faults environ child_env = .ok child_env := by
  unfold childOpp childLibraries childTrace
  rw [hopp, hlibraries, hlibrary, hpath]
  exact ⟨rfl, rfl, rfl⟩

end Client

section Validated

variable {sha256 : Bytes → String} {loads : Bytes → Option Json} {fs : FileSystem} {path_of : String → Path} {deep : Bool}

theorem validatePaths_files {config : CruiseRuntimeConfig}
    (h : validatePaths sha256 loads fs config path_of deep = .ok ()) :
    (∀ item ∈ requiredFiles config, fs.is_file item.2 = true) ∧ ["dev", "shm"] <+: fs.resolve config.scratch_root := by
  unfold validatePaths at h
  simp only [except_bind_ok] at h
  obtain ⟨_, hfiles, _, -, _, -, _, hdevice, -⟩ := h
  refine ⟨fun item hitem => ?_, ?_⟩
  · have hitem := (forM_ok_iff.1 hfiles) item hitem
    unfold checkRequired at hitem
    dsimp only at hitem
    split_ifs at hitem with hfile
    exact hfile
  · unfold validateDevicePaths at hdevice
    dsimp only at hdevice
    split_ifs at hdevice with hbelow
    exact hbelow

/-- what `Path.resolve` returns is resolved, and written as it is read -/
structure Resolves (resolve : Path → Path) : Prop where
  resolved : ∀ path, resolve (resolve path) = resolve path
  proper : ∀ path, (resolve path).Proper

/-- the directory of a run, as `mkdtemp` and `environment` have made it -/
structure RunDirectory (fs : FileSystem) (scratch_root run_directory : Path) : Prop where
  below : ∃ name, run_directory = scratch_root ++ [name]
  weights : fs.is_dir (run_directory ++ ["graph-external-weights"]) = true
  weights_resolved : fs.resolve (run_directory ++ ["graph-external-weights"]) = run_directory ++ ["graph-external-weights"]
  socket_resolved : fs.resolve (run_directory ++ ["resident-epoch.sock"]) = run_directory ++ ["resident-epoch.sock"]

/-- the server's arguments that a configuration stands for -/
def configuredArguments (config : LoadedConfig) (run_directory : Path) : ServerArguments where
  socket_path := (run_directory ++ ["resident-epoch.sock"]).str
  transfer_path := (run_directory ++ ["resident-epoch.sock.kv-transfer"]).str
  air_path := config.assets.air.str
  graph_config := config.assets.graph_config.str
  func_config := config.assets.function_config.str
  external_weight_dir := (run_directory ++ ["graph-external-weights"]).str
  tiling_path := config.assets.tiling.str

/-- what the client makes of its optional variables -/
def optionalVariables : List String := [
  "VLLM_ASCEND_RESIDENT_EPOCH_CHILD_ASCEND_CUSTOM_OPP_PATH",
  "VLLM_ASCEND_RESIDENT_EPOCH_CHILD_LIBRARY_PATH",
  "VLLM_ASCEND_RESIDENT_EPOCH_MEMCPY_TRACE_LIBRARY",
  "VLLM_ASCEND_RESIDENT_EPOCH_MEMCPY_TRACE_PATH"]

variable {home : String → Option Path} {source : Path} {config : LoadedConfig} {run_directory : Path} {after : FileSystem}
  {base child : Environ} {cwd : Path} {faults : LaunchFaults}

/-- the run does not set them -/
theorem optional_unset (config : LoadedConfig) (run_directory : Path) {name : String} (h : name ∈ optionalVariables) :
    name ∈ pluginVariables ∧ name ∉ (runVariables config run_directory).map Prod.fst := by
  simp only [optionalVariables, List.mem_cons, List.not_mem_nil, or_false] at h
  rcases h with rfl | rfl | rfl | rfl <;> simp [pluginVariables, runVariables]

/-- what the client asks of the file system holds of the configuration and its run directory -/
structure Prepared (fs : FileSystem) (config : LoadedConfig) (run_directory : Path) : Prop where
  files : ∀ item ∈ requiredFiles config.toCruiseRuntimeConfig, fs.is_file item.2 = true
  resolved : ∀ asset ∈ config.assets.paths, asset.Proper ∧ fs.resolve asset = asset
  run : RunDirectory fs config.scratch_root run_directory
  proper : (run_directory ++ ["graph-external-weights"]).Proper ∧ (run_directory ++ ["resident-epoch.sock"]).Proper
  shared : ∀ name, inShm (run_directory ++ [name]) = true

theorem prepared (hresolves : Resolves fs.resolve) (hload : loadRuntimeConfig fs.resolve home fs source = .ok config)
    (hpaths : validatePaths sha256 loads fs config.toCruiseRuntimeConfig path_of deep = .ok ())
    (hafter : after.resolve = fs.resolve) (hkept : ∀ path, fs.is_file path = true → after.is_file path = true)
    (hrun : RunDirectory after config.scratch_root run_directory) : Prepared after config run_directory := by
  have hvalid := load_ok hload
  obtain ⟨hfiles, hbelow⟩ := validatePaths_files hpaths
  have hproper {path : Path} (h : after.resolve path = path) : path.Proper := by
    rw [← h, hafter]
    exact hresolves.proper path
  refine ⟨fun item hitem => hkept _ (hfiles item hitem), ?_, hrun,
    ⟨hproper hrun.weights_resolved, hproper hrun.socket_resolved⟩, ?_⟩
  · intro asset hasset
    obtain ⟨path, rfl⟩ := hvalid.assets asset hasset
    exact ⟨hresolves.proper path, by rw [hafter, hresolves.resolved]⟩
  · -- the scratch root is resolved, and below `/dev/shm`
    obtain ⟨root, hroot⟩ := hvalid.scratch_root
    obtain ⟨name, rfl⟩ := hrun.below
    rw [hroot, hresolves.resolved, ← hroot] at hbelow
    obtain ⟨rest, hrest⟩ := hbelow
    intro last
    rw [← hrest, List.append_assoc, List.append_assoc]
    exact inShm_below (by simp)

/-- the files the client asks for, by variable -/
def clientFiles (config : LoadedConfig) : List (String × Path) := [
  ("VLLM_ASCEND_RESIDENT_EPOCH_SERVER", config.assets.server),
  ("VLLM_ASCEND_RESIDENT_EPOCH_AIR", config.assets.air),
  ("VLLM_ASCEND_RESIDENT_EPOCH_GRAPH_CONFIG", config.assets.graph_config),
  ("VLLM_ASCEND_RESIDENT_EPOCH_FUNC_CONFIG", config.assets.function_config),
  ("VLLM_ASCEND_RESIDENT_EPOCH_TILING", config.assets.tiling)]

/-- they are among the variables of the run, and among the files that were checked -/
theorem clientFiles_known (run_directory : Path) {item : String × Path} (h : item ∈ clientFiles config) :
    item.1 ∈ pluginVariables ∧ (item.1, item.2.str) ∈ runVariables config run_directory ∧
      item.2 ∈ config.assets.paths ∧ item.2 ∈ (requiredFiles config.toCruiseRuntimeConfig).map Prod.snd := by
  simp only [clientFiles, List.mem_cons, List.not_mem_nil, or_false] at h
  rcases h with rfl | rfl | rfl | rfl | rfl <;>
    simp [pluginVariables, runVariables, RuntimeAssets.paths, requiredFiles]

theorem clientFile_required {item : String × Path} (hprepared : Prepared after config run_directory)
    (hchild : Sourced (environment config run_directory base) child) (h : item ∈ clientFiles config) :
    requiredPath after cwd child item.1 "file" after.is_file = .ok item.2 := by
  obtain ⟨hname, hvariable, hasset, hrequired⟩ := clientFiles_known run_directory h
  obtain ⟨hproper, hresolved⟩ := hprepared.resolved item.2 hasset
  obtain ⟨entry, hentry, hpath⟩ := List.mem_map.1 hrequired
  exact requiredPath_returns (sourced_variable hchild hname hvariable) hproper hresolved
    (hpath ▸ hprepared.files entry hentry)

theorem sidecarCommand_prepared (hprepared : Prepared after config run_directory)
    (hchild : Sourced (environment config run_directory base) child) :
    sidecarCommand after cwd faults child = (do
      let child_env ← childOpp after cwd child child
      let child_env ← childLibraries after cwd child child_env
      let child_env ← childTrace after cwd faults child child_env
      match faults.unlink with
      | some raised => .error (.runtime s!"cannot reset sidecar socket: {raised}")
      | none =>
        .ok
          { argv := [config.assets.server.str, (run_directory ++ ["resident-epoch.sock"]).str, config.assets.air.str,
              config.assets.graph_config.str, config.assets.function_config.str,
              (run_directory ++ ["graph-external-weights"]).str, config.assets.tiling.str]
            env := child_env
            socket_path := run_directory ++ ["resident-epoch.sock"]
            transfer_path := run_directory ++ ["resident-epoch.sock.kv-transfer"] }) := by
  have htransfer : (run_directory ++ ["resident-epoch.sock"]).dropLast ++
      [(run_directory ++ ["resident-epoch.sock"]).getLastD "" ++ ".kv-transfer"] =
      run_directory ++ ["resident-epoch.sock.kv-transfer"] := by
    rw [List.dropLast_concat, List.getLastD_concat]
    rfl
  have hvariable : child.lookup "VLLM_ASCEND_RESIDENT_EPOCH_SOCKET" = some (run_directory ++ ["resident-epoch.sock"]).str :=
    sourced_variable hchild (by simp [pluginVariables]) (by simp [runVariables])
  have hsocket : getenv child "VLLM_ASCEND_RESIDENT_EPOCH_SOCKET" = some (run_directory ++ ["resident-epoch.sock"]).str := by
    unfold getenv
    rw [hvariable, Option.filter_some, if_pos (decide_eq_true (str_ne_empty _))]
  have hweights : requiredPath after cwd child "VLLM_ASCEND_RESIDENT_EPOCH_EXTERNAL_WEIGHTS" "directory" after.is_dir =
      .ok (run_directory ++ ["graph-external-weights"]) :=
    requiredPath_returns (sourced_variable hchild (by simp [pluginVariables]) (by simp [runVariables]))
      hprepared.proper.1 hprepared.run.weights_resolved hprepared.run.weights
  have hfile {item : String × Path} : item ∈ clientFiles config →
      requiredPath after cwd child item.1 "file" after.is_file = .ok item.2 := clientFile_required hprepared hchild
  rw [← htransfer]
  exact sidecarCommand_eq (hfile (.head _)) (hfile (.tail _ (.head _))) (hfile (.tail _ (.tail _ (.head _))))
    (hfile (.tail _ (.tail _ (.tail _ (.head _))))) (hfile (.tail _ (.tail _ (.tail _ (.tail _ (.head _)))))) hweights hsocket
    hprepared.proper.2 hprepared.run.socket_resolved (hprepared.shared _) (hprepared.shared _) (htransfer ▸ hprepared.shared _)

/-- a command that is made -/
theorem command_configured {command : Command} (hprepared : Prepared after config run_directory)
    (hchild : Sourced (environment config run_directory base) child)
    (h : sidecarCommand after cwd faults child = .ok command) :
    command.argv.head? = some config.assets.server.str ∧
      serverArguments command.argv = .ok (configuredArguments config run_directory) ∧
      command.socket_path = run_directory ++ ["resident-epoch.sock"] ∧
      command.transfer_path = run_directory ++ ["resident-epoch.sock.kv-transfer"] := by
  have htransfer : (run_directory ++ ["resident-epoch.sock"]).str ++ ".kv-transfer" =
      (run_directory ++ ["resident-epoch.sock.kv-transfer"]).str :=
    (str_suffix run_directory "resident-epoch.sock" ".kv-transfer").symm
  rw [sidecarCommand_prepared hprepared hchild] at h
  simp only [except_bind_ok] at h
  obtain ⟨_, -, _, -, _, -, h⟩ := h
  split at h
  · cases h
  · cases h
    refine ⟨rfl, ?_, rfl, rfl⟩
    unfold serverArguments configuredArguments
    dsimp only
    rw [htransfer]

/-- nothing else sets an optional variable -/
theorem optional_none (hchild : Sourced (environment config run_directory base) child)
    (hunset : ∀ name ∈ optionalVariables, base.lookup name = none) {name : String} (hname : name ∈ optionalVariables) :
    getenv child name = none := by
  obtain ⟨hplugin, hrun⟩ := optional_unset config run_directory hname
  unfold getenv
  rw [sourced_base hchild hplugin hrun, hunset name hname, Option.filter_none]

theorem command_made (hprepared : Prepared after config run_directory)
    (hchild : Sourced (environment config run_directory base) child)
    (hunset : ∀ name ∈ optionalVariables, base.lookup name = none) (hunlink : faults.unlink = none) :
    ∃ command, sidecarCommand after cwd faults child = .ok command := by
  have hnone {name : String} (hname : name ∈ optionalVariables) : getenv child name = none :=
    optional_none hchild hunset hname
  obtain ⟨hopp, hlibraries, htrace⟩ : childOpp after cwd child child = .ok child ∧
      childLibraries after cwd child child = .ok child ∧ childTrace after cwd faults child child = .ok child :=
    child_unchanged (hnone (.head _)) (hnone (.tail _ (.head _))) (hnone (.tail _ (.tail _ (.head _))))
      (hnone (.tail _ (.tail _ (.tail _ (.head _))))) child
  rw [sidecarCommand_prepared hprepared hchild, hopp]
  dsimp only [bind, Except.bind]
  rw [hlibraries]
  dsimp only
  rw [htrace, hunlink]
  exact ⟨_, rfl⟩

theorem startupTimeout_config (hchild : Sourced (environment config run_directory base) child) :
    startupTimeout child = some config.runtime.startup_timeout_seconds := by
  have htimeout : child.lookup "VLLM_ASCEND_RESIDENT_EPOCH_STARTUP_TIMEOUT" =
      some (intText config.runtime.startup_timeout_seconds) :=
    sourced_variable hchild (by simp [pluginVariables]) (by simp [runVariables])
  unfold startupTimeout
  rw [htimeout, Option.getD_some, readInt_intText]

theorem listens_iff (hprepared : Prepared after config run_directory) :
    createListener (configuredArguments config run_directory).socket_path = true ↔
      (configuredArguments config run_directory).socket_path.utf8ByteSize < SUN_PATH := by
  have hshared : (run_directory ++ ["resident-epoch.sock"]).str.toList.take 9 = "/dev/shm/".toList :=
    of_decide_eq_true (hprepared.shared "resident-epoch.sock")
  unfold createListener
  rw [decide_eq_true_iff]
  exact and_iff_right hshared

/-- **A validated configuration reaches the server**, through any base environment; whether the server can listen is a
matter of the socket's path alone, which nothing before it has measured. -/
theorem launch_arguments (hresolves : Resolves fs.resolve) (hload : loadRuntimeConfig fs.resolve home fs source = .ok config)
    (hpaths : validatePaths sha256 loads fs config.toCruiseRuntimeConfig path_of deep = .ok ())
    (hafter : after.resolve = fs.resolve) (hkept : ∀ path, fs.is_file path = true → after.is_file path = true)
    (hrun : RunDirectory after config.scratch_root run_directory)
    (hchild : Sourced (environment config run_directory base) child) :
    fromEnv child = .ok (.make config.runtime.max_steps config.runtime.logical_capacity) ∧
      startupTimeout child = some config.runtime.startup_timeout_seconds ∧
      (configuredArguments config run_directory).accepted = true ∧
      (createListener (configuredArguments config run_directory).socket_path = true ↔
        (configuredArguments config run_directory).socket_path.utf8ByteSize < SUN_PATH) ∧
      (∀ command, sidecarCommand after cwd faults child = .ok command →
        command.argv.head? = some config.assets.server.str ∧
          serverArguments command.argv = .ok (configuredArguments config run_directory) ∧
          command.socket_path.str = (configuredArguments config run_directory).socket_path ∧
          command.transfer_path.str = (configuredArguments config run_directory).transfer_path ∧
          inShm command.socket_path = true ∧ inShm command.transfer_path = true) ∧
      ((∀ name ∈ optionalVariables, base.lookup name = none) → faults.unlink = none →
        ∃ command, sidecarCommand after cwd faults child = .ok command) := by
  have hprepared := prepared hresolves hload hpaths hafter hkept hrun
  refine ⟨environment_config (load_ok hload) hchild, startupTimeout_config hchild, hprepared.shared _,
    listens_iff hprepared, ?_, command_made hprepared hchild⟩
  intro command h
  obtain ⟨hserver, harguments, hsocket, htransfer⟩ := command_configured hprepared hchild h
  rw [hsocket, htransfer]
  exact ⟨hserver, harguments, rfl, rfl, hprepared.shared _, hprepared.shared _⟩

end Validated

/-! ### One-letter paths -/

def letterRun : Path := ["dev", "shm", "s", "run-a"]

/-- as many names as there are weights -/
def letterNames : List String := (List.range 342).map fun i => String.ofList (List.replicate i 'w')

theorem letterNames_nodup : letterNames.Nodup := by
  refine List.nodup_range.map fun i j h => ?_
  have hlength := congrArg List.length (String.ofList_injective h)
  rwa [List.length_replicate, List.length_replicate] at hlength

def letterNamesOf (path : Path) : List String := if path = ["w"] then letterNames else []

theorem letterNamesOf_nodup (path : Path) : (letterNamesOf path).Nodup := by
  unfold letterNamesOf
  split_ifs
  · exact letterNames_nodup
  · exact List.nodup_nil

/-- the first of the weights has all bytes but one of each other -/
def letterFile : Path → Option Bytes
  | ["cruise.json"] => some (encodeText (letterValue.text none 0))
  | ["f"] => some functionText
  | ["w", name] => some (List.replicate (if name = "" then 15231237067 else 1) 0)
  | [name] => if name ∈ ["e", "b", "a", "g", "t", "m", "r", "c", "i"] then some (asciiBytes name) else none
  | _ => none

/-- a file system on which the configuration of one-letter paths is valid, and its run has been prepared -/
def letterFiles : FileSystem where
  file := letterFile
  executable := fun path => path = ["b"]
  is_dir := fun path => path ∈ [["w"], ["udf"], ["v", "op_impl"], ["v", "op_proto"], ["v", "op_api", "lib"],
    letterRun ++ ["graph-external-weights"]]
  names := letterNamesOf
  resolve := written
  names_nodup := letterNamesOf_nodup

/-- the digests the configuration names for the files of one letter -/
def letterDigest (bytes : Bytes) : String :=
  if bytes = asciiBytes "t" then letterConfig.integrity.tiling_sha256
  else if bytes = asciiBytes "m" then EXPECTED_MANIFEST_SHA256
  else if bytes = asciiBytes "c" then MODEL_CONFIG_SHA256
  else if bytes = asciiBytes "i" then MODEL_INDEX_SHA256
  else letterConfig.integrity.air_sha256

theorem letter_weights : validateExternalWeights letterDigest plainLoads letterFiles letterConfig.toCruiseRuntimeConfig false =
    .ok () := by
  have hnames : letterFiles.fileNames ["w"] = letterNames := by
    refine List.filter_eq_self.2 fun name _ => ?_
    rfl
  have hsize (name : String) : letterFiles.size ["w", name] = if name = "" then 15231237067 else 1 := by
    show (List.replicate _ _).length = _
    rw [List.length_replicate]
  have hsum : (letterNames.map fun name => letterFiles.size (["w"] ++ [name])).sum = EXPECTED_EXTERNAL_BYTES := by
    have hfirst (i : ℕ) : letterFiles.size ["w", String.ofList (List.replicate i 'w')] = if i = 0 then 15231237067 else 1 := by
      rw [hsize]
      cases i with
      | zero => rfl
      | succ i =>
        have hname : String.ofList (List.replicate (i + 1) 'w') ≠ "" := by
          intro h
          have hlist := congrArg String.toList h
          rw [String.toList_ofList] at hlist
          cases hlist
        rw [if_neg (Nat.succ_ne_zero i), if_neg hname]
    have hsizes : letterNames.map (fun name => letterFiles.size (["w"] ++ [name])) =
        (List.range 342).map fun i => if i = 0 then 15231237067 else 1 := by
      unfold letterNames
      rw [List.map_map]
      exact List.map_congr_left fun i _ => hfirst i
    rw [hsizes]
    decide +kernel
  have hlength : letterNames.length = EXPECTED_EXTERNAL_FILES := by
    unfold letterNames
    rw [List.length_map, List.length_range]
    rfl
  unfold validateExternalWeights
  have hweights : letterConfig.assets.external_weights = ["w"] := rfl
  rw [hweights, hnames]
  dsimp only
  rw [hsum, hlength]
  rfl

theorem letter_paths : validatePaths letterDigest plainLoads letterFiles letterConfig.toCruiseRuntimeConfig
    (fun _ => ["udf"]) false = .ok () := by
  unfold validatePaths
  refine except_bind_ok.2 ⟨(), by decide +kernel, except_bind_ok.2 ⟨(), by decide +kernel, except_bind_ok.2
    ⟨(), by decide +kernel, except_bind_ok.2 ⟨(), by decide +kernel, except_bind_ok.2 ⟨(), by decide +kernel, except_bind_ok.2
      ⟨(), by decide +kernel, except_bind_ok.2 ⟨(), by decide +kernel, letter_weights⟩⟩⟩⟩⟩⟩⟩

theorem letter_run : RunDirectory letterFiles letterConfig.scratch_root letterRun :=
  ⟨⟨"run-a", rfl⟩, by decide +kernel, by decide +kernel, by decide +kernel⟩

theorem written_resolves : Resolves written := by
  refine ⟨fun path => ?_, fun path part hpart => ?_⟩
  · unfold written
    rw [List.filter_filter]
    simp only [Bool.and_self]
  · exact of_decide_eq_true (List.mem_filter.1 hpart).2

theorem launch_arguments_letters :
    fromEnv (environment letterConfig letterRun []) = .ok (.make 8 8) ∧
      ∃ command, sidecarCommand letterFiles ["home"] ⟨none, false⟩ (environment letterConfig letterRun []) = .ok command ∧
        serverArguments command.argv = .ok (configuredArguments letterConfig letterRun) ∧
        inShm command.socket_path = true ∧ inShm command.transfer_path = true := by
  have hload : loadRuntimeConfig letterFiles.resolve (fun _ => none) letterFiles ["cruise.json"] = .ok letterConfig :=
    letter_loads rfl
  have hchild : Sourced (environment letterConfig letterRun []) (environment letterConfig letterRun []) := fun _ _ => rfl
  obtain ⟨hconfig, -, -, -, hcommand, hreturns⟩ := @launch_arguments letterDigest plainLoads letterFiles (fun _ => ["udf"]) false
    (fun _ => none) ["cruise.json"] letterConfig letterRun letterFiles [] _ ["home"] ⟨none, false⟩ written_resolves hload
    letter_paths rfl (fun _ h => h) letter_run hchild
  obtain ⟨command, h⟩ := hreturns (fun _ _ => rfl) rfl
  obtain ⟨-, harguments, -, -, hshared⟩ := hcommand command h
  exact ⟨hconfig, command, h, harguments, hshared⟩

end Cruise.Launch
