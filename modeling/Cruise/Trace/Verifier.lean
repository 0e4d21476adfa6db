/-
The independent verifier's recomputation of a transfer block (`verify_abi_comparison_result.py`).

MODEL. Files, SHA-256 and the indexes that a loop collects are as in the summarizer's model. The verifier has its own lists of
APIs, its own expected payloads and its own reading of a trace; with the summarizer it shares the form of a window, a JSON
file and a CSV file. A reported field that is missing is equal to no expected value. Left out: what the rest of the verifier
makes of the recomputed samples.
-/
import Cruise.Lib.JsonEquals
import Cruise.Trace.Summarizer

namespace Cruise.Trace.Verifier

open Cruise.Lib
open Summarizer (Window readJson)

/-- `_require` -/
def require (condition : Bool) (message : String) : Except Raised Unit :=
  if condition then .ok () else .error (.value message)

/-- what raises if there is no value -/
def required (value : Option α) : Except Raised α :=
  match value with
  | some a => .ok a
  | none => .error .other

@[simp] theorem require_ok {condition : Bool} {message : String} {u : Unit} :
    require condition message = .ok u ↔ condition = true := by
  unfold require
  split_ifs with h
  · exact iff_of_true rfl h
  · exact iff_of_false (fun heq => by cases heq) h

@[simp] theorem required_ok {value : Option α} {a : α} : required value = .ok a ↔ value = some a := by
  cases value with
  | none => exact iff_of_false (fun h => by cases h) fun h => by cases h
  | some b => exact ⟨fun h => by cases h; rfl, fun h => by cases h; rfl⟩

def EXPECTED_TENSOR_BYTES : Route → Direction → List Int
  | .old, .hostToDevice => [32, 32, 16, 29360128, 16, 16, 32, 29360128, 72, 44]
  | .old, .deviceToHost => [19464192, 256, 29360128, 29360128, 32, 32, 16, 16, 16, 112]
  | .new, .hostToDevice => [32, 32, 16, 16, 16, 32, 72, 44]
  | .new, .deviceToHost => [256, 112]

def FILTERED_TRACE_FIELDS : List String := ["block", "sample", "transport", "direction"] ++ TRACE_FIELDS

def RUNTIME_MEMCPY_APIS : List Api := [
  .rtMemcpy, .rtMemcpyEx, .rtMemcpyAsync, .rtMemcpyAsyncWithoutCheckKind, .rtMemcpyAsyncEx, .rtMemcpyAsyncWithCfg,
  .rtMemcpyAsyncWithCfgV2, .rtMemcpyHostTask, .rtMemcpyAsyncWithOffset, .rtMemcpy2d, .rtMemcpy2dAsync, .rtsMemcpy,
  .rtsMemcpyAsync, .rtsMemcpyBatch, .rtsMemcpyBatchAsync, .rtsMemcpyAsyncWithDesc]

def MBUF_DIAGNOSTIC_APIS : List Api := [
  .rtMbufAlloc, .rtMbufBuild, .rtMbufSetDataLen, .rtMbufGetBuffSize, .rtBuffGet, .rtBuffConfirm]

def DATAFLOW_API_DIRECTIONS : List (Api × Direction) := [
  (.feedDataFlowGraphTensor, .hostToDevice), (.fetchDataFlowGraphTensor, .deviceToHost)]

def TRACE_APIS : List Api := RUNTIME_MEMCPY_APIS ++ MBUF_DIAGNOSTIC_APIS ++ DATAFLOW_API_DIRECTIONS.map Prod.fst

/-! ## Classes of calls -/

/-- `_transport`; none of `TRACE_APIS` is unclassified -/
def transport (api : Api) : Transport :=
  if api ∈ DATAFLOW_API_DIRECTIONS.map Prod.fst then .dataflowTensor
  else if api ∈ RUNTIME_MEMCPY_APIS then .runtimeMemcpy
  else .mbufDiagnostic

/-- `_runtime_direction` -/
def runtimeDirection (api : Api) (kind : Int) : Option Direction :=
  if kind = 1 then some .hostToDevice
  else if kind = 2 then some .deviceToHost
  else if ¬['r', 't', 's'] <+: api.name.toList ∧ kind = 6 then some .hostToDevice
  else if ¬['r', 't', 's'] <+: api.name.toList ∧ kind = 7 then some .deviceToHost
  else none

/-- `_direction` -/
def direction (api : Api) (kind : Int) : String :=
  match DATAFLOW_API_DIRECTIONS.lookup api with
  | some d => d.name
  | none => if api ∈ RUNTIME_MEMCPY_APIS then ((runtimeDirection api kind).map Direction.name).getD "" else ""

/-! ## Reading -/

/-- a row; `line` is its number -/
def parseRow (line : ℕ) (row : List (List Char)) : Except Raised Call := do
  let member (field : String) : Option (List Char) := (TRACE_FIELDS.zip row).lookup field
  match (member "api").bind fun text => TRACE_APIS.find? fun api => api.name.toList = text with
  | none => .error (.value s!"invalid raw trace API at line {line}")
  | some api =>
    match TRACE_FIELDS.tail.mapM fun field => (member field).bind readInt with
    | some [pid, tid, start_ns, end_ns, bytes, dest_max, kind, status] =>
      require (start_ns > 0 ∧ end_ns ≥ start_ns) s!"invalid raw trace timestamp at line {line}"
      require (bytes ≥ 0 ∧ dest_max ≥ bytes) s!"invalid raw trace byte count at line {line}"
      .ok { api, pid, tid, start_ns, end_ns, bytes, dest_max, kind, status }
    | _ => .error (.value s!"invalid raw trace row at line {line}")

/-- `csv.DictReader`: what follows the header, if that is `fields`; the flag says that reading raises after these rows -/
def dictRows (fields : List String) (message : String) (content : Bytes) : Except Raised (List (List (List Char)) × Bool) := do
  let text ← required (decodeText content)
  match Csv.rows '\t' text with
  | ([], true) => .error .other
  | (rows, raises) =>
    require (rows.headD [] = fields.map String.toList) message
    .ok (rows.tail.filter (· ≠ []), raises)

/-- `_read_trace` -/
def readTrace (content : Bytes) : Except Raised (List Call) := do
  let (rows, raises) ← dictRows TRACE_FIELDS "unexpected raw trace header" content
  let calls ← (rows.zipIdx 2).mapM fun (row, line) => parseRow line row
  if raises then .error .other else .ok calls

/-- `_normalize_filtered_row` of a row that is read; what a short row lacks is `None` -/
def normalizeFilteredRow (row : List (List Char)) : List (List Char) :=
  FILTERED_TRACE_FIELDS.map fun field => ((FILTERED_TRACE_FIELDS.zip row).lookup field).getD "None".toList

/-- the rows of the filtered file -/
def readFiltered (label : Block) (content : Bytes) : Except Raised (List (List (List Char))) := do
  let (rows, raises) ← dictRows FILTERED_TRACE_FIELDS s!"unexpected filtered transfer trace header: {label.label}" content
  if raises then .error .other else .ok (rows.map normalizeFilteredRow)

/-- a file that the block names, with the hash that it reports -/
def openHashed (sha256 : Bytes → String) (files : Files) (transfer_block : Json) (path_key sha256_key missing mismatch : String) :
    Except Raised Bytes := do
  if transfer_block.items.isNone then .error .other
  match (transfer_block.get path_key).getD (.str "") with
  | .str path =>
    match files path with
    | none => .error (.value missing)
    | some content =>
      require ((transfer_block.get sha256_key).any fun reported => (Json.str (sha256 content)).equals reported) mismatch
      .ok content
  | _ => .error .other

/-! ## The samples -/

def isContained (window : Window) (call : Call) : Bool := call.start_ns ≥ window.start_ns ∧ call.end_ns ≤ window.end_ns

def overlaps (window : Window) (call : Call) : Bool := call.end_ns ≥ window.start_ns ∧ call.start_ns ≤ window.end_ns

/-- `_call_count` -/
def callCount (rows : List Call) (api : Api) : ℕ :=
  ((rows.filter (·.api = api)).map fun row => (row.pid, row.tid, row.start_ns, row.end_ns, row.status)).dedup.length

/-- the rows that `directional` counts for a direction -/
def directional (runtime : List Call) (d : Direction) : List Call :=
  runtime.filter fun row => runtimeDirection row.api row.kind = some d ∧ row.status = 0

def runtimeStatus (runtime : List Call) : String :=
  if runtime.countP (·.status ≠ 0) ≠ 0 then "invalid" else if runtime = [] then "observed_zero" else "observed"

/-- `recomputed` -/
def recomputed (sample_index : ℕ) (window : Window) (contained : List Call) : List (String × Json) :=
  let feed := contained.filter (·.api = .feedDataFlowGraphTensor)
  let fetch := contained.filter (·.api = .fetchDataFlowGraphTensor)
  let runtime := contained.filter (·.api ∈ RUNTIME_MEMCPY_APIS)
  let mbuf := contained.filter (·.api ∈ MBUF_DIAGNOSTIC_APIS)
  let feed_sizes := feed.map Call.bytes
  let fetch_sizes := fetch.map Call.bytes
  let bytes (d : Direction) : Int := ((directional runtime d).map Call.bytes).sum
  [("sample", .int sample_index), ("window_start_ns", .int window.start_ns), ("window_end_ns", .int window.end_ns),
    ("dataflow_status", .str "observed"), ("dataflow_feed_calls", .int 1), ("dataflow_fetch_calls", .int 1),
    ("dataflow_feed_tensor_count", .int feed.length), ("dataflow_fetch_tensor_count", .int fetch.length),
    ("dataflow_feed_tensor_bytes", .arr (feed_sizes.map .int)), ("dataflow_fetch_tensor_bytes", .arr (fetch_sizes.map .int)),
    ("dataflow_host_to_device_bytes", .int feed_sizes.sum), ("dataflow_device_to_host_bytes", .int fetch_sizes.sum),
    ("dataflow_total_bytes", .int (feed_sizes.sum + fetch_sizes.sum)), ("dataflow_failed_records", .int 0),
    ("runtime_memcpy_status", .str (runtimeStatus runtime)), ("runtime_memcpy_records", .int runtime.length),
    ("runtime_memcpy_failed_records", .int (runtime.countP (·.status ≠ 0))),
    ("runtime_memcpy_host_to_device_records", .int (directional runtime .hostToDevice).length),
    ("runtime_memcpy_device_to_host_records", .int (directional runtime .deviceToHost).length),
    ("runtime_memcpy_host_to_device_bytes", .int (bytes .hostToDevice)),
    ("runtime_memcpy_device_to_host_bytes", .int (bytes .deviceToHost)),
    ("runtime_memcpy_total_directional_bytes", .int (bytes .hostToDevice + bytes .deviceToHost)),
    ("mbuf_diagnostic_records", .int mbuf.length), ("mbuf_diagnostic_failed_records", .int (mbuf.countP (·.status ≠ 0)))]

/-- the reported field equals the expected value -/
def reports (reported : Json) (field : String) (expected : Json) : Bool := (reported.get field).any fun v => v.equals expected

/-- `transfer_block["samples"][sample_index]`, which has to be an object -/
def reportedSample (transfer_block : Json) (sample_index : ℕ) : Option Json :=
  match transfer_block.get "samples" with
  | some (.arr samples) => (samples[sample_index]?).filter fun reported => reported.items.isSome
  | _ => none

/-- the window of a raw sample, after the checks of what it contains -/
def recomputeSample (label : Block) (route : Route) (transfer_block : Json) (calls : List Call) (raw_sample : Json)
    (sample_index : ℕ) : Except Raised Window := do
  let window_start ← required ((raw_sample.get "epoch_wall_clock_start_ns").bind Json.toInt)
  let window_end ← required ((raw_sample.get "epoch_wall_clock_end_ns").bind Json.toInt)
  require (window_end > window_start) s!"invalid raw epoch window: {label.label}"
  let window : Window := ⟨window_start, window_end⟩
  let contained := calls.filter (isContained window)
  let feed := contained.filter (·.api = .feedDataFlowGraphTensor)
  let fetch := contained.filter (·.api = .fetchDataFlowGraphTensor)
  require (feed.map Call.bytes = EXPECTED_TENSOR_BYTES route .hostToDevice)
    s!"DataFlow Feed tensor payload mismatch: {label.label}/{sample_index}"
  require (fetch.map Call.bytes = EXPECTED_TENSOR_BYTES route .deviceToHost)
    s!"DataFlow Fetch tensor payload mismatch: {label.label}/{sample_index}"
  require (callCount contained .feedDataFlowGraphTensor = 1)
    s!"DataFlow Feed call count mismatch: {label.label}/{sample_index}"
  require (callCount contained .fetchDataFlowGraphTensor = 1)
    s!"DataFlow Fetch call count mismatch: {label.label}/{sample_index}"
  require ((feed ++ fetch).all (·.status = 0)) s!"failed DataFlow record: {label.label}/{sample_index}"
  let reported ← required (reportedSample transfer_block sample_index)
  (recomputed sample_index window contained).forM fun (field, expected) =>
    require (reports reported field expected) s!"recomputed {field} mismatch: {label.label}/{sample_index}"
  .ok window

/-! ## The block -/

/-- the calls at `measured_indexes` -/
def measuredCalls (windows : List Window) (calls : List Call) : List Call :=
  calls.filter fun call => windows.any fun window => isContained window call

/-- the calls at `boundary_record_indexes` -/
def boundaryRecords (windows : List Window) (calls : List Call) : List Call :=
  calls.filter fun call => windows.any fun window => overlaps window call ∧ ¬isContained window call

/-- `boundary_call_keys` -/
def boundaryCallKeys (windows : List Window) (calls : List Call) : List (Transport × Api × Int × Int × Int × Int) :=
  ((boundaryRecords windows calls).map fun call =>
    (transport call.api, call.api, call.pid, call.tid, call.start_ns, call.end_ns)).dedup

/-- `expected_filtered`, every value as its `str` -/
def expectedFiltered (label : Block) (windows : List Window) (calls : List Call) : List (List (List Char)) :=
  windows.zipIdx.flatMap fun (window, sample_index) => (calls.filter (isContained window)).map fun call =>
    [label.label.toList, decimal sample_index, (transport call.api).name.toList, (direction call.api call.kind).toList] ++
      call.fields

/-- `Counter(_transport(...))`, its items sorted -/
def byTransport (calls : List Call) : List (String × Int) :=
  (addAll [] (calls.map fun call => ((transport call.api).name, 1))).insertionSort fun a b => a.1 ≤ b.1

def counts (counter : List (String × Int)) : Json := .obj (counter.map fun item => (item.1, .int item.2))

def outsideByTransport (calls measured : List Call) : List (String × Int) :=
  (byTransport calls).map fun (name, n) => (name, n - ((byTransport measured).lookup name).getD 0)

/-- the status of a set of statuses -/
def blockRuntimeStatus (statuses : List String) : String :=
  if "invalid" ∈ statuses then "invalid"
  else if statuses ≠ [] ∧ statuses.all (· = "observed_zero") then "observed_zero"
  else "observed"

/-- the runtime statuses of the recomputed samples -/
def runtimeStatuses (windows : List Window) (calls : List Call) : List String :=
  windows.map fun window => runtimeStatus ((calls.filter (isContained window)).filter (·.api ∈ RUNTIME_MEMCPY_APIS))

/-- the checks of the counts, in their order -/
def checkCounts (label : Block) (transfer_block : Json) (windows : List Window) (calls : List Call) : Except Raised Unit := do
  let measured := measuredCalls windows calls
  require (reports transfer_block "raw_record_count" (.int calls.length)) s!"raw count: {label.label}"
  require (reports transfer_block "raw_records_by_transport" (counts (byTransport calls)))
    s!"raw transport counts: {label.label}"
  require (reports transfer_block "measured_record_count" (.int measured.length)) s!"measured count: {label.label}"
  require (reports transfer_block "measured_records_by_transport" (counts (byTransport measured)))
    s!"measured transport counts: {label.label}"
  require (reports transfer_block "outside_window_records_by_transport" (counts (outsideByTransport calls measured)))
    s!"outside-window transport counts: {label.label}"
  require (reports transfer_block "failed_measured_records" (.int (measured.countP (·.status ≠ 0))))
    s!"failed measured records: {label.label}"
  require (reports transfer_block "runtime_memcpy_status" (.str (blockRuntimeStatus (runtimeStatuses windows calls))))
    s!"runtime memcpy block status mismatch: {label.label}"
  require (reports transfer_block "status" (.str "observed")) s!"transfer block failed: {label.label}"

/-- the values of a loop over a JSON value -/
def elements : Json → Option (List Json)
  | .arr values => some values
  | .obj items => some (items.map fun item => .str item.1)
  | .str s => some (s.toList.map fun c => .str (String.singleton c))
  | _ => none

/-- `_recompute_transfer_block`, for a block of `BLOCK_LABELS` and its route -/
def recomputeTransferBlock (sha256 : Bytes → String) (label : Block) (route : Route) (transfer_block raw_block : Json)
    (files : Files) : Except Raised (List Json) := do
  let trace ← openHashed sha256 files transfer_block "trace_path" "trace_sha256"
    s!"missing raw transfer trace: {label.label}" s!"raw transfer trace SHA256 mismatch: {label.label}"
  let benchmark ← openHashed sha256 files transfer_block "benchmark_result_path" "benchmark_result_sha256"
    s!"missing benchmark result: {label.label}" s!"benchmark result SHA256 mismatch: {label.label}"
  let result ← required (readJson (some benchmark))
  require (result.equals raw_block) s!"benchmark result does not match analyzer input: {label.label}"
  let calls ← readTrace trace
  let raw_samples ← required ((raw_block.get "samples").bind elements)
  let windows ← raw_samples.zipIdx.mapM fun (raw_sample, sample_index) =>
    recomputeSample label route transfer_block calls raw_sample sample_index
  require (boundaryCallKeys windows calls = []) s!"epoch boundary crossing: {label.label}"
  require (reports transfer_block "boundary_crossing_records" (.int (boundaryRecords windows calls).length))
    s!"boundary record count mismatch: {label.label}"
  require (reports transfer_block "boundary_crossing_calls" (.int (boundaryCallKeys windows calls).length))
    s!"boundary call count mismatch: {label.label}"
  let filtered ← openHashed sha256 files transfer_block "filtered_trace_path" "filtered_trace_sha256"
    s!"missing filtered transfer trace: {label.label}" s!"filtered transfer trace SHA256 mismatch: {label.label}"
  let actual_filtered ← readFiltered label filtered
  require (actual_filtered = expectedFiltered label windows calls)
    s!"filtered transfer rows do not match raw trace: {label.label}"
  checkCounts label transfer_block windows calls
  .ok (windows.zipIdx.map fun (window, sample_index) =>
    .obj (recomputed sample_index window (calls.filter (isContained window))))

end Cruise.Trace.Verifier
