/-
The transfer summarizer (`summarize_runtime_memcpy.py`).

MODEL. A file is its bytes, under the name that opens it, and SHA-256 is a parameter. A set of indexes that a loop collects
is the list of the calls at these indexes. Left out: what the operating system refuses, and the directory of the filtered
file; the window of a sample whose times are truth values is the window of the numbers they equal.
-/
import Cruise.Lib.Counter
import Cruise.Lib.Csv
import Cruise.Lib.Fold
import Cruise.Lib.JsonText
import Cruise.Lib.Lines
import Cruise.Trace.Call

namespace Cruise.Trace.Summarizer

open Cruise.Lib

def ROUTES : Block → Route
  | .old1 => .old
  | .new1 => .new
  | .new2 => .new
  | .old2 => .old

def RUNTIME_MEMCPY_APIS : List Api := [
  .rtMemcpy, .rtMemcpyEx, .rtMemcpyAsync, .rtMemcpyAsyncWithoutCheckKind, .rtMemcpyAsyncEx, .rtMemcpyAsyncWithCfg,
  .rtMemcpyAsyncWithCfgV2, .rtMemcpyHostTask, .rtMemcpyAsyncWithOffset, .rtMemcpy2d, .rtMemcpy2dAsync, .rtsMemcpy,
  .rtsMemcpyAsync, .rtsMemcpyBatch, .rtsMemcpyBatchAsync, .rtsMemcpyAsyncWithDesc]

def MBUF_DIAGNOSTIC_APIS : List Api := [
  .rtMbufAlloc, .rtMbufBuild, .rtMbufSetDataLen, .rtMbufGetBuffSize, .rtBuffGet, .rtBuffConfirm]

def DATAFLOW_API_DIRECTIONS : List (Api × Direction) := [
  (.feedDataFlowGraphTensor, .hostToDevice), (.fetchDataFlowGraphTensor, .deviceToHost)]

def TRACE_APIS : List Api := RUNTIME_MEMCPY_APIS ++ MBUF_DIAGNOSTIC_APIS ++ DATAFLOW_API_DIRECTIONS.map Prod.fst

/-! ## The expected payload (`abi.py`) -/

structure TensorSpec where
  name : String
  shape : List ℕ
  element_bytes : ℕ

def TensorSpec.nbytes (spec : TensorSpec) : ℕ := spec.shape.prod * spec.element_bytes

def COMMON_INPUTS : List TensorSpec := [
  ⟨"token", [4, 1], 8⟩, ⟨"position", [4], 8⟩, ⟨"sequence_length", [4, 1], 4⟩, ⟨"slot_mapping", [4], 4⟩,
  ⟨"active_mask", [4], 4⟩, ⟨"block_table", [4, 2], 4⟩, ⟨"tiling", [72], 1⟩, ⟨"control", [11], 4⟩]

def KEY_CACHE : TensorSpec := ⟨"key_cache", [28, 8, 128, 4, 128], 2⟩
def VALUE_CACHE : TensorSpec := ⟨"value_cache", [28, 8, 128, 4, 128], 2⟩
def TOKEN_HISTORY : TensorSpec := ⟨"token_history", [8, 4], 8⟩
def CONTROL_OUTPUT : TensorSpec := ⟨"control_output", [28], 4⟩

def OLD_INPUTS : List TensorSpec :=
  COMMON_INPUTS.take 3 ++ [KEY_CACHE] ++ (COMMON_INPUTS.take 6).drop 3 ++ [VALUE_CACHE] ++ COMMON_INPUTS.drop 6

def OLD_OUTPUTS : List TensorSpec := [
  ⟨"logits_history", [8, 4, 1, 152064], 4⟩, TOKEN_HISTORY, KEY_CACHE, VALUE_CACHE, ⟨"final_token", [4, 1], 8⟩,
  ⟨"final_position", [4], 8⟩, ⟨"final_length", [4, 1], 4⟩, ⟨"final_slot", [4], 4⟩, ⟨"final_active", [4], 4⟩, CONTROL_OUTPUT]

def NEW_INPUTS : List TensorSpec := COMMON_INPUTS
def NEW_OUTPUTS : List TensorSpec := [TOKEN_HISTORY, CONTROL_OUTPUT]

def EXPECTED_TENSOR_BYTES (route : Route) (direction : Direction) : List Int :=
  let specs := match route, direction with
    | .old, .hostToDevice => OLD_INPUTS
    | .old, .deviceToHost => OLD_OUTPUTS
    | .new, .hostToDevice => NEW_INPUTS
    | .new, .deviceToHost => NEW_OUTPUTS
  specs.map fun spec => (spec.nbytes : Int)

/-! ## Classes of calls -/

/-- `_transport`; an API that is in none of the three would raise, and none such is in `TRACE_APIS` -/
def transport (api : Api) : Transport :=
  if api ∈ DATAFLOW_API_DIRECTIONS.map Prod.fst then .dataflowTensor
  else if api ∈ RUNTIME_MEMCPY_APIS then .runtimeMemcpy
  else .mbufDiagnostic

/-- `_runtime_direction` -/
def runtimeDirection (api : Api) (kind : Int) : Option Direction :=
  if kind = 1 then some .hostToDevice
  else if kind = 2 then some .deviceToHost
  else if ¬['r', 't', 's'] <+: api.name.toList ∧ kind = 6 then some .hostToDevice
  else if ¬['r', 't', 's'] <+: api.name.toList ∧ kind = 7 then some .deviceToHost
  else none

/-- `_direction` -/
def direction (api : Api) (kind : Int) : Option Direction :=
  match DATAFLOW_API_DIRECTIONS.lookup api with
  | some d => some d
  | none => if api ∈ RUNTIME_MEMCPY_APIS then runtimeDirection api kind else none

/-! ## Reading -/

/-- a row; `line` is its number -/
def parseRow (path : String) (line : ℕ) (row : List (List Char)) : Except Raised Call :=
  let member (field : String) : Option (List Char) := (TRACE_FIELDS.zip row).lookup field
  match TRACE_FIELDS.tail.mapM fun field => (member field).bind readInt with
  | some [pid, tid, start_ns, end_ns, bytes, dest_max, kind, status] =>
    match (member "api").bind fun text => TRACE_APIS.find? fun api => api.name.toList = text with
    | none => .error (.value s!"invalid transfer trace API {path}:{line}")
    | some api =>
      if start_ns ≤ 0 ∨ end_ns < start_ns then .error (.value s!"invalid transfer trace timestamp {path}:{line}")
      else if bytes < 0 ∨ dest_max < bytes then .error (.value s!"invalid transfer trace byte count {path}:{line}")
      else .ok { api, pid, tid, start_ns, end_ns, bytes, dest_max, kind, status }
  | _ => .error (.value s!"invalid transfer trace row {path}:{line}")

/-- `_read_trace` -/
def readTrace (path : String) (content : Option Bytes) : Except Raised (List Call) :=
  match content.bind decodeText with
  | none => .error .other
  | some text =>
    match Csv.rows '\t' text with
    | ([], true) => .error .other
    | (rows, raises) =>
      if rows.headD [] ≠ TRACE_FIELDS.map String.toList then
        .error (.value s!"unexpected transfer trace header in {path}")
      else do
        let calls ← ((rows.tail.filter (· ≠ [])).zipIdx 2).mapM fun (row, line) => parseRow path line row
        if raises then .error .other else .ok calls

structure Window where
  start_ns : Int
  end_ns : Int

/-- `isinstance(value, int)` -/
def asInt : Json → Option Int
  | .bool b => some (if b then 1 else 0)
  | .int n => some n
  | _ => none

/-- the window of a sample, after the windows before it -/
def loadWindow (path : String) (windows : List Window) (sample : Json) : Except Raised (List Window) :=
  if sample.items.isNone then .error .other
  else
    match (sample.get "epoch_wall_clock_start_ns").bind asInt, (sample.get "epoch_wall_clock_end_ns").bind asInt with
    | some start_ns, some end_ns =>
      if end_ns ≤ start_ns then .error (.value s!"invalid epoch wall-clock window {path}:{windows.length}")
      else if windows.getLast?.any fun last => start_ns ≤ last.end_ns then
        .error (.value s!"overlapping epoch wall-clock windows: {path}")
      else .ok (windows ++ [⟨start_ns, end_ns⟩])
    | _, _ => .error (.value s!"invalid epoch wall-clock window {path}:{windows.length}")

/-- `json.loads(path.read_text(encoding="utf-8"))` -/
def readJson (content : Option Bytes) : Option Json :=
  (content.bind decodeText).bind fun text => Json.loads (universalNewlines text)

/-- `_load_windows` -/
def loadWindows (path : String) (content : Option Bytes) : Except Raised (List Window) :=
  match readJson content with
  | none => .error .other
  | some result =>
    if result.items.isNone then .error .other
    else
      match result.get "samples" with
      | some (.arr samples) =>
        if samples.length ≠ 15 then .error (.value s!"benchmark result must contain 15 samples: {path}")
        else samples.foldlM (loadWindow path) []
      | _ => .error (.value s!"benchmark result must contain 15 samples: {path}")

/-! ## The summary of a sample -/

/-- `_dataflow_call_count` -/
def dataflowCallCount (rows : List Call) (api : Api) : ℕ :=
  ((rows.filter (·.api = api)).map fun row => (row.pid, row.tid, row.start_ns, row.end_ns, row.status)).dedup.length

/-- the records of a sum of failures -/
def failures (rows : List Call) : ℕ := rows.countP (·.status ≠ 0)

/-- the rows that `runtime_directional` counts for a direction -/
def directional (rows : List Call) (d : Direction) : List Call :=
  rows.filter fun row => runtimeDirection row.api row.kind = some d ∧ row.status = 0

def totalBytes (rows : List Call) : Int := (rows.map Call.bytes).sum

def runtimeStatus (runtime_rows : List Call) : String :=
  if failures runtime_rows ≠ 0 then "invalid" else if runtime_rows = [] then "observed_zero" else "observed"

/-- `dataflow_observed` -/
def dataflowObserved (route : Route) (rows : List Call) : Bool :=
  let feed_rows := rows.filter (·.api = .feedDataFlowGraphTensor)
  let fetch_rows := rows.filter (·.api = .fetchDataFlowGraphTensor)
  dataflowCallCount rows .feedDataFlowGraphTensor = 1 ∧ dataflowCallCount rows .fetchDataFlowGraphTensor = 1 ∧
    feed_rows.map Call.bytes = EXPECTED_TENSOR_BYTES route .hostToDevice ∧
    fetch_rows.map Call.bytes = EXPECTED_TENSOR_BYTES route .deviceToHost ∧ failures (feed_rows ++ fetch_rows) = 0

/-- `_sample_summary` -/
def sampleSummary (route : Route) (sample_index : ℕ) (window : Window) (rows : List Call) : Json :=
  let feed_rows := rows.filter (·.api = .feedDataFlowGraphTensor)
  let fetch_rows := rows.filter (·.api = .fetchDataFlowGraphTensor)
  let runtime_rows := rows.filter (·.api ∈ RUNTIME_MEMCPY_APIS)
  let mbuf_rows := rows.filter (·.api ∈ MBUF_DIAGNOSTIC_APIS)
  let host_to_device := directional runtime_rows .hostToDevice
  let device_to_host := directional runtime_rows .deviceToHost
  .obj [
    ("sample", .int sample_index), ("window_start_ns", .int window.start_ns), ("window_end_ns", .int window.end_ns),
    ("dataflow_status", .str (if dataflowObserved route rows then "observed" else "not_observed")),
    ("dataflow_feed_calls", .int (dataflowCallCount rows .feedDataFlowGraphTensor)),
    ("dataflow_fetch_calls", .int (dataflowCallCount rows .fetchDataFlowGraphTensor)),
    ("dataflow_feed_tensor_count", .int feed_rows.length), ("dataflow_fetch_tensor_count", .int fetch_rows.length),
    ("dataflow_feed_tensor_bytes", .arr (feed_rows.map fun row => .int row.bytes)),
    ("dataflow_fetch_tensor_bytes", .arr (fetch_rows.map fun row => .int row.bytes)),
    ("dataflow_host_to_device_bytes", .int (totalBytes feed_rows)),
    ("dataflow_device_to_host_bytes", .int (totalBytes fetch_rows)),
    ("dataflow_total_bytes", .int (totalBytes feed_rows + totalBytes fetch_rows)),
    ("dataflow_failed_records", .int (failures (feed_rows ++ fetch_rows))),
    ("runtime_memcpy_status", .str (runtimeStatus runtime_rows)), ("runtime_memcpy_records", .int runtime_rows.length),
    ("runtime_memcpy_failed_records", .int (failures runtime_rows)),
    ("runtime_memcpy_host_to_device_records", .int host_to_device.length),
    ("runtime_memcpy_device_to_host_records", .int device_to_host.length),
    ("runtime_memcpy_host_to_device_bytes", .int (totalBytes host_to_device)),
    ("runtime_memcpy_device_to_host_bytes", .int (totalBytes device_to_host)),
    ("runtime_memcpy_total_directional_bytes", .int (totalBytes host_to_device + totalBytes device_to_host)),
    ("mbuf_diagnostic_records", .int mbuf_rows.length), ("mbuf_diagnostic_failed_records", .int (failures mbuf_rows))]

/-! ## The summary of a block -/

def contained (window : Window) (call : Call) : Bool := call.start_ns ≥ window.start_ns ∧ call.end_ns ≤ window.end_ns

def overlaps (window : Window) (call : Call) : Bool := call.end_ns ≥ window.start_ns ∧ call.start_ns ≤ window.end_ns

/-- the call crosses a boundary of the window -/
def crosses (window : Window) (call : Call) : Bool := overlaps window call ∧ ¬contained window call

/-- the calls at `measured_call_indexes` -/
def measuredCalls (windows : List Window) (calls : List Call) : List Call :=
  calls.filter fun call => windows.any fun window => contained window call

/-- the calls at `boundary_record_indexes` -/
def boundaryRecords (windows : List Window) (calls : List Call) : List Call :=
  calls.filter fun call => windows.any fun window => crosses window call

/-- `boundary_call_keys` -/
def boundaryCallKeys (windows : List Window) (calls : List Call) : List (Transport × Api × Int × Int × Int × Int) :=
  ((boundaryRecords windows calls).map fun call =>
    (transport call.api, call.api, call.pid, call.tid, call.start_ns, call.end_ns)).dedup

def FILTERED_TRACE_FIELDS : List String := ["block", "sample", "transport", "direction"] ++ TRACE_FIELDS

/-- a row of `filtered_rows`, in print -/
def filteredRow (label : Block) (sample_index : ℕ) (call : Call) : List (List Char) :=
  [label.label.toList, decimal sample_index, (transport call.api).name.toList,
    (((direction call.api call.kind).map Direction.name).getD "").toList] ++ call.fields

/-- `filtered_rows` -/
def filteredRows (label : Block) (windows : List Window) (calls : List Call) : List (List (List Char)) :=
  windows.zipIdx.flatMap fun (window, sample_index) =>
    (calls.filter (contained window)).map (filteredRow label sample_index)

/-- what `DictWriter` writes -/
def filteredText (label : Block) (windows : List Window) (calls : List Call) : List Char :=
  (FILTERED_TRACE_FIELDS.map String.toList :: filteredRows label windows calls).flatMap (Csv.writeRow '\t')

/-- `dict(sorted(Counter(...).items()))` -/
def byTransport (calls : List Call) : List (String × Int) :=
  (addAll [] (calls.map fun call => ((transport call.api).name, 1))).insertionSort fun a b => a.1 ≤ b.1

def counts (counter : List (String × Int)) : Json := .obj (counter.map fun item => (item.1, .int item.2))

def outsideByTransport (calls measured : List Call) : List (String × Int) :=
  (byTransport calls).map fun (name, n) => (name, n - ((byTransport measured).lookup name).getD 0)

def blockRuntimeStatus (statuses : List String) (boundary : Bool) : String :=
  if "invalid" ∈ statuses ∨ boundary then "invalid"
  else if statuses.all (· = "observed_zero") ∧ statuses ≠ [] then "observed_zero"
  else "observed"

/-- the status of a block -/
def blockObserved (label : Block) (windows : List Window) (calls : List Call) : Bool :=
  (windows.all fun window => dataflowObserved (ROUTES label) (calls.filter (contained window))) ∧
    boundaryCallKeys windows calls = [] ∧ failures (measuredCalls windows calls) = 0

/-- what `_summarize_block` returns -/
def blockSummary (sha256 : Bytes → String) (label : Block) (windows : List Window) (calls : List Call)
    (trace_path result_path filtered_path : String) (trace result filtered : Bytes) : Json :=
  let measured := measuredCalls windows calls
  let observed := blockObserved label windows calls
  let dataflow_observed := windows.all fun window => dataflowObserved (ROUTES label) (calls.filter (contained window))
  let statuses := windows.map fun window =>
    runtimeStatus ((calls.filter (contained window)).filter (·.api ∈ RUNTIME_MEMCPY_APIS))
  .obj [
    ("route", .str (ROUTES label).name), ("status", .str (if observed then "observed" else "not_observed")),
    ("reason", if observed then .null else .str ("every measured epoch must contain one complete DataFlow Feed/Fetch " ++
      "tensor payload matching its ABI, with no failed or boundary-crossing calls")),
    ("dataflow_tensor_payload_status", .str (if dataflow_observed then "observed" else "not_observed")),
    ("runtime_memcpy_status", .str (blockRuntimeStatus statuses (boundaryCallKeys windows calls ≠ []))),
    ("trace_path", .str trace_path), ("trace_sha256", .str (sha256 trace)), ("benchmark_result_path", .str result_path),
    ("benchmark_result_sha256", .str (sha256 result)), ("filtered_trace_path", .str filtered_path),
    ("filtered_trace_sha256", .str (sha256 filtered)), ("raw_record_count", .int calls.length),
    ("raw_records_by_transport", counts (byTransport calls)), ("measured_record_count", .int measured.length),
    ("measured_records_by_transport", counts (byTransport measured)),
    ("outside_window_records_by_transport", counts (outsideByTransport calls measured)),
    ("failed_measured_records", .int (failures measured)),
    ("boundary_crossing_records", .int (boundaryRecords windows calls).length),
    ("boundary_crossing_calls", .int (boundaryCallKeys windows calls).length),
    ("samples", .arr (windows.zipIdx.map fun (window, sample_index) =>
      sampleSummary (ROUTES label) sample_index window (calls.filter (contained window))))]

/-- `_summarize_block`, and the files after it; the filtered file is created -/
def summarizeBlock (sha256 : Bytes → String) (label : Block) (trace_path result_path filtered_path : String) (files : Files) :
    Except Raised (Json × Files) := do
  let calls ← readTrace trace_path (files trace_path)
  let windows ← loadWindows result_path (files result_path)
  if (files filtered_path).isSome then .error .other
  else
    let filtered := encodeText (filteredText label windows calls)
    let after : Files := fun path => if path = filtered_path then some filtered else files path
    match after trace_path, after result_path with
    | some trace, some result =>
      .ok (blockSummary sha256 label windows calls trace_path result_path filtered_path trace result filtered, after)
    | _, _ => .error .other

end Cruise.Trace.Summarizer
