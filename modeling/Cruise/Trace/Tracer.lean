/-
The memory-copy tracer (`rt_memcpy_trace.cpp`): which lines a call of an interposed API appends to the trace.

MODEL. A call is what its wrapper reads of it, its arrays as the functions from an index to the element; the function behind
it is what it returned (-1 where there is none). `outer` says that the wrapper was not entered from another one on its
thread. A pointer is an address. The trace file is new and every `write` writes the whole line. Calls of several threads
come in the order in which they use the descriptors; their lines may come in any other.
- `line_fits`: no line is too long for the buffer of `Record`.
-/
import Cruise.Lib.Csv
import Cruise.Lib.Dict
import Cruise.Trace.Call

namespace Cruise.Trace

open Cruise.Lib

/-! ## A line -/

/-- the arguments of `Record`, with the process and the thread -/
structure Line where
  api : Api
  pid : Int32
  tid : Int64
  start_ns : Int64
  end_ns : Int64
  bytes : UInt64
  dest_max : UInt64
  kind : Int32
  status : Int32

/-- the call a line is about -/
def Line.call (line : Line) : Call where
  api := line.api
  pid := line.pid.toInt
  tid := line.tid.toInt
  start_ns := line.start_ns.toInt
  end_ns := line.end_ns.toInt
  bytes := line.bytes.toNat
  dest_max := line.dest_max.toNat
  kind := line.kind.toInt
  status := line.status.toInt

/-- what `snprintf` prints -/
def Line.text (line : Line) : List Char := Csv.joinFields '\t' line.call.fields ++ ['\n']

/-- `Record`: the line is written if it fits into the buffer -/
def record (line : Line) : List Char := if line.text.length < 256 then line.text else []

/-- `kHeader` -/
def traceHeader : List Char := Csv.joinFields '\t' (TRACE_FIELDS.map String.toList) ++ ['\n']

def traceText (lines : List Line) : List Char := traceHeader ++ lines.flatMap record

/-! ## The wrappers -/

structure DescInfo where
  bytes : UInt64
  kind : Int32

/-- the locations' types of a `MemcpyBatchAttr` -/
structure MemcpyBatchAttr where
  dst : Int32
  src : Int32

structure BatchAttrs where
  attrs : Option (ℕ → MemcpyBatchAttr)
  attrs_idxs : Option (ℕ → UInt64)
  num_attrs : UInt64

inductive TracedCall where
  | rtMemcpy (dest_max count : UInt64) (kind : Int32)
  | rtMemcpyEx (dest_max count : UInt64) (kind : Int32)
  | rtMemcpyAsync (dest_max count : UInt64) (kind : Int32)
  | rtMemcpyAsyncWithoutCheckKind (dest_max count : UInt64) (kind : Int32)
  | rtMemcpyAsyncEx (dest_max count : UInt64) (kind : Int32)
  | rtMemcpyAsyncWithCfg (dest_max count : UInt64) (kind : Int32)
  | rtMemcpyAsyncWithCfgV2 (dest_max count : UInt64) (kind : Int32)
  | rtMemcpyHostTask (dest_max count : UInt64) (kind : Int32)
  | rtMemcpyAsyncWithOffset (dest_max count : UInt64) (kind : Int32)
  | rtMemcpy2d (dst_pitch width height : UInt64) (kind : Int32)
  | rtMemcpy2dAsync (dst_pitch width height : UInt64) (kind : Int32)
  | rtsMemcpy (dest_max count : UInt64) (kind : Int32)
  | rtsMemcpyAsync (dest_max count : UInt64) (kind : Int32)
  | rtsMemcpyBatch (sizes : Option (ℕ → UInt64)) (count : UInt64) (attrs : BatchAttrs)
  | rtsMemcpyBatchAsync (dest_maxs sizes : Option (ℕ → UInt64)) (count : UInt64) (attrs : BatchAttrs)
  | rtsSetMemcpyDesc (desc : ℕ) (kind : Int32) (count : UInt64)
  | rtsMemcpyAsyncWithDesc (desc : ℕ) (kind : Int32)
  | rtMbufAlloc (size : UInt64)
  | rtMbufBuild (size : UInt64)
  | rtMbufSetDataLen (size : UInt64)
  /-- `size` is what stands there after the call -/
  | rtMbufGetBuffSize (size : Option UInt64)
  | rtBuffGet (size : UInt64)
  | rtBuffConfirm (size : UInt64)
  | traceDflowFeed (inputs : Option (List UInt64))
  | traceDflowFetch (outputs : Option (List UInt64))

/-- what a call meets: its process and thread, the clock before and after it, and what the function returned -/
structure Intercept where
  pid : Int32
  tid : Int64
  /-- `scope.outer()` -/
  outer : Bool
  start_ns : Int64
  end_ns : Int64
  status : Int32

/-- the line of a call -/
def Intercept.line (self : Intercept) (api : Api) (bytes dest_max : UInt64) (kind : Int32) : Line :=
  { api, pid := self.pid, tid := self.tid, start_ns := self.start_ns, end_ns := self.end_ns, bytes, dest_max, kind,
    status := self.status }

/-- the line of an outer call -/
def Intercept.record (self : Intercept) (api : Api) (bytes dest_max : UInt64) (kind : Int32) : List Line :=
  if self.outer then [self.line api bytes dest_max kind] else []

/-- the last attribute that begins at the copy or before it; the loop stops at the first that begins later -/
def attrIndex (attrs_idxs : ℕ → UInt64) (num_attrs : UInt64) (copy_index : ℕ) : ℕ :=
  (((List.range' 1 (num_attrs.toNat - 1)).takeWhile fun index => (attrs_idxs index).toNat ≤ copy_index).getLast?).getD 0

/-- `BatchKind` -/
def batchKind (batch : BatchAttrs) (copy_index : ℕ) : Int32 :=
  match batch.attrs, batch.attrs_idxs with
  | some attrs, some attrs_idxs =>
    if batch.num_attrs = 0 then 8
    else
      let attr := attrs (attrIndex attrs_idxs batch.num_attrs copy_index)
      if attr.src = 0 ∧ attr.dst = 0 then 0
      else if attr.src = 0 ∧ attr.dst = 1 then 1
      else if attr.src = 1 ∧ attr.dst = 0 then 2
      else if attr.src = 1 ∧ attr.dst = 1 then 3
      else 8
  | _, _ => 8

/-- `RecordBatch` -/
def Intercept.recordBatch (self : Intercept) (api : Api) (dest_maxs sizes : Option (ℕ → UInt64)) (count : UInt64)
    (attrs : BatchAttrs) : List Line :=
  match sizes with
  | none => []
  | some sizes => (List.range count.toNat).map fun index =>
    self.line api (sizes index) (dest_maxs.elim (sizes index) fun dest_maxs => dest_maxs index) (batchKind attrs index)

/-- the lines of the tensors of a feed or a fetch, which are written at any depth -/
def Intercept.recordTensors (self : Intercept) (api : Api) (tensors : Option (List UInt64)) : List Line :=
  (tensors.getD []).map fun bytes => self.line api bytes bytes (-1)

/-- the lines of a call, with the descriptors that are set -/
def TracedCall.lines (desc_info : List (ℕ × DescInfo)) (i : Intercept) : TracedCall → List Line
  | rtMemcpy dest_max count kind => i.record .rtMemcpy count dest_max kind
  | rtMemcpyEx dest_max count kind => i.record .rtMemcpyEx count dest_max kind
  | rtMemcpyAsync dest_max count kind => i.record .rtMemcpyAsync count dest_max kind
  | rtMemcpyAsyncWithoutCheckKind dest_max count kind => i.record .rtMemcpyAsyncWithoutCheckKind count dest_max kind
  | rtMemcpyAsyncEx dest_max count kind => i.record .rtMemcpyAsyncEx count dest_max kind
  | rtMemcpyAsyncWithCfg dest_max count kind => i.record .rtMemcpyAsyncWithCfg count dest_max kind
  | rtMemcpyAsyncWithCfgV2 dest_max count kind => i.record .rtMemcpyAsyncWithCfgV2 count dest_max kind
  | rtMemcpyHostTask dest_max count kind => i.record .rtMemcpyHostTask count dest_max kind
  | rtMemcpyAsyncWithOffset dest_max count kind => i.record .rtMemcpyAsyncWithOffset count dest_max kind
  | rtMemcpy2d dst_pitch width height kind => i.record .rtMemcpy2d (width * height) (dst_pitch * height) kind
  | rtMemcpy2dAsync dst_pitch width height kind => i.record .rtMemcpy2dAsync (width * height) (dst_pitch * height) kind
  | rtsMemcpy dest_max count kind => i.record .rtsMemcpy count dest_max kind
  | rtsMemcpyAsync dest_max count kind => i.record .rtsMemcpyAsync count dest_max kind
  | rtsMemcpyBatch sizes count attrs => if i.outer then i.recordBatch .rtsMemcpyBatch none sizes count attrs else []
  | rtsMemcpyBatchAsync dest_maxs sizes count attrs =>
    if i.outer then i.recordBatch .rtsMemcpyBatchAsync dest_maxs sizes count attrs else []
  | rtsSetMemcpyDesc _ _ _ => []
  | rtsMemcpyAsyncWithDesc desc kind =>
    let info := (desc_info.lookup desc).getD { bytes := 0, kind }
    i.record .rtsMemcpyAsyncWithDesc info.bytes info.bytes kind
  | rtMbufAlloc size => i.record .rtMbufAlloc size size (-1)
  | rtMbufBuild size => i.record .rtMbufBuild size size (-1)
  | rtMbufSetDataLen size => i.record .rtMbufSetDataLen size size (-1)
  | rtMbufGetBuffSize size =>
    let bytes := if i.status = 0 then size.getD 0 else 0
    i.record .rtMbufGetBuffSize bytes bytes (-1)
  | rtBuffGet size => i.record .rtBuffGet size size (-1)
  | rtBuffConfirm size => i.record .rtBuffConfirm size size (-1)
  | traceDflowFeed inputs => i.recordTensors .feedDataFlowGraphTensor inputs
  | traceDflowFetch outputs => i.recordTensors .fetchDataFlowGraphTensor outputs

/-- what a call leaves in `desc_info` -/
def TracedCall.setDesc (desc_info : List (ℕ × DescInfo)) (i : Intercept) : TracedCall → List (ℕ × DescInfo)
  | rtsSetMemcpyDesc desc kind count =>
    if i.outer ∧ i.status = 0 ∧ desc ≠ 0 then setItem desc_info (desc, { bytes := count, kind }) else desc_info
  | _ => desc_info

structure Tracer where
  desc_info : List (ℕ × DescInfo) := []
  lines : List Line := []

def Tracer.intercept (self : Tracer) (event : Intercept × TracedCall) : Tracer where
  desc_info := event.2.setDesc self.desc_info event.1
  lines := self.lines ++ event.2.lines self.desc_info event.1

/-- the tracer after the calls of a process -/
def tracer (events : List (Intercept × TracedCall)) : Tracer := events.foldl Tracer.intercept {}

/-! ## Every line fits -/

theorem name_length (api : Api) : api.name.toList.length ≤ 29 := by
  cases api <;> decide

theorem int32_length (n : Int32) : (decimal n.toInt).length ≤ 11 :=
  decimal_length (k := 10) (by decide) (by have := n.le_toInt; have := n.toInt_lt; omega)

theorem int64_length (n : Int64) : (decimal n.toInt).length ≤ 20 :=
  decimal_length (k := 19) (by decide) (by have := n.le_toInt; have := n.toInt_lt; omega)

theorem uint64_length (n : UInt64) : (decimal n.toNat).length ≤ 21 :=
  decimal_length (k := 20) (by decide) (by have := n.toNat_lt; omega)

/-- the lengths of the fields come to 164, with eight tabs and the line feed -/
theorem line_fits (line : Line) : line.text.length < 256 := by
  have hname := name_length line.api
  have hpid := int32_length line.pid
  have htid := int64_length line.tid
  have hstart := int64_length line.start_ns
  have hend := int64_length line.end_ns
  have hbytes := uint64_length line.bytes
  have hdest := uint64_length line.dest_max
  have hkind := int32_length line.kind
  have hstatus := int32_length line.status
  simp only [Line.text, Call.fields, Line.call, List.map_cons, List.map_nil, Csv.joinFields, List.length_append,
    List.length_cons, List.length_nil]
  omega

theorem record_eq (line : Line) : record line = line.text := if_pos (line_fits line)

end Cruise.Trace
