/-
The rows of a transfer trace: the interposed APIs and what a reader holds of one call.

The APIs are those of `TRACE_APIS`, which both readers list. A file's text is in UTF-8.
-/
import Cruise.Lib.Json
import Cruise.Lib.Lines

namespace Cruise.Trace

open Cruise.Lib

inductive Api where
  | rtMemcpy
  | rtMemcpyEx
  | rtMemcpyAsync
  | rtMemcpyAsyncWithoutCheckKind
  | rtMemcpyAsyncEx
  | rtMemcpyAsyncWithCfg
  | rtMemcpyAsyncWithCfgV2
  | rtMemcpyHostTask
  | rtMemcpyAsyncWithOffset
  | rtMemcpy2d
  | rtMemcpy2dAsync
  | rtsMemcpy
  | rtsMemcpyAsync
  | rtsMemcpyBatch
  | rtsMemcpyBatchAsync
  | rtsMemcpyAsyncWithDesc
  | rtMbufAlloc
  | rtMbufBuild
  | rtMbufSetDataLen
  | rtMbufGetBuffSize
  | rtBuffGet
  | rtBuffConfirm
  | feedDataFlowGraphTensor
  | fetchDataFlowGraphTensor
deriving DecidableEq

def Api.name : Api → String
  | rtMemcpy => "rtMemcpy"
  | rtMemcpyEx => "rtMemcpyEx"
  | rtMemcpyAsync => "rtMemcpyAsync"
  | rtMemcpyAsyncWithoutCheckKind => "rtMemcpyAsyncWithoutCheckKind"
  | rtMemcpyAsyncEx => "rtMemcpyAsyncEx"
  | rtMemcpyAsyncWithCfg => "rtMemcpyAsyncWithCfg"
  | rtMemcpyAsyncWithCfgV2 => "rtMemcpyAsyncWithCfgV2"
  | rtMemcpyHostTask => "rtMemcpyHostTask"
  | rtMemcpyAsyncWithOffset => "rtMemcpyAsyncWithOffset"
  | rtMemcpy2d => "rtMemcpy2d"
  | rtMemcpy2dAsync => "rtMemcpy2dAsync"
  | rtsMemcpy => "rtsMemcpy"
  | rtsMemcpyAsync => "rtsMemcpyAsync"
  | rtsMemcpyBatch => "rtsMemcpyBatch"
  | rtsMemcpyBatchAsync => "rtsMemcpyBatchAsync"
  | rtsMemcpyAsyncWithDesc => "rtsMemcpyAsyncWithDesc"
  | rtMbufAlloc => "rtMbufAlloc"
  | rtMbufBuild => "rtMbufBuild"
  | rtMbufSetDataLen => "rtMbufSetDataLen"
  | rtMbufGetBuffSize => "rtMbufGetBuffSize"
  | rtBuffGet => "rtBuffGet"
  | rtBuffConfirm => "rtBuffConfirm"
  | feedDataFlowGraphTensor => "FeedDataFlowGraphTensor"
  | fetchDataFlowGraphTensor => "FetchDataFlowGraphTensor"

inductive Transport where
  | dataflowTensor
  | runtimeMemcpy
  | mbufDiagnostic
deriving DecidableEq

def Transport.name : Transport → String
  | dataflowTensor => "dataflow_tensor"
  | runtimeMemcpy => "runtime_memcpy"
  | mbufDiagnostic => "mbuf_diagnostic"

inductive Direction where
  | hostToDevice
  | deviceToHost
deriving DecidableEq

def Direction.name : Direction → String
  | hostToDevice => "host_to_device"
  | deviceToHost => "device_to_host"

/-- a row of a trace, as both readers hold it -/
structure Call where
  api : Api
  pid : Int
  tid : Int
  start_ns : Int
  end_ns : Int
  bytes : Int
  dest_max : Int
  kind : Int
  status : Int
deriving DecidableEq

/-- the fields of a row -/
def TRACE_FIELDS : List String := ["api", "pid", "tid", "start_ns", "end_ns", "bytes", "dest_max", "kind", "status"]

/-- a row in print, field by field -/
def Call.fields (call : Call) : List (List Char) := call.api.name.toList ::
  [call.pid, call.tid, call.start_ns, call.end_ns, call.bytes, call.dest_max, call.kind, call.status].map decimal

inductive Route where
  | old
  | new
deriving DecidableEq

def Route.name : Route → String
  | old => "old"
  | new => "new"

/-- the blocks of a benchmark -/
inductive Block where
  | old1
  | new1
  | new2
  | old2

def Block.label : Block → String
  | old1 => "old-1"
  | new1 => "new-1"
  | new2 => "new-2"
  | old2 => "old-2"

/-- the files, under the names that open them -/
abbrev Files := String → Option Bytes

inductive Raised where
  /-- a `ValueError` -/
  | value (message : String)
  | other

end Cruise.Trace
