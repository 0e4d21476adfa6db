/-
The tensor ABI of the Device UDF (`controller/g4c_b4_resident_epoch.cpp`): the fixed graph shape, the flow messages it
receives and allocates, and the helper functions of its anonymous namespace.

A flow message is a shared pointer that may be null, carries a return code and, possibly, a tensor; `tensorData` is the
source's test on it. A tensor's data is read at the element type the tensor was made with. Logits are kept as rationals:
`none` is what `std::isfinite` refuses, and comparing two finite floats is comparing the numbers they denote.
-/
import Cruise.Lib.Memory
import Cruise.Lib.Fold

namespace Cruise.Controller

open Cruise.Lib

/-! ## Shape of the graph -/

def kInputCount : ℕ := 8
def kMaxEpochSteps : ℕ := 8
def kLogicalCapacity : ℕ := 8
def kPhysicalBlocks : ℕ := 8
def kBlocksPerRequest : ℕ := 2
def kBlockSize : ℕ := 128
def kVocabSize : ℕ := 152064
def kLayers : ℕ := 28
/-- bytes of one block of one layer: 128 positions, 4 heads, 128 elements of two bytes -/
def kBlockBytes : ℕ := 128 * 4 * 128 * 2
def kCacheElements : ℕ := 28 * 8 * 128 * 4 * 128
def kImportCacheElements : ℕ := 28 * 4 * 128 * 4 * 128
def kImportPayloadElements : ℕ := 2 * kImportCacheElements * 2
def kControlInputElements : ℕ := 1 + 4 + 2 + 4
def kControlOutputElements : ℕ := 6 + 4 * 4 + 2 + 4
def kControlGenerationInputOffset : ℕ := 3 + 4
def kControlEosOffset : ℕ := 6
def kControlInitialActiveOffset : ℕ := kControlEosOffset + 4
def kControlExecutedOffset : ℕ := kControlInitialActiveOffset + 4
def kControlReasonOffset : ℕ := kControlExecutedOffset + 4
def kControlInitialCount : ℕ := kControlReasonOffset + 4
def kControlFinalCount : ℕ := kControlInitialCount + 1
def kControlGenerationOutputOffset : ℕ := kControlFinalCount + 1

theorem kBlockBytes_pos : 0 < kBlockBytes := by decide

/-- a request row of the static B=4 graph -/
abbrev Row := Fin 4

/-- `for (request = 0; request < kBatchSize; ++request)` -/
def rows : List Row := [0, 1, 2, 3]

@[simp] theorem mem_rows (r : Row) : r ∈ rows := by revert r; decide

theorem rows_nodup : rows.Nodup := by decide

inductive FinishReason where
  | none
  | eos
  | maxSteps
  | fallback
  | empty
  | alreadyFinished
deriving DecidableEq, Repr

def FinishReason.code : FinishReason → Int
  | .none => 0
  | .eos => 1
  | .maxSteps => 2
  | .fallback => 3
  | .empty => 4
  | .alreadyFinished => 5

inductive Status where
  | ok
  | invalidMetadata
  | capacityExceeded
  | invalidBlockTable
  | slotMismatch
  | unsupportedSampling
  | unsupportedGraph
  | modelError
  | invalidModelOutput
  | nonFiniteLogits
  | positionProgress
  | allocationFailure
  | residentContinuity
deriving DecidableEq, Repr

def Status.code : Status → Int
  | .ok => 0
  | .invalidMetadata => 201
  | .capacityExceeded => 202
  | .invalidBlockTable => 203
  | .slotMismatch => 204
  | .unsupportedSampling => 205
  | .unsupportedGraph => 206
  | .modelError => 207
  | .invalidModelOutput => 208
  | .nonFiniteLogits => 209
  | .positionProgress => 210
  | .allocationFailure => 211
  | .residentContinuity => 212

theorem Status.code_eq_zero (s : Status) : s.code = 0 ↔ s = .ok := by
  cases s <;> simp [Status.code]

/-! ## Flow messages -/

/-- a float as the controller uses it: `none` is not finite -/
abbrev Logit := Option ℚ

inductive TensorDataType where
  | DT_FLOAT
  | DT_INT32
  | DT_INT64
  | DT_UINT8
  | DT_BF16
deriving DecidableEq, Repr

/-- the buffer behind a tensor; a BF16 cache is kept as its bytes, since the controller only moves and clears them -/
inductive TensorData where
  | float (values : ℕ → Logit)
  | int32 (values : ℕ → Int)
  | int64 (values : ℕ → Int)
  | uint8 (bytes : Mem)
  | bf16 (bytes : Mem)

def TensorData.dtype : TensorData → TensorDataType
  | .float _ => .DT_FLOAT
  | .int32 _ => .DT_INT32
  | .int64 _ => .DT_INT64
  | .uint8 _ => .DT_UINT8
  | .bf16 _ => .DT_BF16

structure Tensor where
  element_cnt : ℕ
  /-- `none` is a null data pointer -/
  data : Option TensorData

structure FlowMsg where
  ret_code : Int
  tensor : Option Tensor

def FLOW_FUNC_SUCCESS : Int := 0
def FLOW_FUNC_FAILED : Int := -1

/-- `IsTensor`, returning the data pointer it has checked -/
def tensorData (msg : Option FlowMsg) (dtype : TensorDataType) (elements : ℕ) : Option TensorData :=
  match msg with
  | none => none
  | some m =>
    if m.ret_code ≠ FLOW_FUNC_SUCCESS then none
    else match m.tensor with
      | none => none
      | some t =>
        match t.data with
        | none => none
        | some d => if d.dtype = dtype ∧ t.element_cnt = elements then some d else none

/-- `static_cast<const int64_t *>(tensor->GetData())` of a tensor that `IsTensor` accepted -/
def int64Data (msg : Option FlowMsg) (elements : ℕ) : Option (ℕ → Int) :=
  match tensorData msg .DT_INT64 elements with
  | some (.int64 v) => some v
  | _ => none

def int32Data (msg : Option FlowMsg) (elements : ℕ) : Option (ℕ → Int) :=
  match tensorData msg .DT_INT32 elements with
  | some (.int32 v) => some v
  | _ => none

def uint8Data (msg : Option FlowMsg) (elements : ℕ) : Option Mem :=
  match tensorData msg .DT_UINT8 elements with
  | some (.uint8 v) => some v
  | _ => none

def bf16Data (msg : Option FlowMsg) (elements : ℕ) : Option Mem :=
  match tensorData msg .DT_BF16 elements with
  | some (.bf16 v) => some v
  | _ => none

def floatData (msg : Option FlowMsg) (elements : ℕ) : Option (ℕ → Logit) :=
  match tensorData msg .DT_FLOAT elements with
  | some (.float v) => some v
  | _ => none

/-- a message that carries the given values -/
def int32Msg (values : List Int) : Option FlowMsg :=
  some ⟨FLOW_FUNC_SUCCESS, some ⟨values.length, some (.int32 fun i => values.getD i 0)⟩⟩

def int64Msg (values : List Int) : Option FlowMsg :=
  some ⟨FLOW_FUNC_SUCCESS, some ⟨values.length, some (.int64 fun i => values.getD i 0)⟩⟩

def uint8Msg (bytes : Mem) (count : ℕ) : Option FlowMsg :=
  some ⟨FLOW_FUNC_SUCCESS, some ⟨count, some (.uint8 bytes)⟩⟩

/-! ## Helpers -/

/-- -1 is the source's refusal -/
def computeSlot (block_table : ℕ → Int) (request : Row) (position : Int) : Int :=
  if position < 0 ∨ position ≥ kLogicalCapacity then -1
  else
    let logical_block := position / kBlockSize
    let offset := position % kBlockSize
    if logical_block ≥ kBlocksPerRequest then -1
    else
      let physical_block := block_table (request * kBlocksPerRequest + logical_block.toNat)
      if physical_block < 0 ∨ physical_block ≥ kPhysicalBlocks then -1
      else physical_block * kBlockSize + offset

/-- the scan of `ArgmaxFinite` after the indices up to `n`: the best logit and its first index -/
def argmaxScan (logits : ℕ → Logit) : ℕ → Option (ℚ × ℕ)
  | 0 => (logits 0).map fun v => (v, 0)
  | n + 1 =>
    match argmaxScan logits n, logits (n + 1) with
    | some (best, token), some v => if best < v then some (v, n + 1) else some (best, token)
    | _, _ => none

@[irreducible] def argmaxFinite (all_logits : ℕ → Logit) (request : Row) : Option Int :=
  (argmaxScan (fun i => all_logits (request * kVocabSize + i)) (kVocabSize - 1)).map fun p => (p.2 : Int)

def countActive (active : Row → Int) : Int := (rows.map fun r => if active r ≠ 0 then (1 : Int) else 0).sum

/-- both physical blocks of a row, in every layer, are zeroed. The source's own refusal (a cache that is not a BF16
tensor of the cache size, or a row outside the batch) cannot occur on a `Mem` and a `Row`. -/
def clearCacheRow (cache : Mem) (row : Row) : Mem :=
  (List.range kLayers).foldl (fun c layer =>
    (List.range kBlocksPerRequest).foldl (fun c local_block =>
      memset c ((layer * kPhysicalBlocks + (row * kBlocksPerRequest + local_block)) * kBlockBytes) 0 kBlockBytes) c)
    cache

/-- one chunk of `Adler32Update`: the sums run unreduced over the chunk's bytes -/
def adler32Chunk (data : Mem) (offset : ℕ) : ℕ → UInt32 × UInt32 → UInt32 × UInt32
  | 0, s => s
  | n + 1, s =>
    let first := s.1 + (data offset).toUInt32
    adler32Chunk data (offset + 1) n (first, s.2 + first)

def adler32Update (data : Mem) (offset bytes : ℕ) (s : UInt32 × UInt32) : UInt32 × UInt32 :=
  if h : bytes = 0 then s
  else
    let chunk := min bytes 5552
    let t := adler32Chunk data offset chunk s
    adler32Update data (offset + chunk) (bytes - chunk) (t.1 % 65521, t.2 % 65521)
termination_by bytes
decreasing_by omega

end Cruise.Controller
