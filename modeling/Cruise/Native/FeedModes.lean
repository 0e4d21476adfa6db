/-
What the three feed modes deliver.

A call that reaches Feed has made its row stores (`writes`) into buffers of given sizes and pushes eight tensors. Decoding
them through the UDF's own input map, `FeedFaithful` says that every store was inside its buffer, every tensor has the
bytes of its shape, and the UDF reads the request's rows. Results:
- `fed_element`: whatever the mode, a row element read back is the value the row loops stored last.
- `feed_faithful_iff`: a call that reaches Feed is faithful exactly when it is not a direct Device import.
- `device_import_overflows`: the direct Device mode indexes its buffers like an import and sizes them like a plain call,
  so the positions of rows 2 and 3 are stored past the end of a 16-byte buffer.
-/
import Cruise.Native.Bridge

namespace Cruise.Native

open Cruise.Lib Cruise.Controller

/-! ## The specification -/

/-- the values a request gives to the four rows; a row without a generation is empty -/
def requestToken (rin : RowInputs) (r : Row) : Int := if rin.row_generations r = 0 then 0 else (rin.token_ids r).toInt

def requestPosition (rin : RowInputs) (r : Row) : Int :=
  if rin.row_generations r = 0 then 0 else (rin.positions r).toInt

def requestLength (rin : RowInputs) (r : Row) : Int :=
  if rin.row_generations r = 0 then 0 else (rin.sequence_lengths r).toInt

def requestActive (rin : RowInputs) (r : Row) : Int := if rin.row_generations r = 0 then 0 else 1

def requestEos (rin : RowInputs) (r : Row) : Int :=
  if rin.row_generations r = 0 then kConfiguredEos else (rin.eos_token_ids r).toInt

/-- what the UDF must read of a request -/
structure ReadsRequest (rin : RowInputs) (max_steps : Int) (importing : Bool) (import_mask : ℕ) (inp : Inputs) :
    Prop where
  token : ∀ r, inp.token r = requestToken rin r
  position : ∀ r, inp.position r = requestPosition rin r
  length : ∀ r, inp.length r = requestLength rin r
  active : ∀ r, inp.active r = requestActive rin r
  block_table : ∀ i < 8, inp.block_table i = i
  max_steps : inp.max_steps = max_steps
  eos : ∀ r, inp.eos r = requestEos rin r
  sampling_mode : inp.sampling_mode = 0
  graph_variant : inp.graph_variant = 0
  importing : inp.importing = importing
  import_mask : inp.import_mask = BitVec.ofNat 32 import_mask
  row_generation : ∀ r, inp.row_generation r = (rin.row_generations r).toInt

/-- a feed that delivers the request's rows to a UDF whose allocations succeed -/
structure FeedFaithful (call : FeedCall) (rin : RowInputs) (max_steps : Int) (importing : Bool) (import_mask : ℕ) :
    Prop where
  inside : ∀ w ∈ call.writes, w.Inside call.sizes
  bytes : ∀ t ∈ call.inputs, t.size = t.shape.prod * dtypeBytes t.dtype
  decoded : ∀ plat : Platform, plat.alloc_outputs = true → plat.alloc_slot = true →
    ∃ inp, readInputs plat (call.inputs.map GeTensor.flowMsg) = some inp ∧
      ReadsRequest rin max_steps importing import_mask inp

/-! ## What the row loops store -/

theorem int32_range (v : Int32) : Field.i.InRange v.toInt := by
  have h1 := v.le_toInt
  have h2 := v.toInt_lt
  simp only [Field.InRange, Field.i]
  norm_num at h1 h2 ⊢
  exact ⟨h1, h2⟩

theorem int64_range (v : Int64) : Field.q.InRange v.toInt := by
  have h1 := v.le_toInt
  have h2 := v.toInt_lt
  simp only [Field.InRange, Field.q]
  norm_num at h1 h2 ⊢
  exact ⟨h1, h2⟩

theorem small_range {v : Int} (h0 : -1 ≤ v) (h1 : v < 2 ^ 31) : Field.i.InRange v ∧ Field.q.InRange v := by
  simp only [Field.InRange, Field.i, Field.q]
  norm_num at h1 ⊢
  omega

theorem bridgeSlot_range (r : Row) (position : Int) : Field.i.InRange (bridgeSlot r position) := by
  have hr : r.val < 4 := r.isLt
  unfold bridgeSlot
  split_ifs with h
  · exact (small_range (le_refl _) (by norm_num)).1
  · refine (small_range ?_ ?_).1 <;> simp only [kBlocksPerRequest, kBlockSize, kLogicalCapacity] at * <;>
      push_cast at * <;> omega

/-- every store of a pass has its buffer's element type and a value that fits it -/
def Typed (importing : Bool) (w : Write (Fin 7)) : Prop :=
  w.field = (if w.buffer = tokensAt importing ∨ w.buffer = positionsAt importing then .q else .i) ∧
    w.field.InRange w.value

theorem storeRow_typed (importing : Bool) (r : Row) (token position length active : Int)
    (ht : Field.q.InRange token) (hp : Field.q.InRange position) (hl : Field.i.InRange length)
    (ha : Field.i.InRange active) : ∀ w ∈ storeRow importing r token position length active, Typed importing w := by
  intro w hw
  cases importing with
  | false =>
    simp only [storeRow, Bool.false_eq_true, if_false, List.cons_append, List.nil_append, List.mem_cons,
      List.not_mem_nil, or_false] at hw
    rcases hw with rfl | rfl | rfl | rfl | rfl
    · exact ⟨rfl, ht⟩
    · exact ⟨rfl, hp⟩
    · exact ⟨rfl, hl⟩
    · exact ⟨rfl, bridgeSlot_range r position⟩
    · exact ⟨rfl, ha⟩
  | true =>
    simp only [storeRow, if_true, List.cons_append, List.nil_append, List.mem_cons, List.not_mem_nil, or_false] at hw
    rcases hw with rfl | rfl | rfl | rfl
    · exact ⟨rfl, ht⟩
    · exact ⟨rfl, hp⟩
    · exact ⟨rfl, hl⟩
    · exact ⟨rfl, ha⟩

theorem initRow_typed (importing : Bool) (r : Row) : ∀ w ∈ initRow importing r, Typed importing w := by
  intro w hw
  have hr : r.val < 4 := r.isLt
  have h0 := small_range (v := 0) (by norm_num) (by norm_num)
  rcases List.mem_append.1 hw with hw | hw
  · simp only [List.mem_cons, List.not_mem_nil, or_false] at hw
    rcases hw with rfl | rfl
    · refine ⟨by cases importing <;> rfl, (small_range ?_ ?_).1⟩ <;> simp only [kBlocksPerRequest] <;> push_cast <;> omega
    · refine ⟨by cases importing <;> rfl, (small_range ?_ ?_).1⟩ <;> simp only [kBlocksPerRequest] <;> push_cast <;> omega
  · exact storeRow_typed importing r 0 0 0 0 h0.2 h0.2 h0.1 h0.1 w hw

theorem fillRow_typed (importing : Bool) (rin : RowInputs) (r : Row) :
    ∀ w ∈ fillRow importing rin r, Typed importing w := by
  intro w hw
  unfold fillRow at hw
  split_ifs at hw
  · cases hw
  · exact storeRow_typed importing r _ _ _ _ (int64_range _) (int64_range _) (int32_range _)
      (small_range (by norm_num) (by norm_num)).1 w hw

/-- both row loops -/
def rowLoops (importing : Bool) (rin : RowInputs) : List (Write (Fin 7)) :=
  rows.flatMap (initRow importing) ++ rows.flatMap (fillRow importing rin)

theorem rowLoops_typed (importing : Bool) (rin : RowInputs) : ∀ w ∈ rowLoops importing rin, Typed importing w := by
  intro w hw
  rcases List.mem_append.1 hw with hw | hw
  · obtain ⟨r, -, h⟩ := List.mem_flatMap.1 hw
    exact initRow_typed importing r w h
  · obtain ⟨r, -, h⟩ := List.mem_flatMap.1 hw
    exact fillRow_typed importing rin r w h

/-- **An element read back.** When row `r`'s first pass stores `v0` into it, its second pass (made for a row with a
generation) stores `vs`, and no other row stores into it, it holds the last of these. -/
theorem fed_element (importing : Bool) (rin : RowInputs) (buffers : Fin 7 → Mem) (buffer : Fin 7) (f : Field)
    (hf : 0 < f.bytes) (hfield : f = if buffer = tokensAt importing ∨ buffer = positionsAt importing then .q else .i)
    (index : ℕ) (r : Row) (v0 : Int) (vs : List Int)
    (hinit : ∀ r', hits buffer index (initRow importing r') = if r' = r then [v0] else [])
    (hfill : ∀ r', rin.row_generations r' ≠ 0 →
      hits buffer index (fillRow importing rin r') = if r' = r then vs else []) :
    arrayLoad f (applyWrites buffers (rowLoops importing rin) buffer) index =
      if rin.row_generations r = 0 then v0 else vs.getLastD v0 := by
  have hfill' (r' : Row) : hits buffer index (fillRow importing rin r') =
      if r' = r ∧ rin.row_generations r ≠ 0 then vs else [] := by
    by_cases hg : rin.row_generations r' = 0
    · have hnil : fillRow importing rin r' = [] := if_pos hg
      rw [hnil, if_neg fun h => h.2 (h.1 ▸ hg)]
      rfl
    · rw [hfill r' hg]
      by_cases hr : r' = r
      · rw [if_pos hr, if_pos ⟨hr, hr ▸ hg⟩]
      · rw [if_neg hr, if_neg fun h => hr h.1]
  rw [arrayLoad_applyWrites f hf]
  · have h1 : hits buffer index (rows.flatMap (initRow importing)) = [v0] := by
      rw [hits_flatMap buffer index _ rows_nodup (mem_rows r) fun r' _ hne => by rw [hinit, if_neg hne], hinit,
        if_pos rfl]
    have h2 : hits buffer index (rows.flatMap (fillRow importing rin)) =
        if rin.row_generations r ≠ 0 then vs else [] := by
      rw [hits_flatMap buffer index _ rows_nodup (mem_rows r) fun r' _ hne => by
        rw [hfill', if_neg fun h => hne h.1], hfill']
      simp only [true_and]
    rw [rowLoops, hits_append, h1, h2]
    by_cases hg : rin.row_generations r = 0
    · rw [if_neg (not_not.2 hg), if_pos hg]
      rfl
    · rw [if_pos hg, if_neg hg]
      exact List.getLastD_cons
  · intro w hw hb
    obtain ⟨h1, h2⟩ := rowLoops_typed importing rin w hw
    rw [hb, ← hfield] at h1
    exact ⟨h1, h1 ▸ h2⟩

section FedRows

variable (importing : Bool) (rin : RowInputs) (buffers : Fin 7 → Mem)

theorem fillRow_active {r : Row} (h : rin.row_generations r ≠ 0) : fillRow importing rin r =
    storeRow importing r (rin.token_ids r).toInt (rin.positions r).toInt (rin.sequence_lengths r).toInt 1 := if_neg h

theorem fed_token (r : Row) :
    arrayLoad .q (applyWrites buffers (rowLoops importing rin) (tokensAt importing)) r = requestToken rin r := by
  refine fed_element importing rin buffers (tokensAt importing) .q (by decide) (by simp) r r 0 [(rin.token_ids r).toInt]
    (fun r' => ?_) fun r' hg => ?_
  · cases importing <;> simp [initRow, storeRow, tokensAt, positionsAt, lengthsAt, Fin.ext_iff]
  · rw [fillRow_active importing rin hg]
    cases importing <;> by_cases hr : r' = r <;>
      simp [storeRow, tokensAt, positionsAt, lengthsAt, hr, Fin.val_inj]

theorem fed_position (r : Row) :
    arrayLoad .q (applyWrites buffers (rowLoops importing rin) (positionsAt importing)) r = requestPosition rin r := by
  refine fed_element importing rin buffers (positionsAt importing) .q (by decide) (by simp) r r 0
    [(rin.positions r).toInt] (fun r' => ?_) fun r' hg => ?_
  · cases importing <;> simp [initRow, storeRow, tokensAt, positionsAt, lengthsAt, Fin.ext_iff]
  · rw [fillRow_active importing rin hg]
    cases importing <;> by_cases hr : r' = r <;>
      simp [storeRow, tokensAt, positionsAt, lengthsAt, hr, Fin.val_inj]

theorem fed_length (r : Row) :
    arrayLoad .i (applyWrites buffers (rowLoops importing rin) (lengthsAt importing)) r = requestLength rin r := by
  refine fed_element importing rin buffers (lengthsAt importing) .i (by decide) (by cases importing <;> rfl) r r 0
    [(rin.sequence_lengths r).toInt] (fun r' => ?_) fun r' hg => ?_
  · cases importing <;> simp [initRow, storeRow, tokensAt, positionsAt, lengthsAt, Fin.ext_iff]
  · rw [fillRow_active importing rin hg]
    cases importing <;> by_cases hr : r' = r <;>
      simp [storeRow, tokensAt, positionsAt, lengthsAt, hr, Fin.val_inj]

theorem fed_active (r : Row) :
    arrayLoad .i (applyWrites buffers (rowLoops importing rin) 4) r = requestActive rin r := by
  refine fed_element importing rin buffers 4 .i (by decide) (by cases importing <;> rfl) r r 0 [1]
    (fun r' => ?_) fun r' hg => ?_
  · cases importing <;> simp [initRow, storeRow, tokensAt, positionsAt, lengthsAt, Fin.ext_iff]
  · rw [fillRow_active importing rin hg]
    cases importing <;> by_cases hr : r' = r <;>
      simp [storeRow, tokensAt, positionsAt, lengthsAt, hr, Fin.val_inj]

/-- a plain call's slots; an import stores none -/
theorem fed_slot (r : Row) :
    arrayLoad .i (applyWrites buffers (rowLoops false rin) 3) r = bridgeSlot r (requestPosition rin r) := by
  rw [fed_element false rin buffers 3 .i (by decide) rfl r r (bridgeSlot r 0) [bridgeSlot r (rin.positions r).toInt]
    (fun r' => ?_) fun r' hg => ?_]
  · unfold requestPosition
    split_ifs <;> rfl
  · by_cases hr : r' = r <;> simp [initRow, storeRow, tokensAt, positionsAt, lengthsAt, hr, Fin.val_inj]
  · rw [fillRow_active false rin hg]
    by_cases hr : r' = r <;> simp [storeRow, tokensAt, positionsAt, lengthsAt, hr, Fin.val_inj]

theorem fed_block {i : ℕ} (hi : i < 8) :
    arrayLoad .i (applyWrites buffers (rowLoops importing rin) 5) i = i := by
  rw [fed_element importing rin buffers 5 .i (by decide) (by cases importing <;> rfl) i ⟨i / 2, by omega⟩ i []
    (fun r' => ?_) fun r' hg => ?_]
  · exact ite_self _
  · have hr : r'.val < 4 := r'.isLt
    by_cases h0 : r'.val * 2 = i
    · have hrow : r' = ⟨i / 2, by omega⟩ := Fin.ext (by simp only; omega)
      rw [if_pos hrow]
      cases importing <;>
        simp [initRow, storeRow, tokensAt, positionsAt, lengthsAt, kBlocksPerRequest, h0]
    · by_cases h1 : r'.val * 2 + 1 = i
      · have hrow : r' = ⟨i / 2, by omega⟩ := Fin.ext (by simp only; omega)
        rw [if_pos hrow]
        cases importing <;>
          simp [initRow, storeRow, tokensAt, positionsAt, lengthsAt, kBlocksPerRequest, h0, h1]
      · have hrow : ¬ r' = ⟨i / 2, by omega⟩ := fun h => by
          have := congrArg Fin.val h
          simp only at this
          omega
        rw [if_neg hrow]
        cases importing <;> simp [initRow, storeRow, tokensAt, positionsAt, lengthsAt, kBlocksPerRequest, h0, h1]
  · rw [fillRow_active importing rin hg, ite_self]
    cases importing <;> simp [storeRow, tokensAt, positionsAt, lengthsAt]

end FedRows

/-! ## Control words -/

section Control

variable (source : ImportSource) (rin : RowInputs) (max_steps : Int)

theorem controlWords_eq : controlWords source rin max_steps =
    [max_steps, requestEos rin 0, requestEos rin 1, requestEos rin 2, requestEos rin 3, 0,
      if source.importing then ((CRUISE_RESIDENT_IMPORT_GRAPH_FLAG ||| source.import_mask : ℕ) : Int) else 0,
      (rin.row_generations 0).toInt, (rin.row_generations 1).toInt, (rin.row_generations 2).toInt,
      (rin.row_generations 3).toInt] := by
  have heos (r : Row) : (if rin.row_generations r ≠ 0 then (rin.eos_token_ids r).toInt else kConfiguredEos) =
      requestEos rin r := by
    unfold requestEos
    split_ifs <;> first | rfl | contradiction
  simp only [controlWords, rows, List.map_cons, List.map_nil, heos, List.cons_append, List.nil_append]

theorem requestEos_range (r : Row) : Field.i.InRange (requestEos rin r) := by
  unfold requestEos
  split_ifs
  · decide
  · exact int32_range _

/-- the bits of the graph word of an import -/
theorem graphWord_bits (mask : ℕ) (h : mask < 16) :
    Field.i.InRange ((CRUISE_RESIDENT_IMPORT_GRAPH_FLAG ||| mask : ℕ) : Int) ∧
      ((BitVec.ofInt 32 ((CRUISE_RESIDENT_IMPORT_GRAPH_FLAG ||| mask : ℕ) : Int) &&& kImportGraphFlag) != 0) = true ∧
      BitVec.ofInt 32 ((CRUISE_RESIDENT_IMPORT_GRAPH_FLAG ||| mask : ℕ) : Int) &&& (kImportGraphFlag - 1) =
        BitVec.ofNat 32 mask ∧
      (BitVec.ofInt 32 ((CRUISE_RESIDENT_IMPORT_GRAPH_FLAG ||| mask : ℕ) : Int) &&&
        ~~~(kImportGraphFlag ||| 0xF)).toInt = 0 := by
  interval_cases mask <;> decide

theorem controlWords_range (hm : 1 ≤ max_steps ∧ max_steps ≤ kMaxEpochSteps) (hmask : source.import_mask < 16) (i : ℕ) :
    Field.i.InRange ((controlWords source rin max_steps).getD i 0) := by
  have h0 : Field.i.InRange 0 := by decide
  have hsteps : Field.i.InRange max_steps := (small_range (by omega) (by simp only [kMaxEpochSteps] at hm; omega)).1
  have hflag : Field.i.InRange
      (if source.importing then ((CRUISE_RESIDENT_IMPORT_GRAPH_FLAG ||| source.import_mask : ℕ) : Int) else 0) := by
    split_ifs
    · exact (graphWord_bits _ hmask).1
    · exact h0
  have hall : ∀ v ∈ controlWords source rin max_steps, Field.i.InRange v := by
    rw [controlWords_eq]
    simp only [List.forall_mem_cons, List.not_mem_nil, false_implies, implies_true, and_true]
    exact ⟨hsteps, requestEos_range rin 0, requestEos_range rin 1, requestEos_range rin 2, requestEos_range rin 3, h0,
      hflag, int32_range _, int32_range _, int32_range _, int32_range _⟩
  rw [List.getD_eq_getElem?_getD]
  rcases h : (controlWords source rin max_steps)[i]? with _ | v
  · exact h0
  · exact hall v (List.mem_of_getElem? h)

/-- the control words as the UDF reads them -/
theorem fed_control (hm : 1 ≤ max_steps ∧ max_steps ≤ kMaxEpochSteps) (hmask : source.import_mask < 16) (i : ℕ) :
    arrayLoad .i (arrayOf .i fun i => (controlWords source rin max_steps).getD i 0) i =
      (controlWords source rin max_steps).getD i 0 :=
  arrayLoad_arrayOf .i (controlWords_range source rin max_steps hm hmask i)

end Control

/-! ## The three modes -/

section Decoded

variable (size : ℕ) (data : Mem) {shape : List ℕ} {elements : ℕ} (h : shape.prod = elements)

include h

theorem int64Data_make : int64Data (makeTensor size data shape .DT_INT64).flowMsg elements = some (arrayLoad .q data) := by
  simp [int64Data, tensorData, GeTensor.flowMsg, makeTensor, TensorData.dtype, h]

theorem int32Data_make : int32Data (makeTensor size data shape .DT_INT32).flowMsg elements = some (arrayLoad .i data) := by
  simp [int32Data, tensorData, GeTensor.flowMsg, makeTensor, TensorData.dtype, h]

theorem uint8Data_make : uint8Data (makeTensor size data shape .DT_UINT8).flowMsg elements = some data := by
  simp [uint8Data, tensorData, GeTensor.flowMsg, makeTensor, TensorData.dtype, h]

end Decoded

/-! ### The input map -/

section InputMap

variable {plat : Platform} {m0 m1 m2 m3 m4 m5 m6 m7 : Option FlowMsg}
  {control token position length active block_table : ℕ → Int} {tiling : Mem}

/-- inputs 0 to 6 of a plain call -/
theorem readInputs_plain (ho : plat.alloc_outputs = true) {slot : ℕ → Int}
    (h7 : int32Data m7 kControlInputElements = some control)
    (hflag : (BitVec.ofInt 32 (control 6) &&& kImportGraphFlag != 0) = false)
    (h0 : int64Data m0 4 = some token) (h1 : int64Data m1 4 = some position) (h2 : int32Data m2 4 = some length)
    (h3 : int32Data m3 4 = some slot) (h4 : int32Data m4 4 = some active)
    (h5 : int32Data m5 (4 * kBlocksPerRequest) = some block_table) (h6 : uint8Data m6 72 = some tiling) :
    readInputs plat [m0, m1, m2, m3, m4, m5, m6, m7] = some {
      max_steps := control 0
      eos := fun r => control (1 + r)
      sampling_mode := control (1 + 4)
      graph_variant := control (2 + 4)
      importing := false
      import_mask := 0
      row_generation := fun r => control (kControlGenerationInputOffset + r)
      token := fun r => token r
      position := fun r => position r
      length := fun r => length r
      slot := fun r => slot r
      active := fun r => active r
      block_table, tiling
      payload := fun _ => 0 } := by
  simp only [readInputs, kInputCount, List.length_cons, List.length_nil, Nat.reduceAdd, ne_eq, not_true_eq_false,
    if_false, ho, Bool.not_true, Bool.false_eq_true, List.getElem?_cons_succ, List.getElem?_cons_zero, Option.join_some,
    h0, h1, h2, h3, h4, h5, h6, h7, hflag]

/-- the shifted inputs of an import; its slots are computed -/
theorem readInputs_import (ho : plat.alloc_outputs = true) (hs : plat.alloc_slot = true) {payload : Mem}
    (h7 : int32Data m7 kControlInputElements = some control)
    (hflag : (BitVec.ofInt 32 (control 6) &&& kImportGraphFlag != 0) = true)
    (h0 : uint8Data m0 kImportPayloadElements = some payload) (h1 : int64Data m1 4 = some token)
    (h2 : int64Data m2 4 = some position) (h3 : int32Data m3 4 = some length) (h4 : int32Data m4 4 = some active)
    (h5 : int32Data m5 (4 * kBlocksPerRequest) = some block_table) (h6 : uint8Data m6 72 = some tiling) :
    readInputs plat [m0, m1, m2, m3, m4, m5, m6, m7] = some {
      max_steps := control 0
      eos := fun r => control (1 + r)
      sampling_mode := control (1 + 4)
      graph_variant := (BitVec.ofInt 32 (control (2 + 4)) &&& ~~~(kImportGraphFlag ||| 0xF)).toInt
      importing := true
      import_mask := BitVec.ofInt 32 (control (2 + 4)) &&& (kImportGraphFlag - 1)
      row_generation := fun r => control (kControlGenerationInputOffset + r)
      token := fun r => token r
      position := fun r => position r
      length := fun r => length r
      slot := fun r => computeSlot block_table r (position r)
      active := fun r => active r
      block_table, tiling, payload } := by
  simp only [readInputs, kInputCount, List.length_cons, List.length_nil, Nat.reduceAdd, ne_eq, not_true_eq_false,
    if_false, ho, Bool.not_true, Bool.false_eq_true, List.getElem?_cons_succ, List.getElem?_cons_zero, Option.join_some,
    if_true, hs, h0, h1, h2, h3, h4, h5, h6, h7, hflag, Fin.is_lt, dite_true, Fin.eta]

end InputMap

/-! ### What is fed -/

section Fed

variable (source : ImportSource) (rin : RowInputs) (max_steps : Int)

/-- the control words, by what they stand for -/
theorem controlWords_get : (controlWords source rin max_steps).getD 0 0 = max_steps ∧
    (fun r : Row => (controlWords source rin max_steps).getD (1 + r) 0) = requestEos rin ∧
    (controlWords source rin max_steps).getD (1 + 4) 0 = 0 ∧
    ((controlWords source rin max_steps).getD (2 + 4) 0 =
      if source.importing then ((CRUISE_RESIDENT_IMPORT_GRAPH_FLAG ||| source.import_mask : ℕ) : Int) else 0) ∧
    (fun r : Row => (controlWords source rin max_steps).getD (kControlGenerationInputOffset + r) 0) =
      fun r => (rin.row_generations r).toInt := by
  rw [controlWords_eq]
  refine ⟨rfl, ?_, rfl, rfl, ?_⟩
  · funext r
    fin_cases r <;> rfl
  · funext r
    fin_cases r <;> rfl

variable {max_steps} (hm : 1 ≤ max_steps ∧ max_steps ≤ kMaxEpochSteps) (hmask : source.import_mask < 16)

include hm hmask

theorem control_data : int32Data (makeTensor (4 * (controlWords source rin max_steps).length)
    (arrayOf .i fun i => (controlWords source rin max_steps).getD i 0) [kControlInputElements] .DT_INT32).flowMsg
    kControlInputElements = some fun i => (controlWords source rin max_steps).getD i 0 := by
  have hcontrol := funext (fed_control source rin max_steps hm hmask)
  rw [int32Data_make _ _ (show [kControlInputElements].prod = kControlInputElements from rfl), hcontrol]

variable {plat : Platform} (ho : plat.alloc_outputs = true)

include ho

/-- an import, whatever its payload -/
theorem import_inputs (hs : plat.alloc_slot = true) (sizes : Fin 7 → ℕ) (buffers : Fin 7 → Mem)
    (himport : source.importing = true) (payload : Mem) (size : ℕ) : readInputs plat
      [(makeTensor size payload [CRUISE_RESIDENT_IMPORT_PAYLOAD_BYTES] .DT_UINT8).flowMsg,
        (makeTensor (sizes 1) (buffers 1) [4, 1] .DT_INT64).flowMsg,
        (makeTensor (sizes 2) (buffers 2) [4] .DT_INT64).flowMsg,
        (makeTensor (sizes 3) (buffers 3) [4, 1] .DT_INT32).flowMsg,
        (makeTensor (sizes 4) (buffers 4) [4] .DT_INT32).flowMsg,
        (makeTensor (sizes 5) (buffers 5) [4, 2] .DT_INT32).flowMsg,
        (makeTensor (sizes 6) (buffers 6) [72] .DT_UINT8).flowMsg,
        (makeTensor (4 * (controlWords source rin max_steps).length)
          (arrayOf .i fun i => (controlWords source rin max_steps).getD i 0) [kControlInputElements] .DT_INT32).flowMsg] =
      some {
        max_steps, eos := requestEos rin, sampling_mode := 0, graph_variant := 0, importing := true
        import_mask := BitVec.ofNat 32 source.import_mask
        row_generation := fun r => (rin.row_generations r).toInt
        token := fun r => arrayLoad .q (buffers 1) r.val
        position := fun r => arrayLoad .q (buffers 2) r.val
        length := fun r => arrayLoad .i (buffers 3) r.val
        slot := fun r => computeSlot (arrayLoad .i (buffers 5)) r (arrayLoad .q (buffers 2) r.val)
        active := fun r => arrayLoad .i (buffers 4) r.val
        block_table := arrayLoad .i (buffers 5)
        tiling := buffers 6, payload } := by
  obtain ⟨hsteps, heos, hmode, hgraph, hgen⟩ := controlWords_get source rin max_steps
  obtain ⟨-, hbit, hmaskbits, hvariant⟩ := graphWord_bits source.import_mask hmask
  rw [himport, if_pos rfl] at hgraph
  rw [readInputs_import ho hs (control_data source rin hm hmask) (by rw [hgraph]; exact hbit)
    (uint8Data_make _ _ (by decide)) (int64Data_make _ _ rfl) (int64Data_make _ _ rfl) (int32Data_make _ _ rfl)
    (int32Data_make _ _ rfl) (int32Data_make _ _ rfl) (uint8Data_make _ _ rfl)]
  simp only [hsteps, hmode, hgraph, heos, hgen, hvariant, hmaskbits]

end Fed

/-- what the UDF reads through its input map, whatever the sizes of the buffers -/
theorem readInputs_feed (plat : Platform) (ho : plat.alloc_outputs = true) (hs : plat.alloc_slot = true)
    (source : ImportSource) (sizes : Fin 7 → ℕ) (buffers : Fin 7 → Mem) (rin : RowInputs) (max_steps : Int)
    (hm : 1 ≤ max_steps ∧ max_steps ≤ kMaxEpochSteps) (hmask : source.import_mask < 16) :
    ∃ inp, readInputs plat
        ((feedTensors source sizes buffers (controlWords source rin max_steps)).map GeTensor.flowMsg) = some inp ∧
      (inp.token = fun r => arrayLoad .q (buffers (tokensAt source.importing)) r.val) ∧
      (inp.position = fun r => arrayLoad .q (buffers (positionsAt source.importing)) r.val) ∧
      (inp.length = fun r => arrayLoad .i (buffers (lengthsAt source.importing)) r.val) ∧
      (inp.active = fun r => arrayLoad .i (buffers 4) r.val) ∧ inp.block_table = arrayLoad .i (buffers 5) ∧
      inp.max_steps = max_steps ∧ inp.eos = requestEos rin ∧ inp.sampling_mode = 0 ∧ inp.graph_variant = 0 ∧
      inp.importing = source.importing ∧ inp.import_mask = BitVec.ofNat 32 source.import_mask ∧
      (inp.row_generation = fun r => (rin.row_generations r).toInt) ∧
      inp.slot = (if source.importing then fun r => computeSlot inp.block_table r (inp.position r)
        else fun r => arrayLoad .i (buffers 3) r.val) := by
  simp only [feedTensors, List.map_append, List.map_cons, List.map_nil]
  cases source with
  | none =>
    obtain ⟨hsteps, heos, hmode, hgraph, hgen⟩ := controlWords_get .none rin max_steps
    simp only [List.map_cons, List.map_nil, List.cons_append, List.nil_append, ImportSource.importing, tokensAt,
      positionsAt, lengthsAt, Bool.false_eq_true, if_false]
    have hflag : (BitVec.ofInt 32 ((controlWords .none rin max_steps).getD (2 + 4) 0) &&& kImportGraphFlag != 0) = false := by
      rw [hgraph]; rfl
    refine ⟨_, readInputs_plain ho (control_data .none rin hm hmask) hflag (int64Data_make _ _ rfl)
      (int64Data_make _ _ rfl) (int32Data_make _ _ rfl) (int32Data_make _ _ rfl) (int32Data_make _ _ rfl)
      (int32Data_make _ _ rfl) (uint8Data_make _ _ rfl), ?_⟩
    dsimp only
    exact ⟨rfl, rfl, rfl, rfl, rfl, hsteps, heos, hmode, hgraph, rfl, rfl, hgen, rfl⟩
  | file payload mask checksum =>
    simp only [List.map_cons, List.map_nil, List.cons_append, List.nil_append, ImportSource.importing, tokensAt,
      positionsAt, lengthsAt, if_true]
    refine ⟨_, import_inputs (.file payload mask checksum) rin hm hmask ho hs sizes buffers rfl (buffers 0) (sizes 0), ?_⟩
    dsimp only
    exact ⟨rfl, rfl, rfl, rfl, rfl, rfl, rfl, rfl, rfl, rfl, rfl, rfl, rfl⟩
  | device payload mask =>
    simp only [List.map_cons, List.map_nil, List.cons_append, List.nil_append, ImportSource.importing, tokensAt,
      positionsAt, lengthsAt, if_true]
    refine ⟨_, import_inputs (.device payload mask) rin hm hmask ho hs sizes buffers rfl payload
      CRUISE_RESIDENT_IMPORT_PAYLOAD_BYTES, ?_⟩
    dsimp only
    exact ⟨rfl, rfl, rfl, rfl, rfl, rfl, rfl, rfl, rfl, rfl, rfl, rfl, rfl⟩

/-! ### Sizes -/

theorem rowWrites_ok {importing : Bool} {rin : RowInputs} {max_steps request_count : Int} {writes : List (Write (Fin 7))}
    (h : rowWrites importing rin max_steps request_count = .ok writes) :
    (∀ r, rin.row_generations r ≠ 0 → rowAccepted rin max_steps r = true) ∧ activeCount rin = request_count ∧
      writes = rowLoops importing rin := by
  unfold rowWrites at h
  by_cases h1 : (rows.any fun r => rin.row_generations r ≠ 0 && !rowAccepted rin max_steps r) = true
  · rw [if_pos h1] at h
    cases h
  · rw [if_neg h1] at h
    by_cases h2 : (activeCount rin : Int) = request_count
    · rw [if_neg (not_not.2 h2)] at h
      refine ⟨fun r hr => ?_, h2, (Except.ok.inj h).symm⟩
      by_contra hacc
      exact h1 (List.any_eq_true.2 ⟨r, mem_rows r, by simp [hr, hacc]⟩)
    · rw [if_pos h2] at h
      cases h

/-- which calls reach Feed, with what, and what becomes of them -/
theorem fed_call {env : BridgeEnv} {engine : Option Engine} {args : Args} {out : Outputs} {call : FeedCall}
    (h : (residentEpochExecute env engine args out).fed = some call) :
    ∃ eng eng' rin source, engine = some eng ∧ checkArgs args = some rin ∧
      loadImport env eng args rin = (eng', .ok source) ∧
      rowWrites source.importing rin args.max_steps.toInt args.request_count.toInt =
        .ok (rowLoops source.importing rin) ∧
      call = feedCall eng'.tiling source rin args.max_steps.toInt (rowLoops source.importing rin) ∧
      ∃ out', (residentEpochExecute env engine args out).ret = (runEpoch env source args.max_steps.toInt call out').1 ∧
        (residentEpochExecute env engine args out).outputs = (runEpoch env source args.max_steps.toInt call out').2 := by
  unfold residentEpochExecute at h ⊢
  split_ifs at h ⊢
  cases engine with
  | none => cases h
  | some eng =>
    cases hrin : checkArgs args with
    | none => simp only [hrin] at h; cases h
    | some rin =>
      simp only [hrin] at h ⊢
      rcases hload : loadImport env eng args rin with ⟨eng', status | source⟩
      · simp only [hload] at h; cases h
      · simp only [hload] at h ⊢
        rcases hw : rowWrites source.importing rin args.max_steps.toInt args.request_count.toInt with status | writes
        · simp only [hw] at h; cases h
        · obtain rfl := (rowWrites_ok hw).2.2
          simp only [hw] at h ⊢
          obtain rfl := (Option.some.inj h).symm
          exact ⟨eng, eng', rin, source, rfl, rfl, hload, hw, rfl, _, rfl, rfl⟩

theorem checkArgs_steps {args : Args} {rin : RowInputs} (h : checkArgs args = some rin) :
    1 ≤ args.max_steps.toInt ∧ args.max_steps.toInt ≤ kMaxEpochSteps := by
  unfold checkArgs at h
  split at h
  · simp only at h
    split_ifs at h with hc
    simp only [not_or, not_lt] at hc
    exact ⟨hc.2.2.1, hc.2.2.2.1⟩
  · cases h

theorem validateIpcMetadata_mask {m : IpcMetadata} {gens : Row → Int32} (h : validateIpcMetadata m gens = true) :
    m.import_mask.toNat < 16 := by
  unfold validateIpcMetadata at h
  split_ifs at h with hbad
  have hlt := (not_or.1 (not_or.1 (not_or.1 (not_or.1 hbad).2).2).2).2
  rw [ge_iff_le, UInt32.le_iff_toNat_le] at hlt
  exact not_le.1 hlt

theorem readTransfer_mask {env : BridgeEnv} {path : String} {transfer_id : UInt64} {gens : Row → Int32} {payload : Mem}
    {mask checksum : ℕ} (h : readTransfer env path transfer_id gens = some (payload, mask, checksum)) : mask < 16 := by
  unfold readTransfer at h
  split_ifs at h
  cases hf : env.file path with
  | none => simp [hf] at h
  | some file =>
    simp only [hf] at h
    split_ifs at h with hbad hrow
    simp only [not_or, not_le] at hbad
    obtain ⟨-, rfl, -⟩ := Option.some.inj h
    omega

theorem loadImport_mask {env : BridgeEnv} {eng eng' : Engine} {args : Args} {rin : RowInputs} {source : ImportSource}
    (h : loadImport env eng args rin = (eng', .ok source)) :
    source.import_mask < 16 ∧ ((∃ payload mask, source = .device payload mask) ↔ args.ipc_metadata ≠ none) := by
  unfold loadImport at h
  cases hm : args.ipc_metadata with
  | some m =>
    simp only [hm] at h
    by_cases hv : validateIpcMetadata m rin.row_generations = false
    · rw [if_pos hv] at h
      cases h
    · rw [if_neg hv] at h
      rcases hp : prepareDeviceIpcPayload env eng m with ⟨eng1, _ | payload⟩
      · simp only [hp] at h
        cases h
      · simp only [hp] at h
        cases h
        exact ⟨validateIpcMetadata_mask (by simpa using hv), iff_of_true ⟨payload, _, rfl⟩ (by simp)⟩
  | none =>
    cases hp : args.transfer_path with
    | none =>
      simp only [hm, hp] at h
      cases h
      exact ⟨by decide, by simp⟩
    | some path =>
      simp only [hm, hp] at h
      rcases hr : readTransfer env path args.transfer_id rin.row_generations with _ | ⟨payload, mask, checksum⟩
      · simp only [hr] at h
        cases h
      · simp only [hr] at h
        cases h
        exact ⟨readTransfer_mask hr, by simp⟩

/-! ## Which modes are faithful -/

theorem storeRow_inside (importing : Bool) (sizes : Fin 7 → ℕ) (ht : sizes (tokensAt importing) = 32)
    (hp : sizes (positionsAt importing) = 32) (hl : sizes (lengthsAt importing) = 16)
    (hs : importing = false → sizes 3 = 16) (ha : sizes 4 = 16) (r : Row) (token position length active : Int) :
    ∀ w ∈ storeRow importing r token position length active, w.Inside sizes := by
  have hr : r.val < 4 := r.isLt
  intro w hw
  simp only [storeRow, List.mem_append, List.mem_cons, List.not_mem_nil, or_false] at hw
  rcases hw with ((rfl | rfl | rfl) | hw) | rfl
  · simp only [Write.Inside, ht, Field.q]; omega
  · simp only [Write.Inside, hp, Field.q]; omega
  · simp only [Write.Inside, hl, Field.i]; omega
  · split_ifs at hw with hi
    · cases hw
    · rw [List.mem_singleton] at hw
      subst hw
      simp only [Write.Inside, hs (by simpa using hi), Field.i]
      omega
  · simp only [Write.Inside, ha, Field.i]; omega

/-- the row loops of a plain or transfer-file call stay inside their buffers -/
theorem rowLoops_inside (source : ImportSource) (rin : RowInputs)
    (h : ¬ ∃ payload mask, source = .device payload mask) :
    ∀ w ∈ rowLoops source.importing rin, w.Inside (bufferBytes source) := by
  have hstore (r : Row) (token position length active : Int) :
      ∀ w ∈ storeRow source.importing r token position length active, w.Inside (bufferBytes source) := by
    cases source with
    | none => exact storeRow_inside _ _ rfl rfl rfl (fun _ => rfl) rfl r token position length active
    | file payload mask checksum =>
      exact storeRow_inside _ _ rfl rfl rfl (fun h => by cases h) rfl r token position length active
    | device payload mask => exact absurd ⟨payload, mask, rfl⟩ h
  have h5 : bufferBytes source 5 = 32 := by cases source <;> rfl
  intro w hw
  rcases List.mem_append.1 hw with hw | hw
  · obtain ⟨r, -, hw⟩ := List.mem_flatMap.1 hw
    have hr : r.val < 4 := r.isLt
    rcases List.mem_append.1 hw with hw | hw
    · simp only [List.mem_cons, List.not_mem_nil, or_false] at hw
      rcases hw with rfl | rfl <;> simp only [Write.Inside, h5, Field.i, kBlocksPerRequest] <;> omega
    · exact hstore r _ _ _ _ w hw
  · obtain ⟨r, -, hw⟩ := List.mem_flatMap.1 hw
    unfold fillRow at hw
    split_ifs at hw
    · cases hw
    · exact hstore r _ _ _ _ w hw

theorem bytesTensor_bytes (n : ℕ) (data : Mem) : (makeTensor n data [n] .DT_UINT8).size =
    (makeTensor n data [n] .DT_UINT8).shape.prod * dtypeBytes (makeTensor n data [n] .DT_UINT8).dtype := by
  simp only [makeTensor, dtypeBytes, List.prod_singleton, Nat.mul_one]

/-- every tensor of a plain or transfer-file call has the bytes of its shape -/
theorem feedTensors_bytes (source : ImportSource) (rin : RowInputs) (max_steps : Int) (buffers : Fin 7 → Mem)
    (h : ¬ ∃ payload mask, source = .device payload mask) :
    ∀ t ∈ feedTensors source (bufferBytes source) buffers (controlWords source rin max_steps),
      t.size = t.shape.prod * dtypeBytes t.dtype := by
  have hlen : (controlWords source rin max_steps).length = kControlInputElements := by rw [controlWords_eq]; rfl
  intro t ht
  simp only [feedTensors, hlen] at ht
  rcases List.mem_append.1 ht with ht | ht
  · cases source with
    | none =>
      simp only [List.mem_cons, List.not_mem_nil, or_false] at ht
      rcases ht with rfl | rfl | rfl | rfl | rfl | rfl | rfl <;> rfl
    | file payload mask checksum =>
      simp only [List.mem_cons, List.not_mem_nil, or_false] at ht
      rcases ht with rfl | rfl | rfl | rfl | rfl | rfl | rfl
      · exact bytesTensor_bytes CRUISE_RESIDENT_IMPORT_PAYLOAD_BYTES (buffers 0)
      all_goals rfl
    | device payload mask => exact absurd ⟨payload, mask, rfl⟩ h
  · rw [List.mem_singleton] at ht
    subst ht
    rfl

/-- the positions of a direct Device import are stored into, and pushed as, 16 bytes -/
theorem device_feed_short (tiling payload : Mem) (mask : ℕ) (rin : RowInputs) (max_steps : Int) (importing : Bool)
    (import_mask : ℕ) : ¬ FeedFaithful (feedCall tiling (.device payload mask) rin max_steps (rowLoops true rin)) rin
      max_steps importing import_mask := by
  intro h
  have hmem : makeTensor 16 (applyWrites (startBuffers (.device payload mask)) (rowLoops true rin) 2) [4] .DT_INT64 ∈
      (feedCall tiling (.device payload mask) rin max_steps (rowLoops true rin)).inputs :=
    List.mem_append_left _ (List.mem_cons_of_mem _ (List.mem_cons_of_mem _ List.mem_cons_self))
  have hbytes : 16 = [4].prod * 8 := h.bytes _ hmem
  exact absurd hbytes (by decide)

/-- what the UDF reads of a faithful mode's tensors -/
theorem feedCall_reads (tiling : Mem) (source : ImportSource) (rin : RowInputs) (max_steps : Int)
    (hm : 1 ≤ max_steps ∧ max_steps ≤ kMaxEpochSteps) (hmask : source.import_mask < 16) (plat : Platform)
    (ho : plat.alloc_outputs = true) (hs : plat.alloc_slot = true) : ∃ inp,
      readInputs plat ((feedCall tiling source rin max_steps (rowLoops source.importing rin)).inputs.map
        GeTensor.flowMsg) = some inp ∧
      ReadsRequest rin max_steps source.importing source.import_mask inp ∧
      ∀ r, inp.slot r = if source.importing then computeSlot inp.block_table r (inp.position r)
        else bridgeSlot r (inp.position r) := by
  obtain ⟨inp, hread, htok, hpos, hlen, hact, htab, hsteps, heos, hmode, hvar, himp, hmasked, hgen, hslot⟩ :=
    readInputs_feed plat ho hs source (bufferBytes source)
      (Function.update (applyWrites (startBuffers source) (rowLoops source.importing rin)) 6 tiling) rin max_steps hm hmask
  have hne (b : Fin 7) (hb : b ≠ 6) : Function.update (applyWrites (startBuffers source) (rowLoops source.importing rin))
      6 tiling b = applyWrites (startBuffers source) (rowLoops source.importing rin) b := Function.update_of_ne hb _ _
  rw [hne _ (by generalize source.importing = b; cases b <;> decide)] at htok hpos hlen
  rw [hne _ (by decide)] at hact htab
  have hposition (r : Row) : inp.position r = requestPosition rin r := by
    rw [hpos]
    exact fed_position source.importing rin _ r
  refine ⟨inp, hread, ⟨fun r => ?_, hposition, fun r => ?_, fun r => ?_, fun i hi => ?_, hsteps, fun r => ?_, hmode, hvar,
    himp, hmasked, fun r => ?_⟩, fun r => ?_⟩
  · rw [htok]
    exact fed_token source.importing rin _ r
  · rw [hlen]
    exact fed_length source.importing rin _ r
  · rw [hact]
    exact fed_active source.importing rin _ r
  · rw [htab]
    exact fed_block source.importing rin _ hi
  · rw [heos]
  · rw [hgen]
  · rw [hslot]
    cases himporting : source.importing with
    | true => rfl
    | false =>
      rw [himporting] at hne
      rw [if_neg Bool.false_ne_true, if_neg Bool.false_ne_true, hne _ (by decide), hposition]
      exact fed_slot rin _ r

theorem feedCall_faithful (tiling : Mem) (source : ImportSource) (rin : RowInputs) (max_steps : Int)
    (hm : 1 ≤ max_steps ∧ max_steps ≤ kMaxEpochSteps) (hmask : source.import_mask < 16)
    (h : ¬ ∃ payload mask, source = .device payload mask) :
    FeedFaithful (feedCall tiling source rin max_steps (rowLoops source.importing rin)) rin max_steps source.importing
      source.import_mask := by
  refine ⟨rowLoops_inside source rin h, feedTensors_bytes source rin max_steps _ h, fun plat ho hs => ?_⟩
  obtain ⟨inp, hread, hreads, -⟩ := feedCall_reads tiling source rin max_steps hm hmask plat ho hs
  exact ⟨inp, hread, hreads⟩

/-- **The feed modes.** A call that reaches Feed delivers its request's rows, from stores inside their buffers and
tensors of the right size, exactly when it is not a direct Device import. -/
theorem feed_faithful_iff (env : BridgeEnv) (engine : Option Engine) (args : Args) (out : Outputs) (call : FeedCall)
    (h : (residentEpochExecute env engine args out).fed = some call) :
    ∃ eng eng' rin source, engine = some eng ∧ checkArgs args = some rin ∧
      loadImport env eng args rin = (eng', .ok source) ∧
      (FeedFaithful call rin args.max_steps.toInt source.importing source.import_mask ↔ args.ipc_metadata = none) := by
  obtain ⟨eng, eng', rin, source, heng, hrin, hload, -, rfl, -⟩ := fed_call h
  obtain ⟨hmask, hdevice⟩ := loadImport_mask hload
  refine ⟨eng, eng', rin, source, heng, hrin, hload, fun hf => ?_, fun hnone => ?_⟩
  · by_contra hsome
    obtain ⟨payload, mask, rfl⟩ := hdevice.2 hsome
    exact device_feed_short _ payload mask rin _ _ _ hf
  · exact feedCall_faithful _ source rin _ (checkArgs_steps hrin) hmask fun hd => hdevice.1 hd hnone

/-! ### Two calls -/

/-- every outside call succeeds; the session answers nothing -/
def BridgeEnv.plain : BridgeEnv where
  file := fun _ => none
  aclrtMalloc := some fun _ => 0
  aclrtMemset := true
  aclrtIpcMemImportByKey := fun _ => some 1
  ipc_memory := fun _ _ => 7
  aclrtMemcpy := fun _ _ _ => true
  feed := fun _ => 0
  fetch := fun _ => (0, [])
  wall_us := 0
  cpu_start := 0
  cpu_end := 0

def Engine.plain : Engine := ⟨fun _ => 0, none, []⟩

/-- one request on row 3 -/
def lastRowArgs : Args where
  has_commit_state := true
  has_outputs := true
  request_count := 1
  max_steps := 1
  input_token_ids := some ![0, 0, 0, 11]
  input_positions := some ![0, 0, 0, 3]
  input_sequence_lengths := some ![0, 0, 0, 4]
  input_eos_token_ids := some ![9, 9, 9, 9]
  input_row_generations := some ![0, 0, 0, 1]
  transfer_path := none
  transfer_id := 0
  ipc_metadata := none

/-- the same request, imported from one exported allocation -/
def lastRowImport : Args :=
  { lastRowArgs with
    transfer_id := 1
    ipc_metadata := some {
      magic := CRUISE_RESIDENT_IPC_METADATA_MAGIC
      version := CRUISE_RESIDENT_IPC_METADATA_VERSION
      import_mask := 8
      source_bytes := 1048576
      row_generations := ![0, 0, 0, 1]
      block_ids := fun _ => 0
      source_offsets := fun _ => 0
      keys := fun _ i => if i = 0 then 107 else 0 } }

def Outputs.zero : Outputs := ⟨fun _ => 0, fun _ => 0, fun _ => 0, 0, 0, 0, 0, 0, 0, 0, 0, 0, 0⟩

theorem feed_faithful_last_row : ∃ call, (residentEpochExecute .plain (some .plain) lastRowArgs .zero).fed = some call ∧
    ∃ eng eng' rin source, some Engine.plain = some eng ∧ checkArgs lastRowArgs = some rin ∧
      loadImport .plain eng lastRowArgs rin = (eng', .ok source) ∧
      (FeedFaithful call rin lastRowArgs.max_steps.toInt source.importing source.import_mask ↔
        lastRowArgs.ipc_metadata = none) := by
  have hfed : (residentEpochExecute .plain (some .plain) lastRowArgs .zero).fed.isSome = true := by decide +kernel
  obtain ⟨call, hcall⟩ := Option.isSome_iff_exists.1 hfed
  exact ⟨call, hcall, feed_faithful_iff .plain (some .plain) lastRowArgs .zero call hcall⟩

/-- **A direct Device import overflows.** The call on row 3 reaches Feed, and what it feeds is not the request. -/
theorem device_import_overflows :
    ¬ ∀ (env : BridgeEnv) (engine : Option Engine) (args : Args) (out : Outputs) (call : FeedCall) (eng eng' : Engine)
      (rin : RowInputs) (source : ImportSource), (residentEpochExecute env engine args out).fed = some call →
      engine = some eng → checkArgs args = some rin → loadImport env eng args rin = (eng', .ok source) →
      FeedFaithful call rin args.max_steps.toInt source.importing source.import_mask := by
  intro h
  have hfed : (residentEpochExecute .plain (some .plain) lastRowImport .zero).fed.isSome = true := by decide +kernel
  obtain ⟨call, hcall⟩ := Option.isSome_iff_exists.1 hfed
  obtain ⟨eng, eng', rin, source, heng, hrin, hload, -, rfl, -⟩ := fed_call hcall
  obtain ⟨payload, mask, rfl⟩ := (loadImport_mask hload).2.2 (by decide)
  exact device_feed_short _ payload mask rin _ _ _ (h _ _ _ _ _ eng eng' rin _ hcall heng hrin hload)

end Cruise.Native
