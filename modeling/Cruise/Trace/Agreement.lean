/-
The summarizer and the verifier agree.

The two read a trace, class its calls and sum up its windows each with code of its own.
- `readTrace_agrees`: one reads a trace exactly if the other does, and reads the same calls.
- `readFiltered_written`: the verifier reads back the filtered file that the summarizer writes.
- `recomputeTransferBlock_ok_iff`: what the verifier accepts, in the summarizer's terms.
- `transfer_agreement`: **what is observed is accepted, what is accepted is what is computed, and every record is counted once**.
-/
import Cruise.Trace.Verifier
import Cruise.Trace.Windows

namespace Cruise.Trace

open Cruise.Lib
open Summarizer (Window contained dataflowObserved sampleSummary filteredText blockSummary summarizeBlock loadWindows WindowOf
  Separate asInt readJson recordsOf ROUTES)
open Verifier (recomputeSample recomputed reportedSample reports openHashed require required recomputeTransferBlock)

/-! ## Reading -/

theorem parseRow_reads {line : ℕ} {row : List (List Char)} {call : Call} :
    Verifier.parseRow line row = .ok call ↔ Summarizer.ReadsAs row call := by
  unfold Verifier.parseRow
  dsimp only
  rw [show Verifier.TRACE_APIS = Summarizer.TRACE_APIS from rfl]
  constructor
  · intro h
    split at h
    · cases h
    · rename_i hapi
      split at h
      · rename_i hnumbers
        simp only [except_bind_ok, Verifier.require_ok, decide_eq_true_eq] at h
        obtain ⟨-, htimes, -, hbytes, h⟩ := h
        cases h
        exact ⟨hapi, hnumbers, ⟨htimes.1, htimes.2, hbytes.1, hbytes.2⟩⟩
      · cases h
  · rintro ⟨hapi, hnumbers, haccepted⟩
    rw [hapi, hnumbers]
    simp only [except_bind_ok, Verifier.require_ok, decide_eq_true_eq]
    exact ⟨(), ⟨haccepted.start_ns, haccepted.end_ns⟩, (), ⟨haccepted.bytes, haccepted.dest_max⟩, trivial⟩

theorem dictRows_ok_iff {fields : List String} {message : String} {content : Bytes} {rows : List (List (List Char))}
    {raises : Bool} (hfields : fields ≠ []) : Verifier.dictRows fields message content = .ok (rows, raises) ↔
      ∃ text, decodeText content = some text ∧ (Csv.rows '\t' text).1.headD [] = fields.map String.toList ∧
        (Csv.rows '\t' text).2 = raises ∧ (Csv.rows '\t' text).1.tail.filter (· ≠ []) = rows := by
  unfold Verifier.dictRows
  simp only [except_bind_ok, Verifier.required_ok]
  refine exists_congr fun text => and_congr_right fun _ => ?_
  obtain ⟨read, ends⟩ := Csv.rows '\t' text
  split
  · rename_i hrows
    cases hrows
    refine iff_of_false (fun h => by cases h) fun h => hfields ?_
    exact List.map_eq_nil_iff.1 h.1.symm
  · rename_i hrows
    cases hrows
    simp only [except_bind_ok, Verifier.require_ok, decide_eq_true_eq, Except.ok.injEq, Prod.mk.injEq, exists_const]
    tauto

theorem readTrace_agrees {path : String} {content : Bytes} {calls : List Call} :
    Verifier.readTrace content = .ok calls ↔ Summarizer.readTrace path (some content) = .ok calls := by
  rw [Summarizer.readTrace_reads, Option.bind_some]
  unfold Verifier.readTrace
  simp only [except_bind_ok, Prod.exists]
  constructor
  · rintro ⟨rows, raises, hrows, read, hread, hend⟩
    obtain ⟨text, htext, hheader, rfl, rfl⟩ := (dictRows_ok_iff (by decide)).1 hrows
    split_ifs at hend with hraises
    cases hend
    exact ⟨text, htext, hheader, Bool.eq_false_of_not_eq_true hraises, (mapM_numbered fun _ _ _ => parseRow_reads).1 hread⟩
  · rintro ⟨text, htext, hheader, hraises, hread⟩
    exact ⟨_, false, (dictRows_ok_iff (by decide)).2 ⟨text, htext, hheader, hraises, rfl⟩, calls,
      (mapM_numbered fun _ _ _ => parseRow_reads).2 hread, rfl⟩

/-! ## The filtered file -/

theorem direction_agrees (api : Api) (kind : Int) :
    Verifier.direction api kind = ((Summarizer.direction api kind).map Direction.name).getD "" := by
  unfold Verifier.direction Summarizer.direction
  rw [show Verifier.DATAFLOW_API_DIRECTIONS = Summarizer.DATAFLOW_API_DIRECTIONS from rfl,
    show Verifier.RUNTIME_MEMCPY_APIS = Summarizer.RUNTIME_MEMCPY_APIS from rfl]
  cases Summarizer.DATAFLOW_API_DIRECTIONS.lookup api with
  | some d => rfl
  | none =>
    dsimp only
    split_ifs
    · rfl
    · rfl

theorem expectedFiltered_agrees (label : Block) (windows : List Window) (calls : List Call) :
    Verifier.expectedFiltered label windows calls = Summarizer.filteredRows label windows calls := by
  unfold Verifier.expectedFiltered Summarizer.filteredRows
  refine List.flatMap_congr fun entry _ => List.map_congr_left fun call _ => ?_
  unfold Summarizer.filteredRow
  rw [direction_agrees]
  rfl

theorem filteredRow_plain (label : Block) {sample_index : ℕ} (hindex : sample_index < 10 ^ 5) {call : Call} (h : call.Short) :
    Csv.PlainRow '\t' (Summarizer.filteredRow label sample_index call) := by
  have hlabel : Csv.PlainField '\t' label.label.toList := by
    cases label <;> exact ⟨by decide, by decide⟩
  have hsample : Csv.PlainField '\t' (decimal sample_index) :=
    decimal_plain ((decimal_length (by decide) hindex).trans (by decide))
  have htransport (t : Transport) : Csv.PlainField '\t' t.name.toList := by
    cases t <;> exact ⟨by decide, by decide⟩
  have hdirection (d : Option Direction) : Csv.PlainField '\t' ((d.map Direction.name).getD "").toList := by
    cases d with
    | none => exact ⟨by decide, by decide⟩
    | some d => cases d <;> exact ⟨by decide, by decide⟩
  refine ⟨by simp [Summarizer.filteredRow], fun field hfield => ?_⟩
  rcases List.mem_append.1 hfield with hfield | hfield
  · simp only [List.mem_cons, List.not_mem_nil, or_false] at hfield
    rcases hfield with rfl | rfl | rfl | rfl
    · exact hlabel
    · exact hsample
    · exact htransport _
    · exact hdirection _
  · exact h.plain field hfield

theorem normalizeFilteredRow_self (label : Block) (sample_index : ℕ) (call : Call) :
    Verifier.normalizeFilteredRow (Summarizer.filteredRow label sample_index call) =
      Summarizer.filteredRow label sample_index call := rfl

/-- **The filtered file is read back.** -/
theorem readFiltered_written (label : Block) {windows : List Window} {calls : List Call} (hwindows : windows.length ≤ 10 ^ 5)
    (h : ∀ call ∈ calls, call.Short) : Verifier.readFiltered label (encodeText (filteredText label windows calls)) =
      .ok (Verifier.expectedFiltered label windows calls) := by
  have hrow {row : List (List Char)} (hrow : row ∈ Summarizer.filteredRows label windows calls) :
      Csv.PlainRow '\t' row ∧ Verifier.normalizeFilteredRow row = row := by
    obtain ⟨⟨window, sample_index⟩, hentry, hrow⟩ := List.mem_flatMap.1 hrow
    obtain ⟨call, hcall, rfl⟩ := List.mem_map.1 hrow
    have hindex := (List.mem_zipIdx' hentry).1
    exact ⟨filteredRow_plain label (hindex.trans_le hwindows) (h call (List.mem_of_mem_filter hcall)),
      normalizeFilteredRow_self label sample_index call⟩
  have hheader : Csv.PlainRow '\t' (Summarizer.FILTERED_TRACE_FIELDS.map String.toList) := by
    have hall : ∀ field ∈ Summarizer.FILTERED_TRACE_FIELDS.map String.toList,
        Csv.needsQuotes '\t' field = false ∧ field.length ≤ 9 := by decide
    exact ⟨by decide, fun field hfield => ⟨(hall field hfield).1, (hall field hfield).2.trans (by decide)⟩⟩
  have hplain : ∀ row ∈ Summarizer.FILTERED_TRACE_FIELDS.map String.toList :: Summarizer.filteredRows label windows calls,
      Csv.PlainRow '\t' row := by
    intro row hmem
    rcases List.mem_cons.1 hmem with rfl | hmem
    · exact hheader
    · exact (hrow hmem).1
  have htext : filteredText label windows calls = (Summarizer.FILTERED_TRACE_FIELDS.map String.toList ::
      Summarizer.filteredRows label windows calls).flatMap fun row => Csv.joinFields '\t' row ++ ['\r', '\n'] :=
    List.flatMap_congr fun row hmem => (hplain row hmem).writeRow_eq
  have hread := Csv.rows_written tab_separates (Or.inr rfl) hplain
  rw [← htext] at hread
  have hnonempty : (Summarizer.filteredRows label windows calls).filter (· ≠ []) =
      Summarizer.filteredRows label windows calls := by
    refine List.filter_eq_self.2 fun row hmem => decide_eq_true fun hnil => ?_
    have htwo := (hrow hmem).1.two
    rw [hnil] at htwo
    exact absurd htwo (by decide)
  have hsame : (Summarizer.filteredRows label windows calls).map Verifier.normalizeFilteredRow =
      Summarizer.filteredRows label windows calls :=
    (List.map_congr_left fun row hmem => (hrow hmem).2).trans (List.map_id _)
  unfold Verifier.readFiltered
  rw [except_bind_ok]
  refine ⟨(Summarizer.filteredRows label windows calls, false), (dictRows_ok_iff (by decide)).2 ?_, ?_⟩
  · refine ⟨filteredText label windows calls, decodeText_encodeText _, ?_⟩
    rw [hread]
    exact ⟨rfl, rfl, hnonempty⟩
  · dsimp only
    rw [if_neg Bool.noConfusion, hsame, expectedFiltered_agrees]

/-! ## A sample -/

theorem expected_agrees (route : Route) (d : Direction) :
    Verifier.EXPECTED_TENSOR_BYTES route d = Summarizer.EXPECTED_TENSOR_BYTES route d := by
  cases route <;> cases d <;> rfl

theorem failures_eq_zero {rows : List Call} : Summarizer.failures rows = 0 ↔ rows.all (·.status = 0) = true := by
  unfold Summarizer.failures
  rw [List.countP_eq_zero, List.all_eq_true]
  simp only [decide_eq_true_eq, not_not, ne_eq]

/-- the verifier's checks of a payload, in their order -/
theorem dataflowObserved_iff (route : Route) (rows : List Call) : dataflowObserved route rows = true ↔
    (rows.filter (·.api = .feedDataFlowGraphTensor)).map Call.bytes = Verifier.EXPECTED_TENSOR_BYTES route .hostToDevice ∧
    (rows.filter (·.api = .fetchDataFlowGraphTensor)).map Call.bytes = Verifier.EXPECTED_TENSOR_BYTES route .deviceToHost ∧
    Verifier.callCount rows .feedDataFlowGraphTensor = 1 ∧ Verifier.callCount rows .fetchDataFlowGraphTensor = 1 ∧
    (rows.filter (·.api = .feedDataFlowGraphTensor) ++ rows.filter (·.api = .fetchDataFlowGraphTensor)).all (·.status = 0) =
      true := by
  unfold dataflowObserved
  rw [decide_eq_true_eq, failures_eq_zero, expected_agrees, expected_agrees]
  exact ⟨fun ⟨hfeed, hfetch, hsent, hreceived, hall⟩ => ⟨hsent, hreceived, hfeed, hfetch, hall⟩,
    fun ⟨hsent, hreceived, hfeed, hfetch, hall⟩ => ⟨hfeed, hfetch, hsent, hreceived, hall⟩⟩

/-- **The recomputed fields are the summary**, of a sample that is observed. -/
theorem recomputed_agrees {route : Route} {rows : List Call} (h : dataflowObserved route rows = true) (sample_index : ℕ)
    (window : Window) : sampleSummary route sample_index window rows = .obj (recomputed sample_index window rows) := by
  have hpayload := h
  unfold dataflowObserved at hpayload
  rw [decide_eq_true_eq] at hpayload
  obtain ⟨hfeed, hfetch, -, -, hfailures⟩ := hpayload
  unfold sampleSummary recomputed
  dsimp only
  rw [h, hfeed, hfetch, hfailures, if_pos rfl, List.map_map, List.map_map]
  rfl

/-- the verifier's window of a raw sample -/
structure RawWindow (raw_sample : Json) (window : Window) : Prop where
  start_ns : (raw_sample.get "epoch_wall_clock_start_ns").bind Json.toInt = some window.start_ns
  end_ns : (raw_sample.get "epoch_wall_clock_end_ns").bind Json.toInt = some window.end_ns
  positive : window.start_ns < window.end_ns

/-- **What the verifier accepts in a sample.** -/
theorem recomputeSample_ok_iff {label : Block} {route : Route} {transfer_block raw_sample : Json} {calls : List Call}
    {sample_index : ℕ} {window window' : Window} (h : RawWindow raw_sample window) :
    recomputeSample label route transfer_block calls raw_sample sample_index = .ok window' ↔ window' = window ∧
      dataflowObserved route (calls.filter (contained window)) = true ∧
      ∃ reported, reportedSample transfer_block sample_index = some reported ∧
        ∀ item ∈ recomputed sample_index window (calls.filter (contained window)),
          reports reported item.1 item.2 = true := by
  rw [dataflowObserved_iff]
  unfold recomputeSample
  simp only [except_bind_ok, Verifier.require_ok, Verifier.required_ok, h.start_ns, h.end_ns, decide_eq_true_eq,
    Option.some.injEq, exists_eq_left', exists_const]
  constructor
  · rintro ⟨-, hfeed, hfetch, hsent, hreceived, hall, reported, hreported, _, hfields, heq⟩
    cases heq
    exact ⟨rfl, ⟨hfeed, hfetch, hsent, hreceived, hall⟩, reported, hreported, fun item hitem =>
      Verifier.require_ok.1 (forM_ok_iff.1 hfields item hitem)⟩
  · rintro ⟨rfl, ⟨hfeed, hfetch, hsent, hreceived, hall⟩, reported, hreported, hfields⟩
    exact ⟨h.positive, hfeed, hfetch, hsent, hreceived, hall, reported, hreported, (),
      forM_ok_iff.2 fun item hitem => Verifier.require_ok.2 (hfields item hitem), rfl⟩

/-! ## The samples of a block -/

theorem Summarizer.WindowOf.raw {sample raw_sample : Json} {window : Window} (h : WindowOf sample window)
    (hequals : sample.equals raw_sample = true) : RawWindow raw_sample window := by
  have hmember {key : String} {n : Int} (hget : (sample.get key).bind asInt = some n) :
      (raw_sample.get key).bind Json.toInt = some n := by
    obtain ⟨value, hvalue, hint⟩ := Option.bind_eq_some_iff.1 hget
    obtain ⟨raw_value, hraw, hsame⟩ := Json.equals_get hequals hvalue
    have hnumber : value.number = some (n : ℚ) := by
      cases value with
      | bool b => cases b <;> cases hint <;> rfl
      | int m =>
        cases hint
        rfl
      | _ => cases hint
    rw [hraw, Option.bind_some, Json.toInt_number (Json.equals_number hsame hnumber)]
  exact ⟨hmember h.start_ns, hmember h.end_ns, h.positive⟩

/-- the windows that the verifier finds in a result that equals the one on file -/
theorem rawWindows {result raw_block : Json} {samples : List Json} {windows : List Window}
    (hequals : result.equals raw_block = true) (hsamples : result.get "samples" = some (.arr samples))
    (h : List.Forall₂ WindowOf samples windows) :
    ∃ raw_samples, raw_block.get "samples" = some (.arr raw_samples) ∧ List.Forall₂ RawWindow raw_samples windows := by
  obtain ⟨raw_value, hraw, hsame⟩ := Json.equals_get hequals hsamples
  obtain ⟨raw_samples, rfl, hall⟩ := Json.equals_values hsame
  refine ⟨raw_samples, hraw, ?_⟩
  clear hraw hsame hsamples
  induction h generalizing raw_samples with
  | nil =>
    cases hall
    exact .nil
  | cons hwindow _ ih =>
    cases hall with
    | cons hfirst hrest => exact .cons (hwindow.raw hfirst) (ih _ hrest)

/-- the verifier accepts the sample of a window -/
def SampleAccepted (label : Block) (transfer_block : Json) (calls : List Call) (sample_index : ℕ) (window : Window) : Prop :=
  dataflowObserved (ROUTES label) (calls.filter (contained window)) = true ∧
    ∃ reported, reportedSample transfer_block sample_index = some reported ∧
      ∀ item ∈ recomputed sample_index window (calls.filter (contained window)), reports reported item.1 item.2 = true

/-- **What the verifier accepts in the samples**, one after the other. -/
theorem recomputeSamples_ok_iff {label : Block} {transfer_block : Json} {calls : List Call} {raw_samples : List Json}
    {windows windows' : List Window} (h : List.Forall₂ RawWindow raw_samples windows) (start : ℕ) :
    ((raw_samples.zipIdx start).mapM fun (raw_sample, sample_index) =>
        recomputeSample label (ROUTES label) transfer_block calls raw_sample sample_index) = .ok windows' ↔
      windows' = windows ∧ ∀ entry ∈ windows.zipIdx start, SampleAccepted label transfer_block calls entry.2 entry.1 := by
  induction h generalizing windows' start with
  | nil =>
    rw [List.zipIdx_nil, List.mapM_nil]
    exact ⟨fun h => by cases h; exact ⟨rfl, fun entry hentry => by cases hentry⟩, fun h => h.1 ▸ rfl⟩
  | @cons raw_sample window raw_samples windows hwindow _ ih =>
    rw [List.zipIdx_cons, List.mapM_cons, List.zipIdx_cons, List.forall_mem_cons, except_bind_ok]
    constructor
    · rintro ⟨first, hfirst, hrest⟩
      obtain ⟨rest, hmap, heq⟩ := except_bind_ok.1 hrest
      obtain ⟨rfl, haccepted⟩ := (recomputeSample_ok_iff hwindow).1 hfirst
      obtain ⟨rfl, hall⟩ := (ih _).1 hmap
      cases heq
      exact ⟨rfl, haccepted, hall⟩
    · rintro ⟨rfl, haccepted, hall⟩
      exact ⟨window, (recomputeSample_ok_iff hwindow).2 ⟨rfl, haccepted⟩, except_bind_ok.2 ⟨windows, (ih _).2 ⟨rfl, hall⟩, rfl⟩⟩

/-! ## The block -/

theorem openHashed_ok_iff {sha256 : Bytes → String} {files : Files} {transfer_block : Json}
    {path_key sha256_key missing mismatch : String} {content : Bytes} :
    openHashed sha256 files transfer_block path_key sha256_key missing mismatch = .ok content ↔
      transfer_block.items.isSome = true ∧ ∃ path, (transfer_block.get path_key).getD (.str "") = .str path ∧
        files path = some content ∧
        (transfer_block.get sha256_key).any (fun reported => (Json.str (sha256 content)).equals reported) = true := by
  unfold openHashed
  cases hitems : transfer_block.items with
  | none => exact iff_of_false (fun h => by cases h) fun h => by cases h.1
  | some items =>
    simp only [Option.isNone_some, Bool.false_eq_true, if_false, Option.isSome_some, true_and]
    split
    · rename_i path hpath
      simp only [hpath, Json.str.injEq, exists_eq_left']
      cases files path with
      | none => exact iff_of_false (fun h => by cases h) fun h => by cases h.1
      | some found =>
        simp only [except_bind_ok, Verifier.require_ok, exists_const, Except.ok.injEq, Option.some.injEq]
        constructor
        · rintro ⟨hhash, rfl⟩
          exact ⟨rfl, hhash⟩
        · rintro ⟨rfl, hhash⟩
          exact ⟨hhash, rfl⟩
    · rename_i hother
      refine iff_of_false (fun h => by cases h) ?_
      rintro ⟨path, hpath, -⟩
      exact hother path hpath

theorem summarizeBlock_ok {sha256 : Bytes → String} {label : Block} {trace_path result_path filtered_path : String}
    {files : Files} {calls : List Call} {windows : List Window} {trace result : Bytes}
    (htrace : files trace_path = some trace) (hresult : files result_path = some result)
    (hcalls : Summarizer.readTrace trace_path (some trace) = .ok calls)
    (hwindows : loadWindows result_path (some result) = .ok windows) {block : Json} {after : Files} :
    summarizeBlock sha256 label trace_path result_path filtered_path files = .ok (block, after) ↔
      files filtered_path = none ∧
      (after = fun path => if path = filtered_path then some (encodeText (filteredText label windows calls)) else files path) ∧
      block = blockSummary sha256 label windows calls trace_path result_path filtered_path trace result
        (encodeText (filteredText label windows calls)) := by
  unfold summarizeBlock
  rw [htrace, hresult, hcalls, hwindows]
  cases hfiltered : files filtered_path with
  | some _ => exact iff_of_false (fun h => by cases h) fun h => by cases h.1
  | none =>
    -- the new file is neither of the two
    have hother {path : String} {content : Bytes} (h : files path = some content) : path ≠ filtered_path := by
      rintro rfl
      rw [h] at hfiltered
      cases hfiltered
    dsimp only [bind, Except.bind, Option.isSome_none]
    rw [if_neg Bool.noConfusion, if_neg (hother htrace), if_neg (hother hresult), htrace, hresult]
    constructor
    · intro h
      cases h
      exact ⟨rfl, rfl, rfl⟩
    · rintro ⟨-, rfl, rfl⟩
      rfl

/-- the counts of a block, as both programs name them -/
def counted (windows : List Window) (calls : List Call) : List (String × Json) :=
  let measured := Summarizer.measuredCalls windows calls
  [("raw_record_count", .int calls.length),
    ("raw_records_by_transport", Summarizer.counts (Summarizer.byTransport calls)),
    ("measured_record_count", .int measured.length),
    ("measured_records_by_transport", Summarizer.counts (Summarizer.byTransport measured)),
    ("outside_window_records_by_transport", Summarizer.counts (Summarizer.outsideByTransport calls measured)),
    ("failed_measured_records", .int (Summarizer.failures measured)),
    ("boundary_crossing_records", .int (Summarizer.boundaryRecords windows calls).length),
    ("boundary_crossing_calls", .int (Summarizer.boundaryCallKeys windows calls).length)]

/-- the verifier accepts what a block reports of these calls -/
structure BlockAccepted (label : Block) (transfer_block : Json) (windows : List Window) (calls : List Call) : Prop where
  samples : ∀ entry ∈ windows.zipIdx, SampleAccepted label transfer_block calls entry.2 entry.1
  boundary : Summarizer.boundaryCallKeys windows calls = []
  counts : ∀ item ∈ counted windows calls, reports transfer_block item.1 item.2 = true
  runtime_status : reports transfer_block "runtime_memcpy_status"
    (.str (Verifier.blockRuntimeStatus (Verifier.runtimeStatuses windows calls))) = true
  status : reports transfer_block "status" (.str "observed") = true

theorem checkCounts_ok_iff {label : Block} {transfer_block : Json} {windows : List Window} {calls : List Call} {u : Unit} :
    Verifier.checkCounts label transfer_block windows calls = .ok u ↔
      (∀ item ∈ (counted windows calls).take 6, reports transfer_block item.1 item.2 = true) ∧
      reports transfer_block "runtime_memcpy_status"
        (.str (Verifier.blockRuntimeStatus (Verifier.runtimeStatuses windows calls))) = true ∧
      reports transfer_block "status" (.str "observed") = true := by
  unfold Verifier.checkCounts counted
  simp only [except_bind_ok, Verifier.require_ok, exists_const, List.take_succ_cons, List.take_zero, List.forall_mem_cons,
    List.not_mem_nil, false_implies, implies_true, and_true, and_assoc]
  exact Iff.rfl

theorem counted_reports_iff {transfer_block : Json} {windows : List Window} {calls : List Call} :
    (∀ item ∈ counted windows calls, reports transfer_block item.1 item.2 = true) ↔
      (∀ item ∈ (counted windows calls).take 6, reports transfer_block item.1 item.2 = true) ∧
      reports transfer_block "boundary_crossing_records" (.int (Summarizer.boundaryRecords windows calls).length) = true ∧
      reports transfer_block "boundary_crossing_calls" (.int (Summarizer.boundaryCallKeys windows calls).length) = true := by
  unfold counted
  simp only [List.take_succ_cons, List.take_zero, List.forall_mem_cons, List.not_mem_nil, false_implies, implies_true,
    and_true, and_assoc]

variable {sha256 : Bytes → String} {label : Block} {transfer_block raw_block result : Json} {files : Files}
  {trace benchmark : Bytes} {calls : List Call} {windows : List Window} {raw_samples : List Json}

/-- **What the verifier accepts**, of a block whose trace and result are as it says. -/
theorem recomputeTransferBlock_ok_iff
    (htrace : ∀ missing mismatch, openHashed sha256 files transfer_block "trace_path" "trace_sha256" missing mismatch = .ok trace)
    (hbenchmark : ∀ missing mismatch, openHashed sha256 files transfer_block "benchmark_result_path"
      "benchmark_result_sha256" missing mismatch = .ok benchmark)
    (hresult : readJson (some benchmark) = some result) (hequals : result.equals raw_block = true)
    (hcalls : Verifier.readTrace trace = .ok calls) (hsamples : raw_block.get "samples" = some (.arr raw_samples))
    (hwindows : List.Forall₂ RawWindow raw_samples windows) {samples : List Json} :
    recomputeTransferBlock sha256 label (ROUTES label) transfer_block raw_block files = .ok samples ↔
      BlockAccepted label transfer_block windows calls ∧
      (∃ filtered, openHashed sha256 files transfer_block "filtered_trace_path" "filtered_trace_sha256"
          s!"missing filtered transfer trace: {label.label}" s!"filtered transfer trace SHA256 mismatch: {label.label}" =
          .ok filtered ∧ Verifier.readFiltered label filtered = .ok (Verifier.expectedFiltered label windows calls)) ∧
      samples = windows.zipIdx.map fun (window, sample_index) =>
        .obj (recomputed sample_index window (calls.filter (contained window))) := by
  unfold recomputeTransferBlock
  simp only [except_bind_ok, Verifier.require_ok, Verifier.required_ok, exists_const, Except.ok.injEq, Option.some.injEq,
    exists_eq_left', Option.bind_some, Verifier.elements, htrace, hbenchmark, hresult, hequals, hcalls, hsamples, true_and,
    recomputeSamples_ok_iff hwindows, decide_eq_true_eq, checkCounts_ok_iff]
  constructor
  · rintro ⟨_, ⟨rfl, hall⟩, hboundary, hrecords, hkeys, filtered, hfiltered, _, hread, rfl, ⟨hcounts, hruntime, hstatus⟩, rfl⟩
    exact ⟨⟨hall, hboundary, counted_reports_iff.2 ⟨hcounts, hrecords, hkeys⟩, hruntime, hstatus⟩,
      ⟨filtered, hfiltered, hread⟩, rfl⟩
  · rintro ⟨haccepted, ⟨filtered, hfiltered, hread⟩, rfl⟩
    obtain ⟨hcounts, hrecords, hkeys⟩ := counted_reports_iff.1 haccepted.counts
    exact ⟨windows, ⟨rfl, haccepted.samples⟩, haccepted.boundary, hrecords, hkeys, filtered, hfiltered, _, hread, rfl,
      ⟨hcounts, haccepted.runtime_status, haccepted.status⟩, rfl⟩

/-! ## Agreement -/

/-- both programs read the trace and the result on file -/
structure WellFormed (files : Files) (trace_path result_path : String) (calls : List Call) (windows : List Window) : Prop where
  trace : Summarizer.readTrace trace_path (files trace_path) = .ok calls
  result : loadWindows result_path (files result_path) = .ok windows

/-- what the reported block says of the samples and the counts equals what the other block says -/
structure Corresponds (reported block : Json) : Prop where
  samples : ∀ sample_index < 15, ∃ r s, reportedSample reported sample_index = some r ∧
    reportedSample block sample_index = some s ∧ ∀ field value, s.get field = some value → reports r field value = true
  counts : ∀ key ∈ ["raw_record_count", "raw_records_by_transport", "measured_record_count", "measured_records_by_transport",
      "outside_window_records_by_transport", "failed_measured_records", "boundary_crossing_records",
      "boundary_crossing_calls", "runtime_memcpy_status"],
    ∃ value, block.get key = some value ∧ reports reported key value = true

theorem reports_self {field : String} {value : Json} {reported : Json} (h : reported.get field = some value)
    (hvalue : value.Distinct) : reports reported field value = true := by
  unfold reports
  rw [h, Option.any_some, Json.equals_self value hvalue]

theorem recomputed_get {sample_index : ℕ} {window : Window} {rows : List Call} {item : String × Json}
    (h : item ∈ recomputed sample_index window rows) :
    (Json.obj (recomputed sample_index window rows)).get item.1 = some item.2 := by
  have hkeys : ((recomputed sample_index window rows).map Prod.fst).Nodup := by
    unfold recomputed
    simp only [List.map_cons, List.map_nil]
    decide
  exact (lookup_iff_mem hkeys).2 h

theorem recomputed_distinct {sample_index : ℕ} {window : Window} {rows : List Call} {item : String × Json}
    (h : item ∈ recomputed sample_index window rows) : item.2.Distinct := by
  have hints (l : List Int) : (Json.arr (l.map .int)).Distinct := by
    refine Json.distinctValues_iff.2 fun value hvalue => ?_
    obtain ⟨n, -, rfl⟩ := List.mem_map.1 hvalue
    trivial
  revert h item
  unfold recomputed
  simp only [List.forall_mem_cons, List.not_mem_nil, false_implies, implies_true, and_true, Json.Distinct, true_and]
  exact ⟨hints _, hints _⟩

theorem counts_distinct {counter : List (String × Int)} (h : (counter.map Prod.fst).Nodup) :
    (Summarizer.counts counter).Distinct := by
  refine ⟨?_, Json.distinctItems_iff.2 fun item hitem => ?_⟩
  · rw [List.map_map]
    exact h
  · obtain ⟨count, -, rfl⟩ := List.mem_map.1 hitem
    trivial

theorem counted_distinct {windows : List Window} {calls : List Call} {item : String × Json}
    (h : item ∈ counted windows calls) : item.2.Distinct := by
  have hraw := counts_distinct (Summarizer.byTransport_nodup calls)
  have hmeasured := counts_distinct (Summarizer.byTransport_nodup (Summarizer.measuredCalls windows calls))
  have houtside : (Summarizer.counts (Summarizer.outsideByTransport calls (Summarizer.measuredCalls windows calls))).Distinct := by
    refine counts_distinct ?_
    unfold Summarizer.outsideByTransport
    rw [List.map_map]
    exact Summarizer.byTransport_nodup calls
  revert h item
  unfold counted
  simp only [List.forall_mem_cons, List.not_mem_nil, false_implies, implies_true, and_true]
  exact ⟨trivial, hraw, trivial, hmeasured, houtside, trivial, trivial, trivial⟩

section Summary

variable (sha256 : Bytes → String) (label : Block) (windows : List Window) (calls : List Call)
  (trace_path result_path filtered_path : String) (trace result filtered : Bytes)

theorem blockSummary_counts : ∀ item ∈ counted windows calls,
    (blockSummary sha256 label windows calls trace_path result_path filtered_path trace result filtered).get item.1 =
      some item.2 := by
  unfold counted
  simp only [List.forall_mem_cons, List.not_mem_nil, false_implies, implies_true, and_true]
  exact ⟨rfl, rfl, rfl, rfl, rfl, rfl, rfl, rfl⟩

theorem blockSummary_sample {sample_index : ℕ} {window : Window} (h : windows[sample_index]? = some window) :
    reportedSample (blockSummary sha256 label windows calls trace_path result_path filtered_path trace result filtered)
      sample_index = some (sampleSummary (ROUTES label) sample_index window (calls.filter (contained window))) := by
  have hsamples : (blockSummary sha256 label windows calls trace_path result_path filtered_path trace result filtered).get
      "samples" = some (.arr (windows.zipIdx.map fun (window, sample_index) =>
        sampleSummary (ROUTES label) sample_index window (calls.filter (contained window)))) := rfl
  unfold reportedSample
  rw [hsamples]
  dsimp only
  rw [List.getElem?_map, List.getElem?_zipIdx, h, Nat.zero_add]
  rfl

end Summary

variable {trace_path result_path filtered_path : String} {block reported : Json} {after : Files}

theorem WellFormed.read (h : WellFormed files trace_path result_path calls windows) : ∃ trace benchmark result samples,
    files trace_path = some trace ∧ files result_path = some benchmark ∧
    Summarizer.readTrace trace_path (some trace) = .ok calls ∧ loadWindows result_path (some benchmark) = .ok windows ∧
    readJson (some benchmark) = some result ∧ result.get "samples" = some (.arr samples) ∧ samples.length = 15 ∧
    List.Forall₂ WindowOf samples windows ∧ Separate windows := by
  obtain ⟨htrace, hresult⟩ := h
  obtain ⟨text, htext, -⟩ := Summarizer.readTrace_reads.1 htrace
  obtain ⟨trace, hfile, -⟩ := Option.bind_eq_some_iff.1 htext
  obtain ⟨result, samples, hread, hsamples, hlength, hwindows, hseparate⟩ := Summarizer.loadWindows_ok hresult
  obtain ⟨content, hcontent, -⟩ := Option.bind_eq_some_iff.1 hread
  obtain ⟨benchmark, hfile', -⟩ := Option.bind_eq_some_iff.1 hcontent
  rw [hfile] at htrace
  rw [hfile'] at hresult hread
  exact ⟨trace, benchmark, result, samples, hfile, hfile', htrace, hresult, hread, hsamples, hlength, hwindows, hseparate⟩

theorem readJson_distinct {content : Option Bytes} {value : Json} (h : readJson content = some value) : value.Distinct := by
  obtain ⟨text, -, hloads⟩ := Option.bind_eq_some_iff.1 h
  exact Json.loads_distinct hloads

theorem blockRuntimeStatus_agrees {calls : List Call} {windows : List Window}
    (h : Summarizer.boundaryCallKeys windows calls = []) :
    Summarizer.blockRuntimeStatus (windows.map fun window =>
      Summarizer.runtimeStatus ((calls.filter (contained window)).filter (·.api ∈ Summarizer.RUNTIME_MEMCPY_APIS)))
      (Summarizer.boundaryCallKeys windows calls ≠ []) =
    Verifier.blockRuntimeStatus (Verifier.runtimeStatuses windows calls) := by
  have hstatuses : Verifier.runtimeStatuses windows calls = windows.map fun window =>
      Summarizer.runtimeStatus ((calls.filter (contained window)).filter (·.api ∈ Summarizer.RUNTIME_MEMCPY_APIS)) := rfl
  unfold Summarizer.blockRuntimeStatus Verifier.blockRuntimeStatus
  rw [hstatuses, h]
  simp only [ne_eq, not_true_eq_false, decide_false, Bool.false_eq_true, or_false, and_comm]

/-- **What the summarizer reports as observed, the verifier accepts**, and it returns the reported samples. -/
theorem observed_accepted (h : WellFormed files trace_path result_path calls windows)
    (hblock : summarizeBlock sha256 label trace_path result_path filtered_path files = .ok (block, after))
    (hstatus : block.get "status" = some (.str "observed")) (hraw : readJson (files result_path) = some raw_block) :
    ∃ samples, block.get "samples" = some (.arr samples) ∧
      recomputeTransferBlock sha256 label (ROUTES label) block raw_block after = .ok samples := by
  obtain ⟨trace, benchmark, result, raw, htrace, hbenchmark, hcalls, hload, hread, hraws, hlength, hwindows, -⟩ := h.read
  obtain ⟨hnew, rfl, rfl⟩ := (summarizeBlock_ok htrace hbenchmark hcalls hload).1 hblock
  rw [hbenchmark, hread] at hraw
  cases hraw
  have hequals := Json.equals_self raw_block (readJson_distinct hread)
  obtain ⟨raw_samples, hraw_samples, hraw_windows⟩ := rawWindows hequals hraws hwindows
  have hother {path : String} {content : Bytes} (h : files path = some content) :
      (if path = filtered_path then some (encodeText (filteredText label windows calls)) else files path) = some content := by
    rw [if_neg, h]
    rintro rfl
    rw [h] at hnew
    cases hnew
  have hhash (s : String) : (Json.str s).equals (.str s) = true := Json.equals_self (.str s) trivial
  -- the status says what the samples are
  have hobserved : Summarizer.blockObserved label windows calls = true := by
    by_contra hnot
    have hget : (blockSummary sha256 label windows calls trace_path result_path filtered_path trace benchmark
        (encodeText (filteredText label windows calls))).get "status" =
      some (.str (if Summarizer.blockObserved label windows calls then "observed" else "not_observed")) := rfl
    rw [hget, if_neg hnot] at hstatus
    exact absurd (Json.str.inj (Option.some_injective _ hstatus)) (by decide)
  unfold Summarizer.blockObserved at hobserved
  rw [decide_eq_true_eq, List.all_eq_true] at hobserved
  obtain ⟨hpayload, hboundary, hfailures⟩ := hobserved
  have hsamples : ∀ entry ∈ windows.zipIdx, SampleAccepted label (blockSummary sha256 label windows calls trace_path
      result_path filtered_path trace benchmark (encodeText (filteredText label windows calls))) calls entry.2 entry.1 := by
    intro entry hentry
    have hwindow := hpayload entry.1 (List.fst_mem_of_mem_zipIdx hentry)
    refine ⟨hwindow, _, blockSummary_sample _ _ _ _ _ _ _ _ _ _ (List.mk_mem_zipIdx_iff_getElem?.1 hentry), ?_⟩
    rw [recomputed_agrees hwindow]
    intro item hitem
    exact reports_self (recomputed_get hitem) (recomputed_distinct hitem)
  refine ⟨_, rfl, (recomputeTransferBlock_ok_iff (fun _ _ => ?_) (fun _ _ => ?_) hread hequals
    (readTrace_agrees.2 hcalls) hraw_samples hraw_windows).2 ⟨⟨hsamples, hboundary, ?_, ?_, ?_⟩,
      ⟨encodeText (filteredText label windows calls), ?_, ?_⟩, ?_⟩⟩
  · exact openHashed_ok_iff.2 ⟨rfl, trace_path, rfl, hother htrace, hhash _⟩
  · exact openHashed_ok_iff.2 ⟨rfl, result_path, rfl, hother hbenchmark, hhash _⟩
  · intro item hitem
    exact reports_self (blockSummary_counts _ _ _ _ _ _ _ _ _ _ item hitem) (counted_distinct hitem)
  · exact reports_self (congrArg (fun s => some (Json.str s)) (blockRuntimeStatus_agrees hboundary)) trivial
  · exact reports_self hstatus trivial
  · exact openHashed_ok_iff.2 ⟨rfl, filtered_path, rfl, if_pos rfl, hhash _⟩
  · exact readFiltered_written label (by rw [← hwindows.length_eq, hlength]; decide) (Summarizer.readTrace_short hcalls)
  · refine List.map_congr_left fun entry hentry => ?_
    exact recomputed_agrees (hpayload entry.1 (List.fst_mem_of_mem_zipIdx hentry)) _ _

/-- **What the verifier accepts is what the summarizer computes** from the same trace and the same result, where the filtered
file is not there yet. -/
theorem accepted_corresponds (h : WellFormed files trace_path result_path calls windows)
    (htrace_path : reported.get "trace_path" = some (.str trace_path))
    (hresult_path : reported.get "benchmark_result_path" = some (.str result_path)) {samples : List Json}
    (haccepted : recomputeTransferBlock sha256 label (ROUTES label) reported raw_block files = .ok samples) {before : Files}
    (htrace_same : before trace_path = files trace_path) (hresult_same : before result_path = files result_path)
    (hnew : before filtered_path = none) :
    ∃ block after, summarizeBlock sha256 label trace_path result_path filtered_path before = .ok (block, after) ∧
      Corresponds reported block := by
  obtain ⟨trace, benchmark, result, raw, htrace, hbenchmark, hcalls, hload, hread, hraws, hlength, hwindows, -⟩ := h.read
  have hchecks := haccepted
  unfold recomputeTransferBlock at hchecks
  simp only [except_bind_ok, Verifier.require_ok, Verifier.required_ok, exists_const, openHashed_ok_iff, htrace_path,
    hresult_path, Option.getD_some, Json.str.injEq, exists_eq_left', htrace, hbenchmark, Option.some.injEq] at hchecks
  obtain ⟨_, ⟨hitems, rfl, hhash⟩, _, ⟨-, rfl, hhash'⟩, _, hread', hequals, -⟩ := hchecks
  obtain rfl := Option.some_injective _ (hread.symm.trans hread')
  obtain ⟨raw_samples, hraw_samples, hraw_windows⟩ := rawWindows hequals hraws hwindows
  have hopen {path_key sha256_key path : String} {content : Bytes} (hpath : reported.get path_key = some (.str path))
      (hfile : files path = some content)
      (hhash : (reported.get sha256_key).any (fun value => (Json.str (sha256 content)).equals value) = true)
      (missing mismatch : String) :
      openHashed sha256 files reported path_key sha256_key missing mismatch = .ok content :=
    openHashed_ok_iff.2 ⟨hitems, path, by rw [hpath, Option.getD_some], hfile, hhash⟩
  obtain ⟨hblock, -, -⟩ := (recomputeTransferBlock_ok_iff (hopen htrace_path htrace hhash) (hopen hresult_path hbenchmark hhash')
    hread hequals (readTrace_agrees.2 hcalls) hraw_samples hraw_windows).1 haccepted
  refine ⟨_, _, (summarizeBlock_ok (htrace_same.trans htrace) (hresult_same.trans hbenchmark) hcalls hload).2
    ⟨hnew, rfl, rfl⟩, ?_, ?_⟩
  · intro sample_index hindex
    have hlt : sample_index < windows.length := by rwa [← hwindows.length_eq, hlength]
    have hentry : (windows[sample_index], sample_index) ∈ windows.zipIdx :=
      List.mk_mem_zipIdx_iff_getElem?.2 (List.getElem?_eq_getElem hlt)
    obtain ⟨hwindow, r, hr, hfields⟩ := hblock.samples _ hentry
    refine ⟨r, _, hr, blockSummary_sample _ _ _ _ _ _ _ _ _ _ (List.getElem?_eq_getElem hlt), fun field value hvalue => ?_⟩
    rw [recomputed_agrees hwindow] at hvalue
    exact hfields (field, value) (mem_of_lookup hvalue)
  · have hcounts := hblock.counts
    unfold counted at hcounts
    simp only [List.forall_mem_cons, List.not_mem_nil, false_implies, implies_true, and_true] at hcounts
    obtain ⟨hraw, hby_raw, hmeasured, hby_measured, houtside, hfailed, hrecords, hkeys⟩ := hcounts
    have hstatus := hblock.runtime_status
    rw [← blockRuntimeStatus_agrees hblock.boundary] at hstatus
    simp only [List.forall_mem_cons, List.not_mem_nil, false_implies, implies_true, and_true]
    exact ⟨⟨_, rfl, hraw⟩, ⟨_, rfl, hby_raw⟩, ⟨_, rfl, hmeasured⟩, ⟨_, rfl, hby_measured⟩, ⟨_, rfl, houtside⟩,
      ⟨_, rfl, hfailed⟩, ⟨_, rfl, hrecords⟩, ⟨_, rfl, hkeys⟩, ⟨_, rfl, hstatus⟩⟩

/-- the records of a transport that a block counts -/
def reportedCount (block : Json) (key : String) (t : Transport) : Int :=
  (((block.get key).bind fun counter => counter.get t.name).bind asInt).getD 0

theorem reportedCount_counts {key : String} {counter : List (String × Int)} {block : Json}
    (h : block.get key = some (Summarizer.counts counter)) (t : Transport) :
    reportedCount block key t = (counter.lookup t.name).getD 0 := by
  have hget : (Summarizer.counts counter).get t.name = (counter.lookup t.name).map Json.int :=
    lookup_values Json.int counter t.name
  unfold reportedCount
  rw [h, Option.bind_some, hget]
  cases counter.lookup t.name with
  | none => rfl
  | some n => rfl

/-- **Summarizer and verifier agree**, on every trace and result that both read: what the one observes the other accepts, what
is accepted is what is computed, and every record is counted once, in one window or outside. -/
theorem transfer_agreement (sha256 : Bytes → String) (label : Block)
    (h : WellFormed files trace_path result_path calls windows) :
    (∀ filtered_path block after raw_block,
      summarizeBlock sha256 label trace_path result_path filtered_path files = .ok (block, after) →
      block.get "status" = some (.str "observed") → readJson (files result_path) = some raw_block →
      ∃ samples, block.get "samples" = some (.arr samples) ∧
        recomputeTransferBlock sha256 label (ROUTES label) block raw_block after = .ok samples) ∧
    (∀ reported raw_block samples, reported.get "trace_path" = some (.str trace_path) →
      reported.get "benchmark_result_path" = some (.str result_path) →
      recomputeTransferBlock sha256 label (ROUTES label) reported raw_block files = .ok samples →
      ∀ (before : Files) filtered_path, before trace_path = files trace_path → before result_path = files result_path →
        before filtered_path = none →
        ∃ block after, summarizeBlock sha256 label trace_path result_path filtered_path before = .ok (block, after) ∧
          Corresponds reported block) ∧
    (∀ call ∈ calls, ∀ (i j : ℕ) (window window' : Window), windows[i]? = some window → windows[j]? = some window' →
      contained window call = true → contained window' call = true → i = j) ∧
    ∀ filtered_path block after,
      summarizeBlock sha256 label trace_path result_path filtered_path files = .ok (block, after) → ∀ t : Transport,
        reportedCount block "raw_records_by_transport" t = recordsOf t calls ∧
        reportedCount block "measured_records_by_transport" t =
          (windows.map fun window => recordsOf t (calls.filter (contained window))).sum ∧
        reportedCount block "measured_records_by_transport" t + reportedCount block "outside_window_records_by_transport" t =
          reportedCount block "raw_records_by_transport" t := by
  obtain ⟨trace, benchmark, -, -, htrace, hbenchmark, hcalls, hload, -, -, -, -, hseparate⟩ := h.read
  have haccepted := Summarizer.readTrace_accepted hcalls
  refine ⟨fun _ _ _ _ => observed_accepted h, fun _ _ _ hpath hpath' hok _ _ => accepted_corresponds h hpath hpath' hok,
    ?_, ?_⟩
  · intro call hcall i j window window' hi hj
    exact Summarizer.contained_once hseparate (haccepted call hcall) hi hj
  · intro filtered_path block after hblock t
    obtain ⟨-, -, rfl⟩ := (summarizeBlock_ok htrace hbenchmark hcalls hload).1 hblock
    rw [reportedCount_counts rfl, reportedCount_counts rfl, reportedCount_counts rfl]
    refine ⟨Summarizer.byTransport_lookup calls t, ?_, Summarizer.measured_add_outside windows calls t⟩
    rw [Summarizer.byTransport_lookup, Summarizer.measured_by_window hseparate haccepted]

/-! ### Fifteen epochs -/

/-- the calls of an epoch that is observed -/
def epochCalls (epoch : ℕ) : List Call :=
  let call (api : Api) (bytes : Int) : Call :=
    { api, pid := 1, tid := 1, start_ns := 1000 * epoch + 10, end_ns := 1000 * epoch + 20, bytes, dest_max := bytes, kind := 0,
      status := 0 }
  (Verifier.EXPECTED_TENSOR_BYTES .new .hostToDevice).map (call .feedDataFlowGraphTensor) ++
    (Verifier.EXPECTED_TENSOR_BYTES .new .deviceToHost).map (call .fetchDataFlowGraphTensor)

/-- the result of fifteen epochs -/
def epochResult : Json := .obj [("samples", .arr ((List.range 15).map fun epoch : ℕ =>
  .obj [("epoch_wall_clock_start_ns", .int (1000 * epoch + 1)), ("epoch_wall_clock_end_ns", .int (1000 * epoch + 900))]))]

/-- the files of a run: the trace and the result -/
def epochFiles (path : String) : Option Bytes :=
  if path = "new-1.tsv" then some (encodeText (callsText ((List.range 15).flatMap epochCalls)))
  else if path = "new-1.json" then some (encodeText (Json.text none 0 epochResult))
  else none

theorem epochCalls_small : ∀ call ∈ (List.range 15).flatMap epochCalls, call.Accepted ∧
    ∀ n ∈ [call.pid, call.tid, call.start_ns, call.end_ns, call.bytes, call.dest_max, call.kind, call.status],
      n.natAbs < 10 ^ 5 := by
  have hchecks : ∀ call ∈ (List.range 15).flatMap epochCalls, (0 < call.start_ns ∧ call.start_ns ≤ call.end_ns ∧
      0 ≤ call.bytes ∧ call.bytes ≤ call.dest_max) ∧
      ∀ n ∈ [call.pid, call.tid, call.start_ns, call.end_ns, call.bytes, call.dest_max, call.kind, call.status],
        n.natAbs < 10 ^ 5 := by
    decide +kernel
  intro call hcall
  obtain ⟨⟨hstart, hend, hbytes, hdest⟩, hsmall⟩ := hchecks call hcall
  exact ⟨⟨hstart, hend, hbytes, hdest⟩, hsmall⟩

def epochWindows : List Window := (List.range 15).map fun epoch : ℕ => ⟨1000 * epoch + 1, 1000 * epoch + 900⟩

theorem epochResult_read : readJson (epochFiles "new-1.json") = some epochResult := by
  have hplain : epochResult.Plain := by
    refine ⟨by decide, ⟨?_, trivial⟩⟩
    refine Json.plainValues_iff.2 fun value hvalue => ?_
    obtain ⟨epoch, -, rfl⟩ := List.mem_map.1 hvalue
    exact ⟨by simp, trivial, trivial, trivial⟩
  have hlines : '\r' ∉ Json.text none 0 epochResult := by
    intro hmem
    have hprintable := Json.text_printable 0 epochResult
    rw [List.all_eq_true] at hprintable
    exact absurd (hprintable _ hmem) (by decide)
  have hloads : Json.loads (Json.text none 0 epochResult ++ []) = some epochResult :=
    Json.loads_text none hplain fun c hc => by cases hc
  rw [List.append_nil] at hloads
  unfold readJson epochFiles
  rw [if_neg (by decide), if_pos rfl, Option.bind_some, decodeText_encodeText, Option.bind_some, universalNewlines_self hlines,
    hloads]

theorem epochs_read :
    WellFormed epochFiles "new-1.tsv" "new-1.json" ((List.range 15).flatMap epochCalls) epochWindows := by
  constructor
  · refine (readTrace_ok_iff "new-1.tsv" fun call hcall n hn => ?_).2 fun call hcall => (epochCalls_small call hcall).1
    exact (decimal_length (by decide) ((epochCalls_small call hcall).2 n hn)).trans (by decide)
  · refine Summarizer.loadWindows_of epochResult_read rfl (by rw [List.length_map, List.length_range]) ?_ ?_
    · unfold epochWindows
      rw [List.forall₂_map_left_iff, List.forall₂_map_right_iff, List.forall₂_same]
      intro epoch _
      refine ⟨rfl, rfl, ?_⟩
      dsimp only
      omega
    · unfold epochWindows Separate
      rw [List.pairwise_map]
      refine List.pairwise_lt_range.imp fun {a b} hlt => ?_
      dsimp only
      omega

/-- **Fifteen observed epochs are accepted.** -/
theorem epochs_accepted : ∃ block after,
    summarizeBlock (fun _ => "0") .new1 "new-1.tsv" "new-1.json" "filtered.tsv" epochFiles = .ok (block, after) ∧
      ∃ samples, block.get "samples" = some (.arr samples) ∧
        recomputeTransferBlock (fun _ => "0") .new1 .new block epochResult after = .ok samples := by
  obtain ⟨trace, benchmark, -, -, htrace, hbenchmark, hcalls, hload, -⟩ := epochs_read.read
  have hblock : summarizeBlock (fun _ => "0") .new1 "new-1.tsv" "new-1.json" "filtered.tsv" epochFiles = .ok (_, _) :=
    (summarizeBlock_ok htrace hbenchmark hcalls hload).2 ⟨rfl, rfl, rfl⟩
  have hobserved : Summarizer.blockObserved .new1 epochWindows ((List.range 15).flatMap epochCalls) = true := by
    decide +kernel
  refine ⟨_, _, hblock, (transfer_agreement (fun _ => "0") .new1 epochs_read).1 _ _ _ _ hblock ?_ epochResult_read⟩
  exact congrArg (fun observed : Bool => some (Json.str (if observed then "observed" else "not_observed"))) hobserved

end Cruise.Trace
