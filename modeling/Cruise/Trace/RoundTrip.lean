/-
Traces that are read back: the lines of the tracer under the summarizer's `_read_trace`.

A call that the runtime rejects may ask for more bytes than its destination holds. Its line is written like any other, and
no reader accepts it.
- `readTrace_calls`: what is read of a trace whose rows are calls in print.
- `lines_accepted_iff`: which lines of a call are accepted, as a condition on its arguments and on the clock.
- `trace_round_trip_iff`: **a trace is read back exactly if every call in it meets that condition**.
- `rejected_call_unreadable`: one failed copy, and the whole trace is refused.
-/
import Cruise.Trace.Summarizer
import Cruise.Trace.Tracer

namespace Cruise.Trace

open Cruise.Lib Summarizer

/-! ## Calls in print -/

theorem tab_separates : Csv.Separates '\t' := ⟨rfl, by decide⟩

theorem decimal_plain {n : Int} (h : (decimal n).length ≤ Csv.fieldLimit) : Csv.PlainField '\t' (decimal n) := by
  refine ⟨?_, h⟩
  unfold Csv.needsQuotes
  rw [List.any_eq_false]
  intro c hc
  rw [decide_eq_true_eq]
  rcases decimal_chars hc with rfl | hdigit
  · decide
  · have hrange := isDigit_range hdigit
    rintro (rfl | rfl | hend)
    · exact absurd hrange (by decide)
    · exact absurd hrange (by decide)
    · rcases of_decide_eq_true hend with rfl | rfl
      · exact absurd hrange (by decide)
      · exact absurd hrange (by decide)

theorem name_plain (api : Api) : Csv.PlainField '\t' api.name.toList := by
  cases api <;> exact ⟨by decide, by decide⟩

/-- the numbers of a call are short enough for a field -/
def Call.Short (call : Call) : Prop :=
  ∀ n ∈ [call.pid, call.tid, call.start_ns, call.end_ns, call.bytes, call.dest_max, call.kind, call.status],
    (decimal n).length ≤ Csv.fieldLimit

theorem Call.Short.plain {call : Call} (h : call.Short) : ∀ field ∈ call.fields, Csv.PlainField '\t' field := by
  intro field hfield
  rcases List.mem_cons.1 hfield with rfl | hfield
  · exact name_plain call.api
  · obtain ⟨n, hn, rfl⟩ := List.mem_map.1 hfield
    exact decimal_plain (h n hn)

theorem find_name (api : Api) : (TRACE_APIS.find? fun other => other.name.toList = api.name.toList) = some api := by
  cases api <;> decide

/-- what a reader asks of a row -/
structure Call.Accepted (call : Call) : Prop where
  start_ns : 0 < call.start_ns
  end_ns : call.start_ns ≤ call.end_ns
  bytes : 0 ≤ call.bytes
  dest_max : call.bytes ≤ call.dest_max

/-- **What is read of a call in print.** -/
theorem parseRow_fields (path : String) (line : ℕ) (call : Call) : parseRow path line call.fields =
    if call.start_ns ≤ 0 ∨ call.end_ns < call.start_ns then
      .error (.value s!"invalid transfer trace timestamp {path}:{line}")
    else if call.bytes < 0 ∨ call.dest_max < call.bytes then
      .error (.value s!"invalid transfer trace byte count {path}:{line}")
    else .ok call := by
  have hnumbers : (TRACE_FIELDS.tail.mapM fun field => ((TRACE_FIELDS.zip call.fields).lookup field).bind readInt) =
      some [call.pid, call.tid, call.start_ns, call.end_ns, call.bytes, call.dest_max, call.kind, call.status] := by
    simp [TRACE_FIELDS, Call.fields, List.lookup_cons, readInt_decimal]
  have hname : (TRACE_FIELDS.zip call.fields).lookup "api" = some call.api.name.toList := rfl
  unfold parseRow
  dsimp only
  rw [hnumbers, hname]
  dsimp only
  rw [Option.bind_some, find_name]

theorem parseRow_ok_iff {path : String} {line : ℕ} {call parsed : Call} :
    parseRow path line call.fields = .ok parsed ↔ parsed = call ∧ call.Accepted := by
  rw [parseRow_fields]
  split_ifs with htimes hbytes
  · refine iff_of_false (fun h => by cases h) fun ⟨_, h⟩ => ?_
    have := h.start_ns
    have := h.end_ns
    omega
  · refine iff_of_false (fun h => by cases h) fun ⟨_, h⟩ => ?_
    have := h.bytes
    have := h.dest_max
    omega
  · constructor
    · intro h
      cases h
      exact ⟨rfl, by omega, by omega, by omega, by omega⟩
    · rintro ⟨rfl, -⟩
      rfl

/-- the text of a trace of calls -/
def callsText (calls : List Call) : List Char :=
  traceHeader ++ calls.flatMap fun call => Csv.joinFields '\t' call.fields ++ ['\n']

/-- **Reading goes call by call.** -/
theorem readTrace_calls (path : String) {calls : List Call} (h : ∀ call ∈ calls, call.Short) :
    readTrace path (some (encodeText (callsText calls))) =
      (calls.zipIdx 2).mapM fun entry => parseRow path entry.2 entry.1.fields := by
  have hheader : Csv.PlainRow '\t' (TRACE_FIELDS.map String.toList) := by
    refine ⟨by decide, fun field hfield => ?_⟩
    have hall : ∀ field ∈ TRACE_FIELDS.map String.toList, Csv.needsQuotes '\t' field = false ∧ field.length ≤ 8 := by decide
    exact ⟨(hall field hfield).1, (hall field hfield).2.trans (by decide)⟩
  have hwritten : ∀ fields ∈ TRACE_FIELDS.map String.toList :: calls.map Call.fields, Csv.PlainRow '\t' fields := by
    intro fields hfields
    rcases List.mem_cons.1 hfields with rfl | hfields
    · exact hheader
    · obtain ⟨call, hcall, rfl⟩ := List.mem_map.1 hfields
      exact ⟨by simp [Call.fields], (h call hcall).plain⟩
  have hrows := Csv.rows_written tab_separates (Or.inl rfl) hwritten
  have htext : ((TRACE_FIELDS.map String.toList :: calls.map Call.fields).flatMap fun fields =>
      Csv.joinFields '\t' fields ++ ['\n']) = callsText calls := by
    rw [List.flatMap_cons, List.flatMap_map]
    rfl
  have hrest : (calls.map Call.fields).filter (· ≠ []) = calls.map Call.fields := by
    rw [List.filter_eq_self]
    intro fields hfields
    obtain ⟨call, -, rfl⟩ := List.mem_map.1 hfields
    rfl
  rw [htext] at hrows
  unfold readTrace
  rw [Option.bind_some, decodeText_encodeText]
  dsimp only
  rw [hrows]
  dsimp only
  rw [List.headD_cons, if_neg (not_not.2 rfl), List.tail_cons, hrest, List.zipIdx_map, List.mapM_map]
  exact bind_pure _

theorem readTrace_ok_iff (path : String) {calls : List Call} (h : ∀ call ∈ calls, call.Short) :
    readTrace path (some (encodeText (callsText calls))) = .ok calls ↔ ∀ call ∈ calls, call.Accepted := by
  rw [readTrace_calls path h]
  constructor
  · intro hread call hcall
    obtain ⟨entry, -, hentry⟩ := forall₂_mem (mapM_ok.1 hread) hcall
    obtain ⟨rfl, haccepted⟩ := parseRow_ok_iff.1 hentry
    exact haccepted
  · intro haccepted
    have hall : ∀ entry ∈ calls.zipIdx 2, parseRow path entry.2 entry.1.fields = .ok entry.1 := fun entry hentry =>
      parseRow_ok_iff.2 ⟨rfl, haccepted entry.1 (List.fst_mem_of_mem_zipIdx hentry)⟩
    rw [mapM_map hall, List.zipIdx_map_fst]

/-! ## The lines of a call -/

theorem line_short (line : Line) : line.call.Short := by
  have hlimit {text : List Char} (h : text.length ≤ 21) : text.length ≤ Csv.fieldLimit := h.trans (by decide)
  intro n hn
  simp only [Line.call, List.mem_cons, List.not_mem_nil, or_false] at hn
  rcases hn with rfl | rfl | rfl | rfl | rfl | rfl | rfl | rfl
  · exact hlimit ((int32_length _).trans (by decide))
  · exact hlimit ((int64_length _).trans (by decide))
  · exact hlimit ((int64_length _).trans (by decide))
  · exact hlimit ((int64_length _).trans (by decide))
  · exact hlimit (uint64_length _)
  · exact hlimit (uint64_length _)
  · exact hlimit ((int32_length _).trans (by decide))
  · exact hlimit ((int32_length _).trans (by decide))

theorem traceText_eq (lines : List Line) : traceText lines = callsText (lines.map Line.call) := by
  unfold traceText callsText
  rw [List.flatMap_map, show record = Line.text from funext record_eq]
  rfl

/-- the clock shows a time after the epoch, and is not set back during the call -/
def Intercept.ClockAdvances (i : Intercept) : Prop := 0 < i.start_ns.toInt ∧ i.start_ns.toInt ≤ i.end_ns.toInt

/-- the call asks for no more bytes than its destinations hold; a product is taken modulo 2 to the 64 -/
def TracedCall.InBounds : TracedCall → Prop
  | rtMemcpy dest_max count _ => count ≤ dest_max
  | rtMemcpyEx dest_max count _ => count ≤ dest_max
  | rtMemcpyAsync dest_max count _ => count ≤ dest_max
  | rtMemcpyAsyncWithoutCheckKind dest_max count _ => count ≤ dest_max
  | rtMemcpyAsyncEx dest_max count _ => count ≤ dest_max
  | rtMemcpyAsyncWithCfg dest_max count _ => count ≤ dest_max
  | rtMemcpyAsyncWithCfgV2 dest_max count _ => count ≤ dest_max
  | rtMemcpyHostTask dest_max count _ => count ≤ dest_max
  | rtMemcpyAsyncWithOffset dest_max count _ => count ≤ dest_max
  | rtMemcpy2d dst_pitch width height _ => width * height ≤ dst_pitch * height
  | rtMemcpy2dAsync dst_pitch width height _ => width * height ≤ dst_pitch * height
  | rtsMemcpy dest_max count _ => count ≤ dest_max
  | rtsMemcpyAsync dest_max count _ => count ≤ dest_max
  | rtsMemcpyBatchAsync dest_maxs sizes count _ =>
    ∀ dest_max ∈ dest_maxs, ∀ size ∈ sizes, ∀ index < count.toNat, size index ≤ dest_max index
  | _ => True

/-- the call appends a line -/
def TracedCall.Writes (i : Intercept) : TracedCall → Prop
  | rtsMemcpyBatch sizes count _ => i.outer = true ∧ sizes ≠ none ∧ count ≠ 0
  | rtsMemcpyBatchAsync _ sizes count _ => i.outer = true ∧ sizes ≠ none ∧ count ≠ 0
  | rtsSetMemcpyDesc _ _ _ => False
  | traceDflowFeed inputs => inputs.getD [] ≠ []
  | traceDflowFetch outputs => outputs.getD [] ≠ []
  | _ => i.outer = true

/-- what a call has to meet for its lines to be accepted -/
def Readable (event : Intercept × TracedCall) : Prop :=
  event.2.Writes event.1 → event.1.ClockAdvances ∧ event.2.InBounds

variable {i : Intercept}

theorem line_accepted_iff {api : Api} {bytes dest_max : UInt64} {kind : Int32} :
    (i.line api bytes dest_max kind).call.Accepted ↔ i.ClockAdvances ∧ bytes ≤ dest_max := by
  rw [UInt64.le_iff_toNat_le]
  constructor
  · rintro ⟨hstart, hend, -, hbytes⟩
    exact ⟨⟨hstart, hend⟩, Int.ofNat_le.1 hbytes⟩
  · rintro ⟨⟨hstart, hend⟩, hbytes⟩
    exact ⟨hstart, hend, Int.natCast_nonneg _, Int.ofNat_le.2 hbytes⟩

theorem record_accepted_iff {api : Api} {bytes dest_max : UInt64} {kind : Int32} :
    (∀ line ∈ i.record api bytes dest_max kind, line.call.Accepted) ↔
      (i.outer = true → i.ClockAdvances ∧ bytes ≤ dest_max) := by
  unfold Intercept.record
  split_ifs with houter
  · simp only [List.forall_mem_singleton, line_accepted_iff, houter, true_implies]
  · simp [houter]

/-- a line with one number for both -/
theorem record_exact_iff {api : Api} {bytes : UInt64} {kind : Int32} :
    (∀ line ∈ i.record api bytes bytes kind, line.call.Accepted) ↔ (i.outer = true → i.ClockAdvances ∧ True) := by
  rw [record_accepted_iff]
  simp only [UInt64.le_refl]

theorem recordBatch_accepted_iff {api : Api} {dest_maxs sizes : Option (ℕ → UInt64)} {count : UInt64} {attrs : BatchAttrs} :
    (∀ line ∈ i.recordBatch api dest_maxs sizes count attrs, line.call.Accepted) ↔ (sizes ≠ none ∧ count ≠ 0 →
      i.ClockAdvances ∧ ∀ dest_max ∈ dest_maxs, ∀ size ∈ sizes, ∀ index < count.toNat, size index ≤ dest_max index) := by
  cases sizes with
  | none => exact iff_of_true (fun line hline => by cases hline) fun h => absurd rfl h.1
  | some sizes =>
    have hcount : count ≠ 0 ↔ 0 < count.toNat := by
      rw [Nat.pos_iff_ne_zero, ne_eq, ne_eq, ← UInt64.toNat_inj]
      rfl
    simp only [Intercept.recordBatch, List.forall_mem_map, List.mem_range, line_accepted_iff]
    constructor
    · rintro h ⟨-, hpos⟩
      refine ⟨(h 0 (hcount.1 hpos)).1, fun dest_max hdest size hsize index hindex => ?_⟩
      cases hdest
      cases hsize
      exact (h index hindex).2
    · intro h index hindex
      obtain ⟨hclock, hbounds⟩ := h ⟨Option.some_ne_none _, hcount.2 (Nat.zero_lt_of_lt hindex)⟩
      refine ⟨hclock, ?_⟩
      cases dest_maxs with
      | none => exact UInt64.le_refl _
      | some dest_max => exact hbounds dest_max rfl sizes rfl index hindex

/-- the lines of an outer call of a batch -/
theorem batch_accepted_iff {api : Api} {dest_maxs sizes : Option (ℕ → UInt64)} {count : UInt64} {attrs : BatchAttrs} :
    (∀ line ∈ if i.outer then i.recordBatch api dest_maxs sizes count attrs else [], line.call.Accepted) ↔
      (i.outer = true ∧ sizes ≠ none ∧ count ≠ 0 → i.ClockAdvances ∧
        ∀ dest_max ∈ dest_maxs, ∀ size ∈ sizes, ∀ index < count.toNat, size index ≤ dest_max index) := by
  split_ifs with houter
  · rw [recordBatch_accepted_iff]
    simp only [houter, true_and]
  · exact iff_of_true (fun line hline => by cases hline) fun h => absurd h.1 houter

theorem recordTensors_accepted_iff {api : Api} {tensors : Option (List UInt64)} :
    (∀ line ∈ i.recordTensors api tensors, line.call.Accepted) ↔ (tensors.getD [] ≠ [] → i.ClockAdvances ∧ True) := by
  simp only [Intercept.recordTensors, List.forall_mem_map, line_accepted_iff, UInt64.le_refl, and_true]
  constructor
  · intro h hne
    obtain ⟨bytes, hbytes⟩ := List.exists_mem_of_ne_nil _ hne
    exact h bytes hbytes
  · intro h bytes hbytes
    exact h (List.ne_nil_of_mem hbytes)

/-- **Which lines are accepted**, by the call that writes them. -/
theorem lines_accepted_iff (desc_info : List (ℕ × DescInfo)) (i : Intercept) (call : TracedCall) :
    (∀ line ∈ call.lines desc_info i, line.call.Accepted) ↔ Readable (i, call) := by
  cases call with
  | rtMemcpy _ _ _ => exact record_accepted_iff
  | rtMemcpyEx _ _ _ => exact record_accepted_iff
  | rtMemcpyAsync _ _ _ => exact record_accepted_iff
  | rtMemcpyAsyncWithoutCheckKind _ _ _ => exact record_accepted_iff
  | rtMemcpyAsyncEx _ _ _ => exact record_accepted_iff
  | rtMemcpyAsyncWithCfg _ _ _ => exact record_accepted_iff
  | rtMemcpyAsyncWithCfgV2 _ _ _ => exact record_accepted_iff
  | rtMemcpyHostTask _ _ _ => exact record_accepted_iff
  | rtMemcpyAsyncWithOffset _ _ _ => exact record_accepted_iff
  | rtMemcpy2d _ _ _ _ => exact record_accepted_iff
  | rtMemcpy2dAsync _ _ _ _ => exact record_accepted_iff
  | rtsMemcpy _ _ _ => exact record_accepted_iff
  | rtsMemcpyAsync _ _ _ => exact record_accepted_iff
  | rtsMemcpyBatch sizes count attrs =>
    refine batch_accepted_iff.trans (forall_congr' fun _ => and_congr_right fun _ => ?_)
    exact iff_of_true (fun dest_max hdest => by cases hdest) trivial
  | rtsMemcpyBatchAsync _ _ _ _ => exact batch_accepted_iff
  | rtsSetMemcpyDesc _ _ _ => exact iff_of_true (fun line hline => by cases hline) fun h => h.elim
  | rtsMemcpyAsyncWithDesc _ _ => exact record_exact_iff
  | rtMbufAlloc _ => exact record_exact_iff
  | rtMbufBuild _ => exact record_exact_iff
  | rtMbufSetDataLen _ => exact record_exact_iff
  | rtMbufGetBuffSize _ => exact record_exact_iff
  | rtBuffGet _ => exact record_exact_iff
  | rtBuffConfirm _ => exact record_exact_iff
  | traceDflowFeed _ => exact recordTensors_accepted_iff
  | traceDflowFetch _ => exact recordTensors_accepted_iff

/-- the lines of a process -/
theorem tracer_accepted_iff (events : List (Intercept × TracedCall)) :
    (∀ line ∈ (tracer events).lines, line.call.Accepted) ↔ ∀ event ∈ events, Readable event := by
  have hfold (start : Tracer) : (∀ line ∈ (events.foldl Tracer.intercept start).lines, line.call.Accepted) ↔
      (∀ line ∈ start.lines, line.call.Accepted) ∧ ∀ event ∈ events, Readable event := by
    induction events generalizing start with
    | nil => simp
    | cons event events ih =>
      rw [List.foldl_cons, ih, Tracer.intercept, List.forall_mem_append, List.forall_mem_cons, lines_accepted_iff, and_assoc]
  rw [tracer, hfold]
  exact and_iff_right fun line hline => by cases hline

/-- **Traces are read back**, whatever the order in which the lines of the threads come, exactly if every call is readable. -/
theorem trace_round_trip_iff (path : String) (events : List (Intercept × TracedCall)) (written : List Line)
    (h : written.Perm (tracer events).lines) :
    readTrace path (some (encodeText (traceText written))) = .ok (written.map Line.call) ↔
      ∀ event ∈ events, Readable event := by
  have hshort : ∀ call ∈ written.map Line.call, call.Short := by
    intro call hcall
    obtain ⟨line, -, rfl⟩ := List.mem_map.1 hcall
    exact line_short line
  rw [traceText_eq, readTrace_ok_iff path hshort, List.forall_mem_map, ← tracer_accepted_iff]
  exact ⟨fun haccepted line hline => haccepted line (h.mem_iff.2 hline),
    fun haccepted line hline => haccepted line (h.mem_iff.1 hline)⟩

/-! ### Four lines of three calls -/

/-- an outer call that returns a status, at some time -/
def interceptOf (status : Int32) : Intercept where
  pid := 1
  tid := 1
  outer := true
  start_ns := 1000
  end_ns := 2000
  status := status

/-- a descriptor is set and copied with, a copy is rejected by the runtime, and two tensors are fed -/
def readableEvents : List (Intercept × TracedCall) := [
  (interceptOf 0, .rtsSetMemcpyDesc 5 2 16),
  (interceptOf 0, .rtsMemcpyAsyncWithDesc 5 2),
  (interceptOf 107000, .rtMemcpy 8 8 1),
  (interceptOf 0, .traceDflowFeed (some [4, 12]))]

theorem interceptOf_clock (status : Int32) : (interceptOf status).ClockAdvances := by
  have htimes : 0 < (1000 : Int64).toInt ∧ (1000 : Int64).toInt ≤ (2000 : Int64).toInt := by decide
  exact htimes

theorem readableEvents_readable : ∀ event ∈ readableEvents, Readable event := by
  intro event hmem _
  simp only [readableEvents, List.mem_cons, List.not_mem_nil, or_false] at hmem
  rcases hmem with rfl | rfl | rfl | rfl
  · exact ⟨interceptOf_clock _, trivial⟩
  · exact ⟨interceptOf_clock _, trivial⟩
  · exact ⟨interceptOf_clock _, UInt64.le_refl 8⟩
  · exact ⟨interceptOf_clock _, trivial⟩

/-- their lines are read back in the opposite order -/
theorem trace_round_trip_reversed : (∀ event ∈ readableEvents, Readable event) ∧
    (tracer readableEvents).lines.map Line.bytes = [16, 8, 4, 12] ∧
    readTrace "trace.tsv" (some (encodeText (traceText (tracer readableEvents).lines.reverse))) =
      .ok ((tracer readableEvents).lines.reverse.map Line.call) :=
  ⟨readableEvents_readable, rfl,
    (trace_round_trip_iff "trace.tsv" readableEvents _ (List.reverse_perm _)).2 readableEvents_readable⟩

/-! ### A copy that the runtime rejects -/

/-- `rtMemcpy` of eight bytes to four, which fails -/
def rejectedCall : Intercept × TracedCall := (interceptOf 107000, .rtMemcpy 4 8 1)

/-- **One rejected copy, and the trace is refused.** The clock advances, and the call before it is a plain one. -/
theorem rejected_call_unreadable :
    rejectedCall.1.ClockAdvances ∧ (tracer [(interceptOf 0, .rtMemcpy 8 8 1), rejectedCall]).lines.length = 2 ∧
      readTrace "trace.tsv" (some (encodeText (traceText (tracer [(interceptOf 0, .rtMemcpy 8 8 1), rejectedCall]).lines))) =
        .error (.value "invalid transfer trace byte count trace.tsv:3") := by
  have hlines : (tracer [(interceptOf 0, .rtMemcpy 8 8 1), rejectedCall]).lines =
      [(interceptOf 0).line .rtMemcpy 8 8 1, (interceptOf 107000).line .rtMemcpy 8 4 1] := rfl
  have hshort : ∀ call ∈ [((interceptOf 0).line .rtMemcpy 8 8 1).call, ((interceptOf 107000).line .rtMemcpy 8 4 1).call],
      call.Short := by
    simp only [List.forall_mem_cons, line_short, List.not_mem_nil, false_implies, implies_true, and_self]
  refine ⟨interceptOf_clock _, by rw [hlines]; rfl, ?_⟩
  rw [hlines, traceText_eq]
  refine (readTrace_calls "trace.tsv" hshort).trans ?_
  have hfirst : parseRow "trace.tsv" 2 ((interceptOf 0).line .rtMemcpy 8 8 1).call.fields =
      .ok ((interceptOf 0).line .rtMemcpy 8 8 1).call :=
    parseRow_ok_iff.2 ⟨rfl, line_accepted_iff.2 ⟨interceptOf_clock 0, UInt64.le_refl _⟩⟩
  have hsecond : parseRow "trace.tsv" 3 ((interceptOf 107000).line .rtMemcpy 8 4 1).call.fields =
      .error (.value "invalid transfer trace byte count trace.tsv:3") := by
    rw [parseRow_fields, if_neg (by decide), if_pos (by decide)]
    rfl
  simp only [List.zipIdx_cons, List.zipIdx_nil, List.mapM_cons, hfirst, hsecond]
  rfl

end Cruise.Trace
