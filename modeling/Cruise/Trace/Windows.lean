/-
The windows of the transfer summarizer, and what it counts in them.

- `readTrace_accepted`, `readTrace_short`: what is known of a trace that is read.
- `loadWindows_ok`: the windows are those of the fifteen samples, one strictly after the other.
- `contained_once`: **no call is in two windows**.
- `measured_by_window`, `measured_add_outside`: the measured calls of a transport are those of the windows together, and with
  those outside they are all there are.
-/
import Cruise.Trace.RoundTrip

namespace Cruise.Trace.Summarizer

open Cruise.Lib

/-! ## A trace that is read -/

/-- what a row is read as -/
structure ReadsAs (row : List (List Char)) (call : Call) : Prop where
  api : (((TRACE_FIELDS.zip row).lookup "api").bind fun text => TRACE_APIS.find? fun api => api.name.toList = text) =
    some call.api
  numbers : (TRACE_FIELDS.tail.mapM fun field => ((TRACE_FIELDS.zip row).lookup field).bind readInt) =
    some [call.pid, call.tid, call.start_ns, call.end_ns, call.bytes, call.dest_max, call.kind, call.status]
  accepted : call.Accepted

theorem parseRow_reads {path : String} {line : ℕ} {row : List (List Char)} {call : Call} :
    parseRow path line row = .ok call ↔ ReadsAs row call := by
  unfold parseRow
  dsimp only
  constructor
  · intro h
    split at h
    · rename_i hnumbers
      split at h
      · cases h
      · rename_i hapi
        split_ifs at h with htimes hbytes
        cases h
        rw [not_or, not_le, not_lt] at htimes
        rw [not_or, not_lt, not_lt] at hbytes
        exact ⟨hapi, hnumbers, ⟨htimes.1, htimes.2, hbytes.1, hbytes.2⟩⟩
    · cases h
  · rintro ⟨hapi, hnumbers, haccepted⟩
    rw [hnumbers, hapi]
    dsimp only
    rw [if_neg (not_or.2 ⟨not_le.2 haccepted.start_ns, not_lt.2 haccepted.end_ns⟩),
      if_neg (not_or.2 ⟨not_lt.2 haccepted.bytes, not_lt.2 haccepted.dest_max⟩)]

theorem ReadsAs.text {row : List (List Char)} {call : Call} (h : ReadsAs row call) :
    ∀ n ∈ [call.pid, call.tid, call.start_ns, call.end_ns, call.bytes, call.dest_max, call.kind, call.status],
      ∃ text ∈ row, readInt text = some n := by
  intro n hn
  obtain ⟨field, -, hfield⟩ := forall₂_mem (mapM_some h.numbers) hn
  obtain ⟨text, htext, hread⟩ := Option.bind_eq_some_iff.1 hfield
  exact ⟨text, (List.of_mem_zip (mem_of_lookup htext)).2, hread⟩

/-- **What is read of a trace.** -/
theorem readTrace_reads {path : String} {content : Option Bytes} {calls : List Call} :
    readTrace path content = .ok calls ↔ ∃ text, content.bind decodeText = some text ∧
      (Csv.rows '\t' text).1.headD [] = TRACE_FIELDS.map String.toList ∧ (Csv.rows '\t' text).2 = false ∧
      List.Forall₂ ReadsAs ((Csv.rows '\t' text).1.tail.filter (· ≠ [])) calls := by
  unfold readTrace
  cases hcontent : content.bind decodeText with
  | none => exact iff_of_false (fun h => by cases h) fun ⟨text, htext, _⟩ => by cases htext
  | some text =>
    simp only [Option.some.injEq, exists_eq_left']
    obtain ⟨rows, raises⟩ := Csv.rows '\t' text
    dsimp only
    split
    · rename_i hrows
      cases hrows
      exact iff_of_false (fun h => by cases h) fun h => by cases h.2.1
    · rename_i hrows
      cases hrows
      split
      · rename_i hheader
        exact iff_of_false (fun h => by cases h) fun h => hheader h.1
      · rename_i hheader
        rw [except_bind_ok]
        constructor
        · rintro ⟨read, hread, hend⟩
          split_ifs at hend with hraises
          cases hend
          exact ⟨not_not.1 hheader, Bool.eq_false_of_not_eq_true hraises, (mapM_numbered fun _ _ _ => parseRow_reads).1 hread⟩
        · rintro ⟨-, rfl, hread⟩
          exact ⟨calls, (mapM_numbered fun _ _ _ => parseRow_reads).2 hread, rfl⟩

variable {path : String} {content : Option Bytes} {calls : List Call}

theorem readTrace_row (h : readTrace path content = .ok calls) {call : Call} (hcall : call ∈ calls) :
    ∃ row, (∀ field ∈ row, field.length ≤ Csv.fieldLimit) ∧ ReadsAs row call := by
  obtain ⟨text, -, -, -, hread⟩ := readTrace_reads.1 h
  obtain ⟨row, hrow, hreads⟩ := forall₂_mem hread hcall
  exact ⟨row, Csv.rows_bounded row (List.mem_of_mem_tail (List.mem_filter.1 hrow).1), hreads⟩

theorem readTrace_accepted (h : readTrace path content = .ok calls) : ∀ call ∈ calls, call.Accepted := by
  intro call hcall
  obtain ⟨row, -, hreads⟩ := readTrace_row h hcall
  exact hreads.accepted

/-- **The numbers of a trace that is read fit a field again.** -/
theorem readTrace_short (h : readTrace path content = .ok calls) : ∀ call ∈ calls, call.Short := by
  intro call hcall n hn
  obtain ⟨row, hshort, hreads⟩ := readTrace_row h hcall
  obtain ⟨text, htext, hread⟩ := hreads.text n hn
  exact (readInt_length hread).trans (hshort text htext)

/-! ## The windows -/

/-- the window is that of the sample -/
structure WindowOf (sample : Json) (window : Window) : Prop where
  start_ns : (sample.get "epoch_wall_clock_start_ns").bind asInt = some window.start_ns
  end_ns : (sample.get "epoch_wall_clock_end_ns").bind asInt = some window.end_ns
  positive : window.start_ns < window.end_ns

/-- each window is after those before it -/
def Separate (windows : List Window) : Prop := windows.Pairwise fun a b => a.end_ns < b.start_ns

theorem Separate.concat {windows : List Window} {window : Window} (h : Separate windows)
    (hpositive : ∀ w ∈ windows, w.start_ns < w.end_ns) (hlast : ∀ last ∈ windows.getLast?, last.end_ns < window.start_ns) :
    Separate (windows ++ [window]) := by
  refine List.pairwise_append.2 ⟨h, List.pairwise_singleton _ _, fun w hw w' hw' => ?_⟩
  cases List.mem_singleton.1 hw'
  obtain ⟨before, last, rfl⟩ := (List.eq_nil_or_concat' windows).resolve_left (List.ne_nil_of_mem hw)
  have hafter := hlast last (by simp)
  rcases List.mem_append.1 hw with hw | hw
  · have hbefore : w.end_ns < last.start_ns := (List.pairwise_append.1 h).2.2 w hw last (List.mem_singleton_self _)
    have := hpositive last (by simp)
    omega
  · cases List.mem_singleton.1 hw
    exact hafter

theorem loadWindow_ok {windows windows' : List Window} {sample : Json} (h : loadWindow path windows sample = .ok windows') :
    ∃ window, windows' = windows ++ [window] ∧ WindowOf sample window ∧
      ∀ last ∈ windows.getLast?, last.end_ns < window.start_ns := by
  unfold loadWindow at h
  split_ifs at h
  split at h
  · rename_i start_ns end_ns hstart hend
    split_ifs at h with hpositive hoverlap
    cases h
    refine ⟨⟨start_ns, end_ns⟩, rfl, ⟨hstart, hend, not_le.1 hpositive⟩, fun last hlast => ?_⟩
    rw [Option.mem_def.1 hlast, Option.any_some, decide_eq_true_eq] at hoverlap
    exact not_le.1 hoverlap
  · cases h

/-- **The windows of a benchmark result.** -/
theorem loadWindows_ok {windows : List Window} (h : loadWindows path content = .ok windows) :
    ∃ result samples, readJson content = some result ∧ result.get "samples" = some (.arr samples) ∧ samples.length = 15 ∧
      List.Forall₂ WindowOf samples windows ∧ Separate windows := by
  unfold loadWindows at h
  split at h
  · cases h
  · rename_i result hresult
    split_ifs at h
    split at h
    · rename_i samples hsamples
      split_ifs at h with hlength
      refine ⟨result, samples, hresult, hsamples, not_not.1 hlength, ?_⟩
      refine foldlM_inv (loadWindow path) (fun seen windows => List.Forall₂ WindowOf seen windows ∧ Separate windows)
        samples ?_ ⟨.nil, List.Pairwise.nil⟩ h
      rintro seen sample - windows windows' - ⟨hseen, hseparate⟩ hstep
      obtain ⟨window, rfl, hwindow, hlast⟩ := loadWindow_ok hstep
      refine ⟨List.rel_append hseen (.cons hwindow .nil), hseparate.concat (fun w hw => ?_) hlast⟩
      obtain ⟨s, -, hs⟩ := forall₂_mem hseen hw
      exact hs.positive
    · cases h

theorem loadWindow_of {windows : List Window} {sample : Json} {window : Window} (h : WindowOf sample window)
    (hlast : ∀ last ∈ windows.getLast?, last.end_ns < window.start_ns) :
    loadWindow path windows sample = .ok (windows ++ [window]) := by
  have hobject : sample.items.isNone = false := by
    obtain ⟨value, hvalue, -⟩ := Option.bind_eq_some_iff.1 h.start_ns
    obtain ⟨items, hitems, -⟩ := Option.bind_eq_some_iff.1 hvalue
    rw [hitems, Option.isNone_some]
  have hseparate : ¬(windows.getLast?.any fun last => window.start_ns ≤ last.end_ns) = true := by
    cases hwindows : windows.getLast? with
    | none => exact Bool.noConfusion
    | some last =>
      rw [Option.any_some, decide_eq_true_eq, not_le]
      exact hlast last hwindows
  unfold loadWindow
  rw [hobject, if_neg Bool.noConfusion, h.start_ns, h.end_ns]
  dsimp only
  rw [if_neg (not_le.2 h.positive), if_neg hseparate]

/-- **A result with fifteen such samples is accepted.** -/
theorem loadWindows_of {result : Json} {samples : List Json} {windows : List Window} (hread : readJson content = some result)
    (hsamples : result.get "samples" = some (.arr samples)) (hlength : samples.length = 15)
    (h : List.Forall₂ WindowOf samples windows) (hseparate : Separate windows) : loadWindows path content = .ok windows := by
  have hobject : result.items.isNone = false := by
    obtain ⟨items, hitems, -⟩ := Option.bind_eq_some_iff.1 hsamples
    rw [hitems, Option.isNone_some]
  have hfold {samples : List Json} {seen windows : List Window} (h : List.Forall₂ WindowOf samples windows)
      (hseparate : Separate (seen ++ windows)) : samples.foldlM (loadWindow path) seen = .ok (seen ++ windows) := by
    induction h generalizing seen with
    | nil =>
      rw [List.append_nil]
      rfl
    | @cons sample window samples windows hwindow _ ih =>
      have hlast : ∀ last ∈ seen.getLast?, last.end_ns < window.start_ns := fun last hlast =>
        (List.pairwise_append.1 hseparate).2.2 last (List.mem_of_getLast? hlast) window List.mem_cons_self
      rw [List.append_cons] at hseparate ⊢
      rw [List.foldlM_cons, loadWindow_of hwindow hlast]
      exact ih hseparate
  unfold loadWindows
  rw [hread]
  dsimp only
  rw [hobject, if_neg Bool.noConfusion, hsamples]
  dsimp only
  rw [if_neg (not_not.2 hlength)]
  exact hfold h hseparate

/-! ## What is counted in them -/

theorem contained_iff {window : Window} {call : Call} :
    contained window call = true ↔ window.start_ns ≤ call.start_ns ∧ call.end_ns ≤ window.end_ns := decide_eq_true_iff

/-- **No call is in two windows.** -/
theorem contained_once {windows : List Window} (h : Separate windows) {call : Call} (hcall : call.Accepted) {i j : ℕ}
    {window window' : Window} (hi : windows[i]? = some window) (hj : windows[j]? = some window')
    (hwindow : contained window call = true) (hwindow' : contained window' call = true) : i = j := by
  have hbefore {i j : ℕ} {window window' : Window} (hi : windows[i]? = some window) (hj : windows[j]? = some window')
      (hwindow : contained window call = true) (hwindow' : contained window' call = true) : ¬i < j := by
    intro hlt
    obtain ⟨hi', rfl⟩ := List.getElem?_eq_some_iff.1 hi
    obtain ⟨hj', rfl⟩ := List.getElem?_eq_some_iff.1 hj
    have hseparate := List.pairwise_iff_getElem.1 h i j hi' hj' hlt
    have hend := (contained_iff.1 hwindow).2
    have hstart := (contained_iff.1 hwindow').1
    have := hcall.end_ns
    omega
  exact le_antisymm (not_lt.1 (hbefore hj hi hwindow' hwindow)) (not_lt.1 (hbefore hi hj hwindow hwindow'))

/-- the records of a transport -/
def recordsOf (t : Transport) (calls : List Call) : ℕ := calls.countP fun call => transport call.api = t

theorem countP_disjoint {α : Type} {p q : α → Bool} {l : List α} (h : ∀ a ∈ l, p a = true → q a = false) :
    l.countP (fun a => p a || q a) = l.countP p + l.countP q := by
  induction l with
  | nil => rfl
  | cons a l ih =>
    rw [List.countP_cons, List.countP_cons, List.countP_cons, ih fun b hb => h b (List.mem_cons_of_mem _ hb)]
    have ha := h a List.mem_cons_self
    cases hp : p a with
    | false => simp only [Bool.false_or, Bool.false_eq_true, if_false]; omega
    | true => simp only [ha hp, Bool.true_or, Bool.false_eq_true, if_true, if_false]; omega

/-- **The measured calls are those of the windows**, each counted in one of them. -/
theorem measured_by_window {windows : List Window} (h : Separate windows) (hcalls : ∀ call ∈ calls, call.Accepted)
    (t : Transport) :
    recordsOf t (measuredCalls windows calls) =
      (windows.map fun window => recordsOf t (calls.filter (contained window))).sum := by
  unfold measuredCalls recordsOf
  induction windows with
  | nil => simp
  | cons window windows ih =>
    obtain ⟨hfirst, hrest⟩ := List.pairwise_cons.1 h
    rw [List.map_cons, List.sum_cons, ← ih hrest]
    simp only [List.countP_filter, List.any_cons, Bool.and_or_distrib_left]
    refine countP_disjoint fun call hcall hin => ?_
    rw [Bool.and_eq_true, contained_iff] at hin
    rw [Bool.and_eq_false_iff]
    refine Or.inr (List.any_eq_false.2 fun later hlater hcontained => ?_)
    have hseparate := hfirst later hlater
    have hstart := (contained_iff.1 hcontained).1
    have := (hcalls call hcall).end_ns
    have := hin.2.2
    omega

/-! ## The counters -/

theorem Transport.name_injective : Function.Injective Transport.name := by
  intro t t' h
  cases t <;> cases t' <;> first | rfl | exact absurd h (by decide)

theorem byTransport_nodup (calls : List Call) : ((byTransport calls).map Prod.fst).Nodup := by
  have hperm := (List.perm_insertionSort (fun a b : String × Int => a.1 ≤ b.1)
    (addAll [] (calls.map fun call => ((transport call.api).name, 1)))).map Prod.fst
  have hempty : (([] : List (String × Int)).map Prod.fst).Nodup := List.nodup_nil
  exact hperm.nodup_iff.2 (addAll_nodup hempty _)

/-- **A counter gives the records of each transport.** -/
theorem byTransport_lookup (calls : List Call) (t : Transport) :
    ((byTransport calls).lookup t.name).getD 0 = recordsOf t calls := by
  have hperm := List.perm_insertionSort (fun a b : String × Int => a.1 ≤ b.1)
    (addAll [] (calls.map fun call => ((transport call.api).name, 1)))
  have hlookup := lookup_perm hperm (byTransport_nodup calls) t.name
  unfold byTransport recordsOf
  rw [hlookup, lookup_tally]
  simp only [Transport.name_injective.eq_iff]

/-- **Measured and outside, these are all the records of a transport.** -/
theorem measured_add_outside (windows : List Window) (calls : List Call) (t : Transport) :
    ((byTransport (measuredCalls windows calls)).lookup t.name).getD 0 +
        ((outsideByTransport calls (measuredCalls windows calls)).lookup t.name).getD 0 =
      ((byTransport calls).lookup t.name).getD 0 := by
  have hout := lookup_mapped (fun name n => n - ((byTransport (measuredCalls windows calls)).lookup name).getD 0)
    (byTransport calls) t.name
  unfold outsideByTransport
  rw [hout]
  cases hraw : (byTransport calls).lookup t.name with
  | some n =>
    rw [Option.map_some, Option.getD_some, Option.getD_some]
    omega
  | none =>
    -- none of the calls is of the transport
    have hnone : (recordsOf t calls : Int) = 0 := by
      rw [← byTransport_lookup, hraw, Option.getD_none]
    have hle : recordsOf t (measuredCalls windows calls) ≤ recordsOf t calls := List.Sublist.countP_le List.filter_sublist
    rw [byTransport_lookup, Option.map_none, Option.getD_none, add_zero]
    omega

end Cruise.Trace.Summarizer
