/-
The benchmark counters and their event journal (`benchmark_metrics.py`).

MODEL. What is written to the journal is text, in ASCII; a string is Unicode text. A plan and a result are what is read of
them, their numbers integers. Replaying a rejection that is neither text nor false is not modelled, and no such event is
written. The path, its checks and `flush` are left out; an object without a path has no journal and counts nothing.
- `recorded_journal`: the journal has one line for each call.
- `replay_step`: replaying the line of a call counts what the call counted.
- `replay_as_record`: **replaying the journal gives the record of the live object**, after every sequence of calls.
-/
import Mathlib.Data.String.Basic
import Cruise.Lib.Counter
import Cruise.Lib.Fold
import Cruise.Lib.JsonText
import Cruise.Lib.Lines

namespace Cruise.Scheduler

open Cruise.Lib Cruise.Lib.Json

/-! ## Recording -/

structure ScheduledPlan where
  /-- `len(plan.requests)` -/
  request_count : ℕ
  max_steps : Int

structure EpochResult where
  route : String
  model_calls : Int
  /-- `(str(key), int(value))` of each item -/
  computed_steps : List (String × Int)
  feed_calls : Int
  fetch_calls : Int
  wall_us : Int
  native_cpu_us : Int
  socket_send_calls : Int
  socket_receive_calls : Int
  kv_imported : Bool

structure ResidentEpochBenchmarkMetrics where
  /-- the event file, if there is a path -/
  journal : Option (List Char) := none
  counters : List (String × Int) := []
  rejections : List (String × Int) := []
  epoch_steps : List (Int × Int) := []

namespace ResidentEpochBenchmarkMetrics

/-- `_append_event` -/
def appendEvent (self : ResidentEpochBenchmarkMetrics) (event : Json) : ResidentEpochBenchmarkMetrics :=
  { self with journal := self.journal.map (· ++ (dumps none event ++ ['\n'])) }

/-- `rejection or "unspecified"` -/
def rejectionKey : Option String → String
  | none => "unspecified"
  | some rejection => if rejection = "" then "unspecified" else rejection

/-- the event of a call of `record_schedule` -/
def scheduleEvent (plan : Option ScheduledPlan) (rejection : Option String) : Json :=
  match plan with
  | none => .obj [("kind", .str "schedule"), ("device", .bool false), ("rejection", rejection.elim .null .str)]
  | some plan => .obj [("kind", .str "schedule"), ("device", .bool true), ("request_count", .int plan.request_count),
      ("max_steps", .int plan.max_steps)]

/-- `record_schedule` -/
def recordSchedule (self : ResidentEpochBenchmarkMetrics) (plan : Option ScheduledPlan) (rejection : Option String) :
    ResidentEpochBenchmarkMetrics :=
  if self.journal.isNone then self
  else
    match plan with
    | none =>
      { self with
        counters := addAll self.counters [("schedule_calls", 1), ("host_schedule_calls", 1)]
        rejections := add self.rejections (rejectionKey rejection) 1 }.appendEvent (scheduleEvent plan rejection)
    | some p =>
      { self with
        counters := addAll self.counters [("schedule_calls", 1), ("device_plan_calls", 1),
          ("device_planned_requests", p.request_count), ("device_planned_model_calls", p.max_steps)]
        epoch_steps := add self.epoch_steps p.max_steps 1 }.appendEvent (scheduleEvent plan rejection)

/-- the event of a call of `record_result` -/
def resultEvent (result : EpochResult) : Json :=
  if result.route ≠ "device" then .obj [("kind", .str "result"), ("route", .str result.route)]
  else .obj [
    ("kind", .str "result"), ("route", .str "device"), ("model_calls", .int result.model_calls),
    ("computed_steps", .obj ((dictOf result.computed_steps).map fun item => (item.1, .int item.2))),
    ("feed_calls", .int result.feed_calls), ("fetch_calls", .int result.fetch_calls), ("wall_us", .int result.wall_us),
    ("native_cpu_us", .int result.native_cpu_us), ("socket_send_calls", .int result.socket_send_calls),
    ("socket_receive_calls", .int result.socket_receive_calls), ("kv_imported", .bool result.kv_imported)]

/-- `record_result` -/
def recordResult (self : ResidentEpochBenchmarkMetrics) (result : EpochResult) : ResidentEpochBenchmarkMetrics :=
  if self.journal.isNone then self
  else if result.route ≠ "device" then
    { self with counters := add self.counters "non_device_results" 1 }.appendEvent (resultEvent result)
  else
    let computed_steps := dictOf result.computed_steps
    let counters := addAll self.counters [("device_epochs", 1), ("device_model_calls", result.model_calls),
      ("device_request_tokens", (computed_steps.map Prod.snd).sum), ("feed_calls", result.feed_calls),
      ("fetch_calls", result.fetch_calls), ("native_wall_us", result.wall_us), ("native_cpu_us", result.native_cpu_us),
      ("socket_send_calls", result.socket_send_calls), ("socket_receive_calls", result.socket_receive_calls)]
    let counters := if result.kv_imported then add counters "kv_imports" 1 else counters
    { self with counters := counters }.appendEvent (resultEvent result)

def sortedItems {κ : Type} [LinearOrder κ] (counter : List (κ × Int)) : List (κ × Int) :=
  counter.insertionSort fun a b => a.1 ≤ b.1

/-- `as_record` -/
def asRecord (self : ResidentEpochBenchmarkMetrics) : Json := .obj [
  ("schema_version", .int 1),
  ("kind", .str "Cruise M4a benchmark-only resident epoch counters"),
  ("counters", .obj ((sortedItems self.counters).map fun item => (item.1, .int item.2))),
  ("epoch_steps", .obj ((sortedItems self.epoch_steps).map fun item => (String.ofList (decimal item.1), .int item.2))),
  ("rejections", .obj ((sortedItems self.rejections).map fun item => (item.1, .int item.2)))]

/-! ## Replaying -/

/-- the counters that are named as their members of an event are, but for one -/
def countedMembers : List (String × String) := [("feed_calls", "feed_calls"), ("fetch_calls", "fetch_calls"),
  ("wall_us", "native_wall_us"), ("native_cpu_us", "native_cpu_us"), ("socket_send_calls", "socket_send_calls"),
  ("socket_receive_calls", "socket_receive_calls")]

/-- `int(event[name])` -/
def intMember (event : Json) (name : String) : Option Int := (event.get name).bind toInt

/-- `event.get("rejection") or "unspecified"` -/
def replayedRejection (event : Json) : Option String :=
  match event.get "rejection" with
  | none => some "unspecified"
  | some (.str rejection) => some (rejectionKey (some rejection))
  | some value => if value.truthy then none else some "unspecified"

def replaySchedule (self : ResidentEpochBenchmarkMetrics) (event : Json) : Option ResidentEpochBenchmarkMetrics :=
  if (event.get "device").any truthy then do
    let request_count ← intMember event "request_count"
    let max_steps ← intMember event "max_steps"
    return { self with
      counters := addAll self.counters [("device_plan_calls", 1), ("device_planned_requests", request_count),
        ("device_planned_model_calls", max_steps), ("schedule_calls", 1)]
      epoch_steps := add self.epoch_steps max_steps 1 }
  else do
    let rejection ← replayedRejection event
    return { self with
      counters := addAll self.counters [("host_schedule_calls", 1), ("schedule_calls", 1)]
      rejections := add self.rejections rejection 1 }

def replayResult (self : ResidentEpochBenchmarkMetrics) (event : Json) : Option ResidentEpochBenchmarkMetrics :=
  if (event.get "route").any (·.equalsStr "device") = false then
    some { self with counters := add self.counters "non_device_results" 1 }
  else do
    let model_calls ← intMember event "model_calls"
    let items ← (event.get "computed_steps").bind Json.items
    let computed_steps ← items.mapM fun item => toInt item.2
    let counted ← countedMembers.mapM fun entry => (intMember event entry.1).map fun n => (entry.2, n)
    let counters := addAll self.counters ([("device_epochs", 1), ("device_model_calls", model_calls),
      ("device_request_tokens", computed_steps.sum)] ++ counted)
    return { self with
      counters := if (event.get "kv_imported").any truthy then add counters "kv_imports" 1 else counters }

/-- one line of the journal -/
def replayLine (self : ResidentEpochBenchmarkMetrics) (line : List Char) : Option ResidentEpochBenchmarkMetrics := do
  let event ← loads line
  let _ ← event.items
  if (event.get "kind").any (·.equalsStr "schedule") then self.replaySchedule event
  else if (event.get "kind").any (·.equalsStr "result") then self.replayResult event
  else return self

end ResidentEpochBenchmarkMetrics

/-- `replay_event_journal` -/
def replayEventJournal (journal : List Char) : Option Json :=
  ((lines (universalNewlines journal)).foldlM ResidentEpochBenchmarkMetrics.replayLine {}).map
    ResidentEpochBenchmarkMetrics.asRecord

/-! ## The journal -/

/-- a call of one of the two recording methods -/
inductive MetricsCall where
  | schedule (plan : Option ScheduledPlan) (rejection : Option String)
  | result (r : EpochResult)

namespace MetricsCall

def event : MetricsCall → Json
  | schedule plan rejection => ResidentEpochBenchmarkMetrics.scheduleEvent plan rejection
  | result r => ResidentEpochBenchmarkMetrics.resultEvent r

def line (call : MetricsCall) : List Char := dumps none call.event

end MetricsCall

namespace ResidentEpochBenchmarkMetrics

variable {live replayed : ResidentEpochBenchmarkMetrics}

def record (self : ResidentEpochBenchmarkMetrics) : MetricsCall → ResidentEpochBenchmarkMetrics
  | .schedule plan rejection => self.recordSchedule plan rejection
  | .result result => self.recordResult result

/-- an object with a path whose event file is empty -/
def start : ResidentEpochBenchmarkMetrics := { journal := some [] }

theorem record_journal {journal : List Char} (h : live.journal = some journal) (call : MetricsCall) :
    (live.record call).journal = some (journal ++ (call.line ++ ['\n'])) := by
  have henabled : ¬live.journal.isNone = true := by simp [h]
  cases call with
  | schedule plan rejection =>
    show (live.recordSchedule plan rejection).journal = _
    unfold recordSchedule
    rw [if_neg henabled]
    cases plan with
    | none => exact congrArg (Option.map _) h
    | some plan => exact congrArg (Option.map _) h
  | result result =>
    show (live.recordResult result).journal = _
    unfold recordResult
    rw [if_neg henabled]
    by_cases hroute : result.route ≠ "device"
    · rw [if_pos hroute]
      exact congrArg (Option.map _) h
    · rw [if_neg hroute]
      exact congrArg (Option.map _) h

/-- **The journal has one line for each call.** -/
theorem recorded_journal (calls : List MetricsCall) :
    (calls.foldl record start).journal = some ((calls.map MetricsCall.line).flatMap (· ++ ['\n'])) := by
  induction calls using List.reverseRecOn with
  | nil => rfl
  | append_singleton calls call ih =>
    rw [List.foldl_append, List.foldl_cons, List.foldl_nil, record_journal ih, List.map_append, List.flatMap_append]
    simp

/-! ## One call -/

/-- the same counts, whatever their order -/
structure SameCounts (replayed live : ResidentEpochBenchmarkMetrics) : Prop where
  counters : Agree replayed.counters live.counters
  rejections : Agree replayed.rejections live.rejections
  epoch_steps : Agree replayed.epoch_steps live.epoch_steps

theorem event_plain (call : MetricsCall) : call.event.Plain := by
  cases call with
  | schedule plan rejection =>
    cases plan with
    | none =>
      have hkeys : ["kind", "device", "rejection"].Nodup := by decide
      cases rejection with
      | none => exact ⟨hkeys, trivial, trivial, trivial, trivial⟩
      | some rejection => exact ⟨hkeys, trivial, trivial, trivial, trivial⟩
    | some plan =>
      have hkeys : ["kind", "device", "request_count", "max_steps"].Nodup := by decide
      exact ⟨hkeys, trivial, trivial, trivial, trivial, trivial⟩
  | result result =>
    unfold MetricsCall.event resultEvent
    dsimp only
    split_ifs
    · have hkeys : ["kind", "route"].Nodup := by decide
      exact ⟨hkeys, trivial, trivial, trivial⟩
    · have hkeys : ["kind", "route", "model_calls", "computed_steps", "feed_calls", "fetch_calls", "wall_us",
          "native_cpu_us", "socket_send_calls", "socket_receive_calls", "kv_imported"].Nodup := by decide
      have hsteps : (Json.obj ((dictOf result.computed_steps).map fun item => (item.1, .int item.2))).Plain := by
        refine ⟨?_, plainItems_iff.2 fun item hitem => ?_⟩
        · rw [List.map_map]
          exact dictOf_nodup result.computed_steps
        · obtain ⟨_, -, rfl⟩ := List.mem_map.1 hitem
          trivial
      exact ⟨hkeys, trivial, trivial, trivial, hsteps, trivial, trivial, trivial, trivial, trivial, trivial, trivial,
        trivial⟩

/-- the members of the event a reader finds on the line of a call -/
theorem get_event (call : MetricsCall) (key : String) :
    call.event.sortKeys.get key = (call.event.get key).map sortKeys := get_sortKeys (event_plain call) key

theorem intMember_event {call : MetricsCall} {name : String} {n : Int} (h : call.event.get name = some (.int n)) :
    intMember call.event.sortKeys name = some n := by
  unfold intMember
  rw [get_event, h]
  rfl

theorem replayedRejection_event (rejection : Option String) :
    replayedRejection (MetricsCall.schedule none rejection).event.sortKeys = some (rejectionKey rejection) := by
  have hmember : (MetricsCall.schedule none rejection).event.get "rejection" = some (rejection.elim .null .str) := by
    simp [MetricsCall.event, scheduleEvent, Json.get, Json.items, List.lookup_cons]
  unfold replayedRejection
  rw [get_event, hmember]
  cases rejection with
  | none => rfl
  | some rejection => rfl

/-- **A call that schedules is replayed.** -/
theorem replaySchedule_event (h : SameCounts replayed live) (henabled : ¬live.journal.isNone = true)
    (plan : Option ScheduledPlan) (rejection : Option String) :
    ∃ next, replayed.replaySchedule (MetricsCall.schedule plan rejection).event.sortKeys = some next ∧
      SameCounts next (live.recordSchedule plan rejection) := by
  unfold replaySchedule recordSchedule
  rw [get_event, if_neg henabled]
  cases plan with
  | none =>
    have hdevice : (MetricsCall.schedule none rejection).event.get "device" = some (.bool false) := by
      simp [MetricsCall.event, scheduleEvent, Json.get, Json.items, List.lookup_cons]
    rw [hdevice, Option.map_some, if_neg (by decide), replayedRejection_event]
    exact ⟨_, rfl, h.counters.addAll (.swap _ _ _), h.rejections.add _ 1, h.epoch_steps⟩
  | some plan =>
    have hdevice : (MetricsCall.schedule (some plan) rejection).event.get "device" = some (.bool true) := by
      simp [MetricsCall.event, scheduleEvent, Json.get, Json.items, List.lookup_cons]
    have hcount : (MetricsCall.schedule (some plan) rejection).event.get "request_count" =
        some (.int plan.request_count) := by
      simp [MetricsCall.event, scheduleEvent, Json.get, Json.items, List.lookup_cons]
    have hsteps : (MetricsCall.schedule (some plan) rejection).event.get "max_steps" = some (.int plan.max_steps) := by
      simp [MetricsCall.event, scheduleEvent, Json.get, Json.items, List.lookup_cons]
    rw [hdevice, Option.map_some, if_pos (by decide), intMember_event hcount, intMember_event hsteps]
    -- the live object counts the call first, the replay last
    exact ⟨_, rfl, h.counters.addAll (List.perm_append_singleton _ [_, _, _]), h.rejections,
      h.epoch_steps.add _ 1⟩

/-- the values of `computed_steps`, in the order of the sorted keys -/
theorem computedSteps_event (steps : List (String × Int)) : ∃ items values,
    (Json.obj (steps.map fun item => (item.1, .int item.2))).sortKeys.items = some items ∧
    items.mapM (fun item => toInt item.2) = some values ∧ values.sum = (steps.map Prod.snd).sum := by
  let written := steps.map fun item : String × Int => (item.1, Json.int item.2)
  let number (item : String × Json) : Int := (toInt item.2).getD 0
  have hsorted : sortItems written = written := by
    rw [sortItems_eq, List.map_map]
    rfl
  have hperm := List.perm_insertionSort (fun a b : String × Json => a.1 ≤ b.1) (sortItems written)
  rw [hsorted] at hperm
  refine ⟨_, _, by rw [sortKeys, hsorted]; rfl, mapM_eq_map (g := number) fun item hitem => ?_, ?_⟩
  · obtain ⟨_, -, rfl⟩ := List.mem_map.1 (hperm.mem_iff.1 hitem)
    rfl
  · rw [(hperm.map number).sum_eq, List.map_map]
    rfl

/-- **A call with a result is replayed.** -/
theorem replayResult_event (h : SameCounts replayed live) (henabled : ¬live.journal.isNone = true) (result : EpochResult) :
    ∃ next, replayed.replayResult (MetricsCall.result result).event.sortKeys = some next ∧
      SameCounts next (live.recordResult result) := by
  unfold replayResult recordResult
  rw [get_event, if_neg henabled]
  by_cases hroute : result.route ≠ "device"
  · have hmember : (MetricsCall.result result).event.get "route" = some (.str result.route) := by
      simp [MetricsCall.event, resultEvent, hroute, Json.get, Json.items, List.lookup_cons]
    rw [if_pos hroute, hmember, Option.map_some, if_pos (by simpa [sortKeys, equalsStr] using hroute)]
    exact ⟨_, rfl, h.counters.add _ 1, h.rejections, h.epoch_steps⟩
  · have hevent : (MetricsCall.result result).event = .obj [
        ("kind", .str "result"), ("route", .str "device"), ("model_calls", .int result.model_calls),
        ("computed_steps", .obj ((dictOf result.computed_steps).map fun item => (item.1, .int item.2))),
        ("feed_calls", .int result.feed_calls), ("fetch_calls", .int result.fetch_calls), ("wall_us", .int result.wall_us),
        ("native_cpu_us", .int result.native_cpu_us), ("socket_send_calls", .int result.socket_send_calls),
        ("socket_receive_calls", .int result.socket_receive_calls), ("kv_imported", .bool result.kv_imported)] :=
      if_neg hroute
    have hmember : (MetricsCall.result result).event.get "route" = some (.str "device") := by
      simp [hevent, Json.get, Json.items, List.lookup_cons]
    have hint (name : String) (n : Int) (h : (MetricsCall.result result).event.get name = some (.int n)) :
        intMember (MetricsCall.result result).event.sortKeys name = some n := intMember_event h
    have hcalls := hint "model_calls" result.model_calls (by simp [hevent, Json.get, Json.items, List.lookup_cons])
    have hcounted : (countedMembers.mapM fun entry =>
        (intMember (MetricsCall.result result).event.sortKeys entry.1).map fun n => (entry.2, n)) =
        some [("feed_calls", result.feed_calls), ("fetch_calls", result.fetch_calls), ("native_wall_us", result.wall_us),
          ("native_cpu_us", result.native_cpu_us), ("socket_send_calls", result.socket_send_calls),
          ("socket_receive_calls", result.socket_receive_calls)] := by
      have hfeed := hint "feed_calls" result.feed_calls (by simp [hevent, Json.get, Json.items, List.lookup_cons])
      have hfetch := hint "fetch_calls" result.fetch_calls (by simp [hevent, Json.get, Json.items, List.lookup_cons])
      have hwall := hint "wall_us" result.wall_us (by simp [hevent, Json.get, Json.items, List.lookup_cons])
      have hcpu := hint "native_cpu_us" result.native_cpu_us (by simp [hevent, Json.get, Json.items, List.lookup_cons])
      have hsend := hint "socket_send_calls" result.socket_send_calls (by simp [hevent, Json.get, Json.items, List.lookup_cons])
      have hreceive := hint "socket_receive_calls" result.socket_receive_calls
        (by simp [hevent, Json.get, Json.items, List.lookup_cons])
      simp only [countedMembers, List.mapM_cons, List.mapM_nil, hfeed, hfetch, hwall, hcpu, hsend, hreceive]
      rfl
    obtain ⟨items, values, hitems, hvalues, hsum⟩ := computedSteps_event (dictOf result.computed_steps)
    have hsteps : ((MetricsCall.result result).event.sortKeys.get "computed_steps").bind Json.items = some items := by
      rw [get_event]
      simpa [hevent, Json.get, Json.items, List.lookup_cons] using hitems
    have himported : ((MetricsCall.result result).event.sortKeys.get "kv_imported").any truthy = result.kv_imported := by
      rw [get_event]
      simp [hevent, Json.get, Json.items, List.lookup_cons, sortKeys, truthy]
    rw [if_neg hroute, hmember, Option.map_some, if_neg (by decide), hcalls, hsteps, hcounted]
    simp only [Option.bind_eq_bind, Option.bind_some, hvalues, himported, hsum]
    refine ⟨_, rfl, ?_, h.rejections, h.epoch_steps⟩
    dsimp only [appendEvent]
    split_ifs
    · exact (h.counters.addAll (.refl _)).add "kv_imports" 1
    · exact h.counters.addAll (.refl _)

/-- **A line is replayed.** -/
theorem replay_step (h : SameCounts replayed live) (henabled : ¬live.journal.isNone = true) (call : MetricsCall) :
    ∃ next, replayed.replayLine (call.line ++ ['\n']) = some next ∧ SameCounts next (live.record call) := by
  have hload : loads (call.line ++ ['\n']) = some call.event.sortKeys :=
    loads_dumps none (event_plain call) fun c hc => by
      rw [List.mem_singleton.1 hc]
      rfl
  have hkind {kind : String} (hmember : call.event.get "kind" = some (.str kind)) :
      call.event.sortKeys.get "kind" = some (.str kind) := by
    rw [get_event, hmember]
    rfl
  unfold replayLine
  rw [hload]
  cases call with
  | schedule plan rejection =>
    have hmember := hkind (show (MetricsCall.schedule plan rejection).event.get "kind" = some (.str "schedule") by
      cases plan with
      | none => simp [MetricsCall.event, scheduleEvent, Json.get, Json.items]
      | some plan => simp [MetricsCall.event, scheduleEvent, Json.get, Json.items])
    obtain ⟨items, hitems, -⟩ := Option.bind_eq_some_iff.1 hmember
    simp only [Option.bind_eq_bind, Option.bind_some, hitems, hmember, Option.any_some, equalsStr_iff, if_true]
    exact replaySchedule_event h henabled plan rejection
  | result result =>
    have hmember := hkind (show (MetricsCall.result result).event.get "kind" = some (.str "result") by
      by_cases hroute : result.route = "device"
      · simp [MetricsCall.event, resultEvent, hroute, Json.get, Json.items]
      · simp [MetricsCall.event, resultEvent, hroute, Json.get, Json.items])
    obtain ⟨items, hitems, -⟩ := Option.bind_eq_some_iff.1 hmember
    have hother : ¬(Json.str "result").equalsStr "schedule" = true := by decide
    simp only [Option.bind_eq_bind, Option.bind_some, hitems, hmember, Option.any_some, hother, equalsStr_iff,
      if_true]
    exact replayResult_event h henabled result

theorem record_enabled (h : ¬live.journal.isNone = true) (call : MetricsCall) : ¬(live.record call).journal.isNone = true := by
  obtain ⟨journal, hjournal⟩ : ∃ journal, live.journal = some journal :=
    Option.isSome_iff_exists.1 (Option.isNone_eq_false_iff.1 (Bool.not_eq_true _ ▸ h))
  rw [record_journal hjournal]
  exact Bool.noConfusion

/-- the lines of a run, replayed one by one -/
theorem replay_run (h : SameCounts replayed live) (henabled : ¬live.journal.isNone = true) (calls : List MetricsCall) :
    ∃ final, ((calls.map MetricsCall.line).map (· ++ ['\n'])).foldlM replayLine replayed = some final ∧
      SameCounts final (calls.foldl record live) := by
  induction calls generalizing replayed live with
  | nil => exact ⟨replayed, rfl, h⟩
  | cons call calls ih =>
    obtain ⟨next, hnext, hsame⟩ := replay_step h henabled call
    obtain ⟨final, hfinal, hrun⟩ := ih hsame (record_enabled henabled call)
    refine ⟨final, ?_, hrun⟩
    rw [List.map_cons, List.map_cons, List.foldlM_cons, hnext]
    exact hfinal

theorem asRecord_eq (h : SameCounts replayed live) : replayed.asRecord = live.asRecord := by
  unfold asRecord sortedItems
  rw [h.counters.sorted, h.rejections.sorted, h.epoch_steps.sorted]

end ResidentEpochBenchmarkMetrics

open ResidentEpochBenchmarkMetrics in
/-- **Replaying the journal gives the record of the live object.** -/
theorem replay_as_record (calls : List MetricsCall) : ∃ journal, (calls.foldl record start).journal = some journal ∧
    replayEventJournal journal = some (calls.foldl record start).asRecord := by
  refine ⟨_, recorded_journal calls, ?_⟩
  have hprintable (c : Char) (hc : isPrintable c = false) : ∀ line ∈ calls.map MetricsCall.line, c ∉ line := by
    intro line hline hmem
    obtain ⟨call, -, rfl⟩ := List.mem_map.1 hline
    rw [dumps_printable call.event c hmem] at hc
    cases hc
  have hreturn : '\r' ∉ (calls.map MetricsCall.line).flatMap (· ++ ['\n']) := by
    intro hmem
    obtain ⟨line, hline, hc⟩ := List.mem_flatMap.1 hmem
    exact (List.mem_append.1 hc).elim (hprintable '\r' rfl line hline) (by decide)
  have hempty : SameCounts {} start := ⟨.nil, .nil, .nil⟩
  obtain ⟨final, hfinal, hsame⟩ := replay_run hempty (by decide) calls
  unfold replayEventJournal
  rw [universalNewlines_self hreturn, lines_flatMap (hprintable '\n' rfl), hfinal, Option.map_some, asRecord_eq hsame]

end Cruise.Scheduler
