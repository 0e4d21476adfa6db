/-
The scheduler next to the resident rows of the controller.

MODEL. `Joint` is the engine core and the members of the UDF object. A committed epoch is one call of `Proc` on the rows
of the plan in flight that ends with status OK, and the output of its step has each request's tokens of its own row
(`ok_epoch_delivered`). A step without a plan and a prepared fallback run on the Host, and the UDF is not called. No
request arrives under the id of one that is being executed by a plan.
- `JointInvariant`: generations, rows and positions on the two sides.
- `joint_step`: every step keeps it.
-/
import Cruise.Controller.Isolation
import Cruise.Scheduler.Decoding
import Cruise.Worker.Request

namespace Cruise.Scheduler

open Cruise.Lib Cruise.Worker Cruise.Controller

/-! ## The joint system -/

structure Joint where
  engine : Engine
  resident : Controller.Resident

def Joint.fresh (config : ResidentEpochConfig) (stock : StockConfig) : Joint := ⟨.fresh config stock, Controller.init⟩

/-- a call of the UDF object -/
structure ProcCall where
  plat : Platform
  env : Env
  inputs : List (Option FlowMsg)

def ProcCall.run (call : ProcCall) (resident : Controller.Resident) : Controller.Outcome :=
  proc call.plat call.env resident call.inputs

/-- what happens in a step; the output is what the model runner returns, before a fallback is attached to it -/
inductive Action where
  /-- an arrival, a finish or a schedule -/
  | core (event : Event)
  /-- a step without a plan -/
  | host (output : ModelRunnerOutput)
  /-- the Host replays a plan that was not submitted -/
  | fallback (output : ModelRunnerOutput)
  | epoch (call : ProcCall) (output : ModelRunnerOutput)

/-- a call on the rows of a plan that ends with status OK, and the output of its step -/
structure Committed (resident : Controller.Resident) (plan : ResidentEpochPlan) (call : ProcCall) (inp : Inputs)
    (e : Emission) (output : ModelRunnerOutput) : Prop where
  read : readInputs call.plat call.inputs = some inp
  carries : CarriesPlan plan inp
  emitted : (call.run resident).emitted = some e
  status : e.control 3 = Status.ok.code
  route : onDevice output = true
  tokens : ∀ planned ∈ plan.requests, ∀ r, planned.sitsIn r → sampledTokens output planned.req_id = some (e.tokens r)

inductive JointStep (t : Joint) : Action → Joint → Prop where
  | core {event engine} : (∀ output, event ≠ .update output) → t.engine.next event = some engine →
      JointStep t (.core event) ⟨engine, t.resident⟩
  | host {out output engine} : t.engine.in_flight = some (out, none) → t.engine.next (.update output) = some engine →
      JointStep t (.host output) ⟨engine, t.resident⟩
  | fallback {out plan output attached engine} : t.engine.in_flight = some (out, some plan) →
      plan.host_replay_safe = true → attachHostFallback (some output) plan.req_ids = .ok attached →
      t.engine.next (.update attached) = some engine → JointStep t (.fallback output) ⟨engine, t.resident⟩
  | epoch {out plan call inp e output engine} : t.engine.in_flight = some (out, some plan) →
      Committed t.resident plan call inp e output → t.engine.next (.update output) = some engine →
      JointStep t (.epoch call output) ⟨engine, (call.run t.resident).resident⟩

/-- the id of an arrival is not being executed by a plan -/
def Unshared (t : Joint) : Action → Prop
  | .core (.arrive request) => ∀ flight ∈ t.engine.in_flight, flight.2.isSome = true → request.request_id ∉ flight.1.req_ids
  | _ => True

/-! ## What the two sides know of a row -/

/-- the row and the generation of a lease -/
structure Leases.holds (leases : Leases) (req_id : ReqId) (r : Row) (generation : Int) : Prop where
  row : leases.rows.lookup req_id = some r.val
  generation : leases.generations.lookup req_id = some generation

/-- a row the device has run -/
structure Held (m : Metadata) (r : Row) (generation : Int) : Prop where
  generation : m.generation r = generation
  valid : m.valid r = 1
  position : 0 < m.position r

/-- the row stands at the last token of its request -/
structure Synced (m : Metadata) (r : Row) (request : Request) : Prop where
  position : m.position r + 1 = request.num_tokens
  length : m.length r = request.num_tokens
  token : request.all_token_ids[request.num_tokens - 1]? = some (m.token r)

/-- a plan in flight, next to the leases and the requests it was made of -/
structure PlannedRows (s : ResidentEpochScheduler) (plan : ResidentEpochPlan) : Prop where
  valid : plan.Valid
  batch : plan.graph_batch_size = 4
  leased : ∀ req_id, s.leases.leased req_id → req_id ∈ plan.req_ids
  row : ∀ planned ∈ plan.requests, ∀ r, planned.sitsIn r → s.leases.holds planned.req_id r planned.generation
  owner : ∀ planned ∈ plan.requests, planned.state_owner = .host → planned.req_id ∉ s.leases.device_owned
  tokens : ∀ planned ∈ plan.requests, ∀ request, s.requests.find planned.req_id = some request →
    planned.position + 1 = request.num_tokens

structure JointInvariant (t : Joint) : Prop where
  engine : EngineInvariant t.engine
  prompt : ∀ req_id request, t.engine.scheduler.requests.find req_id = some request → request.prompt_token_ids ≠ []
  issued : ∀ r, t.resident.metadata.generation r < t.engine.scheduler.leases.next_generation
  host : ∀ req_id r generation, t.engine.scheduler.leases.holds req_id r generation →
    req_id ∉ t.engine.scheduler.leases.device_owned → t.resident.metadata.generation r ≠ generation
  device : ∀ req_id r generation, t.engine.scheduler.leases.holds req_id r generation →
    req_id ∈ t.engine.scheduler.leases.device_owned → Held t.resident.metadata r generation
  /-- a request without outputs has just come back under the id of another -/
  synced : ∀ req_id r generation, t.engine.scheduler.leases.holds req_id r generation →
    req_id ∈ t.engine.scheduler.leases.device_owned → ∀ request,
    t.engine.scheduler.requests.find req_id = some request → 0 < request.num_output_tokens →
    Synced t.resident.metadata r request
  lane : ∀ out, t.engine.in_flight = some (out, none) → ∀ req_id ∈ out.req_ids,
    req_id ∉ t.engine.scheduler.leases.device_owned
  plan : ∀ out plan, t.engine.in_flight = some (out, some plan) → PlannedRows t.engine.scheduler plan

theorem fresh_joint {config : ResidentEpochConfig} (hconfig : config.Valid) (stock : StockConfig) :
    JointInvariant (.fresh config stock) where
  engine := fresh_engine hconfig stock
  prompt := fun _ _ h => (by cases h)
  issued := fun _ => Int.zero_lt_one
  host := fun _ _ _ h => (by cases h.row)
  device := fun _ _ _ h => (by cases h.row)
  synced := fun _ _ _ h => (by cases h.row)
  lane := fun _ h => (by cases h)
  plan := fun _ _ h => (by cases h)

/-! ## Leases after an assignment -/

section Assigned

variable {config : ResidentEpochConfig} {leases leases' : Leases} {req_ids : List ReqId} {req_id : ReqId} {r : Row}
variable {generation : Int}

/-- a lease after an assignment is an earlier one, or has a new generation -/
theorem Assigned.holds (ha : Assigned config leases req_ids leases') (h : leases'.holds req_id r generation) :
    leases.holds req_id r generation ∨ ¬leases.leased req_id ∧ leases.next_generation ≤ generation := by
  by_cases hleased : leases.leased req_id
  · have hid : req_id ∈ req_ids := (ha.leased req_id).1 (key_of_lookup h.row)
    exact Or.inl ⟨(ha.row req_id hleased hid).symm.trans h.row, (ha.generation req_id hleased hid).symm.trans h.generation⟩
  · exact Or.inr ⟨hleased, ha.issued _ (mem_of_lookup h.generation) hleased⟩

/-- a lease after a schedule is an earlier one, or a new one of the Host's -/
theorem ScheduleSpec.holds {s : ResidentEpochScheduler} {stock : StockSchedule} {scheduled : Scheduled}
    (hs : ScheduleSpec s stock scheduled) (hw : WellFormed s) (h : scheduled.scheduler.leases.holds req_id r generation) :
    (s.leases.holds req_id r generation ∧
        (req_id ∉ scheduled.scheduler.leases.device_owned → req_id ∉ s.leases.device_owned)) ∨
      req_id ∉ scheduled.scheduler.leases.device_owned ∧ s.leases.next_generation ≤ generation := by
  rcases hs.leases with hleases | ⟨-, ha⟩
  · rw [hleases] at h ⊢
    exact Or.inl ⟨h, id⟩
  · have hmem : req_id ∈ stock.output.req_ids := (ha.leased req_id).1 (key_of_lookup h.row)
    rcases ha.holds h with hbefore | ⟨hnew, hissued⟩
    · exact Or.inl ⟨hbefore, fun hhost howned => hhost ((ha.owned req_id).2 ⟨howned, fun _ => hmem⟩)⟩
    · exact Or.inr ⟨fun howned => hnew (hw.owned req_id (hs.owned howned)), hissued⟩

end Assigned

/-! ## Leases after an update -/

section Updated

variable {s s' : ResidentEpochScheduler} {out : SchedulerOutput} {output : ModelRunnerOutput}
variable {plan : Option ResidentEpochPlan} {req_id : ReqId} {r : Row} {generation : Int}

theorem updated_holds (hu : Updated s out output plan s') :
    s'.leases.holds req_id r generation ↔ s.leases.holds req_id r generation := by
  have hsame : s'.leases.rows = s.leases.rows ∧ s'.leases.generations = s.leases.generations := by
    cases hu with
    | host _ => exact ⟨rfl, rfl⟩
    | epoch _ haccount =>
      obtain ⟨_, _, ha⟩ := accounting_iff.1 haccount
      rw [ha.scheduler]
      exact ⟨rfl, rfl⟩
  constructor
  · exact fun h => ⟨hsame.1 ▸ h.row, hsame.2 ▸ h.generation⟩
  · exact fun h => ⟨hsame.1.symm ▸ h.row, hsame.2.symm ▸ h.generation⟩

/-- a step on the Host makes no request Device-owned -/
theorem updated_host (hu : Updated s out output plan s') (hhost : onDevice output = false) :
    s'.leases.device_owned = s.leases.device_owned := by
  cases hu with
  | host _ => rfl
  | epoch hresult haccount =>
    obtain ⟨_, _, ha⟩ := accounting_iff.1 haccount
    unfold onDevice at hhost
    rw [hresult, Option.any_some, decide_eq_false_iff_not] at hhost
    rw [ha.scheduler]
    exact if_neg hhost

end Updated

/-! ## A committed epoch -/

section Committed

variable {resident : Controller.Resident} {plan : ResidentEpochPlan} {call : ProcCall} {inp : Inputs} {e : Emission}
variable {output : ModelRunnerOutput}

/-- it is an OK epoch of the controller -/
theorem Committed.epoch (hc : Committed resident plan call inp e output) : ∃ d d',
    d.metadata = resident.metadata ∧ (call.run resident).resident = d'.toResident ∧
      Controller.epoch call.env inp d = (d', .ok, e) :=
  proc_ok hc.read hc.emitted hc.status

/-- a planned row afterwards -/
structure CommittedRow (m' : Metadata) (e : Emission) (planned : ResidentEpochRequest) (r : Row) : Prop where
  tokens : e.tokens r ≠ []
  held : Held m' r planned.generation
  token : (e.tokens r).getLast? = some (m'.token r)
  position : m'.position r = planned.position + (e.tokens r).length
  length : m'.length r = m'.position r + 1

/-- the row stands at the last of the tokens it adds to its request -/
theorem CommittedRow.synced {m' : Metadata} {planned : ResidentEpochRequest} {r : Row} (hrow : CommittedRow m' e planned r)
    {old request : Request} (hstart : planned.position + 1 = old.num_tokens)
    (hall : request.all_token_ids = old.all_token_ids ++ e.tokens r) : Synced m' r request := by
  have hcount : request.num_tokens = old.num_tokens + (e.tokens r).length := by
    show request.all_token_ids.length = _
    rw [hall, List.length_append]
    rfl
  have hposition := hrow.position
  have hlength := hrow.length
  refine ⟨by omega, by omega, ?_⟩
  show request.all_token_ids[request.all_token_ids.length - 1]? = _
  rw [← List.getLast?_eq_getElem?, hall, List.getLast?_append, hrow.token]
  rfl

theorem Committed.row (hc : Committed resident plan call inp e output) {planned : ResidentEpochRequest}
    (hmem : planned ∈ plan.requests) {r : Row} (hsits : planned.sitsIn r) :
    CommittedRow (call.run resident).resident.metadata e planned r := by
  obtain ⟨d, d', -, hresident, hepoch⟩ := hc.epoch
  have hcarries := hc.carries.row planned hmem r hsits
  have hrow : RowResult inp e d' r := epoch_row hepoch (by rw [hcarries.active]; decide)
  have hvalid := (epoch_words hepoch).validated.row r
  have hstart := hvalid.position.1
  have hexecuted := hrow.executed.1
  have hcount : ((e.tokens r).length : Int) = e.executed r := by
    rw [e.tokens_length]
    exact Int.toNat_of_nonneg (by omega)
  have hposition := hrow.position
  rw [hresident]
  refine ⟨fun hnil => ?_, ⟨hrow.generation.trans hcarries.generation, hrow.valid, ?_⟩, hrow.token, ?_, hrow.length⟩
  · rw [hnil] at hcount
    exact absurd hcount (by simp; omega)
  · show 0 < d'.metadata.position r
    omega
  · rw [hcount, ← hcarries.position]
    exact hposition

/-- any other row is as it was -/
theorem Committed.idle (hc : Committed resident plan call inp e output) {r : Row}
    (hempty : ∀ planned ∈ plan.requests, ¬planned.sitsIn r) :
    resident.metadata.SameRow (call.run resident).resident.metadata r := by
  obtain ⟨d, d', hmetadata, hresident, hepoch⟩ := hc.epoch
  rw [hresident, ← hmetadata]
  exact (epoch_idle hepoch (hc.carries.empty r hempty).1).2.2

end Committed

/-- the request a lease is planned for -/
theorem PlannedRows.planned {s : ResidentEpochScheduler} {plan : ResidentEpochPlan} (hp : PlannedRows s plan) {req_id : ReqId}
    {r : Row} {generation : Int} (h : s.leases.holds req_id r generation) :
    ∃ planned ∈ plan.requests, planned.req_id = req_id ∧ planned.sitsIn r ∧ planned.generation = generation := by
  obtain ⟨planned, hmem, rfl⟩ := List.mem_map.1 (hp.leased req_id (key_of_lookup h.row))
  obtain ⟨row, hsits⟩ := sitsIn_exists hp.valid hp.batch hmem
  have hrow := hp.row planned hmem row hsits
  obtain rfl : row = r := Fin.ext (Option.some.inj (hrow.row.symm.trans h.row))
  exact ⟨planned, hmem, rfl, hsits, Option.some.inj (hrow.generation.symm.trans h.generation)⟩

/-- the plan a schedule has just made -/
theorem planned_rows_of {s : ResidentEpochScheduler} (hw : WellFormed s) {out : SchedulerOutput} {leases : Leases}
    {plan : ResidentEpochPlan} (hp : Planned s out leases plan) : PlannedRows { s with leases := leases } plan := by
  have ha := assign_spec hw.leases hp.assigned
  refine ⟨hp.valid, hp.batch, fun req_id hleased => ?_, fun planned hmem r hsits => ?_, fun planned hmem howner => ?_,
    fun planned hmem request h => ?_⟩
  · rw [hp.ids]
    exact (ha.leased req_id).1 hleased
  · obtain ⟨_, hplanned⟩ := hp.requests planned hmem
    obtain ⟨row, hlookup, hrow⟩ := hplanned.row
    have hsame : planned.row = (r.val : Int) := hsits
    obtain rfl : row = r.val := by omega
    exact ⟨hlookup, hplanned.generation⟩
  · obtain ⟨_, hplanned⟩ := hp.requests planned hmem
    intro howned
    rw [hplanned.owner, if_pos howned] at howner
    cases howner
  · obtain ⟨known, hplanned⟩ := hp.requests planned hmem
    obtain rfl : known = request := Option.some.inj (hplanned.find.symm.trans h)
    have hposition := hplanned.position
    omega

/-! ## The steps -/

section Steps

variable {t : Joint} (hi : JointInvariant t)

include hi

theorem JointInvariant.arrive {request : Request} (harriving : request.Arriving)
    (hunshared : Unshared t (.core (.arrive request)))
    (hengine : EngineInvariant { t.engine with scheduler := t.engine.scheduler.addRequest request }) :
    JointInvariant ⟨{ t.engine with scheduler := t.engine.scheduler.addRequest request }, t.resident⟩ := by
  refine ⟨hengine, fun req_id known h => ?_, hi.issued, hi.host, hi.device, fun req_id r g hholds howned known h hpos => ?_,
    hi.lane, fun out plan hflight => ?_⟩
  · rcases addRequest_find h with ⟨-, rfl⟩ | ⟨-, h⟩
    · exact harriving.prompt
    · exact hi.prompt req_id known h
  · rcases addRequest_find h with ⟨-, rfl⟩ | ⟨-, h⟩
    · unfold Request.num_output_tokens at hpos
      rw [harriving.outputs] at hpos
      cases hpos
    · exact hi.synced req_id r g hholds howned known h hpos
  · have hp := hi.plan out plan hflight
    refine ⟨hp.valid, hp.batch, hp.leased, hp.row, hp.owner, fun planned hmem known h => ?_⟩
    rcases addRequest_find h with ⟨hid, -⟩ | ⟨-, h⟩
    · have hids := (hi.engine.plan out plan hflight).ids
      have hplanned : planned.req_id ∈ out.req_ids := hids ▸ List.mem_map_of_mem hmem
      exact absurd (hid ▸ hplanned) (hunshared _ hflight rfl)
    · exact hp.tokens planned hmem known h

theorem JointInvariant.finish (req_ids : List ReqId) :
    JointInvariant ⟨{ t.engine with scheduler := t.engine.scheduler.finishRequests req_ids }, t.resident⟩ := by
  have hfind {req_id : ReqId} {known : Request}
      (h : (t.engine.scheduler.finishRequests req_ids).requests.find req_id = some known) :
      t.engine.scheduler.requests.find req_id = some known := ((remove_find _ _ _ _).1 h).2
  refine ⟨⟨finishRequests_wellFormed hi.engine.scheduler _, hi.engine.plan⟩, fun req_id known h => hi.prompt req_id known (hfind h),
    hi.issued, hi.host, hi.device, fun req_id r g hholds howned known h => hi.synced req_id r g hholds howned known (hfind h),
    hi.lane, fun out plan hflight => ?_⟩
  have hp := hi.plan out plan hflight
  exact ⟨hp.valid, hp.batch, hp.leased, hp.row, hp.owner, fun planned hmem known h => hp.tokens planned hmem known (hfind h)⟩

theorem JointInvariant.schedule {stock : StockSchedule} (hl : Legit t.engine.scheduler.lane stock) {r : Scheduled}
    (hschedule : t.engine.scheduler.schedule stock = .ok r) :
    JointInvariant ⟨⟨r.scheduler, some (r.output, r.plan)⟩, t.resident⟩ := by
  have hw := hi.engine.scheduler
  have hs := schedule_spec hw hl hschedule
  refine ⟨schedule_invariant hs, fun req_id request h => ?_, fun row => (hi.issued row).trans_le hs.next,
    fun req_id row g h hhost => ?_, fun req_id row g h howned => ?_, fun req_id row g h howned request hfind hpos => ?_,
    fun out hflight req_id hmem => ?_, fun out plan hflight => ?_⟩
  · obtain ⟨old, hold, rfl⟩ := scheduled_find hs h
    exact hi.prompt req_id old hold
  · rcases hs.holds hw h with ⟨hbefore, hhost'⟩ | ⟨-, hissued⟩
    · exact hi.host req_id row g hbefore (hhost' hhost)
    · exact ((hi.issued row).trans_le hissued).ne
  · rcases hs.holds hw h with ⟨hbefore, -⟩ | ⟨hhost, -⟩
    · exact hi.device req_id row g hbefore (hs.owned howned)
    · exact absurd howned hhost
  · rcases hs.holds hw h with ⟨hbefore, -⟩ | ⟨hhost, -⟩
    · obtain ⟨old, hold, rfl⟩ := scheduled_find hs hfind
      have hsynced := hi.synced req_id row g hbefore (hs.owned howned) old hold hpos
      exact ⟨hsynced.position, hsynced.length, hsynced.token⟩
    · exact absurd howned hhost
  · obtain ⟨rfl, hplan⟩ := Prod.mk.inj (Option.some.inj hflight)
    exact hs.host hplan req_id (hs.output ▸ hmem)
  · obtain ⟨-, hplan⟩ := Prod.mk.inj (Option.some.inj hflight)
    have hrows := planned_rows_of (afterStock_wellFormed hw hl) (hs.plan plan hplan).2
    rw [← hs.scheduler] at hrows
    exact hrows

/-- an update of a step that ran on the Host -/
theorem JointInvariant.hostUpdate {out : SchedulerOutput} {plan : Option ResidentEpochPlan} {output : ModelRunnerOutput}
    {s : ResidentEpochScheduler} (hids : ∀ p, plan = some p → p.req_ids = out.req_ids)
    (hu : Updated t.engine.scheduler out output plan s) (hhost : onDevice output = false)
    (hlane : ∀ req_id ∈ out.req_ids, req_id ∉ t.engine.scheduler.leases.device_owned)
    (hengine : EngineInvariant ⟨s, none⟩) : JointInvariant ⟨⟨s, none⟩, t.resident⟩ := by
  have howned := updated_host hu hhost
  refine ⟨hengine, fun req_id request h => ?_, fun r => ?_, fun req_id r g h hnot => ?_, fun req_id r g h hmem => ?_,
    fun req_id r g h hmem request hfind hpos => ?_, fun _ h => (by cases h), fun _ _ h => (by cases h)⟩
  · obtain ⟨old, _, hold, rfl⟩ := updated_appended hu h
    exact hi.prompt req_id old hold
  · show _ < s.leases.next_generation
    rw [(updated_leases hu).2]
    exact hi.issued r
  · exact hi.host req_id r g ((updated_holds hu).1 h) (howned ▸ hnot)
  · exact hi.device req_id r g ((updated_holds hu).1 h) (howned ▸ hmem)
  · have hmem : req_id ∈ t.engine.scheduler.leases.device_owned := howned ▸ hmem
    have hother : req_id ∉ out.req_ids := fun hid => hlane req_id hid hmem
    exact hi.synced req_id r g ((updated_holds hu).1 h) hmem request (updated_others hu hids hother hfind) hpos

/-- an update of a committed epoch -/
theorem JointInvariant.epochUpdate {out : SchedulerOutput} {plan : ResidentEpochPlan}
    (hflight : t.engine.in_flight = some (out, some plan)) {call : ProcCall} {inp : Inputs} {e : Emission}
    {output : ModelRunnerOutput} (hc : Committed t.resident plan call inp e output) {s : ResidentEpochScheduler}
    (hu : Updated t.engine.scheduler out output (some plan) s) (hengine : EngineInvariant ⟨s, none⟩) :
    JointInvariant ⟨⟨s, none⟩, (call.run t.resident).resident⟩ := by
  have hp := hi.plan out plan hflight
  have hf := hi.engine.plan out plan hflight
  have howned {planned : ResidentEpochRequest} (hmem : planned ∈ plan.requests) : planned.req_id ∈ s.leases.device_owned :=
    updated_device hu (fun p hplan => Option.some.inj hplan ▸ hf) hc.route (hf.ids ▸ List.mem_map_of_mem hmem)
  refine ⟨hengine, fun req_id request h => ?_, fun r => ?_, fun req_id r g h hnot => ?_, fun req_id r g h _ => ?_,
    fun req_id r g h _ request hfind _ => ?_, fun _ h => (by cases h), fun _ _ h => (by cases h)⟩
  · obtain ⟨old, _, hold, rfl⟩ := updated_appended hu h
    exact hi.prompt req_id old hold
  · show _ < s.leases.next_generation
    rw [(updated_leases hu).2]
    by_cases hrow : ∃ planned ∈ plan.requests, planned.sitsIn r
    · obtain ⟨planned, hmem, hsits⟩ := hrow
      rw [(hc.row hmem hsits).held.generation]
      exact hi.engine.scheduler.leases.below _ (mem_of_lookup (hp.row planned hmem r hsits).generation)
    · rw [(hc.idle fun planned hmem hsits => hrow ⟨planned, hmem, hsits⟩).1]
      exact hi.issued r
  · obtain ⟨planned, hmem, rfl, -, -⟩ := hp.planned ((updated_holds hu).1 h)
    exact absurd (howned hmem) hnot
  · obtain ⟨planned, hmem, -, hsits, rfl⟩ := hp.planned ((updated_holds hu).1 h)
    exact (hc.row hmem hsits).held
  · obtain ⟨planned, hmem, rfl, hsits, -⟩ := hp.planned ((updated_holds hu).1 h)
    obtain ⟨old, extras, hold, rfl⟩ := updated_appended hu hfind
    have hnew : newTokens out output planned.req_id = e.tokens r := by
      unfold newTokens
      rw [if_pos (hf.ids ▸ List.mem_map_of_mem hmem), hc.tokens planned hmem r hsits]
      rfl
    rw [hnew]
    exact (hc.row hmem hsits).synced (hp.tokens planned hmem old hold) (List.append_assoc _ _ _).symm

end Steps

/-- **Every step keeps the two sides together.** -/
theorem joint_step {t t' : Joint} {action : Action} (hi : JointInvariant t) (hunshared : Unshared t action)
    (h : JointStep t action t') : JointInvariant t' := by
  cases h with
  | @core event engine hevent hnext =>
    have hengine := next_invariant hi.engine hnext
    cases event with
    | arrive request =>
      obtain ⟨harriving, -, rfl⟩ := next_arrive hnext
      exact hi.arrive harriving hunshared hengine
    | finish req_id =>
      cases hnext
      exact hi.finish [req_id]
    | schedule stock =>
      obtain ⟨-, hlegit, r, hschedule, rfl⟩ := next_schedule hnext
      exact hi.schedule hlegit hschedule
    | update output => exact absurd rfl (hevent output)
  | host hflight hnext =>
    have hengine := next_invariant hi.engine hnext
    obtain ⟨out, plan, s, hflight', hupdate, rfl⟩ := next_update hnext
    rw [hflight] at hflight'
    cases hflight'
    have hu := update_cases hupdate
    refine hi.hostUpdate (fun _ h => by cases h) hu ?_ (hi.lane _ hflight) hengine
    cases hu with
    | host hresult =>
      unfold onDevice
      rw [hresult]
      rfl
  | fallback hflight hsafe hattach hnext =>
    have hengine := next_invariant hi.engine hnext
    obtain ⟨out, plan, s, hflight', hupdate, rfl⟩ := next_update hnext
    rw [hflight] at hflight'
    cases hflight'
    cases hattach
    have hp := hi.plan _ _ hflight
    have hids := (hi.engine.plan _ _ hflight).ids
    refine hi.hostUpdate (fun _ h => Option.some.inj h ▸ hids) (update_cases hupdate) rfl (fun req_id hmem => ?_) hengine
    obtain ⟨planned, hplanned, rfl⟩ := List.mem_map.1 (hids ▸ hmem)
    exact hp.owner planned hplanned (of_decide_eq_true (List.all_eq_true.1 hsafe planned hplanned))
  | epoch hflight hc hnext =>
    have hengine := next_invariant hi.engine hnext
    obtain ⟨out, plan, s, hflight', hupdate, rfl⟩ := next_update hnext
    rw [hflight] at hflight'
    cases hflight'
    exact hi.epochUpdate hflight hc (update_cases hupdate) hengine

end Cruise.Scheduler
