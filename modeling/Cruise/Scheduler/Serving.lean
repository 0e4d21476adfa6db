/-
What requests are sent, next to decoding them greedily one token at a time.

MODEL. `Serving` is the scheduler and the controller with two ghosts: the tokens whose KV rows the Host holds of each
request, and the requests that have stopped. The Host samples greedily from a KV cache that holds the history, one token
for each request whose tokens are all computed; the decoder of the UDF is of the same model, and a payload brings the KV
rows the Host holds. Requests come and go in any order, are eligible or not, and are decoded on the Host, by a prepared
fallback, or by device epochs of any number of steps.
- `Sent`, `Complete`: what an eligible request has been sent.
- `serving_step`: every step keeps the Host's rows, the device's rows and what was sent together.
- `served_greedy`: in every run, an eligible request is sent its greedy continuation, whatever else is decoded with it.
-/
import Cruise.Controller.Sessions
import Cruise.Scheduler.Continuity

namespace Cruise.Scheduler

open Cruise.Lib Cruise.Worker Cruise.Controller

/-! ## What a request is sent -/

/-- the greedy continuation of its prompt, up to an EOS and to its token limit -/
def Request.greedy (next : List Int → Option Int) (request : Request) : List Int :=
  continuation next request.isEos request.max_tokens request.prompt_token_ids

/-- so far -/
structure Sent (next : List Int → Option Int) (request : Request) : Prop where
  follows : Follows next request.prompt_token_ids request.output_token_ids
  running : ∀ token ∈ request.output_token_ids, request.isEos token = false
  room : request.num_output_tokens < request.max_tokens

/-- until it stopped -/
structure Complete (next : List Int → Option Int) (request : Request) : Prop where
  follows : Follows next request.prompt_token_ids request.output_token_ids
  running : ∀ token ∈ request.output_token_ids.dropLast, request.isEos token = false
  room : request.num_output_tokens ≤ request.max_tokens
  stops : request.num_output_tokens = request.max_tokens ∨ ∃ token ∈ request.output_token_ids.getLast?, request.isEos token = true

section Sent

variable {next : List Int → Option Int} {request : Request}

theorem Sent.initial (h : Sent next request) : request.output_token_ids <+: request.greedy next :=
  h.follows.prefix_continuation (fun token hmem => h.running token (List.dropLast_subset _ hmem)) h.room.le

theorem Complete.eq (h : Complete next request) : request.output_token_ids = request.greedy next :=
  h.follows.eq_continuation h.running h.room h.stops

theorem Request.Arriving.sent (h : request.Arriving) : Sent next request := by
  have hmax := h.max_tokens
  refine ⟨?_, fun token hmem => ?_, ?_⟩
  · rw [h.outputs]
    exact .nil
  · rw [h.outputs] at hmem
    cases hmem
  · unfold Request.num_output_tokens
    rw [h.outputs]
    exact hmax

/-- counts are not sent -/
theorem Sent.counted (h : Sent next request) (num_computed_tokens : ℕ) : Sent next { request with num_computed_tokens } :=
  ⟨h.follows, h.running, h.room⟩

/-- **Tokens that follow are appended** until one stops the request, which then has all it is to be sent. -/
theorem Sent.append {check_stop : StopRule} (hgreedy : check_stop.Greedy) {tokens : List Int} (h : Sent next request)
    (heligible : request.eligible = true) (hfollows : Follows next request.all_token_ids tokens) :
    if (request.appendTokens check_stop tokens).2 = true then Complete next (request.appendTokens check_stop tokens).1
    else Sent next (request.appendTokens check_stop tokens).1 := by
  induction tokens generalizing request with
  | nil => exact h
  | cons token tokens ih =>
    obtain ⟨hnext, hrest⟩ := follows_cons.1 hfollows
    have hsnoc : Follows next request.prompt_token_ids (request.append token).output_token_ids := h.follows.snoc hnext
    have hcount : (request.append token).num_output_tokens = request.num_output_tokens + 1 := List.length_append
    have hroom := h.room
    have hrule : check_stop.stops (request.append token) =
        (request.isEos token || decide (request.max_tokens ≤ (request.append token).num_output_tokens)) := by
      have hlast : (request.append token).output_token_ids.getLast? = some token := List.getLast?_concat
      refine (hgreedy (request.append token) heligible).trans ?_
      unfold StopRule.eosOrLimit
      dsimp only
      rw [hlast]
      rfl
    unfold Request.appendTokens
    dsimp only
    by_cases hstop : check_stop.stops (request.append token) = true
    · rw [if_pos hstop, if_pos rfl]
      refine ⟨hsnoc, fun other hmem => ?_, ?_, ?_⟩
      · have hdrop : (request.append token).output_token_ids.dropLast = request.output_token_ids := List.dropLast_concat
        rw [hdrop] at hmem
        exact h.running other hmem
      · show (request.append token).num_output_tokens ≤ request.max_tokens
        omega
      · rw [hrule] at hstop
        rcases Bool.or_eq_true_iff.1 hstop with heos | hfull
        · exact Or.inr ⟨token, List.getLast?_concat, heos⟩
        · have hfull : request.max_tokens ≤ (request.append token).num_output_tokens := of_decide_eq_true hfull
          left
          show (request.append token).num_output_tokens = request.max_tokens
          omega
    · rw [if_neg hstop]
      rw [hrule] at hstop
      obtain ⟨heos, hmore⟩ := Bool.or_eq_false_iff.1 (Bool.eq_false_iff.2 hstop)
      have hmore := of_decide_eq_false hmore
      refine ih ⟨hsnoc, fun other hmem => ?_, not_le.1 hmore⟩ heligible ?_
      · rcases List.mem_append.1 hmem with hmem | hmem
        · exact h.running other hmem
        · rwa [List.mem_singleton.1 hmem]
      · have hall : (request.append token).all_token_ids = request.all_token_ids ++ [token] :=
          (List.append_assoc _ _ _).symm
        rwa [hall]

end Sent

/-! ## The system -/

structure Serving where
  joint : Joint
  /-- the tokens whose KV rows the Host holds of a request -/
  host_kv : ReqId → List Int
  /-- the requests that have stopped, with what they were sent -/
  stopped : List Request

namespace Serving

def fresh (config : ResidentEpochConfig) (stock : StockConfig) : Serving := ⟨.fresh config stock, fun _ => [], []⟩

def scheduler (t : Serving) : ResidentEpochScheduler := t.joint.engine.scheduler

/-- the tokens of a request that are being computed -/
def pending (t : Serving) (req_id : ReqId) : ℕ :=
  match t.joint.engine.in_flight with
  | none => 0
  | some (out, _) => (out.num_scheduled_tokens.lookup req_id).getD 0

end Serving

/-- the rows of tokens that were computed and still are -/
def KvKept (before after : RequestTable) (host_kv host_kv' : ReqId → List Int) (req_id : ReqId) : Prop :=
  ∀ request request', before.find req_id = some request → after.find req_id = some request' →
    ∀ n ≤ request.num_computed_tokens, n ≤ request'.num_computed_tokens →
      request.all_token_ids.take n <+: host_kv req_id → request.all_token_ids.take n <+: host_kv' req_id

/-- a request of the step in flight, whose rows the Host holds up to what is being computed -/
structure Standing (s : ResidentEpochScheduler) (out : SchedulerOutput) (host_kv : ReqId → List Int) (req_id : ReqId)
    (request : Request) : Prop where
  find : s.requests.find req_id = some request
  scheduled : req_id ∈ out.req_ids
  holds : request.all_token_ids.take
    (request.num_computed_tokens - (out.num_scheduled_tokens.lookup req_id).getD 0) <+: host_kv req_id

/-- a step of the Host: `s'` is the scheduler after it -/
structure HostExecutes (model : GreedyModel) (s s' : ResidentEpochScheduler) (out : SchedulerOutput)
    (output : ModelRunnerOutput) (host_kv host_kv' : ReqId → List Int) : Prop where
  written : ∀ req_id request, Standing s out host_kv req_id request → s'.requests.find req_id ≠ none →
    request.all_token_ids.take request.num_computed_tokens <+: host_kv' req_id
  sampled : ∀ req_id request, Standing s out host_kv req_id request → request.eligible = true →
    request.num_computed_tokens = request.num_tokens →
    ∃ token, model.next request.all_token_ids = some token ∧ newTokens out output req_id = [token]
  unsampled : ∀ req_id request, s.requests.find req_id = some request → request.num_computed_tokens ≠ request.num_tokens →
    newTokens out output req_id = []
  others : ∀ req_id ∉ out.req_ids, KvKept s.requests s'.requests host_kv host_kv' req_id

/-- a payload brings the rows the Host holds -/
def BringsRows (model : GreedyModel) (s : ResidentEpochScheduler) (plan : ResidentEpochPlan) (inp : Inputs)
    (host_kv : ReqId → List Int) : Prop :=
  ∀ planned ∈ plan.requests, planned.kv_import_required = true → ∀ r, planned.sitsIn r → ∀ request,
    s.requests.find planned.req_id = some request → request.all_token_ids.dropLast <+: host_kv planned.req_id →
    model.holds (importedBlocks inp.payload 0 r) (importedBlocks inp.payload (kImportCacheElements * 2) r)
      request.all_token_ids.dropLast

/-- the requests an update stops -/
def stoppedBy (s : ResidentEpochScheduler) (out : SchedulerOutput) (output : ModelRunnerOutput) : List Request :=
  out.req_ids.filterMap fun req_id => (s.requests.find req_id).bind fun request =>
    let (request, stopped) := request.updated s.check_stop out output
    if stopped then some request else none

inductive ServingStep (model : GreedyModel) (t : Serving) : Action → Serving → Prop where
  | core {event joint host_kv} : JointStep t.joint (.core event) joint →
      (∀ req_id, KvKept t.scheduler.requests joint.engine.scheduler.requests t.host_kv host_kv req_id) →
      ServingStep model t (.core event) ⟨joint, host_kv, t.stopped⟩
  | host {out plan output action joint host_kv} : action = .host output ∨ action = .fallback output →
      t.joint.engine.in_flight = some (out, plan) → JointStep t.joint action joint →
      HostExecutes model t.scheduler joint.engine.scheduler out output t.host_kv host_kv →
      ServingStep model t action ⟨joint, host_kv, t.stopped ++ stoppedBy t.scheduler out output⟩
  | epoch {out plan call output joint host_kv} : t.joint.engine.in_flight = some (out, some plan) →
      JointStep t.joint (.epoch call output) joint → (∀ n, GreedyDecoder model (call.env.run_flow_model n)) →
      (∀ inp, readInputs call.plat call.inputs = some inp → BringsRows model t.scheduler plan inp t.host_kv) →
      (∀ req_id ∉ out.req_ids, KvKept t.scheduler.requests joint.engine.scheduler.requests t.host_kv host_kv req_id) →
      ServingStep model t (.epoch call output) ⟨joint, host_kv, t.stopped ++ stoppedBy t.scheduler out output⟩

/-- no request arrives under an id that is being executed -/
def Distinct (t : Serving) : Action → Prop
  | .core (.arrive request) => ∀ flight ∈ t.joint.engine.in_flight, request.request_id ∉ flight.1.req_ids
  | _ => True

theorem Distinct.unshared {t : Serving} {action : Action} (h : Distinct t action) : Unshared t.joint action := by
  cases action with
  | core event =>
    cases event with
    | arrive request => exact fun flight hflight _ => h flight hflight
    | finish _ => exact trivial
    | schedule _ => exact trivial
    | update _ => exact trivial
  | host _ => exact trivial
  | fallback _ => exact trivial
  | epoch _ _ => exact trivial

/-! ## The invariant -/

/-- a planned request, while its plan is in flight -/
structure InEpoch (leases : Leases) (out : SchedulerOutput) (planned : ResidentEpochRequest) (request : Request) : Prop where
  eligible : request.eligible = true
  prefilled : 1 < request.num_prompt_tokens → 0 < request.num_output_tokens
  computed : request.num_computed_tokens = request.num_tokens
  scheduled : out.num_scheduled_tokens.lookup planned.req_id = some 1
  token : request.all_token_ids.getLast? = some planned.token_id
  importing : planned.kv_import_required = true ↔ 1 < request.num_prompt_tokens ∧ planned.req_id ∉ leases.device_owned

structure ServingInvariant (model : GreedyModel) (t : Serving) : Prop where
  joint : JointInvariant t.joint
  sent : ∀ req_id request, t.scheduler.requests.find req_id = some request → request.eligible = true →
    Sent model.next request
  stopped : ∀ request ∈ t.stopped, request.eligible = true → Complete model.next request
  /-- what waits is to be computed from its first token on -/
  waiting : ∀ req_id ∈ t.scheduler.waiting ++ t.scheduler.skipped_waiting, ¬t.joint.engine.Executing req_id ∧
    ∀ request, t.scheduler.requests.find req_id = some request → request.num_computed_tokens = 0
  bounded : ∀ req_id request, t.scheduler.requests.find req_id = some request → req_id ∉ t.scheduler.leases.device_owned →
    request.num_computed_tokens ≤ request.num_tokens
  host : ∀ req_id request, t.scheduler.requests.find req_id = some request → req_id ∉ t.scheduler.leases.device_owned →
    request.all_token_ids.take (request.num_computed_tokens - t.pending req_id) <+: t.host_kv req_id
  device : ∀ req_id r generation request, t.scheduler.leases.holds req_id r generation →
    req_id ∈ t.scheduler.leases.device_owned → t.scheduler.requests.find req_id = some request →
    0 < request.num_output_tokens →
    model.rowHolds t.joint.resident.keyCache t.joint.resident.valueCache r request.all_token_ids.dropLast
  plan : ∀ out plan, t.joint.engine.in_flight = some (out, some plan) → ∀ planned ∈ plan.requests, ∀ request,
    t.scheduler.requests.find planned.req_id = some request → InEpoch t.scheduler.leases out planned request

theorem fresh_serving {config : ResidentEpochConfig} (hconfig : config.Valid) (stock : StockConfig) (model : GreedyModel) :
    ServingInvariant model (.fresh config stock) where
  joint := fresh_joint hconfig stock
  sent := fun _ _ h => (by cases h)
  stopped := fun _ h => (by cases h)
  waiting := fun _ h => (by cases h)
  bounded := fun _ _ h => (by cases h)
  host := fun _ _ h => (by cases h)
  device := fun _ _ _ _ _ _ h => (by cases h)
  plan := fun _ _ h => (by cases h)

/-! ## Arrivals and schedules -/

section Core

variable {model : GreedyModel} {t : Serving} (hi : ServingInvariant model t) {host_kv : ReqId → List Int}

include hi

theorem ServingInvariant.arrive {request : Request} (harriving : request.Arriving)
    (hnew : t.scheduler.requests.find request.request_id = none) (hdistinct : Distinct t (.core (.arrive request)))
    {resident : Controller.Resident} (hresident : resident = t.joint.resident)
    (hjoint : JointInvariant ⟨{ t.joint.engine with scheduler := t.scheduler.addRequest request }, resident⟩)
    (hkept : ∀ req_id, KvKept t.scheduler.requests (t.scheduler.addRequest request).requests t.host_kv host_kv req_id) :
    ServingInvariant model
      ⟨⟨{ t.joint.engine with scheduler := t.scheduler.addRequest request }, resident⟩, host_kv, t.stopped⟩ := by
  subst hresident
  refine ⟨hjoint, fun req_id known h heligible => ?_, hi.stopped, fun req_id hwait => ?_, fun req_id known h hhost => ?_,
    fun req_id known h hhost => ?_, fun req_id r g known hholds howned h hpos => ?_, fun out plan hflight planned hmem known h => ?_⟩
  · rcases addRequest_find h with ⟨-, rfl⟩ | ⟨-, h⟩
    · exact harriving.sent
    · exact hi.sent req_id known h heligible
  · have hwait : req_id ∈ (t.scheduler.waiting ++ [request.request_id]) ++ t.scheduler.skipped_waiting := hwait
    by_cases hid : req_id = request.request_id
    · refine ⟨?_, fun known h => ?_⟩
      · rintro ⟨out, plan, hflight, hmem⟩
        exact hdistinct (out, plan) hflight (hid ▸ hmem)
      · rcases addRequest_find h with ⟨-, rfl⟩ | ⟨hne, -⟩
        · exact harriving.computed
        · exact absurd hid hne
    · have hbefore : req_id ∈ t.scheduler.waiting ++ t.scheduler.skipped_waiting := by
        simp only [List.mem_append, List.mem_singleton] at hwait ⊢
        tauto
      refine ⟨(hi.waiting req_id hbefore).1, fun known h => ?_⟩
      rcases addRequest_find h with ⟨heq, -⟩ | ⟨-, h⟩
      · exact absurd heq hid
      · exact (hi.waiting req_id hbefore).2 known h
  · rcases addRequest_find h with ⟨-, rfl⟩ | ⟨-, h⟩
    · rw [harriving.computed]
      exact Nat.zero_le _
    · exact hi.bounded req_id known h hhost
  · rcases addRequest_find h with ⟨-, rfl⟩ | ⟨-, hold⟩
    · rw [harriving.computed, Nat.zero_sub]
      exact List.nil_prefix
    · exact hkept req_id known known hold h _ (Nat.sub_le _ _) (Nat.sub_le _ _) (hi.host req_id known hold hhost)
  · rcases addRequest_find h with ⟨-, rfl⟩ | ⟨-, h⟩
    · unfold Request.num_output_tokens at hpos
      rw [harriving.outputs] at hpos
      cases hpos
    · exact hi.device req_id r g known hholds howned h hpos
  · rcases addRequest_find h with ⟨hid, -⟩ | ⟨-, h⟩
    · have hids := (hi.joint.engine.plan out plan hflight).ids
      have hplanned : planned.req_id ∈ out.req_ids := hids ▸ List.mem_map_of_mem hmem
      exact absurd (hid ▸ hplanned) (hdistinct _ hflight)
    · exact hi.plan out plan hflight planned hmem known h

theorem ServingInvariant.finish {req_ids : List ReqId} {resident : Controller.Resident}
    (hresident : resident = t.joint.resident)
    (hjoint : JointInvariant ⟨{ t.joint.engine with scheduler := t.scheduler.finishRequests req_ids }, resident⟩)
    (hkept : ∀ req_id, KvKept t.scheduler.requests (t.scheduler.finishRequests req_ids).requests t.host_kv host_kv req_id) :
    ServingInvariant model
      ⟨⟨{ t.joint.engine with scheduler := t.scheduler.finishRequests req_ids }, resident⟩, host_kv, t.stopped⟩ := by
  subst hresident
  have hfind {req_id : ReqId} {known : Request}
      (h : (t.scheduler.finishRequests req_ids).requests.find req_id = some known) :
      t.scheduler.requests.find req_id = some known := ((remove_find _ _ _ _).1 h).2
  refine ⟨hjoint, fun req_id known h => hi.sent req_id known (hfind h), hi.stopped, fun req_id hwait => ?_,
    fun req_id known h => hi.bounded req_id known (hfind h), fun req_id known h hhost => ?_,
    fun req_id r g known hholds howned h => hi.device req_id r g known hholds howned (hfind h),
    fun out plan hflight planned hmem known h => hi.plan out plan hflight planned hmem known (hfind h)⟩
  · obtain ⟨hidle, hfresh⟩ := hi.waiting req_id (finishRequests_waiting hwait)
    exact ⟨hidle, fun known h => hfresh known (hfind h)⟩
  · have hold := hfind h
    exact hkept req_id known known hold h _ (Nat.sub_le _ _) (Nat.sub_le _ _) (hi.host req_id known hold hhost)

/-- what waits after a schedule is to be computed from its first token on -/
theorem ServingInvariant.waits {stock : StockSchedule} (hl : Legit t.scheduler.lane stock) {req_id : ReqId}
    (hwait : req_id ∈ (t.scheduler.afterStock stock).waiting ++ (t.scheduler.afterStock stock).skipped_waiting) :
    req_id ∉ stock.output.req_ids ∧ ∀ request, t.scheduler.requests.find req_id = some request →
      (request.scheduled stock.output).num_computed_tokens = 0 := by
  have hw := hi.joint.engine.scheduler
  have hrunning : req_id ∉ (t.scheduler.afterStock stock).running := fun hrun =>
    waiting_of_running (afterStock_wellFormed hw hl) hrun hwait
  have hnot : req_id ∉ stock.output.req_ids := fun hmem => hrunning (afterStock_scheduled hl hmem)
  refine ⟨hnot, fun request hfind => ?_⟩
  obtain rfl := t.scheduler.requests.keyed hfind
  unfold Request.scheduled
  dsimp only
  split_ifs with hpreempted
  · rfl
  · have hbefore : request.request_id ∈ t.scheduler.waiting ++ t.scheduler.skipped_waiting := by
      refine (queued_iff.1 ((afterStock_queued hl).mem_iff.1 (queued_iff.2 (Or.inr hwait)))).resolve_left fun hrun => ?_
      exact (afterStock_kept hl hrun).elim hrunning hpreempted
    have hcount : stock.output.num_scheduled_tokens.lookup request.request_id = none := by
      by_contra hsome
      obtain ⟨count, hsome⟩ := Option.ne_none_iff_exists'.1 hsome
      exact hnot (key_of_lookup hsome)
    rw [hcount, (hi.waiting _ hbefore).2 request hfind]
    rfl

/-- a request that is no longer Device-owned is not running -/
theorem ServingInvariant.lost {stock : StockSchedule} (hl : Legit t.scheduler.lane stock) {r : Scheduled}
    (hs : ScheduleSpec t.scheduler stock r) {req_id : ReqId} {request : Request}
    (hold : t.scheduler.requests.find req_id = some request) (hhost : req_id ∉ r.scheduler.leases.device_owned) :
    req_id ∉ t.scheduler.leases.device_owned ∨ (request.scheduled stock.output).num_computed_tokens = 0 := by
  by_contra hneither
  obtain ⟨howned, hcomputed⟩ := not_or.1 hneither
  have howned := not_not.1 howned
  have hknown : req_id ∈ (t.scheduler.afterStock stock).queued :=
    (afterStock_queued hl).mem_iff.2 ((hi.joint.engine.scheduler.known _).2 ⟨_, hold⟩)
  rcases queued_iff.1 hknown with hrun | hwait
  · exact hhost (hs.stays howned hrun)
  · exact hcomputed ((hi.waits hl hwait).2 request hold)

/-- the counts of a request that the Host had -/
theorem ServingInvariant.counts {stock : StockSchedule} (hl : Legit t.scheduler.lane stock) {req_id : ReqId}
    {request : Request} (hold : t.scheduler.requests.find req_id = some request)
    (hhost : req_id ∉ t.scheduler.leases.device_owned) :
    (request.scheduled stock.output).num_computed_tokens ≤ request.num_tokens ∧
      (request.scheduled stock.output).num_computed_tokens - (stock.output.num_scheduled_tokens.lookup req_id).getD 0 ≤
        request.num_computed_tokens := by
  obtain rfl := t.scheduler.requests.keyed hold
  have hbound := hi.bounded _ request hold hhost
  by_cases hpreempted : request.request_id ∈ stock.output.preempted_req_ids
  · have hzero : (request.scheduled stock.output).num_computed_tokens = 0 := if_pos hpreempted
    omega
  · rcases scheduled_counts hl hold hpreempted with ⟨-, hsame⟩ | ⟨count, hcount, -, hadded, hle⟩
    · omega
    · rw [hcount, hadded, Option.getD_some]
      omega

omit hi in
/-- what a plan says of its requests -/
theorem planned_inEpoch {s : ResidentEpochScheduler} {stock : StockSchedule} {r : Scheduled}
    (hschedule : s.schedule stock = .ok r) (hs : ScheduleSpec s stock r) {plan : ResidentEpochPlan}
    (hplan : r.plan = some plan) {planned : ResidentEpochRequest} (hmem : planned ∈ plan.requests) {request : Request}
    (h : r.scheduler.requests.find planned.req_id = some request) :
    InEpoch r.scheduler.leases r.output planned request := by
  have hid : planned.req_id ∈ plan.req_ids := List.mem_map_of_mem hmem
  obtain ⟨known, hplanned⟩ := (hs.plan plan hplan).2.requests planned hmem
  have hfind : (s.afterStock stock).requests.find planned.req_id = some request := by
    rw [hs.scheduler] at h
    exact h
  obtain rfl : known = request := Option.some.inj (hplanned.find.symm.trans hfind)
  refine ⟨hplanned.eligible, hplanned.prefilled, hplanned.computed,
    (schedule_inFlight hschedule hplan).1.scheduled _ hid, ?_, ?_⟩
  · rw [List.getLast?_eq_getElem?]
    exact hplanned.token
  · rw [hplanned.importing, decide_eq_true_eq]

theorem ServingInvariant.schedule (hflight : t.joint.engine.in_flight = none) {stock : StockSchedule}
    (hl : Legit t.scheduler.lane stock) {r : Scheduled} (hschedule : t.scheduler.schedule stock = .ok r)
    {resident : Controller.Resident} (hresident : resident = t.joint.resident)
    (hjoint : JointInvariant ⟨⟨r.scheduler, some (r.output, r.plan)⟩, resident⟩)
    (hkept : ∀ req_id, KvKept t.scheduler.requests r.scheduler.requests t.host_kv host_kv req_id) :
    ServingInvariant model ⟨⟨⟨r.scheduler, some (r.output, r.plan)⟩, resident⟩, host_kv, t.stopped⟩ := by
  subst hresident
  have hw := hi.joint.engine.scheduler
  have hs := schedule_spec hw hl hschedule
  have hidle {req_id : ReqId} : t.pending req_id = 0 := by
    unfold Serving.pending
    rw [hflight]
  refine ⟨hjoint, fun req_id request h heligible => ?_, hi.stopped, fun req_id hwait => ?_, fun req_id request h hhost => ?_,
    fun req_id request h hhost => ?_, fun req_id row g request hholds howned h hpos => ?_,
    fun out plan hsome planned hmem request h => ?_⟩
  · obtain ⟨old, hold, rfl⟩ := scheduled_find hs h
    exact (hi.sent req_id old hold heligible).counted _
  · have hwait : req_id ∈ r.scheduler.waiting ++ r.scheduler.skipped_waiting := hwait
    rw [hs.scheduler] at hwait
    obtain ⟨hnot, hzero⟩ := hi.waits hl hwait
    refine ⟨?_, fun request h => ?_⟩
    · rintro ⟨out, plan, hsome, hmem⟩
      cases hsome
      exact hnot (hs.output ▸ hmem)
    · obtain ⟨old, hold, rfl⟩ := scheduled_find hs h
      exact hzero old hold
  · obtain ⟨old, hold, rfl⟩ := scheduled_find hs h
    rcases hi.lost hl hs hold hhost with hbefore | hzero
    · exact (hi.counts hl hold hbefore).1
    · rw [hzero]
      exact Nat.zero_le _
  · obtain ⟨old, hold, rfl⟩ := scheduled_find hs h
    have hpending : Serving.pending ⟨⟨⟨r.scheduler, some (r.output, r.plan)⟩, t.joint.resident⟩, host_kv, t.stopped⟩ req_id =
        (stock.output.num_scheduled_tokens.lookup req_id).getD 0 := by rw [← hs.output]; rfl
    rw [hpending]
    rcases hi.lost hl hs hold hhost with hbefore | hzero
    · have hle := (hi.counts hl hold hbefore).2
      refine hkept req_id old _ hold h _ hle (Nat.sub_le _ _) ?_
      have hheld := hi.host req_id old hold hbefore
      rw [hidle, Nat.sub_zero] at hheld
      exact (List.take_prefix_take_left hle).trans hheld
    · rw [hzero, Nat.zero_sub]
      exact List.nil_prefix
  · obtain ⟨old, hold, rfl⟩ := scheduled_find hs h
    rcases hs.holds hw hholds with ⟨hbefore, -⟩ | ⟨hhost, -⟩
    · exact hi.device req_id row g old hbefore (hs.owned howned) hold hpos
    · exact absurd howned hhost
  · obtain ⟨hout, hplan⟩ := Prod.mk.inj (Option.some.inj hsome)
    subst hout
    exact planned_inEpoch hschedule hs hplan hmem h

end Core

/-! ## Updates -/

theorem append_eligible (check_stop : StopRule) (request : Request) (tokens : List Int) :
    (request.appendTokens check_stop tokens).1.eligible = request.eligible := by
  induction tokens generalizing request with
  | nil => rfl
  | cons token tokens ih =>
    unfold Request.appendTokens
    dsimp only
    split
    · rfl
    · exact ih _

section Updated

variable {s s' : ResidentEpochScheduler} {out : SchedulerOutput} {output : ModelRunnerOutput}
variable {plan : Option ResidentEpochPlan} {next : List Int → Option Int}

/-- the tokens an update has for its eligible requests follow what they have -/
def TokensFollow (next : List Int → Option Int) (s : ResidentEpochScheduler) (out : SchedulerOutput)
    (output : ModelRunnerOutput) : Prop :=
  ∀ req_id request, s.requests.find req_id = some request → request.eligible = true →
    Follows next request.all_token_ids (newTokens out output req_id)

/-- what is still known was not stopped, its counts aside -/
theorem updated_unstopped (hu : Updated s out output plan s') {req_id : ReqId} {request : Request}
    (h : s'.requests.find req_id = some request) : ∃ (old : Request) (num_computed_tokens : ℕ),
      s.requests.find req_id = some old ∧
        Request.appendTokens s.check_stop { old with num_computed_tokens } (newTokens out output req_id) = (request, false) := by
  cases hu with
  | host _ =>
    obtain ⟨old, hold, happend⟩ := superUpdate_unstopped h
    exact ⟨old, old.num_computed_tokens, hold, happend⟩
  | epoch _ haccount =>
    obtain ⟨_, extras, ha⟩ := accounting_iff.1 haccount
    obtain ⟨accounted, haccounted, happend⟩ := superUpdate_unstopped h
    rw [ha.scheduler] at haccounted happend
    obtain ⟨old, hold, rfl⟩ := Option.map_eq_some_iff.1 haccounted
    exact ⟨old, _, hold, happend⟩

theorem updated_sent (hgreedy : s.check_stop.Greedy) (hu : Updated s out output plan s') (hfollows : TokensFollow next s out output)
    (hsent : ∀ req_id request, s.requests.find req_id = some request → request.eligible = true → Sent next request)
    {req_id : ReqId} {request : Request} (h : s'.requests.find req_id = some request) (heligible : request.eligible = true) :
    Sent next request := by
  obtain ⟨old, num_computed_tokens, hold, happend⟩ := updated_unstopped hu h
  have hsame := append_eligible s.check_stop { old with num_computed_tokens } (newTokens out output req_id)
  rw [happend] at hsame
  have heligible : old.eligible = true := hsame.symm.trans heligible
  have hsent := ((hsent req_id old hold heligible).counted num_computed_tokens).append hgreedy heligible
    (hfollows req_id old hold heligible)
  rwa [happend, if_neg Bool.false_ne_true] at hsent

theorem stoppedBy_complete (hgreedy : s.check_stop.Greedy) (hfollows : TokensFollow next s out output)
    (hsent : ∀ req_id request, s.requests.find req_id = some request → request.eligible = true → Sent next request)
    {request : Request} (h : request ∈ stoppedBy s out output) (heligible : request.eligible = true) : Complete next request := by
  obtain ⟨req_id, -, h⟩ := List.mem_filterMap.1 h
  obtain ⟨old, hold, hstops⟩ := Option.bind_eq_some_iff.1 h
  clear h
  obtain rfl := s.requests.keyed hold
  rw [updated_eq] at hstops
  have hsame := append_eligible s.check_stop old (newTokens out output old.request_id)
  dsimp only at hstops
  split_ifs at hstops with hstopped
  cases hstops
  have heligible : old.eligible = true := hsame.symm.trans heligible
  have hcomplete := (hsent _ old hold heligible).append hgreedy heligible (hfollows _ old hold heligible)
  rwa [if_pos hstopped] at hcomplete

/-- a replay computes one token for each request, and samples what the Host has sampled -/
theorem attachHostFallback_ok (out : SchedulerOutput) {req_ids : List ReqId} {attached : ModelRunnerOutput}
    (h : attachHostFallback (some output) req_ids = .ok attached) :
    (∀ req_id, newTokens out attached req_id = newTokens out output req_id) ∧
      ∃ result, attached.result = some result ∧ ∀ req_id ∈ req_ids, result.steps req_id = 1 := by
  cases h
  refine ⟨fun _ => rfl, _, rfl, fun req_id hid => ?_⟩
  have hkey : req_id ∈ (req_ids.map fun req_id => (req_id, (1 : Int))).map Prod.fst := by
    rw [List.map_map]
    exact List.mem_map.2 ⟨req_id, hid, rfl⟩
  obtain ⟨steps, hlookup⟩ := lookup_exists hkey
  obtain ⟨_, -, hitem⟩ := List.mem_map.1 (mem_of_lookup hlookup)
  unfold ResidentEpochResult.steps
  dsimp only
  rw [hlookup, ← (Prod.mk.inj hitem).2]
  rfl

/-- the schedule has counted that token already -/
theorem fallback_appended {plan : ResidentEpochPlan} {attached : ModelRunnerOutput}
    (hattach : attachHostFallback (some output) plan.req_ids = .ok attached)
    (hone : ∀ req_id ∈ plan.req_ids, ∀ request, s.requests.find req_id = some request →
      out.num_scheduled_tokens.lookup req_id = some 1)
    (hu : Updated s out attached (some plan) s') {req_id : ReqId} {request : Request}
    (h : s'.requests.find req_id = some request) : ∃ old, s.requests.find req_id = some old ∧
      request = { old with output_token_ids := old.output_token_ids ++ newTokens out output req_id } := by
  obtain ⟨htokens, _, hattached, hsteps⟩ := attachHostFallback_ok out hattach
  cases hu with
  | @epoch _ result accounted hresult haccount =>
    obtain rfl := Option.some.inj (hattached.symm.trans hresult)
    obtain ⟨sampled_by_req, extras, ha⟩ := accounting_iff.1 haccount
    have hexact := accounted_exactly ha
    obtain ⟨known, hknown, rfl⟩ := superUpdate_appended h
    have hfind := hknown
    rw [ha.scheduler] at hfind
    obtain ⟨old, hold, hadvanced⟩ := Option.map_eq_some_iff.1 hfind
    have hcount : known.num_computed_tokens = old.num_computed_tokens := by
      by_cases hid : req_id ∈ plan.req_ids
      · obtain ⟨request', hrequest', hadded⟩ := hexact.advanced req_id hid old hold
        obtain rfl : known = request' := Option.some.inj (hknown.symm.trans hrequest')
        rw [hsteps req_id hid, hone req_id hid old hold] at hadded
        have hadded : (known.num_computed_tokens : Int) = old.num_computed_tokens + (1 - (1 : ℕ)) := hadded
        omega
      · rw [hexact.others req_id hid] at hknown
        rw [Option.some.inj (hknown.symm.trans hold)]
    obtain rfl : known = old := by
      rw [← hadvanced] at hcount ⊢
      unfold Request.advanced at hcount ⊢
      dsimp only at hcount ⊢
      rw [hcount]
    exact ⟨known, hold, by rw [htokens]⟩

end Updated

section Updates

variable {model : GreedyModel} {t : Serving} (hi : ServingInvariant model t) {host_kv : ReqId → List Int}

include hi

/-- what a request of the step in flight has on the Host -/
theorem ServingInvariant.standing {out : SchedulerOutput} {plan : Option ResidentEpochPlan}
    (hflight : t.joint.engine.in_flight = some (out, plan)) {req_id : ReqId} (hid : req_id ∈ out.req_ids)
    (hhost : req_id ∉ t.scheduler.leases.device_owned) {request : Request}
    (hfind : t.scheduler.requests.find req_id = some request) : Standing t.scheduler out t.host_kv req_id request := by
  have hheld := hi.host req_id request hfind hhost
  unfold Serving.pending at hheld
  rw [hflight] at hheld
  exact ⟨hfind, hid, hheld⟩

/-- what is not in the step in flight has on the Host all that is computed of it -/
theorem ServingInvariant.unscheduled {out : SchedulerOutput} {plan : Option ResidentEpochPlan}
    (hflight : t.joint.engine.in_flight = some (out, plan)) {req_id : ReqId} (hid : req_id ∉ out.req_ids)
    (hhost : req_id ∉ t.scheduler.leases.device_owned) {request : Request}
    (hfind : t.scheduler.requests.find req_id = some request) :
    request.all_token_ids.take request.num_computed_tokens <+: t.host_kv req_id := by
  have hheld := hi.host req_id request hfind hhost
  have hnone : out.num_scheduled_tokens.lookup req_id = none := by
    by_contra hsome
    obtain ⟨count, hsome⟩ := Option.ne_none_iff_exists'.1 hsome
    exact hid (key_of_lookup hsome)
  unfold Serving.pending at hheld
  rw [hflight] at hheld
  dsimp only at hheld
  rwa [hnone, Option.getD_none, Nat.sub_zero] at hheld

/-- **A step of the Host.** -/
theorem ServingInvariant.hostUpdate (hgreedy : t.scheduler.check_stop.Greedy) {out : SchedulerOutput} {plan : Option ResidentEpochPlan}
    (hflight : t.joint.engine.in_flight = some (out, plan)) {output : ModelRunnerOutput} {s : ResidentEpochScheduler}
    (hu : Updated t.scheduler out output plan s) (hhost : onDevice output = false)
    (hlane : ∀ req_id ∈ out.req_ids, req_id ∉ t.scheduler.leases.device_owned)
    (happended : ∀ req_id request, s.requests.find req_id = some request → ∃ old, t.scheduler.requests.find req_id = some old ∧
      request = { old with output_token_ids := old.output_token_ids ++ newTokens out output req_id })
    (hexec : HostExecutes model t.scheduler s out output t.host_kv host_kv)
    (hjoint : JointInvariant ⟨⟨s, none⟩, t.joint.resident⟩) :
    ServingInvariant model ⟨⟨⟨s, none⟩, t.joint.resident⟩, host_kv, t.stopped ++ stoppedBy t.scheduler out output⟩ := by
  have howned := updated_host hu hhost
  have hids (p : ResidentEpochPlan) (hp : plan = some p) : p.req_ids = out.req_ids :=
    (hi.joint.engine.plan out p (hp ▸ hflight)).ids
  have hfollows : TokensFollow model.next t.scheduler out output := by
    intro req_id request hfind heligible
    by_cases hid : req_id ∈ out.req_ids
    · by_cases hall : request.num_computed_tokens = request.num_tokens
      · obtain ⟨token, hnext, htokens⟩ :=
          hexec.sampled req_id request (hi.standing hflight hid (hlane req_id hid) hfind) heligible hall
        rw [htokens]
        exact .cons hnext .nil
      · rw [hexec.unsampled req_id request hfind hall]
        exact .nil
    · unfold newTokens
      rw [if_neg hid]
      exact .nil
  refine ⟨hjoint, fun req_id request h heligible => updated_sent hgreedy hu hfollows hi.sent h heligible,
    fun request hmem heligible => ?_, fun req_id hwait => ?_, fun req_id request h hnot => ?_,
    fun req_id request h hnot => ?_, fun req_id r g request hholds hmem h hpos => ?_, fun _ _ h => (by cases h)⟩
  · rcases List.mem_append.1 hmem with hmem | hmem
    · exact hi.stopped request hmem heligible
    · exact stoppedBy_complete hgreedy hfollows hi.sent hmem heligible
  · obtain ⟨hidle, hfresh⟩ := hi.waiting req_id (updated_waiting hu hwait)
    refine ⟨Engine.unexecuted rfl req_id, fun request h => hfresh request (updated_others hu hids ?_ h)⟩
    exact fun hid => hidle ⟨out, plan, hflight, hid⟩
  · obtain ⟨old, hold, rfl⟩ := happended req_id request h
    have hbound := hi.bounded req_id old hold (howned ▸ hnot)
    have hsum := old.num_tokens_eq
    refine hbound.trans ?_
    rw [hsum, Request.num_tokens_eq]
    refine Nat.add_le_add_left ?_ _
    show old.output_token_ids.length ≤ (old.output_token_ids ++ _).length
    rw [List.length_append]
    exact Nat.le_add_right _ _
  · have hnot : req_id ∉ t.scheduler.leases.device_owned := howned ▸ hnot
    show request.all_token_ids.take (request.num_computed_tokens - 0) <+: host_kv req_id
    rw [Nat.sub_zero]
    by_cases hid : req_id ∈ out.req_ids
    · obtain ⟨old, hold, rfl⟩ := happended req_id request h
      have hbound := hi.bounded req_id old hold hnot
      have hwritten := hexec.written req_id old (hi.standing hflight hid hnot hold) (Option.ne_none_iff_exists'.2 ⟨_, h⟩)
      have hall : Request.all_token_ids { old with output_token_ids := old.output_token_ids ++ newTokens out output req_id } =
          old.all_token_ids ++ newTokens out output req_id := (List.append_assoc _ _ _).symm
      rw [hall, List.take_append_of_le_length hbound]
      exact hwritten
    · have hold := updated_others hu hids hid h
      exact hexec.others req_id hid request request hold h _ le_rfl le_rfl (hi.unscheduled hflight hid hnot hold)
  · have hmem : req_id ∈ t.scheduler.leases.device_owned := howned ▸ hmem
    have hother : req_id ∉ out.req_ids := fun hid => hlane req_id hid hmem
    exact hi.device req_id r g request ((updated_holds hu).1 hholds) hmem (updated_others hu hids hother h) hpos

/-- **A row of a committed epoch** goes on from the tokens of its request, whether the row was imported, held them already or
starts a generation. -/
theorem ServingInvariant.epochRow {out : SchedulerOutput} {plan : ResidentEpochPlan}
    (hflight : t.joint.engine.in_flight = some (out, some plan)) {call : ProcCall} {inp : Inputs} {e : Emission}
    {output : ModelRunnerOutput} (hc : Committed t.joint.resident plan call inp e output)
    (hdecoder : ∀ n, GreedyDecoder model (call.env.run_flow_model n)) (hrows : BringsRows model t.scheduler plan inp t.host_kv)
    {planned : ResidentEpochRequest} (hmem : planned ∈ plan.requests) {r : Row} (hsits : planned.sitsIn r) {request : Request}
    (hfind : t.scheduler.requests.find planned.req_id = some request) :
    Follows model.next request.all_token_ids (e.tokens r) ∧
      model.rowHolds (call.run t.joint.resident).resident.keyCache (call.run t.joint.resident).resident.valueCache r
        (request.all_token_ids ++ e.tokens r).dropLast := by
  obtain ⟨inp', d, hread, halloc, hemission, hresident⟩ := proc_emitted hc.emitted
  obtain rfl : inp = inp' := Option.some.inj (hc.read.symm.trans hread)
  have hstatus : (Controller.epoch call.env inp d).2.1 = .ok := by
    have hok := hc.status
    rw [hemission, epoch_status] at hok
    exact (Status.code_eq_zero _).1 hok
  have hepoch : Controller.epoch call.env inp d = ((Controller.epoch call.env inp d).1, .ok, e) :=
    Prod.ext rfl (Prod.ext hstatus hemission.symm)
  have hmetadata := allocResident_metadata halloc
  have hp := hi.joint.plan out plan hflight
  have hrow := hc.carries.row planned hmem r hsits
  have hlease := hp.row planned hmem r hsits
  have hplanned := hi.plan out plan hflight planned hmem request hfind
  have hactive : inp.active r ≠ 0 := hrow.active.trans_ne one_ne_zero
  have hposition := hp.tokens planned hmem request hfind
  have hprompt : 0 < request.num_prompt_tokens := List.length_pos_iff.2 (hi.joint.prompt _ _ hfind)
  have hsum := request.num_tokens_eq
  have hlength : request.all_token_ids.dropLast.length = request.num_tokens - 1 := List.length_dropLast
  have hprimed : Primed model inp d r request.all_token_ids.dropLast := by
    refine ⟨?_, fun hfresh => ?_, fun himported => ?_, fun himported hfresh => ?_⟩
    · rw [hrow.position, hlength]
      omega
    · rcases epoch_continues hepoch hactive hfresh.2.1 with ⟨-, hstale⟩ | ⟨hstarts, -⟩
      · exact absurd hfresh hstale
      · have hzero := hrow.position.symm.trans hstarts.position
        exact List.length_eq_zero_iff.1 (by omega)
    · have himport : planned.kv_import_required = true := hrow.masked.symm.trans himported.2
      have hhost := (hplanned.importing.1 himport).2
      have hid : planned.req_id ∈ out.req_ids := (hi.joint.engine.plan out plan hflight).ids ▸ List.mem_map_of_mem hmem
      have hheld := (hi.standing hflight hid hhost hfind).holds
      rw [hplanned.scheduled, Option.getD_some, hplanned.computed] at hheld
      refine hrows planned hmem himport r hsits request hfind ?_
      rw [List.dropLast_eq_take]
      exact hheld
    · have hc := ((epoch_continues hepoch hactive himported).resolve_right fun h => hfresh h.2).1
      have hgeneration := hc.generation
      have hheldPosition := hc.position
      rw [hmetadata] at hgeneration hheldPosition
      have howned : planned.req_id ∈ t.scheduler.leases.device_owned := by
        by_contra hhost
        exact hi.joint.host _ r _ hlease hhost (hgeneration.trans hrow.generation)
      have houtputs : 0 < request.num_output_tokens := by
        by_contra hnone
        have hmore := mt hplanned.prefilled hnone
        have hheld := (hi.joint.device _ r _ hlease howned).position
        rw [hheldPosition, hrow.position] at hheld
        omega
      exact alloc_rowHolds halloc (hi.device _ r _ request hlease howned hfind houtputs)
  have htable : FixedTable inp.block_table := hc.carries.block_table
  obtain ⟨hfollows, hholds⟩ := epoch_history hdecoder htable hepoch hactive hprimed
  have hall : request.all_token_ids.dropLast ++ [inp.token r] = request.all_token_ids := by
    refine List.dropLast_append_getLast? _ ?_
    rw [hplanned.token, hrow.token]
    rfl
  rw [hall] at hfollows
  rw [List.append_cons, hall] at hholds
  refine ⟨hfollows, ?_⟩
  have hresident : (call.run t.joint.resident).resident = (Controller.epoch call.env inp d).1.toResident := hresident
  rw [hresident]
  exact hholds

/-- **A committed epoch.** -/
theorem ServingInvariant.epochUpdate (hgreedy : t.scheduler.check_stop.Greedy) {out : SchedulerOutput} {plan : ResidentEpochPlan}
    (hflight : t.joint.engine.in_flight = some (out, some plan)) {call : ProcCall} {inp : Inputs} {e : Emission}
    {output : ModelRunnerOutput} (hc : Committed t.joint.resident plan call inp e output)
    (hdecoder : ∀ n, GreedyDecoder model (call.env.run_flow_model n)) (hrows : BringsRows model t.scheduler plan inp t.host_kv)
    {s : ResidentEpochScheduler} (hu : Updated t.scheduler out output (some plan) s)
    (hkept : ∀ req_id ∉ out.req_ids, KvKept t.scheduler.requests s.requests t.host_kv host_kv req_id)
    (hjoint : JointInvariant ⟨⟨s, none⟩, (call.run t.joint.resident).resident⟩) :
    ServingInvariant model
      ⟨⟨⟨s, none⟩, (call.run t.joint.resident).resident⟩, host_kv, t.stopped ++ stoppedBy t.scheduler out output⟩ := by
  have hp := hi.joint.plan out plan hflight
  have hf := hi.joint.engine.plan out plan hflight
  have hids (p : ResidentEpochPlan) (hplan : some plan = some p) : p.req_ids = out.req_ids := Option.some.inj hplan ▸ hf.ids
  have htokens {planned : ResidentEpochRequest} (hmem : planned ∈ plan.requests) {r : Row} (hsits : planned.sitsIn r) :
      newTokens out output planned.req_id = e.tokens r := by
    unfold newTokens
    rw [if_pos (hf.ids ▸ List.mem_map_of_mem hmem), hc.tokens planned hmem r hsits]
    rfl
  have hfollows : TokensFollow model.next t.scheduler out output := by
    intro req_id request hfind _
    by_cases hid : req_id ∈ out.req_ids
    · obtain ⟨planned, hmem, rfl⟩ := List.mem_map.1 (hf.ids ▸ hid : req_id ∈ plan.req_ids)
      obtain ⟨r, hsits⟩ := sitsIn_exists hp.valid hp.batch hmem
      rw [htokens hmem hsits]
      exact (hi.epochRow hflight hc hdecoder hrows hmem hsits hfind).1
    · unfold newTokens
      rw [if_neg hid]
      exact .nil
  -- a request that is still on the Host was not planned
  have hhost {req_id : ReqId} (hnot : req_id ∉ s.leases.device_owned) :
      req_id ∉ out.req_ids ∧ req_id ∉ t.scheduler.leases.device_owned :=
    ⟨fun hid => hnot (updated_device hu (fun p hplan => Option.some.inj hplan ▸ hf) hc.route hid),
      fun hmem => hnot (updated_owned hu hmem)⟩
  refine ⟨hjoint, fun req_id request h heligible => updated_sent hgreedy hu hfollows hi.sent h heligible,
    fun request hmem heligible => ?_, fun req_id hwait => ?_, fun req_id request h hnot => ?_,
    fun req_id request h hnot => ?_, fun req_id r g request hholds _ h _ => ?_, fun _ _ h => (by cases h)⟩
  · rcases List.mem_append.1 hmem with hmem | hmem
    · exact hi.stopped request hmem heligible
    · exact stoppedBy_complete hgreedy hfollows hi.sent hmem heligible
  · obtain ⟨hidle, hfresh⟩ := hi.waiting req_id (updated_waiting hu hwait)
    refine ⟨Engine.unexecuted rfl req_id, fun request h => hfresh request (updated_others hu hids ?_ h)⟩
    exact fun hid => hidle ⟨out, some plan, hflight, hid⟩
  · obtain ⟨hid, hbefore⟩ := hhost hnot
    exact hi.bounded req_id request (updated_others hu hids hid h) hbefore
  · obtain ⟨hid, hbefore⟩ := hhost hnot
    have hold := updated_others hu hids hid h
    show request.all_token_ids.take (request.num_computed_tokens - 0) <+: host_kv req_id
    rw [Nat.sub_zero]
    exact hkept req_id hid request request hold h _ le_rfl le_rfl (hi.unscheduled hflight hid hbefore hold)
  · obtain ⟨planned, hmem, rfl, hsits, -⟩ := hp.planned ((updated_holds hu).1 hholds)
    obtain ⟨old, extras, hold, rfl⟩ := updated_appended hu h
    have hheld := (hi.epochRow hflight hc hdecoder hrows hmem hsits hold).2
    have hall : Request.all_token_ids { old.advanced extras with
        output_token_ids := old.output_token_ids ++ newTokens out output planned.req_id } =
      old.all_token_ids ++ e.tokens r := by
      rw [htokens hmem hsits]
      exact (List.append_assoc _ _ _).symm
    rw [hall]
    exact hheld

end Updates

/-! ## Runs -/

/-- **Every step** keeps what the Host holds, what the device holds and what was sent together. -/
theorem serving_step {model : GreedyModel} {t t' : Serving} {action : Action} (hi : ServingInvariant model t)
    (hgreedy : t.scheduler.check_stop.Greedy) (hdistinct : Distinct t action) (h : ServingStep model t action t') :
    ServingInvariant model t' := by
  cases h with
  | @core event joint host_kv hstep hkept =>
    have hjoint := joint_step hi.joint hdistinct.unshared hstep
    cases hstep with
    | core hevent hnext =>
      cases event with
      | arrive request =>
        obtain ⟨harriving, hnew, rfl⟩ := next_arrive hnext
        exact hi.arrive harriving hnew hdistinct rfl hjoint hkept
      | finish req_id =>
        cases hnext
        exact hi.finish rfl hjoint hkept
      | schedule stock =>
        obtain ⟨hidle, hlegit, r, hschedule, rfl⟩ := next_schedule hnext
        exact hi.schedule hidle hlegit hschedule rfl hjoint hkept
      | update output => exact absurd rfl (hevent output)
  | @host out plan output action joint host_kv haction hflight hstep hexec =>
    have hjoint := joint_step hi.joint hdistinct.unshared hstep
    rcases haction with rfl | rfl
    · cases hstep with
      | host hflight' hnext =>
        obtain ⟨out', plan', s, hflight'', hupdate, rfl⟩ := next_update hnext
        obtain ⟨rfl, rfl⟩ := Prod.mk.inj (Option.some.inj (hflight.symm.trans hflight''))
        obtain ⟨rfl, rfl⟩ := Prod.mk.inj (Option.some.inj (hflight.symm.trans hflight'))
        have hu := update_cases hupdate
        refine hi.hostUpdate hgreedy hflight hu ?_ (hi.joint.lane _ hflight) (fun req_id request h => ?_) hexec hjoint
        · cases hu with
          | host hresult =>
            unfold onDevice
            rw [hresult]
            rfl
        · cases hu with
          | host _ => exact superUpdate_appended h
    · cases hstep with
      | @fallback out' plan' output attached engine hflight' hsafe hattach hnext =>
        obtain ⟨out'', plan'', s, hflight'', hupdate, rfl⟩ := next_update hnext
        obtain ⟨rfl, rfl⟩ := Prod.mk.inj (Option.some.inj (hflight.symm.trans hflight''))
        obtain ⟨rfl, rfl⟩ := Prod.mk.inj (Option.some.inj (hflight.symm.trans hflight'))
        have hp := hi.joint.plan _ _ hflight
        have hids := (hi.joint.engine.plan _ _ hflight).ids
        have hu := update_cases hupdate
        have happended (req_id : ReqId) (request : Request) (h : s.requests.find req_id = some request) :=
          fallback_appended hattach (fun req_id hid request hfind => by
            obtain ⟨planned, hmem, rfl⟩ := List.mem_map.1 hid
            exact (hi.plan _ _ hflight planned hmem request hfind).scheduled) hu h
        have hlane (req_id : ReqId) (hmem : req_id ∈ out.req_ids) : req_id ∉ t.scheduler.leases.device_owned := by
          obtain ⟨planned, hplanned, rfl⟩ := List.mem_map.1 (hids ▸ hmem)
          exact hp.owner planned hplanned (of_decide_eq_true (List.all_eq_true.1 hsafe planned hplanned))
        cases hattach
        have hafter := hi.hostUpdate hgreedy hflight hu rfl hlane happended
          ⟨hexec.written, hexec.sampled, hexec.unsampled, hexec.others⟩ hjoint
        exact hafter
  | @epoch out plan call output joint host_kv hflight hstep hdecoder hrows hkept =>
    have hjoint := joint_step hi.joint hdistinct.unshared hstep
    cases hstep with
    | @epoch out' plan' _ inp e _ engine hflight' hc hnext =>
      obtain ⟨out'', plan'', s, hflight'', hupdate, rfl⟩ := next_update hnext
      obtain ⟨rfl, rfl⟩ := Prod.mk.inj (Option.some.inj (hflight.symm.trans hflight''))
      obtain ⟨rfl, hplan⟩ := Prod.mk.inj (Option.some.inj (hflight.symm.trans hflight'))
      cases hplan
      exact hi.epochUpdate hgreedy hflight hc hdecoder (hrows inp hc.read) (update_cases hupdate) hkept hjoint

/-- the stop rule never changes -/
theorem servingStep_check_stop {model : GreedyModel} {t t' : Serving} {action : Action} (h : ServingStep model t action t') :
    t'.scheduler.check_stop = t.scheduler.check_stop := by
  have hjoint {joint : Joint} (hstep : JointStep t.joint action joint) :
      joint.engine.scheduler.check_stop = t.joint.engine.scheduler.check_stop := by
    cases hstep with
    | core _ hnext => exact (next_configured hnext).2
    | host _ hnext => exact (next_configured hnext).2
    | fallback _ _ _ hnext => exact (next_configured hnext).2
    | epoch _ _ hnext => exact (next_configured hnext).2
  cases h with
  | core hstep _ => exact hjoint hstep
  | host _ _ hstep _ => exact hjoint hstep
  | epoch _ hstep _ _ _ => exact hjoint hstep

/-- **In every run, an eligible request is sent its greedy continuation**: what it has been sent begins it, and once it has
stopped it was sent all of it. -/
theorem served_greedy {model : GreedyModel} {config : ResidentEpochConfig} (hconfig : config.Valid) {start : StockConfig}
    (hgreedy : start.check_stop.Greedy) {t : Serving} (h : Run (ServingStep model) Distinct (.fresh config start) t) :
    (∀ req_id request, t.scheduler.requests.find req_id = some request → request.eligible = true →
      request.output_token_ids <+: request.greedy model.next) ∧
      ∀ request ∈ t.stopped, request.eligible = true → request.output_token_ids = request.greedy model.next := by
  have hi : ServingInvariant model t ∧ t.scheduler.check_stop.Greedy := by
    refine Run.invariant (P := fun t : Serving => ServingInvariant model t ∧ t.scheduler.check_stop.Greedy)
      ⟨fresh_serving hconfig start model, hgreedy⟩ ?_ h
    rintro s action s' ⟨hi, hrule⟩ hs hdistinct
    refine ⟨serving_step hi hrule hdistinct hs, ?_⟩
    rw [servingStep_check_stop hs]
    exact hrule
  exact ⟨fun req_id request hfind heligible => (hi.1.sent req_id request hfind heligible).initial,
    fun request hmem heligible => (hi.1.stopped request hmem heligible).eq⟩

/-! ### One request, in two epochs -/

/-- a Host that holds nothing keeps what it holds -/
theorem kvKept_nothing (before after : RequestTable) (req_id : ReqId) :
    KvKept before after (fun _ => []) (fun _ => []) req_id := fun _ _ _ _ _ _ _ h => h

/-- an epoch of request 1 alone -/
theorem row_epoch (session : Session) {scheduled updated : Engine} {out : SchedulerOutput} {state_owner : StateOwner}
    {position : Int} (hflight : scheduled.in_flight = some (out, some (rowPlan 12 position state_owner)))
    (hupdate : scheduled.next (.update rowOutput) = some updated) {e : Emission}
    (hemitted : (proc .granted .echo session.resident (rowInputs 12 position)).emitted = some e)
    (hok : e.control 3 = Status.ok.code) (htokens : e.tokens 0 = [12, 12]) (stopped : List Request) :
    ServingStep .echo ⟨⟨scheduled, session.resident⟩, fun _ => [], stopped⟩ (.epoch (rowProc position) rowOutput)
      ⟨⟨updated, (session.after (rowCall 12 position)).resident⟩, fun _ => [],
        stopped ++ stoppedBy scheduled.scheduler out rowOutput⟩ := by
  have hepoch : JointStep ⟨scheduled, session.resident⟩ (.epoch (rowProc position) rowOutput)
      ⟨updated, ((rowProc position).run session.resident).resident⟩ :=
    .epoch hflight (rowPlan_committed hemitted hok htokens state_owner) hupdate
  rw [after_resident]
  refine .epoch hflight hepoch (fun _ => echo_greedy) (fun inp _ planned hmem himport => ?_)
    fun req_id _ => kvKept_nothing _ _ req_id
  obtain rfl := List.mem_singleton.1 hmem
  cases himport

/-- an event of the scheduler, while the Host holds nothing -/
theorem row_core {engine engine' : Engine} {event : Event} (hevent : ∀ output, event ≠ .update output)
    (hnext : engine.next event = some engine') (resident : Controller.Resident) (stopped : List Request) :
    ServingStep .echo ⟨⟨engine, resident⟩, fun _ => [], stopped⟩ (.core event) ⟨⟨engine', resident⟩, fun _ => [], stopped⟩ :=
  .core (.core hevent hnext) (kvKept_nothing _ _)

theorem served_greedy_row : ∃ t : Serving, t.stopped.map (fun request => request.output_token_ids) = [[12, 12, 12, 12]] ∧
    (∀ req_id request, t.scheduler.requests.find req_id = some request → request.eligible = true →
      request.output_token_ids <+: request.greedy GreedyModel.echo.next) ∧
      ∀ request ∈ t.stopped, request.eligible = true → request.output_token_ids = request.greedy GreedyModel.echo.next := by
  have h : (((Engine.fresh (.make 2 8) (.plain 8)).next (.arrive (greedyRequest 1 [12] 4 9))).any fun arrived =>
      (arrived.next (.schedule aloneStock)).any fun scheduled => scheduled.in_flight.any fun flight =>
        (scheduled.next (.update rowOutput)).any fun updated => (updated.next (.schedule aloneStock)).any fun scheduled' =>
          scheduled'.in_flight.any fun flight' => (scheduled'.next (.update rowOutput)).isSome ∧
            flight.2 = some (rowPlan 12 0 .host) ∧ flight'.2 = some (rowPlan 12 2 .device) ∧
            (stoppedBy scheduled.scheduler flight.1 rowOutput ++ stoppedBy scheduled'.scheduler flight'.1 rowOutput).map
              (fun request => request.output_token_ids) = [[12, 12, 12, 12]]) = true := by
    decide +kernel
  obtain ⟨arrived, harrive, h⟩ := (Option.any_eq_true _ _).1 h
  obtain ⟨scheduled, hschedule, h⟩ := (Option.any_eq_true _ _).1 h
  obtain ⟨⟨out, plan⟩, hflight, h⟩ := (Option.any_eq_true _ _).1 h
  obtain ⟨updated, hupdate, h⟩ := (Option.any_eq_true _ _).1 h
  obtain ⟨scheduled', hschedule', h⟩ := (Option.any_eq_true _ _).1 h
  obtain ⟨⟨out', plan'⟩, hflight', h⟩ := (Option.any_eq_true _ _).1 h
  obtain ⟨hupdate', rfl, rfl, hstopped⟩ := of_decide_eq_true h
  obtain ⟨updated', hupdate'⟩ := Option.isSome_iff_exists.1 hupdate'
  obtain ⟨e, hemitted, hok, htokens, hfirst⟩ := echoing_first
  obtain ⟨e', hemitted', hok', -, htokens', -⟩ := hfirst.next rowRead_valid.1
  have harrived := row_core (fun _ h => by cases h) harrive Controller.init []
  have hscheduled := row_core (fun _ h => by cases h) hschedule Controller.init []
  have hepoch := row_epoch .fresh hflight hupdate hemitted hok htokens []
  have hscheduled' := row_core (fun _ h => by cases h) hschedule' (Session.fresh.after (rowCall 12 0)).resident
    ([] ++ stoppedBy scheduled.scheduler out rowOutput)
  have hepoch' := row_epoch _ hflight' hupdate' hemitted' hok' htokens' ([] ++ stoppedBy scheduled.scheduler out rowOutput)
  have hdistinct : Distinct (.fresh (.make 2 8) (.plain 8)) (.core (.arrive (greedyRequest 1 [12] 4 9))) :=
    fun _ h => by cases h
  have hrun := ((((Run.refl.tail harrived hdistinct).tail hscheduled trivial).tail hepoch trivial).tail hscheduled' trivial).tail
    hepoch' trivial
  exact ⟨_, hstopped, served_greedy ((ResidentEpochConfig.validate_ok_iff _).1 (by decide)) (fun _ _ => rfl) hrun⟩

end Cruise.Scheduler
