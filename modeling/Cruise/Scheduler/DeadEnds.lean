/-
Whether a step with Device-owned requests returns.

MODEL. The stock scheduler is that of `DecodesAll`. A step has no dead end when it is planned with every Device-owned
running request, or pauses all of them (`NoDeadEnd`).
Results:
- `no_dead_end_iff`: in every idle state of a run, a step returns exactly when it is `Admissible`: an isolated lane schedules
  something that is not Device-owned, and a batch fits the rows, the generations, the blocks and the logical capacity.
- `companion_dead_end`: a step that is not isolated for an eligible companion with a long prompt ends the engine.
-/
import Cruise.Scheduler.Decoding
import Cruise.Scheduler.HostLane

namespace Cruise.Scheduler

open Cruise.Lib Cruise.Worker

/-! ## A batch that is not isolated -/

/-- what it takes to plan a batch -/
structure Fits (s : ResidentEpochScheduler) (stock : StockSchedule) : Prop where
  batch : stock.output.req_ids.length ≤ s.config.max_batch_size
  generations : s.leases.newIds stock.output.req_ids ≠ [] →
    s.leases.next_generation + (s.leases.newIds stock.output.req_ids).length ≤ 2 ^ 31
  blocks : ∀ req_id ∈ stock.output.req_ids, ∃ block_ids, stock.block_ids req_id = [block_ids] ∧ block_ids ≠ []
  capacity : ∀ epoch_steps ∈ epochSteps s.config.max_steps ((s.requestsOf stock.output.req_ids).map Request.remaining),
    ∀ request ∈ s.requestsOf stock.output.req_ids,
      (request.num_tokens : Int) - 1 + epoch_steps ≤ s.config.logical_capacity

section Batch

variable {s : ResidentEpochScheduler} {stock : StockSchedule}

theorem mem_requestsOf {req_ids : List ReqId} {request : Request} :
    request ∈ s.requestsOf req_ids ↔ request.request_id ∈ req_ids ∧ s.requests.find request.request_id = some request := by
  unfold ResidentEpochScheduler.requestsOf
  rw [List.mem_filterMap]
  constructor
  · rintro ⟨req_id, hid, hfind⟩
    obtain rfl := s.requests.keyed hfind
    exact ⟨hid, hfind⟩
  · exact fun h => ⟨_, h⟩

/-- why nothing is isolated -/
theorem isolation_none (hdevice : s.deviceRunning ≠ []) (h : s.isolation = none) :
    (∀ req_id ∈ s.running, req_id ∉ s.leases.device_owned → ∀ request, s.requests.find req_id = some request →
      request.eligible = true ∧ request.num_prompt_tokens ≤ request.num_computed_tokens) ∧
    ((∀ req_id ∈ s.waiting ++ s.skipped_waiting, ∀ request, s.requests.find req_id = some request →
      request.eligible = true ∧ request.num_prompt_tokens ≤ 1) ∨ s.max_num_running_reqs ≤ s.running.length) := by
  unfold ResidentEpochScheduler.isolation ResidentEpochScheduler.hostIsolationReason at h
  dsimp only at h
  split_ifs at h with hnone hunsupported hprefill hwaiting
  · exact absurd hnone hdevice
  refine ⟨fun req_id hrun hhost request hfind => ?_, ?_⟩
  · have hkey := s.requests.keyed hfind
    have hpaused : req_id ∉ s.deviceRunning := fun hmem => hhost (of_decide_eq_true (List.mem_filter.1 hmem).2)
    have hmem : request ∈ s.requestsOf (s.running.filter fun req_id => req_id ∉ s.deviceRunning) := by
      rw [mem_requestsOf, hkey]
      exact ⟨List.mem_filter.2 ⟨hrun, decide_eq_true hpaused⟩, hfind⟩
    refine ⟨?_, not_lt.1 fun hlt => hprefill ⟨request, hmem, hlt⟩⟩
    by_contra hineligible
    exact hunsupported ⟨request, hmem, by simpa using hineligible⟩
  · rcases lt_or_ge (s.running.length : Int) s.max_num_running_reqs with hroom | hfull
    · refine Or.inl fun req_id hwait request hfind => ?_
      have hkey := s.requests.keyed hfind
      have hmem : request ∈ s.requestsOf (s.waiting ++ s.skipped_waiting) := by
        rw [mem_requestsOf, hkey]
        exact ⟨hwait, hfind⟩
      constructor
      · by_contra hineligible
        exact hwaiting ⟨⟨request, hmem, Or.inr (by simpa using hineligible)⟩, hroom⟩
      · exact not_lt.1 fun hlong => hwaiting ⟨⟨request, hmem, Or.inl hlong⟩, hroom⟩
    · exact Or.inr hfull

theorem lane_eq (stock : StockSchedule) (h : s.isolation = none) :
    s.lane = s ∧ s.afterStock stock = s.superSchedule stock := by
  unfold ResidentEpochScheduler.afterStock
  rw [h]
  exact ⟨(lane_plain h).1, rfl⟩

/-- without room nobody is admitted -/
theorem full_admits (hw : WellFormed s) (h : s.isolation = none) (hl : Legit s.lane stock) (hd : DecodesAll s.lane stock)
    (hfull : s.max_num_running_reqs ≤ s.running.length) {req_id : ReqId} (hrun : req_id ∈ stock.running) :
    req_id ∈ s.running := by
  have hlane := (lane_eq stock h).1
  have hafter := (lane_eq stock h).2
  by_contra hnew
  have hkept {other : ReqId} (hother : other ∈ s.running) : other ∈ stock.running := by
    rcases afterStock_kept hl hother with hkept | hpreempted
    · rw [hafter] at hkept
      exact hkept
    · rw [hd.preempted] at hpreempted
      cases hpreempted
  have hnodup : (req_id :: s.running).Nodup := by
    have hqueued := hw.nodup
    unfold ResidentEpochScheduler.queued at hqueued
    rw [List.append_assoc] at hqueued
    exact List.nodup_cons.2 ⟨hnew, (List.nodup_append.1 hqueued).1⟩
  have hsub : req_id :: s.running ⊆ stock.running := by
    intro other hother
    rcases List.mem_cons.1 hother with rfl | hother
    · exact hrun
    · exact hkept hother
  have hlength := (hnodup.subperm hsub).length_le
  have hlimit := hl.limit
  rw [hlane] at hlimit
  rw [List.length_cons] at hlength
  omega

theorem requestsOf_mapM {s' : ResidentEpochScheduler} {f : Request → Request}
    {hf : ∀ request, (f request).request_id = request.request_id} (hrequests : s'.requests = s.requests.modify f hf)
    {req_ids : List ReqId} (hknown : ∀ req_id ∈ req_ids, ∃ request, s.requests.find req_id = some request) :
    req_ids.mapM s'.request = .ok ((s.requestsOf req_ids).map f) := by
  rw [mapM_ok]
  induction req_ids with
  | nil => exact .nil
  | cons req_id req_ids ih =>
    obtain ⟨⟨request, hfind⟩, hknown⟩ := List.forall_mem_cons.1 hknown
    unfold ResidentEpochScheduler.requestsOf
    rw [List.filterMap_cons_some hfind, List.map_cons]
    refine .cons (request_ok.2 ?_) (ih hknown)
    rw [hrequests]
    exact modify_find.2 ⟨request, hfind, rfl⟩

/-- an eligible request has no features to encode -/
theorem eligible_features {request : Request} (h : request.eligible = true) : request.mm_features = false := by
  have hok : requestRejection request = .ok () := of_decide_eq_true h
  unfold requestRejection at hok
  simp only [except_bind_ok, refuse_ok, exists_const] at hok
  simpa using hok.2.1

/-- a request that is scheduled for its last token -/
structure Decodable (s : ResidentEpochScheduler) (req_id : ReqId) (count : ℕ) (request : Request) : Prop where
  find : s.requests.find req_id = some request
  count : count = 1
  eligible : request.eligible = true
  prefilled : 1 < request.num_prompt_tokens → 0 < request.num_output_tokens
  computed : request.num_computed_tokens + 1 = request.num_tokens
  live : Live request

end Batch

section Fitting

variable {t : Counted} (hi : DecodeInvariant t) (hidle : t.engine.in_flight = none)
variable (hdevice : t.engine.scheduler.deviceRunning ≠ []) (hisolation : t.engine.scheduler.isolation = none)
variable {stock : StockSchedule} (hl : Legit t.engine.scheduler.lane stock) (hd : DecodesAll t.engine.scheduler.lane stock)

include hi hidle

theorem DecodeInvariant.deviceReady {req_id : ReqId} (hmem : req_id ∈ t.engine.scheduler.deviceRunning) {request : Request}
    (hfind : t.engine.scheduler.requests.find req_id = some request) :
    Resident t.engine.scheduler.config request ∧ 0 < request.num_output_tokens := by
  obtain ⟨hrun, howned⟩ := List.mem_filter.1 hmem
  refine hi.device ?_ req_id hrun (of_decide_eq_true howned) request hfind
  rintro ⟨_, _, hsome⟩
  rw [hidle] at hsome
  cases hsome

include hdevice hisolation

/-- the running requests decode -/
theorem DecodeInvariant.running {req_id : ReqId} (hrun : req_id ∈ t.engine.scheduler.running) :
    ∃ request, Decodable t.engine.scheduler req_id 1 request := by
  obtain ⟨request, hfind⟩ := (hi.counts.engine.scheduler.known req_id).1 (queued_iff.2 (Or.inl hrun))
  have hlive := hi.live req_id request hfind
  by_cases howned : req_id ∈ t.engine.scheduler.leases.device_owned
  · obtain ⟨hresident, hpos⟩ := hi.deviceReady hidle (List.mem_filter.2 ⟨hrun, decide_eq_true howned⟩) hfind
    exact ⟨request, hfind, rfl, hresident.eligible, fun _ => hpos, hi.decoding hfind (Engine.unexecuted hidle req_id) hpos, hlive⟩
  · obtain ⟨heligible, hprefilled⟩ := (isolation_none hdevice hisolation).1 req_id hrun howned request hfind
    have hpos : 0 < request.num_output_tokens := Nat.pos_of_ne_zero fun hzero =>
      absurd (hi.prefill.idle req_id request hfind (Engine.unexecuted hidle req_id) hzero) (not_lt.2 hprefilled)
    exact ⟨request, hfind, rfl, heligible, fun _ => hpos, hi.decoding hfind (Engine.unexecuted hidle req_id) hpos, hlive⟩

include hd

/-- what runs is scheduled -/
theorem DecodeInvariant.scheduled {req_id : ReqId} (hrun : req_id ∈ t.engine.scheduler.running) :
    req_id ∈ stock.output.req_ids := by
  obtain ⟨request, hdecodable⟩ := hi.running hidle hdevice hisolation hrun
  rw [(lane_eq stock hisolation).1] at hd
  exact hd.decoding req_id hrun request hdecodable.find hdecodable.computed

include hl

theorem DecodeInvariant.decodable {item : ReqId × ℕ} (hitem : item ∈ stock.output.num_scheduled_tokens) :
    ∃ request, Decodable t.engine.scheduler item.1 item.2 request := by
  have hw := hi.counts.engine.scheduler
  obtain ⟨hrunning, hpos, hbound⟩ := hl.scheduled item hitem
  rw [(lane_eq stock hisolation).1] at hbound
  by_cases hrun : item.1 ∈ t.engine.scheduler.running
  · obtain ⟨request, hdecodable⟩ := hi.running hidle hdevice hisolation hrun
    have hle := hbound request hdecodable.find
    have hcomputed := hdecodable.computed
    exact ⟨request, hdecodable.find, by omega, hdecodable.eligible, hdecodable.prefilled, hcomputed, hdecodable.live⟩
  · have hroom := (isolation_none hdevice hisolation).2.resolve_right fun hfull =>
      hrun (full_admits hw hisolation hl hd hfull hrunning)
    have hwait : item.1 ∈ t.engine.scheduler.waiting ++ t.engine.scheduler.skipped_waiting := by
      have hqueued := (afterStock_queued hl).mem_iff.1 (queued_iff.2 (Or.inl (afterStock_scheduled hl
        (List.mem_map_of_mem hitem))))
      exact (queued_iff.1 hqueued).resolve_left hrun
    obtain ⟨request, hfind⟩ := (hw.known item.1).1 (queued_iff.2 (Or.inr hwait))
    obtain ⟨heligible, hprompt⟩ := hroom item.1 hwait request hfind
    obtain ⟨hcomputed, hzero⟩ := (hi.waiting item.1 hwait).2 request hfind
    have hlive := hi.live item.1 request hfind
    have hone : 1 ≤ request.num_prompt_tokens := List.length_pos_iff.2 hlive.prompt
    have hsum := request.num_tokens_eq
    have hle := hbound request hfind
    exact ⟨request, hfind, by omega, heligible, fun hlong => by omega, by omega, hlive⟩

/-- so for each request of the batch -/
theorem DecodeInvariant.requestDecodable {request : Request}
    (hmem : request ∈ t.engine.scheduler.requestsOf stock.output.req_ids) :
    ∃ count, Decodable t.engine.scheduler request.request_id count request := by
  obtain ⟨hid, hfind⟩ := mem_requestsOf.1 hmem
  obtain ⟨item, hitem, hkey⟩ := List.mem_map.1 hid
  obtain ⟨known, hdecodable⟩ := hi.decodable hidle hdevice hisolation hl hd hitem
  rw [hkey] at hdecodable
  obtain rfl : known = request := Option.some.inj (hdecodable.find.symm.trans hfind)
  exact ⟨item.2, hdecodable⟩

/-- only the size of the batch can keep it from being schedulable -/
theorem DecodeInvariant.schedulable (hbatch : stock.output.req_ids.length ≤ t.engine.scheduler.config.max_batch_size) :
    Schedulable (t.engine.scheduler.afterStock stock) stock.output := by
  obtain ⟨req_id, hpaused⟩ := List.exists_mem_of_ne_nil _ hdevice
  obtain ⟨hrun, howned⟩ := List.mem_filter.1 hpaused
  have hscheduled := hi.scheduled hidle hdevice hisolation hd hrun
  have hc : Configured (t.engine.scheduler.afterStock stock) :=
    afterStock_configured.2 (hi.configured (Or.inr (Finset.ne_empty_of_mem (of_decide_eq_true howned))))
  have hafter := (lane_eq stock hisolation).2
  have hencoder : stock.output.scheduled_encoder_inputs = false := by
    by_contra hencoder
    obtain ⟨other, hmem, request, hfind, hfeatures⟩ := hd.encoder (by simpa using hencoder)
    rw [(lane_eq stock hisolation).1] at hfind
    obtain ⟨item, hitem, rfl⟩ := List.mem_map.1 hmem
    obtain ⟨known, hdecodable⟩ := hi.decodable hidle hdevice hisolation hl hd hitem
    obtain rfl : known = request := Option.some.inj (hdecodable.find.symm.trans hfind)
    have heligible := eligible_features hdecodable.eligible
    rw [hfeatures] at heligible
    cases heligible
  refine ⟨List.ne_nil_of_mem hscheduled, by rw [afterStock_config]; exact hbatch, fun item hitem => ?_, hd.spec, hencoder,
    hd.preempted, hc.connector, hc.block_size, fun other => ⟨afterStock_scheduled hl, fun hother => ?_⟩⟩
  · obtain ⟨request, hdecodable⟩ := hi.decodable hidle hdevice hisolation hl hd hitem
    exact hdecodable.count
  · rcases afterStock_admitted hd hother with hbefore | hmem
    · exact hi.scheduled hidle hdevice hisolation hd hbefore
    · exact hmem

/-- the requests of the batch -/
theorem DecodeInvariant.requests : stock.output.req_ids.mapM (t.engine.scheduler.afterStock stock).request =
    .ok ((t.engine.scheduler.requestsOf stock.output.req_ids).map (Request.scheduled stock.output)) := by
  refine requestsOf_mapM (afterStock_requests _ _) fun req_id hid => ?_
  obtain ⟨item, hitem, rfl⟩ := List.mem_map.1 hid
  obtain ⟨request, hdecodable⟩ := hi.decodable hidle hdevice hisolation hl hd hitem
  exact ⟨request, hdecodable.find⟩

/-- a request of the batch gets its row when there are blocks and positions for it -/
theorem DecodeInvariant.placeable {request : Request} (hmem : request ∈ t.engine.scheduler.requestsOf stock.output.req_ids)
    {device_owned : Finset ReqId} {epoch_steps : Int} (hsteps : 1 ≤ epoch_steps) :
    Placeable (t.engine.scheduler.afterStock stock) device_owned epoch_steps (request.scheduled stock.output) ↔
      (∃ block_ids, stock.block_ids request.request_id = [block_ids] ∧ block_ids ≠ []) ∧
        (request.num_tokens : Int) - 1 + epoch_steps ≤ t.engine.scheduler.config.logical_capacity := by
  have hafter := (lane_eq stock hisolation).2
  have hblocks : (t.engine.scheduler.afterStock stock).block_ids = stock.block_ids := by
    rw [hafter]
    rfl
  obtain ⟨hid, hfind⟩ := mem_requestsOf.1 hmem
  obtain ⟨_, hdecodable⟩ := hi.requestDecodable hidle hdevice hisolation hl hd hmem
  have hkept : request.request_id ∉ stock.output.preempted_req_ids := by
    rw [hd.preempted]
    exact List.not_mem_nil
  have hsame : (request.scheduled stock.output).num_tokens = request.num_tokens ∧
      (request.scheduled stock.output).num_prompt_tokens = request.num_prompt_tokens ∧
      (request.scheduled stock.output).request_id = request.request_id := ⟨rfl, rfl, rfl⟩
  have hcomputed : (request.scheduled stock.output).num_computed_tokens = request.num_tokens := by
    have hbefore := hdecodable.computed
    rcases scheduled_counts hl hfind hkept with ⟨hnot, -⟩ | ⟨count, -, hpos, hadded, hbound⟩
    · exact absurd hid hnot
    · omega
  have htokens := hdecodable.computed
  have hsum := request.num_tokens_eq
  constructor
  · intro hp
    have hcapacity := hp.capacity
    have hplaced := hp.blocks
    rw [hblocks] at hplaced
    rw [afterStock_config, hsame.1] at hcapacity
    exact ⟨hplaced, hcapacity⟩
  · rintro ⟨⟨block_ids, hgroup, hne⟩, hcapacity⟩
    refine ⟨⟨hdecodable.eligible, ?_, hdecodable.prefilled, fun _ _ => ?_, hcomputed.trans hsame.1.symm,
      hdecodable.live.limit hdecodable.eligible⟩,
      ?_, ?_, block_ids, ?_, hne⟩
    · rw [afterStock_config, hsame.2.1]
      omega
    · rw [hblocks, hsame.2.2, hgroup]
      rfl
    · rw [hsame.1]
      omega
    · rw [afterStock_config, hsame.1]
      exact hcapacity
    · rw [hblocks, hsame.2.2]
      exact hgroup

/-- what is scheduled is known -/
theorem DecodeInvariant.knownBatch {req_id : ReqId} (hid : req_id ∈ stock.output.req_ids) :
    ∃ request ∈ t.engine.scheduler.requestsOf stock.output.req_ids, request.request_id = req_id := by
  obtain ⟨item, hitem, rfl⟩ := List.mem_map.1 hid
  obtain ⟨request, hdecodable⟩ := hi.decodable hidle hdevice hisolation hl hd hitem
  have hkey := t.engine.scheduler.requests.keyed hdecodable.find
  exact ⟨request, mem_requestsOf.2 (by rw [hkey]; exact ⟨hid, hdecodable.find⟩), hkey⟩

/-- every request of the batch has a token left -/
theorem DecodeInvariant.epochLength (hs : Schedulable (t.engine.scheduler.afterStock stock) stock.output) :
    ∃ epoch_steps, epochSteps t.engine.scheduler.config.max_steps
      ((t.engine.scheduler.requestsOf stock.output.req_ids).map Request.remaining) = some epoch_steps := by
  have hremains (request : Request) (hmem : request ∈ t.engine.scheduler.requestsOf stock.output.req_ids) :
      request.num_output_tokens < request.max_tokens := by
    obtain ⟨_, hdecodable⟩ := hi.requestDecodable hidle hdevice hisolation hl hd hmem
    exact hdecodable.live.limit hdecodable.eligible
  refine epochSteps_requests hi.counts.engine.scheduler.config ?_ hremains
  obtain ⟨req_id, hid⟩ := List.exists_mem_of_ne_nil _ hs.nonempty
  obtain ⟨request, hmem, -⟩ := hi.knownBatch hidle hdevice hisolation hl hd hid
  exact List.ne_nil_of_mem hmem

/-- once every request has its row -/
theorem DecodeInvariant.requestsPlanned (hs : Schedulable (t.engine.scheduler.afterStock stock) stock.output)
    {leases : Leases} (hassigned : assignResidentRows (t.engine.scheduler.afterStock stock).config
      (t.engine.scheduler.afterStock stock).leases stock.output.req_ids = .ok leases) {epoch_steps : Int}
    (hsteps : epochSteps t.engine.scheduler.config.max_steps
      ((t.engine.scheduler.requestsOf stock.output.req_ids).map Request.remaining) = some epoch_steps) :
    (∃ plan, planRequests (t.engine.scheduler.afterStock stock) leases stock.output.req_ids = .ok plan) ↔
      ∀ request ∈ t.engine.scheduler.requestsOf stock.output.req_ids,
        (∃ block_ids, stock.block_ids request.request_id = [block_ids] ∧ block_ids ≠ []) ∧
          (request.num_tokens : Int) - 1 + epoch_steps ≤ t.engine.scheduler.config.logical_capacity := by
  have hw' := afterStock_wellFormed hi.counts.engine.scheduler hl
  have ha := assign_spec hw'.leases hassigned
  have hone : 1 ≤ epoch_steps := by
    have hmem := (epochSteps_some hsteps).1
    simp only [List.mem_cons, List.not_mem_nil, or_false] at hmem
    omega
  have hremaining : ((t.engine.scheduler.requestsOf stock.output.req_ids).map (Request.scheduled stock.output)).map
      Request.remaining = (t.engine.scheduler.requestsOf stock.output.req_ids).map Request.remaining := by
    rw [List.map_map]
    rfl
  rw [planRequests_iff hw'.config ha.invariant (fun req_id hid => (ha.leased req_id).2 hid) stock.output.distinct hs.nonempty
    hs.batch (hi.requests hidle hdevice hisolation hl hd) (by rw [afterStock_config, hremaining]; exact hsteps)]
  rw [List.forall_mem_map]
  exact forall₂_congr fun request hmem => hi.placeable hidle hdevice hisolation hl hd hmem hone

/-- **A batch is planned when it fits.** -/
theorem DecodeInvariant.planned_iff : (∃ leases plan,
    makeResidentEpochPlan (t.engine.scheduler.afterStock stock) stock.output = (leases, .ok plan)) ↔
      Fits t.engine.scheduler stock := by
  have hassign (hbatch : stock.output.req_ids.length ≤ t.engine.scheduler.config.max_batch_size) :
      (∃ leases, assignResidentRows (t.engine.scheduler.afterStock stock).config
        (t.engine.scheduler.afterStock stock).leases stock.output.req_ids = .ok leases) ↔
      (t.engine.scheduler.leases.newIds stock.output.req_ids ≠ [] → t.engine.scheduler.leases.next_generation +
        (t.engine.scheduler.leases.newIds stock.output.req_ids).length ≤ 2 ^ 31) := by
    rw [afterStock_config, afterStock_leases]
    exact assign_iff hi.counts.engine.scheduler.leases stock.output.distinct hbatch
  constructor
  · rintro ⟨leases, plan, hmade⟩
    have hp := makePlan_spec hmade
    have hs := (scheduleRejection_ok _ _ _).1 hp.schedule
    have hbatch := hs.batch
    rw [afterStock_config] at hbatch
    obtain ⟨epoch_steps, hepoch⟩ := hi.epochLength hidle hdevice hisolation hl hd hs
    have hrequests := (hi.requestsPlanned hidle hdevice hisolation hl hd hs hp.assigned hepoch).1
      ⟨plan, (Prod.mk.inj ((makePlan_assign hs hp.assigned).symm.trans hmade)).2⟩
    refine ⟨hbatch, (hassign hbatch).1 ⟨leases, hp.assigned⟩, fun req_id hid => ?_, fun steps hsome request hmem => ?_⟩
    · obtain ⟨request, hmem, rfl⟩ := hi.knownBatch hidle hdevice hisolation hl hd hid
      exact (hrequests request hmem).1
    · obtain rfl : epoch_steps = steps := Option.some.inj (hepoch.symm.trans hsome)
      exact (hrequests request hmem).2
  · intro hf
    have hs := hi.schedulable hidle hdevice hisolation hl hd hf.batch
    obtain ⟨leases, hassigned⟩ := (hassign hf.batch).2 hf.generations
    obtain ⟨epoch_steps, hepoch⟩ := hi.epochLength hidle hdevice hisolation hl hd hs
    obtain ⟨plan, hplanned⟩ := (hi.requestsPlanned hidle hdevice hisolation hl hd hs hassigned hepoch).2 fun request hmem =>
      ⟨hf.blocks _ (mem_requestsOf.1 hmem).1, hf.capacity epoch_steps hepoch request hmem⟩
    exact ⟨leases, plan, by rw [makePlan_assign hs hassigned, hplanned]⟩

end Fitting

/-! ## Dead ends -/

/-- the step is planned with every Device-owned running request -/
def Advances (s : ResidentEpochScheduler) (stock : StockSchedule) : Prop :=
  ∃ r plan, s.schedule stock = .ok r ∧ r.plan = some plan ∧ ∀ req_id ∈ s.deviceRunning, req_id ∈ plan.req_ids

/-- the step is planned so, or returns with all of them paused -/
def NoDeadEnd (s : ResidentEpochScheduler) (stock : StockSchedule) : Prop :=
  Advances s stock ∨ LaneReturns s stock ∧ ∀ req_id ∈ s.deviceRunning, req_id ∉ stock.output.req_ids

/-- what a step needs to return -/
structure Admissible (s : ResidentEpochScheduler) (stock : StockSchedule) : Prop where
  isolated : s.isolation ≠ none → stock.output.req_ids ≠ [] ∧ ∀ req_id ∈ stock.output.req_ids, req_id ∉ s.leases.device_owned
  batch : s.isolation = none → Fits s stock

section DeadEnds

variable {t : Counted} (hi : DecodeInvariant t) (hidle : t.engine.in_flight = none)
variable (hdevice : t.engine.scheduler.deviceRunning ≠ [])
variable {stock : StockSchedule} (hl : Legit t.engine.scheduler.lane stock) (hd : DecodesAll t.engine.scheduler.lane stock)

include hi hidle hdevice hl hd

theorem DecodeInvariant.advances (h : Admissible t.engine.scheduler stock) : NoDeadEnd t.engine.scheduler stock := by
  have hw := hi.counts.engine.scheduler
  obtain ⟨device, hpaused⟩ := List.exists_mem_of_ne_nil _ hdevice
  have howned : device ∈ t.engine.scheduler.leases.device_owned := of_decide_eq_true (List.mem_filter.1 hpaused).2
  have hc := hi.configured (Or.inr (Finset.ne_empty_of_mem howned))
  by_cases hisolation : t.engine.scheduler.isolation = none
  · obtain ⟨leases, plan, hmade⟩ := (hi.planned_iff hidle hdevice hisolation hl hd).2 (h.batch hisolation)
    have hafter := (lane_eq stock hisolation).2
    refine Or.inl ⟨⟨{ t.engine.scheduler.afterStock stock with leases := leases }, stock.output, some plan, none⟩, plan, ?_, rfl,
      fun req_id hmem => ?_⟩
    · rw [schedule_plain hc.lookahead hisolation, ← hafter]
      exact finishSchedule_plan hmade
    · rw [(makePlan_spec hmade).ids]
      exact hi.scheduled hidle hdevice hisolation hd (List.mem_filter.1 hmem).1
  · obtain ⟨hne, hhost⟩ := h.isolated hisolation
    refine Or.inr ⟨laneReturns_of hw.nodup hisolation hl hc.lookahead hne hhost, fun req_id hmem hid => ?_⟩
    exact hhost req_id hid (of_decide_eq_true (List.mem_filter.1 hmem).2)

/-- a step that returns was admissible -/
theorem DecodeInvariant.admissible {r : Scheduled} (h : t.engine.scheduler.schedule stock = .ok r) :
    Admissible t.engine.scheduler stock := by
  have hw := hi.counts.engine.scheduler
  obtain ⟨-, hout⟩ := schedule_cases h
  refine ⟨fun hisolation => ?_, fun hisolation => ?_⟩
  · obtain ⟨reason, hreason⟩ := Option.ne_none_iff_exists'.1 hisolation
    obtain ⟨rejection, hmade⟩ := isolated_rejected hw.nodup hreason hl
    cases hout with
    | planned hnone _ => exact absurd hnone hisolation
    | host hrejected howned hdisjoint =>
      obtain ⟨rfl, -⟩ := Prod.mk.inj (hmade.symm.trans hrejected)
      exact ⟨(hdisjoint hisolation).1, howned⟩
  · cases hout with
    | planned _ hmade => exact (hi.planned_iff hidle hdevice hisolation hl hd).1 ⟨_, _, hmade⟩
    | host hrejected howned _ =>
      exfalso
      obtain ⟨device, hpaused⟩ := List.exists_mem_of_ne_nil _ hdevice
      obtain ⟨hrun, hmem⟩ := List.mem_filter.1 hpaused
      have hscheduled := hi.scheduled hidle hdevice hisolation hd hrun
      refine howned device hscheduled ?_
      rcases (makePlan_wellFormed (afterStock_wellFormed hw hl) hrejected).2 with hleases | ⟨-, hassigned⟩
      · rw [hleases, afterStock_leases]
        exact of_decide_eq_true hmem
      · rw [hassigned.owned, afterStock_leases]
        exact ⟨of_decide_eq_true hmem, fun _ => hscheduled⟩

end DeadEnds

/-- **When a step with Device-owned requests has no dead end.** -/
theorem no_dead_end_iff {config : ResidentEpochConfig} (hconfig : config.Valid) {start : StockConfig} {t : Counted}
    (h : Run CountedStep DecodingEvent (.fresh config start) t) (hidle : t.engine.in_flight = none)
    (hdevice : t.engine.scheduler.deviceRunning ≠ []) {stock : StockSchedule} (hl : Legit t.engine.scheduler.lane stock)
    (hd : DecodesAll t.engine.scheduler.lane stock) :
    (NoDeadEnd t.engine.scheduler stock ↔ Admissible t.engine.scheduler stock) ∧
      (¬Admissible t.engine.scheduler stock → ∃ e, t.engine.scheduler.schedule stock = .error e) := by
  have hi : DecodeInvariant t :=
    h.invariant (fresh_decode hconfig start) fun _ _ _ hi hs hevent => decode_step hi hevent hs
  refine ⟨⟨?_, hi.advances hidle hdevice hl hd⟩, fun hnot => ?_⟩
  · rintro (⟨r, plan, hr, -⟩ | ⟨⟨r, hr, -⟩, -⟩)
    · exact hi.admissible hidle hdevice hl hd hr
    · exact hi.admissible hidle hdevice hl hd hr
  · cases hschedule : t.engine.scheduler.schedule stock with
    | error e => exact ⟨e, rfl⟩
    | ok r => exact absurd (hi.admissible hidle hdevice hl hd hschedule) hnot

/-- the state some events lead to, and a stock schedule in it -/
theorem decoding_reached (events : List Event) (config : ResidentEpochConfig) (stock : StockSchedule)
    (P : Counted → Prop) [DecidablePred P]
    (h : ((Run.after Counted.next DecodingEvent (.fresh config (.plain 8)) events).any fun t =>
      decide (t.engine.in_flight.isNone = true ∧ t.engine.scheduler.deviceRunning ≠ [] ∧
        Legit t.engine.scheduler.lane stock ∧ DecodesAll t.engine.scheduler.lane stock ∧ P t)) = true) :
    ∃ t, Run CountedStep DecodingEvent (.fresh config (.plain 8)) t ∧ t.engine.in_flight = none ∧
      t.engine.scheduler.deviceRunning ≠ [] ∧ Legit t.engine.scheduler.lane stock ∧
      DecodesAll t.engine.scheduler.lane stock ∧ P t := by
  obtain ⟨t, ht, h⟩ := (Option.any_eq_true _ _).1 h
  obtain ⟨hidle, h⟩ := of_decide_eq_true h
  exact ⟨t, Run.of_after ht, Option.isNone_iff_eq_none.1 hidle, h⟩

/-- the stock scheduler decodes request 1 -/
def decodeStock : StockSchedule := soloStock 1 1

/-- one more epoch of a Device-owned request -/
theorem no_dead_end_committed : ∃ t : Counted, t.engine.scheduler.deviceRunning ≠ [] ∧
    NoDeadEnd t.engine.scheduler decodeStock := by
  obtain ⟨t, hrun, hidle, hdevice, hl, hd, hisolation, hbatch, hgenerations, hcapacity⟩ :=
    decoding_reached committedEvents (.make 2 8) decodeStock
      (fun t => t.engine.scheduler.isolation = none ∧
        decodeStock.output.req_ids.length ≤ t.engine.scheduler.config.max_batch_size ∧
        t.engine.scheduler.leases.newIds decodeStock.output.req_ids = [] ∧
        ∀ epoch_steps ∈ epochSteps t.engine.scheduler.config.max_steps
            ((t.engine.scheduler.requestsOf decodeStock.output.req_ids).map Request.remaining),
          ∀ request ∈ t.engine.scheduler.requestsOf decodeStock.output.req_ids,
            (request.num_tokens : Int) - 1 + epoch_steps ≤ t.engine.scheduler.config.logical_capacity)
      (by decide +kernel)
  refine ⟨t, hdevice, ((no_dead_end_iff ((ResidentEpochConfig.validate_ok_iff _).1 (by decide)) hrun hidle hdevice hl hd).1).2
    ⟨fun hne => absurd hisolation hne, fun _ => ⟨hbatch, fun hne => absurd hgenerations hne, fun req_id _ => ?_, hcapacity⟩⟩⟩
  exact ⟨[(req_id : Int)], rfl, List.cons_ne_nil _ _⟩

/-- an eligible request with nine prompt tokens is prefilled in the Host lane -/
def companionEvents : List Event := committedEvents ++ [
  .arrive (greedyRequest 2 [7, 7, 7, 7, 7, 7, 7, 7, 7] 4 9),
  .schedule (soloStock 2 9),
  .update (hostOutput [(2, [5])])]

theorem companions_distinct : ([(1, 1), (2, 1)].map (Prod.fst : ReqId × ℕ → ReqId)).Nodup := by decide

/-- the stock scheduler decodes both -/
def companionStock : StockSchedule := plainStock [(1, 1), (2, 1)] companions_distinct [] [1, 2] []

/-- **A companion the isolation test lets through.** It is eligible and past its prefill, its prompt is longer than the
resident capacity, and the plan of both is refused for that. -/
theorem companion_dead_end : ∃ t : Counted, Run CountedStep DecodingEvent (.fresh (.make 2 8) (.plain 8)) t ∧
    t.engine.in_flight = none ∧ 1 ∈ t.engine.scheduler.deviceRunning ∧ Legit t.engine.scheduler.lane companionStock ∧
    DecodesAll t.engine.scheduler.lane companionStock ∧ t.engine.scheduler.isolation = none ∧
    rejection (makeResidentEpochPlan (t.engine.scheduler.afterStock companionStock) companionStock.output).2 =
      some .promptExceedsResidentCapacity ∧
    t.engine.scheduler.schedule companionStock = .error (.refusingHost [1]) := by
  obtain ⟨t, hrun, hidle, -, hl, hd, hdevice, hisolation, hrejected, hrefused⟩ :=
    decoding_reached companionEvents (.make 2 8) companionStock
      (fun t => 1 ∈ t.engine.scheduler.deviceRunning ∧ t.engine.scheduler.isolation = none ∧
        rejection (makeResidentEpochPlan (t.engine.scheduler.afterStock companionStock) companionStock.output).2 =
          some .promptExceedsResidentCapacity ∧
        refusal (t.engine.scheduler.schedule companionStock) = some [1]) (by decide +kernel)
  exact ⟨t, hrun, hidle, hdevice, hl, hd, hisolation, hrejected, refusal_some.1 hrefused⟩

end Cruise.Scheduler
