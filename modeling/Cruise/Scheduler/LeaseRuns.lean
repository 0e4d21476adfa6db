/-
Rows and generations over whole runs: row assignments, plans and accountings in any order, from a fresh scheduler.

MODEL. A plan or an accounting happens in any state of the scheduler around the leases. `issued` is a ghost: the leases in
the order of their issue. A run goes on only below the generation limit.
Results:
- `leases_hold`: distinct rows of the graph, generations never issued twice, the same keys in both maps, ownership only of
  leased requests among those assigned, no exhausted allocator, and only valid plans.
- `leaseStep_kept`: a request keeps its row and generation for as long as it is asked for.
-/
import Cruise.Lib.Run
import Cruise.Scheduler.Update

namespace Cruise.Scheduler

open Cruise.Lib Cruise.Worker

structure LeaseState where
  leases : Leases
  issued : List (ReqId × Int)
  /-- the ids of the last assignment -/
  assigned : List ReqId

def LeaseState.fresh : LeaseState := ⟨.fresh, [], []⟩

inductive LeaseEvent where
  | assign (req_ids : List ReqId)
  | plan (s : ResidentEpochScheduler) (out : SchedulerOutput)
  | account (s : ResidentEpochScheduler) (out : SchedulerOutput) (output : ModelRunnerOutput) (plan : ResidentEpochPlan)
    (result : ResidentEpochResult)

/-- the leases an assignment has issued, in order -/
def newLeases (before after : Leases) : List (ReqId × Int) :=
  after.generations.filter fun item => ¬before.leased item.1

inductive LeaseStep (config : ResidentEpochConfig) (l : LeaseState) : LeaseEvent → LeaseState → Prop where
  | assign {req_ids leases} : req_ids.Nodup → req_ids.length ≤ 4 →
      assignResidentRows config l.leases req_ids = .ok leases →
      LeaseStep config l (.assign req_ids) ⟨leases, l.issued ++ newLeases l.leases leases, req_ids⟩
  /-- a plan that gets as far as the assignment -/
  | plan {s out leases} : s.config = config → s.leases = l.leases → scheduleRejection s out = .ok () →
      (makeResidentEpochPlan s out).2 ≠ .error (.raised .generationSpace) → leases = (makeResidentEpochPlan s out).1 →
      LeaseStep config l (.plan s out) ⟨leases, l.issued ++ newLeases l.leases leases, out.req_ids⟩
  /-- a plan refused before it -/
  | refused {s out reason} : s.config = config → s.leases = l.leases → scheduleRejection s out = .error reason →
      LeaseStep config l (.plan s out) { l with leases := (makeResidentEpochPlan s out).1 }
  | account {s out output plan result s'} : s.config = config → s.leases = l.leases →
      s.applyResidentEpochAccounting out output plan result = .ok s' →
      LeaseStep config l (.account s out output plan result) { l with leases := s'.leases }

/-- the invariant of the runs -/
structure LeaseRunInvariant (config : ResidentEpochConfig) (l : LeaseState) : Prop where
  leases : LeaseInvariant config l.leases
  assigned : ∀ req_id, l.leases.leased req_id ↔ req_id ∈ l.assigned
  issued : l.leases.generations ⊆ l.issued
  positive : ∀ item ∈ l.issued, 0 < item.2
  below : ∀ item ∈ l.issued, item.2 < l.leases.next_generation
  increasing : (l.issued.map Prod.snd).Pairwise (· < ·)

/-- what an assignment does to a run -/
theorem LeaseRunInvariant.assign {config : ResidentEpochConfig} {l : LeaseState} (hl : LeaseRunInvariant config l)
    {req_ids : List ReqId} {leases : Leases} (h : assignResidentRows config l.leases req_ids = .ok leases) :
    LeaseRunInvariant config ⟨leases, l.issued ++ newLeases l.leases leases, req_ids⟩ := by
  have ha := assign_spec hl.leases h
  have hnew (item : ReqId × Int) (hitem : item ∈ newLeases l.leases leases) :
      item ∈ leases.generations ∧ l.leases.next_generation ≤ item.2 := by
    obtain ⟨hmem, hfresh⟩ := List.mem_filter.1 hitem
    exact ⟨hmem, ha.issued item hmem (of_decide_eq_true hfresh)⟩
  refine ⟨ha.invariant, ha.leased, fun item hitem => ?_, fun item hitem => ?_, fun item hitem => ?_, ?_⟩
  · by_cases hleased : l.leases.leased item.1
    · -- a lease that was kept is the one issued before
      have hkept := ha.generation item.1 hleased
        ((ha.leased item.1).1 ((leased_generations ha.invariant _).2 (List.mem_map_of_mem hitem)))
      have hids : (leases.generations.map Prod.fst).Nodup := ha.invariant.keys ▸ ha.invariant.ids
      rw [(lookup_iff_mem hids).2 hitem] at hkept
      exact List.mem_append_left _ (hl.issued (mem_of_lookup hkept.symm))
    · exact List.mem_append_right _ (List.mem_filter.2 ⟨hitem, decide_eq_true hleased⟩)
  · rcases List.mem_append.1 hitem with hitem | hitem
    · exact hl.positive item hitem
    · exact ha.invariant.positive item (hnew item hitem).1
  · rcases List.mem_append.1 hitem with hitem | hitem
    · exact lt_of_lt_of_le (hl.below item hitem) ha.next
    · exact ha.invariant.below item (hnew item hitem).1
  · rw [List.map_append]
    refine List.pairwise_append.2 ⟨hl.increasing, ?_, fun a ha' b hb => ?_⟩
    · exact ha.invariant.increasing.sublist (List.filter_sublist.map _)
    · obtain ⟨item, hitem, rfl⟩ := List.mem_map.1 ha'
      obtain ⟨item', hitem', rfl⟩ := List.mem_map.1 hb
      exact lt_of_lt_of_le (hl.below item hitem) (hnew item' hitem').2

theorem makePlan_refused {s : ResidentEpochScheduler} {out : SchedulerOutput} {reason : Rejection}
    (h : scheduleRejection s out = .error reason) : (makeResidentEpochPlan s out).1 = s.leases := by
  unfold makeResidentEpochPlan
  rw [h]

/-- the assignment inside a plan -/
theorem makePlan_assigned {config : ResidentEpochConfig} (hconfig : config.Valid) {s : ResidentEpochScheduler}
    (hs : s.config = config) (hi : LeaseInvariant config s.leases) {out : SchedulerOutput}
    (hschedule : scheduleRejection s out = .ok ())
    (hlimit : (makeResidentEpochPlan s out).2 ≠ .error (.raised .generationSpace)) :
    assignResidentRows config s.leases out.req_ids = .ok (makeResidentEpochPlan s out).1 := by
  subst hs
  unfold makeResidentEpochPlan at hlimit ⊢
  rw [hschedule] at hlimit ⊢
  dsimp only at hlimit ⊢
  cases hassigned : assignResidentRows s.config s.leases out.req_ids with
  | ok leases => rfl
  | error e =>
    rw [hassigned] at hlimit
    obtain ⟨rfl, -⟩ := assign_raises hi ((scheduleRejection_ok _ _ _).1 hschedule).batch hassigned
    exact absurd rfl hlimit

/-- the step lemma -/
theorem leaseStep_invariant {config : ResidentEpochConfig} (hconfig : config.Valid) {l l' : LeaseState} {e : LeaseEvent}
    (hl : LeaseRunInvariant config l) (h : LeaseStep config l e l') : LeaseRunInvariant config l' := by
  cases h with
  | assign _ _ hassign => exact hl.assign hassign
  | plan hs hleases hschedule hlimit hout =>
    subst hout
    have hassign := makePlan_assigned hconfig hs (hleases ▸ hl.leases) hschedule hlimit
    exact hl.assign (hleases ▸ hassign)
  | refused hs hleases hschedule =>
    rw [makePlan_refused hschedule, hleases]
    exact hl
  | account hs hleases haccount =>
    obtain ⟨_, _, ha⟩ := accounting_iff.1 haccount
    -- only the ownership changes
    obtain rfl := ha.scheduler
    obtain ⟨hinv, hassigned, hissued, hpositive, hbelow, hincreasing⟩ := hl
    rw [← hleases] at hinv hassigned hissued hbelow
    exact ⟨⟨hinv.keys, hinv.ids, hinv.rows, hinv.range, hinv.positive, hinv.below, hinv.increasing, hinv.next⟩,
      hassigned, hissued, hpositive, hbelow, hincreasing⟩

theorem leaseRun_invariant {config : ResidentEpochConfig} (hconfig : config.Valid) {allowed : LeaseState → LeaseEvent → Prop}
    {l l' : LeaseState} (hl : LeaseRunInvariant config l) (h : Run (LeaseStep config) allowed l l') :
    LeaseRunInvariant config l' :=
  h.invariant hl fun _ _ _ hl hs _ => leaseStep_invariant hconfig hl hs

theorem freshRun_invariant (config : ResidentEpochConfig) : LeaseRunInvariant config .fresh where
  leases := fresh_invariant config
  assigned := fun _ => Iff.rfl
  issued := fun _ h => h
  positive := fun _ h => (by cases h)
  below := fun _ h => (by cases h)
  increasing := .nil

/-- a lease of a request, row and generation -/
def Leases.lease (leases : Leases) (req_id : ReqId) : Option ℕ × Option Int :=
  (leases.rows.lookup req_id, leases.generations.lookup req_id)

/-- a request that has a lease before and after a step has the same -/
theorem leaseStep_kept {config : ResidentEpochConfig} (hconfig : config.Valid) {l l' : LeaseState} {e : LeaseEvent}
    (hl : LeaseRunInvariant config l) (h : LeaseStep config l e l') {req_id : ReqId} (hbefore : l.leases.leased req_id)
    (hafter : l'.leases.leased req_id) : l'.leases.lease req_id = l.leases.lease req_id := by
  have hkept {req_ids : List ReqId} {leases : Leases} (hassign : assignResidentRows config l.leases req_ids = .ok leases)
      (hleased : leases.leased req_id) : leases.lease req_id = l.leases.lease req_id := by
    have ha := assign_spec hl.leases hassign
    have hmem := (ha.leased req_id).1 hleased
    exact Prod.ext (ha.row req_id hbefore hmem) (ha.generation req_id hbefore hmem)
  cases h with
  | assign _ _ hassign => exact hkept hassign hafter
  | plan hs hleases hschedule hlimit hout =>
    subst hout
    exact hkept (hleases ▸ makePlan_assigned hconfig hs (hleases ▸ hl.leases) hschedule hlimit) hafter
  | refused hs hleases hschedule =>
    rw [makePlan_refused hschedule, hleases]
  | account hs hleases haccount =>
    obtain ⟨_, _, ha⟩ := accounting_iff.1 haccount
    rw [ha.scheduler, ← hleases]
    rfl

/-- what is wanted of the leases of every run -/
structure LeaseProperties (config : ResidentEpochConfig) (l : LeaseState) : Prop where
  ids : (l.leases.rows.map Prod.fst).Nodup
  rows : (l.leases.rows.map Prod.snd).Nodup
  range : ∀ item ∈ l.leases.rows, item.2 < 4
  keys : l.leases.generations.map Prod.fst = l.leases.rows.map Prod.fst
  positive : ∀ item ∈ l.issued, 0 < item.2
  increasing : (l.issued.map Prod.snd).Pairwise (· < ·)
  issued : l.leases.generations ⊆ l.issued
  owned : ∀ req_id ∈ l.leases.device_owned, req_id ∈ l.assigned → l.leases.leased req_id
  exhausted : ∀ req_ids : List ReqId, req_ids.length ≤ 4 → assignResidentRows config l.leases req_ids ≠ .error .exhausted
  plans : ∀ s out, s.config = config → s.leases = l.leases →
    (∀ plan, (makeResidentEpochPlan s out).2 = .ok plan → plan.validate = .ok ()) ∧
      (makeResidentEpochPlan s out).2 ≠ .error (.raised .exhausted) ∧
      ∀ e, (makeResidentEpochPlan s out).2 ≠ .error (.raised (.plan e))

theorem LeaseRunInvariant.properties {config : ResidentEpochConfig} (hconfig : config.Valid) {l : LeaseState}
    (hl : LeaseRunInvariant config l) : LeaseProperties config l := by
  refine ⟨hl.leases.ids, hl.leases.rows, fun item hitem => ?_, hl.leases.keys, hl.positive, hl.increasing, hl.issued,
    fun req_id _ hmem => (hl.assigned req_id).2 hmem, fun req_ids hcount hexhausted => ?_, ?_⟩
  · exact hconfig.batch ▸ hl.leases.range item hitem
  · exact absurd (assign_raises hl.leases (hconfig.batch.symm ▸ hcount) hexhausted).1 (by decide)
  rintro s out rfl hleases
  have hi : LeaseInvariant s.config s.leases := hleases ▸ hl.leases
  have hraises {e : SchedulerError} (h : (makeResidentEpochPlan s out).2 = .error (.raised e)) :
      e = .generationSpace ∨ ∃ req_id, e = .missing req_id := by
    rcases makePlan_raises hconfig hi (Prod.ext rfl h) with ⟨he, -⟩ | ⟨req_id, -, he, -⟩
    · exact Or.inl he
    · exact Or.inr ⟨req_id, he⟩
  refine ⟨fun plan hplan => ?_, fun h => ?_, fun e h => ?_⟩
  · exact (planValidate_ok_iff _).2 (makePlan_spec (Prod.ext rfl hplan)).valid
  · rcases hraises h with he | ⟨_, he⟩
    · cases he
    · cases he
  · rcases hraises h with he | ⟨_, he⟩
    · cases he
    · cases he

/-- **Row leases over whole runs.** -/
theorem leases_hold {config : ResidentEpochConfig} (hconfig : config.Valid) {l : LeaseState}
    (h : Run (LeaseStep config) (fun _ _ => True) .fresh l) :
    LeaseProperties config l ∧ ∀ req_id l', Run (LeaseStep config) (fun l _ => l.leases.leased req_id) l l' →
      l'.leases.leased req_id → l'.leases.lease req_id = l.leases.lease req_id := by
  have hl := leaseRun_invariant hconfig (freshRun_invariant config) h
  refine ⟨hl.properties hconfig, fun req_id l' hrun => ?_⟩
  -- every state on the way is reached, and had the lease before its step
  induction hrun with
  | refl => exact fun _ => rfl
  | tail hrun hs hbefore ih =>
    intro hafter
    exact (leaseStep_kept hconfig (leaseRun_invariant hconfig hl hrun) hs hbefore hafter).trans (ih hbefore)

/-- the first request leaves as a third comes, and is back with a new generation -/
theorem leases_hold_returning : (ResidentEpochConfig.make 8 8).Valid ∧
    ∃ l, LeaseProperties (.make 8 8) l ∧ l.issued = [(1, 1), (2, 2), (3, 3), (1, 4)] := by
  have hconfig : (ResidentEpochConfig.make 8 8).Valid := (ResidentEpochConfig.validate_ok_iff _).1 (by decide)
  have h₁ : Run (LeaseStep (.make 8 8)) (fun _ _ => True) .fresh _ :=
    .tail .refl (show LeaseStep _ .fresh (.assign [1, 2]) _ from .assign (by decide) (by decide) rfl) trivial
  have h₂ := h₁.tail (show LeaseStep _ _ (.assign [2, 3]) _ from .assign (by decide) (by decide) rfl) trivial
  have h₃ := h₂.tail (show LeaseStep _ _ (.assign [2, 3, 1]) _ from .assign (by decide) (by decide) rfl) trivial
  exact ⟨hconfig, _, (leases_hold hconfig h₃).1, by decide⟩

end Cruise.Scheduler
