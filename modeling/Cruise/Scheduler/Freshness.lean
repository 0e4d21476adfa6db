/-
Whether a new lease is new to the controller.

MODEL. `Paired` is the leases next to the resident rows. A run starts with the OK call of the sidecar's warm-up on a UDF
object that has run nothing. It goes on with assignments, accountings, and OK calls on the rows of plans whose generations
were issued in the run. An assignment that raises leaves the leases as far as its second loop got; the first loop does not
raise (`purge_spec`). `issued` and `ran` are ghosts: the leases ever issued, and the rows with an epoch since the warm-up.
- `plan_assigns`: a plan, made or rejected, is such an assignment or leaves the leases alone.
- `new_lease_fresh_iff`: every lease an assignment issues is new to the controller until its first epoch, unless row 0 gets
  the generation of the warm-up while it still holds the warm-up.
- `warmup_generation_reissued`: a run without epochs in which it does.
-/
import Cruise.Native.Accepted
import Cruise.Scheduler.Continuity
import Cruise.Scheduler.LeaseRuns
import Cruise.Worker.Correlation

namespace Cruise.Scheduler

open Cruise.Lib Cruise.Native Cruise.Worker Cruise.Controller

/-! ## Assignments that may raise -/

/-- the second loop, with the leases as they are where it ends -/
def Leases.leaseRows : List ReqId → Leases × List ℕ → (Leases × List ℕ) × Except SchedulerError Unit
  | [], s => (s, .ok ())
  | req_id :: req_ids, s =>
    match leaseRow s req_id with
    | .error e => (s, .error e)
    | .ok s' => leaseRows req_ids s'

/-- `_assign_resident_rows`, with the members of the scheduler as it leaves them -/
def assignInPlace (config : ResidentEpochConfig) (leases : Leases) (req_ids : List ReqId) :
    Leases × Except SchedulerError Unit :=
  match leases.purge req_ids with
  | .error e => (leases, .error e)
  | .ok leases =>
    let (s, raised) := Leases.leaseRows req_ids (leases, leases.freeRows config)
    (s.1, raised)

theorem leaseRows_foldlM (req_ids : List ReqId) (s : Leases × List ℕ) :
    req_ids.foldlM Leases.leaseRow s =
      (Leases.leaseRows req_ids s).2.map fun _ => (Leases.leaseRows req_ids s).1 := by
  induction req_ids generalizing s with
  | nil => rfl
  | cons req_id req_ids ih =>
    rw [List.foldlM_cons, Leases.leaseRows]
    cases Leases.leaseRow s req_id with
    | error e => rfl
    | ok s' => exact ih s'

/-- an assignment that does not raise -/
theorem assignInPlace_ok {config : ResidentEpochConfig} {leases leases' : Leases} {req_ids : List ReqId}
    (h : assignResidentRows config leases req_ids = .ok leases') :
    assignInPlace config leases req_ids = (leases', .ok ()) := by
  unfold assignResidentRows at h
  unfold assignInPlace
  cases hpurge : leases.purge req_ids with
  | error e =>
    rw [hpurge] at h
    cases h
  | ok base =>
    rw [hpurge] at h
    have h : (req_ids.foldlM Leases.leaseRow (base, base.freeRows config) >>= fun s => .ok s.1) = Except.ok leases' := h
    obtain ⟨⟨last, free_rows⟩, hloop, h⟩ := except_bind_ok.1 h
    cases h
    rw [leaseRows_foldlM] at hloop
    dsimp only
    rcases hrows : Leases.leaseRows req_ids (base, base.freeRows config) with ⟨s, e | u⟩
    · rw [hrows] at hloop
      cases hloop
    · rw [hrows] at hloop
      cases hloop
      rfl

/-- the loop goes through the first requests, and no further -/
theorem leaseRows_done (req_ids : List ReqId) (s : Leases × List ℕ) : ∃ done rest, req_ids = done ++ rest ∧
    done.foldlM Leases.leaseRow s = .ok (Leases.leaseRows req_ids s).1 := by
  induction req_ids generalizing s with
  | nil => exact ⟨[], [], rfl, rfl⟩
  | cons req_id req_ids ih =>
    rw [Leases.leaseRows]
    cases hrow : Leases.leaseRow s req_id with
    | error e => exact ⟨[], req_id :: req_ids, rfl, rfl⟩
    | ok s' =>
      obtain ⟨done, rest, hsplit, hdone⟩ := ih s'
      refine ⟨req_id :: done, rest, by rw [hsplit]; rfl, ?_⟩
      rw [List.foldlM_cons, hrow]
      exact hdone

section InPlace

variable {config : ResidentEpochConfig} {leases : Leases} (hi : LeaseInvariant config leases) (req_ids : List ReqId)

include hi

/-- where an assignment leaves the leases -/
theorem assignInPlace_spec : ∃ base done free_rows, Purged leases req_ids base ∧ done ⊆ req_ids ∧
    Leases.leaseRows req_ids (base, base.freeRows config) =
      (((assignInPlace config leases req_ids).1, free_rows), (assignInPlace config leases req_ids).2) ∧
    Leasing config base done ((assignInPlace config leases req_ids).1, free_rows) := by
  obtain ⟨base, hbase, hp⟩ := purge_spec hi req_ids
  obtain ⟨done, rest, hsplit, hdone⟩ := leaseRows_done req_ids (base, base.freeRows config)
  have hleasing := leasing_loop (hp.invariant hi) done hdone
  unfold assignInPlace
  rw [hbase]
  exact ⟨base, done, _, hp, fun id hid => hsplit ▸ List.mem_append_left rest hid, rfl, hleasing⟩

theorem assignInPlace_invariant : LeaseInvariant config (assignInPlace config leases req_ids).1 := by
  obtain ⟨base, done, free_rows, -, -, -, hl⟩ := assignInPlace_spec hi req_ids
  exact hl.invariant

theorem assignInPlace_next : leases.next_generation ≤ (assignInPlace config leases req_ids).1.next_generation := by
  obtain ⟨base, done, free_rows, hp, -, -, hl⟩ := assignInPlace_spec hi req_ids
  exact hp.next ▸ hl.next.1

/-- a generation that was not there before is at least the next one -/
theorem assignInPlace_issued {item : ReqId × Int} (hitem : item ∈ (assignInPlace config leases req_ids).1.generations)
    (hnew : ¬leases.leased item.1) : leases.next_generation ≤ item.2 := by
  obtain ⟨base, done, free_rows, hp, -, -, hl⟩ := assignInPlace_spec hi req_ids
  rcases hl.issued item hitem with hold | hfresh
  · have hleased : base.leased item.1 := (leased_generations (hp.invariant hi) _).2 (List.mem_map_of_mem hold)
    exact absurd ((hp.leased _).1 hleased).1 hnew
  · exact hp.next ▸ hfresh

end InPlace

/-- a plan that is made, and one that is rejected -/
theorem plan_assigns {s : ResidentEpochScheduler} {out : SchedulerOutput} {leases : Leases}
    {made : Except Refusal ResidentEpochPlan} (h : makeResidentEpochPlan s out = (leases, made)) :
    leases = s.leases ∨ assignInPlace s.config s.leases out.req_ids = (leases, .ok ()) :=
  (makePlan_leases h).imp_right fun hassigned => assignInPlace_ok hassigned.2

/-! ## The lease of row 0 -/

/-- a lease an assignment issues -/
structure Issues (before after : Leases) (req_id : ReqId) (r : Row) (generation : Int) : Prop where
  unleased : ¬before.leased req_id
  holds : after.holds req_id r generation

theorem leaseRow_extends {s s' : Leases × List ℕ} {req_id : ReqId} (h : Leases.leaseRow s req_id = .ok s') :
    s.1.rows <+: s'.1.rows ∧ s.1.generations <+: s'.1.generations := by
  obtain ⟨leases, free_rows⟩ := s
  unfold Leases.leaseRow at h
  dsimp only at h
  by_cases hhas : leases.leased req_id
  · rw [if_pos hhas] at h
    cases h
    exact ⟨List.prefix_rfl, List.prefix_rfl⟩
  · rw [if_neg hhas] at h
    cases free_rows with
    | nil => cases h
    | cons row free_rows =>
      dsimp only at h
      split_ifs at h
      cases h
      exact ⟨List.prefix_append _ _, List.prefix_append _ _⟩

theorem leaseRows_extends (req_ids : List ReqId) (s : Leases × List ℕ) :
    s.1.rows <+: (Leases.leaseRows req_ids s).1.1.rows ∧
      s.1.generations <+: (Leases.leaseRows req_ids s).1.1.generations := by
  induction req_ids generalizing s with
  | nil => exact ⟨List.prefix_rfl, List.prefix_rfl⟩
  | cons req_id req_ids ih =>
    rw [Leases.leaseRows]
    cases hrow : Leases.leaseRow s req_id with
    | error e => exact ⟨List.prefix_rfl, List.prefix_rfl⟩
    | ok s' =>
      obtain ⟨hrows, hgenerations⟩ := leaseRow_extends hrow
      exact ⟨hrows.trans (ih s').1, hgenerations.trans (ih s').2⟩

/-- the first request without a lease gets the first free row and the next generation -/
theorem leaseRows_first {base : Leases} (row : ℕ) (free_rows : List ℕ) (hspace : base.next_generation < 2 ^ 31)
    {req_ids : List ReqId} (hnew : base.newIds req_ids ≠ []) : ∃ req_id ∈ req_ids, ¬base.leased req_id ∧
      (req_id, row) ∈ (Leases.leaseRows req_ids (base, row :: free_rows)).1.1.rows ∧
      (req_id, base.next_generation) ∈ (Leases.leaseRows req_ids (base, row :: free_rows)).1.1.generations := by
  induction req_ids with
  | nil => exact absurd rfl hnew
  | cons req_id req_ids ih =>
    rw [Leases.leaseRows]
    by_cases hhas : base.leased req_id
    · have hkeep : Leases.leaseRow (base, row :: free_rows) req_id = .ok (base, row :: free_rows) := if_pos hhas
      have hrest : base.newIds req_ids ≠ [] := by
        unfold Leases.newIds at hnew ⊢
        rwa [List.filter_cons_of_neg (by simpa using hhas)] at hnew
      obtain ⟨id, hid, hfresh, hrow, hgeneration⟩ := ih hrest
      rw [hkeep]
      exact ⟨id, List.mem_cons_of_mem _ hid, hfresh, hrow, hgeneration⟩
    · have hgrant : Leases.leaseRow (base, row :: free_rows) req_id = .ok (base.grant req_id row, free_rows) := by
        unfold Leases.leaseRow
        dsimp only
        rw [if_neg hhas, if_neg (not_le.2 hspace)]
      obtain ⟨hrows, hgenerations⟩ := leaseRows_extends req_ids (base.grant req_id row, free_rows)
      rw [hgrant]
      refine ⟨req_id, List.mem_cons_self, hhas, hrows.subset ?_, hgenerations.subset ?_⟩
      · exact List.mem_append_right _ (List.mem_singleton_self _)
      · exact List.mem_append_right _ (List.mem_singleton_self _)

/-- row 0 is free, and the generation it is about to get is the warm-up's -/
structure ReissuesWarmup (leases : Leases) (req_ids : List ReqId) : Prop where
  generation : leases.next_generation = WARMUP_GENERATION
  unleased : leases.newIds req_ids ≠ []
  free : ∀ req_id ∈ req_ids, leases.rows.lookup req_id ≠ some 0

section RowZero

variable {config : ResidentEpochConfig} {leases : Leases} (req_ids : List ReqId)

/-- row 0 comes first of the free rows -/
theorem freeRows_zero {base : Leases} (hbatch : 0 < config.max_batch_size) (hfree : 0 ∉ base.rows.map Prod.snd) :
    ∃ free_rows, base.freeRows config = 0 :: free_rows := by
  obtain ⟨n, hn⟩ := Nat.exists_eq_succ_of_ne_zero hbatch.ne'
  unfold Leases.freeRows
  rw [hn, List.range_succ_eq_map, List.filter_cons_of_pos (by simpa using hfree)]
  exact ⟨_, rfl⟩

/-- row 0 is free after the first loop if no requested lease is of it -/
theorem Purged.zero_free {base : Leases} (hp : Purged leases req_ids base)
    (hfree : ∀ req_id ∈ req_ids, leases.rows.lookup req_id ≠ some 0) (hids : (leases.rows.map Prod.fst).Nodup) :
    0 ∉ base.rows.map Prod.snd := by
  intro hmem
  obtain ⟨⟨req_id, row⟩, hitem, hrow⟩ := List.mem_map.1 hmem
  obtain rfl : row = 0 := hrow
  rw [hp.rows] at hitem
  obtain ⟨hitem, hid⟩ := List.mem_filter.1 hitem
  exact hfree req_id (of_decide_eq_true hid) ((lookup_iff_mem hids).2 hitem)

variable (hbatch : 0 < config.max_batch_size) (hi : LeaseInvariant config leases)

include hbatch hi

/-- **When row 0 gets the generation of the warm-up.** -/
theorem reissues_iff : (∃ req_id, Issues leases (assignInPlace config leases req_ids).1 req_id 0 WARMUP_GENERATION) ↔
    ReissuesWarmup leases req_ids := by
  obtain ⟨base, done, free_rows, hp, hdone, hloop, hl⟩ := assignInPlace_spec hi req_ids
  have hib := hp.invariant hi
  have hgen : WARMUP_GENERATION = 2 ^ 31 - 1 := rfl
  constructor
  · rintro ⟨req_id, hnew, hholds⟩
    have hunleased : ¬base.leased req_id := fun hbase => hnew ((hp.leased _).1 hbase).1
    have hrequested : req_id ∈ req_ids :=
      hdone (((hl.leased req_id).1 (key_of_lookup hholds.row)).resolve_left hunleased)
    have hrow := mem_of_lookup hholds.row
    have hgeneration := mem_of_lookup hholds.generation
    -- any other lease of row 0 is this one
    have hsame {other : ReqId} (h : (other, 0) ∈ (assignInPlace config leases req_ids).1.rows) : other = req_id :=
      congrArg Prod.fst (List.inj_on_of_nodup_map hl.invariant.rows h hrow rfl)
    have hzero : 0 ∉ base.rows.map Prod.snd := by
      intro hmem
      obtain ⟨⟨other, row⟩, hitem, hother⟩ := List.mem_map.1 hmem
      obtain rfl : row = 0 := hother
      have hid := hsame (hl.rows.subset hitem)
      exact hunleased (hid ▸ List.mem_map_of_mem hitem)
    have hnext : base.next_generation ≤ WARMUP_GENERATION :=
      hp.next ▸ assignInPlace_issued hi req_ids hgeneration hnew
    have hids : base.newIds req_ids ≠ [] :=
      List.ne_nil_of_mem (List.mem_filter.2 ⟨hrequested, decide_eq_true hunleased⟩)
    obtain ⟨free, hfree⟩ := freeRows_zero hbatch hzero
    rw [hfree] at hloop
    obtain ⟨first, -, -, hfirst, hissued⟩ := leaseRows_first 0 free (by omega) hids
    rw [hloop] at hfirst hissued
    obtain rfl := hsame hfirst
    have hkeys : ((assignInPlace config leases req_ids).1.generations.map Prod.fst).Nodup :=
      hl.invariant.keys ▸ hl.invariant.ids
    have hlookup := (lookup_iff_mem hkeys).2 hissued
    refine ⟨?_, hp.newIds ▸ hids, fun other hother hlookup => hzero ?_⟩
    · exact hp.next ▸ Option.some.inj (hlookup.symm.trans hholds.generation)
    · rw [hp.rows]
      exact List.mem_map_of_mem (List.mem_filter.2 ⟨mem_of_lookup hlookup, decide_eq_true hother⟩)
  · intro hr
    obtain ⟨free, hfree⟩ := freeRows_zero hbatch (hp.zero_free req_ids hr.free hi.ids)
    have hnext : base.next_generation = WARMUP_GENERATION := hp.next.trans hr.generation
    rw [hfree] at hloop
    obtain ⟨first, hfirst, hunleased, hrow, hissued⟩ :=
      leaseRows_first 0 free (by omega) (hp.newIds.symm ▸ hr.unleased)
    rw [hloop] at hrow hissued
    have hkeys : ((assignInPlace config leases req_ids).1.generations.map Prod.fst).Nodup :=
      hl.invariant.keys ▸ hl.invariant.ids
    refine ⟨first, fun hleased => hunleased ((hp.leased _).2 ⟨hleased, hfirst⟩), ?_, ?_⟩
    · exact (lookup_iff_mem hl.invariant.ids).2 hrow
    · exact (lookup_iff_mem hkeys).2 (hnext ▸ hissued)

end RowZero

/-! ## Calls that commit -/

/-- a call of the UDF that ends with status OK -/
structure CommittedCall (resident : Controller.Resident) (call : ProcCall) (inp : Inputs) : Prop where
  read : readInputs call.plat call.inputs = some inp
  answer : ∃ e, (call.run resident).emitted = some e ∧ e.control 3 = Status.ok.code

section Calls

variable {resident : Controller.Resident} {call : ProcCall} {inp : Inputs} {r : Row}

theorem CommittedCall.epoch (hc : CommittedCall resident call inp) : ∃ d d' e, d.metadata = resident.metadata ∧
    (call.run resident).resident = d'.toResident ∧ Controller.epoch call.env inp d = (d', .ok, e) := by
  obtain ⟨e, he, hok⟩ := hc.answer
  obtain ⟨d, d', h⟩ := proc_ok hc.read he hok
  exact ⟨d, d', e, h⟩

/-- the generations it leaves -/
theorem CommittedCall.generation (hc : CommittedCall resident call inp) (r : Row) :
    (call.run resident).resident.metadata.generation r =
      if inp.active r = 0 then resident.metadata.generation r else inp.row_generation r := by
  obtain ⟨d, d', e, hmetadata, hresident, hepoch⟩ := hc.epoch
  rw [hresident, ← hmetadata]
  by_cases hidle : inp.active r = 0
  · rw [if_pos hidle]
    exact (epoch_idle hepoch hidle).2.2.1
  · rw [if_neg hidle]
    exact (epoch_row hepoch hidle).generation

/-- each of its rows was imported, continued or started -/
theorem CommittedCall.row (hc : CommittedCall resident call inp) (hactive : inp.active r ≠ 0) :
    Imported inp r ∨ Controller.Continues resident.metadata inp r ∨ Starts resident.metadata inp r := by
  obtain ⟨d, d', e, hmetadata, -, hepoch⟩ := hc.epoch
  have hok : (Controller.epoch call.env inp d).2.1 = .ok := by rw [hepoch]
  obtain ⟨dp, loc, n, s, hp, -⟩ := epoch_ok hok
  obtain ⟨checksum, himport, -⟩ := hp.locals
  obtain ⟨ng, hng, -⟩ := hp.continuity
  have hrow := (continuity_iff _ inp).1 ⟨ng, hng⟩ r hactive
  rw [importPhase_device] at hrow
  by_cases hmem : r ∈ importWritten inp
  · exact Or.inl ((imported_iff himport r).1 hmem)
  · rw [← hmetadata]
    refine Or.inr (hrow.imp (fun h => ?_) fun h => ?_)
    · exact ⟨(if_neg hmem).symm.trans h.generation, (if_neg hmem).symm.trans_ne h.valid, (if_neg hmem).symm.trans h.token,
        (if_neg hmem).symm.trans h.position, (if_neg hmem).symm.trans h.length⟩
    · exact ⟨(if_neg hmem).symm.trans_ne h.generation, h.position, h.length⟩

end Calls

/-! ### The warm-up -/

/-- the rows of the warm-up request, as the server reads them -/
def warmupRows : RowInputs := (parseRequest (pack requestFields warmupWords)).rows

/-- the call that commits the warm-up -/
structure WarmUp (call : ProcCall) (inp : Inputs) : Prop where
  committed : CommittedCall Controller.init call inp
  request : ReadsRequest warmupRows 1 false 0 inp

theorem warmupRows_generation : warmupRows.row_generations = ![2147483647, 0, 0, 0] := by decide +kernel

/-- it leaves its generation on row 0, and none on the others -/
theorem WarmUp.generation {call : ProcCall} {inp : Inputs} (hw : WarmUp call inp) (r : Row) :
    (call.run Controller.init).resident.metadata.generation r = if r = 0 then WARMUP_GENERATION else 0 := by
  have hactive := hw.request.active r
  have hgeneration := hw.request.row_generation r
  unfold requestActive at hactive
  rw [warmupRows_generation] at hactive hgeneration
  rw [hw.committed.generation r, hactive, hgeneration]
  clear hactive hgeneration
  revert r
  decide

/-! ## The leases next to the resident rows -/

structure Paired where
  leases : Leases
  resident : Controller.Resident
  issued : List (ReqId × Int)
  ran : Finset Row

/-- after the warm-up -/
def Paired.warmed (call : ProcCall) : Paired := ⟨.fresh, (call.run Controller.init).resident, [], ∅⟩

inductive PairedEvent where
  | assign (req_ids : List ReqId)
  | account (s : ResidentEpochScheduler) (out : SchedulerOutput) (output : ModelRunnerOutput) (plan : ResidentEpochPlan)
    (result : ResidentEpochResult)
  | epoch (plan : ResidentEpochPlan) (call : ProcCall)

def Paired.assigned (t : Paired) (config : ResidentEpochConfig) (req_ids : List ReqId) : Paired :=
  let leases := (assignInPlace config t.leases req_ids).1
  { t with leases, issued := t.issued ++ newLeases t.leases leases }

/-- the rows a plan runs -/
def ResidentEpochPlan.ranRows (plan : ResidentEpochPlan) : Finset Row :=
  Finset.univ.filter fun r => ∃ planned ∈ plan.requests, planned.sitsIn r

inductive PairedStep (config : ResidentEpochConfig) (t : Paired) : PairedEvent → Paired → Prop where
  | assign {req_ids} : PairedStep config t (.assign req_ids) (t.assigned config req_ids)
  | account {s out output plan result s'} : s.config = config → s.leases = t.leases →
      s.applyResidentEpochAccounting out output plan result = .ok s' →
      PairedStep config t (.account s out output plan result) { t with leases := s'.leases }
  | epoch {plan call inp} : (∀ planned ∈ plan.requests, (planned.req_id, planned.generation) ∈ t.issued) →
      CarriesPlan plan inp → CommittedCall t.resident call inp →
      PairedStep config t (.epoch plan call)
        { t with resident := (call.run t.resident).resident, ran := t.ran ∪ ResidentEpochPlan.ranRows plan }

/-- the event runs an epoch of a generation on a row -/
def PairedEvent.runs (r : Row) (generation : Int) : PairedEvent → Prop
  | .epoch plan _ => ∃ planned ∈ plan.requests, planned.sitsIn r ∧ planned.generation = generation
  | _ => False

/-- the lease of a row is new to the controller: a call on it imports the row or starts it -/
structure NewTo (resident : Controller.Resident) (r : Row) (generation : Int) : Prop where
  differs : resident.metadata.generation r ≠ generation
  continues : ∀ inp : Inputs, inp.row_generation r = generation → ¬Controller.Continues resident.metadata inp r
  starts : ∀ call inp, CommittedCall resident call inp → inp.active r ≠ 0 → inp.row_generation r = generation →
    Imported inp r ∨ Starts resident.metadata inp r

theorem newTo_iff (resident : Controller.Resident) (r : Row) (generation : Int) :
    NewTo resident r generation ↔ resident.metadata.generation r ≠ generation := by
  refine ⟨NewTo.differs, fun hne => ?_⟩
  have hcontinues (inp : Inputs) (hinp : inp.row_generation r = generation) :
      ¬Controller.Continues resident.metadata inp r := fun h => hne (h.generation.trans hinp)
  refine ⟨hne, hcontinues, fun call inp hc hactive hinp => ?_⟩
  exact (hc.row hactive).imp_right fun h => h.resolve_left (hcontinues inp hinp)

/-! ## The invariant -/

/-- the generations of the two sides -/
structure PairedInvariant (config : ResidentEpochConfig) (t : Paired) : Prop where
  leases : LeaseInvariant config t.leases
  issued : ∀ item ∈ t.issued, 0 < item.2 ∧ item.2 < t.leases.next_generation
  held : ∀ r, t.resident.metadata.generation r = 0 ∨ (∃ item ∈ t.issued, t.resident.metadata.generation r = item.2) ∨
    r = 0 ∧ 0 ∉ t.ran
  warm : 0 ∉ t.ran → t.resident.metadata.generation 0 = WARMUP_GENERATION

section Steps

variable {config : ResidentEpochConfig} {t t' : Paired} {event : PairedEvent}

theorem warmed_invariant {call : ProcCall} {inp : Inputs} (hw : WarmUp call inp) :
    PairedInvariant config (.warmed call) where
  leases := fresh_invariant config
  issued := fun _ h => (by cases h)
  held := fun r => by
    by_cases hr : r = 0
    · exact Or.inr (Or.inr ⟨hr, Finset.notMem_empty 0⟩)
    · exact Or.inl ((hw.generation r).trans (if_neg hr))
  warm := fun _ => (hw.generation 0).trans (if_pos rfl)

theorem PairedInvariant.assign (hi : PairedInvariant config t) (req_ids : List ReqId) :
    PairedInvariant config (t.assigned config req_ids) := by
  have hnext := assignInPlace_next hi.leases req_ids
  have hinv := assignInPlace_invariant hi.leases req_ids
  refine ⟨hinv, fun item hitem => ?_, fun r => ?_, hi.warm⟩
  · rcases List.mem_append.1 hitem with hitem | hitem
    · obtain ⟨hpos, hlt⟩ := hi.issued item hitem
      exact ⟨hpos, hlt.trans_le hnext⟩
    · have hmem := (List.mem_filter.1 hitem).1
      exact ⟨hinv.positive item hmem, hinv.below item hmem⟩
  · rcases hi.held r with hzero | ⟨item, hitem, heq⟩ | hwarm
    · exact Or.inl hzero
    · exact Or.inr (Or.inl ⟨item, List.mem_append_left _ hitem, heq⟩)
    · exact Or.inr (Or.inr hwarm)

/-- the generation of a row after an epoch of a plan -/
theorem CommittedCall.planned {resident : Controller.Resident} {plan : ResidentEpochPlan} {call : ProcCall} {inp : Inputs}
    (hc : CommittedCall resident call inp) (hcarries : CarriesPlan plan inp) (r : Row) :
    (r ∉ ResidentEpochPlan.ranRows plan ∧
      (call.run resident).resident.metadata.generation r = resident.metadata.generation r) ∨
    ∃ planned ∈ plan.requests, planned.sitsIn r ∧ r ∈ ResidentEpochPlan.ranRows plan ∧
      (call.run resident).resident.metadata.generation r = planned.generation := by
  rw [hc.generation r]
  by_cases hran : ∃ planned ∈ plan.requests, planned.sitsIn r
  · obtain ⟨planned, hmem, hsits⟩ := hran
    have hrow := hcarries.row planned hmem r hsits
    have hactive : inp.active r ≠ 0 := by rw [hrow.active]; decide
    refine Or.inr ⟨planned, hmem, hsits, Finset.mem_filter.2 ⟨Finset.mem_univ r, planned, hmem, hsits⟩, ?_⟩
    rw [if_neg hactive]
    exact hrow.generation
  · have hidle := (hcarries.empty r fun planned hmem hsits => hran ⟨planned, hmem, hsits⟩).1
    exact Or.inl ⟨fun hmem => hran (Finset.mem_filter.1 hmem).2, if_pos hidle⟩

theorem PairedInvariant.epoch (hi : PairedInvariant config t) {plan : ResidentEpochPlan} {call : ProcCall} {inp : Inputs}
    (hissued : ∀ planned ∈ plan.requests, (planned.req_id, planned.generation) ∈ t.issued)
    (hcarries : CarriesPlan plan inp) (hc : CommittedCall t.resident call inp) : PairedInvariant config
      { t with resident := (call.run t.resident).resident, ran := t.ran ∪ ResidentEpochPlan.ranRows plan } := by
  refine ⟨hi.leases, hi.issued, fun r => ?_, fun hnot => ?_⟩
  · rcases hc.planned hcarries r with ⟨hidle, hsame⟩ | ⟨planned, hmem, -, -, hgeneration⟩
    · dsimp only
      rw [hsame]
      refine (hi.held r).imp_right fun h => h.imp_right ?_
      rintro ⟨rfl, hran⟩
      exact ⟨rfl, fun h => (Finset.mem_union.1 h).elim hran hidle⟩
    · exact Or.inr (Or.inl ⟨_, hissued planned hmem, hgeneration⟩)
  · obtain ⟨hnot, hidle⟩ := not_or.1 (mt Finset.mem_union.2 hnot)
    rcases hc.planned hcarries 0 with ⟨-, hsame⟩ | ⟨_, -, -, hran, -⟩
    · exact hsame.trans (hi.warm hnot)
    · exact absurd hran hidle

theorem pairedStep_invariant (hi : PairedInvariant config t) (h : PairedStep config t event t') :
    PairedInvariant config t' := by
  cases h with
  | assign => exact hi.assign _
  | @account s out output plan result s' hs hleases haccount =>
    -- only the ownership changes
    obtain ⟨_, _, ha⟩ := accounting_iff.1 haccount
    obtain rfl := ha.scheduler
    have hinv := hi.leases
    have hissued := hi.issued
    rw [← hleases] at hinv hissued
    exact ⟨⟨hinv.keys, hinv.ids, hinv.rows, hinv.range, hinv.positive, hinv.below, hinv.increasing, hinv.next⟩, hissued,
      hi.held, hi.warm⟩
  | epoch hissued hcarries hc => exact hi.epoch hissued hcarries hc

/-- a row keeps another generation than that of a lease until the lease is run -/
theorem pairedStep_differs {r : Row} {generation : Int} (hne : t.resident.metadata.generation r ≠ generation)
    (h : PairedStep config t event t') (hrest : ¬event.runs r generation) :
    t'.resident.metadata.generation r ≠ generation := by
  cases h with
  | assign => exact hne
  | account _ _ _ => exact hne
  | epoch hissued hcarries hc =>
    rcases hc.planned hcarries r with ⟨-, hsame⟩ | ⟨planned, hmem, hsits, -, hgeneration⟩
    · exact hsame.trans_ne hne
    · exact fun heq => hrest ⟨planned, hmem, hsits, hgeneration.symm.trans heq⟩

end Steps

/-! ## New leases -/

/-- every lease of an assignment is new to the controller until it is run -/
def LeasesFresh (config : ResidentEpochConfig) (t : Paired) (req_ids : List ReqId) : Prop :=
  ∀ req_id r generation, Issues t.leases (t.assigned config req_ids).leases req_id r generation →
    ∀ t', Run (PairedStep config) (fun _ event => ¬event.runs r generation) (t.assigned config req_ids) t' →
      NewTo t'.resident r generation

theorem run_paired {config : ResidentEpochConfig} {call : ProcCall} {inp : Inputs} (hw : WarmUp call inp) {t : Paired}
    (h : Run (PairedStep config) (fun _ _ => True) (.warmed call) t) : PairedInvariant config t :=
  h.invariant (warmed_invariant hw) fun _ _ _ hi hs _ => pairedStep_invariant hi hs

/-- the generation of the warm-up on a row that still holds it -/
theorem PairedInvariant.reissued {config : ResidentEpochConfig} (hbatch : 0 < config.max_batch_size) {t : Paired}
    (hi : PairedInvariant config t) {req_ids : List ReqId} (hr : ReissuesWarmup t.leases req_ids) (hran : 0 ∉ t.ran) :
    ¬LeasesFresh config t req_ids := by
  intro hfresh
  obtain ⟨req_id, hissues⟩ := (reissues_iff req_ids hbatch hi.leases).2 hr
  exact (hfresh req_id 0 _ hissues _ .refl).differs (hi.warm hran)

/-- **When new leases are new to the controller.** -/
theorem new_lease_fresh_iff {config : ResidentEpochConfig} (hconfig : config.Valid) {call : ProcCall} {inp : Inputs}
    (hw : WarmUp call inp) {t : Paired} (h : Run (PairedStep config) (fun _ _ => True) (.warmed call) t)
    (req_ids : List ReqId) : LeasesFresh config t req_ids ↔ ¬(ReissuesWarmup t.leases req_ids ∧ 0 ∉ t.ran) := by
  have hi : PairedInvariant config t := run_paired hw h
  have hbatch : 0 < config.max_batch_size := hconfig.batch ▸ Nat.zero_lt_succ 3
  constructor
  · exact fun hfresh hr => hi.reissued hbatch hr.1 hr.2 hfresh
  · intro hnot req_id r generation hissues t' hrun
    have hitem := mem_of_lookup hissues.holds.generation
    have hge : t.leases.next_generation ≤ generation := assignInPlace_issued hi.leases req_ids hitem hissues.unleased
    have hstart : (t.assigned config req_ids).resident.metadata.generation r ≠ generation := by
      show t.resident.metadata.generation r ≠ generation
      rcases hi.held r with hzero | ⟨item, hissued, heq⟩ | ⟨rfl, hran⟩
      · have hpos := hi.leases.next
        omega
      · have hlt := (hi.issued item hissued).2
        omega
      · intro heq
        refine hnot ⟨(reissues_iff req_ids hbatch hi.leases).1 ⟨req_id, ?_⟩, hran⟩
        rw [← hi.warm hran, heq]
        exact hissues
    refine (newTo_iff _ r generation).2 ?_
    induction hrun with
    | refl => exact hstart
    | tail _ hs hrest ih => exact pairedStep_differs ih hs hrest

/-! ### A warm-up that commits -/

/-- the call the bridge feeds, on a platform and a decoder that answer -/
def warmupFeed : ProcCall where
  plat := .granted
  env := .steady
  inputs := (feedCall (fun _ => 0) .none warmupRows 1 (rowLoops false warmupRows)).inputs.map GeTensor.flowMsg

theorem warmup_commits : ∃ inp, WarmUp warmupFeed inp := by
  obtain ⟨inp, hread, hreads, hslot⟩ :=
    feedCall_reads (fun _ => 0) .none warmupRows 1 ⟨by decide, by decide⟩ (by decide) .granted rfl rfl
  have hvalid : Validated inp := fed_validated hreads ⟨by decide, by decide⟩ (by decide +kernel) hslot
  obtain ⟨d, halloc⟩ : ∃ d, allocResident .granted Controller.init = .ok d := ⟨_, rfl⟩
  have hstarts (r : Row) (hactive : inp.active r ≠ 0) :
      Controller.Continues d.metadata inp r ∨ Starts d.metadata inp r := by
    have hleased : warmupRows.row_generations r ≠ 0 := fun hzero => by
      rw [hreads.active, requestActive, if_pos hzero] at hactive
      exact hactive rfl
    have hgeneration := hreads.row_generation r
    have hposition := hreads.position r
    have hlength := hreads.length r
    rw [requestPosition, if_neg hleased] at hposition
    rw [requestLength, if_neg hleased] at hlength
    rw [allocResident_metadata halloc]
    refine Or.inr ⟨?_, ?_, ?_⟩
    · rw [hgeneration]
      exact fun heq => hleased (int32_eq_zero.2 heq.symm)
    · rw [hposition]
      clear hactive hgeneration hposition hlength
      revert r
      decide +kernel
    · rw [hlength]
      clear hactive hgeneration hposition hlength
      revert r
      decide +kernel
  obtain ⟨d', e, hepoch⟩ := total_epoch steady_total steady_runs hvalid hreads.importing hstarts
  refine ⟨inp, ⟨hread, e, proc_emits hread halloc hepoch fun _ => rfl, ?_⟩, hreads⟩
  have hstatus := epoch_status .steady inp d
  rwa [hepoch] at hstatus

/-- row 0 is run for the first time after the warm-up -/
theorem warmed_commits {call : ProcCall} {inp : Inputs} (hw : WarmUp call inp) :
    CommittedCall (Paired.warmed call).resident (rowProc 0) (rowRead 12 0) := by
  have hread : readInputs (rowProc 0).plat (rowProc 0).inputs = some (rowRead 12 0) := rowInputs_read .granted rfl 12 0
  refine ⟨hread, total_commits echo_total echo_runs (fun _ => rfl) hread oneRow_valid rfl fun r ha => Or.inr ?_⟩
  match r with
  | 0 => exact ⟨fun h => absurd ((hw.generation 0).symm.trans h) (by decide), rfl, rfl⟩
  | 1 | 2 | 3 => exact absurd rfl ha

/-- request 1 is leased row 0, and runs -/
theorem warmed_run {call : ProcCall} {inp : Inputs} (hw : WarmUp call inp) : ∃ t,
    Run (PairedStep (.make 2 8)) (fun _ _ => True) (.warmed call) t ∧ t.leases.generations = [(1, 1)] ∧ 0 ∈ t.ran := by
  have hleases : ((Paired.warmed call).assigned (.make 2 8) [1]).leases = ⟨[(1, 0)], [(1, 1)], ∅, 2⟩ := rfl
  have hissued : ∀ planned ∈ (rowPlan 12 0 .host).requests,
      (planned.req_id, planned.generation) ∈ ((Paired.warmed call).assigned (.make 2 8) [1]).issued := by
    intro planned hmem
    obtain rfl := List.mem_singleton.1 hmem
    exact List.mem_cons_self
  have hassigned : Run (PairedStep (.make 2 8)) (fun _ _ => True) (.warmed call)
      ((Paired.warmed call).assigned (.make 2 8) [1]) := .tail .refl .assign trivial
  have hran : (0 : Row) ∈ ResidentEpochPlan.ranRows (rowPlan 12 0 .host) := by decide
  exact ⟨_, hassigned.tail (.epoch hissued (rowPlan_carries 12 0 .host) (warmed_commits hw)) trivial,
    congrArg Leases.generations hleases, Finset.mem_union_right _ hran⟩

/-- and request 2 is new to the controller -/
theorem new_lease_fresh_second : (ResidentEpochConfig.make 2 8).Valid ∧ ∃ inp t, WarmUp warmupFeed inp ∧
    Run (PairedStep (.make 2 8)) (fun _ _ => True) (.warmed warmupFeed) t ∧
    t.leases.generations = [(1, 1)] ∧ 0 ∈ t.ran ∧ LeasesFresh (.make 2 8) t [2] := by
  have hconfig : (ResidentEpochConfig.make 2 8).Valid := (ResidentEpochConfig.validate_ok_iff _).1 (by decide)
  obtain ⟨inp, hw⟩ := warmup_commits
  obtain ⟨t, hrun, hgenerations, hran⟩ := warmed_run hw
  exact ⟨hconfig, inp, t, hw, hrun, hgenerations, hran, (new_lease_fresh_iff hconfig hw hrun [2]).2 fun h => h.2 hran⟩

/-- one request at a time: each takes row 0 and the next generation -/
theorem lone_assignment (n : ℕ) (h : n + 2 < 2 ^ 31) :
    (assignInPlace (.make 8 8) ⟨[(n, 0)], [(n, n + 1)], ∅, n + 2⟩ [n + 1]).1 =
      ⟨[(n + 1, 0)], [(n + 1, (n + 1 : ℕ) + 1)], ∅, (n + 1 : ℕ) + 2⟩ := by
  have hspace : ¬(2147483648 : Int) ≤ (n : Int) + 2 := by omega
  simp [assignInPlace, Leases.purge, Leases.leaseRows, Leases.leaseRow, Leases.leased, Leases.freeRows, Leases.grant,
    ResidentEpochConfig.make, List.range_succ, hspace]
  omega

theorem lone_run (call : ProcCall) (n : ℕ) (h : n + 1 < 2 ^ 31) : ∃ t, Run (PairedStep (.make 8 8)) (fun _ _ => True)
    (.warmed call) t ∧ t.leases = ⟨[(n, 0)], [(n, n + 1)], ∅, n + 2⟩ ∧ t.ran = ∅ := by
  induction n with
  | zero =>
    exact ⟨(Paired.warmed call).assigned (.make 8 8) [0], .tail .refl .assign trivial, rfl, rfl⟩
  | succ n ih =>
    obtain ⟨t, hrun, hleases, hran⟩ := ih (by omega)
    refine ⟨t.assigned (.make 8 8) [n + 1], hrun.tail .assign trivial, ?_, hran⟩
    show (assignInPlace _ t.leases _).1 = _
    rw [hleases]
    exact lone_assignment n (by omega)

/-- **A lease with the generation of the warm-up.** -/
theorem warmup_generation_reissued : ¬∀ (config : ResidentEpochConfig) (call : ProcCall) (inp : Inputs) (t : Paired)
    (req_ids : List ReqId), config.Valid → WarmUp call inp →
      Run (PairedStep config) (fun _ _ => True) (.warmed call) t → LeasesFresh config t req_ids := by
  intro h
  have hconfig : (ResidentEpochConfig.make 8 8).Valid := (ResidentEpochConfig.validate_ok_iff _).1 (by decide)
  obtain ⟨inp, hw⟩ := warmup_commits
  obtain ⟨t, hrun, hleases, hran⟩ := lone_run warmupFeed (2 ^ 31 - 3) (by norm_num)
  have hfresh := h _ _ _ _ [2 ^ 31 - 2] hconfig hw hrun
  refine (run_paired hw hrun).reissued (by decide) ⟨?_, ?_, ?_⟩ ?_ hfresh
  · rw [hleases]
    rfl
  · rw [hleases]
    decide
  · rw [hleases]
    decide
  · rw [hran]
    exact Finset.notMem_empty 0

end Cruise.Scheduler
