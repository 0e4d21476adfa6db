/-
Row leases (`ResidentEpochScheduler._assign_resident_rows`, and the configuration it reads).

MODEL. A dict is its list of items in insertion order. `del` on a missing key and `list.pop` on an empty list are
exceptions of the source, and errors here.
- `assign_spec`: what one assignment does.
- `LeaseInvariant`: rows and generations of the leases.
- `assign_iff`: when an assignment succeeds.
-/
import Cruise.Lib.Dict
import Cruise.Scheduler.Eligibility

namespace Cruise.Scheduler

open Cruise.Lib Cruise.Worker

/-! ## Configuration -/

structure ResidentEpochConfig where
  max_steps : Int
  logical_capacity : Int
  physical_blocks : Int
  blocks_per_request : Int
  block_size : Int
  max_batch_size : ℕ
deriving DecidableEq, Repr

inductive ConfigError where
  | steps
  | capacity
  | batch
deriving DecidableEq, Repr

def ConfigError.message : ConfigError → String
  | .steps => "resident epoch steps must be one of 1, 2, 4, 8"
  | .capacity => "logical capacity must be at least max_steps"
  | .batch => "the current native graph has a fixed maximum B=4"

namespace ResidentEpochConfig

/-- the dataclass with its defaults -/
def make (max_steps logical_capacity : Int) : ResidentEpochConfig := ⟨max_steps, logical_capacity, 8, 2, 128, 4⟩

def validate (config : ResidentEpochConfig) : Except ConfigError Unit := do
  refuse (config.max_steps ∉ [1, 2, 4, 8]) .steps
  refuse (config.logical_capacity < config.max_steps) .capacity
  refuse (config.max_batch_size ≠ 4) .batch

/-- what an accepted configuration is -/
structure Valid (config : ResidentEpochConfig) : Prop where
  steps : config.max_steps ∈ [1, 2, 4, 8]
  capacity : config.max_steps ≤ config.logical_capacity
  batch : config.max_batch_size = 4

theorem validate_ok_iff (config : ResidentEpochConfig) : config.validate = .ok () ↔ config.Valid := by
  unfold validate
  simp only [except_bind_ok, refuse_ok, exists_const, not_not, not_lt]
  exact ⟨fun ⟨h1, h2, h3⟩ => ⟨h1, h2, h3⟩, fun ⟨h1, h2, h3⟩ => ⟨h1, h2, h3⟩⟩

end ResidentEpochConfig

/-! ## Leases -/

inductive SchedulerError where
  | lookahead
  | isolatedIdle
  | isolatedDevice
  | isolatedPlan
  | refusingHost (req_ids : List ReqId)
  | exhausted
  | generationSpace
  /-- a `KeyError` -/
  | missing (req_id : ReqId)
  /-- an `assert`, or `max` of nothing -/
  | assertion
  | plan (error : PlanError)
  | noPlan
  | noMetadata
  | result (error : ResultError)
  | fewerThanScheduled
  | overAdvance
deriving DecidableEq, Repr

def SchedulerError.message : SchedulerError → String
  | .lookahead => "resident epoch lookahead conflicts with another feature"
  | .isolatedIdle => "isolated Host lane did not schedule a request"
  | .isolatedDevice => "isolated Host lane scheduled Device-owned state"
  | .isolatedPlan => "isolated Host lane created a resident plan"
  | .refusingHost req_ids => "refusing Host execution for Device-owned requests: " ++ ",".intercalate (req_ids.map toString)
  | .exhausted => "resident row allocator exhausted"
  | .generationSpace => "resident generation space exhausted"
  | .missing req_id => toString req_id
  | .assertion => ""
  | .plan error => error.message
  | .noPlan => "resident epoch result has no scheduler plan"
  | .noMetadata => "resident epoch plan did not receive execution metadata"
  | .result error => error.message
  | .fewerThanScheduled => "resident epoch computed fewer than scheduled tokens"
  | .overAdvance => "resident epoch would over-advance computed tokens"

/-- `_resident_epoch_rows` and its siblings -/
structure Leases where
  rows : List (ReqId × ℕ)
  generations : List (ReqId × Int)
  device_owned : Finset ReqId
  next_generation : Int

def Leases.fresh : Leases := ⟨[], [], ∅, 1⟩

namespace Leases

def leased (leases : Leases) (req_id : ReqId) : Prop := req_id ∈ leases.rows.map Prod.fst

instance (leases : Leases) (req_id : ReqId) : Decidable (leases.leased req_id) := by
  unfold leased
  infer_instance

/-- the first loop: leases of requests that were not asked for end, and with them their ownership -/
def purge (leases : Leases) (req_ids : List ReqId) : Except SchedulerError Leases :=
  let stale := (leases.rows.map Prod.fst).filter fun req_id => req_id ∉ req_ids
  match stale.find? fun req_id => req_id ∉ leases.generations.map Prod.fst with
  | some req_id => .error (.missing req_id)
  | none => .ok {
      rows := leases.rows.filter fun item => item.1 ∈ req_ids
      generations := leases.generations.filter fun item => item.1 ∉ stale
      device_owned := leases.device_owned.filter fun req_id => req_id ∉ stale
      next_generation := leases.next_generation }

def freeRows (config : ResidentEpochConfig) (leases : Leases) : List ℕ :=
  (List.range config.max_batch_size).filter fun row => row ∉ leases.rows.map Prod.snd

def grant (leases : Leases) (req_id : ReqId) (row : ℕ) : Leases where
  rows := leases.rows ++ [(req_id, row)]
  generations := leases.generations ++ [(req_id, leases.next_generation)]
  device_owned := leases.device_owned
  next_generation := leases.next_generation + 1

/-- one pass of the second loop -/
def leaseRow (s : Leases × List ℕ) (req_id : ReqId) : Except SchedulerError (Leases × List ℕ) :=
  let (leases, free_rows) := s
  if leases.leased req_id then .ok s
  else
    match free_rows with
    | [] => .error .exhausted
    | row :: free_rows =>
      if leases.next_generation ≥ 2 ^ 31 then .error .generationSpace
      else .ok (leases.grant req_id row, free_rows)

end Leases

/-- `_assign_resident_rows` -/
def assignResidentRows (config : ResidentEpochConfig) (leases : Leases) (req_ids : List ReqId) :
    Except SchedulerError Leases := do
  let leases ← leases.purge req_ids
  let (leases, _) ← req_ids.foldlM Leases.leaseRow (leases, leases.freeRows config)
  .ok leases

/-! ## What holds of the leases -/

/-- distinct rows of the batch, and generations in the order of their issue -/
structure LeaseInvariant (config : ResidentEpochConfig) (leases : Leases) : Prop where
  keys : leases.generations.map Prod.fst = leases.rows.map Prod.fst
  ids : (leases.rows.map Prod.fst).Nodup
  rows : (leases.rows.map Prod.snd).Nodup
  range : ∀ item ∈ leases.rows, item.2 < config.max_batch_size
  positive : ∀ item ∈ leases.generations, 0 < item.2
  below : ∀ item ∈ leases.generations, item.2 < leases.next_generation
  increasing : (leases.generations.map Prod.snd).Pairwise (· < ·)
  next : 0 < leases.next_generation

theorem fresh_invariant (config : ResidentEpochConfig) : LeaseInvariant config .fresh where
  keys := rfl
  ids := .nil
  rows := .nil
  range := fun _ h => (by cases h)
  positive := fun _ h => (by cases h)
  below := fun _ h => (by cases h)
  increasing := .nil
  next := by decide

theorem keys_filter {α : Type} (req_ids : List ReqId) (items : List (ReqId × α)) :
    (items.filter fun item => item.1 ∈ req_ids).map Prod.fst =
      (items.map Prod.fst).filter fun req_id => req_id ∈ req_ids := by
  rw [List.filter_map]
  rfl

/-- what the first loop leaves -/
structure Purged (leases : Leases) (req_ids : List ReqId) (leases' : Leases) : Prop where
  rows : leases'.rows = leases.rows.filter fun item => item.1 ∈ req_ids
  generations : leases'.generations = leases.generations.filter fun item => item.1 ∈ req_ids
  owned : ∀ req_id, req_id ∈ leases'.device_owned ↔
    req_id ∈ leases.device_owned ∧ (leases.leased req_id → req_id ∈ req_ids)
  next : leases'.next_generation = leases.next_generation

theorem purge_spec {config : ResidentEpochConfig} {leases : Leases} (hi : LeaseInvariant config leases)
    (req_ids : List ReqId) : ∃ leases', leases.purge req_ids = .ok leases' ∧ Purged leases req_ids leases' := by
  unfold Leases.purge
  dsimp only
  have hstale : ((leases.rows.map Prod.fst).filter fun req_id => req_id ∉ req_ids).find?
      (fun req_id => req_id ∉ leases.generations.map Prod.fst) = none := by
    rw [List.find?_eq_none]
    intro req_id hmem
    rw [hi.keys]
    simpa using (List.mem_filter.1 hmem).1
  rw [hstale]
  have hmem (req_id : ReqId) : req_id ∉ ((leases.rows.map Prod.fst).filter fun req_id => req_id ∉ req_ids) ↔
      (leases.leased req_id → req_id ∈ req_ids) := by
    rw [List.mem_filter, decide_eq_true_eq, not_and, not_not]
    rfl
  refine ⟨_, rfl, rfl, ?_, fun req_id => ?_, rfl⟩
  · refine List.filter_congr fun item hitem => ?_
    have hleased : leases.leased item.1 := by
      unfold Leases.leased
      rw [← hi.keys]
      exact List.mem_map_of_mem hitem
    rw [decide_eq_decide, hmem]
    exact ⟨fun h => h hleased, fun h _ => h⟩
  · rw [Finset.mem_filter, hmem]

theorem Purged.leased {leases base : Leases} {req_ids : List ReqId} (hp : Purged leases req_ids base) (req_id : ReqId) :
    base.leased req_id ↔ leases.leased req_id ∧ req_id ∈ req_ids := by
  unfold Leases.leased
  rw [hp.rows, keys_filter req_ids, List.mem_filter, decide_eq_true_eq]

theorem Purged.invariant {config : ResidentEpochConfig} {leases leases' : Leases} {req_ids : List ReqId}
    (hi : LeaseInvariant config leases) (hp : Purged leases req_ids leases') : LeaseInvariant config leases' where
  keys := by
    rw [hp.rows, hp.generations, keys_filter req_ids, keys_filter req_ids, hi.keys]
  ids := by
    rw [hp.rows]
    exact hi.ids.sublist (List.filter_sublist.map _)
  rows := by
    rw [hp.rows]
    exact hi.rows.sublist (List.filter_sublist.map _)
  range := fun item hitem => hi.range item (List.mem_filter.1 (hp.rows ▸ hitem)).1
  positive := fun item hitem => hi.positive item (List.mem_filter.1 (hp.generations ▸ hitem)).1
  below := fun item hitem => hp.next ▸ hi.below item (List.mem_filter.1 (hp.generations ▸ hitem)).1
  increasing := by
    rw [hp.generations]
    exact hi.increasing.sublist (List.filter_sublist.map _)
  next := hp.next ▸ hi.next

/-- a row is free while there are fewer leases than rows -/
theorem freeRows_ne_nil {config : ResidentEpochConfig} {leases : Leases}
    (h : leases.rows.length < config.max_batch_size) : leases.freeRows config ≠ [] := by
  intro hnil
  have hall : ∀ row ∈ List.range config.max_batch_size, row ∈ leases.rows.map Prod.snd := by
    intro row hrow
    by_contra hfree
    have hmem : row ∈ leases.freeRows config := List.mem_filter.2 ⟨hrow, by simpa using hfree⟩
    rw [hnil] at hmem
    cases hmem
  have hle := (List.nodup_range.subperm hall).length_le
  rw [List.length_range, List.length_map] at hle
  exact absurd h (not_lt.2 hle)

theorem grant_invariant {config : ResidentEpochConfig} {leases : Leases} (hi : LeaseInvariant config leases)
    {req_id : ReqId} {row : ℕ} (hnew : ¬leases.leased req_id) (hrow : row ∈ leases.freeRows config) :
    LeaseInvariant config (leases.grant req_id row) := by
  obtain ⟨hrange, hunused⟩ := List.mem_filter.1 hrow
  have hunused : row ∉ leases.rows.map Prod.snd := by simpa using hunused
  have hfresh (item : ReqId × Int) (hitem : item ∈ leases.generations ++ [(req_id, leases.next_generation)]) :
      0 < item.2 ∧ item.2 < leases.next_generation + 1 := by
    rcases List.mem_append.1 hitem with hitem | hitem
    · exact ⟨hi.positive item hitem, Int.lt_add_one_of_le (hi.below item hitem).le⟩
    · obtain rfl := List.mem_singleton.1 hitem
      exact ⟨hi.next, Int.lt_succ _⟩
  refine ⟨?_, ?_, ?_, fun item hitem => ?_, fun item hitem => (hfresh item hitem).1,
    fun item hitem => (hfresh item hitem).2, ?_, Int.lt_add_one_of_le hi.next.le⟩
  · simp only [Leases.grant, List.map_append, hi.keys]
    rfl
  · simp only [Leases.grant, List.map_append]
    refine List.nodup_append.2 ⟨hi.ids, List.nodup_singleton _, fun a ha b hb hab => ?_⟩
    obtain rfl := List.mem_singleton.1 hb
    exact hnew (hab ▸ ha)
  · simp only [Leases.grant, List.map_append]
    refine List.nodup_append.2 ⟨hi.rows, List.nodup_singleton _, fun a ha b hb hab => ?_⟩
    obtain rfl := List.mem_singleton.1 hb
    exact hunused (hab ▸ ha)
  · rcases List.mem_append.1 hitem with hitem | hitem
    · exact hi.range item hitem
    · obtain rfl := List.mem_singleton.1 hitem
      exact List.mem_range.1 hrange
  · simp only [Leases.grant, List.map_append]
    refine List.pairwise_append.2 ⟨hi.increasing, List.pairwise_singleton _ _, fun a ha b hb => ?_⟩
    obtain rfl := List.mem_singleton.1 hb
    obtain ⟨item, hitem, rfl⟩ := List.mem_map.1 ha
    exact hi.below item hitem

/-- the rows that are free after the first free one has been granted -/
theorem grant_freeRows {config : ResidentEpochConfig} {leases : Leases} {req_id : ReqId} {row : ℕ} {free_rows : List ℕ}
    (h : leases.freeRows config = row :: free_rows) : (leases.grant req_id row).freeRows config = free_rows := by
  have hnodup : (row :: free_rows).Nodup := h ▸ List.nodup_range.filter _
  calc (leases.grant req_id row).freeRows config
      = (leases.freeRows config).filter fun r => r ≠ row := by
        unfold Leases.freeRows Leases.grant
        rw [List.filter_filter]
        refine List.filter_congr fun r _ => ?_
        rw [List.map_append]
        by_cases hr : r = row
        · simp [hr]
        · simp [hr]
    _ = free_rows := by
        rw [h, List.filter_cons_of_neg (by simp)]
        refine List.filter_eq_self.2 fun r hr => ?_
        have hne : r ≠ row := fun heq => (List.nodup_cons.1 hnodup).1 (heq ▸ hr)
        simpa using hne

/-- where the second loop stands after the requests in `done` -/
structure Leasing (config : ResidentEpochConfig) (base : Leases) (done : List ReqId) (s : Leases × List ℕ) : Prop where
  invariant : LeaseInvariant config s.1
  free : s.2 = s.1.freeRows config
  leased : ∀ req_id, s.1.leased req_id ↔ base.leased req_id ∨ req_id ∈ done
  rows : base.rows <+: s.1.rows
  generations : base.generations <+: s.1.generations
  issued : ∀ item ∈ s.1.generations, item ∈ base.generations ∨ base.next_generation ≤ item.2
  owned : s.1.device_owned = base.device_owned
  next : base.next_generation ≤ s.1.next_generation ∧ s.1.next_generation ≤ base.next_generation + done.length

theorem Leasing.start {config : ResidentEpochConfig} {base : Leases} (hi : LeaseInvariant config base) :
    Leasing config base [] (base, base.freeRows config) where
  invariant := hi
  free := rfl
  leased := fun req_id => by simp
  rows := List.prefix_rfl
  generations := List.prefix_rfl
  issued := fun _ h => Or.inl h
  owned := rfl
  next := ⟨le_rfl, by simp⟩

section Lease

variable {config : ResidentEpochConfig} {base : Leases} {done : List ReqId} {s : Leases × List ℕ} {req_id : ReqId}

/-- a request that has its lease keeps it -/
theorem Leasing.keep (hl : Leasing config base done s) (hhas : s.1.leased req_id) :
    Leasing config base (done ++ [req_id]) s where
  invariant := hl.invariant
  free := hl.free
  leased := fun id => by
    have hold := (hl.leased req_id).1 hhas
    rw [hl.leased, List.mem_append, List.mem_singleton]
    constructor
    · rintro (hid | hid)
      · exact Or.inl hid
      · exact Or.inr (Or.inl hid)
    · rintro (hid | hid | rfl)
      · exact Or.inl hid
      · exact Or.inr hid
      · exact hold
  rows := hl.rows
  generations := hl.generations
  issued := hl.issued
  owned := hl.owned
  next := by
    refine ⟨hl.next.1, hl.next.2.trans ?_⟩
    rw [List.length_append]
    push_cast
    omega

theorem Leasing.grant {leases : Leases} {row : ℕ} {free_rows : List ℕ}
    (hl : Leasing config base done (leases, row :: free_rows)) (hnew : ¬leases.leased req_id) :
    Leasing config base (done ++ [req_id]) (leases.grant req_id row, free_rows) where
  invariant := grant_invariant hl.invariant hnew (hl.free ▸ List.mem_cons_self)
  free := (grant_freeRows hl.free.symm).symm
  leased := fun id => by
    have hkeys : (leases.grant req_id row).leased id ↔ leases.leased id ∨ id = req_id := by
      simp [Leases.leased, Leases.grant]
    rw [hkeys, hl.leased, List.mem_append, List.mem_singleton, or_assoc]
  rows := hl.rows.trans (List.prefix_append _ _)
  generations := hl.generations.trans (List.prefix_append _ _)
  issued := fun item hitem => by
    rcases List.mem_append.1 hitem with hitem | hitem
    · exact hl.issued item hitem
    · obtain rfl := List.mem_singleton.1 hitem
      exact Or.inr hl.next.1
  owned := hl.owned
  next := by
    have h1 : base.next_generation ≤ leases.next_generation := hl.next.1
    have h2 : leases.next_generation ≤ base.next_generation + done.length := hl.next.2
    simp only [Leases.grant, List.length_append, List.length_singleton]
    push_cast
    omega

/-- one pass of the second loop -/
theorem Leasing.step {s' : Leases × List ℕ} (hl : Leasing config base done s)
    (h : Leases.leaseRow s req_id = .ok s') : Leasing config base (done ++ [req_id]) s' := by
  obtain ⟨leases, free_rows⟩ := s
  unfold Leases.leaseRow at h
  dsimp only at h
  by_cases hhas : leases.leased req_id
  · rw [if_pos hhas] at h
    cases h
    exact hl.keep hhas
  · rw [if_neg hhas] at h
    cases free_rows with
    | nil => cases h
    | cons row free_rows =>
      dsimp only at h
      split_ifs at h
      cases h
      exact hl.grant hhas

/-- the loop raises only for want of generations -/
theorem Leasing.raises {req_ids : List ReqId} (hbase : ∀ id, base.leased id → id ∈ req_ids)
    (hcount : req_ids.length ≤ config.max_batch_size) (hdone : ∀ id ∈ done, id ∈ req_ids) (hreq : req_id ∈ req_ids)
    (hl : Leasing config base done s) {e : SchedulerError} (h : Leases.leaseRow s req_id = .error e) :
    e = .generationSpace ∧ 2 ^ 31 ≤ s.1.next_generation := by
  obtain ⟨leases, free_rows⟩ := s
  unfold Leases.leaseRow at h
  dsimp only at h
  by_cases hhas : leases.leased req_id
  · rw [if_pos hhas] at h
    cases h
  · rw [if_neg hhas] at h
    cases free_rows with
    | nil =>
      -- all leases are of requests asked for, and this one has none
      have hsub : req_id :: leases.rows.map Prod.fst ⊆ req_ids := by
        intro id hid
        rcases List.mem_cons.1 hid with rfl | hid
        · exact hreq
        · rcases (hl.leased id).1 hid with hid | hid
          · exact hbase id hid
          · exact hdone id hid
      have hle := ((List.nodup_cons.2 ⟨hhas, hl.invariant.ids⟩).subperm hsub).length_le
      rw [List.length_cons, List.length_map] at hle
      have hroom : leases.rows.length < config.max_batch_size := lt_of_lt_of_le hle hcount
      exact absurd hl.free.symm (freeRows_ne_nil hroom)
    | cons row free_rows =>
      dsimp only at h
      split_ifs at h with hspace
      cases h
      exact ⟨rfl, hspace⟩

end Lease

/-! ## What one assignment does -/

/-- the leases after an assignment, next to those before it -/
structure Assigned (config : ResidentEpochConfig) (leases : Leases) (req_ids : List ReqId) (leases' : Leases) : Prop where
  invariant : LeaseInvariant config leases'
  leased : ∀ req_id, leases'.leased req_id ↔ req_id ∈ req_ids
  row : ∀ req_id, leases.leased req_id → req_id ∈ req_ids → leases'.rows.lookup req_id = leases.rows.lookup req_id
  generation : ∀ req_id, leases.leased req_id → req_id ∈ req_ids →
    leases'.generations.lookup req_id = leases.generations.lookup req_id
  issued : ∀ item ∈ leases'.generations, ¬leases.leased item.1 → leases.next_generation ≤ item.2
  owned : ∀ req_id, req_id ∈ leases'.device_owned ↔
    req_id ∈ leases.device_owned ∧ (leases.leased req_id → req_id ∈ req_ids)
  next : leases.next_generation ≤ leases'.next_generation

theorem leased_generations {config : ResidentEpochConfig} {leases : Leases} (hi : LeaseInvariant config leases)
    (req_id : ReqId) : leases.leased req_id ↔ req_id ∈ leases.generations.map Prod.fst := by
  rw [hi.keys]
  exact Iff.rfl

/-- the second loop, from the purged leases -/
theorem leasing_loop {config : ResidentEpochConfig} {base : Leases} (hi : LeaseInvariant config base)
    (req_ids : List ReqId) {s : Leases × List ℕ}
    (h : req_ids.foldlM Leases.leaseRow (base, base.freeRows config) = .ok s) : Leasing config base req_ids s :=
  foldlM_inv _ (Leasing config base) req_ids (fun _ _ _ _ _ _ hl hs => hl.step hs) (.start hi) h

theorem assign_spec {config : ResidentEpochConfig} {leases leases' : Leases} (hi : LeaseInvariant config leases)
    {req_ids : List ReqId} (h : assignResidentRows config leases req_ids = .ok leases') :
    Assigned config leases req_ids leases' := by
  obtain ⟨base, hbase, hp⟩ := purge_spec hi req_ids
  unfold assignResidentRows at h
  rw [hbase] at h
  have h : (req_ids.foldlM Leases.leaseRow (base, base.freeRows config) >>= fun s => .ok s.1) = Except.ok leases' := h
  obtain ⟨⟨last, free_rows⟩, hloop, h⟩ := except_bind_ok.1 h
  cases h
  have hib := hp.invariant hi
  have hl := leasing_loop hib req_ids hloop
  refine ⟨hl.invariant, fun id => ?_, fun id hid hreq => ?_, fun id hid hreq => ?_, fun item hitem hnew => ?_,
    fun id => ?_, ?_⟩
  · rw [hl.leased, hp.leased]
    exact ⟨fun h => h.elim And.right fun h => h, Or.inr⟩
  · rw [lookup_extended hl.rows ((hp.leased id).2 ⟨hid, hreq⟩), hp.rows]
    exact lookup_filter hreq _
  · rw [lookup_extended hl.generations ((leased_generations hib id).1 ((hp.leased id).2 ⟨hid, hreq⟩)), hp.generations]
    exact lookup_filter hreq _
  · rcases hl.issued item hitem with hold | hfresh
    · exact absurd ((hp.leased item.1).1 ((leased_generations hib _).2 (List.mem_map_of_mem hold))).1 hnew
    · exact hp.next ▸ hfresh
  · show id ∈ last.device_owned ↔ _
    rw [hl.owned]
    exact hp.owned id
  · exact hp.next ▸ hl.next.1

/-- with as many requests as rows, an assignment raises only for want of generations -/
theorem assign_raises {config : ResidentEpochConfig} {leases : Leases} (hi : LeaseInvariant config leases)
    {req_ids : List ReqId} (hcount : req_ids.length ≤ config.max_batch_size) {e : SchedulerError}
    (h : assignResidentRows config leases req_ids = .error e) :
    e = .generationSpace ∧ 2 ^ 31 < leases.next_generation + req_ids.length := by
  obtain ⟨base, hbase, hp⟩ := purge_spec hi req_ids
  unfold assignResidentRows at h
  rw [hbase] at h
  have h : (req_ids.foldlM Leases.leaseRow (base, base.freeRows config) >>= fun s => .ok s.1) = Except.error e := h
  have hib := hp.invariant hi
  rcases except_bind_error.1 h with hloop | ⟨last, -, hlast⟩
  · obtain ⟨pre, req_id, post, s, rfl, hpre, herr⟩ := foldlM_exit _ hloop
    have hl := leasing_loop hib pre hpre
    have hdone (id : ReqId) (hid : id ∈ pre) : id ∈ pre ++ req_id :: post := List.mem_append_left _ hid
    obtain ⟨he, hspace⟩ := hl.raises (fun id hid => ((hp.leased id).1 hid).2) hcount hdone
      (List.mem_append_right _ List.mem_cons_self) herr
    refine ⟨he, ?_⟩
    have hnext := hl.next.2
    rw [hp.next] at hnext
    rw [List.length_append, List.length_cons]
    push_cast
    omega
  · cases hlast

/-! ## When an assignment succeeds -/

/-- the requests that have no lease yet -/
def Leases.newIds (leases : Leases) (req_ids : List ReqId) : List ReqId := req_ids.filter fun req_id => ¬leases.leased req_id

theorem Purged.newIds {leases base : Leases} {req_ids : List ReqId} (hp : Purged leases req_ids base) :
    base.newIds req_ids = leases.newIds req_ids := by
  refine List.filter_congr fun id hid => ?_
  rw [decide_eq_decide, hp.leased, and_iff_left hid]

/-- where the second loop stands, its generations counted -/
structure Counting (config : ResidentEpochConfig) (base : Leases) (done : List ReqId) (s : Leases × List ℕ) : Prop where
  leasing : Leasing config base done s
  next : s.1.next_generation = base.next_generation + (base.newIds done).length
  space : base.newIds done ≠ [] → s.1.next_generation ≤ 2 ^ 31

theorem newIds_append (base : Leases) (done : List ReqId) (req_id : ReqId) :
    base.newIds (done ++ [req_id]) = base.newIds done ++ if base.leased req_id then [] else [req_id] := by
  unfold Leases.newIds
  rw [List.filter_append, List.filter_singleton]
  by_cases h : base.leased req_id
  · simp [h]
  · simp [h]

/-- one pass over a request that has not been asked for before -/
theorem Counting.step {config : ResidentEpochConfig} {base : Leases} {done : List ReqId} {s s' : Leases × List ℕ}
    {req_id : ReqId} (hc : Counting config base done s) (hnot : req_id ∉ done)
    (h : Leases.leaseRow s req_id = .ok s') : Counting config base (done ++ [req_id]) s' := by
  have hleased : s.1.leased req_id ↔ base.leased req_id := by
    rw [hc.leasing.leased, or_iff_left hnot]
  have hnext := hc.next
  have hl := hc.leasing.step h
  obtain ⟨leases, free_rows⟩ := s
  unfold Leases.leaseRow at h
  dsimp only at h hleased hnext
  by_cases hhas : leases.leased req_id
  · rw [if_pos hhas] at h
    cases h
    have hsame : base.newIds (done ++ [req_id]) = base.newIds done := by
      rw [newIds_append, if_pos (hleased.1 hhas), List.append_nil]
    exact ⟨hl, by rw [hsame]; exact hnext, by rw [hsame]; exact hc.space⟩
  · rw [if_neg hhas] at h
    have hmore : (base.newIds (done ++ [req_id])).length = (base.newIds done).length + 1 := by
      rw [newIds_append, if_neg (mt hleased.2 hhas), List.length_append, List.length_singleton]
    cases free_rows with
    | nil => cases h
    | cons row free_rows =>
      dsimp only at h
      split_ifs at h with hspace
      cases h
      have hgranted : (leases.grant req_id row).next_generation = leases.next_generation + 1 := rfl
      refine ⟨hl, ?_, fun _ => ?_⟩
      · rw [hgranted, hmore, hnext]
        push_cast
        ring
      · rw [hgranted]
        omega

/-- **When an assignment succeeds.** -/
theorem assign_iff {config : ResidentEpochConfig} {leases : Leases} (hi : LeaseInvariant config leases)
    {req_ids : List ReqId} (hnodup : req_ids.Nodup) (hcount : req_ids.length ≤ config.max_batch_size) :
    (∃ leases', assignResidentRows config leases req_ids = .ok leases') ↔
      (leases.newIds req_ids ≠ [] → leases.next_generation + (leases.newIds req_ids).length ≤ 2 ^ 31) := by
  obtain ⟨base, hbase, hp⟩ := purge_spec hi req_ids
  have hib := hp.invariant hi
  have hrest (pre : List ReqId) (id : ReqId) (post : List ReqId) (h : req_ids = pre ++ id :: post) : id ∉ pre := by
    intro hmem
    rw [h] at hnodup
    exact (List.nodup_append.1 hnodup).2.2 id hmem id List.mem_cons_self rfl
  have hstart : Counting config base [] (base, base.freeRows config) :=
    ⟨.start hib, (by rw [Leases.newIds, List.filter_nil, List.length_nil]; simp), fun h => absurd rfl h⟩
  have hassign : assignResidentRows config leases req_ids =
      (req_ids.foldlM Leases.leaseRow (base, base.freeRows config) >>= fun s => .ok s.1) := by
    unfold assignResidentRows
    rw [hbase]
    rfl
  rw [hassign, ← hp.newIds, ← hp.next]
  constructor
  · rintro ⟨leases', h⟩ hne
    obtain ⟨s, hloop, -⟩ := except_bind_ok.1 h
    have hc := foldlM_inv _ (Counting config base) req_ids
      (fun pre id post _ _ hl hc hs => hc.step (hrest pre id post hl) hs) hstart hloop
    exact hc.next ▸ hc.space hne
  · intro hspace
    have hpass (pre : List ReqId) (id : ReqId) (post : List ReqId) (s : Leases × List ℕ) (hl : req_ids = pre ++ id :: post)
        (hc : Counting config base pre s) :
        ∃ s', Leases.leaseRow s id = .ok s' ∧ Counting config base (pre ++ [id]) s' := by
      cases hstep : Leases.leaseRow s id with
      | ok s' => exact ⟨s', rfl, hc.step (hrest pre id post hl) hstep⟩
      | error e =>
        exfalso
        have hmem : id ∈ req_ids := hl ▸ List.mem_append_right _ List.mem_cons_self
        have hdone (other : ReqId) (hother : other ∈ pre) : other ∈ req_ids := hl ▸ List.mem_append_left _ hother
        obtain ⟨-, hfull⟩ := hc.leasing.raises (fun other hother => ((hp.leased other).1 hother).2) hcount hdone hmem hstep
        have hunleased : ¬base.leased id := fun hhas => by
          have hhas : s.1.leased id := (hc.leasing.leased id).2 (Or.inl hhas)
          unfold Leases.leaseRow at hstep
          dsimp only at hstep
          rw [if_pos hhas] at hstep
          cases hstep
        have hlength : (base.newIds pre).length + 1 ≤ (base.newIds req_ids).length := by
          have hprefix : (base.newIds (pre ++ [id])).length ≤ (base.newIds req_ids).length := by
            rw [hl, show pre ++ id :: post = (pre ++ [id]) ++ post from List.append_cons pre id post]
            exact ((List.sublist_append_left (pre ++ [id]) post).filter _).length_le
          rwa [newIds_append, if_neg hunleased, List.length_append, List.length_singleton] at hprefix
        have hnext := hc.next
        have hbound := hspace (List.ne_nil_of_length_pos (by omega))
        omega
    obtain ⟨s, hloop, -⟩ := foldlM_total Leases.leaseRow (Counting config base) req_ids hpass hstart
    exact ⟨s.1, except_bind_ok.2 ⟨s, hloop, rfl⟩⟩

end Cruise.Scheduler
