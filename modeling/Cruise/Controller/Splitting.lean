/-
Epoch splitting: an epoch of `a + b` steps against an epoch of `a` steps followed by one of `b` steps.

The first epoch stops inside the long one: it makes the same calls, so its last state is a state `s₁` of the long loop.
From there on the two loops differ in their call index, in the rows that already stopped and in every block no row owns.
- `Tracks`: what stays the same, row by row.
- `tracks_step`, `tracks_steps`: a call of the long loop is matched by a call of the second epoch.
- `epoch_splits`: tokens, blocks and resident metadata of the two runs agree.
-/
import Cruise.Controller.Decoder

namespace Cruise.Controller

open Cruise.Lib

/-! ## The tokens of a row so far -/

/-- what the loop knows of every row -/
def Known (inp : Inputs) (s : Decode) : Prop :=
  ∀ r, ∃ m, RowInv inp r s.loc.model_calls (s.column r) (s.row r) m

def Decode.emitted (s : Decode) (r : Row) : List Int := (List.range (s.loc.executed r).toNat).map (s.column r)

section Call

variable {env : Env} {inp : Inputs} {s s' : Decode} {out : DecoderOutputs}

theorem known_step (hc : CallStep env inp s out s') (h : Known inp s) : Known inp s' := by
  intro r
  obtain ⟨m, hm⟩ := h r
  exact ⟨_, callStep_rowInv hc hm⟩

/-- an idle row is not touched -/
theorem callStep_idle (hc : CallStep env inp s out s') {r : Row} (h : s.active r = 0) :
    s'.row r = s.row r ∧ out.position r = s.position_values r := by
  have hrow := hc.row r
  have h : (s.row r).active = 0 := h
  have hposition : s.position_values r = (s.row r).position := rfl
  rw [hposition]
  generalize s.row r = v, s'.row r = v', s.loc.history_tokens _ = c, s'.loc.history_tokens _ = c' at hrow h ⊢
  cases hrow with
  | idle _ hp => exact ⟨rfl, hp⟩
  | generate t hactive _ _ _ => exact absurd h hactive

/-- an active row generates its token -/
theorem callStep_generate (hc : CallStep env inp s out s') {r : Row} (h : s.active r ≠ 0) :
    ∃ t, argmaxFinite out.logits r = some t ∧ out.position r = s.position_values r + 1 ∧
      (out.position r ≠ kLogicalCapacity → 0 ≤ computeSlot inp.block_table r (out.position r)) ∧
      s'.row r = (s.row r).advance inp r t (out.position r) ∧
      s'.loc.history_tokens (s.loc.model_calls * 4 + r) = t := by
  have hrow := hc.row r
  have h : (s.row r).active ≠ 0 := h
  have hposition : s.position_values r = (s.row r).position := rfl
  rw [hposition]
  generalize s.row r = v, s'.row r = v', s.loc.history_tokens _ = c, s'.loc.history_tokens _ = c' at hrow h ⊢
  cases hrow with
  | idle hactive _ => exact absurd hactive h
  | generate t _ htoken hp hslot => exact ⟨_, htoken, hp, hslot, rfl, rfl⟩

/-- the entries a call leaves alone -/
theorem callStep_column (hc : CallStep env inp s out s') (r : Row) {k : ℕ} (hk : k < s.loc.model_calls) :
    s'.column r k = s.column r k := by
  have hr : r.val < 4 := r.isLt
  exact hc.history _ (Or.inl (by omega))

theorem callStep_emitted_idle (hc : CallStep env inp s out s') (hknown : Known inp s) {r : Row} (h : s.active r = 0) :
    s'.emitted r = s.emitted r := by
  obtain ⟨m, hm⟩ := hknown r
  have hexec : s'.loc.executed r = s.loc.executed r := congrArg RowView.executed (callStep_idle hc h).1
  have hm_exec : s.loc.executed r = m := hm.executed
  rw [Decode.emitted, Decode.emitted, hexec, hm_exec, Int.toNat_natCast]
  refine List.map_congr_left fun k hk => callStep_column hc r ?_
  have := List.mem_range.1 hk
  have := hm.le
  omega

theorem callStep_emitted (hc : CallStep env inp s out s') (hknown : Known inp s) {r : Row} (h : s.active r ≠ 0) {t : Int}
    (ht : argmaxFinite out.logits r = some t) : s'.emitted r = s.emitted r ++ [t] := by
  obtain ⟨m, hm⟩ := hknown r
  obtain ⟨t', ht', -, -, hrow, hhist⟩ := callStep_generate hc h
  obtain rfl : t' = t := Option.some.inj (ht'.symm.trans ht)
  have hm_exec : s.loc.executed r = m := hm.executed
  have hexec : s'.loc.executed r = (m + 1 : ℕ) := by
    have : s'.loc.executed r = s.loc.executed r + 1 := congrArg RowView.executed hrow
    rw [this, hm_exec]
    push_cast
    rfl
  -- an active row has generated in every call, so its next entry is the call's
  have hcalls : m = s.loc.model_calls := by
    obtain ⟨h1, h2, -, -⟩ := hm.going (Or.inl h)
    rwa [if_neg fun h0 => h (h1.trans h0)] at h2
  rw [Decode.emitted, Decode.emitted, hexec, hm_exec, Int.toNat_natCast, Int.toNat_natCast, List.range_succ,
    List.map_append, List.map_singleton]
  refine congrArg₂ (· ++ ·) (List.map_congr_left fun k hk => callStep_column hc r ?_) ?_
  · have := List.mem_range.1 hk
    omega
  · rw [hcalls]
    exact congrArg (fun t => [t]) hhist

end Call

/-! ## Two loops -/

/-- what two loops must agree on about a row that is still running in both -/
structure SameView (v v' : RowView) : Prop where
  token : v'.token = v.token
  length : v'.length = v.length
  slot : v'.slot = v.slot
  active : v'.active = v.active
  position : v'.position = v.position

/-- inputs whose calls differ in nothing but what the rows bring along -/
structure SameCalls (inp inp' : Inputs) : Prop where
  eos : inp'.eos = inp.eos
  block_table : inp'.block_table = inp.block_table
  tiling : inp'.tiling = inp.tiling

theorem SameView.advance {inp inp' : Inputs} (hc : SameCalls inp inp') {v v' : RowView} (h : SameView v v') (r : Row)
    (t position : Int) : SameView (v.advance inp r t position) (v'.advance inp' r t position) where
  token := rfl
  length := rfl
  slot := by
    show nextSlot inp' r position = nextSlot inp r position
    unfold nextSlot
    rw [hc.block_table]
  active := by
    show (if t = inp'.eos r then 0 else v'.active) = if t = inp.eos r then 0 else v.active
    rw [hc.eos, h.active]
  position := rfl

/-- the loop of the long epoch, `s`, and of the second short one, `t`, since the long one was at `s₁` -/
structure Tracks (inp inp' : Inputs) (s₁ s t : Decode) : Prop where
  long : Known inp s
  short : Known inp' t
  position : s.position = s.position_values ∧ t.position = t.position_values
  active : t.active = s.active
  going : ∀ r, s₁.active r ≠ 0 → SameView (s.row r) (t.row r)
  stopped : ∀ r, s₁.active r = 0 → s.row r = s₁.row r
  emitted : ∀ r, s.emitted r = s₁.emitted r ++ t.emitted r
  blocks : ∀ r a, Owns inp.block_table r a → t.key a = s.key a ∧ t.value a = s.value a

section Tracking

variable {inp inp' : Inputs} {s₁ s s' t t' : Decode}

/-- a row that runs in the long loop was running at `s₁` -/
theorem Tracks.running (h : Tracks inp inp' s₁ s t) {r : Row} (hr : s.active r ≠ 0) : s₁.active r ≠ 0 := by
  intro h0
  have : s.active r = s₁.active r := congrArg RowView.active (h.stopped r h0)
  exact hr (this.trans h0)

/-- the decoder sees the same active rows in both loops -/
theorem Tracks.agree (hc : SameCalls inp inp') (h : Tracks inp inp' s₁ s t) :
    Agree (s.modelInputs inp) (t.modelInputs inp') := by
  have hview (r : Row) (hr : s.active r ≠ 0) := h.going r (h.running hr)
  refine ⟨h.active, hc.block_table, hc.tiling, ?_, ?_, ?_, ?_, ?_⟩
  · intro r hr
    exact (hview r hr).token
  · intro r hr
    show t.position r = s.position r
    rw [h.position.1, h.position.2]
    exact (hview r hr).position
  · intro r hr
    exact (hview r hr).length
  · intro r hr
    exact (hview r hr).slot
  · intro r _ a ha
    exact h.blocks r a ha

variable {decoder : ModelInputs → ModelReply} {env env' : Env}

/-- what a successful call of the long loop lets the short one do -/
theorem tracks_answer (hlocal : RowLocal decoder) (hr : Runs env decoder) (hr' : Runs env' decoder)
    (hc : SameCalls inp inp') (h : Tracks inp inp' s₁ s t) {out : DecoderOutputs} (hcall : CallStep env inp s out s') :
    Answers decoder (s.modelInputs inp) out ∧
      ∃ out' t', decodeStep env' inp' t = .ok t' ∧ Answers decoder (t.modelInputs inp') out' ∧ CallStep env' inp' t out' t' := by
  have hagree := h.agree hc
  have hans : Answers decoder (s.modelInputs inp) out := by
    have h1 := hcall.reply
    have h2 := hcall.outputs
    rw [hr.decoder] at h1 h2
    exact ⟨h1, h2⟩
  obtain ⟨out', hans'⟩ := hlocal.replies _ _ out hagree hans
  refine ⟨hans, ?_⟩
  have hposition (r : Row) : out'.position r = t.position_values r + if t.active r = 0 then 0 else 1 := by
    have hp : (t.modelInputs inp').position r = t.position_values r := congrFun h.position.2 r
    rw [← hp]
    exact hlocal.position _ _ hans' r
  have hrow (r : Row) : ∃ v' c c', RowStep inp' out' r (t.row r) c v' c' := by
    have hp := hposition r
    by_cases h0 : s.active r = 0
    · have h0' : t.active r = 0 := by rw [h.active, h0]
      rw [if_pos h0', Int.add_zero] at hp
      exact ⟨t.row r, 0, 0, .idle h0' hp⟩
    · have h0' : t.active r ≠ 0 := by rwa [h.active]
      rw [if_neg h0'] at hp
      obtain ⟨token, htoken, hlong, hslot, -, -⟩ := callStep_generate hcall h0
      have hview := h.going r (h.running h0)
      have hsame : out'.position r = out.position r := by
        have : t.position_values r = s.position_values r := hview.position
        omega
      have htoken' : argmaxFinite out'.logits r = some token := by
        rw [← htoken]
        exact argmaxFinite_congr r fun i hi => hlocal.logits _ _ _ _ hagree hans hans' r h0 i hi
      refine ⟨_, 0, token, .generate token h0' htoken' hp ?_⟩
      rw [hsame, hc.block_table]
      exact hslot
  have hreply : (env'.run_flow_model t.loc.model_calls (t.modelInputs inp')).ret = FLOW_FUNC_SUCCESS := by
    rw [hr'.decoder]
    exact hans'.1
  have houtputs : decoderOutputs (env'.run_flow_model t.loc.model_calls (t.modelInputs inp')).outputs = some out' := by
    rw [hr'.decoder]
    exact hans'.2
  obtain ⟨t', ht'⟩ := decodeStep_exists hreply houtputs (hr'.alloc _) hrow
  obtain ⟨out'', hcall'⟩ := decodeStep_ok ht'
  obtain rfl : out' = out'' := Option.some.inj (houtputs.symm.trans hcall'.outputs)
  exact ⟨out', t', ht', hans', hcall'⟩

/-- **One call of the long loop** is matched by one of the short loop. -/
theorem tracks_step (hlocal : RowLocal decoder) (hr : Runs env decoder) (hr' : Runs env' decoder)
    (hc : SameCalls inp inp') (h : Tracks inp inp' s₁ s t) (hstep : decodeStep env inp s = .ok s') :
    ∃ t', decodeStep env' inp' t = .ok t' ∧ Tracks inp inp' s₁ s' t' := by
  obtain ⟨out, hcall⟩ := decodeStep_ok hstep
  obtain ⟨hans, out', t', ht', hans', hcall'⟩ := tracks_answer hlocal hr hr' hc h hcall
  have hagree := h.agree hc
  -- an active row generates the same token at the same position in both
  have hgenerate (r : Row) (hactive : s.active r ≠ 0) : ∃ token, argmaxFinite out.logits r = some token ∧
      argmaxFinite out'.logits r = some token ∧ s'.row r = (s.row r).advance inp r token (out.position r) ∧
      t'.row r = (t.row r).advance inp' r token (out.position r) := by
    have hactive' : t.active r ≠ 0 := by rwa [h.active]
    obtain ⟨token, htoken, hp, -, hrow, -⟩ := callStep_generate hcall hactive
    obtain ⟨token', htoken', hp', -, hrow', -⟩ := callStep_generate hcall' hactive'
    have hlogits : argmaxFinite out'.logits r = argmaxFinite out.logits r :=
      argmaxFinite_congr r fun i hi => hlocal.logits _ _ _ _ hagree hans hans' r hactive i hi
    obtain rfl : token = token' := Option.some.inj (htoken.symm.trans (hlogits.symm.trans htoken'))
    have hposition : t.position_values r = s.position_values r := (h.going r (h.running hactive)).position
    have hsame : out'.position r = out.position r := by omega
    rw [hsame] at hrow'
    exact ⟨token, htoken, htoken', hrow, hrow'⟩
  have hviews (r : Row) (hr₁ : s₁.active r ≠ 0) : SameView (s'.row r) (t'.row r) := by
    by_cases hactive : s.active r = 0
    · rw [(callStep_idle hcall hactive).1, (callStep_idle hcall' (by rw [h.active, hactive])).1]
      exact h.going r hr₁
    · obtain ⟨token, -, -, hrow, hrow'⟩ := hgenerate r hactive
      rw [hrow, hrow']
      exact (h.going r hr₁).advance hc r token _
  have hstopped (r : Row) (hr₁ : s₁.active r = 0) : s.active r = 0 := by
    have : s.active r = s₁.active r := congrArg RowView.active (h.stopped r hr₁)
    rw [this, hr₁]
  refine ⟨t', ht', known_step hcall h.long, known_step hcall' h.short,
    ⟨callStep_position hcall, callStep_position hcall'⟩, ?_, hviews, ?_, ?_, ?_⟩
  · funext r
    by_cases hr₁ : s₁.active r = 0
    · have h0 := hstopped r hr₁
      have hs' : s'.active r = s.active r := congrArg RowView.active (callStep_idle hcall h0).1
      have ht' : t'.active r = t.active r :=
        congrArg RowView.active (callStep_idle hcall' (by rw [h.active, h0])).1
      rw [hs', ht', h.active]
    · exact (hviews r hr₁).active
  · intro r hr₁
    rw [(callStep_idle hcall (hstopped r hr₁)).1]
    exact h.stopped r hr₁
  · intro r
    by_cases hactive : s.active r = 0
    · rw [callStep_emitted_idle hcall h.long hactive, callStep_emitted_idle hcall' h.short (by rw [h.active, hactive])]
      exact h.emitted r
    · obtain ⟨token, htoken, htoken', -, -⟩ := hgenerate r hactive
      rw [callStep_emitted hcall h.long hactive htoken,
        callStep_emitted hcall' h.short (by rwa [h.active]) htoken', h.emitted r, List.append_assoc]
  · intro r a ha
    rw [hcall.key, hcall.value, hcall'.key, hcall'.value]
    by_cases hactive : s.active r = 0
    · have hidle := hlocal.idle _ _ hans r hactive a ha
      have hidle' := hlocal.idle _ _ hans' r (show t.active r = 0 by rw [h.active, hactive]) a
        (show Owns inp'.block_table r a by rwa [hc.block_table])
      rw [hidle.1, hidle.2, hidle'.1, hidle'.2]
      exact h.blocks r a ha
    · exact hlocal.writes _ _ _ _ hagree hans hans' r hactive a ha

/-- **Any number of calls.** -/
theorem tracks_steps (hlocal : RowLocal decoder) (hr : Runs env decoder) (hr' : Runs env' decoder)
    (hc : SameCalls inp inp') {n : ℕ} (hs : Steps env inp n s s') (h : Tracks inp inp' s₁ s t) :
    ∃ t', Steps env' inp' n t t' ∧ Tracks inp inp' s₁ s' t' := by
  induction hs generalizing t with
  | done s => exact ⟨t, .done t, h⟩
  | call hactive hstep rest ih =>
    obtain ⟨t₁, ht₁, h₁⟩ := tracks_step hlocal hr hr' hc h hstep
    obtain ⟨t', ht', h'⟩ := ih h₁
    exact ⟨t', .call (by rwa [h.active]) ht₁ ht', h'⟩

end Tracking

/-! ## The first epoch -/

/-- the same rows with another budget -/
def Inputs.withSteps (inp : Inputs) (n : ℕ) : Inputs := { inp with max_steps := n }

section First

variable {decoder : ModelInputs → ModelReply} {env env₁ : Env} {inp : Inputs} {d dp d' : Device} {e : Emission}
  {loc : Locals}

theorem decodeStep_withSteps (hr : Runs env decoder) (hr₁ : Runs env₁ decoder) (inp : Inputs) (n : ℕ) (s : Decode) :
    decodeStep env₁ (inp.withSteps n) s = decodeStep env inp s := by
  have hinputs : s.modelInputs (inp.withSteps n) = s.modelInputs inp := rfl
  have hrow : decodeRow (inp.withSteps n) = decodeRow inp := by
    funext out active w r
    unfold decodeRow
    cases argmaxFinite out.logits r <;> rfl
  unfold decodeStep
  rw [hr.decoder, hr₁.decoder, hr.alloc, hr₁.alloc, hinputs, hrow]

theorem steps_withSteps (hr : Runs env decoder) (hr₁ : Runs env₁ decoder) (k : ℕ) {n : ℕ} {s s' : Decode}
    (hs : Steps env inp n s s') : Steps env₁ (inp.withSteps k) n s s' := by
  induction hs with
  | done s => exact .done s
  | call hactive hstep rest ih => exact .call hactive ((decodeStep_withSteps hr hr₁ inp k _).trans hstep) ih

theorem validated_withSteps (h : Validated inp) {k : ℕ} (hk : 1 ≤ k) (hle : (k : Int) ≤ inp.max_steps) :
    Validated (inp.withSteps k) := by
  have hmax := h.max_steps
  have h1 : (1 : Int) ≤ k := by exact_mod_cast hk
  refine ⟨⟨h1, hle.trans hmax.2⟩, h.sampling_mode, h.graph_variant, h.eos, h.block_table, fun r => ?_⟩
  have hrow := h.row r
  refine ⟨hrow.active, hrow.token, hrow.position, fun hon => ?_, hrow.idle, hrow.slot⟩
  have hrunning := hrow.running hon
  refine ⟨hrunning.generation, hrunning.length, ?_⟩
  have hcap := hrunning.capacity
  show inp.position r + (k : Int) ≤ kLogicalCapacity
  omega

theorem prepared_withSteps (h : Prepared inp d dp loc) (hplain : inp.importing = false) {k : ℕ} (hk : 1 ≤ k)
    (hle : (k : Int) ≤ inp.max_steps) : Prepared (inp.withSteps k) d dp loc := by
  have himport : importPhase inp d = (d, .ok 0) := if_pos hplain
  have himport' : importPhase (inp.withSteps k) d = (d, .ok 0) := if_pos hplain
  refine ⟨validated_withSteps h.validated hk hle, ?_, ?_⟩
  · obtain ⟨checksum, hchecksum, hloc⟩ := h.locals
    rw [himport] at hchecksum
    rw [himport']
    exact ⟨checksum, hchecksum, hloc⟩
  · obtain ⟨ng, hng, hdp⟩ := h.continuity
    rw [himport] at hng hdp
    rw [himport']
    exact ⟨ng, hng, hdp⟩

/-- a long epoch cut after `a` steps: the state `s₁` it was in then, its last state `s`, and the epoch of `a` steps -/
structure Cut (env env₁ : Env) (inp : Inputs) (d d' : Device) (e : Emission) (a b : ℕ) (dp : Device) (loc : Locals)
    (n₁ n₂ : ℕ) (s₁ s : Decode) : Prop where
  prepared : Prepared inp d dp loc
  before : Steps env inp n₁ (Decode.start dp inp loc) s₁
  after : Steps env inp n₂ s₁ s
  le : n₁ ≤ a ∧ n₂ ≤ b
  first_end : n₁ = a ∨ countActive s₁.active = 0
  end_ : n₂ = b ∨ countActive s.active = 0
  device : d' = commit dp inp s
  emission : e = emit inp { s.loc with finish_reason := finishMaxSteps inp s.loc.finish_reason } .ok s.active
  first : epoch env₁ (inp.withSteps a) d = (commit dp inp s₁, .ok, emit (inp.withSteps a)
    { s₁.loc with finish_reason := finishMaxSteps inp s₁.loc.finish_reason } .ok s₁.active)

theorem epoch_cut (hr : Runs env decoder) (hr₁ : Runs env₁ decoder) (hplain : inp.importing = false) {a b : ℕ}
    (ha : 1 ≤ a) (hsteps : inp.max_steps = a + b) (h : epoch env inp d = (d', .ok, e)) :
    ∃ dp loc n₁ n₂ s₁ s, Cut env env₁ inp d d' e a b dp loc n₁ n₂ s₁ s := by
  have hok : (epoch env inp d).2.1 = .ok := by rw [h]
  obtain ⟨dp, loc, n, s, hp, hn, hs, hend, heq⟩ := epoch_ok hok
  rw [h] at heq
  obtain ⟨hd', he⟩ := Prod.mk.inj heq
  have he := (Prod.mk.inj he).2
  have htotal : inp.max_steps.toNat = a + b := by omega
  rw [htotal] at hn hend
  have hfirst (n₁ : ℕ) (s₁ : Decode) (hs₁ : Steps env inp n₁ (Decode.start dp inp loc) s₁) (hle : n₁ ≤ a)
      (hend₁ : n₁ = a ∨ countActive s₁.active = 0) := epoch_ok_of (prepared_withSteps hp hplain ha (by omega)) hle
    (steps_withSteps hr hr₁ a hs₁) hend₁
  by_cases hna : n ≤ a
  · -- the long epoch was over before the cut, or at it with no row left
    have hnone : countActive s.active = 0 ∨ b = 0 := by omega
    have hb : n = a + b ∨ countActive s.active = 0 := hend
    have hend₁ : n = a ∨ countActive s.active = 0 := by omega
    have hend₂ : 0 = b ∨ countActive s.active = 0 := by omega
    exact ⟨dp, loc, n, 0, s, s, hp, hs, .done s, ⟨hna, Nat.zero_le b⟩, hend₁, hend₂, hd', he, hfirst n s hs hna hend₁⟩
  · have hsum : n = a + (n - a) := by omega
    rw [hsum] at hs
    obtain ⟨s₁, h₁, h₂⟩ := hs.split
    have hend₂ : n - a = b ∨ countActive s.active = 0 := hend.imp (fun h => by omega) id
    exact ⟨dp, loc, a, n - a, s₁, s, hp, h₁, h₂, ⟨le_refl a, by omega⟩, Or.inl rfl, hend₂, hd', he,
      hfirst a s₁ h₁ (le_refl a) (Or.inl rfl)⟩

end First

/-! ## The second epoch -/

/-- a row that the first epoch leaves running -/
def Going (inp : Inputs) (e₁ : Emission) (r : Row) : Prop :=
  inp.active r ≠ 0 ∧ (e₁.tokens r).getLast? ≠ some (inp.eos r)

/-- a row that goes on where the first epoch's result ends -/
structure ContinuesRow (inp : Inputs) (e₁ : Emission) (inp' : Inputs) (r : Row) : Prop where
  active : inp'.active r = 1
  generation : inp'.row_generation r = inp.row_generation r
  token : (e₁.tokens r).getLast? = some (inp'.token r)
  position : inp'.position r = inp.position r + e₁.executed r
  length : inp'.length r = inp'.position r + 1
  slot : inp'.slot r = computeSlot inp'.block_table r (inp'.position r)

/-- the inputs of an epoch of `b` steps on the rows that go on -/
structure Continuation (inp : Inputs) (e₁ : Emission) (b : ℕ) (inp' : Inputs) : Prop where
  max_steps : inp'.max_steps = b
  plain : inp'.importing = false
  sampling_mode : inp'.sampling_mode = 0
  graph_variant : inp'.graph_variant = 0
  same : SameCalls inp inp'
  going : ∀ r, Going inp e₁ r → ContinuesRow inp e₁ inp' r
  finished : ∀ r, ¬ Going inp e₁ r → inp'.active r = 0 ∧ ValidRow inp' r

theorem emit_tokens (inp : Inputs) (s : Decode) (reason : Row → FinishReason) (status : Status) (final_active : Row → Int)
    (r : Row) : (emit inp { s.loc with finish_reason := reason } status final_active).tokens r = s.emitted r := by
  have hexec : (emit inp { s.loc with finish_reason := reason } status final_active).executed r = s.loc.executed r :=
    emit_executed inp _ status final_active r
  rw [Emission.tokens, hexec]
  rfl

theorem clearRows_none (d : Device) {ng : Row → Bool} (h : ∀ r, ng r = false) : clearRows d ng = d := by
  ext a
  · rw [clearRows_key, h, if_neg (by simp)]
  · rw [clearRows_value, h, if_neg (by simp)]
  all_goals rw [clearRows_metadata]

section Second

variable {decoder : ModelInputs → ModelReply} {env env₁ env₂ : Env} {inp inp' : Inputs} {d dp d' : Device}
  {e : Emission} {a b n₁ n₂ : ℕ} {loc : Locals} {s₁ s : Decode}

/-- the first epoch's result -/
def Cut.result (_ : Cut env env₁ inp d d' e a b dp loc n₁ n₂ s₁ s) : Emission :=
  emit (inp.withSteps a) { s₁.loc with finish_reason := finishMaxSteps inp s₁.loc.finish_reason } .ok s₁.active

variable (cut : Cut env env₁ inp d d' e a b dp loc n₁ n₂ s₁ s)

include cut

theorem Cut.row {r : Row} (hr : inp.active r ≠ 0) : RowResult (inp.withSteps a) cut.result (commit dp inp s₁) r :=
  epoch_row cut.first hr

theorem Cut.tokens (r : Row) : cut.result.tokens r = s₁.emitted r := emit_tokens _ s₁ _ .ok _ r

/-- the rows that go on are the rows still active at the cut -/
theorem Cut.going_iff (ha : 1 ≤ a) (r : Row) : Going inp cut.result r ↔ s₁.active r ≠ 0 := by
  obtain ⟨m, hm⟩ := prepared_rowInv cut.prepared cut.before r
  by_cases hr : inp.active r = 0
  · refine iff_of_false (fun h => h.1 hr) (not_not.2 ?_)
    have hsame : s₁.active r = inp.active r := (hm.going (Or.inr hr)).1
    rw [hsame, hr]
  have hpos : 0 < m := by
    by_cases hs₁ : s₁.active r = 0
    · exact (hm.stopped hs₁ hr).1
    · have hall : n₁ = a := cut.first_end.resolve_right fun h0 => hs₁ (countActive_eq_zero h0 r)
      have hmn := (hm.going (Or.inl hs₁)).2.1
      rw [if_neg hr] at hmn
      omega
  obtain ⟨k, rfl⟩ : ∃ k, m = k + 1 := ⟨m - 1, by omega⟩
  have hexec : cut.result.executed r = (k + 1 : ℕ) := (emit_executed _ _ .ok _ r).trans hm.executed
  have hlast : (cut.result.tokens r).getLast? = some (s₁.column r k) := cut.result.tokens_getLast r hexec
  rw [Going, hlast, and_iff_right hr, ne_eq, Option.some_inj]
  constructor
  · intro hne h0
    exact hne (hm.stopped h0 hr).2.1
  · intro h0
    exact (hm.going (Or.inl h0)).2.2.1 hpos

/-- where the first epoch stops, a row that goes on is as the second epoch finds it -/
theorem Cut.boundary (ha : 1 ≤ a) (hb : 1 ≤ b) (hsteps : inp.max_steps = a + b)
    (hc : Continuation inp cut.result b inp') (loc' : Locals) {r : Row} (hr : s₁.active r ≠ 0) :
    SameView (s₁.row r) ((Decode.start (commit dp inp s₁) inp' loc').row r) ∧ inp'.position r + b ≤ kLogicalCapacity := by
  have hgoing := (cut.going_iff ha r).2 hr
  have hrow := hc.going r hgoing
  have hresult := cut.row hgoing.1
  obtain ⟨m, hm⟩ := prepared_rowInv cut.prepared cut.before r
  obtain ⟨hactive, -, -, -⟩ := hm.going (Or.inl hr)
  have hexec : cut.result.executed r = m := (emit_executed _ _ .ok _ r).trans hm.executed
  have hm0 : m ≠ 0 := by
    have := hresult.executed.1
    omega
  have hmetadata (f : Decode → Row → Int) (g : Metadata → Row → Int)
      (h : g (commit dp inp s₁).metadata r = if inp.active r = 0 then g dp.metadata r else f s₁ r) :
      g (commit dp inp s₁).metadata r = f s₁ r := h.trans (if_neg hgoing.1)
  have hon : inp.active r = 1 := (cut.prepared.validated.row r).active.resolve_left hgoing.1
  have hcap := ((cut.prepared.validated.row r).running hon).capacity
  have hle := hresult.executed.2
  have hle : cut.result.executed r ≤ a := hle
  have hp : s₁.position_values r = inp'.position r := by
    have : s₁.position_values r = inp.position r + m := hm.position
    rw [this, hrow.position, hexec]
  refine ⟨⟨?_, ?_, ?_, ?_, hp.symm⟩, ?_⟩
  · show inp'.token r = s₁.token r
    have htoken := hresult.token
    rw [hrow.token, hmetadata Decode.token Metadata.token rfl] at htoken
    exact Option.some.inj htoken
  · show inp'.length r = s₁.length r
    have hlength : s₁.length r = s₁.position_values r + 1 := by
      have := hm.length
      rwa [if_neg hm0] at this
    rw [hrow.length, hlength, hp]
  · show inp'.slot r = s₁.slot r
    have hslot : s₁.slot r = nextSlot inp r (s₁.position_values r) := by
      have := hm.slot
      rwa [if_neg hm0] at this
    rw [hrow.slot, hslot, hp, hc.same.block_table]
    refine (if_neg ?_).symm
    have := hrow.position
    omega
  · show inp'.active r = s₁.active r
    have hsame : s₁.active r = inp.active r := hactive
    rw [hrow.active, hsame, hon]
  · rw [hrow.position, hsteps] at *
    omega

/-- the second epoch is admitted as it is -/
theorem Cut.prepared_second (ha : 1 ≤ a) (hb : 1 ≤ b) (hsteps : inp.max_steps = a + b)
    (hc : Continuation inp cut.result b inp') :
    Prepared inp' (commit dp inp s₁) (commit dp inp s₁)
      { Locals.start with finish_reason := startReason inp', import_checksum := 0 } := by
  have hv := cut.prepared.validated
  have himport : importPhase inp' (commit dp inp s₁) = (commit dp inp s₁, .ok 0) := if_pos hc.plain
  have hvalid : Validated inp' := by
    have hmax := hv.max_steps.2
    refine ⟨by rw [hc.max_steps]; omega, hc.sampling_mode, hc.graph_variant, ?_, ?_, ?_⟩
    · rw [hc.same.eos]
      exact hv.eos
    · have htable := hv.block_table
      unfold checkBlockTable at htable ⊢
      rwa [hc.same.block_table]
    · intro r
      by_cases hr : Going inp cut.result r
      · have hrow := hc.going r hr
        have hresult := cut.row hr.1
        have hcap := (cut.boundary ha hb hsteps hc Locals.start ((cut.going_iff ha r).1 hr)).2
        have hon : inp.active r = 1 := (hv.row r).active.resolve_left hr.1
        have hposition := (hv.row r).position
        have hexec := hresult.executed
        refine ⟨Or.inr hrow.active, hresult.range _ (List.mem_of_getLast? hrow.token), ?_, fun _ => ?_, fun h0 => ?_,
          hrow.slot.symm ▸ rfl⟩
        · rw [hrow.position] at hcap ⊢
          omega
        · refine ⟨?_, hrow.length, by rw [hc.max_steps]; exact hcap⟩
          rw [hrow.generation]
          exact ((hv.row r).running hon).generation
        · rw [hrow.active] at h0
          cases h0
      · exact (hc.finished r hr).2
  have hcontinues (r : Row) (hr : inp'.active r ≠ 0) : Continues (commit dp inp s₁).metadata inp' r := by
    have hgoing : Going inp cut.result r := by
      by_contra h
      exact hr (hc.finished r h).1
    have hrow := hc.going r hgoing
    have hresult := cut.row hgoing.1
    have htoken := hresult.token
    rw [hrow.token] at htoken
    refine ⟨?_, ?_, (Option.some.inj htoken).symm, ?_, ?_⟩
    · rw [hrow.generation]
      exact hresult.generation
    · rw [hresult.valid]
      decide
    · rw [hrow.position]
      exact hresult.position
    · rw [hrow.length, hrow.position, hresult.length, hresult.position]
      rfl
  obtain ⟨ng, hng⟩ := (continuity_iff (commit dp inp s₁).metadata inp').2 fun r hr => Or.inl (hcontinues r hr)
  -- no row starts a generation, so nothing is cleared
  have hnone (r : Row) : ng r = false := by
    rcases (continuityRow_ok_iff _ inp' r _).1 ((continuity_ok _ inp' ng).1 hng r) with ⟨-, h⟩ | ⟨-, ⟨-, h⟩ | ⟨hs, -⟩⟩
    · exact h
    · exact h
    · by_cases hr : inp'.active r = 0
      · have hfresh := (continuity_ok _ inp' ng).1 hng r
        unfold continuityRow at hfresh
        rw [if_pos hr] at hfresh
        exact (Except.ok.inj hfresh).symm
      · exact absurd (hcontinues r hr).generation hs.generation
  refine ⟨hvalid, ⟨0, by rw [himport], rfl⟩, ng, by rw [himport]; exact hng, ?_⟩
  rw [himport, clearRows_none _ hnone]

/-- the two loops at the cut -/
theorem Cut.tracks_start (ha : 1 ≤ a) (hb : 1 ≤ b) (hsteps : inp.max_steps = a + b)
    (hc : Continuation inp cut.result b inp') : Tracks inp inp' s₁ s₁ (Decode.start (commit dp inp s₁) inp'
      { Locals.start with finish_reason := startReason inp', import_checksum := 0 }) := by
  have hcalls : s₁.loc.model_calls = n₁ := prepared_calls cut.prepared cut.before
  refine ⟨fun r => ?_, fun r => ⟨0, rowInv_start inp' r _ _ rfl rfl rfl⟩, ⟨steps_position cut.before rfl, rfl⟩, ?_,
    fun r hr => (cut.boundary ha hb hsteps hc _ hr).1, fun r _ => rfl, fun r => ?_, fun r a _ => ⟨rfl, rfl⟩⟩
  · rw [hcalls]
    exact prepared_rowInv cut.prepared cut.before r
  · funext r
    by_cases hr : s₁.active r = 0
    · rw [hr]
      exact (hc.finished r fun h => (cut.going_iff ha r).1 h hr).1
    · exact (cut.boundary ha hb hsteps hc Locals.start hr).1.active
  · have hnone : (Decode.start (commit dp inp s₁) inp'
        { Locals.start with finish_reason := startReason inp', import_checksum := 0 }).emitted r = [] := rfl
    rw [hnone, List.append_nil]

/-- what the second epoch leaves in a row's metadata is what the long one leaves -/
theorem Cut.metadata (ha : 1 ≤ a) (hc : Continuation inp cut.result b inp') {t : Decode}
    (h : Tracks inp inp' s₁ s t) (r : Row) :
    (commit dp inp s).metadata.SameRow (commit (commit dp inp s₁) inp' t).metadata r := by
  by_cases hr : inp.active r = 0
  · have hr' : inp'.active r = 0 := (hc.finished r fun h => h.1 hr).1
    simp only [Metadata.SameRow, commit, if_pos hr, if_pos hr', and_self]
  by_cases hs₁ : s₁.active r = 0
  · have hr' : inp'.active r = 0 := (hc.finished r fun h => (cut.going_iff ha r).1 h hs₁).1
    have hrow := h.stopped r hs₁
    have hposition : s₁.position r = s.position r := by
      rw [h.position.1, steps_position cut.before rfl]
      exact (congrArg RowView.position hrow).symm
    have htoken : s₁.token r = s.token r := (congrArg RowView.token hrow).symm
    have hlength : s₁.length r = s.length r := (congrArg RowView.length hrow).symm
    simp only [Metadata.SameRow, commit, if_neg hr, if_pos hr']
    exact ⟨trivial, htoken, hposition, hlength, trivial⟩
  · have hrow := hc.going r ((cut.going_iff ha r).2 hs₁)
    have hr' : ¬ inp'.active r = 0 := by
      rw [hrow.active]
      decide
    have hview := h.going r hs₁
    have hposition : t.position r = s.position r := by
      rw [h.position.1, h.position.2]
      exact hview.position
    simp only [Metadata.SameRow, commit, if_neg hr, if_neg hr']
    exact ⟨hrow.generation, hview.token, hposition, hview.length, trivial⟩

end Second

/-! ## Both -/

/-- **Epoch splitting.** An OK epoch of `a + b` steps is an OK epoch of `a` steps and then, on the rows that did not hit
their EOS, an OK epoch of `b` steps: the same tokens, the same blocks and the same resident metadata, row by row. -/
theorem epoch_splits (decoder : ModelInputs → ModelReply) (hlocal : RowLocal decoder) (env env₁ env₂ : Env)
    (hr : Runs env decoder) (hr₁ : Runs env₁ decoder) (hr₂ : Runs env₂ decoder) (inp : Inputs) (d d' : Device)
    (e : Emission) (a b : ℕ) (ha : 1 ≤ a) (hb : 1 ≤ b) (hsteps : inp.max_steps = a + b)
    (hplain : inp.importing = false) (h : epoch env inp d = (d', .ok, e)) :
    ∃ d₁ e₁, epoch env₁ (inp.withSteps a) d = (d₁, .ok, e₁) ∧
      ∀ inp', Continuation inp e₁ b inp' → ∃ d₂ e₂, epoch env₂ inp' d₁ = (d₂, .ok, e₂) ∧ ∀ r,
        e.tokens r = e₁.tokens r ++ e₂.tokens r ∧
        (∀ a, Owns inp.block_table r a → d₂.key a = d'.key a ∧ d₂.value a = d'.value a) ∧
        d'.metadata.SameRow d₂.metadata r := by
  obtain ⟨dp, loc, n₁, n₂, s₁, s, cut⟩ := epoch_cut hr hr₁ hplain ha hsteps h
  refine ⟨_, cut.result, cut.first, fun inp' hc => ?_⟩
  have hprepared := cut.prepared_second ha hb hsteps hc
  obtain ⟨t, ht, htracks⟩ := tracks_steps hlocal hr hr₂ hc.same cut.after (cut.tracks_start ha hb hsteps hc)
  have hbudget : inp'.max_steps.toNat = b := by rw [hc.max_steps, Int.toNat_natCast]
  have hend : n₂ = inp'.max_steps.toNat ∨ countActive t.active = 0 := by
    rw [hbudget, htracks.active]
    exact cut.end_
  have hle : n₂ ≤ inp'.max_steps.toNat := hbudget.symm ▸ cut.le.2
  refine ⟨_, _, epoch_ok_of hprepared hle ht hend, fun r => ⟨?_, fun a ha => ?_, ?_⟩⟩
  · have hlong : e.tokens r = s.emitted r :=
      (congrArg (fun e : Emission => e.tokens r) cut.emission).trans (emit_tokens inp s _ .ok _ r)
    rw [hlong, emit_tokens, cut.tokens]
    exact htracks.emitted r
  · have hkey : d'.key = s.key := congrArg Device.key cut.device
    have hvalue : d'.value = s.value := congrArg Device.value cut.device
    rw [hkey, hvalue]
    exact htracks.blocks r a ha
  · have hmetadata := cut.metadata ha hc htracks r
    rwa [← cut.device] at hmetadata

/-! ### Two steps of one row -/

/-- the rows that go on, where the first result ends -/
def Inputs.continued (inp : Inputs) (e₁ : Emission) (b : ℕ) : Inputs :=
  let going (r : Row) : Bool := inp.active r ≠ 0 && (e₁.tokens r).getLast? ≠ some (inp.eos r)
  let position (r : Row) : Int := if going r then inp.position r + e₁.executed r else 0
  { inp with
    max_steps := b
    sampling_mode := 0
    graph_variant := 0
    importing := false
    row_generation := fun r => if going r then inp.row_generation r else 0
    token := fun r => if going r then (e₁.tokens r).getLast?.getD 0 else 0
    position := position
    length := fun r => if going r then position r + 1 else 0
    slot := fun r => computeSlot inp.block_table r (position r)
    active := fun r => if going r then 1 else 0 }

theorem continued_continuation {inp : Inputs} {e₁ : Emission} (b : ℕ)
    (h : ∀ r, Going inp e₁ r → (e₁.tokens r).getLast?.isSome = true) :
    Continuation inp e₁ b (inp.continued e₁ b) := by
  have hgoing (r : Row) :
      (inp.active r ≠ 0 && (e₁.tokens r).getLast? ≠ some (inp.eos r)) = true ↔ Going inp e₁ r := by
    simp [Going]
  refine ⟨rfl, rfl, rfl, rfl, ⟨rfl, rfl, rfl⟩, fun r hr => ?_, fun r hr => ?_⟩
  · have hon := (hgoing r).2 hr
    have hposition : (inp.continued e₁ b).position r = inp.position r + e₁.executed r := if_pos hon
    obtain ⟨t, ht⟩ := Option.isSome_iff_exists.1 (h r hr)
    refine ⟨if_pos hon, if_pos hon, ?_, hposition, if_pos hon, rfl⟩
    have htoken : (inp.continued e₁ b).token r = (e₁.tokens r).getLast?.getD 0 := if_pos hon
    rw [htoken, ht]
    rfl
  · have hoff := mt (hgoing r).1 hr
    have hactive : (inp.continued e₁ b).active r = 0 := if_neg hoff
    have htoken : (inp.continued e₁ b).token r = 0 := if_neg hoff
    have hposition : (inp.continued e₁ b).position r = 0 := if_neg hoff
    have hlength : (inp.continued e₁ b).length r = 0 := if_neg hoff
    have hgeneration : (inp.continued e₁ b).row_generation r = 0 := if_neg hoff
    refine ⟨hactive, Or.inl hactive, ?_, ?_, fun hon => ?_, fun _ => ?_, rfl⟩
    · rw [htoken]
      decide
    · rw [hposition]
      decide
    · rw [hactive] at hon
      cases hon
    · rw [InactiveRow, if_pos hlength]
      exact hgeneration

/-- row 0 starts generation 1 -/
def oneRow : Inputs where
  max_steps := 2
  eos := fun _ => 9
  sampling_mode := 0
  graph_variant := 0
  importing := false
  import_mask := 0
  row_generation := ![1, 0, 0, 0]
  token := ![12, 0, 0, 0]
  position := fun _ => 0
  length := ![1, 0, 0, 0]
  slot := ![0, 256, 512, 768]
  active := ![1, 0, 0, 0]
  block_table := fun i => i
  tiling := fun _ => 0
  payload := fun _ => 0

theorem oneRow_validated : Validated oneRow := by
  obtain ⟨reasons, h⟩ : ∃ reasons, validate oneRow = .ok reasons := ⟨_, rfl⟩
  exact ((validate_ok_iff oneRow reasons).1 h).1

theorem epoch_splits_oneRow : ∃ d' e d₁ e₁ d₂ e₂, epoch .steady oneRow .unused = (d', .ok, e) ∧
    epoch .steady (oneRow.withSteps 1) .unused = (d₁, .ok, e₁) ∧
    epoch .steady (oneRow.continued e₁ 1) d₁ = (d₂, .ok, e₂) ∧ ∀ r,
      e.tokens r = e₁.tokens r ++ e₂.tokens r ∧
      (∀ a, Owns oneRow.block_table r a → d₂.key a = d'.key a ∧ d₂.value a = d'.value a) ∧
      d'.metadata.SameRow d₂.metadata r := by
  obtain ⟨d', e, hrun⟩ := total_epoch steady_total steady_runs oneRow_validated rfl (d := .unused)
    (fun r hr => Or.inr ⟨by revert r; decide, by revert r; decide, by revert r; decide⟩)
  obtain ⟨d₁, e₁, hfirst, hsecond⟩ := epoch_splits steady steady_rowLocal .steady .steady .steady steady_runs
    steady_runs steady_runs oneRow .unused d' e 1 1 (le_refl 1) (le_refl 1) rfl rfl hrun
  obtain ⟨d₂, e₂, h₂, hsame⟩ := hsecond (oneRow.continued e₁ 1) (continued_continuation 1 fun r hr => by
    rw [(epoch_row hfirst hr.1).token]
    rfl)
  exact ⟨d', e, d₁, e₁, d₂, e₂, hrun, hfirst, h₂, hsame⟩

end Cruise.Controller
