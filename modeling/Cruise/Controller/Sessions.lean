/-
The resident rows over the life of the UDF object.

MODEL. A session is the object, the generation each row was last asked for, and what its resident generation was started
from and has generated since. Calls come in any order and number and may fail anywhere: a tensor is refused, an
allocation fails, a check fails after rows were imported, the decoder fails, an output cannot be set.
- `after_resident`: a session's members are those of `Proc`.
- `session_step`: what every call keeps, as long as no row is asked for a generation older than one it was asked for.
- `session_follows`: in every such run, what a row has generated follows what its generation was started from.
-/
import Cruise.Lib.Run
import Cruise.Controller.History

namespace Cruise.Controller

open Cruise.Lib

/-! ## Sessions -/

structure SessionCall where
  plat : Platform
  env : Env
  inputs : List (Option FlowMsg)
  /-- the tokens whose KV rows the payload brings, by row -/
  imported : Row → List Int

structure Session where
  resident : Resident
  /-- the generation a row was last asked for -/
  asked : Row → Int
  /-- the tokens the resident generation of a row was started from -/
  prompt : Row → List Int
  /-- the tokens it has generated since -/
  output : Row → List Int

namespace Session

def fresh : Session := ⟨init, fun _ => 0, fun _ => [], fun _ => []⟩

/-- the generations a call asks for -/
def asks (s : Session) (inp : Inputs) (r : Row) : Int := if inp.active r = 0 then s.asked r else inp.row_generation r

/-- the session after an OK epoch on device `d` -/
def served (s : Session) (call : SessionCall) (inp : Inputs) (d d' : Device) (e : Emission) : Session where
  resident := d'.toResident
  asked := s.asks inp
  prompt := fun r =>
    if Imported inp r then call.imported r ++ [inp.token r]
    else if Fresh d.metadata inp r then [inp.token r]
    else s.prompt r
  output := fun r => (if Imported inp r ∨ Fresh d.metadata inp r then [] else s.output r) ++ e.tokens r

/-- the session after a failed epoch: rows that were imported before the failure stay imported -/
def failed (s : Session) (call : SessionCall) (inp : Inputs) (d' : Device) : Session where
  resident := d'.toResident
  asked := s.asks inp
  prompt := fun r => if (writtenBefore inp).contains r then call.imported r ++ [inp.token r] else s.prompt r
  output := fun r => if (writtenBefore inp).contains r then [] else s.output r

def after (s : Session) (call : SessionCall) : Session :=
  match readInputs call.plat call.inputs with
  | none => s
  | some inp =>
    match allocResident call.plat s.resident with
    | .error resident => { s with resident, asked := s.asks inp }
    | .ok d =>
      let (d', status, e) := epoch call.env inp d
      if status = .ok then s.served call inp d d' e else s.failed call inp d'

end Session

theorem after_resident (s : Session) (call : SessionCall) :
    (s.after call).resident = (proc call.plat call.env s.resident call.inputs).resident := by
  unfold Session.after proc
  cases readInputs call.plat call.inputs with
  | none => rfl
  | some inp =>
    cases allocResident call.plat s.resident with
    | error resident => rfl
    | ok d =>
      dsimp only
      generalize epoch call.env inp d = result
      obtain ⟨d', status, e⟩ := result
      dsimp only
      split_ifs <;> rfl

/-- what is asked of a call: a decoder of the model, the table of the bridge, payloads that hold what they are said to
hold, and no row whose generation goes back -/
structure Faithful (model : GreedyModel) (s : Session) (call : SessionCall) : Prop where
  decoder : ∀ n, GreedyDecoder model (call.env.run_flow_model n)
  table : ∀ inp, readInputs call.plat call.inputs = some inp → FixedTable inp.block_table
  payload : ∀ inp, readInputs call.plat call.inputs = some inp → ∀ r, Imported inp r →
    inp.position r = (call.imported r).length ∧
      model.holds (importedBlocks inp.payload 0 r) (importedBlocks inp.payload (kImportCacheElements * 2) r) (call.imported r)
  forward : ∀ inp, readInputs call.plat call.inputs = some inp → ∀ r, inp.active r ≠ 0 → s.asked r ≤ inp.row_generation r

/-! ## What a row keeps -/

/-- the row holds the generation it was last asked for -/
def Session.Current (s : Session) (r : Row) : Prop :=
  s.resident.metadata.valid r ≠ 0 ∧ s.resident.metadata.generation r = s.asked r

structure Kept (model : GreedyModel) (s : Session) (r : Row) : Prop where
  follows : Follows model.next (s.prompt r) (s.output r)
  token : (s.prompt r ++ s.output r).getLast? = some (s.resident.metadata.token r)
  position : s.resident.metadata.position r + 1 = (s.prompt r ++ s.output r).length
  length : s.resident.metadata.length r = s.resident.metadata.position r + 1
  holds : model.rowHolds s.resident.keyCache s.resident.valueCache r (s.prompt r ++ s.output r).dropLast

structure SessionInvariant (model : GreedyModel) (s : Session) : Prop where
  generation : ∀ r, s.resident.metadata.generation r ≤ s.asked r
  kept : ∀ r, s.Current r → Kept model s r

theorem session_fresh (model : GreedyModel) : SessionInvariant model .fresh where
  generation := fun _ => le_refl 0
  kept := fun _ h => absurd rfl h.1

section Kept

variable {model : GreedyModel} {s s' : Session} {r : Row}

/-- a row that nothing was written to -/
theorem Kept.preserved (h : Kept model s r) (hp : RowPreserved s.resident s'.resident r) (hprompt : s'.prompt r = s.prompt r)
    (houtput : s'.output r = s.output r) : Kept model s' r := by
  refine ⟨?_, ?_, ?_, ?_, ?_⟩
  · rw [hprompt, houtput]
    exact h.follows
  · rw [hprompt, houtput, hp.token]
    exact h.token
  · rw [hprompt, houtput, hp.position]
    exact h.position
  · rw [hp.length, hp.position]
    exact h.length
  · unfold GreedyModel.rowHolds
    rw [hprompt, houtput, hp.key, hp.value]
    exact h.holds

/-- the blocks the next call finds are those of the device -/
theorem alloc_rowHolds {plat : Platform} {before : Resident} {d : Device} (h : allocResident plat before = .ok d)
    {history : List Int} (hheld : model.rowHolds before.keyCache before.valueCache r history) :
    model.rowHolds d.key d.value r history := by
  obtain ⟨-, hkey, hvalue⟩ := allocResident_blocks h
  unfold GreedyModel.rowHolds
  rw [hkey, hvalue]
  exact hheld

/-- an allocation that fails leaves the caches as the next call finds them -/
theorem allocResident_error {plat : Platform} {before after : Resident} (h : allocResident plat before = .error after) (r : Row) :
    RowPreserved before after r := by
  obtain ⟨key, value, metadata⟩ := before
  obtain ⟨alloc_outputs, alloc_slot, alloc_key, alloc_value⟩ := plat
  rcases key with _ | k <;> rcases value with _ | v <;> rcases alloc_key with _ | ak <;> rcases alloc_value with _ | av <;>
    cases h <;> exact ⟨rfl, rfl, rfl, rfl, rfl, rfl, rfl⟩

end Kept

/-! ## An OK epoch -/

section Served

variable {model : GreedyModel} {s : Session} {call : SessionCall} {inp : Inputs} {d d' : Device} {e : Emission} {r : Row}

/-- the tokens whose KV rows the decoder finds in an active row -/
def Session.held (s : Session) (call : SessionCall) (m : Metadata) (inp : Inputs) (r : Row) : List Int :=
  if Imported inp r then call.imported r
  else if Fresh m inp r then []
  else (s.prompt r ++ s.output r).dropLast

variable (hi : SessionInvariant model s) (hf : Faithful model s call)
variable (hread : readInputs call.plat call.inputs = some inp) (halloc : allocResident call.plat s.resident = .ok d)

include hi hf hread halloc

/-- a row that goes on is current -/
theorem served_current (ha : inp.active r ≠ 0) (hc : Continues d.metadata inp r) : Kept model s r := by
  have hmetadata := allocResident_metadata halloc
  have hgeneration := hc.generation
  have hvalid := hc.valid
  rw [hmetadata] at hgeneration hvalid
  have hle := hi.generation r
  have hforward := hf.forward inp hread r ha
  exact hi.kept r ⟨hvalid, by omega⟩

variable (h : epoch call.env inp d = (d', .ok, e))

include h

theorem served_primed (ha : inp.active r ≠ 0) : Primed model inp d r (s.held call d.metadata inp r) := by
  unfold Session.held
  by_cases himported : Imported inp r
  · obtain ⟨hposition, hholds⟩ := hf.payload inp hread r himported
    rw [if_pos himported]
    exact ⟨hposition, fun hfresh => absurd himported hfresh.2.1, fun _ => hholds, fun hnot => absurd himported hnot⟩
  rw [if_neg himported]
  rcases epoch_continues h ha himported with ⟨hc, hfresh⟩ | ⟨hs, hfresh⟩
  · have hkept := served_current hi hf hread halloc ha hc
    rw [if_neg hfresh]
    refine ⟨?_, fun hf => absurd hf hfresh, fun hi => absurd hi himported, fun _ _ => alloc_rowHolds halloc hkept.holds⟩
    have hposition := hc.position
    have hcount := hkept.position
    rw [allocResident_metadata halloc] at hposition
    rw [hposition] at hcount
    rw [List.length_dropLast]
    generalize (s.prompt r ++ s.output r).length = count at hcount ⊢
    have hvalid := (epoch_words h).validated.row r
    have hlow := hvalid.position.1
    omega
  · rw [if_pos hfresh]
    exact ⟨hs.position, fun _ => rfl, fun hi => absurd hi himported, fun _ hnot => absurd hfresh hnot⟩

/-- what the row stands for before the call, and after it -/
theorem served_stream (ha : inp.active r ≠ 0) :
    (s.served call inp d d' e).prompt r ++ (s.served call inp d d' e).output r =
      s.held call d.metadata inp r ++ inp.token r :: e.tokens r := by
  show (if Imported inp r then call.imported r ++ [inp.token r]
    else if Fresh d.metadata inp r then [inp.token r] else s.prompt r) ++
      ((if Imported inp r ∨ Fresh d.metadata inp r then [] else s.output r) ++ e.tokens r) = _
  unfold Session.held
  by_cases himported : Imported inp r
  · rw [if_pos himported, if_pos himported, if_pos (Or.inl himported), List.nil_append, List.append_assoc, List.singleton_append]
  rw [if_neg himported, if_neg himported]
  rcases epoch_continues h ha himported with ⟨hc, hfresh⟩ | ⟨-, hfresh⟩
  · have htoken := (served_current hi hf hread halloc ha hc).token
    rw [← allocResident_metadata halloc, hc.token] at htoken
    rw [if_neg hfresh, if_neg hfresh, if_neg (not_or.2 ⟨himported, hfresh⟩), ← List.append_assoc, List.append_cons,
      List.dropLast_append_getLast? _ htoken]
  · rw [if_pos hfresh, if_pos hfresh, if_pos (Or.inr hfresh), List.nil_append, List.nil_append, List.singleton_append]

theorem served_follows (ha : inp.active r ≠ 0) :
    Follows model.next ((s.served call inp d d' e).prompt r) ((s.served call inp d d' e).output r) := by
  have hfollows := (epoch_history hf.decoder (hf.table inp hread) h ha (served_primed hi hf hread halloc h ha)).1
  have hstream := served_stream hi hf hread halloc h ha
  show Follows model.next (if Imported inp r then call.imported r ++ [inp.token r]
    else if Fresh d.metadata inp r then [inp.token r] else s.prompt r)
      ((if Imported inp r ∨ Fresh d.metadata inp r then [] else s.output r) ++ e.tokens r)
  unfold Session.held at hfollows
  by_cases himported : Imported inp r
  · rw [if_pos himported] at hfollows
    rw [if_pos himported, if_pos (Or.inl himported), List.nil_append]
    exact hfollows
  rw [if_neg himported] at hfollows ⊢
  rcases epoch_continues h ha himported with ⟨hc, hfresh⟩ | ⟨-, hfresh⟩
  · have hkept := served_current hi hf hread halloc ha hc
    have htoken := hkept.token
    rw [← allocResident_metadata halloc, hc.token] at htoken
    rw [if_neg hfresh, List.dropLast_append_getLast? _ htoken] at hfollows
    rw [if_neg hfresh, if_neg (not_or.2 ⟨himported, hfresh⟩)]
    exact hkept.follows.append hfollows
  · rw [if_pos hfresh, List.nil_append] at hfollows
    rw [if_pos hfresh, if_pos (Or.inr hfresh), List.nil_append]
    exact hfollows

/-- **An OK epoch** keeps an active row. -/
theorem served_kept (ha : inp.active r ≠ 0) : Kept model (s.served call inp d d' e) r := by
  have hrow := epoch_row h ha
  have hprimed := served_primed hi hf hread halloc h ha
  have hholds := (epoch_history hf.decoder (hf.table inp hread) h ha hprimed).2
  have hstream := served_stream hi hf hread halloc h ha
  have hlast : (e.tokens r).getLast? = some (d'.metadata.token r) := hrow.token
  have hexecuted := hrow.executed.1
  have hcount := e.tokens_length r
  refine ⟨served_follows hi hf hread halloc h ha, ?_, ?_, hrow.length, ?_⟩
  · rw [hstream, List.getLast?_append, List.getLast?_cons, hlast]
    rfl
  · rw [hstream, List.length_append, List.length_cons, hcount]
    show d'.metadata.position r + 1 = _
    have hposition := hprimed.position
    rw [hrow.position]
    push_cast
    omega
  · rw [hstream]
    exact hholds

omit hi in
/-- and a row that was not active as it was -/
theorem served_idle (ha : inp.active r = 0) : RowPreserved s.resident (s.served call inp d d' e).resident r := by
  obtain ⟨hmetadata, hkey, hvalue⟩ := allocResident_blocks halloc
  obtain ⟨-, -, hgeneration, htoken, hposition, hlength, hvalid⟩ := epoch_idle h ha
  obtain ⟨hkey', hvalue'⟩ := epoch_blocks hf.decoder (hf.table inp hread) h ha
  rw [hmetadata] at hgeneration htoken hposition hlength hvalid
  exact ⟨hkey'.trans (hkey r), hvalue'.trans (hvalue r), hgeneration, htoken, hposition, hlength, hvalid⟩

/-- an idle row that is current was so before the call -/
theorem idle_kept (ha : inp.active r = 0) (hcurrent : (s.served call inp d d' e).Current r) :
    Kept model (s.served call inp d d' e) r := by
  have hidle := served_idle hf hread halloc h ha
  have himported : ¬Imported inp r := by
    intro himported
    have hrun : (epoch call.env inp d).2.1 = .ok := by rw [h]
    obtain ⟨dp, loc, n, s', hp, -⟩ := epoch_ok hrun
    obtain ⟨checksum, himport, -⟩ := hp.locals
    have hon := (importWritten_active inp ((imported_iff himport r).2 himported)).2
    rw [ha] at hon
    cases hon
  have hfresh : ¬Fresh d.metadata inp r := fun hfresh => hfresh.1 ha
  have htokens : e.tokens r = [] := by
    unfold Emission.tokens
    rw [(epoch_idle h ha).1]
    rfl
  have hbefore : s.Current r := by
    have hgeneration : d'.metadata.generation r = s.asks inp r := hcurrent.2
    have hvalid : d'.metadata.valid r ≠ 0 := hcurrent.1
    unfold Session.asks at hgeneration
    rw [if_pos ha] at hgeneration
    exact ⟨hidle.valid ▸ hvalid, hidle.generation.symm.trans hgeneration⟩
  refine (hi.kept r hbefore).preserved hidle ((if_neg himported).trans (if_neg hfresh)) ?_
  show (if Imported inp r ∨ Fresh d.metadata inp r then [] else s.output r) ++ e.tokens r = s.output r
  rw [if_neg (not_or.2 ⟨himported, hfresh⟩), htokens, List.append_nil]

end Served

/-! ## A failed epoch -/

section Failed

variable {model : GreedyModel} {s : Session} {call : SessionCall} {inp : Inputs} {d : Device} {r : Row}

/-- a row a failed call has imported -/
structure ImportedRow (inp : Inputs) (d' : Device) (r : Row) : Prop where
  key : rowBlocks d'.key r = importedBlocks inp.payload 0 r
  value : rowBlocks d'.value r = importedBlocks inp.payload (kImportCacheElements * 2) r
  generation : d'.metadata.generation r = inp.row_generation r
  token : d'.metadata.token r = inp.token r
  position : d'.metadata.position r = inp.position r
  length : d'.metadata.length r = inp.length r
  valid : d'.metadata.valid r = 1

/-- the row is cleared, to start another generation -/
def Cleared (inp : Inputs) (d : Device) (r : Row) : Prop := (∃ loc, (prepare inp d).2 = .ok loc) ∧ Fresh d.metadata inp r

/-- a row a failed call has not imported -/
structure UnimportedRow (inp : Inputs) (d d' : Device) (r : Row) : Prop where
  metadata : d.metadata.SameRow d'.metadata r
  cleared : Cleared inp d r → rowBlocks d'.key r = (fun _ _ _ => 0) ∧ rowBlocks d'.value r = fun _ _ _ => 0
  kept : ¬Cleared inp d r → rowBlocks d'.key r = rowBlocks d.key r ∧ rowBlocks d'.value r = rowBlocks d.value r

/-- **What a failed call leaves of a row.** -/
theorem prepare_row (inp : Inputs) (d : Device) (r : Row) :
    (r ∈ writtenBefore inp → ImportedRow inp (prepare inp d).1 r) ∧
      (r ∉ writtenBefore inp → UnimportedRow inp d (prepare inp d).1 r) := by
  rcases hprepare : prepare inp d with ⟨d', ⟨status, loc⟩ | loc⟩
  · obtain rfl := prepare_failed inp d d' status loc hprepare
    have hkey := rowBlocks_overlay d.key inp.payload 0 (writtenBefore inp) r
    have hvalue := rowBlocks_overlay d.value inp.payload (kImportCacheElements * 2) (writtenBefore inp) r
    refine ⟨fun hr => ?_, fun hr => ?_⟩
    · rw [if_pos hr] at hkey hvalue
      exact ⟨hkey, hvalue, if_pos hr, if_pos hr, if_pos hr, if_pos hr, if_pos hr⟩
    · rw [if_neg hr] at hkey hvalue
      refine ⟨⟨if_neg hr, if_neg hr, if_neg hr, if_neg hr, if_neg hr⟩, ?_, fun _ => ⟨hkey, hvalue⟩⟩
      rintro ⟨⟨_, hok⟩, -⟩
      rw [hprepare] at hok
      cases hok
  · have hp := (prepare_ok_iff inp d d' loc).1 hprepare
    obtain ⟨checksum, himport, -⟩ := hp.locals
    obtain ⟨ng, -, hd'⟩ := hp.continuity
    have hwritten : writtenBefore inp = importWritten inp := by
      unfold writtenBefore
      rw [(validate_ok_iff inp _).2 ⟨hp.validated, rfl⟩]
    have hkey := rowBlocks_prepared (prepared_key hp) r
    have hvalue := rowBlocks_prepared (prepared_value hp) r
    have hmetadata : d'.metadata = (overlay inp d (importWritten inp)).metadata := by
      rw [hd', clearRows_metadata, importPhase_device]
    unfold preparedBlocks at hkey hvalue
    rw [hwritten]
    refine ⟨fun hr => ?_, fun hr => ?_⟩
    · have himported := (imported_iff himport r).1 hr
      have hfresh : ¬Fresh d.metadata inp r := fun hf => hf.2.1 himported
      rw [if_neg hfresh, if_pos himported] at hkey hvalue
      refine ⟨hkey, hvalue, ?_, ?_, ?_, ?_, ?_⟩ <;> rw [hmetadata] <;> exact if_pos hr
    · have himported := mt (imported_iff himport r).2 hr
      have hsame : d.metadata.SameRow d'.metadata r := by
        rw [hmetadata]
        exact ⟨if_neg hr, if_neg hr, if_neg hr, if_neg hr, if_neg hr⟩
      refine ⟨hsame, fun hcleared => ?_, fun hkept => ?_⟩
      · rw [if_pos hcleared.2] at hkey hvalue
        exact ⟨hkey, hvalue⟩
      · rw [if_neg fun hfresh => hkept ⟨⟨loc, by rw [hprepare]⟩, hfresh⟩, if_neg himported] at hkey hvalue
        exact ⟨hkey, hvalue⟩

/-- rows are written before a failure only in validated calls, and only where they are imported -/
theorem writtenBefore_imported (h : r ∈ writtenBefore inp) : Validated inp ∧ Imported inp r ∧ inp.active r = 1 := by
  unfold writtenBefore at h
  cases hv : validate inp with
  | error status =>
    rw [hv] at h
    cases h
  | ok reasons =>
    rw [hv] at h
    obtain ⟨hmasked, hon⟩ := importWritten_active inp h
    refine ⟨((validate_ok_iff inp reasons).1 hv).1, ⟨?_, hmasked⟩, hon⟩
    unfold importWritten at h
    split_ifs at h with hplain hmask
    · cases h
    · cases h
    · simpa using hplain

theorem failed_kept (hi : SessionInvariant model s) (hf : Faithful model s call)
    (hread : readInputs call.plat call.inputs = some inp) (halloc : allocResident call.plat s.resident = .ok d)
    (hcurrent : (s.failed call inp (prepare inp d).1).Current r) : Kept model (s.failed call inp (prepare inp d).1) r := by
  obtain ⟨hwritten, hother⟩ := prepare_row inp d r
  by_cases hr : r ∈ writtenBefore inp
  · obtain ⟨hvalid, himported, hon⟩ := writtenBefore_imported hr
    obtain ⟨hposition, hholds⟩ := hf.payload inp hread r himported
    have hrow := hwritten hr
    have hlength := ((hvalid.row r).running hon).length
    have hprompt : (s.failed call inp (prepare inp d).1).prompt r = call.imported r ++ [inp.token r] :=
      if_pos (List.contains_iff_mem.2 hr)
    have houtput : (s.failed call inp (prepare inp d).1).output r = [] :=
      if_pos (List.contains_iff_mem.2 hr)
    have hstream : (s.failed call inp (prepare inp d).1).prompt r ++ (s.failed call inp (prepare inp d).1).output r =
        call.imported r ++ [inp.token r] := by rw [hprompt, houtput, List.append_nil]
    refine ⟨?_, ?_, ?_, ?_, ?_⟩
    · rw [houtput]
      exact .nil
    · rw [hstream, List.getLast?_concat]
      exact congrArg some hrow.token.symm
    · rw [hstream, List.length_append, List.length_singleton]
      show (prepare inp d).1.metadata.position r + 1 = _
      rw [hrow.position, hposition]
      push_cast
      rfl
    · show (prepare inp d).1.metadata.length r = (prepare inp d).1.metadata.position r + 1
      rw [hrow.length, hrow.position]
      exact hlength
    · rw [hstream, List.dropLast_concat]
      show model.holds (rowBlocks (prepare inp d).1.key r) (rowBlocks (prepare inp d).1.value r) _
      rw [hrow.key, hrow.value]
      exact hholds
  · obtain ⟨⟨hgeneration, htoken, hposition, hlength, hvalid⟩, -, hblocks⟩ := hother hr
    obtain ⟨hmetadata, hkey, hvalue⟩ := allocResident_blocks halloc
    rw [hmetadata] at hgeneration htoken hposition hlength hvalid
    have hvalid' : s.resident.metadata.valid r ≠ 0 := hvalid ▸ hcurrent.1
    have hasked : s.resident.metadata.generation r = s.asks inp r := hgeneration.symm.trans hcurrent.2
    have hle := hi.generation r
    -- a row that was asked for another generation is not current
    have hstill : s.resident.metadata.generation r = s.asked r ∧ ¬Fresh d.metadata inp r := by
      unfold Session.asks at hasked
      by_cases ha : inp.active r = 0
      · rw [if_pos ha] at hasked
        exact ⟨hasked, fun hfresh => hfresh.1 ha⟩
      · rw [if_neg ha] at hasked
        have hforward := hf.forward inp hread r ha
        exact ⟨by omega, fun hfresh => hfresh.2.2 (hmetadata ▸ hasked)⟩
    obtain ⟨hkey', hvalue'⟩ := hblocks fun hcleared => hstill.2 hcleared.2
    have hkept := hi.kept r ⟨hvalid', hstill.1⟩
    have hunwritten : ¬(writtenBefore inp).contains r = true := fun h => hr (List.contains_iff_mem.1 h)
    exact hkept.preserved ⟨hkey'.trans (hkey r), hvalue'.trans (hvalue r), hgeneration, htoken, hposition, hlength, hvalid⟩
      (if_neg hunwritten) (if_neg hunwritten)

/-! ### What a failed call preserves -/

theorem prepare_refused_calls {d' : Device} {status : Status} {loc : Locals}
    (h : prepare inp d = (d', .error (status, loc))) : loc.model_calls = 0 := by
  unfold prepare at h
  cases hv : validate inp with
  | error status =>
    rw [hv] at h
    cases h
    rfl
  | ok reasons =>
    rw [hv] at h
    dsimp only at h
    rcases himport : importPhase inp d with ⟨d₁, status | checksum⟩
    · rw [himport] at h
      cases h
      rfl
    · rw [himport] at h
      dsimp only at h
      cases hcontinuity : continuity d₁.metadata inp with
      | error status =>
        rw [hcontinuity] at h
        cases h
        rfl
      | ok ng =>
        rw [hcontinuity] at h
        cases h

/-- the loop counts its calls before anything can fail -/
theorem failed_calls {env : Env} (hfailed : (epoch env inp d).2.1 ≠ .ok) :
    (epoch env inp d).2.2.model_calls ≠ 0 ↔ ∃ loc, (prepare inp d).2 = .ok loc := by
  unfold epoch at hfailed ⊢
  rcases hprepare : prepare inp d with ⟨d', ⟨status, loc⟩ | loc⟩
  · refine iff_of_false (fun h => h ?_) fun ⟨_, h⟩ => by cases h
    show ((loc.model_calls : ℕ) : Int) = 0
    rw [prepare_refused_calls hprepare]
    rfl
  · rw [hprepare] at hfailed
    dsimp only at hfailed ⊢
    rcases hloop : decodeLoop env inp inp.max_steps.toNat (Decode.start d' inp loc) with ⟨status, loc'⟩ | s
    · have hpos := decodeLoop_failed env inp _ _ _ hloop
      refine iff_of_true ?_ ⟨loc, rfl⟩
      show ((loc'.model_calls : ℕ) : Int) ≠ 0
      exact_mod_cast hpos.ne'
    · rw [hloop] at hfailed
      exact absurd rfl hfailed

/-- the row's blocks are zero already -/
def Blank (s : Resident) (r : Row) : Prop :=
  rowBlocks s.keyCache r = (fun _ _ _ => 0) ∧ rowBlocks s.valueCache r = fun _ _ _ => 0

/-- the row of a failed call is as it was -/
theorem failed_row_iff {plat : Platform} {before : Resident} (halloc : allocResident plat before = .ok d) :
    RowPreserved before (prepare inp d).1.toResident r ↔
      (r ∈ writtenBefore inp → HoldsImport before inp r) ∧ (Cleared inp d r → Blank before r) := by
  obtain ⟨hmetadata, hkey, hvalue⟩ := allocResident_blocks halloc
  obtain ⟨hwritten, hother⟩ := prepare_row inp d r
  by_cases hr : r ∈ writtenBefore inp
  · have hrow := hwritten hr
    have hstarts : ¬Cleared inp d r := fun hcleared => hcleared.2.2.1 (writtenBefore_imported hr).2.1
    constructor
    · intro hp
      exact ⟨fun _ => ⟨hp.key.symm.trans hrow.key, hp.value.symm.trans hrow.value, hp.generation.symm.trans hrow.generation,
        hp.token.symm.trans hrow.token, hp.position.symm.trans hrow.position, hp.length.symm.trans hrow.length,
        hp.valid.symm.trans hrow.valid⟩, fun hcleared => absurd hcleared hstarts⟩
    · rintro ⟨hholds, -⟩
      have h := hholds hr
      exact ⟨hrow.key.trans h.key.symm, hrow.value.trans h.value.symm, hrow.generation.trans h.generation.symm,
        hrow.token.trans h.token.symm, hrow.position.trans h.position.symm, hrow.length.trans h.length.symm,
        hrow.valid.trans h.valid.symm⟩
  · obtain ⟨⟨hgeneration, htoken, hposition, hlength, hvalid⟩, hzero, hkept⟩ := hother hr
    rw [hmetadata] at hgeneration htoken hposition hlength hvalid
    by_cases hcleared : Cleared inp d r
    · obtain ⟨hzeroKey, hzeroValue⟩ := hzero hcleared
      constructor
      · intro hp
        exact ⟨fun hmem => absurd hmem hr, fun _ => ⟨hp.key.symm.trans hzeroKey, hp.value.symm.trans hzeroValue⟩⟩
      · rintro ⟨-, hblank⟩
        obtain ⟨hblankKey, hblankValue⟩ := hblank hcleared
        exact ⟨hzeroKey.trans hblankKey.symm, hzeroValue.trans hblankValue.symm, hgeneration, htoken, hposition, hlength, hvalid⟩
    · obtain ⟨hkey', hvalue'⟩ := hkept hcleared
      refine iff_of_true ?_ ⟨fun hmem => absurd hmem hr, fun h => absurd h hcleared⟩
      exact ⟨hkey'.trans (hkey r), hvalue'.trans (hvalue r), hgeneration, htoken, hposition, hlength, hvalid⟩

/-- **What a failed call preserves.** Every row is as it was exactly when the rows it imported held the import already
and, if the decoder was called, the rows that were to start another generation were blank. -/
theorem failed_preserves_iff (plat : Platform) (env : Env) (before : Resident) (inputs : List (Option FlowMsg)) (e : Emission)
    (he : (proc plat env before inputs).emitted = some e) (hfailed : e.control 3 ≠ Status.ok.code) :
    (∀ r, RowPreserved before (proc plat env before inputs).resident r) ↔ ∀ inp, readInputs plat inputs = some inp →
      (∀ r ∈ writtenBefore inp, HoldsImport before inp r) ∧
        (e.model_calls ≠ 0 → ∀ r, Fresh before.metadata inp r → Blank before r) := by
  obtain ⟨inp, d, hread, halloc, rfl, hresident⟩ := proc_emitted he
  have hstatus : (epoch env inp d).2.1 ≠ .ok := fun h => hfailed (by rw [epoch_status, h])
  have hmetadata := allocResident_metadata halloc
  rw [hresident, epoch_failed env inp d hstatus]
  constructor
  · intro h inp' hread'
    obtain rfl : inp = inp' := Option.some.inj (hread.symm.trans hread')
    refine ⟨fun r hr => ((failed_row_iff halloc).1 (h r)).1 hr, fun hcalls r hfresh => ?_⟩
    exact ((failed_row_iff halloc).1 (h r)).2 ⟨(failed_calls hstatus).1 hcalls, hmetadata ▸ hfresh⟩
  · intro h r
    obtain ⟨hholds, hblank⟩ := h inp hread
    refine (failed_row_iff halloc).2 ⟨fun hr => hholds r hr, fun hcleared => ?_⟩
    exact hblank ((failed_calls hstatus).2 hcleared.1) r (hmetadata ▸ hcleared.2)

/-- the decoder fails under a row that starts its first generation -/
theorem failed_preserves_oneRow : ∃ e, (proc .plain .failing init oneRowInputs).emitted = some e ∧
    ((∀ r, RowPreserved init (proc .plain .failing init oneRowInputs).resident r) ↔
      ∀ inp, readInputs .plain oneRowInputs = some inp → (∀ r ∈ writtenBefore inp, HoldsImport init inp r) ∧
        (e.model_calls ≠ 0 → ∀ r, Fresh init.metadata inp r → Blank init r)) :=
  ⟨_, rfl, failed_preserves_iff .plain .failing init oneRowInputs _ rfl (by decide)⟩

end Failed

/-! ## Runs -/

section Step

variable {model : GreedyModel} {s : Session} {call : SessionCall} (hi : SessionInvariant model s)
  (hf : Faithful model s call) {inp : Inputs} (hread : readInputs call.plat call.inputs = some inp)

include hf hread in
theorem asks_le (r : Row) : s.asked r ≤ s.asks inp r := by
  unfold Session.asks
  split_ifs with ha
  · exact le_refl _
  · exact hf.forward inp hread r ha

include hi hf hread

/-- the call cannot allocate the caches -/
theorem unallocated_step {resident : Resident} (halloc : allocResident call.plat s.resident = .error resident) :
    SessionInvariant model { s with resident, asked := s.asks inp } := by
  have hsame (r : Row) := allocResident_error halloc r
  refine ⟨fun r => ?_, fun r hcurrent => ?_⟩
  · exact (hsame r).generation.le.trans ((hi.generation r).trans (asks_le hf hread r))
  · have hle := hi.generation r
    have hge := asks_le hf hread r
    have hgeneration : resident.metadata.generation r = s.asks inp r := hcurrent.2
    rw [(hsame r).generation] at hgeneration
    have hvalid : s.resident.metadata.valid r ≠ 0 := (hsame r).valid ▸ hcurrent.1
    exact (hi.kept r ⟨hvalid, by omega⟩).preserved (hsame r) rfl rfl

variable {d : Device} (halloc : allocResident call.plat s.resident = .ok d)

include halloc

theorem served_step {d' : Device} {e : Emission} (h : epoch call.env inp d = (d', .ok, e)) :
    SessionInvariant model (s.served call inp d d' e) := by
  refine ⟨fun r => ?_, fun r hcurrent => ?_⟩
  · by_cases ha : inp.active r = 0
    · have hidle := (served_idle hf hread halloc h ha).generation
      exact hidle.le.trans ((hi.generation r).trans (asks_le hf hread r))
    · show d'.metadata.generation r ≤ s.asks inp r
      rw [(epoch_row h ha).generation, Session.asks, if_neg ha]
  · by_cases ha : inp.active r = 0
    · exact idle_kept hi hf hread halloc h ha hcurrent
    · exact served_kept hi hf hread halloc h ha

theorem failed_step : SessionInvariant model (s.failed call inp (prepare inp d).1) := by
  refine ⟨fun r => ?_, fun r hcurrent => failed_kept hi hf hread halloc hcurrent⟩
  show (prepare inp d).1.metadata.generation r ≤ s.asks inp r
  obtain ⟨hwritten, hother⟩ := prepare_row inp d r
  by_cases hr : r ∈ writtenBefore inp
  · have hon : inp.active r ≠ 0 := by
      rw [(writtenBefore_imported hr).2.2]
      decide
    rw [(hwritten hr).generation, Session.asks, if_neg hon]
  · rw [(hother hr).metadata.1, allocResident_metadata halloc]
    exact (hi.generation r).trans (asks_le hf hread r)

end Step

/-- **Every call** keeps every row that holds the generation it was last asked for. -/
theorem session_step {model : GreedyModel} {s : Session} {call : SessionCall} (hi : SessionInvariant model s)
    (hf : Faithful model s call) : SessionInvariant model (s.after call) := by
  unfold Session.after
  cases hread : readInputs call.plat call.inputs with
  | none => exact hi
  | some inp =>
    dsimp only
    cases halloc : allocResident call.plat s.resident with
    | error resident => exact unallocated_step hi hf hread halloc
    | ok d =>
      dsimp only
      rcases hepoch : epoch call.env inp d with ⟨d', status, e⟩
      dsimp only
      by_cases hok : status = .ok
      · subst hok
        rw [if_pos rfl]
        exact served_step hi hf hread halloc hepoch
      · have hfailed : (epoch call.env inp d).2.1 ≠ .ok := by rw [hepoch]; exact hok
        have hd' : d' = (prepare inp d).1 := by
          have h := epoch_failed call.env inp d hfailed
          rw [hepoch] at h
          exact h
        rw [if_neg hok, hd']
        exact failed_step hi hf hread halloc

def SessionStep (s : Session) (call : SessionCall) (s' : Session) : Prop := s' = s.after call

/-- the session after a call that is answered with status OK -/
theorem session_served {s : Session} {call : SessionCall} {inp : Inputs} {e : Emission}
    (hread : readInputs call.plat call.inputs = some inp)
    (he : (proc call.plat call.env s.resident call.inputs).emitted = some e) (hok : e.control 3 = Status.ok.code) :
    ∃ d d', allocResident call.plat s.resident = .ok d ∧ epoch call.env inp d = (d', .ok, e) ∧
      s.after call = s.served call inp d d' e := by
  obtain ⟨inp', d, hread', halloc, hemission, -⟩ := proc_emitted he
  obtain rfl : inp = inp' := Option.some.inj (hread.symm.trans hread')
  have hstatus : (epoch call.env inp d).2.1 = .ok := by
    rw [hemission, epoch_status] at hok
    exact (Status.code_eq_zero _).1 hok
  have hepoch : epoch call.env inp d = ((epoch call.env inp d).1, .ok, e) :=
    Prod.ext rfl (Prod.ext hstatus hemission.symm)
  refine ⟨d, _, halloc, hepoch, ?_⟩
  unfold Session.after
  rw [hread]
  dsimp only
  rw [halloc]
  dsimp only
  rw [hepoch]
  dsimp only
  rw [if_pos rfl]

/-- what an OK call that is answered tells of an active row -/
structure Answered (model : GreedyModel) (s : Session) (call : SessionCall) (inp : Inputs) (e : Emission) (r : Row) : Prop where
  follows : Follows model.next (s.held call s.resident.metadata inp r ++ [inp.token r]) (e.tokens r)
  /-- a generation that goes on goes on from all it was started from and has generated -/
  stream : ¬Imported inp r → ¬Fresh s.resident.metadata inp r →
    s.held call s.resident.metadata inp r ++ [inp.token r] = s.prompt r ++ s.output r
  output : (s.after call).output r =
    (if Imported inp r ∨ Fresh s.resident.metadata inp r then [] else s.output r) ++ e.tokens r

theorem session_answered {model : GreedyModel} {s : Session} {call : SessionCall} {inp : Inputs} {e : Emission}
    (hi : SessionInvariant model s) (hf : Faithful model s call) (hread : readInputs call.plat call.inputs = some inp)
    (he : (proc call.plat call.env s.resident call.inputs).emitted = some e) (hok : e.control 3 = Status.ok.code) {r : Row}
    (ha : inp.active r ≠ 0) : Answered model s call inp e r := by
  obtain ⟨d, d', halloc, hepoch, hafter⟩ := session_served hread he hok
  have hmetadata := allocResident_metadata halloc
  have hprimed := served_primed hi hf hread halloc hepoch ha
  have hfollows := (epoch_history hf.decoder (hf.table inp hread) hepoch ha hprimed).1
  rw [hmetadata] at hfollows
  refine ⟨hfollows, fun himported hfresh => ?_, ?_⟩
  · rw [← hmetadata] at hfresh ⊢
    obtain ⟨hc, -⟩ := (epoch_continues hepoch ha himported).resolve_right fun h => hfresh h.2
    have htoken := (served_current hi hf hread halloc ha hc).token
    rw [← hmetadata, hc.token] at htoken
    unfold Session.held
    rw [if_neg himported, if_neg hfresh]
    exact List.dropLast_append_getLast? _ htoken
  · rw [hafter, ← hmetadata]
    rfl

theorem run_session {model : GreedyModel} {s : Session} (h : Run SessionStep (Faithful model) .fresh s) :
    SessionInvariant model s := by
  refine h.invariant (session_fresh model) fun s call s' hi hstep hf => ?_
  subst hstep
  exact session_step hi hf

/-- **In every run of calls**, refused and failed ones among them, what a row has generated follows what its generation was
started from, and an OK call goes on from there. -/
theorem session_follows {model : GreedyModel} {s : Session} (h : Run SessionStep (Faithful model) .fresh s) :
    (∀ r, s.Current r → Kept model s r) ∧
      ∀ call inp e, Faithful model s call → readInputs call.plat call.inputs = some inp →
        (proc call.plat call.env s.resident call.inputs).emitted = some e → e.control 3 = Status.ok.code →
        ∀ r, inp.active r ≠ 0 → Answered model s call inp e r := by
  have hi := run_session h
  exact ⟨hi.kept, fun call inp e hf hread he hok r ha => session_answered hi hf hread he hok ha⟩

/-! ### Row 0, call after call -/

/-- two more steps of generation 1 on row 0 -/
def rowCall (token position : Int) : SessionCall := ⟨.granted, .echo, rowInputs token position, fun _ => []⟩

theorem rowCall_read (token position : Int) :
    readInputs (rowCall token position).plat (rowCall token position).inputs = some (rowRead token position) :=
  rowInputs_read .granted rfl token position

theorem rowCall_faithful {s : Session} (hasked : s.asked 0 ≤ 1) (token position : Int) :
    Faithful .echo s (rowCall token position) := by
  have hread {inp : Inputs} (h : readInputs (rowCall token position).plat (rowCall token position).inputs = some inp) :
      inp = rowRead token position := Option.some.inj (h.symm.trans (rowCall_read token position))
  refine ⟨fun _ => echo_greedy, fun inp h => ?_, fun inp h r himported => ?_, fun inp h r ha => ?_⟩
  · rw [hread h]
    exact (by decide : ∀ i < 4 * kBlocksPerRequest, (rowRead 0 0).block_table i = i)
  · rw [hread h] at himported
    cases himported.1
  · rw [hread h] at ha ⊢
    match r with
    | 0 => exact hasked
    | 1 | 2 | 3 => exact absurd rfl ha

/-- row 0 has generated `n` tokens from token 12, after a run of calls -/
structure Echoing (s : Session) (n : ℕ) : Prop where
  run : Run SessionStep (Faithful .echo) .fresh s
  asked : s.asked 0 = 1
  current : s.Current 0
  prompt : s.prompt 0 = [12]
  output : s.output 0 = List.replicate n 12

/-- the call of a row that goes on or starts, and echoes token 12, is answered -/
theorem rowCall_answered {s : Session} (h : Run SessionStep (Faithful .echo) .fresh s) (hasked : s.asked 0 ≤ 1) {position : Int}
    (hvalid : Validated (rowRead 12 position))
    (hc : Continues s.resident.metadata (rowRead 12 position) 0 ∨ Starts s.resident.metadata (rowRead 12 position) 0)
    {rest : List Int} (hheld : s.held (rowCall 12 position) s.resident.metadata (rowRead 12 position) 0 ++ [12] = 12 :: rest) :
    ∃ e, (proc .granted .echo s.resident (rowInputs 12 position)).emitted = some e ∧ e.control 3 = Status.ok.code ∧
      Answered .echo s (rowCall 12 position) (rowRead 12 position) e 0 ∧ e.tokens 0 = [12, 12] := by
  have hread := rowCall_read 12 position
  have hon (r : Row) (ha : (rowRead 12 position).active r ≠ 0) : r = 0 := by
    match r with
    | 0 => rfl
    | 1 | 2 | 3 => exact absurd rfl ha
  obtain ⟨e, hemitted, hok⟩ := total_commits echo_total echo_runs (fun _ => rfl) hread hvalid rfl fun r ha => by
    rw [hon r ha]
    exact hc
  have hactive : (rowRead 12 position).active 0 ≠ 0 := one_ne_zero
  have hanswered := session_answered (run_session h) (rowCall_faithful hasked 12 position) hread hemitted hok hactive
  have htokens := echo_follows (hheld ▸ hanswered.follows)
  obtain ⟨d, d', -, hepoch, -⟩ := session_served hread hemitted hok
  have hrow := epoch_row hepoch hactive
  -- an epoch that ended early would have ended with the EOS
  have hexecuted : e.executed 0 = 2 := by
    obtain ⟨hpos, hmax⟩ := hrow.executed
    have hmax : e.executed 0 ≤ 2 := hmax
    by_contra hshort
    have heos := List.mem_of_getLast? (hrow.short (show e.executed 0 < 2 by omega))
    rw [htokens] at heos
    exact absurd (List.eq_of_mem_replicate heos) (by decide : (9 : Int) ≠ (tokenByte 12).toNat)
  rw [e.tokens_length, hexecuted] at htokens
  exact ⟨e, hemitted, hok, hanswered, htokens⟩

/-- what the row holds after it -/
theorem Echoing.after {s : Session} {n : ℕ} (h : Run SessionStep (Faithful .echo) .fresh s) (hasked : s.asked 0 ≤ 1)
    {position : Int} {e : Emission} (hemitted : (proc .granted .echo s.resident (rowInputs 12 position)).emitted = some e)
    (hok : e.control 3 = Status.ok.code) (htokens : e.tokens 0 = [12, 12])
    (hstream : Fresh s.resident.metadata (rowRead 12 position) 0 ∧ n = 0 ∨
      ¬Fresh s.resident.metadata (rowRead 12 position) 0 ∧ s.prompt 0 = [12] ∧ s.output 0 = List.replicate n 12) :
    Echoing (s.after (rowCall 12 position)) (n + 2) := by
  have hread := rowCall_read 12 position
  obtain ⟨d, d', halloc, hepoch, hafter⟩ := session_served hread hemitted hok
  have hrow := epoch_row hepoch (r := 0) one_ne_zero
  have hmetadata := allocResident_metadata halloc
  have himported : ¬Imported (rowRead 12 position) 0 := fun h => by cases h.1
  rw [← hmetadata] at hstream
  refine ⟨h.tail rfl (rowCall_faithful hasked 12 position), ?_, ⟨?_, ?_⟩, ?_, ?_⟩ <;> rw [hafter]
  · rfl
  · exact hrow.valid.trans_ne one_ne_zero
  · exact hrow.generation
  · show (if Imported (rowRead 12 position) 0 then [12]
      else if Fresh d.metadata (rowRead 12 position) 0 then [12] else s.prompt 0) = _
    rw [if_neg himported]
    rcases hstream with ⟨hfresh, -⟩ | ⟨hfresh, hprompt, -⟩
    · exact if_pos hfresh
    · exact (if_neg hfresh).trans hprompt
  · show (if Imported (rowRead 12 position) 0 ∨ Fresh d.metadata (rowRead 12 position) 0 then [] else s.output 0) ++
      e.tokens 0 = _
    rw [htokens]
    rcases hstream with ⟨hfresh, rfl⟩ | ⟨hfresh, -, houtput⟩
    · rw [if_pos (Or.inr hfresh)]
      rfl
    · rw [if_neg (not_or.2 ⟨himported, hfresh⟩), houtput]
      exact (List.replicate_append_replicate (m := 2)).trans rfl

/-- row 0 starts -/
theorem echoing_first : ∃ e, (proc .granted .echo init (rowInputs 12 0)).emitted = some e ∧ e.control 3 = Status.ok.code ∧
    e.tokens 0 = [12, 12] ∧ Echoing (Session.fresh.after (rowCall 12 0)) 2 := by
  have hstarts := oneRow_starts 0 one_ne_zero
  have hfresh : Fresh init.metadata (rowRead 12 0) 0 := by decide
  have hheld : Session.fresh.held (rowCall 12 0) init.metadata (rowRead 12 0) 0 ++ [12] = [12] := by
    unfold Session.held
    rw [if_neg (by decide), if_pos hfresh]
    rfl
  obtain ⟨e, hemitted, hok, -, htokens⟩ := rowCall_answered .refl zero_le_one oneRow_valid (Or.inr hstarts) hheld
  exact ⟨e, hemitted, hok, htokens, Echoing.after .refl zero_le_one hemitted hok htokens (Or.inl ⟨hfresh, rfl⟩)⟩

/-- and goes on -/
theorem Echoing.next {s : Session} {n : ℕ} (h : Echoing s (n + 1)) (hvalid : Validated (rowRead 12 (n + 1 : ℕ))) :
    ∃ e, (proc .granted .echo s.resident (rowInputs 12 (n + 1 : ℕ))).emitted = some e ∧ e.control 3 = Status.ok.code ∧
      Answered .echo s (rowCall 12 (n + 1 : ℕ)) (rowRead 12 (n + 1 : ℕ)) e 0 ∧ e.tokens 0 = [12, 12] ∧
      Echoing (s.after (rowCall 12 (n + 1 : ℕ))) (n + 3) := by
  have hasked : s.asked 0 ≤ 1 := h.asked.le
  have hkept := (run_session h.run).kept 0 h.current
  have hall : s.prompt 0 ++ s.output 0 = List.replicate (n + 1) 12 ++ [12] := by
    rw [h.prompt, h.output, ← List.replicate_succ']
    rfl
  have hgeneration : s.resident.metadata.generation 0 = 1 := h.current.2.trans h.asked
  have hfresh : ¬Fresh s.resident.metadata (rowRead 12 (n + 1 : ℕ)) 0 := fun hfresh => hfresh.2.2 hgeneration
  have hcontinues : Continues s.resident.metadata (rowRead 12 (n + 1 : ℕ)) 0 := by
    have htoken := hkept.token
    have hposition := hkept.position
    have hlength := hkept.length
    rw [hall, List.getLast?_concat, Option.some.injEq] at htoken
    rw [hall, List.length_append, List.length_replicate, List.length_singleton] at hposition
    push_cast at hposition
    have hposition : s.resident.metadata.position 0 = ((n + 1 : ℕ) : Int) := by omega
    exact ⟨hgeneration, h.current.1, htoken.symm, hposition, hlength.trans (congrArg (· + 1) hposition)⟩
  have hheld : s.held (rowCall 12 (n + 1 : ℕ)) s.resident.metadata (rowRead 12 (n + 1 : ℕ)) 0 ++ [12] =
      12 :: List.replicate (n + 1) 12 := by
    unfold Session.held
    rw [if_neg fun himported => (by cases himported.1), if_neg hfresh, hall, List.dropLast_concat, ← List.replicate_succ']
    rfl
  obtain ⟨e, hemitted, hok, hanswered, htokens⟩ := rowCall_answered h.run hasked hvalid (Or.inl hcontinues) hheld
  exact ⟨e, hemitted, hok, hanswered, htokens,
    Echoing.after h.run hasked hemitted hok htokens (Or.inr ⟨hfresh, h.prompt, h.output⟩)⟩

theorem rowRead_valid : Validated (rowRead 12 2) ∧ Validated (rowRead 12 4) := by
  obtain ⟨reasons, h2⟩ : ∃ reasons, validate (rowRead 12 2) = .ok reasons := ⟨_, rfl⟩
  obtain ⟨reasons', h4⟩ : ∃ reasons, validate (rowRead 12 4) = .ok reasons := ⟨_, rfl⟩
  exact ⟨((validate_ok_iff _ _).1 h2).1, ((validate_ok_iff _ _).1 h4).1⟩

/-- row 0 starts and goes on, and is called a third time -/
theorem session_follows_row : ∃ s e, Echoing s 4 ∧ Kept .echo s 0 ∧
    (proc .granted .echo s.resident (rowInputs 12 4)).emitted = some e ∧ e.tokens 0 = [12, 12] ∧
    Answered .echo s (rowCall 12 4) (rowRead 12 4) e 0 := by
  obtain ⟨-, -, -, -, hfirst⟩ := echoing_first
  obtain ⟨-, -, -, -, -, hsecond⟩ := hfirst.next rowRead_valid.1
  obtain ⟨e, hemitted, hok, -, htokens, -⟩ := hsecond.next rowRead_valid.2
  obtain ⟨hkept, hanswered⟩ := session_follows hsecond.run
  exact ⟨_, e, hsecond, hkept 0 hsecond.current, hemitted, htokens, hanswered _ _ e
    (rowCall_faithful hsecond.asked.le 12 4) (rowCall_read 12 4) hemitted hok 0 one_ne_zero⟩

end Cruise.Controller
