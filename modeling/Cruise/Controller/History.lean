/-
The token histories of the resident rows.

The decoder graph is not part of the UDF. What the tokens of an epoch are worth is stated against a model of it:
`GreedyModel` says which token follows a history and which blocks hold the KV rows of one, and `GreedyDecoder` that the
graph computes the one and writes the other, row by row, whatever the other rows hold. Results:
- `epoch_history`: an OK epoch continues the history of every active row, and its blocks hold it afterwards.
- `epoch_blocks`: the blocks of a row that was not active are as they were.
- `echo_greedy`: a decoder that reads what it has written, and its model.
-/
import Cruise.Lib.Follows
import Cruise.Controller.Isolation

namespace Cruise.Controller

open Cruise.Lib

/-! ## A model of the decoder -/

/-- a row's two blocks in every layer of a cache -/
abbrev RowBlocks := Fin 28 → Fin 2 → Fin kBlockBytes → UInt8

structure GreedyModel where
  /-- the token after a history, if its logits are finite -/
  next : List Int → Option Int
  /-- blocks of the key and of the value cache that hold the KV rows of these tokens, in order -/
  holds : RowBlocks → RowBlocks → List Int → Prop
  empty : holds (fun _ _ _ => 0) (fun _ _ _ => 0) []

/-- a row of the caches holds the KV rows of these tokens -/
def GreedyModel.rowHolds (model : GreedyModel) (key value : Mem) (r : Row) (history : List Int) : Prop :=
  model.holds (rowBlocks key r) (rowBlocks value r) history

/-- the row's inputs are for the token after `history` -/
structure Stands (m : ModelInputs) (r : Row) (history : List Int) : Prop where
  active : m.active r ≠ 0
  position : m.position r = history.length
  length : m.length r = history.length + 1
  slot : m.slot r = computeSlot m.block_table r history.length
  room : history.length < kLogicalCapacity

/-- the table the bridge sends -/
def FixedTable (block_table : ℕ → Int) : Prop := ∀ i < 4 * kBlocksPerRequest, block_table i = i

structure GreedyDecoder (model : GreedyModel) (decoder : ModelInputs → ModelReply) : Prop where
  token : ∀ m out, Answers decoder m out → FixedTable m.block_table → ∀ r history, Stands m r history →
    model.rowHolds m.key m.value r history →
    ∀ t, argmaxFinite out.logits r = some t → model.next (history ++ [m.token r]) = some t
  written : ∀ m out, Answers decoder m out → FixedTable m.block_table → ∀ r history, Stands m r history →
    model.rowHolds m.key m.value r history → model.rowHolds out.key out.value r (history ++ [m.token r])
  idle : ∀ m out, Answers decoder m out → FixedTable m.block_table → ∀ r, m.active r = 0 →
    rowBlocks out.key r = rowBlocks m.key r ∧ rowBlocks out.value r = rowBlocks m.value r

/-! ## Blocks that are handed to the decoder -/

/-- blocks are read at offsets of their row -/
theorem rowBlocks_congr {c c' : Mem} {r : Row} (h : ∀ a, layerOf a < kLayers → rowOf a = r → c' a = c a) :
    rowBlocks c' r = rowBlocks c r := by
  funext layer b i
  have hr : r.val < 4 := r.isLt
  have hb : b.val < 2 := b.isLt
  have hblock : r * kBlocksPerRequest + b < 8 := by
    simp only [kBlocksPerRequest]
    omega
  refine h _ ?_ (Fin.ext ?_)
  · rw [(layerOf_block layer hblock i).1]
    exact layer.isLt
  · rw [rowOf_block layer hblock i]
    simp only [kBlocksPerRequest]
    omega

/-- a row's blocks as they are handed to the decoder -/
def preparedBlocks (inp : Inputs) (m : Metadata) (origin : ℕ) (cache : Mem) (r : Row) : RowBlocks :=
  if Fresh m inp r then fun _ _ _ => 0
  else if Imported inp r then importedBlocks inp.payload origin r
  else rowBlocks cache r

theorem rowBlocks_prepared {inp : Inputs} {m : Metadata} {origin : ℕ} {before after : Mem}
    (h : ∀ a, after a = preparedByte inp m origin before a) (r : Row) :
    rowBlocks after r = preparedBlocks inp m origin before r := by
  unfold preparedBlocks
  by_cases hfresh : Fresh m inp r
  · rw [if_pos hfresh]
    exact rowBlocks_congr (c := fun _ => 0) fun a ha hrow => (h a).trans (if_pos ⟨ha, hrow.symm ▸ hfresh⟩)
  rw [if_neg hfresh]
  by_cases himported : Imported inp r
  · rw [if_pos himported]
    have hoverlay := rowBlocks_overlay before inp.payload origin [r] r
    rw [if_pos (List.mem_singleton_self r)] at hoverlay
    rw [← hoverlay]
    refine rowBlocks_congr fun a ha hrow => (h a).trans ?_
    unfold preparedByte
    rw [hrow, if_neg fun hf => hfresh hf.2, if_pos ⟨ha, himported⟩, if_pos ⟨ha, List.mem_singleton_self r⟩]
  · rw [if_neg himported]
    refine rowBlocks_congr fun a _ hrow => (h a).trans ?_
    unfold preparedByte
    rw [hrow, if_neg fun hf => hfresh hf.2, if_neg fun hi => himported hi.2]

/-- the row of a call that is to go on from `history` -/
structure Primed (model : GreedyModel) (inp : Inputs) (d : Device) (r : Row) (history : List Int) : Prop where
  position : inp.position r = history.length
  fresh : Fresh d.metadata inp r → history = []
  imported : Imported inp r →
    model.holds (importedBlocks inp.payload 0 r) (importedBlocks inp.payload (kImportCacheElements * 2) r) history
  held : ¬Imported inp r → ¬Fresh d.metadata inp r → model.rowHolds d.key d.value r history

theorem Primed.holds {model : GreedyModel} {inp : Inputs} {d dp : Device} {loc : Locals} {r : Row} {history : List Int}
    (h : Primed model inp d r history) (hp : Prepared inp d dp loc) : model.rowHolds dp.key dp.value r history := by
  unfold GreedyModel.rowHolds
  rw [rowBlocks_prepared (prepared_key hp), rowBlocks_prepared (prepared_value hp)]
  unfold preparedBlocks
  by_cases hfresh : Fresh d.metadata inp r
  · rw [if_pos hfresh, if_pos hfresh, h.fresh hfresh]
    exact model.empty
  rw [if_neg hfresh, if_neg hfresh]
  by_cases himported : Imported inp r
  · rw [if_pos himported, if_pos himported]
    exact h.imported himported
  · rw [if_neg himported, if_neg himported]
    exact h.held himported hfresh

/-! ## The decode loop -/

/-- what a row has generated so far, and what its blocks hold -/
structure Generated (model : GreedyModel) (inp : Inputs) (r : Row) (history : List Int) (s : Decode) : Prop where
  follows : Follows model.next (history ++ [inp.token r]) (s.emitted r)
  holds : model.rowHolds s.key s.value r (history ++ inp.token r :: s.emitted r).dropLast

section Calls

variable {model : GreedyModel} {env : Env} {inp : Inputs} {r : Row} {history : List Int}

/-- the token a row reads is the last of those it has -/
theorem emitted_last {s : Decode} (hknown : Known inp s) :
    (inp.token r :: s.emitted r).getLast? = some (s.token r) ∧ s.position_values r = inp.position r + (s.emitted r).length := by
  obtain ⟨m, hm⟩ := hknown r
  have hexecuted : s.loc.executed r = m := hm.executed
  have htoken : s.token r = if m = 0 then inp.token r else s.column r (m - 1) := hm.token
  have hposition : s.position_values r = inp.position r + m := hm.position
  unfold Decode.emitted
  rw [hexecuted, Int.toNat_natCast, List.length_map, List.length_range, htoken]
  refine ⟨?_, hposition⟩
  cases m with
  | zero => rfl
  | succ m =>
    rw [List.range_succ, List.map_append, List.map_singleton, ← List.cons_append, List.getLast?_append]
    rfl

/-- **One decoder call** continues the history of a row. -/
theorem callStep_history (hg : ∀ n, GreedyDecoder model (env.run_flow_model n)) (htable : FixedTable inp.block_table)
    {s s' : Decode} {out : DecoderOutputs} (hc : CallStep env inp s out s') (hknown : Known inp s)
    (hposition : s.position = s.position_values) (hrange : InRange inp s r) (hroom : s.position_values r < kLogicalCapacity)
    (hvalid : Validated inp) (hon : inp.active r ≠ 0) (hstart : inp.position r = history.length)
    (h : Generated model inp r history s) : Generated model inp r history s' := by
  have hanswers : Answers (env.run_flow_model s.loc.model_calls) (s.modelInputs inp) out := ⟨hc.reply, hc.outputs⟩
  have hdecoder := hg s.loc.model_calls
  by_cases hactive : s.active r = 0
  · obtain ⟨hkey, hvalue⟩ := hdecoder.idle _ _ hanswers htable r hactive
    refine ⟨?_, ?_⟩
    · rw [callStep_emitted_idle hc hknown hactive]
      exact h.follows
    · rw [callStep_emitted_idle hc hknown hactive, hc.key, hc.value]
      unfold GreedyModel.rowHolds
      rw [hkey, hvalue]
      exact h.holds
  · obtain ⟨t, htoken, -⟩ := callStep_generate hc hactive
    obtain ⟨hlast, hcount⟩ := emitted_last hknown
    have hne : history ++ inp.token r :: s.emitted r ≠ [] := by simp
    have hsnoc : (history ++ inp.token r :: s.emitted r).dropLast ++ [s.token r] = history ++ inp.token r :: s.emitted r := by
      refine List.dropLast_append_getLast? _ ?_
      rw [List.getLast?_append, hlast]
      rfl
    have hlength : ((history ++ inp.token r :: s.emitted r).dropLast.length : Int) = s.position_values r := by
      rw [List.length_dropLast, List.length_append, List.length_cons, hcount, hstart]
      omega
    have hrow : ValidRow inp r := hvalid.row r
    have hstands : Stands (s.modelInputs inp) r (history ++ inp.token r :: s.emitted r).dropLast := by
      refine ⟨hactive, ?_, ?_, ?_, ?_⟩
      · rw [hlength]
        exact congrFun hposition r
      · obtain ⟨m, hm⟩ := hknown r
        have hmlength : s.length r = if m = 0 then inp.length r else s.position_values r + 1 := hm.length
        have hmposition : s.position_values r = inp.position r + m := hm.position
        rw [hlength]
        show s.length r = s.position_values r + 1
        rw [hmlength]
        split_ifs with hzero
        · have hlen := (hrow.running (hrow.active.resolve_left hon)).length
          omega
        · rfl
      · rw [hlength]
        show s.slot r = computeSlot inp.block_table r (s.position_values r)
        rw [computeSlot_eq hvalid.block_table r hrange.position.1 hroom, hrange.slot, if_neg hroom.ne]
      · have hroom : (((history ++ inp.token r :: s.emitted r).dropLast.length : ℕ) : Int) < (kLogicalCapacity : ℕ) :=
          hlength ▸ hroom
        exact_mod_cast hroom
    have hnext := hdecoder.token _ _ hanswers htable r _ hstands h.holds t htoken
    have hwritten := hdecoder.written _ _ hanswers htable r _ hstands h.holds
    have htok : (s.modelInputs inp).token r = s.token r := rfl
    rw [htok, hsnoc] at hnext hwritten
    have hemitted : s'.emitted r = s.emitted r ++ [t] := callStep_emitted hc hknown hactive htoken
    refine ⟨?_, ?_⟩
    · rw [hemitted]
      refine h.follows.snoc ?_
      rwa [List.append_assoc, List.singleton_append]
    · rw [hemitted, ← List.cons_append, ← List.append_assoc, List.dropLast_concat, hc.key, hc.value]
      exact hwritten

/-- the history of a row before every call of an epoch -/
theorem calls_history_kept (hg : ∀ n, GreedyDecoder model (env.run_flow_model n)) (htable : FixedTable inp.block_table)
    {d dp : Device} {loc : Locals} (hp : Prepared inp d dp loc) {finish : Decode} {n : ℕ} {state : ℕ → Decode}
    {out : ℕ → DecoderOutputs} (hn : n ≤ inp.max_steps.toNat) (hc : Calls env inp (Decode.start dp inp loc) finish n state out)
    (hon : inp.active r ≠ 0) (hprimed : Primed model inp d r history) {k : ℕ} (hk : k ≤ n) :
    Generated model inp r history (state k) := by
  obtain ⟨hzero, hstart⟩ := prepared_start hp
  induction k with
  | zero =>
    rw [hc.first]
    have hnone : (Decode.start dp inp loc).emitted r = [] := by
      obtain ⟨checksum, -, hloc⟩ := hp.locals
      show (List.range (loc.executed r).toNat).map _ = []
      rw [hloc]
      rfl
    refine ⟨?_, ?_⟩
    · rw [hnone]
      exact .nil
    · rw [hnone, List.dropLast_concat]
      exact hprimed.holds hp
  | succ k ih =>
    have hkn : k ≤ n := Nat.le_of_succ_le hk
    have hposition : (state k).position = (state k).position_values := by
      cases k with
      | zero =>
        rw [hc.first]
        rfl
      | succ k => exact callStep_position (hc.call k hkn)
    obtain ⟨hrange, hroom⟩ := calls_range hp.validated hn hc hzero hstart hkn r
    exact callStep_history hg htable (hc.call k hk) (calls_known hc hstart hkn) hposition hrange (hroom hk)
      hp.validated hon hprimed.position (ih hkn)

/-- a row that is not active keeps its blocks -/
theorem calls_blocks (hg : ∀ n, GreedyDecoder model (env.run_flow_model n)) (htable : FixedTable inp.block_table)
    {start finish : Decode} {n : ℕ} {state : ℕ → Decode} {out : ℕ → DecoderOutputs} (hc : Calls env inp start finish n state out)
    (hidle : start.active r = 0) {k : ℕ} (hk : k ≤ n) :
    rowBlocks (state k).key r = rowBlocks start.key r ∧ rowBlocks (state k).value r = rowBlocks start.value r := by
  induction k with
  | zero =>
    rw [hc.first]
    exact ⟨rfl, rfl⟩
  | succ k ih =>
    have hkn : k ≤ n := Nat.le_of_succ_le hk
    have hcall := hc.call k hk
    have hstill : (state k).active r = 0 :=
      (congrArg RowView.active (calls_stopped hc (Nat.zero_le k) hkn (hc.first.symm ▸ hidle))).trans (hc.first.symm ▸ hidle)
    obtain ⟨hkey, hvalue⟩ := (hg _).idle _ _ ⟨hcall.reply, hcall.outputs⟩ htable r hstill
    obtain ⟨hkey', hvalue'⟩ := ih hkn
    rw [hcall.key, hcall.value]
    exact ⟨hkey.trans hkey', hvalue.trans hvalue'⟩

end Calls

/-! ## An OK epoch -/

section Epoch

variable {model : GreedyModel} {env : Env} {inp : Inputs} {d d' : Device} {e : Emission} {r : Row}

/-- an active row that neither was imported nor starts a generation goes on with the one it holds -/
theorem epoch_continues (h : epoch env inp d = (d', .ok, e)) (ha : inp.active r ≠ 0) (himported : ¬Imported inp r) :
    Continues d.metadata inp r ∧ ¬Fresh d.metadata inp r ∨ Starts d.metadata inp r ∧ Fresh d.metadata inp r := by
  have hok : (epoch env inp d).2.1 = .ok := by rw [h]
  obtain ⟨dp, loc, n, s, hp, -⟩ := epoch_ok hok
  obtain ⟨checksum, himport, -⟩ := hp.locals
  obtain ⟨ng, hng, -⟩ := hp.continuity
  have hsame : d.metadata.SameRow (importPhase inp d).1.metadata r := by
    have hnot := mt (imported_iff himport r).1 himported
    rw [importPhase_device]
    exact ⟨if_neg hnot, if_neg hnot, if_neg hnot, if_neg hnot, if_neg hnot⟩
  obtain ⟨hgeneration, htoken, hposition, hlength, hvalid⟩ := hsame
  rcases (continuity_iff _ inp).1 ⟨ng, hng⟩ r ha with hc | hs
  · have hheld := hgeneration.symm.trans hc.generation
    exact Or.inl ⟨⟨hheld, hvalid ▸ hc.valid, htoken.symm.trans hc.token, hposition.symm.trans hc.position,
      hlength.symm.trans hc.length⟩, fun hf => hf.2.2 hheld⟩
  · have hother : d.metadata.generation r ≠ inp.row_generation r := hgeneration ▸ hs.generation
    exact Or.inr ⟨⟨hother, hs.position, hs.length⟩, ha, himported, hother⟩

/-- **An OK epoch continues the history** of every active row, and its blocks hold it afterwards, the last token aside. -/
theorem epoch_history (hg : ∀ n, GreedyDecoder model (env.run_flow_model n)) (htable : FixedTable inp.block_table)
    (h : epoch env inp d = (d', .ok, e)) (ha : inp.active r ≠ 0) {history : List Int} (hprimed : Primed model inp d r history) :
    Follows model.next (history ++ [inp.token r]) (e.tokens r) ∧
      model.rowHolds d'.key d'.value r (history ++ inp.token r :: e.tokens r).dropLast := by
  have hok : (epoch env inp d).2.1 = .ok := by rw [h]
  obtain ⟨dp, loc, n, s, hp, hn, hs, -, heq⟩ := epoch_ok hok
  rw [h] at heq
  obtain ⟨rfl, he⟩ := Prod.mk.inj heq
  have he := (Prod.mk.inj he).2
  obtain ⟨state, out, hc⟩ := steps_states hs
  have hgenerated := calls_history_kept hg htable hp hn hc ha hprimed (le_refl n)
  rw [hc.last] at hgenerated
  have htokens : e.tokens r = s.emitted r := by
    have hexecuted : e.executed r = s.loc.executed r := by
      rw [he]
      exact emit_executed inp _ .ok s.active r
    unfold Emission.tokens Decode.emitted
    rw [hexecuted, he]
    rfl
  rw [htokens]
  exact ⟨hgenerated.follows, hgenerated.holds⟩

/-- **The blocks of a row that was not active** are as they were. -/
theorem epoch_blocks (hg : ∀ n, GreedyDecoder model (env.run_flow_model n)) (htable : FixedTable inp.block_table)
    (h : epoch env inp d = (d', .ok, e)) (ha : inp.active r = 0) :
    rowBlocks d'.key r = rowBlocks d.key r ∧ rowBlocks d'.value r = rowBlocks d.value r := by
  have hok : (epoch env inp d).2.1 = .ok := by rw [h]
  obtain ⟨dp, loc, n, s, hp, -, hs, -, heq⟩ := epoch_ok hok
  rw [h] at heq
  obtain ⟨rfl, -⟩ := Prod.mk.inj heq
  obtain ⟨state, out, hc⟩ := steps_states hs
  obtain ⟨hkey, hvalue⟩ := calls_blocks hg htable hc (r := r) ha (le_refl n)
  rw [hc.last] at hkey hvalue
  have hfresh : ¬Fresh d.metadata inp r := fun hf => hf.1 ha
  have himported : ¬Imported inp r := by
    obtain ⟨checksum, himport, -⟩ := hp.locals
    intro hi
    have hon := (importWritten_active inp ((imported_iff himport r).2 hi)).2
    rw [ha] at hon
    cases hon
  have hprepared {origin : ℕ} {cache : Mem} : preparedBlocks inp d.metadata origin cache r = rowBlocks cache r := by
    unfold preparedBlocks
    rw [if_neg hfresh, if_neg himported]
  exact ⟨hkey.trans ((rowBlocks_prepared (prepared_key hp) r).trans hprepared),
    hvalue.trans ((rowBlocks_prepared (prepared_value hp) r).trans hprepared)⟩

end Epoch

/-! ## A decoder that echoes

The KV row it writes of a token is the token's low byte, and the token it finds is the low byte of the row's first token,
which it reads back from the key cache. -/

def tokenByte (token : Int) : UInt8 := UInt8.ofNat (token % 256).toNat

/-- the first byte of the KV row at a position of a block -/
def kvRow (p : ℕ) : Fin kBlockBytes := ⟨p * 1024 % kBlockBytes, Nat.mod_lt _ kBlockBytes_pos⟩

/-- and of the KV row in a slot of a cache -/
def slotByte (slot : Int) : ℕ := slot.toNat * 1024

theorem firstLayer : 0 < 28 := by decide

theorem firstBlock : 0 < 2 := by decide

def HoldsBytes (key : RowBlocks) (history : List Int) : Prop :=
  ∀ p token, history[p]? = some token → key ⟨0, firstLayer⟩ ⟨0, firstBlock⟩ (kvRow p) = tokenByte token

theorem holdsBytes_nil (key : RowBlocks) : HoldsBytes key [] := by
  intro p token h
  cases h

def GreedyModel.echo : GreedyModel where
  next := fun history => history.head?.map fun token => ((tokenByte token).toNat : Int)
  holds := fun key _ history => HoldsBytes key history
  empty := holdsBytes_nil _

/-- the byte of the row's first token -/
def firstByte (m : ModelInputs) (r : Row) : UInt8 :=
  if m.position r = 0 then tokenByte (m.token r) else m.key (slotByte (computeSlot m.block_table r 0))

def echo (m : ModelInputs) : ModelReply :=
  replying m (hotLogits fun r => (firstByte m r).toNat)
    (fun a => if m.active (rowOf a) ≠ 0 ∧ a = slotByte (m.slot (rowOf a)) then tokenByte (m.token (rowOf a)) else m.key a)
    m.value

section Echo

variable {m : ModelInputs} {out : DecoderOutputs} {r : Row}

theorem echo_token (h : Answers echo m out) (r : Row) :
    argmaxFinite out.logits r = some ((firstByte m r).toNat : Int) := by
  obtain rfl := (replying_answers rfl out).1 h
  have hbyte : (firstByte m r).toNat < kVocabSize := (firstByte m r).toNat_lt.trans (by decide)
  exact argmaxFinite_hot (fun r => (firstByte m r).toNat) hbyte

theorem echo_total : Total echo where
  answers := fun m => by
    have h : Answers echo m _ := (replying_answers rfl _).2 rfl
    exact ⟨_, h, rfl, fun r _ => ⟨_, echo_token h r⟩⟩

/-- the slot of a position, under the table of the bridge -/
theorem computeSlot_fixed {block_table : ℕ → Int} (h : FixedTable block_table) (r : Row) {p : ℕ} (hp : p < kLogicalCapacity) :
    computeSlot block_table r p = ((r * kBlocksPerRequest * kBlockSize + p : ℕ) : Int) := by
  have hr : r.val < 4 := r.isLt
  have hlt : p < 8 := hp
  have hblock : (p : Int) / (kBlockSize : ℕ) = 0 := Int.ediv_eq_zero_of_lt (by omega) (by simp only [kBlockSize]; omega)
  have hoffset : (p : Int) % (kBlockSize : ℕ) = p := Int.emod_eq_of_lt (by omega) (by simp only [kBlockSize]; omega)
  have hentry := h (r * kBlocksPerRequest) (by simp only [kBlocksPerRequest]; omega)
  unfold computeSlot
  rw [if_neg (by simp only [kLogicalCapacity]; omega)]
  simp only [hblock, hoffset, Int.toNat_zero, Nat.add_zero, hentry]
  rw [if_neg (by simp only [kBlocksPerRequest]; omega), if_neg (by simp only [kBlocksPerRequest, kPhysicalBlocks]; omega)]
  push_cast
  rfl

/-- a KV row lies in the first block of its row -/
theorem slotByte_fixed {block_table : ℕ → Int} (h : FixedTable block_table) (r : Row) {p : ℕ} (hp : p < kLogicalCapacity) :
    slotByte (computeSlot block_table r p) = (0 * kPhysicalBlocks + r * kBlocksPerRequest) * kBlockBytes + kvRow p := by
  have hlt : p < 8 := hp
  have hrow : (kvRow p).val = p * 1024 := Nat.mod_eq_of_lt (by simp only [kBlockBytes]; omega)
  rw [computeSlot_fixed h r hp, slotByte, Int.toNat_natCast, hrow]
  simp only [kBlocksPerRequest, kBlockSize, kBlockBytes, kPhysicalBlocks]
  omega

theorem slotByte_rowOf {block_table : ℕ → Int} (h : FixedTable block_table) (r : Row) {p : ℕ} (hp : p < kLogicalCapacity) :
    rowOf (slotByte (computeSlot block_table r p)) = r := by
  have hr : r.val < 4 := r.isLt
  rw [slotByte_fixed h r hp]
  refine Fin.ext ((rowOf_block 0 (by simp only [kBlocksPerRequest]; omega) (kvRow p)).trans ?_)
  simp only [kBlocksPerRequest]
  omega

theorem rowBlocks_slot {block_table : ℕ → Int} (h : FixedTable block_table) (c : Mem) (r : Row) {p : ℕ}
    (hp : p < kLogicalCapacity) :
    rowBlocks c r ⟨0, firstLayer⟩ ⟨0, firstBlock⟩ (kvRow p) = c (slotByte (computeSlot block_table r p)) := by
  rw [slotByte_fixed h r hp]
  rfl

theorem slotByte_inj {block_table : ℕ → Int} (h : FixedTable block_table) (r : Row) {p q : ℕ} (hp : p < kLogicalCapacity)
    (hq : q < kLogicalCapacity) (heq : slotByte (computeSlot block_table r p) = slotByte (computeSlot block_table r q)) : p = q := by
  rw [computeSlot_fixed h r hp, computeSlot_fixed h r hq, slotByte, slotByte, Int.toNat_natCast, Int.toNat_natCast] at heq
  omega

theorem echo_greedy : GreedyDecoder .echo echo where
  token := by
    intro m out h htable r history hs hheld t ht
    rw [echo_token h, Option.some.injEq] at ht
    subst ht
    show ((history ++ [m.token r]).head?.map fun token => ((tokenByte token).toNat : Int)) = _
    unfold firstByte
    cases history with
    | nil =>
      have hzero : m.position r = 0 := hs.position
      rw [if_pos hzero]
      rfl
    | cons first history =>
      have hpos : m.position r ≠ 0 := by
        rw [hs.position, List.length_cons]
        omega
      have hfirst := hheld 0 first rfl
      rw [rowBlocks_slot htable m.key r (by decide)] at hfirst
      rw [if_neg hpos]
      exact congrArg (fun byte : UInt8 => some (byte.toNat : Int)) hfirst.symm
  written := by
    intro m out h htable r history hs hheld p token hp
    obtain rfl := (replying_answers rfl out).1 h
    have hroom := hs.room
    have hlt : p < (history ++ [m.token r]).length := (List.getElem?_eq_some_iff.1 hp).1
    rw [List.length_append, List.length_singleton] at hlt
    rw [rowBlocks_slot htable _ r (by omega)]
    dsimp only
    rw [slotByte_rowOf htable r (by omega), hs.slot]
    by_cases hlast : p = history.length
    · subst hlast
      rw [List.getElem?_concat_length, Option.some.injEq] at hp
      rw [if_pos ⟨hs.active, rfl⟩, hp]
    · rw [List.getElem?_append_left (by omega)] at hp
      rw [if_neg fun hslot => hlast (slotByte_inj htable r (by omega) hroom hslot.2), ← rowBlocks_slot htable m.key r (by omega)]
      exact hheld p token hp
  idle := by
    intro m out h _ r hidle
    obtain rfl := (replying_answers rfl out).1 h
    refine ⟨rowBlocks_congr fun a _ hrow => if_neg ?_, rfl⟩
    rw [hrow]
    exact fun hwritten => hwritten.1 hidle

/-- what follows a history that is not empty repeats its first token's byte -/
theorem echo_follows {first : Int} {history tokens : List Int} (h : Follows GreedyModel.echo.next (first :: history) tokens) :
    tokens = List.replicate tokens.length ((tokenByte first).toNat : Int) := by
  induction tokens generalizing history with
  | nil => rfl
  | cons token tokens ih =>
    obtain ⟨htoken, hrest⟩ := follows_cons.1 h
    obtain rfl := Option.some.inj htoken
    rw [List.length_cons, List.replicate_succ, ← ih hrest]

end Echo

/-- surroundings in which it runs -/
def Env.echo : Env := ⟨fun _ => true, fun _ => Controller.echo, fun _ => FLOW_FUNC_SUCCESS⟩

theorem echo_runs : Runs .echo echo := ⟨fun _ _ => rfl, fun _ => rfl⟩

end Cruise.Controller
