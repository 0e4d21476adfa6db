/-
Failed calls of the Device UDF.

Everything before the first decoder call is a function of the inputs written over the resident state, so running it
twice is running it once (`prepare_idem`); and a call that fails inside the decode loop commits nothing. Results:
- `failed_call_retry`: after a call that emitted a non-OK status, the same inputs give, with any decoder, the outcome
  they would have given had the failed call never happened.
- `fallback_preserves_iff`: a refusal before the first decoder call leaves every row as it was exactly when each row
  written by the import loop before the refusal already held what was written.
- `import_then_refused`: the loop writes in place, so a row refused later leaves an earlier row overwritten.
-/
import Cruise.Controller.Blocks

namespace Cruise.Controller

open Cruise.Lib

/-! ## The phases before the decode loop -/

/-- the rows an import writes, whatever becomes of it -/
def importWritten (inp : Inputs) : List Row :=
  if inp.importing = false then []
  else if inp.import_mask.toInt ≤ 0 ∨ inp.import_mask.toInt ≥ 16 then []
  else (writtenRows inp rows).1

theorem importPhase_device (inp : Inputs) (d : Device) : (importPhase inp d).1 = overlay inp d (importWritten inp) := by
  unfold importPhase importWritten
  split_ifs with h1 h2
  · exact (overlay_nil inp d).symm
  · exact (overlay_nil inp d).symm
  · rw [importRows_eq]
    cases (writtenRows inp rows).2 <;> rfl

/-- importing into a device that already holds the import changes nothing and ends the same way -/
theorem importPhase_absorb (inp : Inputs) (d d' : Device) (h : overlay inp d' (importWritten inp) = d') :
    importPhase inp d' = (d', (importPhase inp d).2) := by
  refine Prod.ext ((importPhase_device inp d').trans h) ?_
  unfold importPhase
  unfold importWritten at h
  split_ifs with h1 h2
  · rfl
  · rfl
  · rw [if_neg h1, if_neg h2] at h
    rw [importRows_eq, importRows_eq, h]
    cases hres : (writtenRows inp rows).2 with
    | error status => rfl
    | ok u =>
      -- the checksum reads masked blocks, and all of them were written
      have hmem (a : ℕ) (hm : masked inp (rowOf a) = true) : rowOf a ∈ (writtenRows inp rows).1 :=
        (writtenRows_ok inp rows hres _).2 ⟨mem_rows _, hm⟩
      refine congrArg Except.ok (importChecksum_congr inp (fun a hl hm => ?_) fun a hl hm => ?_)
      · rw [← h]
        simp only [overlay, hl, hmem a hm, and_self, if_true]
      · rw [← h]
        simp only [overlay, hl, hmem a hm, and_self, if_true]

theorem importWritten_active (inp : Inputs) {r : Row} (h : r ∈ importWritten inp) :
    masked inp r = true ∧ inp.active r = 1 := by
  unfold importWritten at h
  split_ifs at h
  · cases h
  · cases h
  · exact (writtenRows_masked inp rows h).2

theorem continuity_ok (m : Metadata) (inp : Inputs) (ng : Row → Bool) :
    continuity m inp = .ok ng ↔ ∀ r, continuityRow m inp r = .ok (ng r) := by
  have h := foldlM_update_ok (fun r _ => continuityRow m inp r) rows rows_nodup (fun _ => false) ng
  simp only [mem_rows, true_implies, not_true_eq_false, false_implies, implies_true, and_true] at h
  exact h

/-- a row starts a new generation only if it holds another one -/
theorem continuityRow_fresh (m : Metadata) (inp : Inputs) (r : Row) (h : continuityRow m inp r = .ok true) :
    m.generation r ≠ inp.row_generation r := by
  intro hg
  unfold continuityRow at h
  split_ifs at h <;> cases h

theorem prepare_idem (inp : Inputs) (d : Device) : prepare inp (prepare inp d).1 = prepare inp d := by
  unfold prepare
  cases hv : validate inp with
  | error status => rfl
  | ok finish_reason =>
    have hd := importPhase_device inp d
    have habsorb := importPhase_absorb inp d
    have hover := overlay_idem inp d (importWritten inp)
    generalize hW : importWritten inp = W at hd habsorb hover
    rcases hi : importPhase inp d with ⟨d1, res⟩
    rw [hi] at hd habsorb
    simp only at hd habsorb
    subst hd
    have hagain := habsorb (overlay inp d W) hover
    cases res with
    | error status => simp only [hagain]
    | ok checksum =>
      simp only
      cases hc : continuity (overlay inp d W).metadata inp with
      | error status => simp only [hagain, hc]
      | ok ng =>
        -- imported rows hold the plan's generation, so none of them is cleared
        have hng (r : Row) (hr : r ∈ W) : ng r = false := by
          cases h : ng r with
          | false => rfl
          | true =>
            have := continuityRow_fresh _ inp r (((continuity_ok _ inp ng).1 hc r).trans (congrArg _ h))
            simp [overlay, hr] at this
        have hkeep : overlay inp (clearRows (overlay inp d W) ng) W = clearRows (overlay inp d W) ng := by
          ext a
          · simp only [overlay, clearRows_key]
            split_ifs with h1 h2 <;> simp_all
          · simp only [overlay, clearRows_value]
            split_ifs with h1 h2 <;> simp_all
          all_goals simp only [overlay, clearRows_metadata]; split_ifs <;> rfl
        have hclear : importPhase inp (clearRows (overlay inp d W) ng) =
            (clearRows (overlay inp d W) ng, .ok checksum) := habsorb _ hkeep
        simp only [hclear, clearRows_metadata, hc, clearRows_idem]

/-! ## Retrying a failed call -/

theorem epoch_failed (env : Env) (inp : Inputs) (d : Device) (h : (epoch env inp d).2.1 ≠ .ok) :
    (epoch env inp d).1 = (prepare inp d).1 := by
  unfold epoch at h ⊢
  rcases hp : prepare inp d with ⟨d', ⟨status, loc⟩ | loc⟩
  · rfl
  · simp only [hp] at h ⊢
    rcases hl : decodeLoop env inp inp.max_steps.toNat (Decode.start d' inp loc) with ⟨status, loc'⟩ | s
    · rfl
    · simp [hl] at h

theorem epoch_retry (env₁ env₂ : Env) (inp : Inputs) (d : Device) (h : (epoch env₁ inp d).2.1 ≠ .ok) :
    epoch env₂ inp (epoch env₁ inp d).1 = epoch env₂ inp d := by
  rw [epoch_failed env₁ inp d h]
  unfold epoch
  rw [prepare_idem]

theorem epoch_status (env : Env) (inp : Inputs) (d : Device) :
    (epoch env inp d).2.2.control 3 = (epoch env inp d).2.1.code := by
  unfold epoch
  rcases prepare inp d with ⟨d', ⟨status, loc⟩ | loc⟩
  · rfl
  · simp only
    rcases decodeLoop env inp inp.max_steps.toNat (Decode.start d' inp loc) with ⟨status, loc'⟩ | s <;> rfl

/-- what an emission tells about the call -/
theorem proc_emitted {plat : Platform} {env : Env} {s : Resident} {inputs : List (Option FlowMsg)} {o : Emission}
    (h : (proc plat env s inputs).emitted = some o) :
    ∃ inp d, readInputs plat inputs = some inp ∧ allocResident plat s = .ok d ∧ o = (epoch env inp d).2.2 ∧
      (proc plat env s inputs).resident = (epoch env inp d).1.toResident := by
  unfold proc at h ⊢
  cases hr : readInputs plat inputs with
  | none => simp [hr] at h
  | some inp =>
    cases ha : allocResident plat s with
    | error s' => simp [hr, ha] at h
    | ok d =>
      simp only [hr, ha] at h ⊢
      split_ifs at h ⊢
      exact ⟨inp, d, rfl, rfl, (Option.some.inj h).symm, rfl⟩

/-- **A failed epoch is retry-safe.** After a call that emitted a non-OK status, submitting the same inputs gives, with
any decoder, the return code, the emission and the members that the second call alone would have given. -/
theorem failed_call_retry (plat : Platform) (env₁ env₂ : Env) (s : Resident) (inputs : List (Option FlowMsg))
    (o : Emission) (he : (proc plat env₁ s inputs).emitted = some o) (hs : o.control 3 ≠ Status.ok.code) :
    proc plat env₂ (proc plat env₁ s inputs).resident inputs = proc plat env₂ s inputs := by
  obtain ⟨inp, d, hr, ha, rfl, hres⟩ := proc_emitted he
  have hfail : (epoch env₁ inp d).2.1 ≠ .ok := fun h => hs (by rw [epoch_status, h])
  have halloc : allocResident plat (epoch env₁ inp d).1.toResident = .ok (epoch env₁ inp d).1 := rfl
  rw [hres]
  unfold proc
  simp only [hr, ha, halloc, epoch_retry env₁ env₂ inp d hfail]

/-! ## Refusals before the first decoder call -/

/-- what no row of a call changes of the accumulators -/
structure Unrecorded {α : Type} (π : Locals → α) : Prop where
  token : ∀ loc r t, π (recordToken loc r t) = π loc
  reason : ∀ loc finish_reason, π { loc with finish_reason := finish_reason } = π loc

theorem unrecorded_calls : Unrecorded Locals.model_calls := ⟨fun _ _ _ => rfl, fun _ _ => rfl⟩

theorem unrecorded_checksum : Unrecorded Locals.import_checksum := ⟨fun _ _ _ => rfl, fun _ _ => rfl⟩

section Unrecorded

variable {α : Type} {π : Locals → α} (hπ : Unrecorded π)

include hπ

theorem advanceRow_keeps (inp : Inputs) (w : RowWrites) (r : Row) (t p : Int) :
    π (advanceRow inp w r t p).loc = π w.loc := by
  simp only [advanceRow]
  split_ifs
  · exact (hπ.reason _ _).trans (hπ.token _ _ _)
  · exact hπ.token _ _ _

theorem decodeRow_keeps (inp : Inputs) (out : DecoderOutputs) (active : Row → Int) (w : RowWrites) (r : Row) :
    (∀ w', decodeRow inp out active w r = .ok w' → π w'.loc = π w.loc) ∧
      ∀ e, decodeRow inp out active w r = .error e → π e.2 = π w.loc := by
  unfold decodeRow
  cases argmaxFinite out.logits r with
  | none =>
    simp only
    split_ifs
    · exact ⟨fun w' h => (by cases h), fun e h => by cases h; rfl⟩
    · exact ⟨fun w' h => by cases h; rfl, fun e h => (by cases h)⟩
    · exact ⟨fun w' h => (by cases h), fun e h => by cases h; rfl⟩
  | some t =>
    simp only
    split_ifs
    · exact ⟨fun w' h => (by cases h), fun e h => by cases h; rfl⟩
    · exact ⟨fun w' h => by cases h; rfl, fun e h => (by cases h)⟩
    · exact ⟨fun w' h => (by cases h), fun e h => by cases h; rfl⟩
    · exact ⟨fun w' h => (by cases h), fun e h => by cases h; exact hπ.token _ _ _⟩
    · exact ⟨fun w' h => by cases h; exact advanceRow_keeps hπ inp w r t _, fun e h => (by cases h)⟩

/-- a call that fails has been counted, and nothing else is lost of it -/
theorem decodeStep_keeps (env : Env) (inp : Inputs) (s : Decode) :
    (∀ s', decodeStep env inp s = .ok s' → π s'.loc = π s.rowWrites.loc) ∧
      ∀ e, decodeStep env inp s = .error e → π e.2 = π s.rowWrites.loc := by
  unfold decodeStep
  cases ho : decoderOutputs (env.run_flow_model s.loc.model_calls (s.modelInputs inp)).outputs with
  | none =>
    simp only [ho]
    split_ifs
    · exact ⟨fun s' h => (by cases h), fun e h => by cases h; rfl⟩
    · exact ⟨fun s' h => (by cases h), fun e h => by cases h; rfl⟩
  | some out =>
    simp only [ho]
    split_ifs
    · exact ⟨fun s' h => (by cases h), fun e h => by cases h; rfl⟩
    · exact ⟨fun s' h => (by cases h), fun e h => by cases h; rfl⟩
    · refine ⟨fun s' h => ?_, fun e h => ?_⟩
      · obtain ⟨w, hw, h⟩ := except_bind_ok.1 h
        cases h
        exact foldlM_inv (decodeRow inp out s.active) (fun _ w => π w.loc = π s.rowWrites.loc) rows
          (fun _ r _ w w' _ hw hr => ((decodeRow_keeps hπ inp out s.active w r).1 w' hr).trans hw) rfl hw
      · rcases except_bind_error.1 h with h | ⟨w, -, h⟩
        · exact foldlM_error (decodeRow inp out s.active) (fun w => π w.loc = π s.rowWrites.loc)
            (fun e => π e.2 = π s.rowWrites.loc)
            (fun w r w' hw hr => ((decodeRow_keeps hπ inp out s.active w r).1 w' hr).trans hw)
            (fun w r e hw hr => ((decodeRow_keeps hπ inp out s.active w r).2 e hr).trans hw) rows rfl h
        · cases h

end Unrecorded

/-- the checksum of an import is never written again -/
theorem decodeLoop_checksum (env : Env) (inp : Inputs) (fuel : ℕ) (s : Decode) :
    (∀ s', decodeLoop env inp fuel s = .ok s' → s'.loc.import_checksum = s.loc.import_checksum) ∧
      ∀ e, decodeLoop env inp fuel s = .error e → e.2.import_checksum = s.loc.import_checksum := by
  induction fuel generalizing s with
  | zero => exact ⟨fun s' h => by cases h; rfl, fun e h => by cases h⟩
  | succ fuel ih =>
    obtain ⟨hok, herror⟩ := decodeStep_keeps unrecorded_checksum env inp s
    unfold decodeLoop
    split_ifs
    · exact ⟨fun s' h => by cases h; rfl, fun e h => by cases h⟩
    refine ⟨fun s' h => ?_, fun e h => ?_⟩
    · obtain ⟨s₁, hs₁, h⟩ := except_bind_ok.1 h
      exact ((ih s₁).1 s' h).trans (hok s₁ hs₁)
    · rcases except_bind_error.1 h with h | ⟨s₁, hs₁, h⟩
      · exact herror e h
      · exact ((ih s₁).2 e h).trans (hok s₁ hs₁)

/-- a decode loop that fails has called the decoder -/
theorem decodeLoop_failed (env : Env) (inp : Inputs) (fuel : ℕ) (s : Decode) (e : Status × Locals)
    (h : decodeLoop env inp fuel s = .error e) : 0 < e.2.model_calls := by
  induction fuel generalizing s with
  | zero => cases h
  | succ fuel ih =>
    unfold decodeLoop at h
    split_ifs at h
    rcases except_bind_error.1 h with h | ⟨s', -, h⟩
    · rw [(decodeStep_keeps unrecorded_calls env inp s).2 e h]
      exact Nat.succ_pos _
    · exact ih s' h

/-! ### What a row holds -/

/-- the resident caches as the next call finds them: caches not both allocated count as zero -/
def Resident.keyCache (s : Resident) : Mem :=
  match s.key, s.value with
  | some key, some _ => key
  | _, _ => fun _ => 0

def Resident.valueCache (s : Resident) : Mem :=
  match s.key, s.value with
  | some _, some value => value
  | _, _ => fun _ => 0

/-- a row's two physical blocks in every layer -/
def rowBlocks (cache : Mem) (r : Row) (layer : Fin 28) (b : Fin 2) : Fin kBlockBytes → UInt8 :=
  block kBlockBytes cache (layer * kPhysicalBlocks + (r * kBlocksPerRequest + b))

/-- a row's blocks after an import: the payload's (layer, row) block, then a zero block -/
def importedBlocks (payload : Mem) (origin : ℕ) (r : Row) (layer : Fin 28) (b : Fin 2) : Fin kBlockBytes → UInt8 :=
  fun i => if b.val = 0 then payload (origin + (layer * 4 + r) * kBlockBytes + i) else 0

structure RowPreserved (s s' : Resident) (r : Row) : Prop where
  key : rowBlocks s'.keyCache r = rowBlocks s.keyCache r
  value : rowBlocks s'.valueCache r = rowBlocks s.valueCache r
  generation : s'.metadata.generation r = s.metadata.generation r
  token : s'.metadata.token r = s.metadata.token r
  position : s'.metadata.position r = s.metadata.position r
  length : s'.metadata.length r = s.metadata.length r
  valid : s'.metadata.valid r = s.metadata.valid r

/-- the row already is what an import of the inputs makes it -/
structure HoldsImport (s : Resident) (inp : Inputs) (r : Row) : Prop where
  key : rowBlocks s.keyCache r = importedBlocks inp.payload 0 r
  value : rowBlocks s.valueCache r = importedBlocks inp.payload (kImportCacheElements * 2) r
  generation : s.metadata.generation r = inp.row_generation r
  token : s.metadata.token r = inp.token r
  position : s.metadata.position r = inp.position r
  length : s.metadata.length r = inp.length r
  valid : s.metadata.valid r = 1

/-- the rows the import loop writes before the call can be refused by a later check -/
def writtenBefore (inp : Inputs) : List Row :=
  match validate inp with
  | .error _ => []
  | .ok _ => importWritten inp

theorem prepare_failed (inp : Inputs) (d d' : Device) (status : Status) (loc : Locals)
    (h : prepare inp d = (d', .error (status, loc))) : d' = overlay inp d (writtenBefore inp) := by
  unfold prepare at h
  unfold writtenBefore
  cases hv : validate inp with
  | error status => simp [hv] at h; simp [h.1]
  | ok finish_reason =>
    have hd := importPhase_device inp d
    simp only [hv] at h ⊢
    rcases hi : importPhase inp d with ⟨d1, _ | checksum⟩
    · simp only [hi] at h hd
      cases h
      exact hd
    · simp only [hi] at h hd
      cases hc : continuity d1.metadata inp with
      | error status =>
        simp only [hc] at h
        cases h
        exact hd
      | ok ng => simp [hc] at h

theorem rowBlocks_overlay (c payload : Mem) (origin : ℕ) (l : List Row) (r : Row) :
    rowBlocks (fun a => if layerOf a < kLayers ∧ rowOf a ∈ l then importedByte payload origin a else c a) r =
      if r ∈ l then importedBlocks payload origin r else rowBlocks c r := by
  have hr : r.val < 4 := r.isLt
  funext layer b i
  have hb : r * kBlocksPerRequest + b < 8 := by
    have := b.isLt
    simp only [kBlocksPerRequest]
    omega
  obtain ⟨h1, h2⟩ := layerOf_block layer hb i
  have h3 := rowOf_block layer hb i
  have hrow : rowOf ((layer * kPhysicalBlocks + (r * kBlocksPerRequest + b)) * kBlockBytes + i) = r := by
    apply Fin.ext
    have := b.isLt
    rw [h3]
    simp only [kBlocksPerRequest]
    omega
  have hmod := (block_offset (layer * kPhysicalBlocks + (r * kBlocksPerRequest + b)) i).2
  simp only [rowBlocks, block, h1, hrow, importedByte, h2, hmod]
  have hpar : (r * kBlocksPerRequest + b) % 2 = 0 ↔ b.val = 0 := by
    have := b.isLt
    simp only [kBlocksPerRequest]
    omega
  have hlayer : layer.val < kLayers := layer.isLt
  by_cases hm : r ∈ l
  · simp only [hm, hlayer, and_self, if_true, importedBlocks, hpar]
  · simp only [hm, and_false, if_false, rowBlocks, block]

theorem rowBlocks_cleared (cache : Mem) (r : Row) :
    rowBlocks (memset cache 0 0 (kCacheElements * 2)) r = rowBlocks (fun _ => 0) r := by
  funext layer b i
  have hr : r.val < 4 := r.isLt
  have hl : layer.val < 28 := layer.isLt
  have hb : b.val < 2 := b.isLt
  have hi : i.val < 131072 := i.isLt
  simp only [rowBlocks, block, memset, kPhysicalBlocks, kBlocksPerRequest, kCacheElements, kBlockBytes]
  exact if_pos ⟨Nat.zero_le _, by omega⟩

/-- the caches of a fresh allocation are the zero caches they replace -/
theorem allocResident_blocks {plat : Platform} {s : Resident} {d : Device} (h : allocResident plat s = .ok d) :
    d.metadata = s.metadata ∧ (∀ r, rowBlocks d.key r = rowBlocks s.keyCache r) ∧
      ∀ r, rowBlocks d.value r = rowBlocks s.valueCache r := by
  obtain ⟨key, value, metadata⟩ := s
  obtain ⟨alloc_outputs, alloc_slot, alloc_key, alloc_value⟩ := plat
  have hok : (∃ k v, key = some k ∧ value = some v) ∨
      (Resident.keyCache ⟨key, value, metadata⟩ = fun _ => 0) ∧ Resident.valueCache ⟨key, value, metadata⟩ = (fun _ => 0) ∧
        ∃ k v, d = ⟨memset k 0 0 (kCacheElements * 2), memset v 0 0 (kCacheElements * 2), metadata⟩ := by
    rcases key with _ | k <;> rcases value with _ | v <;> rcases alloc_key with _ | ak <;>
      rcases alloc_value with _ | av <;>
      first
      | exact Or.inl ⟨_, _, rfl, rfl⟩
      | (cases h; exact Or.inr ⟨rfl, rfl, _, _, rfl⟩)
      | cases h
  rcases hok with ⟨k, v, rfl, rfl⟩ | ⟨hk, hv, k, v, rfl⟩
  · cases h
    exact ⟨rfl, fun _ => rfl, fun _ => rfl⟩
  · rw [hk, hv]
    exact ⟨rfl, rowBlocks_cleared k, rowBlocks_cleared v⟩

/-! ### What a refused call leaves behind -/

theorem overlay_preserves_iff (inp : Inputs) {plat : Platform} {s : Resident} {d : Device}
    (h : allocResident plat s = .ok d) (l : List Row) (r : Row) :
    RowPreserved s (overlay inp d l).toResident r ↔ (r ∈ l → HoldsImport s inp r) := by
  obtain ⟨hm, hk, hv⟩ := allocResident_blocks h
  have hkey : rowBlocks (overlay inp d l).toResident.keyCache r =
      if r ∈ l then importedBlocks inp.payload 0 r else rowBlocks s.keyCache r := by
    rw [← hk]
    exact rowBlocks_overlay d.key inp.payload 0 l r
  have hvalue : rowBlocks (overlay inp d l).toResident.valueCache r =
      if r ∈ l then importedBlocks inp.payload (kImportCacheElements * 2) r else rowBlocks s.valueCache r := by
    rw [← hv]
    exact rowBlocks_overlay d.value inp.payload (kImportCacheElements * 2) l r
  by_cases hr : r ∈ l
  · simp only [hr, if_true, true_implies] at hkey hvalue ⊢
    constructor
    · rintro ⟨h1, h2, h3, h4, h5, h6, h7⟩
      simp only [Device.toResident, overlay, hr, if_true] at h3 h4 h5 h6 h7
      exact ⟨h1.symm.trans hkey, h2.symm.trans hvalue, h3.symm, h4.symm, h5.symm, h6.symm, h7.symm⟩
    · rintro ⟨h1, h2, h3, h4, h5, h6, h7⟩
      refine ⟨hkey.trans h1.symm, hvalue.trans h2.symm, ?_, ?_, ?_, ?_, ?_⟩ <;>
        simp only [Device.toResident, overlay, hr, if_true, h3, h4, h5, h6, h7]
  · simp only [hr, if_false, false_implies, iff_true] at hkey hvalue ⊢
    refine ⟨hkey, hvalue, ?_, ?_, ?_, ?_, ?_⟩ <;>
      simp only [Device.toResident, overlay, hr, if_false, hm]

/-- a call that emitted a refusal without calling the decoder has written the import's rows and nothing else -/
theorem epoch_refused (env : Env) (inp : Inputs) (d : Device) (hs : (epoch env inp d).2.1 ≠ .ok)
    (hm : (epoch env inp d).2.2.control 4 = 0) : (epoch env inp d).1 = overlay inp d (writtenBefore inp) := by
  unfold epoch at hs hm ⊢
  rcases hp : prepare inp d with ⟨d', ⟨status, loc⟩ | loc⟩
  · exact prepare_failed inp d d' status loc hp
  · simp only [hp] at hs hm ⊢
    rcases hl : decodeLoop env inp inp.max_steps.toNat (Decode.start d' inp loc) with ⟨status, loc'⟩ | s
    · -- the loop counts its calls before anything can fail
      have hpos := decodeLoop_failed env inp _ _ _ hl
      simp only [hl, fallback, emit_model_calls] at hm
      simp only at hpos
      omega
    · simp [hl] at hs

/-- **When a fallback is input-preserving.** A refusal before the first decoder call leaves every row's blocks and
metadata as they were exactly when every row the import loop wrote before it already held what was written. -/
theorem fallback_preserves_iff (plat : Platform) (env : Env) (s : Resident) (inputs : List (Option FlowMsg))
    (o : Emission) (he : (proc plat env s inputs).emitted = some o) (hs : o.control 3 ≠ Status.ok.code)
    (hm : o.control 4 = 0) :
    (∀ r, RowPreserved s (proc plat env s inputs).resident r) ↔
      ∀ inp, readInputs plat inputs = some inp → ∀ r ∈ writtenBefore inp, HoldsImport s inp r := by
  obtain ⟨inp, d, hr, ha, rfl, hres⟩ := proc_emitted he
  have hfail : (epoch env inp d).2.1 ≠ .ok := fun h => hs (by rw [epoch_status, h])
  rw [hres, epoch_refused env inp d hfail hm]
  constructor
  · intro h inp' hr' r hmem
    obtain rfl : inp = inp' := Option.some.inj (hr.symm.trans hr')
    exact (overlay_preserves_iff inp ha _ r).1 (h r) hmem
  · exact fun h r => (overlay_preserves_iff inp ha _ r).2 (h inp hr r)

/-! ### A refusal after a row was imported -/

/-- allocations that succeed and hand out zeroed memory -/
def Platform.plain : Platform := ⟨true, true, some fun _ => 0, some fun _ => 0⟩

/-- a decoder that always fails -/
def Env.failing : Env := ⟨fun _ => true, fun _ _ => ⟨FLOW_FUNC_FAILED, []⟩, fun _ => FLOW_FUNC_SUCCESS⟩

/-- row 0 is imported at position 3 and row 1 claims to continue a generation the device never saw -/
def importThenContinue : List (Option FlowMsg) :=
  [uint8Msg (fun _ => 7) kImportPayloadElements, int64Msg [11, 12, 0, 0], int64Msg [3, 1, 0, 0],
    int32Msg [4, 2, 0, 0], int32Msg [1, 1, 0, 0], int32Msg [0, 1, 2, 3, 4, 5, 6, 7], uint8Msg (fun _ => 0) 72,
    int32Msg [1, 9, 9, 9, 9, 0, 0x101, 1, 2, 0, 0]]

/-- a refused call that keeps nothing of an import, with the row it was refused for -/
def continueUnknown : List (Option FlowMsg) :=
  [int64Msg [12, 0, 0, 0], int64Msg [1, 0, 0, 0], int32Msg [2, 0, 0, 0], int32Msg [1, 256, 512, 768],
    int32Msg [1, 0, 0, 0], int32Msg [0, 1, 2, 3, 4, 5, 6, 7], uint8Msg (fun _ => 0) 72,
    int32Msg [1, 9, 9, 9, 9, 0, 0, 2, 0, 0, 0]]

theorem failed_call_retry_import :
    proc .plain .failing (proc .plain .failing init importThenContinue).resident importThenContinue =
      proc .plain .failing init importThenContinue :=
  failed_call_retry .plain .failing .failing init importThenContinue _ rfl (by decide)

theorem fallback_preserves_unknown :
    (∀ r, RowPreserved init (proc .plain .failing init continueUnknown).resident r) ↔
      ∀ inp, readInputs .plain continueUnknown = some inp → ∀ r ∈ writtenBefore inp, HoldsImport init inp r :=
  fallback_preserves_iff .plain .failing init continueUnknown _ rfl (by decide) rfl

/-- row 1 is refused with `kStatusResidentContinuity` after row 0 took generation 1 -/
theorem import_then_refused :
    ¬ ∀ (plat : Platform) (env : Env) (s : Resident) (inputs : List (Option FlowMsg)) (o : Emission),
      (proc plat env s inputs).emitted = some o → o.control 3 ≠ Status.ok.code → o.control 4 = 0 →
        ∀ r, RowPreserved s (proc plat env s inputs).resident r := by
  intro h
  have hgen := (h .plain .failing init importThenContinue _ rfl (by decide) rfl 0).generation
  exact absurd hgen (by decide)

end Cruise.Controller
