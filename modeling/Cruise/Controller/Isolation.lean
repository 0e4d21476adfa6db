/-
Clearing and importing against the block table.

Slots are computed through the block table of the call; clearing and importing address the two blocks of a row by its
number. Results, for a call that reaches its first decoder call:
- `prepared_key`, `prepared_value`: every byte the decoder is handed.
- `row_isolation_iff`: the blocks the table gives a row are the blocks that were prepared for it exactly when the table
  is aligned on the rows that were imported or start a generation.
- `swapped_table_leaks`: a permuted table under which a new row reads what another left.
-/
import Cruise.Controller.Greedy

namespace Cruise.Controller

open Cruise.Lib

/-! ## What is prepared -/

/-- the call imports the row -/
def Imported (inp : Inputs) (r : Row) : Prop := inp.importing = true ∧ masked inp r = true

instance (inp : Inputs) (r : Row) : Decidable (Imported inp r) := inferInstanceAs (Decidable (_ ∧ _))

/-- the row starts a generation it does not hold -/
def Fresh (m : Metadata) (inp : Inputs) (r : Row) : Prop :=
  inp.active r ≠ 0 ∧ ¬Imported inp r ∧ m.generation r ≠ inp.row_generation r

instance (m : Metadata) (inp : Inputs) (r : Row) : Decidable (Fresh m inp r) := inferInstanceAs (Decidable (_ ∧ _ ∧ _))

section Prepared

variable {inp : Inputs} {d dp : Device} {loc : Locals}

theorem imported_iff {checksum : UInt32} (h : (importPhase inp d).2 = .ok checksum) (r : Row) :
    r ∈ importWritten inp ↔ Imported inp r := by
  unfold importPhase at h
  unfold importWritten Imported
  split_ifs at h ⊢ with himport hmask
  · exact iff_of_false (fun h => by cases h) fun h => by rw [himport] at h; cases h.1
  · rw [importRows_eq] at h
    cases hrows : (writtenRows inp rows).2 with
    | error status =>
      rw [hrows] at h
      cases h
    | ok u =>
      rw [writtenRows_ok inp rows hrows]
      constructor
      · exact fun h => ⟨by simpa using himport, h.2⟩
      · exact fun h => ⟨mem_rows r, h.2⟩

theorem fresh_iff (hp : Prepared inp d dp loc) {ng : Row → Bool} (h : continuity (importPhase inp d).1.metadata inp = .ok ng)
    (r : Row) : ng r = true ↔ Fresh d.metadata inp r := by
  obtain ⟨checksum, himport, -⟩ := hp.locals
  have hrow := (continuity_ok _ inp ng).1 h r
  rw [importPhase_device] at hrow
  have hwritten := imported_iff himport r
  have hgeneration : (overlay inp d (importWritten inp)).metadata.generation r =
      if r ∈ importWritten inp then inp.row_generation r else d.metadata.generation r := rfl
  rcases (continuityRow_ok_iff _ inp r _).1 hrow with ⟨hidle, hng⟩ | ⟨hactive, ⟨hcontinues, hng⟩ | ⟨hstarts, hng⟩⟩
  · rw [hng]
    exact iff_of_false (fun h => by cases h) fun h => h.1 hidle
  · rw [hng]
    refine iff_of_false (fun h => by cases h) fun h => h.2.2 ?_
    have hheld := hcontinues.generation
    rwa [hgeneration, if_neg (mt hwritten.1 h.2.1)] at hheld
  · rw [hng]
    have hother := hstarts.generation
    rw [hgeneration] at hother
    by_cases hmem : r ∈ importWritten inp
    · rw [if_pos hmem] at hother
      exact absurd rfl hother
    · rw [if_neg hmem] at hother
      exact iff_of_true rfl ⟨hactive, mt hwritten.2 hmem, hother⟩

/-- a byte of a cache as it is handed to the decoder -/
def preparedByte (inp : Inputs) (m : Metadata) (origin : ℕ) (cache : Mem) (a : ℕ) : UInt8 :=
  if layerOf a < kLayers ∧ Fresh m inp (rowOf a) then 0
  else if layerOf a < kLayers ∧ Imported inp (rowOf a) then importedByte inp.payload origin a
  else cache a

theorem prepared_key (hp : Prepared inp d dp loc) (a : ℕ) :
    dp.key a = preparedByte inp d.metadata 0 d.key a := by
  obtain ⟨ng, hng, rfl⟩ := hp.continuity
  obtain ⟨checksum, himport, -⟩ := hp.locals
  unfold preparedByte
  rw [clearRows_key, importPhase_device]
  refine if_congr (and_congr_right fun _ => fresh_iff hp hng _) rfl ?_
  exact if_congr (and_congr_right fun _ => imported_iff himport _) rfl rfl

theorem prepared_value (hp : Prepared inp d dp loc) (a : ℕ) :
    dp.value a = preparedByte inp d.metadata (kImportCacheElements * 2) d.value a := by
  obtain ⟨ng, hng, rfl⟩ := hp.continuity
  obtain ⟨checksum, himport, -⟩ := hp.locals
  unfold preparedByte
  rw [clearRows_value, importPhase_device]
  refine if_congr (and_congr_right fun _ => fresh_iff hp hng _) rfl ?_
  exact if_congr (and_congr_right fun _ => imported_iff himport _) rfl rfl

end Prepared

/-! ## The block table -/

section Table

variable {inp : Inputs}

theorem checkBlockTable_injective (h : checkBlockTable inp = .ok ()) {i j : ℕ} (hi : i < 4 * kBlocksPerRequest)
    (hj : j < 4 * kBlocksPerRequest) (heq : inp.block_table i = inp.block_table j) : i = j := by
  unfold checkBlockTable at h
  rcases hfold : (List.range (4 * kBlocksPerRequest)).foldlM (fun (seen_blocks : List Int) index =>
    let block := inp.block_table index
    if block < 0 ∨ block ≥ kPhysicalBlocks ∨ block ∈ seen_blocks then Except.error Status.invalidBlockTable
    else Except.ok (block :: seen_blocks)) [] with status | seen
  · rw [hfold] at h
    cases h
  have hseen : seen = ((List.range (4 * kBlocksPerRequest)).map inp.block_table).reverse ∧
      ((List.range (4 * kBlocksPerRequest)).map inp.block_table).Nodup := by
    refine foldlM_inv _ (fun pre seen => seen = (pre.map inp.block_table).reverse ∧ (pre.map inp.block_table).Nodup) _
      ?_ ⟨rfl, .nil⟩ hfold
    rintro pre k post seen seen' - ⟨rfl, hnodup⟩ hk
    dsimp only at hk
    split_ifs at hk with hbad
    cases hk
    have hnew : inp.block_table k ∉ pre.map inp.block_table := fun hmem => hbad (Or.inr (Or.inr (List.mem_reverse.2 hmem)))
    rw [List.map_append, List.map_singleton, List.reverse_append, List.reverse_singleton]
    exact ⟨rfl, List.nodup_append.2 ⟨hnodup, List.nodup_singleton _, fun a ha b hb hab =>
      hnew (List.mem_singleton.1 hb ▸ hab ▸ ha)⟩⟩
  exact List.inj_on_of_nodup_map hseen.2 (List.mem_range.2 hi) (List.mem_range.2 hj) heq

/-- a set of rows whose blocks stay among the set's own is a set whose blocks are the set's own -/
theorem closed_rows (h : checkBlockTable inp = .ok ()) (W : Row → Prop) [DecidablePred W]
    (hclosed : ∀ r, W r → ∀ j < kBlocksPerRequest, ∃ r', W r' ∧ inp.block_table (r * kBlocksPerRequest + j) / 2 = r')
    {a : ℕ} (ha : layerOf a < kLayers) : (∃ r, W r ∧ Owns inp.block_table r a) ↔ W (rowOf a) := by
  have hrange (i : Fin 8) : 0 ≤ inp.block_table i ∧ inp.block_table i < 8 := checkBlockTable_range h i.isLt
  let σ (i : Fin 8) : Fin 8 := ⟨(inp.block_table i).toNat, by have := hrange i; omega⟩
  let own (i : Fin 8) : Row := ⟨i / 2, by omega⟩
  let blocks : Finset (Fin 8) := Finset.univ.filter fun i => W (own i)
  have hσ : Function.Injective σ := by
    intro i j hij
    have heq : (inp.block_table i).toNat = (inp.block_table j).toNat := congrArg Fin.val hij
    have hi := hrange i
    have hj := hrange j
    exact Fin.ext (checkBlockTable_injective h i.isLt j.isLt (by omega))
  have hsub : blocks.image σ ⊆ blocks := by
    intro b hb
    obtain ⟨i, hi, rfl⟩ := Finset.mem_image.1 hb
    have hi : W (own i) := (Finset.mem_filter.1 hi).2
    obtain ⟨r', hr', hown⟩ := hclosed (own i) hi (i % 2) (Nat.mod_lt _ (by decide))
    have hindex : (own i).val * kBlocksPerRequest + i % 2 = i := Nat.div_add_mod' i.val 2
    rw [hindex] at hown
    have hrow : own (σ i) = r' := by
      apply Fin.ext
      show (inp.block_table i).toNat / 2 = r'.val
      have := hrange i
      omega
    exact Finset.mem_filter.2 ⟨Finset.mem_univ _, hrow ▸ hr'⟩
  -- an injection of a finite set into itself reaches all of it
  have himage : blocks.image σ = blocks :=
    Finset.eq_of_subset_of_card_le hsub (by rw [Finset.card_image_of_injective _ hσ])
  have hblock : (⟨blockOf a, blockOf_lt a⟩ : Fin 8) ∈ blocks ↔ W (rowOf a) := by
    rw [Finset.mem_filter]
    exact and_iff_right (Finset.mem_univ _)
  rw [← hblock, ← himage, Finset.mem_image]
  constructor
  · rintro ⟨r, hr, -, j, hj, hb⟩
    have hj : j < 2 := hj
    have hr4 : r.val < 4 := r.isLt
    refine ⟨⟨r * 2 + j, by omega⟩, Finset.mem_filter.2 ⟨Finset.mem_univ _, ?_⟩, Fin.ext ?_⟩
    · have hown : own ⟨r * 2 + j, by omega⟩ = r := Fin.ext (by show (r * 2 + j) / 2 = r.val; omega)
      rw [hown]
      exact hr
    · show (inp.block_table (r * 2 + j)).toNat = blockOf a
      have hb : (blockOf a : Int) = inp.block_table (r * 2 + j) := hb
      omega
  · rintro ⟨i, hi, hb⟩
    have hb : (inp.block_table i).toNat = blockOf a := congrArg Fin.val hb
    refine ⟨own i, (Finset.mem_filter.1 hi).2, ha, i % 2, Nat.mod_lt _ (by decide), ?_⟩
    have hindex : (own i).val * kBlocksPerRequest + i % 2 = i := Nat.div_add_mod' i.val 2
    rw [hindex]
    have := hrange i
    omega

end Table

/-! ## Isolation -/

/-- the blocks the table gives the prepared rows hold what was prepared for them, and no other byte has changed -/
structure CacheIsolated (inp : Inputs) (m : Metadata) (origin : ℕ) (before after : Mem) : Prop where
  outside : ∀ a, (∀ r, Imported inp r ∨ Fresh m inp r → ¬Owns inp.block_table r a) → after a = before a
  others : ∀ r, ¬(Imported inp r ∨ Fresh m inp r) → ∀ a, Owns inp.block_table r a → after a = before a
  fresh : ∀ r, Fresh m inp r → ∀ a, Owns inp.block_table r a → after a = 0
  imported : ∀ r, Imported inp r → ∀ a, Owns inp.block_table r a →
    ∀ position : Int, 0 ≤ position → position < kLogicalCapacity →
      after a = if (blockOf a : Int) = computeSlot inp.block_table r position / kBlockSize
        then inp.payload (origin + (layerOf a * 4 + r) * kBlockBytes + a % kBlockBytes) else 0

/-- so it is with both caches, whatever they and the payload hold, of a device with this metadata -/
def RowIsolation (inp : Inputs) (m : Metadata) : Prop :=
  ∀ key value payload dp loc, prepare { inp with payload := payload } ⟨key, value, m⟩ = (dp, .ok loc) →
    CacheIsolated { inp with payload := payload } m 0 key dp.key ∧
      CacheIsolated { inp with payload := payload } m (kImportCacheElements * 2) value dp.value

/-- the block is one that `Proc` zeroes -/
def Zeroed (inp : Inputs) (m : Metadata) (b : Int) : Prop :=
  ∃ r : Row, Fresh m inp r ∧ b / 2 = r ∨ Imported inp r ∧ b = r * 2 + 1

/-- the table, on the prepared rows, against the fixed layout -/
structure Aligned (inp : Inputs) (m : Metadata) : Prop where
  payload : ∀ r, Imported inp r → inp.block_table (r * kBlocksPerRequest) = r * 2
  rest : ∀ r, Imported inp r → Zeroed inp m (inp.block_table (r * kBlocksPerRequest + 1))
  fresh : ∀ r, Fresh m inp r → ∀ j < kBlocksPerRequest, Zeroed inp m (inp.block_table (r * kBlocksPerRequest + j))

section Isolation

variable {inp : Inputs} {m : Metadata}

/-- positions of a row lie in the first block the table gives it -/
theorem computeSlot_block (h : checkBlockTable inp = .ok ()) (r : Row) {position : Int} (h0 : 0 ≤ position)
    (h1 : position < kLogicalCapacity) :
    computeSlot inp.block_table r position / kBlockSize = inp.block_table (r * kBlocksPerRequest) := by
  have hlt : position < 8 := h1
  rw [computeSlot_eq h r h0 h1, Int.add_comm, Int.add_mul_ediv_right _ _ (by decide),
    Int.ediv_eq_zero_of_lt h0 (by simp only [kBlockSize]; omega), Int.zero_add]

theorem Zeroed.row {b : Int} (h : Zeroed inp m b) : ∃ r : Row, (Imported inp r ∨ Fresh m inp r) ∧ b / 2 = r := by
  obtain ⟨r, ⟨hfresh, hb⟩ | ⟨himported, hb⟩⟩ := h
  · exact ⟨r, Or.inr hfresh, hb⟩
  · exact ⟨r, Or.inl himported, by omega⟩

theorem Zeroed.byte {origin a : ℕ} {cache : Mem} (h : Zeroed inp m (blockOf a)) (ha : layerOf a < kLayers) :
    preparedByte inp m origin cache a = 0 := by
  have hrow (r : Row) (hr : (blockOf a : Int) / 2 = r) : rowOf a = r := by
    apply Fin.ext
    show blockOf a / 2 = r.val
    omega
  obtain ⟨r, ⟨hfresh, hb⟩ | ⟨himported, hb⟩⟩ := h
  · exact if_pos ⟨ha, (hrow r hb).symm ▸ hfresh⟩
  · have hr : rowOf a = r := hrow r (by omega)
    unfold preparedByte
    rw [hr, if_neg fun h => h.2.2.1 himported, if_pos ⟨ha, himported⟩]
    exact if_neg (by omega)

/-- on an aligned table, fixed blocks and table blocks of the prepared rows are the same blocks -/
theorem aligned_isolated (htable : checkBlockTable inp = .ok ()) (h : Aligned inp m) {origin : ℕ} {before after : Mem}
    (hafter : ∀ a, after a = preparedByte inp m origin before a) : CacheIsolated inp m origin before after := by
  have hclosed (r : Row) (hr : Imported inp r ∨ Fresh m inp r) (j : ℕ) (hj : j < kBlocksPerRequest) :
      ∃ r', (Imported inp r' ∨ Fresh m inp r') ∧ inp.block_table (r * kBlocksPerRequest + j) / 2 = r' := by
    rcases hr with hr | hr
    · have hj : j < 2 := hj
      interval_cases j
      · refine ⟨r, Or.inl hr, ?_⟩
        rw [Nat.add_zero, h.payload r hr]
        omega
      · exact (h.rest r hr).row
    · exact (h.fresh r hr j hj).row
  have hunprepared {a : ℕ} (ha : ¬(layerOf a < kLayers ∧ (Imported inp (rowOf a) ∨ Fresh m inp (rowOf a)))) :
      after a = before a := by
    rw [hafter, preparedByte, if_neg fun hf => ha ⟨hf.1, Or.inr hf.2⟩, if_neg fun hi => ha ⟨hi.1, Or.inl hi.2⟩]
  refine ⟨fun a hout => hunprepared fun ha => ?_, fun r hr a hown => hunprepared fun ha => ?_, fun r hr a hown => ?_,
    fun r hr a hown position h0 h1 => ?_⟩
  · obtain ⟨r, hr, hown⟩ := (closed_rows htable (fun r => Imported inp r ∨ Fresh m inp r) hclosed ha.1).2 ha.2
    exact hout r hr hown
  · -- a block of a prepared row is not a block of this one
    obtain ⟨r', hr', -, j', hj', hb'⟩ := (closed_rows htable (fun r => Imported inp r ∨ Fresh m inp r) hclosed ha.1).2 ha.2
    obtain ⟨-, j, hj, hb⟩ := hown
    have hj : j < 2 := hj
    have hj' : j' < 2 := hj'
    have h4 : r.val < 4 := r.isLt
    have h4' : r'.val < 4 := r'.isLt
    have hindex : r.val * 2 + j = r'.val * 2 + j' :=
      checkBlockTable_injective htable (by simp only [kBlocksPerRequest]; omega) (by simp only [kBlocksPerRequest]; omega)
        (hb.symm.trans hb')
    have hsame : r = r' := Fin.ext (by omega)
    exact hr (hsame ▸ hr')
  · obtain ⟨ha, j, hj, hb⟩ := hown
    rw [hafter]
    exact (hb ▸ h.fresh r hr j hj).byte ha
  · obtain ⟨ha, j, hj, hb⟩ := hown
    have hj : j < 2 := hj
    rw [hafter, computeSlot_block htable r h0 h1]
    interval_cases j
    · have hb : (blockOf a : Int) = inp.block_table (r * kBlocksPerRequest) := hb
      rw [if_pos hb]
      rw [h.payload r hr] at hb
      have hrow : rowOf a = r := Fin.ext (by show blockOf a / 2 = r.val; omega)
      unfold preparedByte
      rw [hrow, if_neg fun hf => hf.2.2.1 hr, if_pos ⟨ha, hr⟩, importedByte, if_pos (by omega), hrow]
    · have hother : inp.block_table (r * kBlocksPerRequest + 1) ≠ inp.block_table (r * kBlocksPerRequest) := by
        intro heq
        have h4 : r.val < 4 := r.isLt
        have := checkBlockTable_injective htable (by simp only [kBlocksPerRequest]; omega)
          (by simp only [kBlocksPerRequest]; omega) heq
        omega
      rw [if_neg fun heq => hother (hb.symm.trans heq)]
      exact (hb ▸ h.rest r hr).byte ha

/-! ### Caches and payload play no part in what is accepted -/

/-- the input is accepted up to the first decoder call, on a device with this metadata -/
def Reaches (inp : Inputs) (m : Metadata) : Prop :=
  ∃ key value dp loc, prepare inp ⟨key, value, m⟩ = (dp, .ok loc)

theorem importPhase_ok_iff (d : Device) : (∃ checksum, (importPhase inp d).2 = .ok checksum) ↔ inp.importing = false ∨
    ¬(inp.import_mask.toInt ≤ 0 ∨ inp.import_mask.toInt ≥ 16) ∧ (writtenRows inp rows).2 = .ok () := by
  unfold importPhase
  split_ifs with himport hmask
  · exact iff_of_true ⟨0, rfl⟩ (Or.inl himport)
  · refine iff_of_false (fun ⟨_, h⟩ => by cases h) ?_
    rintro (h | ⟨h, -⟩)
    · exact himport h
    · exact h hmask
  · rw [importRows_eq]
    cases hrows : (writtenRows inp rows).2 with
    | error status =>
      refine iff_of_false (fun ⟨_, h⟩ => by cases h) ?_
      rintro (h | ⟨-, h⟩)
      · exact himport h
      · cases h
    | ok u => exact iff_of_true ⟨_, rfl⟩ (Or.inr ⟨hmask, rfl⟩)

theorem writtenRows_payload (payload : Mem) (l : List Row) :
    writtenRows { inp with payload := payload } l = writtenRows inp l := by
  induction l with
  | nil => rfl
  | cons r rest ih =>
    unfold writtenRows
    rw [ih]
    rfl

theorem reaches_any (h : Reaches inp m) (key value payload : Mem) :
    ∃ dp loc, prepare { inp with payload := payload } ⟨key, value, m⟩ = (dp, .ok loc) := by
  obtain ⟨key₀, value₀, dp₀, loc₀, h⟩ := h
  have hp := (prepare_ok_iff _ _ _ _).1 h
  obtain ⟨checksum, himport, -⟩ := hp.locals
  obtain ⟨ng, hng, -⟩ := hp.continuity
  have hv := hp.validated
  have hvalidated : Validated { inp with payload := payload } :=
    ⟨hv.max_steps, hv.sampling_mode, hv.graph_variant, hv.eos, hv.block_table,
      fun r => ⟨(hv.row r).active, (hv.row r).token, (hv.row r).position,
        fun ha => ⟨((hv.row r).running ha).generation, ((hv.row r).running ha).length, ((hv.row r).running ha).capacity⟩,
        (hv.row r).idle, (hv.row r).slot⟩⟩
  have haccepted := (importPhase_ok_iff ⟨key₀, value₀, m⟩).1 ⟨checksum, himport⟩
  obtain ⟨checksum', himport'⟩ :
      ∃ checksum, (importPhase { inp with payload := payload } ⟨key, value, m⟩).2 = .ok checksum := by
    rw [importPhase_ok_iff, writtenRows_payload]
    exact haccepted
  have hwritten : importWritten { inp with payload := payload } = importWritten inp := by
    unfold importWritten
    rw [writtenRows_payload]
  have hmetadata : (importPhase { inp with payload := payload } ⟨key, value, m⟩).1.metadata =
      (importPhase inp ⟨key₀, value₀, m⟩).1.metadata := by
    rw [importPhase_device, importPhase_device, hwritten]
    rfl
  have hcontinuity : continuity (importPhase { inp with payload := payload } ⟨key, value, m⟩).1.metadata
      { inp with payload := payload } = .ok ng := by
    rw [hmetadata]
    exact hng
  exact ⟨_, _, (prepare_ok_iff _ _ _ _).2 ⟨hvalidated, ⟨checksum', himport', rfl⟩, ng, hcontinuity, rfl⟩⟩

/-! ### Caches and payload that tell the blocks apart -/

/-- every block of the payload holds its row's number, and one more -/
def rowPayload : Mem := fun a => UInt8.ofNat (a / kBlockBytes % 4 + 1)

theorem row_number {size : ℕ} (layer : ℕ) (r : Row) (i : Fin size) :
    (0 + (layer * 4 + r) * size + i) / size % 4 = r := by
  have hpos : 0 < size := i.pos
  have h4 : r.val < 4 := r.isLt
  rw [Nat.zero_add, Nat.mul_comm, Nat.mul_add_div hpos, Nat.div_eq_of_lt i.isLt]
  omega

theorem rowPayload_byte (layer : ℕ) (r : Row) (i : Fin kBlockBytes) :
    rowPayload (0 + (layer * 4 + r) * kBlockBytes + i) = UInt8.ofNat (r + 1) := by
  unfold rowPayload
  rw [row_number]

theorem rowPayload_injective : ∀ r r' : Row, UInt8.ofNat (r + 1) = UInt8.ofNat (r' + 1) → r = r' := by decide

theorem rowPayload_pos : ∀ r : Row, UInt8.ofNat (r + 1) ≠ 0 := by decide

theorem rowPayload_cache : ∀ r : Row, UInt8.ofNat (r + 1) ≠ 9 := by decide

/-- what a byte of such caches says of its block -/
theorem told_apart {a : ℕ} (ha : layerOf a < kLayers) {byte : UInt8}
    (h : preparedByte { inp with payload := rowPayload } m 0 (fun _ => 9) a = byte) :
    Zeroed inp m (blockOf a) ∧ byte = 0 ∨
      (∃ r : Row, Imported inp r ∧ (blockOf a : Int) = r * 2 ∧ byte = UInt8.ofNat (r + 1)) ∨ byte = 9 := by
  have hrow : (blockOf a : Int) / 2 = rowOf a := rfl
  have hlt : a % kBlockBytes < kBlockBytes := Nat.mod_lt _ kBlockBytes_pos
  subst h
  unfold preparedByte
  by_cases hfresh : Fresh m inp (rowOf a)
  · exact Or.inl ⟨⟨rowOf a, Or.inl ⟨hfresh, hrow⟩⟩, if_pos ⟨ha, hfresh⟩⟩
  by_cases himported : Imported inp (rowOf a)
  · rw [if_neg fun hf => hfresh hf.2, if_pos ⟨ha, himported⟩]
    unfold importedByte
    by_cases heven : blockOf a % 2 = 0
    · rw [if_pos heven]
      refine Or.inr (Or.inl ⟨rowOf a, himported, by omega, ?_⟩)
      exact rowPayload_byte (layerOf a) (rowOf a) ⟨a % kBlockBytes, hlt⟩
    · rw [if_neg heven]
      exact Or.inl ⟨⟨rowOf a, Or.inr ⟨himported, by omega⟩⟩, rfl⟩
  · exact Or.inr (Or.inr ((if_neg fun hf => hfresh hf.2).trans (if_neg fun hi => himported hi.2)))

/-- an address in a block of the table -/
theorem owned_address (htable : checkBlockTable inp = .ok ()) (r : Row) {j : ℕ} (hj : j < kBlocksPerRequest) :
    ∃ a, layerOf a < kLayers ∧ (blockOf a : Int) = inp.block_table (r * kBlocksPerRequest + j) ∧
      layerOf a = 0 ∧ a % kBlockBytes = 0 := by
  have hj : j < 2 := hj
  have h4 : r.val < 4 := r.isLt
  obtain ⟨h0, h8⟩ := checkBlockTable_range htable (i := r * kBlocksPerRequest + j) (by simp only [kBlocksPerRequest]; omega)
  have h8 : inp.block_table (r * kBlocksPerRequest + j) < 8 := h8
  have hb : (inp.block_table (r * kBlocksPerRequest + j)).toNat < 8 := by omega
  obtain ⟨hlayer, hblock⟩ := layerOf_block 0 hb ⟨0, kBlockBytes_pos⟩
  refine ⟨_, by rw [hlayer]; decide, by rw [hblock]; omega, hlayer, ?_⟩
  exact (block_offset _ (⟨0, kBlockBytes_pos⟩ : Fin kBlockBytes)).2

theorem isolated_aligned (hreaches : Reaches inp m) (htable : checkBlockTable inp = .ok ()) (h : RowIsolation inp m) :
    Aligned inp m := by
  obtain ⟨dp, loc, hprepare⟩ := reaches_any hreaches (fun _ => 9) (fun _ => 9) rowPayload
  have hkey := (h _ _ _ _ _ hprepare).1
  have hbyte := prepared_key ((prepare_ok_iff _ _ _ _).1 hprepare)
  have hzero {r : Row} {j : ℕ} (hj : j < kBlocksPerRequest)
      (hafter : ∀ a, layerOf a < kLayers → (blockOf a : Int) = inp.block_table (r * kBlocksPerRequest + j) → dp.key a = 0) :
      Zeroed inp m (inp.block_table (r * kBlocksPerRequest + j)) := by
    obtain ⟨a, ha, hb, -, -⟩ := owned_address htable r hj
    rw [← hb]
    rcases told_apart ha ((hbyte a).symm.trans (hafter a ha hb)) with ⟨hz, -⟩ | ⟨r', -, -, h0⟩ | h9
    · exact hz
    · exact absurd h0.symm (rowPayload_pos r')
    · exact absurd h9 (by decide)
  refine ⟨fun r hr => ?_, fun r hr => hzero (by decide) fun a ha hb => ?_, fun r hr j hj => hzero hj fun a ha hb =>
    hkey.fresh r hr a ⟨ha, j, hj, hb⟩⟩
  · obtain ⟨a, ha, hb, hlayer, hoffset⟩ := owned_address htable r (j := 0) (by decide)
    have hpayload := hkey.imported r hr a ⟨ha, 0, by decide, hb⟩ 0 (le_refl 0) (by decide)
    have hslot := computeSlot_block htable r (le_refl 0) (by decide)
    have hread : dp.key a = UInt8.ofNat (r + 1) := by
      refine (hpayload.trans (if_pos (hb.trans hslot.symm))).trans ?_
      rw [hlayer, hoffset]
      exact rowPayload_byte 0 r ⟨0, kBlockBytes_pos⟩
    rcases told_apart ha ((hbyte a).symm.trans hread) with ⟨-, h0⟩ | ⟨r', -, heven, hsame⟩ | h9
    · exact absurd h0 (rowPayload_pos r)
    · rw [rowPayload_injective r r' hsame]
      rw [← rowPayload_injective r r' hsame] at heven ⊢
      exact hb.symm.trans heven
    · exact absurd h9 (rowPayload_cache r)
  · have hpayload := hkey.imported r hr a ⟨ha, 1, by decide, hb⟩ 0 (le_refl 0) (by decide)
    have hslot := computeSlot_block htable r (le_refl 0) (by decide)
    have h4 : r.val < 4 := r.isLt
    refine hpayload.trans (if_neg fun heq => ?_)
    have := checkBlockTable_injective htable (i := r * kBlocksPerRequest + 1) (j := r * kBlocksPerRequest)
      (by simp only [kBlocksPerRequest]; omega) (by simp only [kBlocksPerRequest]; omega) (hb.symm.trans (heq.trans hslot))
    omega

end Isolation

/-- **When rows are isolated under the block table.** -/
theorem row_isolation_iff {inp : Inputs} {m : Metadata} (h : Reaches inp m) : RowIsolation inp m ↔ Aligned inp m := by
  have htable : checkBlockTable inp = .ok () := by
    obtain ⟨_, _, _, _, hprepare⟩ := h
    exact ((prepare_ok_iff _ _ _ _).1 hprepare).validated.block_table
  constructor
  · exact isolated_aligned h htable
  · intro haligned key value payload dp loc hprepare
    have hp := (prepare_ok_iff _ _ _ _).1 hprepare
    have htable : checkBlockTable { inp with payload := payload } = .ok () := htable
    have haligned : Aligned { inp with payload := payload } m := ⟨haligned.payload, haligned.rest, haligned.fresh⟩
    exact ⟨aligned_isolated htable haligned (fun a => prepared_key hp a),
      aligned_isolated htable haligned (fun a => prepared_value hp a)⟩

/-! ## Both kinds of table -/

theorem starts_reach {inp : Inputs} {m : Metadata} (hv : Validated inp) (himport : inp.importing = false)
    (h : ∀ r, inp.active r ≠ 0 → Continues m inp r ∨ Starts m inp r) (key value : Mem) :
    ∃ dp loc, prepare inp ⟨key, value, m⟩ = (dp, .ok loc) := by
  have hphase : importPhase inp ⟨key, value, m⟩ = (⟨key, value, m⟩, .ok 0) := if_pos himport
  obtain ⟨ng, hng⟩ := (continuity_iff m inp).2 h
  refine ⟨_, _, (prepare_ok_iff _ _ _ _).2 ⟨hv, ⟨0, by rw [hphase], rfl⟩, ng, ?_, rfl⟩⟩
  rw [hphase]
  exact hng

theorem row_isolation_oneRow : RowIsolation oneRow Device.unused.metadata := by
  have hstarts : ∀ r, oneRow.active r ≠ 0 → Starts Device.unused.metadata oneRow r :=
    fun r hr => ⟨by revert r; decide, by revert r; decide, by revert r; decide⟩
  have hreaches := starts_reach oneRow_validated rfl (fun r hr => Or.inr (hstarts r hr)) (fun _ => 0) (fun _ => 0)
  have hidle : ∀ r, ¬Imported oneRow r := fun r hr => by cases hr.1
  refine (row_isolation_iff ⟨_, _, hreaches⟩).2 ⟨fun r hr => absurd hr (hidle r), fun r hr => absurd hr (hidle r), ?_⟩
  intro r hr j hj
  have hj : j < 2 := hj
  refine ⟨r, Or.inl ⟨hr, ?_⟩⟩
  show ((r * 2 + j : ℕ) : Int) / 2 = r
  omega

/-- row 0 starts generation 1 on the blocks of row 1 -/
def swappedRows : Inputs where
  max_steps := 2
  eos := fun _ => 9
  sampling_mode := 0
  graph_variant := 0
  importing := false
  import_mask := 0
  row_generation := ![1, 0, 0, 0]
  token := ![12, 0, 0, 0]
  position := fun _ => 0
  length := ![1, 0, 0, 0]
  slot := ![256, 0, 512, 768]
  active := ![1, 0, 0, 0]
  block_table := fun i => if i = 0 then 2 else if i = 1 then 3 else if i = 2 then 0 else if i = 3 then 1 else i
  tiling := fun _ => 0
  payload := fun _ => 0

theorem swappedRows_validated : Validated swappedRows := by
  obtain ⟨reasons, h⟩ : ∃ reasons, validate swappedRows = .ok reasons := ⟨_, rfl⟩
  exact ((validate_ok_iff swappedRows reasons).1 h).1

/-- a permuted table: the idle row loses its block, and the new row reads what was in its own -/
theorem swapped_table_leaks : ∃ dp loc,
    prepare swappedRows ⟨fun _ => 9, fun _ => 9, Device.unused.metadata⟩ = (dp, .ok loc) ∧
    (∃ a, Owns swappedRows.block_table 0 a ∧ Fresh Device.unused.metadata swappedRows 0 ∧ dp.key a ≠ 0) ∧
    ¬RowIsolation swappedRows Device.unused.metadata := by
  have hstarts : ∀ r, swappedRows.active r ≠ 0 → Starts Device.unused.metadata swappedRows r :=
    fun r hr => ⟨by revert r; decide, by revert r; decide, by revert r; decide⟩
  obtain ⟨dp, loc, hprepare⟩ := starts_reach swappedRows_validated rfl (fun r hr => Or.inr (hstarts r hr))
    (fun _ => 9) (fun _ => 9)
  have htable := swappedRows_validated.block_table
  have hfresh : Fresh Device.unused.metadata swappedRows 0 := by decide
  have hnotFresh : ¬Fresh Device.unused.metadata swappedRows 1 := by decide
  obtain ⟨a, ha, hb, -, -⟩ := owned_address htable 0 (j := 0) (by decide)
  have hb : (blockOf a : Int) = 2 := hb
  have hrow : rowOf a = 1 := Fin.ext (by show blockOf a / 2 = 1; omega)
  have hread : dp.key a = 9 := by
    rw [prepared_key ((prepare_ok_iff _ _ _ _).1 hprepare), preparedByte, hrow, if_neg fun h => hnotFresh h.2,
      if_neg fun h => by cases h.2.1]
  have hown : Owns swappedRows.block_table 0 a := ⟨ha, 0, by decide, hb⟩
  have hne : dp.key a ≠ 0 := hread ▸ by decide
  exact ⟨dp, loc, hprepare, ⟨a, hown, hfresh, hne⟩, fun h =>
    hne ((h _ _ _ _ _ hprepare).1.fresh 0 hfresh a hown)⟩

end Cruise.Controller
