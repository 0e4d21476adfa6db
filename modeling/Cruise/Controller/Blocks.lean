/-
What clearing and importing do to the resident caches, block by block.

A cache byte at offset `a` lies in layer `layerOf a`, in the fixed physical block `a / kBlockBytes % 8` of that layer, and
so among the two blocks of the row `rowOf a`. In these coordinates both loops over the 28 layers have a closed form
(`clearCacheRow_apply`, `copyRow_apply`), and the import loop is an overlay: it writes the rows `writtenRows` and leaves
every other byte and every other row's metadata alone (`importRows_eq`).
-/
import Cruise.Controller.Proc

namespace Cruise.Controller

open Cruise.Lib

/-! ## Coordinates of a cache byte -/

def layerOf (a : ℕ) : ℕ := a / kBlockBytes / kPhysicalBlocks

def blockOf (a : ℕ) : ℕ := a / kBlockBytes % kPhysicalBlocks

theorem blockOf_lt (a : ℕ) : blockOf a < 8 := Nat.mod_lt _ (by decide)

/-- the row that owns the byte under the fixed layout of two blocks per row -/
def rowOf (a : ℕ) : Row := ⟨blockOf a / kBlocksPerRequest, by have := blockOf_lt a; simp [kBlocksPerRequest]; omega⟩

theorem block_eq_iff (layer : ℕ) {b : ℕ} (hb : b < 8) (a : ℕ) :
    a / kBlockBytes = layer * kPhysicalBlocks + b ↔ layerOf a = layer ∧ blockOf a = b := by
  simp only [layerOf, blockOf, kPhysicalBlocks]
  omega

/-- the offset of byte `i` of block `b` of a layer, in coordinates -/
theorem layerOf_block (layer : ℕ) {b : ℕ} (hb : b < 8) (i : Fin kBlockBytes) :
    layerOf ((layer * kPhysicalBlocks + b) * kBlockBytes + i) = layer ∧
      blockOf ((layer * kPhysicalBlocks + b) * kBlockBytes + i) = b :=
  (block_eq_iff layer hb _).1 (block_offset _ i).1

theorem rowOf_block (layer : ℕ) {b : ℕ} (hb : b < 8) (i : Fin kBlockBytes) :
    (rowOf ((layer * kPhysicalBlocks + b) * kBlockBytes + i)).val = b / 2 := by
  simp only [rowOf, (layerOf_block layer hb i).2, kBlocksPerRequest]

/-! ## Clearing a row -/

/-- a loop over the layers that writes each layer's bytes once is a test on the byte's layer -/
theorem foldl_layers (f : Mem → ℕ → Mem) (v : ℕ → UInt8) (P : ℕ → Prop) [DecidablePred P]
    (hf : ∀ m layer a, f m layer a = if layerOf a = layer ∧ P a then v a else m a) (m : Mem) (n a : ℕ) :
    (List.range n).foldl f m a = if layerOf a < n ∧ P a then v a else m a := by
  induction n with
  | zero => simp
  | succ n ih =>
    rw [List.range_succ, List.foldl_append, List.foldl_cons, List.foldl_nil, hf, ih]
    by_cases hP : P a
    · by_cases hl : layerOf a = n
      · rw [if_pos ⟨hl, hP⟩, if_pos ⟨by omega, hP⟩]
      · rw [if_neg (fun h => hl h.1)]
        exact if_congr ⟨fun h => ⟨by omega, h.2⟩, fun h => ⟨by omega, h.2⟩⟩ rfl rfl
    · rw [if_neg (fun h => hP h.2), if_neg (fun h => hP h.2), if_neg (fun h => hP h.2)]

theorem clearLayer (m : Mem) (layer : ℕ) (r : Row) (a : ℕ) :
    (List.range kBlocksPerRequest).foldl (fun c local_block =>
      memset c ((layer * kPhysicalBlocks + (r * kBlocksPerRequest + local_block)) * kBlockBytes) 0 kBlockBytes) m a =
    if layerOf a = layer ∧ rowOf a = r then 0 else m a := by
  have hr : r.val < 4 := r.isLt
  have hrow : rowOf a = r ↔ blockOf a = r * 2 ∨ blockOf a = r * 2 + 1 := by
    simp only [rowOf, Fin.ext_iff, kBlocksPerRequest]
    omega
  have key (b : ℕ) (hb : b < 8) (c : Mem) :
      memset c ((layer * kPhysicalBlocks + b) * kBlockBytes) 0 kBlockBytes a =
        if layerOf a = layer ∧ blockOf a = b then 0 else c a := by
    rw [memset_block kBlockBytes_pos]
    exact if_congr (block_eq_iff layer hb a) rfl rfl
  have hrange : List.range kBlocksPerRequest = [0, 1] := by decide
  rw [hrange, List.foldl_cons, List.foldl_cons, List.foldl_nil]
  rw [show kBlocksPerRequest = 2 from rfl, Nat.add_zero, key (r * 2 + 1) (by omega), key (r * 2) (by omega)]
  simp only [hrow]
  by_cases hl : layerOf a = layer
  · by_cases h0 : blockOf a = r * 2
    · simp [hl, h0]
    · simp [hl, h0]
  · simp [hl]

theorem clearCacheRow_apply (m : Mem) (r : Row) (a : ℕ) :
    clearCacheRow m r a = if layerOf a < kLayers ∧ rowOf a = r then 0 else m a := by
  unfold clearCacheRow
  exact foldl_layers _ (fun _ => 0) (fun a => rowOf a = r) (fun m layer a => clearLayer m layer r a) m kLayers a

/-- clearing a list of rows, as the row loop does it -/
theorem clear_fold (ng : Row → Bool) (l : List Row) (d : Device) :
    let d' := l.foldl (fun d r => if ng r = false then d
      else { d with key := clearCacheRow d.key r, value := clearCacheRow d.value r }) d
    d'.metadata = d.metadata ∧
      (∀ a, d'.key a = if layerOf a < kLayers ∧ rowOf a ∈ l ∧ ng (rowOf a) = true then 0 else d.key a) ∧
      (∀ a, d'.value a = if layerOf a < kLayers ∧ rowOf a ∈ l ∧ ng (rowOf a) = true then 0 else d.value a) := by
  induction l generalizing d with
  | nil => simp
  | cons r rest ih =>
    simp only [List.foldl_cons]
    cases hr : ng r with
    | false =>
      obtain ⟨h1, h2, h3⟩ := ih d
      have hcons (a : ℕ) : (rowOf a ∈ r :: rest ∧ ng (rowOf a) = true) ↔ rowOf a ∈ rest ∧ ng (rowOf a) = true := by
        refine ⟨fun ⟨hm, hn⟩ => ⟨?_, hn⟩, fun ⟨hm, hn⟩ => ⟨List.mem_cons_of_mem _ hm, hn⟩⟩
        rcases List.mem_cons.1 hm with h | h
        · rw [h, hr] at hn; cases hn
        · exact h
      simp only [if_true]
      refine ⟨h1, fun a => ?_, fun a => ?_⟩
      · rw [h2]; simp only [hcons]
      · rw [h3]; simp only [hcons]
    | true =>
      obtain ⟨h1, h2, h3⟩ := ih { d with key := clearCacheRow d.key r, value := clearCacheRow d.value r }
      simp only [Bool.true_eq_false, if_false]
      refine ⟨h1, fun a => ?_, fun a => ?_⟩
      · rw [h2]
        simp only [clearCacheRow_apply]
        by_cases ha : rowOf a = r
        · by_cases hl : layerOf a < kLayers <;> simp [ha, hr, hl]
        · simp [ha, List.mem_cons]
      · rw [h3]
        simp only [clearCacheRow_apply]
        by_cases ha : rowOf a = r
        · by_cases hl : layerOf a < kLayers <;> simp [ha, hr, hl]
        · simp [ha, List.mem_cons]

@[simp] theorem clearRows_metadata (d : Device) (ng : Row → Bool) : (clearRows d ng).metadata = d.metadata :=
  (clear_fold ng rows d).1

theorem clearRows_key (d : Device) (ng : Row → Bool) (a : ℕ) :
    (clearRows d ng).key a = if layerOf a < kLayers ∧ ng (rowOf a) = true then 0 else d.key a := by
  have h := (clear_fold ng rows d).2.1 a
  simp only [mem_rows, true_and] at h
  exact h

theorem clearRows_value (d : Device) (ng : Row → Bool) (a : ℕ) :
    (clearRows d ng).value a = if layerOf a < kLayers ∧ ng (rowOf a) = true then 0 else d.value a := by
  have h := (clear_fold ng rows d).2.2 a
  simp only [mem_rows, true_and] at h
  exact h

/-- clearing the same rows twice is clearing them once -/
theorem clearRows_idem (d : Device) (ng : Row → Bool) : clearRows (clearRows d ng) ng = clearRows d ng := by
  ext a
  · rw [clearRows_key, clearRows_key]; split_ifs <;> rfl
  · rw [clearRows_value, clearRows_value]; split_ifs <;> rfl
  all_goals simp only [clearRows_metadata]

/-! ## Importing a row -/

/-- the byte an import puts at offset `a`: the payload's (layer, row) block in the row's first block, zero in its
second -/
def importedByte (payload : Mem) (origin a : ℕ) : UInt8 :=
  if blockOf a % 2 = 0 then payload (origin + (layerOf a * 4 + rowOf a) * kBlockBytes + a % kBlockBytes) else 0

theorem copyRow_apply (m payload : Mem) (origin : ℕ) (r : Row) (a : ℕ) :
    copyRow m payload origin r a = if layerOf a < kLayers ∧ blockOf a = r * 2
      then payload (origin + (layerOf a * 4 + rowOf a) * kBlockBytes + a % kBlockBytes) else m a := by
  unfold copyRow
  refine foldl_layers _ (fun a => payload (origin + (layerOf a * 4 + rowOf a) * kBlockBytes + a % kBlockBytes))
    (fun a => blockOf a = r * 2) (fun m layer a => ?_) m kLayers a
  have hr : r.val < 4 := r.isLt
  have hb := block_eq_iff layer (show r.val * 2 < 8 by omega) a
  simp only [memcpy, mem_block_iff kBlockBytes_pos, kBlocksPerRequest, hb]
  split_ifs with h
  · have hdiv : a / kBlockBytes = layer * kPhysicalBlocks + r * 2 := (block_eq_iff layer (by omega) a).2 h
    have hmod : a - (layer * kPhysicalBlocks + r * 2) * kBlockBytes = a % kBlockBytes := by
      rw [← hdiv, Nat.mod_eq_sub_div_mul]
    have hrow : (rowOf a).val = r := by simp only [rowOf, kBlocksPerRequest, h.2]; omega
    rw [hmod, h.1, hrow]
  · rfl

theorem import_block (payload m : Mem) (origin : ℕ) (r : Row) (a : ℕ) :
    copyRow (clearCacheRow m r) payload origin r a =
      if layerOf a < kLayers ∧ rowOf a = r then importedByte payload origin a else m a := by
  have hr : r.val < 4 := r.isLt
  have hrow : rowOf a = r ↔ blockOf a = r * 2 ∨ blockOf a = r * 2 + 1 := by
    have := blockOf_lt a
    simp only [rowOf, Fin.ext_iff, kBlocksPerRequest]
    omega
  rw [copyRow_apply, clearCacheRow_apply]
  simp only [importedByte, hrow]
  by_cases hl : layerOf a < kLayers
  · by_cases h0 : blockOf a = r * 2
    · simp [hl, h0]
    · by_cases h1 : blockOf a = r * 2 + 1
      · simp [hl, h1]
      · simp [h0, h1]
  · simp [hl]

/-! ## The import loop is an overlay -/

/-- the rows the loop writes before it ends or refuses one, and how it ends -/
def writtenRows (inp : Inputs) : List Row → List Row × Except Status Unit
  | [] => ([], .ok ())
  | r :: rest =>
    if masked inp r = false then writtenRows inp rest
    else if inp.active r ≠ 1 ∨ inp.row_generation r ≤ 0 then ([], .error .invalidMetadata)
    else (r :: (writtenRows inp rest).1, (writtenRows inp rest).2)

/-- the device with the given rows imported -/
def overlay (inp : Inputs) (d : Device) (l : List Row) : Device where
  key := fun a => if layerOf a < kLayers ∧ rowOf a ∈ l then importedByte inp.payload 0 a else d.key a
  value := fun a => if layerOf a < kLayers ∧ rowOf a ∈ l
    then importedByte inp.payload (kImportCacheElements * 2) a else d.value a
  metadata := {
    generation := fun r => if r ∈ l then inp.row_generation r else d.metadata.generation r
    token := fun r => if r ∈ l then inp.token r else d.metadata.token r
    position := fun r => if r ∈ l then inp.position r else d.metadata.position r
    length := fun r => if r ∈ l then inp.length r else d.metadata.length r
    valid := fun r => if r ∈ l then 1 else d.metadata.valid r }

@[simp] theorem overlay_nil (inp : Inputs) (d : Device) : overlay inp d [] = d := by
  simp [overlay]

theorem overlay_cons (inp : Inputs) (d : Device) (r : Row) (l : List Row) :
    overlay inp (importRow inp d r) l = overlay inp d (r :: l) := by
  have hupd {α : Type} (f g : Row → α) (x : Row) :
      (if x ∈ l then g x else Function.update f r (g r) x) = if x ∈ r :: l then g x else f x := by
    by_cases hx : x = r
    · subst hx; simp
    · simp [hx]
  ext a
  · simp only [overlay, importRow, import_block, List.mem_cons]
    split_ifs <;> first | rfl | tauto
  · simp only [overlay, importRow, import_block, List.mem_cons]
    split_ifs <;> first | rfl | tauto
  · exact hupd _ inp.row_generation a
  · exact hupd _ inp.token a
  · exact hupd _ inp.position a
  · exact hupd _ inp.length a
  · exact hupd _ (fun _ => 1) a

theorem importRows_eq (inp : Inputs) (l : List Row) (d : Device) :
    importRows inp d l = (overlay inp d (writtenRows inp l).1, (writtenRows inp l).2) := by
  induction l generalizing d with
  | nil => simp [importRows, writtenRows]
  | cons r rest ih =>
    simp only [importRows, writtenRows]
    split_ifs with h1 h2
    · exact ih d
    · simp
    · rw [ih, overlay_cons]

/-- an overlay is absorbed by one that covers at least its rows -/
theorem overlay_idem (inp : Inputs) (d : Device) (l : List Row) :
    overlay inp (overlay inp d l) l = overlay inp d l := by
  ext a <;> simp only [overlay] <;> split_ifs <;> rfl

theorem writtenRows_masked (inp : Inputs) (l : List Row) {r : Row} (h : r ∈ (writtenRows inp l).1) :
    r ∈ l ∧ masked inp r = true ∧ inp.active r = 1 := by
  induction l with
  | nil => simp [writtenRows] at h
  | cons x rest ih =>
    simp only [writtenRows] at h
    split_ifs at h with h1 h2
    · exact ⟨List.mem_cons_of_mem _ (ih h).1, (ih h).2⟩
    · simp at h
    · rcases List.mem_cons.1 h with rfl | h
      · refine ⟨List.mem_cons_self, by simpa using h1, ?_⟩
        by_contra ha
        exact h2 (Or.inl ha)
      · exact ⟨List.mem_cons_of_mem _ (ih h).1, (ih h).2⟩

/-- when the loop ends without refusing, it has written every masked row -/
theorem writtenRows_ok (inp : Inputs) (l : List Row) (h : (writtenRows inp l).2 = .ok ()) (r : Row) :
    r ∈ (writtenRows inp l).1 ↔ r ∈ l ∧ masked inp r = true := by
  induction l with
  | nil => simp [writtenRows]
  | cons x rest ih =>
    simp only [writtenRows] at h ⊢
    split_ifs at h ⊢ with h1 h2
    · rw [ih h, List.mem_cons]
      constructor
      · exact fun hr => ⟨Or.inr hr.1, hr.2⟩
      · rintro ⟨rfl | hr, hm⟩
        · rw [h1] at hm; cases hm
        · exact ⟨hr, hm⟩
    · rw [List.mem_cons, List.mem_cons, ih h]
      constructor
      · rintro (rfl | hr)
        · exact ⟨Or.inl rfl, by simpa using h1⟩
        · exact ⟨Or.inr hr.1, hr.2⟩
      · rintro ⟨rfl | hr, hm⟩
        · exact Or.inl rfl
        · exact Or.inr ⟨hr, hm⟩

/-! ## The checksum reads the masked blocks only -/

theorem adler32Chunk_congr {m m' : Mem} (n : ℕ) (offset : ℕ) (s : UInt32 × UInt32)
    (h : ∀ i < n, m (offset + i) = m' (offset + i)) :
    adler32Chunk m offset n s = adler32Chunk m' offset n s := by
  induction n generalizing offset s with
  | zero => rfl
  | succ n ih =>
    simp only [adler32Chunk]
    rw [show m offset = m' offset from h 0 (Nat.succ_pos n)]
    refine ih _ _ fun i hi => ?_
    rw [Nat.add_assoc, Nat.add_comm 1 i]
    exact h (i + 1) (by omega)

@[simp] theorem adler32Update_zero (m : Mem) (offset : ℕ) (s : UInt32 × UInt32) : adler32Update m offset 0 s = s := by
  rw [adler32Update]; rfl

theorem adler32Update_pos (m : Mem) (offset bytes : ℕ) (s : UInt32 × UInt32) (hb : 0 < bytes) :
    adler32Update m offset bytes s = adler32Update m (offset + min bytes 5552) (bytes - min bytes 5552)
      ((adler32Chunk m offset (min bytes 5552) s).1 % 65521, (adler32Chunk m offset (min bytes 5552) s).2 % 65521) := by
  rw [adler32Update, dif_neg (by omega)]

theorem adler32Update_congr {m m' : Mem} (offset bytes : ℕ) (s : UInt32 × UInt32)
    (h : ∀ i < bytes, m (offset + i) = m' (offset + i)) :
    adler32Update m offset bytes s = adler32Update m' offset bytes s := by
  induction bytes using Nat.strong_induction_on generalizing offset s with
  | _ bytes ih =>
    rcases Nat.eq_zero_or_pos bytes with rfl | hb
    · rw [adler32Update_zero, adler32Update_zero]
    · rw [adler32Update_pos m _ _ _ hb, adler32Update_pos m' _ _ _ hb,
        adler32Chunk_congr (min bytes 5552) offset s fun i hi => h i (by omega)]
      refine ih _ (by omega) _ _ fun i hi => ?_
      rw [Nat.add_assoc]
      exact h _ (by omega)

theorem checksumCache_congr (inp : Inputs) {c c' : Mem} (s : UInt32 × UInt32)
    (h : ∀ a, layerOf a < kLayers → masked inp (rowOf a) = true → c a = c' a) :
    checksumCache inp c s = checksumCache inp c' s := by
  refine List.foldl_ext _ _ _ fun s layer hl => List.foldl_ext _ _ _ fun s r _ => ?_
  unfold checksumRow
  split_ifs with hm
  · rfl
  · have hr : r.val < 4 := r.isLt
    have hb : r * kBlocksPerRequest < 8 := by simp only [kBlocksPerRequest]; omega
    refine adler32Update_congr _ _ _ fun i hi => h _ ?_ ?_
    · rw [(layerOf_block layer hb ⟨i, hi⟩).1]
      exact List.mem_range.1 hl
    · have hrow : rowOf ((layer * kPhysicalBlocks + r * kBlocksPerRequest) * kBlockBytes + i) = r := by
        apply Fin.ext
        rw [rowOf_block layer hb ⟨i, hi⟩]
        simp only [kBlocksPerRequest]
        omega
      rw [hrow]
      simpa using hm

theorem importChecksum_congr (inp : Inputs) {d d' : Device}
    (hk : ∀ a, layerOf a < kLayers → masked inp (rowOf a) = true → d.key a = d'.key a)
    (hv : ∀ a, layerOf a < kLayers → masked inp (rowOf a) = true → d.value a = d'.value a) :
    importChecksum inp d = importChecksum inp d' := by
  unfold importChecksum
  rw [checksumCache_congr inp (1, 0) hk, checksumCache_congr inp _ hv]

end Cruise.Controller
