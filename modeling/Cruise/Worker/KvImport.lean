/-
A KV import on the device, and the checksum it reports.

`Adler32Update` adds in 32 bits and reduces after at most 5552 bytes; `zlib.adler32` is the two sums of the format,
reduced at every byte. The device sums over the blocks it has written, the Host over the payload they came from.
Results:
- `additions_exact`: no 32-bit addition of `Adler32Update` overflows, whatever the bytes and however many.
- `update_sums`: it computes the sums of the format.
- `kvPayloadChecksum_bytes`: the Host's checksum is that of the masked blocks, one after the other.
- `import_faithful`: what an import leaves in the caches, and what is emitted of it.
-/
import Cruise.Controller.Greedy
import Cruise.Worker.TransferFile

namespace Cruise.Worker

open Cruise.Lib Cruise.Controller Cruise.Native

/-! ## 32-bit sums -/

/-- both sums are reduced -/
def Reduced (s : UInt32 × UInt32) : Prop := s.1.toNat < 65521 ∧ s.2.toNat < 65521

/-- no addition of a chunk overflows -/
def ChunkExact (data : Mem) (offset : ℕ) : ℕ → UInt32 × UInt32 → Prop
  | 0, _ => True
  | n + 1, s => s.1.toNat + (data offset).toNat < 2 ^ 32 ∧ s.2.toNat + (s.1.toNat + (data offset).toNat) < 2 ^ 32 ∧
      ChunkExact data (offset + 1) n (s.1 + (data offset).toUInt32, s.2 + (s.1 + (data offset).toUInt32))

/-- no addition of any chunk overflows -/
inductive AdditionsExact (data : Mem) : ℕ → ℕ → UInt32 × UInt32 → Prop where
  | done {offset s} : AdditionsExact data offset 0 s
  | chunk {offset bytes s} : 0 < bytes → ChunkExact data offset (min bytes 5552) s →
      AdditionsExact data (offset + min bytes 5552) (bytes - min bytes 5552)
        ((adler32Chunk data offset (min bytes 5552) s).1 % 65521, (adler32Chunk data offset (min bytes 5552) s).2 % 65521) →
      AdditionsExact data offset bytes s

/-- sums with room for `n` more bytes -/
def HasRoom (n : ℕ) (s : UInt32 × UInt32) : Prop :=
  s.1.toNat + 255 * n < 2 ^ 32 ∧ 2 * s.2.toNat + 2 * n * s.1.toNat + 255 * n * (n + 1) < 2 ^ 33

theorem reduced_hasRoom {s : UInt32 × UInt32} (h : Reduced s) {n : ℕ} (hn : n ≤ 5552) : HasRoom n s := by
  obtain ⟨h1, h2⟩ := h
  refine ⟨by omega, ?_⟩
  have hproduct : n * s.1.toNat ≤ 5552 * 65520 := Nat.mul_le_mul hn (by omega)
  have htriangle : n * (n + 1) ≤ 5552 * 5553 := Nat.mul_le_mul hn (by omega)
  calc 2 * s.2.toNat + 2 * n * s.1.toNat + 255 * n * (n + 1)
      = 2 * s.2.toNat + 2 * (n * s.1.toNat) + 255 * (n * (n + 1)) := by ring
    _ < 2 ^ 33 := by omega

/-- one byte of a chunk, with nothing lost -/
theorem chunk_byte {n : ℕ} {s : UInt32 × UInt32} (h : HasRoom (n + 1) s) (byte : UInt8) :
    s.1.toNat + byte.toNat < 2 ^ 32 ∧ s.2.toNat + (s.1.toNat + byte.toNat) < 2 ^ 32 ∧
      (s.1 + byte.toUInt32).toNat = s.1.toNat + byte.toNat ∧
      (s.2 + (s.1 + byte.toUInt32)).toNat = s.2.toNat + (s.1.toNat + byte.toNat) ∧
      HasRoom n (s.1 + byte.toUInt32, s.2 + (s.1 + byte.toUInt32)) := by
  obtain ⟨hfirst, hsecond⟩ := h
  have hbyte : byte.toNat ≤ 255 := Nat.le_of_lt_succ byte.toNat_lt
  have hwide : byte.toUInt32.toNat = byte.toNat := byte.toNat_toUInt32
  have hn : s.1.toNat ≤ (n + 1) * s.1.toNat := Nat.le_mul_of_pos_left _ (Nat.succ_pos n)
  have hb : 255 * 2 ≤ 255 * (n + 1) * (n + 1 + 1) := by nlinarith
  have h1 : s.1.toNat + byte.toNat < 2 ^ 32 := by omega
  have h2 : s.2.toNat + (s.1.toNat + byte.toNat) < 2 ^ 32 := by nlinarith
  have hnat1 : (s.1 + byte.toUInt32).toNat = s.1.toNat + byte.toNat := by
    rw [UInt32.toNat_add, hwide, Nat.mod_eq_of_lt h1]
  have hnat2 : (s.2 + (s.1 + byte.toUInt32)).toNat = s.2.toNat + (s.1.toNat + byte.toNat) := by
    rw [UInt32.toNat_add, hnat1, Nat.mod_eq_of_lt h2]
  refine ⟨h1, h2, hnat1, hnat2, ?_, ?_⟩
  · dsimp only
    rw [hnat1]
    omega
  · dsimp only
    rw [hnat1, hnat2]
    have hgrowth : 2 * (n + 1) * byte.toNat ≤ 2 * (n + 1) * 255 := Nat.mul_le_mul_left _ hbyte
    nlinarith

theorem chunk_exact (data : Mem) (n : ℕ) {offset : ℕ} {s : UInt32 × UInt32} (h : HasRoom n s) :
    ChunkExact data offset n s := by
  induction n generalizing offset s with
  | zero => trivial
  | succ n ih =>
    obtain ⟨h1, h2, -, -, hroom⟩ := chunk_byte h (data offset)
    exact ⟨h1, h2, ih hroom⟩

/-- a chunk, reduced once at its end, is the sums of the format -/
theorem chunk_sums (data : Mem) (offset n : ℕ) {s : UInt32 × UInt32} (h : HasRoom n s) :
    ((adler32Chunk data offset n s).1.toNat % 65521, (adler32Chunk data offset n s).2.toNat % 65521) =
      adlerSums data offset n (s.1.toNat % 65521, s.2.toNat % 65521) := by
  induction n generalizing offset s with
  | zero => rfl
  | succ n ih =>
    obtain ⟨-, -, hnat1, hnat2, hroom⟩ := chunk_byte h (data offset)
    have hstart : adlerByte (data offset) (s.1.toNat % 65521, s.2.toNat % 65521) =
        ((s.1.toNat + (data offset).toNat) % 65521, (s.2.toNat + (s.1.toNat + (data offset).toNat)) % 65521) := by
      unfold adlerByte
      dsimp only
      rw [Nat.mod_add_mod, ← Nat.add_mod]
    have hsplit : adlerSums data offset (n + 1) (s.1.toNat % 65521, s.2.toNat % 65521) =
        adlerSums data (offset + 1) n (adlerByte (data offset) (s.1.toNat % 65521, s.2.toNat % 65521)) := by
      rw [Nat.add_comm n 1, adlerSums_add]
      rfl
    unfold adler32Chunk
    dsimp only
    rw [ih _ hroom, hsplit, hstart]
    dsimp only
    rw [hnat1, hnat2]

theorem reduced_chunk (data : Mem) (offset n : ℕ) (s : UInt32 × UInt32) :
    Reduced ((adler32Chunk data offset n s).1 % 65521, (adler32Chunk data offset n s).2 % 65521) := by
  have hmod (x : UInt32) : (x % 65521).toNat < 65521 := by
    rw [UInt32.toNat_mod]
    exact Nat.mod_lt _ (by decide)
  exact ⟨hmod _, hmod _⟩

/-- **No addition of `Adler32Update` overflows.** -/
theorem additions_exact (data : Mem) (bytes : ℕ) {offset : ℕ} {s : UInt32 × UInt32} (h : Reduced s) :
    AdditionsExact data offset bytes s := by
  induction bytes using Nat.strong_induction_on generalizing offset s with
  | _ bytes ih =>
    rcases Nat.eq_zero_or_pos bytes with rfl | hb
    · exact .done
    · exact .chunk hb (chunk_exact data _ (reduced_hasRoom h (min_le_right _ _)))
        (ih _ (by omega) (reduced_chunk data offset _ s))

/-- **What `Adler32Update` computes.** -/
theorem update_sums (data : Mem) (offset bytes : ℕ) {s : UInt32 × UInt32} (h : Reduced s) :
    Reduced (adler32Update data offset bytes s) ∧
      ((adler32Update data offset bytes s).1.toNat, (adler32Update data offset bytes s).2.toNat) =
        adlerSums data offset bytes (s.1.toNat, s.2.toNat) := by
  induction bytes using Nat.strong_induction_on generalizing offset s with
  | _ bytes ih =>
    rcases Nat.eq_zero_or_pos bytes with rfl | hb
    · rw [adler32Update_zero]
      exact ⟨h, rfl⟩
    · rw [adler32Update_pos _ _ _ _ hb]
      obtain ⟨hreduced, hsums⟩ := ih (bytes - min bytes 5552) (by omega) (offset + min bytes 5552)
        (reduced_chunk data offset (min bytes 5552) s)
      refine ⟨hreduced, hsums.trans ?_⟩
      have hchunk := chunk_sums data offset (min bytes 5552) (reduced_hasRoom h (min_le_right _ _))
      rw [Nat.mod_eq_of_lt h.1, Nat.mod_eq_of_lt h.2] at hchunk
      dsimp only
      rw [UInt32.toNat_mod, UInt32.toNat_mod]
      have hmodulus : (65521 : UInt32).toNat = 65521 := rfl
      rw [hmodulus, hchunk, ← adlerSums_add, Nat.add_sub_cancel' (min_le_left _ _)]

/-! ## Two encodings of the sums -/

theorem adlerSums_congr {data data' : Mem} {offset offset' : ℕ} {n : ℕ}
    (h : ∀ k < n, data (offset + k) = data' (offset' + k)) (s : ℕ × ℕ) :
    adlerSums data offset n s = adlerSums data' offset' n s := by
  induction n with
  | zero => rfl
  | succ n ih =>
    rw [adlerSums_succ, adlerSums_succ, h n (Nat.lt_succ_self n), ih fun k hk => h k (Nat.lt_succ_of_lt hk)]

/-- the device's pair of words and the Host's number are the same sums -/
structure Encodes (s : UInt32 × UInt32) (checksum : ℕ) : Prop where
  reduced : Reduced s
  checksum : checksum = s.2.toNat * 65536 + s.1.toNat

theorem Encodes.start : Encodes (1, 0) 1 := ⟨⟨by decide, by decide⟩, rfl⟩

/-- both sides continue over the same bytes -/
theorem Encodes.update {s : UInt32 × UInt32} {checksum : ℕ} (h : Encodes s checksum) {data data' : Mem}
    {offset offset' n : ℕ} (hbytes : ∀ k < n, data (offset + k) = data' (offset' + k)) :
    Encodes (adler32Update data offset n s) (zlibAdler32 data' offset' n checksum) := by
  obtain ⟨⟨h1, h2⟩, hchecksum⟩ := h
  obtain ⟨hreduced, hsums⟩ := update_sums data offset n ⟨h1, h2⟩
  have hfirst : checksum % 65536 = s.1.toNat := by omega
  have hsecond : checksum / 65536 = s.2.toNat := by omega
  refine ⟨hreduced, ?_⟩
  rw [zlibAdler32_eq, hfirst, hsecond, ← adlerSums_congr hbytes, ← hsums]

/-- the checksum word -/
theorem Encodes.word {s : UInt32 × UInt32} {checksum : ℕ} (h : Encodes s checksum) :
    ((s.2 <<< 16) ||| s.1).toNat = checksum := by
  obtain ⟨⟨h1, h2⟩, hchecksum⟩ := h
  have hshift : (s.2 <<< 16).toNat = s.2.toNat <<< 16 := by
    rw [UInt32.toNat_shiftLeft]
    have hamount : (16 : UInt32).toNat % 32 = 16 := rfl
    rw [hamount, Nat.shiftLeft_eq]
    exact Nat.mod_eq_of_lt (by omega)
  rw [UInt32.toNat_or, hshift, ← Nat.shiftLeft_add_eq_or_of_lt (by omega), Nat.shiftLeft_eq, hchecksum]

/-! ## The masked blocks -/

theorem masked_testBit {inp : Inputs} (hmask : inp.import_mask.toNat < 16) (r : Row) :
    masked inp r = maskSelects (inp.import_mask.toNat : Int) r := by
  have hall : ∀ mask < 16, ∀ r : Row,
      ((BitVec.ofNat 32 mask &&& (1 <<< r.val)) != 0) = mask.testBit r := by decide
  unfold masked maskSelects
  rw [Int.toNat_natCast, ← hall _ hmask r, BitVec.ofNat_toNat, BitVec.setWidth_eq]

theorem checksumCache_encodes {inp : Inputs} {cache : Mem} {cache_base : ℕ} (hmask : inp.import_mask.toNat < 16)
    (hbytes : ∀ (layer : Fin 28) (r : Row), masked inp r = true → ∀ k < kBlockBytes,
      cache ((layer * kPhysicalBlocks + r * kBlocksPerRequest) * kBlockBytes + k) =
        inp.payload (cache_base + (layer * 4 + r) * BLOCK_BYTES + k))
    {s : UInt32 × UInt32} {checksum : ℕ} (h : Encodes s checksum) : Encodes (checksumCache inp cache s)
      ((List.range 28).foldl (fun checksum layer => (List.range 4).foldl (fun checksum row =>
        if maskSelects (inp.import_mask.toNat : Int) row then
          zlibAdler32 inp.payload (cache_base + (layer * 4 + row) * BLOCK_BYTES) BLOCK_BYTES checksum
        else checksum) checksum) checksum) := by
  have hrows : List.range 4 = rows.map Fin.val := rfl
  unfold checksumCache
  refine foldl_related _ (fun layer hlayer s checksum h => ?_) h
  rw [hrows, List.foldl_map]
  refine foldl_related _ (fun r _ s checksum h => ?_) h
  unfold checksumRow
  rw [← masked_testBit hmask]
  by_cases hm : masked inp r = true
  · rw [if_neg (by rw [hm]; decide), if_pos hm]
    exact h.update (hbytes ⟨layer, List.mem_range.1 hlayer⟩ r hm)
  · rw [if_pos (by simpa using hm), if_neg hm]
    exact h

/-- Adler-32: from 1 and 0, the sum of the bytes and the sum of those sums -/
def adler32 (bytes : List UInt8) : ℕ :=
  let s := bytes.foldl (fun s byte => adlerByte byte s) (1, 0)
  s.2 * 65536 + s.1

theorem adlerSums_map (data : Mem) (offset n : ℕ) (s : ℕ × ℕ) :
    ((List.range n).map fun k => data (offset + k)).foldl (fun s byte => adlerByte byte s) s = adlerSums data offset n s :=
  List.foldl_map

/-- the masked blocks of a payload, by cache, layer and row -/
def maskedBytes (payload : Mem) (import_mask : Int) : List UInt8 :=
  [0, 28 * 4 * BLOCK_BYTES].flatMap fun cache_base => (List.range 28).flatMap fun layer => (List.range 4).flatMap fun row =>
    if maskSelects import_mask row then
      (List.range BLOCK_BYTES).map fun k => payload (cache_base + (layer * 4 + row) * BLOCK_BYTES + k)
    else []

/-- **The Host's checksum is that of the masked blocks.** -/
theorem kvPayloadChecksum_bytes (payload : Mem) (import_mask : Int) :
    kvPayloadChecksum payload import_mask = adler32 (maskedBytes payload import_mask) := by
  let R (checksum : ℕ) (s : ℕ × ℕ) : Prop := s.1 < 65521 ∧ checksum = s.2 * 65536 + s.1
  suffices R (kvPayloadChecksum payload import_mask)
      ((maskedBytes payload import_mask).foldl (fun s byte => adlerByte byte s) (1, 0)) from this.2
  have hbytes (offset : ℕ) {checksum : ℕ} {s : ℕ × ℕ} (h : R checksum s) :
      R (zlibAdler32 payload offset BLOCK_BYTES checksum) (adlerSums payload offset BLOCK_BYTES s) := by
    obtain ⟨h1, hchecksum⟩ := h
    have hfirst : checksum % 65536 = s.1 := by omega
    have hsecond : checksum / 65536 = s.2 := by omega
    rw [zlibAdler32_eq, hfirst, hsecond]
    refine ⟨?_, rfl⟩
    have hblock : BLOCK_BYTES = 131071 + 1 := rfl
    rw [hblock, adlerSums_succ]
    exact Nat.mod_lt _ (by decide)
  unfold kvPayloadChecksum maskedBytes
  rw [List.foldl_flatMap]
  refine foldl_related _ (fun cache_base _ checksum s h => ?_) ⟨by decide, rfl⟩
  rw [List.foldl_flatMap]
  refine foldl_related _ (fun layer _ checksum s h => ?_) h
  rw [List.foldl_flatMap]
  refine foldl_related _ (fun row _ checksum s h => ?_) h
  split_ifs
  · rw [adlerSums_map]
    exact hbytes _ h
  · exact h

/-! ## An import -/

/-- an import that is not refused: its mask is of active rows -/
structure Importing (inp : Inputs) : Prop where
  validated : Validated inp
  importing : inp.importing = true
  mask : 1 ≤ inp.import_mask.toNat ∧ inp.import_mask.toNat ≤ 15
  active : ∀ r, masked inp r = true → inp.active r = 1

section Import

variable {inp : Inputs}

theorem importing_written (h : Importing inp) (d : Device) : ∃ l : List Row, (∀ r, r ∈ l ↔ masked inp r = true) ∧
    importPhase inp d = (overlay inp d l, .ok (importChecksum inp (overlay inp d l))) := by
  have hword : inp.import_mask.toInt = inp.import_mask.toNat := BitVec.toInt_eq_toNat_of_lt (by have := h.mask; omega)
  have hrange : ¬(inp.import_mask.toInt ≤ 0 ∨ inp.import_mask.toInt ≥ 16) := by
    have := h.mask
    rw [hword]
    omega
  have hrows : (importRows inp d rows).2 = .ok () := by
    refine importRows_accepts (fun r hr => ⟨h.active r hr, ?_⟩) rows d
    exact ((h.validated.row r).running (h.active r hr)).generation
  rw [importRows_eq] at hrows
  refine ⟨(writtenRows inp rows).1, fun r => ?_, ?_⟩
  · rw [writtenRows_ok inp rows hrows]
    exact and_iff_right (mem_rows r)
  · unfold importPhase
    rw [if_neg (by rw [h.importing]; decide), if_neg hrange, importRows_eq, hrows]

/-- the blocks the checksum is taken over hold the payload's -/
theorem imported_bytes {c cache payload : Mem} {origin : ℕ} {l : List Row}
    (hc : c = fun a => if layerOf a < kLayers ∧ rowOf a ∈ l then importedByte payload origin a else cache a) {r : Row}
    (hr : r ∈ l) (layer : Fin 28) {k : ℕ} (hk : k < kBlockBytes) :
    c ((layer * kPhysicalBlocks + r * kBlocksPerRequest) * kBlockBytes + k) =
      payload (origin + (layer * 4 + r) * BLOCK_BYTES + k) := by
  have hread : c ((layer * kPhysicalBlocks + r * kBlocksPerRequest) * kBlockBytes + k) = rowBlocks c r layer 0 ⟨k, hk⟩ := rfl
  rw [hread, hc, rowBlocks_overlay, if_pos hr]
  exact if_pos rfl

/-- **The checksum of an import** is the Host's. -/
theorem importChecksum_host (h : Importing inp) (d : Device) {l : List Row} (hl : ∀ r, r ∈ l ↔ masked inp r = true) :
    (importChecksum inp (overlay inp d l)).toNat = kvPayloadChecksum inp.payload inp.import_mask.toNat := by
  have hmask : inp.import_mask.toNat < 16 := by have := h.mask; omega
  have hhalf : kImportCacheElements * 2 = 28 * 4 * BLOCK_BYTES := by decide
  have hkeys (layer : Fin 28) (r : Row) (hr : masked inp r = true) (k : ℕ) (hk : k < kBlockBytes) :
      (overlay inp d l).key ((layer * kPhysicalBlocks + r * kBlocksPerRequest) * kBlockBytes + k) =
        inp.payload (0 + (layer * 4 + r) * BLOCK_BYTES + k) := imported_bytes rfl ((hl r).2 hr) layer hk
  have hvalues (layer : Fin 28) (r : Row) (hr : masked inp r = true) (k : ℕ) (hk : k < kBlockBytes) :
      (overlay inp d l).value ((layer * kPhysicalBlocks + r * kBlocksPerRequest) * kBlockBytes + k) =
        inp.payload (kImportCacheElements * 2 + (layer * 4 + r) * BLOCK_BYTES + k) :=
    imported_bytes rfl ((hl r).2 hr) layer hk
  have hvalue := checksumCache_encodes hmask hvalues (checksumCache_encodes hmask hkeys Encodes.start)
  rw [hhalf] at hvalue
  unfold importChecksum kvPayloadChecksum
  rw [hvalue.word, List.foldl_cons, List.foldl_cons, List.foldl_nil]

/-- whatever becomes of the call after its import, it emits the import's checksum -/
theorem epoch_checksum (h : Importing inp) (env : Env) (d : Device) :
    ∃ l : List Row, (∀ r, r ∈ l ↔ masked inp r = true) ∧
      (epoch env inp d).2.2.control 5 = checksumWord (importChecksum inp (overlay inp d l)) := by
  obtain ⟨l, hl, hphase⟩ := importing_written h d
  refine ⟨l, hl, ?_⟩
  have hvalid := (validate_ok_iff inp _).2 ⟨h.validated, rfl⟩
  have hword (loc : Locals) (status : Status) (final_active : Row → Int) :
      (emit inp loc status final_active).control 5 = checksumWord loc.import_checksum := by
    rw [emit_checksum, if_pos h.importing]
  unfold epoch prepare
  rw [hvalid]
  dsimp only
  rw [hphase]
  dsimp only
  cases hc : continuity (overlay inp d l).metadata inp with
  | error status => exact hword _ _ _
  | ok new_generation =>
    dsimp only
    generalize hstart : Decode.start _ inp _ = start
    have hkept := decodeLoop_checksum env inp inp.max_steps.toNat start
    have hfirst : start.loc.import_checksum = importChecksum inp (overlay inp d l) := by
      rw [← hstart]
      rfl
    cases hloop : decodeLoop env inp inp.max_steps.toNat start with
    | error e =>
      obtain ⟨status, loc⟩ := e
      have hloc : loc.import_checksum = _ := (hkept.2 _ hloop).trans hfirst
      rw [← hloc]
      exact hword _ _ _
    | ok s =>
      have hloc : s.loc.import_checksum = _ := (hkept.1 s hloop).trans hfirst
      rw [← hloc]
      exact hword _ _ _

/-- a checksum as the Host reads its word -/
theorem checksumWord_toNat (checksum : UInt32) : (BitVec.ofInt 32 (checksumWord checksum)).toNat = checksum.toNat := by
  unfold checksumWord
  rw [BitVec.ofInt_toInt]
  rfl

/-- what an import leaves and emits -/
structure ImportFaithful (inp : Inputs) (d : Device) : Prop where
  accepted : ∃ checksum, (importPhase inp d).2 = .ok checksum
  imported : ∀ r, masked inp r = true →
    rowBlocks (importPhase inp d).1.key r = importedBlocks inp.payload 0 r ∧
      rowBlocks (importPhase inp d).1.value r = importedBlocks inp.payload (kImportCacheElements * 2) r
  untouched : ∀ r, masked inp r = false →
    rowBlocks (importPhase inp d).1.key r = rowBlocks d.key r ∧
      rowBlocks (importPhase inp d).1.value r = rowBlocks d.value r
  emitted : ∀ plat env s inputs e, readInputs plat inputs = some inp → (proc plat env s inputs).emitted = some e →
    (BitVec.ofInt 32 (e.control 5)).toNat = kvPayloadChecksum inp.payload inp.import_mask.toNat
  adler : kvPayloadChecksum inp.payload inp.import_mask.toNat = adler32 (maskedBytes inp.payload inp.import_mask.toNat)

/-- the checksum a call reports of an import is the Host's of what it read -/
theorem import_emitted (h : Importing inp) {plat : Platform} {env : Env} {s : Resident} {inputs : List (Option FlowMsg)}
    {e : Emission} (hread : readInputs plat inputs = some inp) (he : (proc plat env s inputs).emitted = some e) :
    (BitVec.ofInt 32 (e.control 5)).toNat = kvPayloadChecksum inp.payload inp.import_mask.toNat := by
  obtain ⟨inp', d, hread', -, rfl, -⟩ := proc_emitted he
  obtain rfl : inp = inp' := Option.some.inj (hread.symm.trans hread')
  obtain ⟨l, hl, hword⟩ := epoch_checksum h env d
  rw [hword, checksumWord_toNat, importChecksum_host h d hl]

end Import

/-- **A KV import is faithful**, and no addition of its checksum overflows. -/
theorem import_faithful {inp : Inputs} (h : Importing inp) (d : Device) : ImportFaithful inp d ∧ Reduced (1, 0) ∧
    ∀ data offset bytes s, Reduced s →
      AdditionsExact data offset bytes s ∧ Reduced (adler32Update data offset bytes s) := by
  obtain ⟨l, hl, hphase⟩ := importing_written h d
  refine ⟨⟨⟨_, by rw [hphase]⟩, fun r hr => ?_, fun r hr => ?_, fun _ _ _ _ _ hread he => import_emitted h hread he, ?_⟩, ?_, ?_⟩
  · rw [hphase]
    refine ⟨(rowBlocks_overlay d.key inp.payload 0 l r).trans (if_pos ((hl r).2 hr)), ?_⟩
    exact (rowBlocks_overlay d.value inp.payload (kImportCacheElements * 2) l r).trans (if_pos ((hl r).2 hr))
  · have hnot : r ∉ l := fun hmem => by rw [(hl r).1 hmem] at hr; cases hr
    rw [hphase]
    refine ⟨(rowBlocks_overlay d.key inp.payload 0 l r).trans (if_neg hnot), ?_⟩
    exact (rowBlocks_overlay d.value inp.payload (kImportCacheElements * 2) l r).trans (if_neg hnot)
  · exact kvPayloadChecksum_bytes _ _
  · exact ⟨by decide, by decide⟩
  · intro data offset bytes s hs
    exact ⟨additions_exact data bytes hs, (update_sums data _ bytes hs).1⟩

/-! ### Row 0 at position 3 -/

def importedRow : Inputs where
  max_steps := 1
  eos := fun _ => 9
  sampling_mode := 0
  graph_variant := 0
  importing := true
  import_mask := 1
  row_generation := ![1, 0, 0, 0]
  token := ![11, 0, 0, 0]
  position := ![3, 0, 0, 0]
  length := ![4, 0, 0, 0]
  slot := ![3, 256, 512, 768]
  active := ![1, 0, 0, 0]
  block_table := fun i => i
  tiling := fun _ => 0
  payload := fun _ => 7

theorem importedRow_importing : Importing importedRow := by
  obtain ⟨reasons, h⟩ : ∃ reasons, validate importedRow = .ok reasons := ⟨_, rfl⟩
  refine ⟨((validate_ok_iff _ reasons).1 h).1, rfl, by decide, ?_⟩
  decide

theorem import_faithful_row : ImportFaithful importedRow .unused ∧ Reduced (1, 0) ∧
    ∀ data offset bytes s, Reduced s →
      AdditionsExact data offset bytes s ∧ Reduced (adler32Update data offset bytes s) :=
  import_faithful importedRow_importing .unused

end Cruise.Worker
