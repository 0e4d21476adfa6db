/-
The transfer file: `write_kv_snapshot` against `ReadTransfer`.

- `file_header`, `file_payload`: what the native side finds in a published file.
- `published_read`: the reader accepts exactly the published snapshots whose checksum is not zero, and returns them.
- `read_decoded`: whatever it accepts is a snapshot, but for the checksum.
- `transfer_file`: both.
The reader refuses a checksum of zero, and an Adler-32 can be zero: `zero_checksum_refused`.
-/
import Cruise.Native.Accepted
import Cruise.Worker.Transfer

namespace Cruise.Worker

open Cruise.Lib Cruise.Controller Cruise.Native

/-! ## Snapshots -/

/-- `write_kv_snapshot`: the file it leaves at a resolved destination -/
def writeKvSnapshot (destination : String) (snapshot : ResidentKVSnapshot) : Option (ℕ × Mem) :=
  if snapshot.validate ≠ .ok () then none
  else if destination.toList.take 9 ≠ "/dev/shm/".toList then none
  else kvSnapshotFile snapshot

/-- every check of `validate` but the checksum's -/
structure ResidentKVSnapshot.WellFormed (snapshot : ResidentKVSnapshot) : Prop where
  transfer_id : 0 < snapshot.transfer_id
  length : snapshot.row_generations.length = 4
  sign : ∀ generation ∈ snapshot.row_generations, 0 ≤ generation
  mask : 0 < snapshot.import_mask ∧ snapshot.import_mask < 16
  agree : ∀ row ∈ List.range 4,
    maskSelects snapshot.import_mask row = decide (0 < snapshot.row_generations.getD row 0)
  payload : snapshot.payload_bytes = PAYLOAD_BYTES

theorem snapshotValidate_ok_iff (snapshot : ResidentKVSnapshot) : snapshot.validate = .ok () ↔
    snapshot.WellFormed ∧ snapshot.checksum = kvPayloadChecksum snapshot.payload snapshot.import_mask := by
  unfold ResidentKVSnapshot.validate
  simp only [except_bind_ok, refuse_ok, exists_const, not_not, not_exists, not_and, gt_iff_lt, ne_eq]
  constructor
  · intro ⟨h1, h2, h3, h4, h5, h6, h7⟩
    exact ⟨⟨by omega, h2, fun g hg => not_lt.1 (h3 g hg), by omega, h5, h6⟩, h7⟩
  · intro ⟨⟨h1, h2, h3, h4, h5, h6⟩, h7⟩
    exact ⟨by omega, h2, fun g hg => not_lt.2 (h3 g hg), by omega, h5, h6, h7⟩

/-- the checksum is the last check -/
theorem ResidentKVSnapshot.WellFormed.validate {snapshot : ResidentKVSnapshot} (h : snapshot.WellFormed) :
    snapshot.validate = .ok () ∨ snapshot.validate = .error .checksum := by
  have hothers : { snapshot with checksum := kvPayloadChecksum snapshot.payload snapshot.import_mask }.validate =
      .ok () := (snapshotValidate_ok_iff _).2 ⟨⟨h.transfer_id, h.length, h.sign, h.mask, h.agree, h.payload⟩, rfl⟩
  unfold ResidentKVSnapshot.validate at hothers ⊢
  simp only [except_bind_ok, refuse_ok] at hothers
  obtain ⟨_, h1, _, h2, _, h3, _, h4, _, h5, _, h6, -⟩ := hothers
  simp only [refuse, if_neg h1, if_neg h2, if_neg h3, if_neg h4, if_neg h5, if_neg h6]
  by_cases h7 : snapshot.checksum = kvPayloadChecksum snapshot.payload snapshot.import_mask
  · exact Or.inl (if_neg (not_not.2 h7))
  · exact Or.inr (if_pos h7)

/-! ## The checksum's range -/

/-- one byte of `zlib.adler32` -/
def adlerByte (byte : UInt8) (s : ℕ × ℕ) : ℕ × ℕ :=
  ((s.1 + byte.toNat) % 65521, (s.2 + (s.1 + byte.toNat) % 65521) % 65521)

/-- the two sums after `count` bytes -/
def adlerSums (data : Mem) (offset count : ℕ) (s : ℕ × ℕ) : ℕ × ℕ :=
  (List.range count).foldl (fun s k => adlerByte (data (offset + k)) s) s

theorem zlibAdler32_eq (data : Mem) (offset count value : ℕ) : zlibAdler32 data offset count value =
    (adlerSums data offset count (value % 65536, value / 65536)).2 * 65536 +
      (adlerSums data offset count (value % 65536, value / 65536)).1 := rfl

theorem adlerSums_succ (data : Mem) (offset n : ℕ) (s : ℕ × ℕ) :
    adlerSums data offset (n + 1) s = adlerByte (data (offset + n)) (adlerSums data offset n s) := by
  rw [adlerSums, List.range_succ, List.foldl_append, List.foldl_cons, List.foldl_nil]
  rfl

theorem zlibAdler32_lt (data : Mem) (offset value : ℕ) {count : ℕ} (h : 0 < count) :
    zlibAdler32 data offset count value < 2 ^ 32 := by
  obtain ⟨n, rfl⟩ : ∃ n, count = n + 1 := ⟨count - 1, by omega⟩
  rw [zlibAdler32_eq, adlerSums_succ]
  generalize adlerSums data offset n (value % 65536, value / 65536) = s
  have h1 : (adlerByte (data (offset + n)) s).1 < 65521 := Nat.mod_lt _ (by decide)
  have h2 : (adlerByte (data (offset + n)) s).2 < 65521 := Nat.mod_lt _ (by decide)
  omega

/-- what holds of 1 and of every continued checksum holds of the payload's -/
theorem kvPayloadChecksum_inv (P : ℕ → Prop) {payload : Mem} (import_mask : Int) (h1 : P 1)
    (h : ∀ offset c, P c → P (zlibAdler32 payload offset BLOCK_BYTES c)) : P (kvPayloadChecksum payload import_mask) := by
  unfold kvPayloadChecksum
  refine List.foldlRecOn _ _ h1 fun c hc base _ => ?_
  refine List.foldlRecOn _ _ hc fun c hc layer _ => ?_
  refine List.foldlRecOn _ _ hc fun c hc row _ => ?_
  split_ifs
  · exact h _ _ hc
  · exact hc

theorem kvPayloadChecksum_lt (payload : Mem) (import_mask : Int) : kvPayloadChecksum payload import_mask < 2 ^ 32 := by
  have hblock : 0 < BLOCK_BYTES := by decide
  exact kvPayloadChecksum_inv (· < 2 ^ 32) import_mask (by decide) fun offset c _ => zlibAdler32_lt payload offset c hblock

/-! ## What is in a published file -/

section File

variable {snapshot : ResidentKVSnapshot} {bytes : ℕ} {stream : Mem}

theorem header_length (hfits : Fits transferHeaderFields snapshot.header) :
    (pack transferHeaderFields snapshot.header).length = CRUISE_RESIDENT_TRANSFER_HEADER_BYTES := by
  rw [pack_length hfits.length_eq]
  rfl

/-- a file in parts: its header fits the record, and behind it comes the payload -/
theorem file_parts (h : kvSnapshotFile snapshot = some (bytes, stream)) :
    Fits transferHeaderFields snapshot.header ∧
      bytes = CRUISE_RESIDENT_TRANSFER_HEADER_BYTES + snapshot.payload_bytes ∧
      ∀ a, stream a = if a < CRUISE_RESIDENT_TRANSFER_HEADER_BYTES
        then (pack transferHeaderFields snapshot.header).getD a 0
        else snapshot.payload (a - CRUISE_RESIDENT_TRANSFER_HEADER_BYTES) := by
  unfold kvSnapshotFile structPack at h
  split_ifs at h with hfits
  · cases h
    refine ⟨hfits, by rw [header_length hfits], fun a => ?_⟩
    show (if _ < _ then _ else _) = _
    rw [header_length hfits]
  · cases h

theorem file_payload (h : kvSnapshotFile snapshot = some (bytes, stream)) (a : ℕ) :
    stream (CRUISE_RESIDENT_TRANSFER_HEADER_BYTES + a) = snapshot.payload a := by
  rw [(file_parts h).2.2, if_neg (by omega), Nat.add_sub_cancel_left]

theorem file_header (h : kvSnapshotFile snapshot = some (bytes, stream)) :
    unpack transferHeaderFields (loadBytes stream 0 CRUISE_RESIDENT_TRANSFER_HEADER_BYTES) = snapshot.header := by
  obtain ⟨hfits, -, hstream⟩ := file_parts h
  have hload : loadBytes stream 0 CRUISE_RESIDENT_TRANSFER_HEADER_BYTES = pack transferHeaderFields snapshot.header := by
    rw [← header_length hfits]
    refine loadBytes_eq _ 0 _ fun k hk => ?_
    have hk' := hk
    rw [header_length hfits] at hk'
    rw [Nat.zero_add, hstream, if_pos hk', List.getD_eq_getElem?_getD, List.getElem?_eq_getElem hk, Option.getD_some]
  rw [hload, unpack_pack hfits]

/-- the header a snapshot is published with, as the reader sees it -/
def ResidentKVSnapshot.transferHeader (snapshot : ResidentKVSnapshot) : TransferHeader where
  magic := CRUISE_RESIDENT_TRANSFER_MAGIC
  version := CRUISE_RESIDENT_TRANSFER_VERSION
  header_bytes := CRUISE_RESIDENT_TRANSFER_HEADER_BYTES
  transfer_id := snapshot.transfer_id
  payload_bytes := snapshot.payload_bytes
  import_mask := snapshot.import_mask
  row_generations := fun r => snapshot.row_generations.getD r 0
  layers := 28
  batch_size := 4
  block_size := 128
  kv_heads := 4
  head_size := 128
  element_bytes := 2
  checksum := snapshot.checksum

theorem header_eq (hlen : snapshot.row_generations.length = 4) : snapshot.header =
    [0x4352554953454B56, 1, 80, snapshot.transfer_id, snapshot.payload_bytes, snapshot.import_mask,
      snapshot.row_generations.getD 0 0, snapshot.row_generations.getD 1 0, snapshot.row_generations.getD 2 0,
      snapshot.row_generations.getD 3 0, 28, 4, 128, 4, 128, 2, snapshot.checksum] := by
  unfold ResidentKVSnapshot.header
  generalize snapshot.row_generations = gens at hlen ⊢
  rw [list_of_length_four hlen]
  rfl

theorem readTransferHeader_published (hlen : snapshot.row_generations.length = 4)
    (h : kvSnapshotFile snapshot = some (bytes, stream)) :
    readTransferHeader stream = snapshot.transferHeader := by
  unfold readTransferHeader
  rw [file_header h, header_eq hlen]
  unfold ResidentKVSnapshot.transferHeader
  simp only [TransferHeader.mk.injEq]
  refine ⟨rfl, rfl, rfl, rfl, rfl, rfl, ?_, rfl, rfl, rfl, rfl, rfl, rfl, rfl⟩
  funext r
  fin_cases r <;> rfl

/-! ## From the writer to the reader -/

theorem I_range {v : Int} (h0 : 0 ≤ v) (h1 : v < 2 ^ 32) : Field.I.InRange v := ⟨h0, h1⟩

theorem i_range {v : Int} (h0 : 0 ≤ v) (h1 : v < 2 ^ 31) : Field.i.InRange v := by
  refine ⟨?_, h1⟩
  have : (0 : Int) ≤ 256 ^ 4 / 2 := by decide
  exact le_trans (neg_nonpos.2 this) h0

theorem Q_range {v : Int} (h0 : 0 ≤ v) (h1 : v < 2 ^ 64) : Field.Q.InRange v := ⟨h0, h1⟩

/-- what the writer can pack -/
theorem header_fits (h : snapshot.WellFormed) (hid : snapshot.transfer_id < 2 ^ 64)
    (hgen : ∀ generation ∈ snapshot.row_generations, generation < 2 ^ 31)
    (hsum : snapshot.checksum = kvPayloadChecksum snapshot.payload snapshot.import_mask) :
    Fits transferHeaderFields snapshot.header := by
  have hrow (i : ℕ) (hi : i < 4) : Field.i.InRange (snapshot.row_generations.getD i 0) := by
    have hmem : snapshot.row_generations.getD i 0 ∈ snapshot.row_generations := getD_mem (by rw [h.length]; exact hi) 0
    exact i_range (h.sign _ hmem) (hgen _ hmem)
  have hid0 := h.transfer_id
  have hpayload := h.payload
  have hmask := h.mask
  have hlt := kvPayloadChecksum_lt snapshot.payload snapshot.import_mask
  have hbytes : (snapshot.payload_bytes : Int) < 2 ^ 64 := by rw [hpayload]; decide
  rw [header_eq h.length]
  refine .cons (by decide) (.cons (by decide) (.cons (by decide) (.cons (Q_range (by omega) hid)
    (.cons (Q_range (by omega) hbytes) (.cons (I_range (by omega) (by omega)) (.cons (hrow 0 (by decide))
      (.cons (hrow 1 (by decide)) (.cons (hrow 2 (by decide)) (.cons (hrow 3 (by decide)) ?_)))))))))
  refine .cons (by decide) (.cons (by decide) (.cons (by decide) (.cons (by decide) (.cons (by decide)
    (.cons (by decide) (.cons (I_range (by omega) (by omega)) .nil))))))

/-- the rows pass the reader's loop -/
theorem rows_agree (h : snapshot.WellFormed) {gens : Row → Int32}
    (hagree : ∀ r, selected snapshot.import_mask.toNat r = true → (gens r).toInt = snapshot.row_generations.getD r 0) :
    ¬ ∃ r : Row, if selected snapshot.import_mask.toNat r
      then snapshot.row_generations.getD r 0 ≤ 0 ∨ snapshot.row_generations.getD r 0 ≠ (gens r).toInt
      else snapshot.row_generations.getD r 0 ≠ 0 := by
  rintro ⟨r, hr⟩
  have hrow : maskSelects snapshot.import_mask r = decide (0 < snapshot.row_generations.getD r 0) :=
    h.agree r (List.mem_range.2 r.isLt)
  have hsign : 0 ≤ snapshot.row_generations.getD r 0 := by
    apply h.sign
    exact getD_mem (by rw [h.length]; exact r.isLt) 0
  split_ifs at hr with hsel
  · have hpos : 0 < snapshot.row_generations.getD r 0 := of_decide_eq_true (hrow.symm.trans hsel)
    have heq := hagree r hsel
    omega
  · have hnot : ¬ 0 < snapshot.row_generations.getD r 0 := by
      intro hpos
      exact hsel (hrow.trans (decide_eq_true hpos))
    omega

theorem published_read (h : snapshot.WellFormed) (hid : snapshot.transfer_id < 2 ^ 64)
    (hsum : snapshot.checksum = kvPayloadChecksum snapshot.payload snapshot.import_mask) {destination : String}
    (hdest : destination.toList.take 9 = "/dev/shm/".toList)
    (hfile : kvSnapshotFile snapshot = some (bytes, stream)) {env : BridgeEnv} {gens : Row → Int32}
    (henv : env.file destination = some (bytes, stream))
    (hagree : ∀ r, selected snapshot.import_mask.toNat r = true → (gens r).toInt = snapshot.row_generations.getD r 0) :
    readTransfer env destination (UInt64.ofNat snapshot.transfer_id.toNat) gens =
      if snapshot.checksum = 0 then none
      else some (snapshot.payload, snapshot.import_mask.toNat, snapshot.checksum.toNat) := by
  have hid0 := h.transfer_id
  have hword : (UInt64.ofNat snapshot.transfer_id.toNat).toNat = snapshot.transfer_id.toNat :=
    UInt64.toNat_ofNat_of_lt (show snapshot.transfer_id.toNat < 2 ^ 64 by omega)
  have hne : UInt64.ofNat snapshot.transfer_id.toNat ≠ 0 := by
    intro h0
    rw [h0] at hword
    have : snapshot.transfer_id.toNat = 0 := hword.symm
    omega
  have hbytes : bytes = CRUISE_RESIDENT_TRANSFER_HEADER_BYTES + CRUISE_RESIDENT_IMPORT_PAYLOAD_BYTES := by
    rw [(file_parts hfile).2.1, h.payload, payload_bytes_eq]
  have hpayload : (fun a => stream (CRUISE_RESIDENT_TRANSFER_HEADER_BYTES + a)) = snapshot.payload :=
    funext fun a => file_payload hfile a
  unfold readTransfer
  rw [if_neg (by simp [hne, hdest]), henv]
  simp only
  rw [readTransferHeader_published h.length hfile, hpayload, hword]
  have hmask := h.mask
  have hlength : (snapshot.payload_bytes : Int) = CRUISE_RESIDENT_IMPORT_PAYLOAD_BYTES := by
    rw [h.payload, payload_bytes_eq]
  by_cases hzero : snapshot.checksum = 0
  · rw [if_pos hzero, if_pos]
    right; right; right; right; right; right; right; right; right; right; right; right; right; right
    exact hzero
  · rw [if_neg hzero, if_neg]
    · exact if_neg (rows_agree h hagree)
    · have hblock : (kBlockSize : Int) = 128 := rfl
      simp only [ResidentKVSnapshot.transferHeader, hbytes, hlength, hblock]
      omega

end File

/-! ## From the reader to a snapshot -/

/-- the header fields and the payload of a file, as a snapshot -/
def decodedSnapshot (bytes : ℕ) (stream : Mem) : ResidentKVSnapshot :=
  let header := readTransferHeader stream
  { transfer_id := header.transfer_id
    import_mask := header.import_mask
    row_generations := rows.map header.row_generations
    payload_bytes := bytes - CRUISE_RESIDENT_TRANSFER_HEADER_BYTES
    payload := fun a => stream (CRUISE_RESIDENT_TRANSFER_HEADER_BYTES + a)
    checksum := header.checksum }

theorem rows_map_getD {α : Type} (f : Row → α) (r : Row) (d : α) : (rows.map f).getD r d = f r := by
  fin_cases r <;> rfl

theorem decoded_generations (bytes : ℕ) (stream : Mem) :
    (decodedSnapshot bytes stream).row_generations = rows.map (readTransferHeader stream).row_generations := rfl

theorem decoded_generation (bytes : ℕ) (stream : Mem) (r : Row) :
    (decodedSnapshot bytes stream).row_generations.getD r 0 = (readTransferHeader stream).row_generations r := by
  rw [decoded_generations]
  exact rows_map_getD _ r _

/-- an accepted file and what the reader made of it -/
theorem read_decoded {env : BridgeEnv} {path : String} {transfer_id : UInt64} {gens : Row → Int32} {payload : Mem}
    {mask checksum : ℕ} (h : readTransfer env path transfer_id gens = some (payload, mask, checksum)) :
    ∃ bytes stream, env.file path = some (bytes, stream) ∧ (decodedSnapshot bytes stream).WellFormed ∧
      (decodedSnapshot bytes stream).transfer_id = transfer_id.toNat ∧
      payload = (decodedSnapshot bytes stream).payload ∧ (mask : Int) = (decodedSnapshot bytes stream).import_mask ∧
      (checksum : Int) = (decodedSnapshot bytes stream).checksum := by
  unfold readTransfer at h
  split_ifs at h with hguard
  cases hfile : env.file path with
  | none =>
    rw [hfile] at h
    cases h
  | some file =>
    obtain ⟨bytes, stream⟩ := file
    rw [hfile] at h
    simp only at h
    split_ifs at h with hbad hrows
    cases h
    refine ⟨bytes, stream, rfl, ?_⟩
    simp only [not_or, not_le, not_not] at hbad hguard
    obtain ⟨hbytes, -, -, -, hid, -, hzero, hlt, -⟩ := hbad
    have hmask : 0 ≤ (readTransferHeader stream).import_mask := (fits_getD (transferHeader_fits stream) 5 .I rfl).1
    have hsum : 0 ≤ (readTransferHeader stream).checksum := (fits_getD (transferHeader_fits stream) 16 .I rfl).1
    have hpositive : 0 < transfer_id.toNat := by
      apply Nat.pos_of_ne_zero
      intro h0
      exact hguard.1 (UInt64.toNat_inj.1 h0)
    -- the reader's row loop, read as the snapshot's two generation checks
    have hrow (r : Row) : 0 ≤ (readTransferHeader stream).row_generations r ∧
        (selected (readTransferHeader stream).import_mask.toNat r =
          decide (0 < (readTransferHeader stream).row_generations r)) := by
      have hr := not_exists.1 hrows r
      split_ifs at hr with hsel
      · have hpos : 0 < (readTransferHeader stream).row_generations r := by omega
        exact ⟨by omega, hsel.trans (decide_eq_true hpos).symm⟩
      · have hnone : (readTransferHeader stream).row_generations r = 0 := by omega
        rw [hnone]
        exact ⟨le_refl _, by simpa using hsel⟩
    refine ⟨⟨?_, rfl, ?_, ?_, ?_, ?_⟩, hid, rfl, Int.toNat_of_nonneg hmask, Int.toNat_of_nonneg hsum⟩
    · show 0 < (readTransferHeader stream).transfer_id
      omega
    · intro generation hgen
      obtain ⟨r, -, rfl⟩ := List.mem_map.1 hgen
      exact (hrow r).1
    · show 0 < (readTransferHeader stream).import_mask ∧ (readTransferHeader stream).import_mask < 16
      omega
    · intro row hlt
      have hrange : row < 4 := List.mem_range.1 hlt
      have hr := (hrow ⟨row, hrange⟩).2
      rw [← decoded_generation bytes stream ⟨row, hrange⟩] at hr
      exact hr
    · show bytes - CRUISE_RESIDENT_TRANSFER_HEADER_BYTES = PAYLOAD_BYTES
      rw [hbytes, payload_bytes_eq, Nat.add_sub_cancel_left]

/-! ## A checksum of zero -/

theorem adlerSums_add (data : Mem) (offset m n : ℕ) (s : ℕ × ℕ) :
    adlerSums data offset (m + n) s = adlerSums data (offset + m) n (adlerSums data offset m s) := by
  induction n with
  | zero => rfl
  | succ n ih => rw [← Nat.add_assoc, adlerSums_succ, adlerSums_succ, ih, Nat.add_assoc]

/-- the sums after a run of equal bytes -/
theorem adlerSums_run {data : Mem} {offset n : ℕ} (byte : UInt8) (h : ∀ k < n, data (offset + k) = byte) {a b : ℕ}
    (ha : a < 65521) (hb : b < 65521) : adlerSums data offset n (a, b) =
      ((a + n * byte.toNat) % 65521, (b + n * a + byte.toNat * ((n + 1) * n / 2)) % 65521) := by
  induction n with
  | zero =>
    have h1 : (a + 0 * byte.toNat) % 65521 = a := by omega
    have h2 : (b + 0 * a + byte.toNat * ((0 + 1) * 0 / 2)) % 65521 = b := by omega
    rw [h1, h2]
    rfl
  | succ n ih =>
    rw [adlerSums_succ, ih fun k hk => h k (by omega), h n (by omega), adlerByte]
    have htriangle : (n + 1 + 1) * (n + 1) / 2 = (n + 1) * n / 2 + (n + 1) := Nat.triangle_succ (n + 1)
    have hfirst : ((a + n * byte.toNat) % 65521 + byte.toNat) % 65521 = (a + (n + 1) * byte.toNat) % 65521 := by
      rw [Nat.mod_add_mod, Nat.add_mul, Nat.one_mul, Nat.add_assoc]
    simp only
    rw [hfirst, ← Nat.add_mod, htriangle]
    refine Prod.ext rfl (congrArg (· % 65521) ?_)
    ring

/-- the sum of zeros continues a sum of zero -/
theorem zlibAdler32_zeros {data : Mem} {offset count : ℕ} (h : ∀ k < count, data (offset + k) = 0) :
    zlibAdler32 data offset count 0 = 0 := by
  rw [zlibAdler32_eq, adlerSums_run 0 h (by decide) (by decide)]
  simp

/-- 63473 zeros, 256 bytes of 255, one of 240, then zeros -/
def zeroPayload : Mem := fun a =>
  if a < 63473 then 0 else if a < 63729 then 255 else if a < 63730 then 240 else 0

theorem zeroPayload_first : zlibAdler32 zeroPayload 0 BLOCK_BYTES 1 = 0 := by
  have h1 : adlerSums zeroPayload 0 63473 (1, 0) = (1, 63473) :=
    adlerSums_run 0 (fun k hk => if_pos (by omega)) (by decide) (by decide)
  have h2 : adlerSums zeroPayload (0 + 63473) 256 (1, 63473) = (65281, 0) :=
    adlerSums_run 255 (fun k hk => (if_neg (by omega)).trans (if_pos (by omega))) (by decide) (by decide)
  have h3 : adlerSums zeroPayload (0 + (63473 + 256)) 1 (65281, 0) = (0, 0) :=
    adlerSums_run 240 (fun k hk => (if_neg (by omega)).trans ((if_neg (by omega)).trans (if_pos (by omega))))
      (by decide) (by decide)
  have h4 : adlerSums zeroPayload (0 + (63473 + 256 + 1)) 67342 (0, 0) = (0, 0) :=
    adlerSums_run 0 (fun k hk => (if_neg (by omega)).trans ((if_neg (by omega)).trans (if_neg (by omega))))
      (by decide) (by decide)
  have hall : adlerSums zeroPayload 0 BLOCK_BYTES (1 % 65536, 1 / 65536) = (0, 0) := by
    have hblock : BLOCK_BYTES = 63473 + 256 + 1 + 67342 := rfl
    have hstart : (1 % 65536, 1 / 65536) = (1, 0) := rfl
    rw [hblock, hstart, adlerSums_add, adlerSums_add, adlerSums_add, h1, h2, h3, h4]
  rw [zlibAdler32_eq, hall]
  rfl

theorem zeroPayload_rest {offset : ℕ} (h : BLOCK_BYTES ≤ offset) : zlibAdler32 zeroPayload offset BLOCK_BYTES 0 = 0 := by
  refine zlibAdler32_zeros fun k hk => ?_
  have hblock : BLOCK_BYTES = 131072 := rfl
  rw [zeroPayload, if_neg (by omega), if_neg (by omega), if_neg (by omega)]

/-- a mask of 1 leaves of each layer its first block -/
theorem rows_first (f : ℕ → ℕ → ℕ) (checksum : ℕ) :
    (List.range 4).foldl (fun checksum row => if maskSelects 1 row then f row checksum else checksum) checksum =
      f 0 checksum := rfl

/-- the checksum of further layers once it is zero -/
theorem zeroPayload_layers (cache_base : ℕ) (layers : List ℕ)
    (h : ∀ layer ∈ layers, BLOCK_BYTES ≤ cache_base + layer * 4 * BLOCK_BYTES) :
    layers.foldl (fun checksum layer => (List.range 4).foldl (fun checksum row =>
      if maskSelects 1 row then
        zlibAdler32 zeroPayload (cache_base + (layer * 4 + row) * BLOCK_BYTES) BLOCK_BYTES checksum
      else checksum) checksum) 0 = 0 := by
  induction layers with
  | nil => rfl
  | cons layer rest ih =>
    rw [List.foldl_cons, rows_first fun row checksum =>
      zlibAdler32 zeroPayload (cache_base + (layer * 4 + row) * BLOCK_BYTES) BLOCK_BYTES checksum]
    rw [Nat.add_zero, zeroPayload_rest (h layer List.mem_cons_self)]
    exact ih fun l hl => h l (List.mem_cons_of_mem _ hl)

theorem zeroPayload_checksum : kvPayloadChecksum zeroPayload 1 = 0 := by
  have hblock : BLOCK_BYTES = 131072 := rfl
  have hlayers : List.range 28 = 0 :: (List.range 27).map Nat.succ := List.range_succ_eq_map
  rw [kvPayloadChecksum, List.foldl_cons, List.foldl_cons, List.foldl_nil]
  have hkeys : (List.range 28).foldl (fun checksum layer => (List.range 4).foldl (fun checksum row =>
      if maskSelects 1 row then zlibAdler32 zeroPayload (0 + (layer * 4 + row) * BLOCK_BYTES) BLOCK_BYTES checksum
      else checksum) checksum) 1 = 0 := by
    rw [hlayers, List.foldl_cons, rows_first fun row checksum =>
      zlibAdler32 zeroPayload (0 + (0 * 4 + row) * BLOCK_BYTES) BLOCK_BYTES checksum]
    rw [Nat.zero_mul, Nat.add_zero, zeroPayload_first]
    apply zeroPayload_layers
    intro layer hlayer
    obtain ⟨k, -, rfl⟩ := List.mem_map.1 hlayer
    rw [hblock]
    omega
  rw [hkeys]
  apply zeroPayload_layers
  intro layer hlayer
  omega

def zeroSnapshot : ResidentKVSnapshot where
  transfer_id := 1
  import_mask := 1
  row_generations := [1, 0, 0, 0]
  payload_bytes := PAYLOAD_BYTES
  payload := zeroPayload
  checksum := 0

theorem zeroSnapshot_valid : zeroSnapshot.validate = .ok () := by
  refine (snapshotValidate_ok_iff _).2 ⟨⟨by decide, by decide, by decide, by decide, by decide, rfl⟩, ?_⟩
  have hsum : ((kvPayloadChecksum zeroPayload 1 : ℕ) : Int) = 0 := by
    rw [zeroPayload_checksum]
    rfl
  exact hsum.symm

/-- a snapshot of zeros -/
def blankSnapshot : ResidentKVSnapshot where
  transfer_id := 1
  import_mask := 1
  row_generations := [1, 0, 0, 0]
  payload_bytes := PAYLOAD_BYTES
  payload := fun _ => 0
  checksum := kvPayloadChecksum (fun _ => 0) 1

theorem blankSnapshot_valid : blankSnapshot.validate = .ok () :=
  (snapshotValidate_ok_iff _).2 ⟨⟨by decide, by decide, by decide, by decide, by decide, rfl⟩, rfl⟩

/-- zeros leave the first sum at 1 -/
theorem blank_checksum (import_mask : Int) : kvPayloadChecksum (fun _ => 0) import_mask ≠ 0 := by
  have hinv : kvPayloadChecksum (fun _ => 0) import_mask % 65536 = 1 ∧
      kvPayloadChecksum (fun _ => 0) import_mask / 65536 < 65521 := by
    refine kvPayloadChecksum_inv (fun c => c % 65536 = 1 ∧ c / 65536 < 65521) import_mask (by decide) fun offset c hc => ?_
    obtain ⟨h1, h2⟩ := hc
    rw [zlibAdler32_eq, h1, adlerSums_run 0 (fun k hk => rfl) (by decide) h2]
    simp only [UInt8.toNat_zero, Nat.mul_zero, Nat.add_zero, Nat.zero_mul]
    omega
  omega

theorem blankSnapshot_checksum : blankSnapshot.checksum ≠ 0 := Int.natCast_ne_zero.2 (blank_checksum 1)

/-- surroundings where a published snapshot lies at every path it can be published at -/
def holdingEnv (snapshot : ResidentKVSnapshot) : BridgeEnv :=
  { BridgeEnv.plain with file := fun path => writeKvSnapshot path snapshot }

theorem holdingEnv_file (snapshot : ResidentKVSnapshot) (path : String) :
    (holdingEnv snapshot).file path = writeKvSnapshot path snapshot := rfl

/-! ## Both directions -/

/-- **The transfer file.** What the writer publishes of a snapshot whose checksum is not zero, the reader accepts and
returns; it refuses the others. What the reader accepts of any file is a snapshot, but for the checksum. -/
theorem transfer_file (env : BridgeEnv) (path : String) (gens : Row → Int32) :
    (∀ snapshot : ResidentKVSnapshot, snapshot.validate = .ok () → snapshot.transfer_id < 2 ^ 64 →
      (∀ generation ∈ snapshot.row_generations, generation < 2 ^ 31) → path.toList.take 9 = "/dev/shm/".toList →
      ∃ file, writeKvSnapshot path snapshot = some file ∧ (env.file path = some file →
        (∀ r, selected snapshot.import_mask.toNat r = true → (gens r).toInt = snapshot.row_generations.getD r 0) →
        readTransfer env path (UInt64.ofNat snapshot.transfer_id.toNat) gens =
          if snapshot.checksum = 0 then none
          else some (snapshot.payload, snapshot.import_mask.toNat, snapshot.checksum.toNat))) ∧
    ∀ transfer_id payload mask checksum, readTransfer env path transfer_id gens = some (payload, mask, checksum) →
      ∃ bytes stream, env.file path = some (bytes, stream) ∧
        ((decodedSnapshot bytes stream).validate = .ok () ∨
          (decodedSnapshot bytes stream).validate = .error .checksum) ∧
        (decodedSnapshot bytes stream).transfer_id = transfer_id.toNat ∧
        payload = (decodedSnapshot bytes stream).payload ∧
        (mask : Int) = (decodedSnapshot bytes stream).import_mask ∧
        (checksum : Int) = (decodedSnapshot bytes stream).checksum := by
  constructor
  · intro snapshot hvalid hid hgen hdest
    obtain ⟨hwf, hsum⟩ := (snapshotValidate_ok_iff snapshot).1 hvalid
    have hfits := header_fits hwf hid hgen hsum
    obtain ⟨file, hfile⟩ : ∃ file, kvSnapshotFile snapshot = some file := by
      rw [kvSnapshotFile, structPack, if_pos hfits]
      exact ⟨_, rfl⟩
    refine ⟨file, ?_, fun henv hagree => published_read hwf hid hsum hdest hfile henv hagree⟩
    rw [writeKvSnapshot, if_neg (not_not.2 hvalid), if_neg (not_not.2 hdest), hfile]
  · intro transfer_id payload mask checksum h
    obtain ⟨bytes, stream, hfile, hwf, hid, hpayload, hmask, hsum⟩ := read_decoded h
    exact ⟨bytes, stream, hfile, hwf.validate, hid, hpayload, hmask, hsum⟩

theorem transfer_file_blank : readTransfer (holdingEnv blankSnapshot) "/dev/shm/kv" 1 (fun r => if r = 0 then 1 else 0) =
    some (blankSnapshot.payload, 1, blankSnapshot.checksum.toNat) := by
  obtain ⟨file, hfile, hread⟩ := (transfer_file (holdingEnv blankSnapshot) "/dev/shm/kv"
    (fun r => if r = 0 then 1 else 0)).1 blankSnapshot blankSnapshot_valid (by decide) (by decide) (by decide)
  have hread := hread ((holdingEnv_file _ _).trans hfile) (by decide)
  rw [if_neg blankSnapshot_checksum] at hread
  exact hread

/-- a snapshot whose Adler-32 is zero is published and refused -/
theorem zero_checksum_refused : zeroSnapshot.validate = .ok () ∧ zeroSnapshot.transfer_id < 2 ^ 64 ∧
    (∀ generation ∈ zeroSnapshot.row_generations, generation < 2 ^ 31) ∧
    (writeKvSnapshot "/dev/shm/kv" zeroSnapshot).isSome = true ∧
    (∀ r : Row, selected zeroSnapshot.import_mask.toNat r = true →
      (if r = 0 then (1 : Int32) else 0).toInt = zeroSnapshot.row_generations.getD r 0) ∧
    readTransfer (holdingEnv zeroSnapshot) "/dev/shm/kv" 1 (fun r => if r = 0 then 1 else 0) = none := by
  have hagree : ∀ r : Row, selected zeroSnapshot.import_mask.toNat r = true →
      (if r = 0 then (1 : Int32) else 0).toInt = zeroSnapshot.row_generations.getD r 0 := by decide
  have hpublished : (kvSnapshotFile zeroSnapshot).isSome = true := rfl
  obtain ⟨⟨bytes, stream⟩, hfile⟩ := Option.isSome_iff_exists.1 hpublished
  have hwrite : writeKvSnapshot "/dev/shm/kv" zeroSnapshot = some (bytes, stream) := by
    rw [writeKvSnapshot, if_neg (not_not.2 zeroSnapshot_valid), if_neg (by decide), hfile]
  obtain ⟨hwf, hsum⟩ := (snapshotValidate_ok_iff zeroSnapshot).1 zeroSnapshot_valid
  refine ⟨zeroSnapshot_valid, by decide, by decide, by rw [hwrite]; rfl, hagree, ?_⟩
  exact published_read hwf (by decide) hsum (by decide) hfile ((holdingEnv_file _ _).trans hwrite) hagree

end Cruise.Worker
