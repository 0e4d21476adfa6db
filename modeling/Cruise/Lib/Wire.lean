/-
Fixed-width little-endian integers: in byte strings, in packed records, and in typed arrays over a byte memory.

A `Field` is an integer type of a packed record, `pack` and `unpack` are `struct.pack` and `struct.unpack` for a list of
fields (and the layout of a packed C record). Results:
- `Field.decode_encode`: an integer in range survives encoding.
- `unpack_pack`: so does a whole record; `unpack_pack_values` says what is read of one that need not fit.
- `unpack_fits`: what is unpacked of enough bytes fits the record.
- `arrayLoad_store`: a typed store changes the element it names and no other.
- `arrayLoad_applyWrites`: after a sequence of typed stores an element is the last value stored into it.
-/
import Mathlib.Data.Nat.Digits.Defs
import Mathlib.Data.Nat.Digits.Lemmas
import Mathlib.Data.List.GetD
import Cruise.Lib.Memory

namespace Cruise.Lib

/-! ## Bytes of an integer -/

/-- the `width` little-endian bytes of `n`, reduced modulo `256 ^ width` -/
def leBytes : ℕ → ℕ → List UInt8
  | 0, _ => []
  | width + 1, n => UInt8.ofNat n :: leBytes width (n / 256)

def leNat (bytes : List UInt8) : ℕ := Nat.ofDigits 256 (bytes.map UInt8.toNat)

@[simp] theorem leBytes_length (width n : ℕ) : (leBytes width n).length = width := by
  induction width generalizing n with
  | zero => rfl
  | succ width ih => rw [leBytes, List.length_cons, ih]

theorem leNat_leBytes (width n : ℕ) : leNat (leBytes width n) = n % 256 ^ width := by
  induction width generalizing n with
  | zero => simp [leBytes, leNat, Nat.mod_one]
  | succ width ih =>
    have hhead : (UInt8.ofNat n).toNat = n % 256 := UInt8.toNat_ofNat'
    have htail : Nat.ofDigits 256 ((leBytes width (n / 256)).map UInt8.toNat) = n / 256 % 256 ^ width := ih (n / 256)
    calc leNat (leBytes (width + 1) n) = n % 256 + 256 * (n / 256 % 256 ^ width) := by
          rw [leNat, leBytes, List.map_cons, Nat.ofDigits_cons, hhead, htail]
      _ = n % 256 ^ (width + 1) := by rw [pow_succ', Nat.mod_mul]

theorem leNat_lt (bytes : List UInt8) : leNat bytes < 256 ^ bytes.length := by
  have h := Nat.ofDigits_lt_base_pow_length (b := 256) (l := bytes.map UInt8.toNat) (by decide) (fun d hd => by
    obtain ⟨b, -, rfl⟩ := List.mem_map.1 hd
    exact b.toNat_lt)
  rwa [List.length_map] at h

/-! ## Fields -/

/-- an integer type of a packed record -/
structure Field where
  bytes : ℕ
  signed : Bool
deriving DecidableEq, Repr

namespace Field

/-- the format characters of Python's `struct`, which are also the C types of the records -/
def H : Field := ⟨2, false⟩
def I : Field := ⟨4, false⟩
def i : Field := ⟨4, true⟩
def Q : Field := ⟨8, false⟩
def q : Field := ⟨8, true⟩

/-- the integers the type holds -/
def InRange (f : Field) (v : ℤ) : Prop :=
  if f.signed then -(256 ^ f.bytes / 2 : ℤ) ≤ v ∧ v < 256 ^ f.bytes / 2 else 0 ≤ v ∧ v < 256 ^ f.bytes

instance (f : Field) (v : ℤ) : Decidable (f.InRange v) := by
  unfold InRange
  infer_instance

/-- two's complement, least significant byte first -/
def encode (f : Field) (v : ℤ) : List UInt8 := leBytes f.bytes (v % 256 ^ f.bytes).toNat

def decode (f : Field) (bytes : List UInt8) : ℤ :=
  if f.signed then (leNat bytes : ℤ).bmod (256 ^ f.bytes) else leNat bytes

@[simp] theorem encode_length (f : Field) (v : ℤ) : (f.encode v).length = f.bytes := leBytes_length _ _

theorem leNat_encode (f : Field) (v : ℤ) : (leNat (f.encode v) : ℤ) = v % 256 ^ f.bytes := by
  have hpos : (0 : ℤ) < 256 ^ f.bytes := by positivity
  have h0 := Int.emod_nonneg v hpos.ne'
  have hlt : (v % 256 ^ f.bytes).toNat < 256 ^ f.bytes := by
    have := Int.emod_lt_of_pos v hpos
    zify
    rw [Int.toNat_of_nonneg h0]
    exact_mod_cast this
  rw [encode, leNat_leBytes, Nat.mod_eq_of_lt hlt, Int.toNat_of_nonneg h0]

theorem decode_range (f : Field) (hf : 0 < f.bytes) {bytes : List UInt8} (h : bytes.length = f.bytes) :
    f.InRange (f.decode bytes) := by
  have hlt := leNat_lt bytes
  rw [h] at hlt
  have hcast : ((256 ^ f.bytes : ℕ) : ℤ) = 256 ^ f.bytes := by push_cast; rfl
  unfold InRange decode
  split_ifs
  · have heven : (2 : ℤ) ∣ 256 ^ f.bytes := Dvd.dvd.trans (by decide) (dvd_pow_self (256 : ℤ) hf.ne')
    have hpos : 0 < 256 ^ f.bytes := by positivity
    have h1 := Int.le_bmod (x := (leNat bytes : ℤ)) hpos
    have h2 := Int.bmod_lt (x := (leNat bytes : ℤ)) hpos
    rw [hcast] at h1 h2
    omega
  · exact ⟨Int.natCast_nonneg _, by exact_mod_cast hlt⟩

/-- **An integer in range survives encoding.** -/
theorem decode_encode (f : Field) {v : ℤ} (h : f.InRange v) : f.decode (f.encode v) = v := by
  unfold decode
  rw [leNat_encode]
  unfold InRange at h
  split_ifs at h ⊢ with hs
  · have hcast : ((256 ^ f.bytes : ℕ) : ℤ) = 256 ^ f.bytes := by push_cast; rfl
    rw [← hcast, Int.emod_bmod]
    refine Int.bmod_eq_of_le ?_ ?_
    · push_cast; exact h.1
    · refine lt_of_lt_of_le h.2 ?_
      push_cast
      omega
  · exact Int.emod_eq_of_lt h.1 h.2

end Field

/-! ## Packed records -/

def recordSize (fields : List Field) : ℕ := (fields.map Field.bytes).sum

def pack : List Field → List ℤ → List UInt8
  | f :: fields, v :: values => f.encode v ++ pack fields values
  | _, _ => []

def unpack : List Field → List UInt8 → List ℤ
  | [], _ => []
  | f :: fields, bytes => f.decode (bytes.take f.bytes) :: unpack fields (bytes.drop f.bytes)

/-- one value a field, and every value fits its field -/
def Fits (fields : List Field) (values : List ℤ) : Prop := List.Forall₂ Field.InRange fields values

instance (fields : List Field) (values : List ℤ) : Decidable (Fits fields values) := by
  unfold Fits
  infer_instance

/-- `struct.pack`: a value that does not fit its field is an error -/
def structPack (fields : List Field) (values : List ℤ) : Option (List UInt8) :=
  if Fits fields values then some (pack fields values) else none

theorem pack_length {fields : List Field} {values : List ℤ} (h : fields.length = values.length) :
    (pack fields values).length = recordSize fields := by
  induction fields generalizing values with
  | nil => rfl
  | cons f fields ih =>
    cases values with
    | nil => cases h
    | cons v values =>
      rw [pack, List.length_append, Field.encode_length, ih (Nat.succ.inj h)]
      rfl

/-- unpacking a packed record gives each value as its field keeps it -/
theorem unpack_pack_values {fields : List Field} {values : List ℤ} (h : fields.length = values.length) :
    unpack fields (pack fields values) = List.zipWith (fun f v => f.decode (f.encode v)) fields values := by
  induction fields generalizing values with
  | nil => rfl
  | cons f fields ih =>
    cases values with
    | nil => cases h
    | cons v values =>
      have htake : (f.encode v ++ pack fields values).take f.bytes = f.encode v := by
        rw [List.take_append_of_le_length (by simp), List.take_of_length_le (by simp)]
      have hdrop : (f.encode v ++ pack fields values).drop f.bytes = pack fields values := by
        rw [List.drop_append_of_le_length (by simp), List.drop_of_length_le (by simp), List.nil_append]
      rw [pack, unpack, htake, hdrop, ih (Nat.succ.inj h), List.zipWith_cons_cons]

/-- **A record survives packing.** -/
theorem unpack_pack {fields : List Field} {values : List ℤ} (h : Fits fields values) :
    unpack fields (pack fields values) = values := by
  rw [unpack_pack_values h.length_eq]
  induction h with
  | nil => rfl
  | @cons f v fields values hv _ ih => rw [List.zipWith_cons_cons, f.decode_encode hv, ih]

/-- what follows a record is not part of it -/
theorem unpack_take (fields : List Field) (bytes rest : List UInt8) (h : recordSize fields ≤ bytes.length) :
    unpack fields (bytes ++ rest) = unpack fields bytes := by
  induction fields generalizing bytes with
  | nil => rfl
  | cons f fields ih =>
    have hsize : recordSize (f :: fields) = f.bytes + recordSize fields := rfl
    rw [unpack, unpack, List.take_append_of_le_length (by omega), List.drop_append_of_le_length (by omega),
      ih _ (by rw [List.length_drop]; omega)]

/-- what is unpacked fits the record -/
theorem unpack_fits {fields : List Field} (hf : ∀ f ∈ fields, 0 < f.bytes) {bytes : List UInt8}
    (h : recordSize fields ≤ bytes.length) : Fits fields (unpack fields bytes) := by
  induction fields generalizing bytes with
  | nil => exact .nil
  | cons f fields ih =>
    have hsize : recordSize (f :: fields) = f.bytes + recordSize fields := rfl
    rw [hsize] at h
    refine .cons (f.decode_range (hf f List.mem_cons_self) (by rw [List.length_take]; omega)) ?_
    exact ih (fun g hg => hf g (List.mem_cons_of_mem _ hg)) (by rw [List.length_drop]; omega)

theorem fits_getD {fields : List Field} {values : List ℤ} (h : Fits fields values) (i : ℕ) (f : Field)
    (hf : fields[i]? = some f) : f.InRange (values.getD i 0) := by
  obtain ⟨hi, rfl⟩ := List.getElem?_eq_some_iff.1 hf
  have hlen := h.length_eq
  rw [List.getD_eq_getElem?_getD, List.getElem?_eq_getElem (hlen ▸ hi), Option.getD_some]
  exact h.get hi (hlen ▸ hi)

theorem getD_mem {α : Type} {l : List α} {i : ℕ} (h : i < l.length) (d : α) : l.getD i d ∈ l := by
  rw [List.getD_eq_getElem _ _ h]
  exact List.getElem_mem h

/-! ## Fixed-width strings -/

/-- a table of strings of one width, read at entry `i` -/
theorem flatMap_getD {α : Type} (width : ℕ) (f : α → List UInt8) {l : List α} (h : ∀ a ∈ l, (f a).length = width)
    {i : ℕ} (hi : i < l.length) {k : ℕ} (hk : k < width) :
    (l.flatMap f).getD (i * width + k) 0 = (f l[i]).getD k 0 := by
  induction l generalizing i with
  | nil => cases hi
  | cons a rest ih =>
    have ha := h a List.mem_cons_self
    rw [List.flatMap_cons]
    cases i with
    | zero =>
      rw [Nat.zero_mul, Nat.zero_add, List.getD_append _ _ _ _ (by rw [ha]; exact hk)]
      rfl
    | succ i =>
      have hskip : (i + 1) * width + k - (f a).length = i * width + k := by
        rw [ha, Nat.succ_mul]
        omega
      rw [List.getD_append_right _ _ _ _ (by rw [ha, Nat.succ_mul]; omega), hskip,
        ih (fun b hb => h b (List.mem_cons_of_mem _ hb)) (Nat.lt_of_succ_lt_succ hi)]
      rfl

/-- a padded string without a zero ends at its padding -/
theorem takeWhile_padded {key : List UInt8} (h : 0 ∉ key) (n : ℕ) :
    (key ++ List.replicate n 0).takeWhile (fun b => b != 0) = key := by
  induction key with
  | nil =>
    cases n with
    | zero => rfl
    | succ n => rfl
  | cons b key ih =>
    have hb : b ≠ 0 := by
      intro h0
      exact h (h0 ▸ List.mem_cons_self)
    rw [List.cons_append, List.takeWhile_cons, if_pos (bne_iff_ne.2 hb), ih fun hmem => h (List.mem_cons_of_mem _ hmem)]

/-! ## Typed arrays over a byte memory -/

def loadBytes (m : Mem) (offset count : ℕ) : List UInt8 := (List.range count).map fun k => m (offset + k)

def storeBytes (m : Mem) (offset : ℕ) (bytes : List UInt8) : Mem :=
  fun a => if offset ≤ a ∧ a < offset + bytes.length then bytes.getD (a - offset) 0 else m a

/-- `array[index]` -/
def arrayLoad (f : Field) (m : Mem) (index : ℕ) : ℤ := f.decode (loadBytes m (index * f.bytes) f.bytes)

/-- `array[index] = v` -/
def arrayStore (f : Field) (m : Mem) (index : ℕ) (v : ℤ) : Mem := storeBytes m (index * f.bytes) (f.encode v)

/-- the memory image of a typed array -/
def arrayOf (f : Field) (values : ℕ → ℤ) : Mem :=
  fun a => (f.encode (values (a / f.bytes))).getD (a % f.bytes) 0

@[simp] theorem loadBytes_length (m : Mem) (offset count : ℕ) : (loadBytes m offset count).length = count := by
  simp [loadBytes]

theorem loadBytes_eq (m : Mem) (offset : ℕ) (bytes : List UInt8)
    (h : ∀ k, (hk : k < bytes.length) → m (offset + k) = bytes[k]) : loadBytes m offset bytes.length = bytes := by
  refine List.ext_getElem (by simp [loadBytes]) fun k h1 h2 => ?_
  simp only [loadBytes, List.getElem_map, List.getElem_range]
  exact h k h2

theorem loadBytes_congr {m m' : Mem} {offset count : ℕ} (h : ∀ k < count, m (offset + k) = m' (offset + k)) :
    loadBytes m offset count = loadBytes m' offset count :=
  List.map_congr_left fun k hk => h k (List.mem_range.1 hk)

theorem arrayLoad_arrayOf (f : Field) {values : ℕ → ℤ} {index : ℕ} (h : f.InRange (values index)) :
    arrayLoad f (arrayOf f values) index = values index := by
  have hbytes : loadBytes (arrayOf f values) (index * f.bytes) f.bytes = f.encode (values index) := by
    have := loadBytes_eq (arrayOf f values) (index * f.bytes) (f.encode (values index))
      fun k hk => by
        have hk' : k < f.bytes := by simpa using hk
        obtain ⟨h1, h2⟩ := block_offset index (⟨k, hk'⟩ : Fin f.bytes)
        simp only at h1 h2
        simp only [arrayOf, h1, h2]
        rw [List.getD_eq_getElem?_getD, List.getElem?_eq_getElem hk, Option.getD_some]
    rwa [Field.encode_length] at this
  rw [arrayLoad, hbytes, f.decode_encode h]

theorem arrayLoad_store (f : Field) (hf : 0 < f.bytes) (m : Mem) (index : ℕ) {v : ℤ} (h : f.InRange v) (j : ℕ) :
    arrayLoad f (arrayStore f m index v) j = if index = j then v else arrayLoad f m j := by
  split_ifs with hj
  · subst hj
    have hbytes : loadBytes (arrayStore f m index v) (index * f.bytes) f.bytes = f.encode v := by
      have := loadBytes_eq (arrayStore f m index v) (index * f.bytes) (f.encode v)
        fun k hk => by
          rw [arrayStore, storeBytes, if_pos ⟨by omega, by omega⟩, Nat.add_sub_cancel_left]
          rw [List.getD_eq_getElem?_getD, List.getElem?_eq_getElem hk, Option.getD_some]
      rwa [Field.encode_length] at this
    rw [arrayLoad, hbytes, f.decode_encode h]
  · refine congrArg f.decode (loadBytes_congr fun k hk => ?_)
    rw [arrayStore, storeBytes, Field.encode_length, if_neg]
    rw [mem_block_iff hf]
    intro hdiv
    have := (block_offset j (⟨k, hk⟩ : Fin f.bytes)).1
    simp only at this
    exact hj (hdiv.symm.trans this)

/-! ### Sequences of typed stores -/

/-- one store of a loop over several buffers -/
structure Write (ι : Type) where
  buffer : ι
  field : Field
  index : ℕ
  value : ℤ

variable {ι : Type} [DecidableEq ι]

/-- the bytes the store touches lie inside its buffer -/
def Write.Inside (size : ι → ℕ) (w : Write ι) : Prop := (w.index + 1) * w.field.bytes ≤ size w.buffer

def applyWrite (buffers : ι → Mem) (w : Write ι) : ι → Mem :=
  Function.update buffers w.buffer (arrayStore w.field (buffers w.buffer) w.index w.value)

def applyWrites (buffers : ι → Mem) (writes : List (Write ι)) : ι → Mem := writes.foldl applyWrite buffers

/-- a buffer that nothing is stored into -/
theorem applyWrites_untouched {buffer : ι} (writes : List (Write ι)) (buffers : ι → Mem)
    (h : ∀ w ∈ writes, w.buffer ≠ buffer) : applyWrites buffers writes buffer = buffers buffer := by
  induction writes generalizing buffers with
  | nil => rfl
  | cons w writes ih =>
    have hw : w.buffer ≠ buffer := h w List.mem_cons_self
    calc applyWrites buffers (w :: writes) buffer
        = applyWrites (applyWrite buffers w) writes buffer := rfl
      _ = applyWrite buffers w buffer := ih _ fun w' hw' => h w' (List.mem_cons_of_mem _ hw')
      _ = buffers buffer := Function.update_of_ne hw.symm _ _

/-- the values stored into one element, in order -/
def hits (buffer : ι) (index : ℕ) (writes : List (Write ι)) : List ℤ :=
  (writes.filter fun w => w.buffer = buffer ∧ w.index = index).map Write.value

@[simp] theorem hits_nil (buffer : ι) (index : ℕ) : hits buffer index [] = [] := rfl

@[simp] theorem hits_cons (buffer : ι) (index : ℕ) (w : Write ι) (writes : List (Write ι)) :
    hits buffer index (w :: writes) =
      if w.buffer = buffer ∧ w.index = index then w.value :: hits buffer index writes else hits buffer index writes := by
  unfold hits
  by_cases h : w.buffer = buffer ∧ w.index = index
  · simp [h]
  · rw [List.filter_cons_of_neg (by simpa using h), if_neg h]

@[simp] theorem hits_append (buffer : ι) (index : ℕ) (l l' : List (Write ι)) :
    hits buffer index (l ++ l') = hits buffer index l ++ hits buffer index l' := by
  simp [hits]

/-- in a loop whose passes store into different elements, one pass stores into each element -/
theorem hits_flatMap {α : Type} (buffer : ι) (index : ℕ) (g : α → List (Write ι)) {l : List α} (hl : l.Nodup) {a : α}
    (ha : a ∈ l) (h : ∀ b ∈ l, b ≠ a → hits buffer index (g b) = []) :
    hits buffer index (l.flatMap g) = hits buffer index (g a) := by
  induction l with
  | nil => cases ha
  | cons b rest ih =>
    obtain ⟨hb, hrest⟩ := List.nodup_cons.1 hl
    rw [List.flatMap_cons, hits_append]
    by_cases hab : b = a
    · subst hab
      have hnone : hits buffer index (rest.flatMap g) = [] := by
        have hout : ∀ c ∈ rest, hits buffer index (g c) = [] := fun c hc =>
          h c (List.mem_cons_of_mem _ hc) (fun he => hb (he ▸ hc))
        clear ih hl ha h hb hrest
        induction rest with
        | nil => rfl
        | cons c rest ih =>
          rw [List.flatMap_cons, hits_append, hout c List.mem_cons_self,
            ih fun c' hc' => hout c' (List.mem_cons_of_mem _ hc')]
          rfl
      rw [hnone, List.append_nil]
    · rcases List.mem_cons.1 ha with rfl | ha
      · exact absurd rfl hab
      · rw [h b List.mem_cons_self hab, List.nil_append]
        exact ih hrest ha fun c hc => h c (List.mem_cons_of_mem _ hc)

/-- **After a sequence of stores an element is the last value stored into it.** -/
theorem arrayLoad_applyWrites (f : Field) (hf : 0 < f.bytes) (buffer : ι) (index : ℕ) (writes : List (Write ι))
    (buffers : ι → Mem) (htype : ∀ w ∈ writes, w.buffer = buffer → w.field = f ∧ f.InRange w.value) :
    arrayLoad f (applyWrites buffers writes buffer) index =
      (hits buffer index writes).getLastD (arrayLoad f (buffers buffer) index) := by
  induction writes generalizing buffers with
  | nil => rfl
  | cons w writes ih =>
    rw [applyWrites, List.foldl_cons]
    change arrayLoad f (applyWrites (applyWrite buffers w) writes buffer) index = _
    rw [ih _ fun w' hw' => htype w' (List.mem_cons_of_mem _ hw'), hits_cons]
    by_cases hb : w.buffer = buffer
    · obtain ⟨hfield, hrange⟩ := htype w List.mem_cons_self hb
      subst hb
      rw [applyWrite, Function.update_self, hfield, arrayLoad_store f hf _ _ hrange]
      by_cases hi : w.index = index
      · rw [if_pos hi, if_pos ⟨rfl, hi⟩, List.getLastD_cons]
      · rw [if_neg hi, if_neg (fun h => hi h.2)]
    · rw [applyWrite, Function.update_of_ne (Ne.symm hb), if_neg (fun h => hb h.1)]

end Cruise.Lib
