/-
Byte memory addressed by offset, with the two block operations a controller written against raw buffers uses:
`memset` and `memcpy`. Buffers are total functions from offsets to bytes, so two buffers are equal when they agree at
every offset; a size is stated where it matters, never stored.

Both operations are described at the granularity of fixed-size blocks (`memset_block`, `memcpy_at`): block `b` of a
buffer is the offsets `a` with `a / size = b`. A loop of block operations then has a closed form that talks about block
numbers only.
-/
import Mathlib.Tactic

namespace Cruise.Lib

/-- a byte buffer, read by offset -/
abbrev Mem := ℕ → UInt8

def memset (m : Mem) (offset : ℕ) (byte : UInt8) (count : ℕ) : Mem :=
  fun a => if offset ≤ a ∧ a < offset + count then byte else m a

def memcpy (dst : Mem) (offset : ℕ) (src : Mem) (origin count : ℕ) : Mem :=
  fun a => if offset ≤ a ∧ a < offset + count then src (origin + (a - offset)) else dst a

/-- an offset lies in the `b`-th block of `size` bytes exactly when dividing gives `b` -/
theorem mem_block_iff {size : ℕ} (hs : 0 < size) (a b : ℕ) :
    (b * size ≤ a ∧ a < b * size + size) ↔ a / size = b := by
  constructor
  · rintro ⟨h1, h2⟩
    apply Nat.div_eq_of_lt_le h1
    rw [Nat.succ_mul]; exact h2
  · rintro rfl
    exact ⟨Nat.div_mul_le_self a size, Nat.lt_div_mul_add hs⟩

theorem memset_block {size : ℕ} (hs : 0 < size) (m : Mem) (b : ℕ) (byte : UInt8) (a : ℕ) :
    memset m (b * size) byte size a = if a / size = b then byte else m a := by
  simp only [memset, mem_block_iff hs]

/-- a whole block copied from anywhere -/
theorem memcpy_at {size : ℕ} (hs : 0 < size) (dst src : Mem) (b origin a : ℕ) :
    memcpy dst (b * size) src origin size a = if a / size = b then src (origin + a % size) else dst a := by
  simp only [memcpy, mem_block_iff hs]
  split_ifs with h
  · have hoffset : a - b * size = a % size := by
      rw [← h, Nat.mod_eq_sub_div_mul]
    rw [hoffset]
  · rfl

/-- one block copy of a loop that fills a buffer -/
structure BlockCopy where
  target : ℕ
  source : Mem
  origin : ℕ

def copyBlocks (size : ℕ) (dst : Mem) (copies : List BlockCopy) : Mem :=
  copies.foldl (fun m c => memcpy m (c.target * size) c.source c.origin size) dst

@[simp] theorem copyBlocks_nil (size : ℕ) (dst : Mem) : copyBlocks size dst [] = dst := rfl

@[simp] theorem copyBlocks_append (size : ℕ) (dst : Mem) (copies copies' : List BlockCopy) :
    copyBlocks size dst (copies ++ copies') = copyBlocks size (copyBlocks size dst copies) copies' :=
  List.foldl_append

/-- a block no copy targets keeps its bytes -/
theorem copyBlocks_other {size : ℕ} (hs : 0 < size) {copies : List BlockCopy} {a : ℕ}
    (h : ∀ c ∈ copies, c.target ≠ a / size) (dst : Mem) : copyBlocks size dst copies a = dst a := by
  induction copies generalizing dst with
  | nil => rfl
  | cons c rest ih =>
    have hother : copyBlocks size (memcpy dst (c.target * size) c.source c.origin size) rest a =
        memcpy dst (c.target * size) c.source c.origin size a := ih (fun c' hc' => h c' (List.mem_cons_of_mem _ hc')) _
    have hkept : memcpy dst (c.target * size) c.source c.origin size a = dst a := by
      rw [memcpy_at hs, if_neg (h c List.mem_cons_self).symm]
    exact hother.trans hkept

/-- a block that is a target gets the byte all its copies agree on -/
theorem copyBlocks_target {size : ℕ} (hs : 0 < size) {copies : List BlockCopy} {a : ℕ} {byte : UInt8}
    (hbyte : ∀ c ∈ copies, c.target = a / size → c.source (c.origin + a % size) = byte)
    (h : ∃ c ∈ copies, c.target = a / size) (dst : Mem) : copyBlocks size dst copies a = byte := by
  induction copies generalizing dst with
  | nil =>
    obtain ⟨c, hc, -⟩ := h
    cases hc
  | cons c rest ih =>
    have hrest (c' : BlockCopy) (hc' : c' ∈ rest) := hbyte c' (List.mem_cons_of_mem _ hc')
    by_cases hlater : ∃ c' ∈ rest, c'.target = a / size
    · exact ih hrest hlater _
    · have hnone : ∀ c' ∈ rest, c'.target ≠ a / size := fun c' hc' heq => hlater ⟨c', hc', heq⟩
      have hfirst : c.target = a / size := by
        obtain ⟨c', hc', heq⟩ := h
        rcases List.mem_cons.1 hc' with rfl | hc'
        · exact heq
        · exact absurd ⟨c', hc', heq⟩ hlater
      have hcopied : memcpy dst (c.target * size) c.source c.origin size a = byte := by
        rw [memcpy_at hs, if_pos hfirst.symm, hbyte c List.mem_cons_self hfirst]
      exact (copyBlocks_other hs hnone _).trans hcopied

/-- the bytes of block `b` -/
def block (size : ℕ) (m : Mem) (b : ℕ) : Fin size → UInt8 := fun i => m (b * size + i)

theorem block_offset {size : ℕ} (b : ℕ) (i : Fin size) : (b * size + i) / size = b ∧ (b * size + i) % size = i := by
  have hs : 0 < size := lt_of_le_of_lt (Nat.zero_le _) i.isLt
  constructor
  · rw [Nat.mul_comm, Nat.mul_add_div hs, Nat.div_eq_of_lt i.isLt, Nat.add_zero]
  · rw [Nat.mul_comm, Nat.mul_add_mod, Nat.mod_eq_of_lt i.isLt]

end Cruise.Lib
