/-
The bounded log (`storage_guard/bounded_log.py`): an unbounded byte stream, of which a head and a tail are kept.

MODEL. `sha256` stands for `hashlib.sha256`; the digest object is the bytes it was updated with. A read returns a
non-empty piece of the stream, and the list of reads ends with the stream. The counters never exceed their limits, so
that differences of theirs are taken in ℕ.
- `readChunk_seen`: after any reads the state is a function of the bytes read (`seen`).
- `bounded_log`: what the log and its metadata hold, for every way the stream is read.
-/
import Cruise.Lib.Lines
import Cruise.Lib.Stream

namespace Cruise.Guard

open Cruise.Lib

/-! ## Arguments -/

inductive UsageError where
  | negativeLimit
  | chunkBytes
deriving DecidableEq, Repr

def UsageError.message : UsageError → String
  | .negativeLimit => "byte limits must be non-negative"
  | .chunkBytes => "--chunk-bytes must be positive"

structure Args where
  head_bytes : ℕ
  tail_bytes : ℕ
  chunk_bytes : ℕ
  chunk_pos : 0 < chunk_bytes

/-- the defaults of the three numbers -/
def defaultLimits : Int × Int × Int := (32 * 1024 * 1024, 32 * 1024 * 1024, 1024 * 1024)

/-- the checks of `parse_args` -/
def parseArgs (head_bytes tail_bytes chunk_bytes : Int) : Except UsageError Args :=
  if min (min head_bytes tail_bytes) chunk_bytes < 0 then .error .negativeLimit
  else if hpos : 0 < chunk_bytes.toNat then .ok ⟨head_bytes.toNat, tail_bytes.toNat, chunk_bytes.toNat, hpos⟩
  else .error .chunkBytes

theorem parseArgs_accepts (head_bytes tail_bytes chunk_bytes : Int) :
    (∃ args, parseArgs head_bytes tail_bytes chunk_bytes = .ok args) ↔
      0 ≤ head_bytes ∧ 0 ≤ tail_bytes ∧ 0 < chunk_bytes := by
  unfold parseArgs
  split_ifs with hneg hpos
  · simp only [exists_false, false_iff]
    omega
  · simp only [Except.ok.injEq, exists_eq', true_iff]
    omega
  · simp only [exists_false, false_iff]
    omega

example : ∃ args, parseArgs defaultLimits.1 defaultLimits.2.1 defaultLimits.2.2 = .ok args :=
  (parseArgs_accepts _ _ _).2 (by decide)

/-! ## Reading -/

def updateTail (tail data : List UInt8) (limit : ℕ) : List UInt8 :=
  if limit = 0 then tail
  else if data.length ≥ limit then data.rtake limit
  else
    let excess := tail.length + data.length - limit
    (if excess > 0 then tail.drop excess else tail) ++ data

structure Reading where
  digest : List UInt8
  total_bytes : ℕ
  head_bytes : ℕ
  tail : List UInt8
  /-- written to the output file -/
  output : List UInt8
deriving DecidableEq

def Reading.start : Reading := ⟨[], 0, 0, [], []⟩

/-- one pass of the loop on a chunk that was read -/
def readChunk (args : Args) (s : Reading) (chunk : Piece UInt8) : Reading :=
  let head_room := args.head_bytes - s.head_bytes
  let front := if head_room > 0 then chunk.val.take head_room else []
  let rest := chunk.val.drop front.length
  { digest := s.digest ++ chunk.val
    total_bytes := s.total_bytes + chunk.val.length
    head_bytes := s.head_bytes + front.length
    tail := if rest = [] then s.tail else updateTail s.tail rest args.tail_bytes
    output := s.output ++ front }

/-! ## The log and its metadata -/

structure Metadata where
  total_bytes : ℕ
  retained_stream_bytes : ℕ
  output_file_bytes : ℕ
  head_limit_bytes : ℕ
  tail_limit_bytes : ℕ
  truncated : Bool
  omitted_bytes : ℕ
  full_stream_sha256 : String
deriving DecidableEq, Repr

section Log

variable (sha256 : List UInt8 → String)

def marker (omitted : ℕ) (stream : List UInt8) : List UInt8 :=
  asciiBytes s!"\n[storage-guard truncated {omitted} bytes; full-stream-sha256={sha256 stream}]\n"

/-- everything after the last read -/
def finishLog (args : Args) (s : Reading) : List UInt8 × Metadata :=
  let omitted := s.total_bytes - s.head_bytes - s.tail.length
  let truncated : Bool := s.total_bytes > s.head_bytes + s.tail.length
  let output := s.output ++ (if truncated then marker sha256 omitted s.digest else []) ++ s.tail
  (output, {
    total_bytes := s.total_bytes
    retained_stream_bytes := s.head_bytes + s.tail.length
    output_file_bytes := output.length
    head_limit_bytes := args.head_bytes
    tail_limit_bytes := args.tail_bytes
    truncated := truncated
    omitted_bytes := omitted
    full_stream_sha256 := sha256 s.digest })

/-- `main`: the two files it makes, or exit status 2 when one of them is there already -/
def main (output_exists metadata_exists : Bool) (args : Args) (reads : List (Piece UInt8)) :
    Except ℕ (List UInt8 × Metadata) :=
  if output_exists || metadata_exists then .error 2
  else .ok (finishLog sha256 args (reads.foldl (readChunk args) .start))

end Log

/-! ## What has been read -/

/-- the loop's state when these bytes have been read -/
def seen (args : Args) (stream : List UInt8) : Reading where
  digest := stream
  total_bytes := stream.length
  head_bytes := min args.head_bytes stream.length
  tail := (stream.drop args.head_bytes).rtake args.tail_bytes
  output := stream.take args.head_bytes

/-- the tail stays the last bytes within its limit, whichever branch is taken -/
theorem updateTail_rtake (l data : List UInt8) (limit : ℕ) :
    updateTail (l.rtake limit) data limit = (l ++ data).rtake limit := by
  unfold updateTail
  by_cases hzero : limit = 0
  · subst hzero
    simp
  rw [if_neg hzero, rtake_append]
  by_cases hlarge : data.length ≥ limit
  · -- the piece alone fills the tail
    rw [if_pos hlarge, Nat.sub_eq_zero_of_le hlarge, List.rtake_zero, List.nil_append]
  · -- the oldest bytes give way to the piece
    rw [if_neg hlarge, rtake_all (not_le.1 hlarge).le]
    have hdrop := drop_rtake l (Nat.sub_le limit data.length)
    dsimp only
    by_cases hexcess : (l.rtake limit).length + data.length - limit > 0
    · have hsame : (l.rtake limit).length + data.length - limit = (l.rtake limit).length - (limit - data.length) := by omega
      rw [if_pos hexcess, hsame, hdrop]
    · have hnone : (l.rtake limit).length - (limit - data.length) = 0 := by omega
      rw [hnone, List.drop_zero] at hdrop
      rw [if_neg hexcess, hdrop]

/-- **One read.** The head takes what it has room for, and the tail sees the rest. -/
theorem readChunk_seen (args : Args) (stream : List UInt8) (chunk : Piece UInt8) :
    readChunk args (seen args stream) chunk = seen args (stream ++ chunk.val) := by
  have hroom : args.head_bytes - min args.head_bytes stream.length = args.head_bytes - stream.length := by omega
  have hfront : (if args.head_bytes - stream.length > 0 then chunk.val.take (args.head_bytes - stream.length) else []) =
      chunk.val.take (args.head_bytes - stream.length) := by
    split_ifs with h
    · rfl
    · rw [Nat.eq_zero_of_not_pos h, List.take_zero]
  have hrest : chunk.val.drop (min (args.head_bytes - stream.length) chunk.val.length) =
      chunk.val.drop (args.head_bytes - stream.length) := by
    rcases le_total (args.head_bytes - stream.length) chunk.val.length with h | h
    · rw [min_eq_left h]
    · rw [min_eq_right h, List.drop_length, List.drop_of_length_le h]
  unfold readChunk seen
  simp only [hroom, hfront, List.length_append, List.length_take, List.take_append, List.drop_append, hrest,
    Reading.mk.injEq, true_and]
  refine ⟨by omega, ?_, trivial⟩
  rw [updateTail_rtake]
  split_ifs with hnil
  · rw [hnil, List.append_nil]
  · rfl

theorem reads_seen (args : Args) (reads : List (Piece UInt8)) :
    reads.foldl (readChunk args) .start = seen args (streamOf reads) := by
  have hstart : Reading.start = seen args [] := by simp [Reading.start, seen]
  rw [hstart]
  exact foldl_stream (readChunk_seen args) reads

/-! ## What is kept -/

/-- the log of a stream -/
structure Logged (sha256 : List UInt8 → String) (args : Args) (stream output : List UInt8) (metadata : Metadata) : Prop where
  /-- head, marker and tail -/
  content : output = stream.take (min stream.length args.head_bytes) ++
    (if stream.length > args.head_bytes + args.tail_bytes then
      marker sha256 (stream.length - args.head_bytes - args.tail_bytes) stream else []) ++
    stream.rtake (min args.tail_bytes (stream.length - min stream.length args.head_bytes))
  exact : stream.length ≤ args.head_bytes + args.tail_bytes → output = stream
  /-- the head ends before the tail starts -/
  apart : min stream.length args.head_bytes + min args.tail_bytes (stream.length - min stream.length args.head_bytes) ≤
    stream.length
  total : metadata.total_bytes = stream.length
  retained : metadata.retained_stream_bytes =
    min stream.length args.head_bytes + min args.tail_bytes (stream.length - min stream.length args.head_bytes)
  omitted : metadata.total_bytes = metadata.retained_stream_bytes + metadata.omitted_bytes
  truncated : metadata.truncated = true ↔ stream.length > args.head_bytes + args.tail_bytes
  size : metadata.output_file_bytes = output.length
  limits : metadata.head_limit_bytes = args.head_bytes ∧ metadata.tail_limit_bytes = args.tail_bytes
  digest : metadata.full_stream_sha256 = sha256 stream

/-- the tail of what the head has left is the tail of the stream -/
theorem rtake_drop (stream : List UInt8) (head tail : ℕ) :
    (stream.drop head).rtake tail = stream.rtake (min tail (stream.length - min stream.length head)) := by
  simp only [List.rtake, List.drop_drop, List.length_drop]
  by_cases h : head ≤ stream.length
  · congr 1
    omega
  · rw [List.drop_of_length_le (by omega), List.drop_of_length_le (by omega)]

theorem finishLog_logged (sha256 : List UInt8 → String) (args : Args) (stream : List UInt8) :
    Logged sha256 args stream (finishLog sha256 args (seen args stream)).1 (finishLog sha256 args (seen args stream)).2 := by
  have htail := rtake_drop stream args.head_bytes args.tail_bytes
  have hlength : ((stream.drop args.head_bytes).rtake args.tail_bytes).length =
      min args.tail_bytes (stream.length - args.head_bytes) := by rw [rtake_length, List.length_drop]
  have hhead : stream.take args.head_bytes = stream.take (min stream.length args.head_bytes) := by
    rw [min_comm, ← List.take_take, List.take_length]
  have htruncated : stream.length > min args.head_bytes stream.length +
      min args.tail_bytes (stream.length - args.head_bytes) ↔ stream.length > args.head_bytes + args.tail_bytes := by omega
  have homitted : stream.length > args.head_bytes + args.tail_bytes →
      stream.length - min args.head_bytes stream.length - min args.tail_bytes (stream.length - args.head_bytes) =
        stream.length - args.head_bytes - args.tail_bytes := by omega
  refine ⟨?_, fun hfits => ?_, by omega, rfl, ?_, ?_, ?_, rfl, ⟨rfl, rfl⟩, rfl⟩
  · simp only [finishLog, seen, hlength, htruncated, decide_eq_true_eq]
    rw [← hhead, ← htail]
    split_ifs with h
    · rw [homitted h]
    · rfl
  · -- nothing lies between the head and the tail
    simp only [finishLog, seen, hlength, htruncated, decide_eq_true_eq]
    rw [if_neg (not_lt.2 hfits), List.append_nil, rtake_all (by rw [List.length_drop]; omega), List.take_append_drop]
  · simp only [finishLog, seen, hlength]
    omega
  · simp only [finishLog, seen, hlength]
    omega
  · simp only [finishLog, seen, hlength, decide_eq_true_eq, htruncated]

/-- **The bounded log does not depend on the chunks** the stream is read in. -/
theorem bounded_log (sha256 : List UInt8 → String) (args : Args) (reads : List (Piece UInt8)) :
    ∃ output metadata, main sha256 false false args reads = .ok (output, metadata) ∧
      Logged sha256 args (streamOf reads) output metadata := by
  refine ⟨_, _, rfl, ?_⟩
  rw [reads_seen]
  exact finishLog_logged sha256 args (streamOf reads)

end Cruise.Guard
