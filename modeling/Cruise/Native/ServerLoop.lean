/-
The request loop of the sidecar server over its socket: whether it stays at the borders of the client's messages.

MODEL. A pass of the loop as the source has it, with `ReadAll` and `WriteAll` over the calls of `read` and `write` they
meet; `residentEpochExecute` is the bridge. A message is a request with the metadata that follows it when its operation is 5,
whatever its header says. Results:
- `message_served`: a message whose metadata is read is taken whole and answered as `serveRequest` answers it.
- `metadata_left`: one that is refused for its magic or version before its metadata is read leaves them in the stream.
- `framed_iff`: the loop serves message by message exactly when no such message comes before the shutdown.
- `shutdown_misread`: after one, the server reads metadata as requests, and a shutdown goes unheard.
-/
import Cruise.Lib.Socket
import Cruise.Native.Server

namespace Cruise.Native

open Cruise.Lib Cruise.Lib.Socket Cruise.Controller

/-! ## The loop -/

structure LoopState where
  reads : List (Read UInt8)
  writes : List Write
  engine : Option Engine
  /-- what the client has been sent -/
  sent : List UInt8
  /-- of a loop that has ended -/
  exit_status : Option Int

def LoopState.start (engine : Option Engine) (reads : List (Read UInt8)) (writes : List Write) : LoopState :=
  ⟨reads, writes, engine, [], none⟩

/-- the response at the end of a pass; `ended` is the status it exits with -/
def LoopState.respond (s : LoopState) (response : Response) (ended : Bool → Option Int) : LoopState :=
  let (done, sent, writes) := writeAll response.bytes s.writes
  { s with writes, sent := s.sent ++ sent, exit_status := ended done }

/-- the loop goes on unless the write failed -/
def goesOn (done : Bool) : Option Int := if done then none else some 72

/-- a request is refused before its operation is looked at -/
def Request.refused (request : Request) : Prop := request.magic ≠ kRequestMagic ∨ request.version ≠ kProtocolVersion

instance (request : Request) : Decidable request.refused := inferInstanceAs (Decidable (_ ∨ _))

/-- one pass of the loop -/
def serverPass (env : BridgeEnv) (transfer_path : String) (s : LoopState) : LoopState :=
  match readAll CRUISE_SIDECAR_REQUEST_BYTES s.reads with
  | (none, reads) => { s with reads, exit_status := some 68 }
  | (some header, reads) =>
    let s := { s with reads }
    let request := parseRequest header
    if request.refused then s.respond (emptyResponse 69) goesOn
    else if request.operation = kShutdown then
      s.respond (emptyResponse 0) fun done => some (if done then 0 else 70)
    else if request.operation ∉ [kExecute, kWarmUp, kImportExecute, kDeviceIpcExecute] then
      s.respond (emptyResponse 71) goesOn
    else
      let metadata_bytes := if request.operation = kDeviceIpcExecute then CRUISE_RESIDENT_IPC_METADATA_BYTES else 0
      match readAll metadata_bytes s.reads with
      | (none, reads) => { s with reads, exit_status := some 73 }
      | (some metadata, reads) =>
        let outcome := residentEpochExecute env s.engine
          (serverArgs transfer_path request (parseIpcMetadata metadata)) (emptyResponse 0).outputs
        { s with reads, engine := outcome.engine }.respond ⟨kResponseMagic, outcome.ret, outcome.outputs⟩ goesOn

/-- the loop after some passes; each meets its own environment -/
def serverLoop (env : ℕ → BridgeEnv) (transfer_path : String) (s : LoopState) : ℕ → LoopState
  | 0 => s
  | n + 1 =>
    let s := serverLoop env transfer_path s n
    if s.exit_status.isSome then s else serverPass (env n) transfer_path s

/-! ## Messages -/

/-- what a client sends at once; the metadata follow exactly when the operation is 5 -/
structure Message where
  header : List UInt8
  metadata : List UInt8
  header_length : header.length = CRUISE_SIDECAR_REQUEST_BYTES
  metadata_length : metadata.length =
    if (parseRequest header).operation = kDeviceIpcExecute then CRUISE_RESIDENT_IPC_METADATA_BYTES else 0

namespace Message

def request (m : Message) : Request := parseRequest m.header

def bytes (m : Message) : List UInt8 := m.header ++ m.metadata

/-- refused with its metadata still in the stream -/
def Cut (m : Message) : Prop := m.request.refused ∧ m.request.operation = kDeviceIpcExecute

instance (m : Message) : Decidable m.Cut := inferInstanceAs (Decidable (_ ∧ _))

/-- a well-formed shutdown -/
def Shutdown (m : Message) : Prop := ¬m.request.refused ∧ m.request.operation = kShutdown

instance (m : Message) : Decidable m.Shutdown := inferInstanceAs (Decidable (_ ∧ _))

end Message

/-- the messages up to the first shutdown, with it -/
def untilShutdown : List Message → List Message
  | [] => []
  | m :: messages => m :: if m.Shutdown then [] else untilShutdown messages

theorem parse_prefix {header : List UInt8} (h : header.length = CRUISE_SIDECAR_REQUEST_BYTES) (rest : List UInt8) :
    parseRequest (header ++ rest) = parseRequest header := by
  have hsize : recordSize requestFields ≤ header.length := by
    rw [h]
    decide
  unfold parseRequest
  rw [unpack_take requestFields header rest hsize]

/-! ## One pass -/

/-- a loop that still runs, with what it has yet to read -/
structure LoopState.Ready (s : LoopState) (stream : List UInt8) : Prop where
  running : s.exit_status = none
  stream : arrived s.reads = stream
  writes : Write.failed ∉ s.writes

theorem respond_sent {s : LoopState} (h : Write.failed ∉ s.writes) (response : Response) (ended : Bool → Option Int) :
    ∃ writes, s.respond response ended =
      { s with writes, sent := s.sent ++ response.bytes, exit_status := ended true } ∧ Write.failed ∉ writes := by
  obtain ⟨writes, hwrite, hok⟩ := writeAll_sent h response.bytes
  refine ⟨writes, ?_, hok⟩
  unfold LoopState.respond
  rw [hwrite]

theorem header_read {s : LoopState} {m : Message} {rest : List UInt8} (h : s.Ready (m.bytes ++ rest)) : ∃ reads,
    readAll CRUISE_SIDECAR_REQUEST_BYTES s.reads = (some m.header, reads) ∧ arrived reads = m.metadata ++ rest := by
  have hstream : arrived s.reads = m.header ++ (m.metadata ++ rest) := by
    rw [h.stream, Message.bytes, List.append_assoc]
  have hlength := m.header_length
  have hle : CRUISE_SIDECAR_REQUEST_BYTES ≤ (arrived s.reads).length := by
    rw [hstream, List.length_append]
    omega
  obtain ⟨reads, hread, hleft⟩ := readAll_some hle
  rw [hstream, ← hlength] at hread hleft
  rw [List.take_left] at hread
  rw [List.drop_left] at hleft
  exact ⟨reads, hlength ▸ hread, hleft⟩

theorem Message.no_metadata {m : Message} (h : m.request.operation ≠ kDeviceIpcExecute) : m.metadata = [] := by
  have hlength : m.metadata.length =
    if m.request.operation = kDeviceIpcExecute then CRUISE_RESIDENT_IPC_METADATA_BYTES else 0 := m.metadata_length
  rw [if_neg h] at hlength
  exact List.eq_nil_of_length_eq_zero hlength

/-- how the pass of a message ends -/
def Message.ended (m : Message) : Bool → Option Int :=
  if m.Shutdown then fun done => some (if done then 0 else 70) else goesOn

/-- the pass of a message, up to the response it writes -/
structure PassOf (env : BridgeEnv) (path : String) (m : Message) (s : LoopState) (rest : List UInt8)
    (reads : List (Read UInt8)) (engine : Option Engine) (response : Response) : Prop where
  pass : serverPass env path s = { s with reads, engine }.respond response m.ended
  reads : arrived reads = rest
  served : (serveRequest env path s.engine m.bytes).response = some response
  engine : (serveRequest env path s.engine m.bytes).engine = engine

theorem serve_message (env : BridgeEnv) (path : String) (engine : Option Engine) (m : Message) :
    serveRequest env path engine m.bytes =
      if m.request.refused then ⟨some (emptyResponse 69), engine, none⟩
      else if m.request.operation = kShutdown then ⟨some (emptyResponse 0), engine, none⟩
      else if m.request.operation ∉ [kExecute, kWarmUp, kImportExecute, kDeviceIpcExecute] then
        ⟨some (emptyResponse 71), engine, none⟩
      else
        let outcome := residentEpochExecute env engine (serverArgs path m.request (parseIpcMetadata m.metadata))
          (emptyResponse 0).outputs
        ⟨some ⟨kResponseMagic, outcome.ret, outcome.outputs⟩, outcome.engine, outcome.fed⟩ := by
  have hparse : parseRequest m.bytes = m.request := parse_prefix m.header_length _
  have hlong : ¬m.bytes.length < CRUISE_SIDECAR_REQUEST_BYTES := by
    rw [Message.bytes, List.length_append, m.header_length]
    omega
  have hdrop : m.bytes.drop CRUISE_SIDECAR_REQUEST_BYTES = m.metadata := by
    rw [Message.bytes, ← m.header_length]
    exact List.drop_left
  have hcomplete : ¬(m.request.operation = kDeviceIpcExecute ∧ m.metadata.length < CRUISE_RESIDENT_IPC_METADATA_BYTES) := by
    rintro ⟨hoperation, hshort⟩
    have hlength : m.metadata.length =
      if m.request.operation = kDeviceIpcExecute then CRUISE_RESIDENT_IPC_METADATA_BYTES else 0 := m.metadata_length
    rw [if_pos hoperation] at hlength
    omega
  unfold serveRequest
  dsimp only
  rw [if_neg hlong, hparse, hdrop, if_neg hcomplete]
  rfl

/-- **A pass takes a message whole** and answers it, unless it leaves its metadata. -/
theorem message_served {s : LoopState} {m : Message} {rest : List UInt8} (env : BridgeEnv) (path : String)
    (h : s.Ready (m.bytes ++ rest)) (hcut : ¬m.Cut) :
    ∃ reads engine response, PassOf env path m s rest reads engine response := by
  obtain ⟨reads, hread, hleft⟩ := header_read h
  have hserve := serve_message env path s.engine m
  have hpass : serverPass env path s =
      let s := { s with reads }
      if m.request.refused then s.respond (emptyResponse 69) goesOn
      else if m.request.operation = kShutdown then
        s.respond (emptyResponse 0) fun done => some (if done then 0 else 70)
      else if m.request.operation ∉ [kExecute, kWarmUp, kImportExecute, kDeviceIpcExecute] then
        s.respond (emptyResponse 71) goesOn
      else
        match readAll (if m.request.operation = kDeviceIpcExecute then CRUISE_RESIDENT_IPC_METADATA_BYTES else 0) reads with
        | (none, reads) => { s with reads, exit_status := some 73 }
        | (some metadata, reads) =>
          let outcome := residentEpochExecute env s.engine
            (serverArgs path m.request (parseIpcMetadata metadata)) (emptyResponse 0).outputs
          { s with reads, engine := outcome.engine }.respond ⟨kResponseMagic, outcome.ret, outcome.outputs⟩ goesOn := by
    unfold serverPass
    rw [hread]
    rfl
  -- without metadata nothing is left of the message behind its header
  have hplain (hoperation : m.request.operation ≠ kDeviceIpcExecute) : arrived reads = rest := by
    rw [hleft, Message.no_metadata hoperation, List.nil_append]
  by_cases hrefused : m.request.refused
  · have hended : m.ended = goesOn := if_neg fun hs => hs.1 hrefused
    rw [if_pos hrefused] at hpass hserve
    exact ⟨reads, s.engine, emptyResponse 69, hpass.trans (by rw [hended]), hplain fun hop => hcut ⟨hrefused, hop⟩,
      by rw [hserve], by rw [hserve]⟩
  rw [if_neg hrefused] at hpass hserve
  by_cases hshutdown : m.request.operation = kShutdown
  · have hended : m.ended = fun done => some (if done then 0 else 70) := if_pos ⟨hrefused, hshutdown⟩
    rw [if_pos hshutdown] at hpass hserve
    have hplain := hplain (by rw [hshutdown]; decide)
    exact ⟨reads, s.engine, emptyResponse 0, hpass.trans (by rw [hended]), hplain, by rw [hserve], by rw [hserve]⟩
  have hended : m.ended = goesOn := if_neg fun hs => hshutdown hs.2
  rw [if_neg hshutdown] at hpass hserve
  by_cases hunknown : m.request.operation ∉ [kExecute, kWarmUp, kImportExecute, kDeviceIpcExecute]
  · rw [if_pos hunknown] at hpass hserve
    have hplain := hplain fun hop => hunknown (by rw [hop]; decide)
    exact ⟨reads, s.engine, emptyResponse 71, hpass.trans (by rw [hended]), hplain, by rw [hserve], by rw [hserve]⟩
  rw [if_neg hunknown] at hpass hserve
  have hlength : m.metadata.length =
    if m.request.operation = kDeviceIpcExecute then CRUISE_RESIDENT_IPC_METADATA_BYTES else 0 := m.metadata_length
  have hle : m.metadata.length ≤ (arrived reads).length := by
    rw [hleft, List.length_append]
    omega
  obtain ⟨reads', hread', hleft'⟩ := readAll_some hle
  rw [hleft, List.take_left] at hread'
  rw [hleft, List.drop_left] at hleft'
  rw [← hlength, hread'] at hpass
  exact ⟨reads', _, _, hpass.trans (by rw [hended]), hleft', by rw [hserve], by rw [hserve]⟩

/-- **The metadata of a cut message stay in the stream.** -/
theorem metadata_left {s : LoopState} {m : Message} {rest : List UInt8} (env : BridgeEnv) (path : String)
    (h : s.Ready (m.bytes ++ rest)) (hcut : m.Cut) : arrived (serverPass env path s).reads = m.metadata ++ rest := by
  obtain ⟨reads, hread, hleft⟩ := header_read h
  have hpass : serverPass env path s = { s with reads }.respond (emptyResponse 69) goesOn := by
    unfold serverPass
    rw [hread]
    exact if_pos hcut.1
  rw [hpass]
  exact hleft

/-! ## The whole loop -/

/-- what the loop makes of a message: it takes its bytes, and sends the one response to it -/
structure MessagePass (env : BridgeEnv) (path : String) (m : Message) (before after : LoopState) : Prop where
  running : before.exit_status = none
  taken : arrived before.reads = m.bytes ++ arrived after.reads
  answered : ∃ response, (serveRequest env path before.engine m.bytes).response = some response ∧
    after.sent = before.sent ++ response.bytes ∧ response.bytes.length = CRUISE_SIDECAR_RESPONSE_BYTES
  engine : after.engine = (serveRequest env path before.engine m.bytes).engine
  exit_status : after.exit_status = if m.Shutdown then some 0 else none

/-- a message a pass, until the shutdown or the end of the stream; then the loop is over -/
structure Framed (env : ℕ → BridgeEnv) (path : String) (s : LoopState) (messages : List Message) : Prop where
  pass : ∀ k m, (untilShutdown messages)[k]? = some m →
    MessagePass (env k) path m (serverLoop env path s k) (serverLoop env path s (k + 1))
  ended : ∀ n, n = (untilShutdown messages).length → (serverLoop env path s (n + 1)).exit_status ≠ none ∧
    (serverLoop env path s (n + 1)).sent = (serverLoop env path s n).sent

theorem untilShutdown_initial (messages : List Message) : untilShutdown messages <+: messages := by
  induction messages with
  | nil => exact List.prefix_rfl
  | cons m messages ih =>
    rw [untilShutdown]
    split_ifs
    · exact List.cons_prefix_cons.2 ⟨rfl, List.nil_prefix⟩
    · exact List.cons_prefix_cons.2 ⟨rfl, ih⟩

/-- a shutdown is the last of them, and only a shutdown leaves messages behind -/
theorem untilShutdown_last (messages : List Message) :
    (∀ k m, (untilShutdown messages)[k]? = some m → m.Shutdown → k + 1 = (untilShutdown messages).length) ∧
      ((∀ m ∈ untilShutdown messages, ¬m.Shutdown) → untilShutdown messages = messages) := by
  induction messages with
  | nil =>
    refine ⟨fun k m hk => ?_, fun _ => rfl⟩
    cases hk
  | cons m messages ih =>
    rw [untilShutdown]
    by_cases hm : m.Shutdown
    · rw [if_pos hm]
      refine ⟨fun k other hk _ => ?_, fun hnone => absurd hm (hnone m List.mem_cons_self)⟩
      cases k with
      | zero => rfl
      | succ k => cases hk
    · rw [if_neg hm]
      refine ⟨fun k other hk hother => ?_, fun hnone => ?_⟩
      · cases k with
        | zero =>
          cases hk
          exact absurd hother hm
        | succ k => rw [List.length_cons, ih.1 k other hk hother]
      · rw [ih.2 fun other hother => hnone other (List.mem_cons_of_mem _ hother)]

section Loop

variable {env : ℕ → BridgeEnv} {path : String} {s : LoopState} {messages : List Message}

theorem serverLoop_pass {n : ℕ} (h : (serverLoop env path s n).exit_status = none) :
    serverLoop env path s (n + 1) = serverPass (env n) path (serverLoop env path s n) := by
  show (if (serverLoop env path s n).exit_status.isSome then _ else _) = _
  rw [h]
  rfl

theorem respond_writes {s : LoopState} (h : Write.failed ∉ s.writes) (response : Response) (ended : Bool → Option Int) :
    Write.failed ∉ (s.respond response ended).writes := by
  obtain ⟨writes, hrespond, hok⟩ := respond_sent h response ended
  rw [hrespond]
  exact hok

/-- the writes to come of a loop are those of its connection -/
theorem serverPass_writes (env : BridgeEnv) (h : Write.failed ∉ s.writes) : Write.failed ∉ (serverPass env path s).writes := by
  unfold serverPass
  split
  · exact h
  dsimp only
  split_ifs
  any_goals exact respond_writes (by exact h) _ _
  all_goals
    split
    · exact h
    · exact respond_writes (by exact h) _ _

theorem serverLoop_writes (h : Write.failed ∉ s.writes) (n : ℕ) : Write.failed ∉ (serverLoop env path s n).writes := by
  induction n with
  | zero => exact h
  | succ n ih =>
    show Write.failed ∉ (if _ then _ else _ : LoopState).writes
    split_ifs
    · exact ih
    · exact serverPass_writes _ ih

/-- the pass of a message the loop is ready for -/
theorem loop_message {n : ℕ} {m : Message} {rest : List UInt8} (h : (serverLoop env path s n).Ready (m.bytes ++ rest))
    (hcut : ¬m.Cut) : MessagePass (env n) path m (serverLoop env path s n) (serverLoop env path s (n + 1)) ∧
      arrived (serverLoop env path s (n + 1)).reads = rest := by
  obtain ⟨reads, engine, response, hpass, hreads, hserved, hengine⟩ := message_served (env n) path h hcut
  obtain ⟨writes, hrespond, -⟩ := respond_sent (s := { serverLoop env path s n with reads, engine }) h.writes response m.ended
  rw [serverLoop_pass h.running, hpass, hrespond]
  refine ⟨⟨h.running, ?_, ⟨response, hserved, rfl, response_length response⟩, hengine.symm, ?_⟩, hreads⟩
  · show _ = m.bytes ++ arrived reads
    rw [h.stream, hreads]
  · show m.ended true = _
    unfold Message.ended
    split_ifs <;> rfl

/-- **Message by message.** Where no message is cut, the loop is ready for the next one after each. -/
theorem loop_ready (hstart : s.Ready (messages.flatMap Message.bytes)) (hcut : ∀ m ∈ untilShutdown messages, ¬m.Cut)
    (k : ℕ) : ∀ m, (untilShutdown messages)[k]? = some m →
      (serverLoop env path s k).Ready (m.bytes ++ (messages.drop (k + 1)).flatMap Message.bytes) := by
  have hnext {k : ℕ} {m : Message} (hk : (untilShutdown messages)[k]? = some m) :
      (messages.drop k).flatMap Message.bytes = m.bytes ++ (messages.drop (k + 1)).flatMap Message.bytes := by
    have hmessage : messages[k]? = some m := by
      obtain ⟨hlt, rfl⟩ := List.getElem?_eq_some_iff.1 hk
      exact List.prefix_iff_getElem?.1 (untilShutdown_initial messages) k hlt
    obtain ⟨hlt, rfl⟩ := List.getElem?_eq_some_iff.1 hmessage
    rw [List.drop_eq_getElem_cons hlt, List.flatMap_cons]
  induction k with
  | zero =>
    intro m hm
    rw [← hnext hm]
    exact hstart
  | succ k ih =>
    intro m hm
    have hlt : k + 1 < (untilShutdown messages).length := (List.getElem?_eq_some_iff.1 hm).1
    have hprev := List.getElem?_eq_getElem (Nat.lt_of_succ_lt hlt)
    have hshutdown : ¬((untilShutdown messages)[k]).Shutdown := by
      intro h
      have hlast := (untilShutdown_last messages).1 k _ hprev h
      omega
    obtain ⟨hpass, hleft⟩ := loop_message (ih _ hprev) (hcut _ (List.getElem_mem _))
    refine ⟨hpass.exit_status.trans (if_neg hshutdown), ?_, serverLoop_writes hstart.writes _⟩
    rw [hleft, hnext hm]

/-- after the last pass there is nothing left to read, or the loop has ended -/
theorem loop_end (hstart : s.Ready (messages.flatMap Message.bytes)) (hcut : ∀ m ∈ untilShutdown messages, ¬m.Cut) :
    (serverLoop env path s (untilShutdown messages).length).exit_status ≠ none ∨
      (serverLoop env path s (untilShutdown messages).length).Ready [] := by
  by_cases hshutdown : ∃ m ∈ untilShutdown messages, m.Shutdown
  · obtain ⟨m, hmem, hm⟩ := hshutdown
    obtain ⟨k, hk⟩ := List.mem_iff_getElem?.1 hmem
    have hready : (serverLoop env path s k).Ready _ := loop_ready hstart hcut k m hk
    have hpass := (loop_message hready (hcut m hmem)).1
    left
    rw [← (untilShutdown_last messages).1 k m hk hm, hpass.exit_status, if_pos hm]
    exact Option.some_ne_none 0
  · have hnone : ∀ m ∈ untilShutdown messages, ¬m.Shutdown := fun m hmem hm => hshutdown ⟨m, hmem, hm⟩
    have hall := (untilShutdown_last messages).2 hnone
    right
    cases hlength : (untilShutdown messages).length with
    | zero =>
      rw [hall] at hlength
      rw [List.eq_nil_of_length_eq_zero hlength] at hstart
      exact hstart
    | succ k =>
      have hlt : k < (untilShutdown messages).length := by omega
      have hk := List.getElem?_eq_getElem hlt
      have hready : (serverLoop env path s k).Ready _ := loop_ready hstart hcut k _ hk
      obtain ⟨hpass, hleft⟩ := loop_message hready (hcut _ (List.getElem_mem hlt))
      refine ⟨hpass.exit_status.trans (if_neg (hnone _ (List.getElem_mem hlt))), ?_, serverLoop_writes hstart.writes _⟩
      rw [hleft, List.drop_of_length_le (by rw [← hall]; omega)]
      rfl

/-- the pass of a cut message takes less than the message -/
theorem cut_not_taken (env : ℕ → BridgeEnv) (n : ℕ) {m : Message} (hwrites : Write.failed ∉ s.writes) (hcut : m.Cut) :
    ¬MessagePass (env n) path m (serverLoop env path s n) (serverLoop env path s (n + 1)) := by
  intro hpass
  have hleft := metadata_left (env n) path ⟨hpass.running, hpass.taken, serverLoop_writes hwrites n⟩ hcut
  rw [← serverLoop_pass hpass.running] at hleft
  have hlength := congrArg List.length hleft
  have hmetadata : m.metadata.length =
    if m.request.operation = kDeviceIpcExecute then CRUISE_RESIDENT_IPC_METADATA_BYTES else 0 := m.metadata_length
  have hpos : 0 < CRUISE_RESIDENT_IPC_METADATA_BYTES := by decide
  rw [if_pos hcut.2] at hmetadata
  rw [List.length_append] at hlength
  omega

/-- **The framing of the server.** Every message is taken whole and answered once, exactly when none before the shutdown is
refused with its metadata still in the stream. -/
theorem framed_iff (hstart : s.Ready (messages.flatMap Message.bytes)) :
    Framed env path s messages ↔ ∀ m ∈ untilShutdown messages, ¬m.Cut := by
  constructor
  · intro hframed m hmem hcut
    obtain ⟨k, hk⟩ := List.mem_iff_getElem?.1 hmem
    exact cut_not_taken env k hstart.writes hcut (hframed.pass k m hk)
  · intro hcut
    refine ⟨fun k m hk => ?_, ?_⟩
    · exact (loop_message (loop_ready hstart hcut k m hk) (hcut m (List.mem_of_getElem? hk))).1
    · rintro n rfl
      rcases loop_end hstart hcut with hended | hready
      · have hstop : serverLoop env path s ((untilShutdown messages).length + 1) =
            serverLoop env path s (untilShutdown messages).length :=
          if_pos (Option.isSome_iff_ne_none.2 hended)
        rw [hstop]
        exact ⟨hended, rfl⟩
      · -- the peer has closed: there is no further request to read
        have hread : (readAll CRUISE_SIDECAR_REQUEST_BYTES
            (serverLoop env path s (untilShutdown messages).length).reads).1 = none := by
          refine readAll_none ?_
          rw [hready.stream]
          decide
        rw [serverLoop_pass hready.running]
        unfold serverPass
        generalize readAll CRUISE_SIDECAR_REQUEST_BYTES _ = read at hread
        obtain ⟨read, reads⟩ := read
        cases hread
        exact ⟨Option.some_ne_none 68, rfl⟩

end Loop

/-! ## A cut message before a shutdown -/

def header (version operation : Int) : List UInt8 :=
  pack requestFields ([kRequestMagic, version, operation] ++ List.replicate 23 0)

/-- a shutdown, of the current version -/
def shutdownMessage : Message where
  header := header kProtocolVersion kShutdown
  metadata := []
  header_length := by decide +kernel
  metadata_length := by decide +kernel

/-- a Device import of the version before, with its metadata -/
def oldImport : Message where
  header := header 6 kDeviceIpcExecute
  metadata := List.replicate CRUISE_RESIDENT_IPC_METADATA_BYTES 0
  header_length := by decide +kernel
  metadata_length := by
    rw [List.length_replicate]
    decide +kernel

/-- an unknown operation -/
def unknownMessage : Message where
  header := header kProtocolVersion 9
  metadata := []
  header_length := by decide +kernel
  metadata_length := by decide +kernel

/-- the stream of a few messages in pieces of any size, none of them empty -/
def pieces (stream : List UInt8) : List ℕ → List (Read UInt8)
  | [] => unread stream []
  | size :: sizes => unread (stream.take size) (.interrupted :: pieces (stream.drop size) sizes)

theorem pieces_arrived (stream : List UInt8) (sizes : List ℕ) : arrived (pieces stream sizes) = stream := by
  induction sizes generalizing stream with
  | nil =>
    rw [pieces, arrived_unread]
    exact List.append_nil stream
  | cons size sizes ih =>
    rw [pieces, arrived_unread, arrived, ih]
    exact List.take_append_drop size stream

theorem unknown_framed : Framed (fun _ => .plain) "/dev/shm/cruise.kv-transfer"
    (.start (some .plain) (pieces ([unknownMessage, shutdownMessage].flatMap Message.bytes) [3, 140]) [.accepted 9, .interrupted])
    [unknownMessage, shutdownMessage] :=
  (framed_iff ⟨rfl, pieces_arrived _ _, by decide⟩).2 (by decide +kernel)

/-- **A shutdown goes unheard.** The metadata of an import of another version are read as the next request. -/
theorem shutdown_misread :
    ¬Framed (fun _ => .plain) "/dev/shm/cruise.kv-transfer"
      (.start (some .plain) (pieces ([oldImport, shutdownMessage].flatMap Message.bytes) []) []) [oldImport, shutdownMessage] ∧
    (serverLoop (fun _ => .plain) "/dev/shm/cruise.kv-transfer"
      (.start (some .plain) (pieces ([oldImport, shutdownMessage].flatMap Message.bytes) []) []) 2).exit_status = none := by
  refine ⟨fun hframed => ?_, by decide +kernel⟩
  have hfirst : (untilShutdown [oldImport, shutdownMessage])[0]? = some oldImport := rfl
  exact cut_not_taken (fun _ => .plain) 0 List.not_mem_nil (show oldImport.Cut by decide +kernel) (hframed.pass 0 oldImport hfirst)

end Cruise.Native
