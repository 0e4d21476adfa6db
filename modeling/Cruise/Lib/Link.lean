/-
One client and one server at the two ends of a byte stream each way, a request at a time.

MODEL. The client sends a request and reads a response of fixed length. The server reads a request whose own bytes tell
its length, answers it and starts over. Bytes move in chunks of any size and stay in flight as long as they like; either
end may stop at any point: the client gives a call up, the server closes. Requests, responses and answers are logged with
the offset in the client's stream at which the request starts, so that an answer can be compared with the response to the
very bytes its call sent.
- `Aligned`: the two ends are at matching points of one exchange.
- `step_invariant`: every step keeps them there, unless a call is given up whose request may still be answered.
- `run_correlated`: in a run of such steps every answer is the response to its own call's request; there is only one such
  request (`served_starts`).
- `stale_answer`: after a call that was given up too late, the next one reads the response to it; a call that waits reads
  its own (`prompt_answer`).
-/
import Mathlib.Data.List.Basic
import Mathlib.Tactic
import Cruise.Lib.Run

namespace Cruise.Lib.Link

variable {ε σ κ : Type}

/-- `ε` is what an answer depends on outside the server's own state `σ`; `κ` are the client's calls -/
structure Protocol (ε σ κ : Type) where
  request : κ → List UInt8
  /-- how many bytes the server still reads of a request that started so -/
  wanted : List UInt8 → ℕ
  /-- no response ends the server -/
  serve : ε → σ → List UInt8 → σ × Option (List UInt8)
  responseBytes : ℕ

inductive Client (κ : Type) where
  | idle
  | sending (call : κ) (start : ℕ) (rest : List UInt8)
  | receiving (call : κ) (start : ℕ) (got : List UInt8)

inductive Server where
  | reading (arrived : List UInt8)
  | writing (rest : List UInt8)
  | closed

/-- a request the server answered; `start` is its offset in the client's stream -/
structure Served where
  start : ℕ
  request : List UInt8
  response : List UInt8

/-- a call that read all the bytes of a response -/
structure Answer (κ : Type) where
  call : κ
  start : ℕ
  bytes : List UInt8

structure State (σ κ : Type) where
  client : Client κ
  server : Server
  engine : σ
  /-- in flight to the server and to the client -/
  outgoing : List UInt8
  incoming : List UInt8
  /-- how much the client has sent, and how much of it belongs to requests the server is done with -/
  sent : ℕ
  taken : ℕ
  served : List Served
  answers : List (Answer κ)

/-- nothing is under way, and `sent` bytes were exchanged for the answers -/
def State.rest (engine : σ) (sent : ℕ) (served : List Served) (answers : List (Answer κ)) : State σ κ :=
  ⟨.idle, .reading [], engine, [], [], sent, sent, served, answers⟩

def State.start (engine : σ) : State σ κ := .rest engine 0 [] []

inductive Event (ε κ : Type) where
  | call (call : κ)
  | send (count : ℕ)
  | read (count : ℕ)
  | serve (env : ε)
  | write (count : ℕ)
  | recv (count : ℕ)
  | giveUp
  | close

/-- one step, where it is enabled -/
def step (P : Protocol ε σ κ) (s : State σ κ) : Event ε κ → Option (State σ κ)
  | .call call =>
    match s.client with
    | .idle => some { s with client := .sending call s.sent (P.request call) }
    | _ => none
  | .send count =>
    match s.client with
    | .sending call start rest =>
      if 0 < count ∧ count ≤ rest.length then
        some { s with
          client := if count = rest.length then .receiving call start [] else .sending call start (rest.drop count)
          outgoing := s.outgoing ++ rest.take count
          sent := s.sent + count }
      else none
    | _ => none
  | .read count =>
    match s.server with
    | .reading arrived =>
      if 0 < count ∧ count ≤ s.outgoing.length ∧ count ≤ P.wanted arrived then
        some { s with server := .reading (arrived ++ s.outgoing.take count), outgoing := s.outgoing.drop count }
      else none
    | _ => none
  | .serve env =>
    match s.server with
    | .reading arrived =>
      if P.wanted arrived = 0 then
        match P.serve env s.engine arrived with
        | (engine, none) => some { s with server := .closed, engine }
        | (engine, some response) =>
          some { s with
            server := .writing response
            engine
            taken := s.taken + arrived.length
            served := s.served ++ [⟨s.taken, arrived, response⟩] }
      else none
    | _ => none
  | .write count =>
    match s.server with
    | .writing rest =>
      if 0 < count ∧ count ≤ rest.length then
        some { s with
          server := if count = rest.length then .reading [] else .writing (rest.drop count)
          incoming := s.incoming ++ rest.take count }
      else none
    | _ => none
  | .recv count =>
    match s.client with
    | .receiving call start got =>
      if 0 < count ∧ count ≤ s.incoming.length ∧ got.length + count ≤ P.responseBytes then
        let got := got ++ s.incoming.take count
        if got.length = P.responseBytes then
          some { s with
            client := .idle, incoming := s.incoming.drop count, answers := s.answers ++ [⟨call, start, got⟩] }
        else some { s with client := .receiving call start got, incoming := s.incoming.drop count }
      else none
    | _ => none
  | .giveUp =>
    match s.client with
    | .idle => none
    | _ => some { s with client := .idle }
  | .close => some { s with server := .closed }

def Steps (P : Protocol ε σ κ) (s : State σ κ) (e : Event ε κ) (t : State σ κ) : Prop := step P s e = some t

/-- the answer is the response to the request its call sent -/
def Answer.Correlated (P : Protocol ε σ κ) (s : State σ κ) (a : Answer κ) : Prop :=
  ∃ r ∈ s.served, r.start = a.start ∧ r.request = P.request a.call ∧ r.response = a.bytes

/-- a call is given up before any of its bytes went out, or at the end of the server's stream -/
def Safe (s : State σ κ) (e : Event ε κ) : Prop :=
  match e with
  | .giveUp =>
    (∃ call start rest, s.client = .sending call start rest ∧ s.sent = start) ∨ (s.server = .closed ∧ s.incoming = [])
  | _ => True

/-- the server knows where the client's requests end, and every response is of the length the client reads -/
structure Framed (P : Protocol ε σ κ) : Prop where
  wanted : ∀ call arrived, arrived <+: P.request call → (P.wanted arrived = 0 ↔ arrived = P.request call)
  fresh : P.wanted [] ≠ 0
  response : ∀ env engine request response, (P.serve env engine request).2 = some response →
    response.length = P.responseBytes
  positive : 0 < P.responseBytes

/-! ## Alignment -/

/-- nothing is under way -/
def Quiet (s : State σ κ) : Prop :=
  s.incoming = [] ∧ (s.server = .closed ∨ (s.server = .reading [] ∧ s.outgoing = [] ∧ s.taken = s.sent))

/-- the server has read part of the call's request; `rest` has not gone out yet -/
def Asking (P : Protocol ε σ κ) (s : State σ κ) (call : κ) (start : ℕ) (rest : List UInt8) : Prop :=
  s.incoming = [] ∧ s.sent + rest.length = start + (P.request call).length ∧
    (s.server = .closed ∨
      ∃ arrived, s.server = .reading arrived ∧ arrived ++ (s.outgoing ++ rest) = P.request call ∧ s.taken = start)

/-- the client has got part of the response, `pending` is still to be written -/
def Answering (P : Protocol ε σ κ) (s : State σ κ) (call : κ) (start : ℕ) (got : List UInt8) : Prop :=
  ∃ response pending, ⟨start, P.request call, response⟩ ∈ s.served ∧ response.length = P.responseBytes ∧
    got ++ (s.incoming ++ pending) = response ∧
    (s.server = .closed ∨
      (s.outgoing = [] ∧ s.taken = s.sent ∧
        ((s.server = .writing pending ∧ pending ≠ []) ∨ (s.server = .reading [] ∧ pending = []))))

/-- the two ends are at matching points of one exchange -/
def Aligned (P : Protocol ε σ κ) (s : State σ κ) : Prop :=
  match s.client with
  | .idle => Quiet s
  | .sending call start rest => rest ≠ [] ∧ Asking P s call start rest
  | .receiving call start got =>
    got.length < P.responseBytes ∧ ((got = [] ∧ Asking P s call start []) ∨ Answering P s call start got)

structure Invariant (P : Protocol ε σ κ) (s : State σ κ) : Prop where
  aligned : Aligned P s
  correlated : ∀ a ∈ s.answers, a.Correlated P s

theorem Answer.Correlated.mono {P : Protocol ε σ κ} {s s' : State σ κ} {a : Answer κ} (h : a.Correlated P s)
    (hserved : ∀ r ∈ s.served, r ∈ s'.served) : a.Correlated P s' := by
  obtain ⟨r, hr, hanswer⟩ := h
  exact ⟨r, hserved r hr, hanswer⟩

section Step

variable {P : Protocol ε σ κ} {s s' : State σ κ}

/-- a server that closes leaves the client where it is -/
theorem close_aligned {engine : σ} (ha : Aligned P s) : Aligned P { s with server := .closed, engine } := by
  unfold Aligned at ha ⊢
  cases hclient : s.client with
  | idle =>
    simp only [hclient] at ha ⊢
    exact ⟨ha.1, Or.inl rfl⟩
  | sending call start rest =>
    simp only [hclient] at ha ⊢
    exact ⟨ha.1, ha.2.1, ha.2.2.1, Or.inl rfl⟩
  | receiving call start got =>
    simp only [hclient] at ha ⊢
    obtain ⟨hgot, ⟨hnil, hasking⟩ | ⟨response, pending, hserved, hlength, hbytes, -⟩⟩ := ha
    · exact ⟨hgot, Or.inl ⟨hnil, hasking.1, hasking.2.1, Or.inl rfl⟩⟩
    · exact ⟨hgot, Or.inr ⟨response, pending, hserved, hlength, hbytes, Or.inl rfl⟩⟩

theorem Framed.request_ne_nil (hf : Framed P) (call : κ) : P.request call ≠ [] := fun hnil =>
  hf.fresh ((hf.wanted call [] List.nil_prefix).2 hnil.symm)

theorem call_aligned (hf : Framed P) (call : κ) (ha : Aligned P s) (h : step P s (.call call) = some s') : Aligned P s' := by
  unfold step at h
  cases hclient : s.client with
  | idle =>
    simp only [hclient, Option.some.injEq] at h
    subst h
    unfold Aligned at ha
    simp only [hclient] at ha
    obtain ⟨hincoming, hserver⟩ := ha
    refine ⟨hf.request_ne_nil call, hincoming, rfl, ?_⟩
    rcases hserver with hclosed | ⟨hreading, houtgoing, htaken⟩
    · exact Or.inl hclosed
    · exact Or.inr ⟨[], hreading, by rw [houtgoing]; rfl, htaken⟩
  | sending => simp only [hclient] at h; cases h
  | receiving => simp only [hclient] at h; cases h

theorem send_aligned (hf : Framed P) (count : ℕ) (ha : Aligned P s) (h : step P s (.send count) = some s') :
    Aligned P s' := by
  unfold step at h
  cases hclient : s.client with
  | idle => simp only [hclient] at h; cases h
  | receiving => simp only [hclient] at h; cases h
  | sending call start rest =>
    simp only [hclient, Option.ite_none_right_eq_some, Option.some.injEq] at h
    obtain ⟨⟨hpos, hle⟩, h⟩ := h
    subst h
    unfold Aligned at ha
    simp only [hclient] at ha
    obtain ⟨-, hincoming, hsent, hserver⟩ := ha
    have hcount : s.sent + count + (rest.drop count).length = start + (P.request call).length := by
      rw [List.length_drop]
      omega
    have hstream : s.server = .closed ∨ ∃ arrived, s.server = .reading arrived ∧
        arrived ++ (s.outgoing ++ rest.take count ++ rest.drop count) = P.request call ∧ s.taken = start := by
      rwa [List.append_assoc, List.take_append_drop]
    unfold Aligned
    by_cases hall : count = rest.length
    · have hdrop : rest.drop count = [] := List.drop_eq_nil_of_le hall.ge
      rw [hdrop] at hcount hstream
      simp only [if_pos hall]
      exact ⟨hf.positive, Or.inl ⟨trivial, hincoming, hcount, hstream⟩⟩
    · have hrest : rest.drop count ≠ [] := fun hnil => hall (le_antisymm hle (List.drop_eq_nil_iff.1 hnil))
      simp only [if_neg hall]
      exact ⟨hrest, hincoming, hcount, hstream⟩

/-- reading moves bytes of the same stream -/
theorem asking_read {call : κ} {start count : ℕ} {rest arrived : List UInt8} (hserver : s.server = .reading arrived)
    (ha : Asking P s call start rest) :
    Asking P { s with server := .reading (arrived ++ s.outgoing.take count), outgoing := s.outgoing.drop count }
      call start rest := by
  obtain ⟨hincoming, hsent, hclosed | ⟨arrived', hreading, hstream, htaken⟩⟩ := ha
  · rw [hserver] at hclosed
    cases hclosed
  · rw [hserver] at hreading
    cases hreading
    refine ⟨hincoming, hsent, Or.inr ⟨_, rfl, ?_, htaken⟩⟩
    rw [List.append_assoc, ← List.append_assoc (s.outgoing.take count), List.take_append_drop]
    exact hstream

theorem read_aligned (count : ℕ) (ha : Aligned P s) (h : step P s (.read count) = some s') : Aligned P s' := by
  unfold step at h
  cases hserver : s.server with
  | writing => simp only [hserver] at h; cases h
  | closed => simp only [hserver] at h; cases h
  | reading arrived =>
    simp only [hserver, Option.ite_none_right_eq_some, Option.some.injEq] at h
    obtain ⟨⟨hpos, hle, -⟩, h⟩ := h
    subst h
    have hbusy : s.outgoing ≠ [] := fun hnil => by
      rw [hnil] at hle
      exact absurd hle (by simpa using hpos.ne')
    unfold Aligned at ha ⊢
    cases hclient : s.client with
    | idle =>
      simp only [hclient] at ha ⊢
      obtain ⟨-, hclosed | ⟨-, houtgoing, -⟩⟩ := ha
      · rw [hserver] at hclosed
        cases hclosed
      · exact absurd houtgoing hbusy
    | sending call start rest =>
      simp only [hclient] at ha ⊢
      exact ⟨ha.1, asking_read hserver ha.2⟩
    | receiving call start got =>
      simp only [hclient] at ha ⊢
      obtain ⟨hgot, ⟨hnil, hasking⟩ | ⟨response, pending, -, -, -, hclosed | ⟨houtgoing, -⟩⟩⟩ := ha
      · exact ⟨hgot, Or.inl ⟨hnil, asking_read hserver hasking⟩⟩
      · rw [hserver] at hclosed
        cases hclosed
      · exact absurd houtgoing hbusy

theorem serve_aligned (hf : Framed P) (env : ε) (ha : Aligned P s) (h : step P s (.serve env) = some s') :
    Aligned P s' := by
  unfold step at h
  cases hserver : s.server with
  | writing => simp only [hserver] at h; cases h
  | closed => simp only [hserver] at h; cases h
  | reading arrived =>
    simp only [hserver, Option.ite_none_right_eq_some] at h
    obtain ⟨hwanted, h⟩ := h
    have hwhole (call : κ) (rest : List UInt8) (hstream : arrived ++ (s.outgoing ++ rest) = P.request call) :
        arrived = P.request call ∧ s.outgoing = [] ∧ rest = [] := by
      have heq := (hf.wanted call arrived ⟨_, hstream⟩).1 hwanted
      rw [← heq] at hstream
      exact ⟨heq, List.append_eq_nil_iff.1 (List.append_right_eq_self.1 hstream)⟩
    rcases hserve : P.serve env s.engine arrived with ⟨engine, _ | response⟩
    · simp only [hserve, Option.some.injEq] at h
      subst h
      exact close_aligned ha
    · simp only [hserve, Option.some.injEq] at h
      subst h
      have hresponse : response.length = P.responseBytes := hf.response env s.engine arrived response (by rw [hserve])
      have hne : response ≠ [] := fun hnil => by
        rw [hnil] at hresponse
        exact absurd hresponse hf.positive.ne
      unfold Aligned at ha ⊢
      cases hclient : s.client with
      | idle =>
        simp only [hclient] at ha
        obtain ⟨-, hclosed | ⟨hreading, -⟩⟩ := ha
        · rw [hserver] at hclosed
          cases hclosed
        · rw [hserver] at hreading
          cases hreading
          exact absurd hwanted hf.fresh
      | sending call start rest =>
        simp only [hclient] at ha
        obtain ⟨hrest, -, -, hclosed | ⟨arrived', hreading, hstream, -⟩⟩ := ha
        · rw [hserver] at hclosed
          cases hclosed
        · rw [hserver] at hreading
          cases hreading
          exact absurd (hwhole call rest hstream).2.2 hrest
      | receiving call start got =>
        simp only [hclient] at ha ⊢
        obtain ⟨hgot, ⟨rfl, hincoming, hsent, hclosed | ⟨arrived', hreading, hstream, htaken⟩⟩ |
          ⟨_, pending, -, -, -, hclosed | ⟨-, -, ⟨hwriting, -⟩ | ⟨hreading, -⟩⟩⟩⟩ := ha
        · rw [hserver] at hclosed
          cases hclosed
        · rw [hserver] at hreading
          cases hreading
          obtain ⟨heq, houtgoing, -⟩ := hwhole call [] hstream
          refine ⟨hgot, Or.inr ⟨response, response, ?_, hresponse, ?_, Or.inr ⟨houtgoing, ?_, Or.inl ⟨rfl, hne⟩⟩⟩⟩
          · rw [heq, htaken]
            exact List.mem_append_right _ List.mem_cons_self
          · rw [hincoming]
            rfl
          · rw [heq, htaken]
            exact hsent.symm
        · rw [hserver] at hclosed
          cases hclosed
        · rw [hserver] at hwriting
          cases hwriting
        · rw [hserver] at hreading
          cases hreading
          exact absurd hwanted hf.fresh

theorem write_aligned (count : ℕ) (ha : Aligned P s) (h : step P s (.write count) = some s') : Aligned P s' := by
  unfold step at h
  cases hserver : s.server with
  | reading => simp only [hserver] at h; cases h
  | closed => simp only [hserver] at h; cases h
  | writing rest =>
    simp only [hserver, Option.ite_none_right_eq_some, Option.some.injEq] at h
    obtain ⟨⟨hpos, hle⟩, h⟩ := h
    subst h
    have hidle {Q : Prop} (hclosed : s.server = .closed) : Q := by
      rw [hserver] at hclosed
      cases hclosed
    have hreading {arrived : List UInt8} {Q : Prop} (h : s.server = .reading arrived) : Q := by
      rw [hserver] at h
      cases h
    unfold Aligned at ha ⊢
    cases hclient : s.client with
    | idle =>
      simp only [hclient] at ha
      obtain ⟨-, hclosed | ⟨hread, -⟩⟩ := ha
      · exact hidle hclosed
      · exact hreading hread
    | sending call start rest' =>
      simp only [hclient] at ha
      obtain ⟨-, -, -, hclosed | ⟨arrived, hread, -⟩⟩ := ha
      · exact hidle hclosed
      · exact hreading hread
    | receiving call start got =>
      simp only [hclient] at ha ⊢
      obtain ⟨hgot, ⟨-, -, -, hclosed | ⟨arrived, hread, -⟩⟩ |
        ⟨response, pending, hserved, hlength, hbytes, hclosed | ⟨houtgoing, htaken, ⟨hwriting, hne⟩ | ⟨hread, -⟩⟩⟩⟩ := ha
      · exact hidle hclosed
      · exact hreading hread
      · exact hidle hclosed
      · rw [hserver] at hwriting
        cases hwriting
        refine ⟨hgot, Or.inr ⟨response, rest.drop count, hserved, hlength, ?_, Or.inr ⟨houtgoing, htaken, ?_⟩⟩⟩
        · rw [List.append_assoc, List.take_append_drop]
          exact hbytes
        · by_cases hall : count = rest.length
          · exact Or.inr ⟨if_pos hall, List.drop_eq_nil_of_le hall.ge⟩
          · exact Or.inl ⟨if_neg hall, fun hnil => hall (le_antisymm hle (List.drop_eq_nil_iff.1 hnil))⟩
      · exact hreading hread

theorem recv_invariant (count : ℕ) (hi : Invariant P s) (h : step P s (.recv count) = some s') : Invariant P s' := by
  obtain ⟨ha, hcorrelated⟩ := hi
  unfold step at h
  cases hclient : s.client with
  | idle => simp only [hclient] at h; cases h
  | sending => simp only [hclient] at h; cases h
  | receiving call start got =>
    simp only [hclient, Option.ite_none_right_eq_some] at h
    obtain ⟨⟨hpos, hle, hroom⟩, h⟩ := h
    unfold Aligned at ha
    simp only [hclient] at ha
    obtain ⟨hgot, ⟨-, hincoming, -⟩ | ⟨response, pending, hserved, hlength, hbytes, hserver⟩⟩ := ha
    · rw [hincoming] at hle
      exact absurd hle (by simpa using hpos.ne')
    · have hstream : (got ++ s.incoming.take count) ++ (s.incoming.drop count ++ pending) = response := by
        rw [List.append_assoc, ← List.append_assoc (s.incoming.take count), List.take_append_drop]
        exact hbytes
      by_cases hdone : (got ++ s.incoming.take count).length = P.responseBytes
      · rw [if_pos hdone] at h
        cases h
        -- the client has read the whole response, so nothing of it is left in flight
        have hrest : s.incoming.drop count ++ pending = [] := by
          have hsum := congrArg List.length hstream
          rw [List.length_append, hdone, hlength] at hsum
          exact List.length_eq_zero_iff.1 (by omega)
        obtain ⟨hdrained, hwritten⟩ := List.append_eq_nil_iff.1 hrest
        rw [hrest, List.append_nil] at hstream
        refine ⟨⟨hdrained, ?_⟩, ?_⟩
        · rcases hserver with hclosed | ⟨houtgoing, htaken, ⟨-, hne⟩ | ⟨hreading, -⟩⟩
          · exact Or.inl hclosed
          · exact absurd hwritten hne
          · exact Or.inr ⟨hreading, houtgoing, htaken⟩
        · intro a hmem
          rcases List.mem_append.1 hmem with hmem | hmem
          · exact hcorrelated a hmem
          · obtain rfl := List.mem_singleton.1 hmem
            exact ⟨_, hserved, rfl, rfl, hstream.symm⟩
      · rw [if_neg hdone] at h
        cases h
        refine ⟨⟨?_, Or.inr ⟨response, pending, hserved, hlength, hstream, hserver⟩⟩, hcorrelated⟩
        rw [List.length_append, List.length_take, min_eq_left hle] at hdone ⊢
        exact lt_of_le_of_ne hroom hdone

theorem giveUp_aligned (hsafe : Safe s (.giveUp : Event ε κ)) (ha : Aligned P s)
    (h : step P s .giveUp = some s') : Aligned P s' := by
  have hquiet : Quiet s := by
    rcases hsafe with ⟨call, start, rest, hclient, hsent⟩ | ⟨hclosed, hincoming⟩
    · unfold Aligned at ha
      simp only [hclient] at ha
      obtain ⟨-, hincoming, hcount, hclosed | ⟨arrived, hreading, hstream, htaken⟩⟩ := ha
      · exact ⟨hincoming, Or.inl hclosed⟩
      · have hlength := congrArg List.length hstream
        rw [List.length_append, List.length_append] at hlength
        have harrived : arrived = [] := List.length_eq_zero_iff.1 (by omega)
        have houtgoing : s.outgoing = [] := List.length_eq_zero_iff.1 (by omega)
        subst harrived
        exact ⟨hincoming, Or.inr ⟨hreading, houtgoing, htaken.trans hsent.symm⟩⟩
    · exact ⟨hincoming, Or.inl hclosed⟩
  unfold step at h
  cases hclient : s.client with
  | idle => simp only [hclient] at h; cases h
  | sending => simp only [hclient, Option.some.injEq] at h; subst h; exact hquiet
  | receiving => simp only [hclient, Option.some.injEq] at h; subst h; exact hquiet

/-- what a step other than reading the response does to the logs -/
theorem step_logs {e : Event ε κ} (he : ∀ count, e ≠ .recv count) (h : step P s e = some s') :
    s'.answers = s.answers ∧ ∀ r ∈ s.served, r ∈ s'.served := by
  unfold step at h
  cases e with
  | recv count => exact absurd rfl (he count)
  | serve env =>
    dsimp only at h
    split at h
    · split at h
      · split at h
        · cases h
          exact ⟨rfl, fun r hr => hr⟩
        · cases h
          exact ⟨rfl, fun r hr => List.mem_append_left _ hr⟩
      · cases h
    · cases h
  | close =>
    cases h
    exact ⟨rfl, fun r hr => hr⟩
  | call | giveUp =>
    dsimp only at h
    split at h
    all_goals
      cases h
      try exact ⟨rfl, fun r hr => hr⟩
  | send | read | write =>
    dsimp only at h
    split at h
    · split at h
      · cases h
        exact ⟨rfl, fun r hr => hr⟩
      · cases h
    · cases h

/-- **One step.** The two ends stay at matching points, and what the client read is the response to its call. -/
theorem step_invariant (hf : Framed P) {e : Event ε κ} (hsafe : Safe s e) (hi : Invariant P s)
    (h : step P s e = some s') : Invariant P s' := by
  by_cases hrecv : ∃ count, e = .recv count
  · obtain ⟨count, rfl⟩ := hrecv
    exact recv_invariant count hi h
  · obtain ⟨hanswers, hserved⟩ := step_logs (fun count he => hrecv ⟨count, he⟩) h
    refine ⟨?_, fun a ha => (hi.correlated a (hanswers ▸ ha)).mono hserved⟩
    cases e with
    | call call => exact call_aligned hf call hi.aligned h
    | send count => exact send_aligned hf count hi.aligned h
    | read count => exact read_aligned count hi.aligned h
    | serve env => exact serve_aligned hf env hi.aligned h
    | write count => exact write_aligned count hi.aligned h
    | recv count => exact absurd ⟨count, rfl⟩ hrecv
    | giveUp => exact giveUp_aligned hsafe hi.aligned h
    | close =>
      cases h
      exact close_aligned hi.aligned

end Step

/-- **A run.** Where every call that is given up is given up safely, every answer is the response to the very bytes its
call sent. -/
theorem run_correlated {P : Protocol ε σ κ} (hf : Framed P) {engine : σ} {s : State σ κ}
    (h : Run (Steps P) Safe (State.start engine) s) : ∀ a ∈ s.answers, a.Correlated P s := by
  have hstart : Invariant P (State.start engine) := by
    refine ⟨⟨rfl, Or.inr ⟨rfl, rfl, rfl⟩⟩, fun a ha => ?_⟩
    cases ha
  have hi : Invariant P s := h.invariant hstart fun _ _ _ hi hstep hsafe => step_invariant hf hsafe hi hstep
  exact hi.correlated

/-- the offset tells which request an answer is about: no two answered requests start at the same one -/
theorem served_starts {P : Protocol ε σ κ} (hf : Framed P) {allowed : State σ κ → Event ε κ → Prop} {engine : σ}
    {s : State σ κ} (h : Run (Steps P) allowed (State.start engine) s) :
    (∀ r ∈ s.served, r.start < s.taken) ∧ s.served.Pairwise fun r r' => r.start < r'.start := by
  induction h with
  | refl => exact ⟨fun r hr => (by cases hr), .nil⟩
  | @tail t e u _ hstep _ ih =>
    have hsame (hlogs : u.served = t.served ∧ u.taken = t.taken) :
        (∀ r ∈ u.served, r.start < u.taken) ∧ u.served.Pairwise fun r r' => r.start < r'.start := by
      rw [hlogs.1, hlogs.2]
      exact ih
    unfold Steps step at hstep
    cases e with
    | serve env =>
      dsimp only at hstep
      split at hstep
      · rename_i arrived hserver
        split at hstep
        · rename_i hwanted
          have hpos : 0 < arrived.length := List.length_pos_of_ne_nil fun hnil => hf.fresh (hnil ▸ hwanted)
          split at hstep
          · cases hstep
            exact hsame ⟨rfl, rfl⟩
          · cases hstep
            refine ⟨fun r hr => ?_, List.pairwise_append.2 ⟨ih.2, List.pairwise_singleton _ _, ?_⟩⟩
            · change r.start < t.taken + arrived.length
              rcases List.mem_append.1 hr with hr | hr
              · exact lt_add_of_lt_of_pos (ih.1 r hr) hpos
              · obtain rfl := List.mem_singleton.1 hr
                exact lt_add_of_pos_right _ hpos
            · intro r hr r' hr'
              obtain rfl := List.mem_singleton.1 hr'
              exact ih.1 r hr
        · cases hstep
      · cases hstep
    | close =>
      cases hstep
      exact hsame ⟨rfl, rfl⟩
    | call | giveUp =>
      dsimp only at hstep
      split at hstep
      all_goals
        cases hstep
        try exact hsame ⟨rfl, rfl⟩
    | send | read | write =>
      dsimp only at hstep
      split at hstep
      · split at hstep
        · cases hstep
          exact hsame ⟨rfl, rfl⟩
        · cases hstep
      · cases hstep
    | recv =>
      dsimp only at hstep
      split at hstep
      · split at hstep
        · split at hstep
          · cases hstep
            exact hsame ⟨rfl, rfl⟩
          · cases hstep
            exact hsame ⟨rfl, rfl⟩
        · cases hstep
      · cases hstep

/-- a call that is given up before it sends leaves nothing behind -/
theorem unsent_call {P : Protocol ε σ κ} (call : κ) (engine : σ) (n : ℕ) (served : List Served) (answers : List (Answer κ)) :
    Run (Steps P) Safe (State.rest engine n served answers) (State.rest engine n served answers) := by
  have h1 : step P (State.rest engine n served answers) (.call call) =
      some ⟨.sending call n (P.request call), .reading [], engine, [], [], n, n, served, answers⟩ := rfl
  have h2 : step P ⟨.sending call n (P.request call), .reading [], engine, [], [], n, n, served, answers⟩ .giveUp =
      some (State.rest engine n served answers) := rfl
  exact (Run.refl.tail h1 trivial).tail h2 (Or.inl ⟨call, n, P.request call, rfl, rfl⟩)

section Exchange

variable {P : Protocol ε σ κ} (hf : Framed P) (call : κ) (env : ε) {engine engine' : σ} {response : List UInt8}
  (hread : P.wanted [] = (P.request call).length)
  (hserve : P.serve env engine (P.request call) = (engine', some response))

include hf

theorem request_pos : 0 < (P.request call).length := List.length_pos_of_ne_nil (hf.request_ne_nil call)

/-- a request the server reads in one go is out -/
theorem request_delivered (engine : σ) (n : ℕ) (served : List Served) (answers : List (Answer κ))
    (hread : P.wanted [] = (P.request call).length) :
    Run (Steps P) Safe (State.rest engine n served answers) ⟨.receiving call n [], .reading (P.request call), engine, [], [],
      n + (P.request call).length, n, served, answers⟩ := by
  have hpos := request_pos hf call
  have h1 : step P (State.rest engine n served answers) (.call call) =
      some ⟨.sending call n (P.request call), .reading [], engine, [], [], n, n, served, answers⟩ := rfl
  have h2 : step P ⟨.sending call n (P.request call), .reading [], engine, [], [], n, n, served, answers⟩
      (.send (P.request call).length) = some ⟨.receiving call n [], .reading [], engine, P.request call, [],
        n + (P.request call).length, n, served, answers⟩ := by
    simp [step, hpos]
  have h3 : step P ⟨.receiving call n [], .reading [], engine, P.request call, [], n + (P.request call).length, n, served, answers⟩
      (.read (P.request call).length) = some ⟨.receiving call n [], .reading (P.request call), engine, [], [],
        n + (P.request call).length, n, served, answers⟩ := by
    simp [step, hread, hpos]
  exact ((Run.refl.tail h1 trivial).tail h2 trivial).tail h3 trivial

include hread hserve

/-- the call waits for its response -/
theorem prompt_answer (n : ℕ) (served : List Served) (answers : List (Answer κ)) :
    Run (Steps P) Safe (State.rest engine n served answers)
      (State.rest engine' (n + (P.request call).length) (served ++ [⟨n, P.request call, response⟩])
        (answers ++ [⟨call, n, response⟩])) := by
  have hwhole : P.wanted (P.request call) = 0 := (hf.wanted call _ List.prefix_rfl).2 rfl
  have hlength : response.length = P.responseBytes := hf.response env engine _ response (by rw [hserve])
  have hresponse : 0 < response.length := hlength ▸ hf.positive
  have hdelivered := request_delivered hf call engine n served answers hread
  generalize hm : n + (P.request call).length = m at hdelivered ⊢
  let log := served ++ [⟨n, P.request call, response⟩]
  have h4 : step P ⟨.receiving call n [], .reading (P.request call), engine, [], [], m, n, served, answers⟩ (.serve env) =
      some ⟨.receiving call n [], .writing response, engine', [], [], m, m, log, answers⟩ := by
    simp [step, hwhole, hserve, hm, log]
  have h5 : step P ⟨.receiving call n [], .writing response, engine', [], [], m, m, log, answers⟩
      (.write response.length) = some ⟨.receiving call n [], .reading [], engine', [], response, m, m, log, answers⟩ := by
    simp [step, hresponse]
  have h6 : step P ⟨.receiving call n [], .reading [], engine', [], response, m, m, log, answers⟩
      (.recv response.length) = some (State.rest engine' m log (answers ++ [⟨call, n, response⟩])) := by
    simp [step, hlength, hf.positive, State.rest]
  exact ((hdelivered.tail h4 trivial).tail h5 trivial).tail h6 trivial

/-- the call is given up once its request is out, and the next call reads the response to it -/
theorem stale_answer (next : κ) : ∃ s, Run (Steps P) (fun _ _ => True) (State.start engine) s ∧
    s.served = [⟨0, P.request call, response⟩] ∧ s.answers = [⟨next, (P.request call).length, response⟩] := by
  have hwhole : P.wanted (P.request call) = 0 := (hf.wanted call _ List.prefix_rfl).2 rfl
  have hlength : response.length = P.responseBytes := hf.response env engine _ response (by rw [hserve])
  have hresponse : 0 < response.length := hlength ▸ hf.positive
  have hnext := request_pos hf next
  have hdelivered := (request_delivered hf call engine 0 [] [] hread).mono fun _ _ _ => trivial
  rw [Nat.zero_add] at hdelivered
  generalize hn : (P.request call).length = n at hdelivered
  generalize hm : (P.request next).length = m at hnext
  let log : List Served := [⟨0, P.request call, response⟩]
  have h4 : step P ⟨.receiving call 0 [], .reading (P.request call), engine, [], [], n, 0, [], []⟩ .giveUp =
      some ⟨.idle, .reading (P.request call), engine, [], [], n, 0, [], []⟩ := rfl
  have h5 : step P ⟨.idle, .reading (P.request call), engine, [], [], n, 0, [], []⟩ (.serve env) =
      some ⟨.idle, .writing response, engine', [], [], n, n, log, []⟩ := by
    simp [step, hwhole, hserve, hn, log]
  have h6 : step P ⟨.idle, .writing response, engine', [], [], n, n, log, []⟩ (.write response.length) =
      some ⟨.idle, .reading [], engine', [], response, n, n, log, []⟩ := by
    simp [step, hresponse]
  have h7 : step P ⟨.idle, .reading [], engine', [], response, n, n, log, []⟩ (.call next) =
      some ⟨.sending next n (P.request next), .reading [], engine', [], response, n, n, log, []⟩ := rfl
  have h8 : step P ⟨.sending next n (P.request next), .reading [], engine', [], response, n, n, log, []⟩ (.send m) =
      some ⟨.receiving next n [], .reading [], engine', P.request next, response, n + m, n, log, []⟩ := by
    simp [step, hm, hnext]
  have h9 : step P ⟨.receiving next n [], .reading [], engine', P.request next, response, n + m, n, log, []⟩
      (.recv response.length) =
      some ⟨.idle, .reading [], engine', P.request next, [], n + m, n, log, [⟨next, n, response⟩]⟩ := by
    simp [step, hlength, hf.positive]
  exact ⟨_, (((((hdelivered.tail h4 trivial).tail h5 trivial).tail h6 trivial).tail h7 trivial).tail h8
    trivial).tail h9 trivial, rfl, rfl⟩

end Exchange

end Cruise.Lib.Link
