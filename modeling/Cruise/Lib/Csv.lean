/-
Delimited text as Python's `csv` module reads and writes it: fields in double quotes where they need them, a quote doubled.

The file is opened with `newline=""`, so that its lines keep their ends. `rows` gives the rows that are read before the
reader raises, if it does; a reader that is iterated raises after it has yielded these.
- `rows_written`: plain rows are read back as they were written, whether a line ends with LF or with CR LF.
- `rows_bounded`: no field that is read is longer than the limit.
-/
import Mathlib.Tactic

namespace Cruise.Lib.Csv

/-! ## The lines -/

def isEnd (c : Char) : Bool := c = '\n' ∨ c = '\r'

/-- the lines with their line ends, after what was read of the first -/
def splitLines (line : List Char) : List Char → List (List Char)
  | [] => if line = [] then [] else [line]
  | '\r' :: '\n' :: rest => (line ++ ['\r', '\n']) :: splitLines [] rest
  | c :: rest => if isEnd c then (line ++ [c]) :: splitLines [] rest else splitLines (line ++ [c]) rest

/-! ## The reader -/

inductive State where
  | startRecord
  | startField
  | inField
  | inQuotedField
  | quoteInQuotedField
  | eatCrnl
deriving DecidableEq

structure Reader where
  state : State := .startRecord
  field : List Char := []
  fields : List (List Char) := []

/-- `csv.field_size_limit()` -/
def fieldLimit : ℕ := 131072

section Reading

variable (delimiter : Char)

/-- a character of the field; the field may not get longer than the limit -/
def Reader.addChar (self : Reader) (c : Char) (state : State) : Option Reader :=
  if self.field.length < fieldLimit then some { self with field := self.field ++ [c], state := state } else none

def Reader.saveField (self : Reader) (state : State) : Reader :=
  { state := state, field := [], fields := self.fields ++ [self.field] }

def Reader.startField (self : Reader) (c : Char) : Option Reader :=
  if isEnd c then some (self.saveField .eatCrnl)
  else if c = '"' then some { self with state := .inQuotedField }
  else if c = delimiter then some (self.saveField .startField)
  else self.addChar c .inField

/-- a character of a line, or its end (`none`) -/
def Reader.process (self : Reader) (c : Option Char) : Option Reader :=
  match self.state, c with
  | .startRecord, none => some self
  | .startRecord, some c => if isEnd c then some { self with state := .eatCrnl } else self.startField delimiter c
  | .startField, none => some (self.saveField .startRecord)
  | .startField, some c => self.startField delimiter c
  | .inField, none => some (self.saveField .startRecord)
  | .inField, some c =>
    if isEnd c then some (self.saveField .eatCrnl)
    else if c = delimiter then some (self.saveField .startField)
    else self.addChar c .inField
  | .inQuotedField, none => some self
  | .inQuotedField, some c =>
    if c = '"' then some { self with state := .quoteInQuotedField } else self.addChar c .inQuotedField
  | .quoteInQuotedField, none => some (self.saveField .startRecord)
  | .quoteInQuotedField, some c =>
    if c = '"' then self.addChar c .inQuotedField
    else if c = delimiter then some (self.saveField .startField)
    else if isEnd c then some (self.saveField .eatCrnl)
    else self.addChar c .inField
  | .eatCrnl, none => some { self with state := .startRecord }
  | .eatCrnl, some c => if isEnd c then some self else none

def Reader.readLine (self : Reader) (line : List Char) : Option Reader :=
  (line.map some ++ [none]).foldlM (Reader.process delimiter) self

/-- the rows of the lines, and whether the reader raises after them -/
def rowsOf (self : Reader) : List (List Char) → List (List (List Char)) × Bool
  | [] => if self.state = .inQuotedField then ([(self.saveField .startRecord).fields], false) else ([], false)
  | line :: rest =>
    match self.readLine delimiter line with
    | none => ([], true)
    | some reader =>
      if reader.state = .startRecord then
        let later := rowsOf {} rest
        (reader.fields :: later.1, later.2)
      else rowsOf reader rest

/-- `csv.reader` over a text -/
def rows (text : List Char) : List (List (List Char)) × Bool := rowsOf delimiter {} (splitLines [] text)

/-! ## The writer -/

def needsQuotes (field : List Char) : Bool := field.any fun c => c = delimiter ∨ c = '"' ∨ isEnd c

def writeField (field : List Char) : List Char :=
  if needsQuotes delimiter field then '"' :: (field.flatMap fun c => if c = '"' then ['"', '"'] else [c]) ++ ['"']
  else field

/-- the fields with the delimiter between them -/
def joinFields : List (List Char) → List Char
  | [] => []
  | [field] => field
  | field :: rest => field ++ delimiter :: joinFields rest

/-- `writerow`; an empty field that is alone is quoted, too -/
def writeRow (fields : List (List Char)) : List Char :=
  (if fields = [[]] then ['"', '"'] else joinFields delimiter (fields.map (writeField delimiter))) ++ ['\r', '\n']

/-! ## Plain rows -/

variable {delimiter}

/-- a field that is written as it is -/
structure PlainField (delimiter : Char) (field : List Char) : Prop where
  plain : needsQuotes delimiter field = false
  fits : field.length ≤ fieldLimit

/-- more than one field, all plain -/
structure PlainRow (delimiter : Char) (fields : List (List Char)) : Prop where
  two : 2 ≤ fields.length
  plain : ∀ field ∈ fields, PlainField delimiter field

theorem PlainField.char {field : List Char} (h : PlainField delimiter field) {c : Char} (hc : c ∈ field) :
    isEnd c = false ∧ c ≠ '"' ∧ c ≠ delimiter := by
  have hplain := h.plain
  unfold needsQuotes at hplain
  rw [List.any_eq_false] at hplain
  have hspecial := hplain c hc
  simp only [decide_eq_true_eq, not_or] at hspecial
  exact ⟨Bool.eq_false_of_not_eq_true hspecial.2.2, hspecial.2.1, hspecial.1⟩

theorem PlainRow.writeRow_eq {fields : List (List Char)} (h : PlainRow delimiter fields) :
    writeRow delimiter fields = joinFields delimiter fields ++ ['\r', '\n'] := by
  have hwrite : fields.map (writeField delimiter) = fields := by
    refine (List.map_congr_left fun field hfield => ?_).trans (List.map_id _)
    unfold writeField
    rw [(h.plain field hfield).plain, if_neg Bool.noConfusion]
    rfl
  have hlone : fields ≠ [[]] := by
    rintro rfl
    exact absurd h.two (by decide)
  unfold writeRow
  rw [if_neg hlone, hwrite]

theorem joinFields_cons (field second : List Char) (rest : List (List Char)) :
    joinFields delimiter (field :: second :: rest) = field ++ delimiter :: joinFields delimiter (second :: rest) := rfl

/-- what a delimiter may not be -/
structure Separates (delimiter : Char) : Prop where
  not_end : isEnd delimiter = false
  not_quote : delimiter ≠ '"'

theorem process_chars {r : Reader} {cs : List Char} (hstate : r.state = .inField)
    (hplain : ∀ c ∈ cs, isEnd c = false ∧ c ≠ '"' ∧ c ≠ delimiter) (hfits : r.field.length + cs.length ≤ fieldLimit) :
    (cs.map some).foldlM (Reader.process delimiter) r = some { r with field := r.field ++ cs } := by
  induction cs generalizing r with
  | nil =>
    rw [List.append_nil]
    rfl
  | cons c cs ih =>
    obtain ⟨hend, -, hdelimiter⟩ := hplain c List.mem_cons_self
    rw [List.length_cons] at hfits
    have hstep : r.process delimiter (some c) = some { r with field := r.field ++ [c], state := .inField } := by
      unfold Reader.process
      rw [hstate]
      dsimp only
      rw [hend, if_neg Bool.noConfusion, if_neg hdelimiter]
      exact if_pos (by omega)
    rw [List.map_cons, List.foldlM_cons, hstep]
    refine (ih rfl (fun c hc => hplain c (List.mem_cons_of_mem _ hc)) ?_).trans ?_
    · rw [List.length_append, List.length_singleton]
      omega
    · dsimp only
      rw [List.append_assoc, List.singleton_append, hstate]

/-- before a field, at the beginning of a row or after a delimiter -/
def Reader.Ready (r : Reader) : Prop := (r.state = .startRecord ∨ r.state = .startField) ∧ r.field = []

theorem process_field {r : Reader} {field : List Char} (hr : r.Ready) (h : PlainField delimiter field) :
    ∃ r' : Reader, (field.map some).foldlM (Reader.process delimiter) r = some r' ∧ r'.field = field ∧
      r'.fields = r.fields ∧ (r'.state = .inField ∨ r'.state = r.state) := by
  obtain ⟨hstate, hempty⟩ := hr
  cases field with
  | nil => exact ⟨r, rfl, hempty, rfl, Or.inr rfl⟩
  | cons c cs =>
    obtain ⟨hend, hquote, hdelimiter⟩ := h.char List.mem_cons_self
    have hfits := h.fits
    rw [List.length_cons] at hfits
    have hfirst : r.startField delimiter c = some { r with field := [c], state := .inField } := by
      unfold Reader.startField Reader.addChar
      rw [hend, if_neg Bool.noConfusion, if_neg hquote, if_neg hdelimiter, hempty]
      rfl
    have hstep : r.process delimiter (some c) = some { r with field := [c], state := .inField } := by
      unfold Reader.process
      rcases hstate with hstate | hstate
      · rw [hstate]
        dsimp only
        rw [hend, if_neg Bool.noConfusion, hfirst]
      · rw [hstate]
        exact hfirst
    have hrest : (cs.map some).foldlM (Reader.process delimiter) { r with field := [c], state := .inField } =
        some { r with field := [c] ++ cs, state := .inField } :=
      process_chars rfl (fun c hc => h.char (List.mem_cons_of_mem _ hc)) (by simpa [Nat.add_comm] using hfits)
    refine ⟨{ r with field := c :: cs, state := .inField }, ?_, rfl, rfl, Or.inl rfl⟩
    rw [List.map_cons, List.foldlM_cons, hstep]
    exact hrest

/-- the delimiter saves what was read of a field -/
theorem process_delimiter {r r' : Reader} (hd : Separates delimiter) (hr : r.Ready)
    (hstate : r'.state = .inField ∨ r'.state = r.state) :
    r'.process delimiter (some delimiter) = some (r'.saveField .startField) := by
  have hstart : r'.startField delimiter delimiter = some (r'.saveField .startField) := by
    unfold Reader.startField
    rw [hd.not_end, if_neg Bool.noConfusion, if_neg hd.not_quote, if_pos rfl]
  unfold Reader.process
  rcases hstate with hstate | hstate
  · rw [hstate]
    dsimp only
    rw [hd.not_end, if_neg Bool.noConfusion, if_pos rfl]
  · rw [hstate]
    rcases hr.1 with hr | hr
    · rw [hr]
      dsimp only
      rw [hd.not_end, if_neg Bool.noConfusion, hstart]
    · rw [hr]
      exact hstart

/-- the fields of a row up to the end of the last; a row of one field is read as one after a delimiter -/
theorem process_fields {r : Reader} {fields : List (List Char)} (hd : Separates delimiter) (hr : r.Ready)
    (hone : fields.length = 1 → r.state = .startField) (hne : fields ≠ [])
    (h : ∀ field ∈ fields, PlainField delimiter field) :
    ∃ r' : Reader, ((joinFields delimiter fields).map some).foldlM (Reader.process delimiter) r = some r' ∧
      r'.fields ++ [r'.field] = r.fields ++ fields ∧ (r'.state = .inField ∨ r'.state = .startField) := by
  induction fields generalizing r with
  | nil => exact absurd rfl hne
  | cons field rest ih =>
    obtain ⟨r', hread, hfield, hfields, hstate⟩ := process_field hr (h field List.mem_cons_self)
    cases rest with
    | nil =>
      refine ⟨r', hread, by rw [hfield, hfields], ?_⟩
      rwa [hone rfl] at hstate
    | cons second rest =>
      obtain ⟨r'', hrest, hsaved, hlast⟩ := ih (r := r'.saveField .startField) ⟨Or.inr rfl, rfl⟩ (fun _ => rfl)
        (List.cons_ne_nil _ _) fun field hfield => h field (List.mem_cons_of_mem _ hfield)
      refine ⟨r'', ?_, ?_, hlast⟩
      · rw [joinFields_cons, List.map_append, List.map_cons, List.foldlM_append, hread]
        rw [Option.bind_eq_bind, Option.bind_some, List.foldlM_cons, process_delimiter hd hr hstate]
        exact hrest
      · rw [hsaved, Reader.saveField, hfields, hfield, List.append_assoc]
        rfl

/-- what ends a line -/
def IsEol (eol : List Char) : Prop := eol = ['\n'] ∨ eol = ['\r', '\n']

theorem process_eol {r : Reader} {eol : List Char} (heol : IsEol eol) (hstate : r.state = .inField ∨ r.state = .startField) :
    (eol.map some ++ [none]).foldlM (Reader.process delimiter) r = some (r.saveField .startRecord) := by
  have hend {c : Char} (hc : isEnd c = true) : r.process delimiter (some c) = some (r.saveField .eatCrnl) := by
    unfold Reader.process
    rcases hstate with hstate | hstate
    · rw [hstate]
      exact if_pos hc
    · rw [hstate]
      exact if_pos hc
  rcases heol with rfl | rfl
  · rw [List.map_singleton, List.singleton_append, List.foldlM_cons, hend rfl]
    rfl
  · rw [List.map_cons, List.cons_append, List.foldlM_cons, hend rfl]
    rfl

/-- **A line that holds a plain row.** -/
theorem readLine_row {fields : List (List Char)} {eol : List Char} (hd : Separates delimiter) (heol : IsEol eol)
    (h : PlainRow delimiter fields) :
    Reader.readLine delimiter {} (joinFields delimiter fields ++ eol) = some { fields := fields } := by
  have hone : fields.length ≠ 1 := fun hlength => absurd h.two (by omega)
  have hne : fields ≠ [] := by
    rintro rfl
    exact absurd h.two (by decide)
  obtain ⟨r', hread, hfields, hstate⟩ := process_fields (r := {}) hd ⟨Or.inl rfl, rfl⟩ (fun h => absurd h hone) hne h.plain
  unfold Reader.readLine
  rw [List.map_append, List.append_assoc, List.foldlM_append, hread, Option.bind_eq_bind, Option.bind_some,
    process_eol heol hstate, Reader.saveField, hfields]
  rfl

theorem joinFields_mem {fields : List (List Char)} {c : Char} (h : c ∈ joinFields delimiter fields) :
    c = delimiter ∨ ∃ field ∈ fields, c ∈ field := by
  induction fields with
  | nil => cases h
  | cons field rest ih =>
    cases rest with
    | nil => exact Or.inr ⟨field, List.mem_cons_self, h⟩
    | cons second rest =>
      rw [joinFields_cons, List.mem_append, List.mem_cons] at h
      rcases h with hc | hc | hc
      · exact Or.inr ⟨field, List.mem_cons_self, hc⟩
      · exact Or.inl hc
      · rcases ih hc with hc | ⟨f, hf, hc⟩
        · exact Or.inl hc
        · exact Or.inr ⟨f, List.mem_cons_of_mem _ hf, hc⟩

end Reading

theorem splitLines_line {line text eol rest : List Char} (htext : ∀ c ∈ text, isEnd c = false) (heol : IsEol eol) :
    splitLines line (text ++ (eol ++ rest)) = (line ++ text ++ eol) :: splitLines [] rest := by
  induction text generalizing line with
  | nil =>
    rw [List.append_nil, List.nil_append]
    rcases heol with rfl | rfl
    · rfl
    · rfl
  | cons c text ih =>
    have hc := htext c List.mem_cons_self
    have hne : c ≠ '\r' := by
      rintro rfl
      cases hc
    have hstep : splitLines line (c :: (text ++ (eol ++ rest))) = splitLines (line ++ [c]) (text ++ (eol ++ rest)) := by
      rw [splitLines]
      · rw [hc, if_neg Bool.noConfusion]
      · exact fun _ heq _ => hne heq
    rw [List.cons_append, hstep, ih fun c hc => htext c (List.mem_cons_of_mem _ hc), List.append_assoc line [c] text,
      List.singleton_append]

/-- **Plain rows are read back.** -/
theorem rows_written {delimiter : Char} {eol : List Char} {written : List (List (List Char))} (hd : Separates delimiter)
    (heol : IsEol eol) (h : ∀ fields ∈ written, PlainRow delimiter fields) :
    rows delimiter (written.flatMap fun fields => joinFields delimiter fields ++ eol) = (written, false) := by
  have hlines : splitLines [] (written.flatMap fun fields => joinFields delimiter fields ++ eol) =
      written.map fun fields => joinFields delimiter fields ++ eol := by
    induction written with
    | nil => rfl
    | cons fields rest ih =>
      have htext : ∀ c ∈ joinFields delimiter fields, isEnd c = false := by
        intro c hc
        rcases joinFields_mem hc with rfl | ⟨field, hfield, hc⟩
        · exact hd.not_end
        · exact (((h fields List.mem_cons_self).plain field hfield).char hc).1
      rw [List.flatMap_cons, List.append_assoc, splitLines_line htext heol, ih fun fields hfields =>
        h fields (List.mem_cons_of_mem _ hfields)]
      rfl
  unfold rows
  rw [hlines]
  clear hlines
  induction written with
  | nil => rfl
  | cons fields rest ih =>
    rw [List.map_cons, rowsOf, readLine_row hd heol (h fields List.mem_cons_self)]
    dsimp only
    rw [if_pos rfl, ih fun fields hfields => h fields (List.mem_cons_of_mem _ hfields)]

/-! ## What is read is short -/

/-- no field is longer than the limit -/
structure Reader.Bounded (r : Reader) : Prop where
  field : r.field.length ≤ fieldLimit
  fields : ∀ field ∈ r.fields, field.length ≤ fieldLimit

theorem Reader.Bounded.saveField {r : Reader} (h : r.Bounded) (state : State) : (r.saveField state).Bounded := by
  refine ⟨Nat.zero_le _, fun field hfield => ?_⟩
  rcases List.mem_append.1 hfield with hfield | hfield
  · exact h.fields field hfield
  · exact List.mem_singleton.1 hfield ▸ h.field

theorem Reader.Bounded.addChar {r r' : Reader} {c : Char} {state : State} (h : r.Bounded)
    (hread : r.addChar c state = some r') : r'.Bounded := by
  unfold Reader.addChar at hread
  split_ifs at hread with hshort
  cases hread
  refine ⟨?_, h.fields⟩
  rw [List.length_append, List.length_singleton]
  exact hshort

theorem Reader.Bounded.startField {r r' : Reader} {c : Char} (h : r.Bounded)
    (hread : r.startField delimiter c = some r') : r'.Bounded := by
  unfold Reader.startField at hread
  split_ifs at hread
  · exact Option.some_injective _ hread ▸ h.saveField _
  · exact Option.some_injective _ hread ▸ ⟨h.field, h.fields⟩
  · exact Option.some_injective _ hread ▸ h.saveField _
  · exact h.addChar hread

theorem Reader.Bounded.process {r r' : Reader} {c : Option Char} (h : r.Bounded)
    (hread : r.process delimiter c = some r') : r'.Bounded := by
  have hsame {state : State} : ({ r with state := state } : Reader).Bounded := ⟨h.field, h.fields⟩
  unfold Reader.process at hread
  split at hread
  · exact Option.some_injective _ hread ▸ h
  · split_ifs at hread
    · exact Option.some_injective _ hread ▸ hsame
    · exact h.startField hread
  · exact Option.some_injective _ hread ▸ h.saveField _
  · exact h.startField hread
  · exact Option.some_injective _ hread ▸ h.saveField _
  · split_ifs at hread
    · exact Option.some_injective _ hread ▸ h.saveField _
    · exact Option.some_injective _ hread ▸ h.saveField _
    · exact h.addChar hread
  · exact Option.some_injective _ hread ▸ h
  · split_ifs at hread
    · exact Option.some_injective _ hread ▸ hsame
    · exact h.addChar hread
  · exact Option.some_injective _ hread ▸ h.saveField _
  · split_ifs at hread
    · exact h.addChar hread
    · exact Option.some_injective _ hread ▸ h.saveField _
    · exact Option.some_injective _ hread ▸ h.saveField _
    · exact h.addChar hread
  · exact Option.some_injective _ hread ▸ hsame
  · split_ifs at hread
    exact Option.some_injective _ hread ▸ h

theorem Reader.Bounded.readLine {r r' : Reader} {line : List Char} (h : r.Bounded)
    (hread : r.readLine delimiter line = some r') : r'.Bounded := by
  unfold Reader.readLine at hread
  generalize line.map some ++ [none] = cs at hread
  induction cs generalizing r with
  | nil => exact Option.some_injective _ hread ▸ h
  | cons c cs ih =>
    rw [List.foldlM_cons] at hread
    obtain ⟨r'', hstep, hrest⟩ := Option.bind_eq_some_iff.1 hread
    exact ih (h.process hstep) hrest

/-- **No field that is read is longer than the limit.** -/
theorem rows_bounded {text : List Char} : ∀ row ∈ (rows delimiter text).1, ∀ field ∈ row, field.length ≤ fieldLimit := by
  have hempty : ({} : Reader).Bounded := ⟨Nat.zero_le _, fun field hfield => by cases hfield⟩
  unfold rows
  generalize splitLines [] text = lines
  suffices ∀ r : Reader, r.Bounded → ∀ row ∈ (rowsOf delimiter r lines).1, ∀ field ∈ row, field.length ≤ fieldLimit from
    this {} hempty
  induction lines with
  | nil =>
    intro r hr row hrow
    unfold rowsOf at hrow
    split_ifs at hrow
    · exact List.mem_singleton.1 hrow ▸ (hr.saveField _).fields
    · cases hrow
  | cons line lines ih =>
    intro r hr row hrow
    rw [rowsOf] at hrow
    split at hrow
    · cases hrow
    · rename_i reader hread
      split_ifs at hrow
      · rcases List.mem_cons.1 hrow with rfl | hrow
        · exact (hr.readLine hread).fields
        · exact ih {} hempty row hrow
      · exact ih reader (hr.readLine hread) row hrow

end Cruise.Lib.Csv
