import Dockgraph.Proofs.Text.Lines
import Dockgraph.Report.Csv

/-! Rows of fields that are read back. The reader of comma-separated values is strict: a row ends with a carriage
return and a newline, a field that holds a mark stands in quotation marks with each of its own written twice, and
nothing else stands beside them. What is written is read with every field as it was, so that no field runs into
another and no row into the next. -/

namespace Dockgraph

namespace Csv

/-! The reader. -/

/-- Where the reader is: before a field, in one without quotation marks, in one with them, behind a quotation mark in
such a field, or behind the carriage return that ends a row. -/
inductive Mode where
  | start
  | plain
  | quoted
  | closing
  | returned
  deriving DecidableEq, Repr

/-- A field may end here. -/
def Mode.IsOpen (m : Mode) : Prop :=
  m = .start ∨ m = .plain ∨ m = .closing

/-- What has been read: whole rows, the fields of a row, and a field. -/
structure Reading where
  rows : List (List Text)
  fields : List Text
  field : Text
  mode : Mode
  deriving DecidableEq, Repr

namespace Reading

def inMode (r : Reading) (mode : Mode) : Reading :=
  { r with mode := mode }

def add (r : Reading) (c : Char) (mode : Mode) : Reading :=
  { r with field := r.field ++ [c], mode := mode }

def endField (r : Reading) : Reading :=
  ⟨r.rows, r.fields ++ [r.field], [], .start⟩

def endRow (r : Reading) : Reading :=
  ⟨r.rows ++ [r.fields ++ [r.field]], [], [], .start⟩

/-- Takes what ends a field. -/
def separate (r : Reading) (c : Char) : Option Reading :=
  if c = ',' then some r.endField
  else if c = '\r' then some (r.inMode .returned)
  else none

/-- Takes a character; nothing comes of one that must not stand there. -/
def step (r : Reading) (c : Char) : Option Reading :=
  match r.mode with
  | .start =>
    if c = '"' then some (r.inMode .quoted)
    else if isMark c then r.separate c
    else some (r.add c .plain)
  | .plain => if isMark c then r.separate c else some (r.add c .plain)
  | .quoted => some (if c = '"' then r.inMode .closing else r.add c .quoted)
  | .closing => if c = '"' then some (r.add c .quoted) else r.separate c
  | .returned => if c = '\n' then some r.endRow else none

/-- Takes the characters of a text one after the other. -/
def run (r : Reading) (s : Text) : Option Reading :=
  s.foldlM step r

/-- The rows at the end of a table; the last one may lack its line break. -/
def finish (r : Reading) : Option (List (List Text)) :=
  match r.mode with
  | .start => some (if r.fields.isEmpty then r.rows else r.endRow.rows)
  | .plain => some r.endRow.rows
  | .closing => some r.endRow.rows
  | .quoted => none
  | .returned => none

theorem run_cons (r : Reading) (c : Char) (s : Text) : r.run (c :: s) = (r.step c).bind fun r => r.run s := rfl

theorem run_append (r : Reading) (s t : Text) : r.run (s ++ t) = (r.run s).bind fun r => r.run t :=
  List.foldlM_append

end Reading

/-- The rows of a table, where it is one. -/
def read (table : Text) : Option (List (List Text)) :=
  (Reading.run ⟨[], [], [], .start⟩ table).bind Reading.finish

/-! What is written is read. -/

theorem double_char (c : Char) : double c = if c = '"' then ['"', '"'] else [c] := by
  simp only [double, Glyph.point_char, CodePoint.char.injEq]
  split_ifs with hc
  · rw [hc]
  · rfl

theorem writeField_char (s : Text) : writeField s = if isMarked s then '"' :: s.flatMap double ++ ['"'] else s := rfl

theorem writeRow_char (row : List Text) : writeRow row = Text.joinWith [','] (row.map writeField) ++ ['\r', '\n'] := rfl

namespace Reading

variable {rows : List (List Text)} {fields : List Text} {field : Text}

theorem run_plain {s : Text} (h : s.any isMark = false) :
    run ⟨rows, fields, field, .plain⟩ s = some ⟨rows, fields, field ++ s, .plain⟩ := by
  induction s generalizing field with
  | nil => simp [run]
  | cons c s ih =>
    rw [List.any_cons, Bool.or_eq_false_iff] at h
    have hstep : step ⟨rows, fields, field, .plain⟩ c = some ⟨rows, fields, field ++ [c], .plain⟩ := by
      simp [step, add, h.1]
    rw [run_cons, hstep, Option.bind_some, ih h.2, List.append_assoc]
    rfl

theorem run_double (c : Char) : run ⟨rows, fields, field, .quoted⟩ (double c) =
    some ⟨rows, fields, field ++ [c], .quoted⟩ := by
  rw [double_char]
  split_ifs with hc
  · subst hc
    rfl
  · simp [run, step, add, hc]

theorem run_quoted (s : Text) : run ⟨rows, fields, field, .quoted⟩ (s.flatMap double) =
    some ⟨rows, fields, field ++ s, .quoted⟩ := by
  induction s generalizing field with
  | nil => simp [run]
  | cons c s ih =>
    rw [List.flatMap_cons, run_append, run_double, Option.bind_some, ih, List.append_assoc]
    rfl

theorem step_comma {m : Mode} (h : m.IsOpen) :
    step ⟨rows, fields, field, m⟩ ',' = some ⟨rows, fields ++ [field], [], .start⟩ := by
  rcases h with rfl | rfl | rfl <;> rfl

theorem run_lineBreak {m : Mode} (h : m.IsOpen) :
    run ⟨rows, fields, field, m⟩ ['\r', '\n'] = some ⟨rows ++ [fields ++ [field]], [], [], .start⟩ := by
  rcases h with rfl | rfl | rfl <;> rfl

theorem run_writeField (rows : List (List Text)) (fields : List Text) (s : Text) : ∃ m : Mode, m.IsOpen ∧
    run ⟨rows, fields, [], .start⟩ (writeField s) = some ⟨rows, fields, s, m⟩ := by
  rw [writeField_char]
  split_ifs with hmark
  · refine ⟨.closing, Or.inr (Or.inr rfl), ?_⟩
    have hopen : step ⟨rows, fields, [], .start⟩ '"' = some ⟨rows, fields, [], .quoted⟩ := rfl
    rw [run_append, run_cons, hopen, Option.bind_some, run_quoted]
    rfl
  · cases s with
    | nil => exact ⟨.start, Or.inl rfl, rfl⟩
    | cons c s =>
      refine ⟨.plain, Or.inr (Or.inl rfl), ?_⟩
      have hplain : (c :: s).any isMark = false := Bool.eq_false_iff.2 hmark
      rw [List.any_cons, Bool.or_eq_false_iff] at hplain
      have hquote : c ≠ '"' := by
        rintro rfl
        cases hplain.1
      have hstep : step ⟨rows, fields, [], .start⟩ c = some ⟨rows, fields, [c], .plain⟩ := by
        simp [step, add, hquote, hplain.1]
      rw [run_cons, hstep, Option.bind_some, run_plain hplain.2]
      rfl

/-- The fields of a row are read behind those that stand before them. -/
theorem run_fields (field : Text) (rest : List Text) :
    run ⟨rows, fields, [], .start⟩ (Text.joinWith [','] ((field :: rest).map writeField) ++ ['\r', '\n']) =
      some ⟨rows ++ [fields ++ field :: rest], [], [], .start⟩ := by
  induction rest generalizing field fields with
  | nil =>
    obtain ⟨m, hm, hfield⟩ := run_writeField rows fields field
    rw [List.map_singleton, Text.joinWith_singleton, run_append, hfield, Option.bind_some, run_lineBreak hm]
  | cons next rest ih =>
    obtain ⟨m, hm, hfield⟩ := run_writeField rows fields field
    rw [List.map_cons, List.map_cons, Text.joinWith_cons_cons, ← List.map_cons, List.append_assoc, run_append,
      hfield, Option.bind_some, List.cons_append, run_cons, step_comma hm, Option.bind_some, List.nil_append, ih,
      List.append_assoc]
    rfl

theorem run_writeRow {row : List Text} (h : row ≠ []) :
    run ⟨rows, [], [], .start⟩ (writeRow row) = some ⟨rows ++ [row], [], [], .start⟩ := by
  obtain ⟨field, rest, rfl⟩ := List.exists_cons_of_ne_nil h
  exact run_fields field rest

theorem run_rows {more : List (List Text)} (h : ∀ row ∈ more, row ≠ []) :
    run ⟨rows, [], [], .start⟩ (more.flatMap writeRow) = some ⟨rows ++ more, [], [], .start⟩ := by
  induction more generalizing rows with
  | nil => simp [run]
  | cons row more ih =>
    rw [List.forall_mem_cons] at h
    rw [List.flatMap_cons, run_append, run_writeRow h.1, Option.bind_some, ih h.2, List.append_assoc]
    rfl

end Reading

/-- Rows that have a field are read as they are written. -/
theorem read_flatMap_writeRow {rows : List (List Text)} (h : ∀ row ∈ rows, row ≠ []) :
    read (rows.flatMap writeRow) = some rows := by
  rw [read, Reading.run_rows h]
  rfl

end Csv

end Dockgraph
