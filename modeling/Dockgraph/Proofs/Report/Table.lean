import Dockgraph.Proofs.Except
import Dockgraph.Proofs.Json.Literals
import Dockgraph.Proofs.Report.Fields
import Dockgraph.Proofs.Text.Encoding

/-! Reports as a table that is saved. A row is saved if its texts have bytes, which halves of pairs have not, and its
line can be written. The rows before the first that is not are in the file and are read with every field as it was;
where all are saved, nothing is lost. -/

namespace Dockgraph

open Glyph (ofChar ofText toText)

namespace Csv

/-! Rows of characters, and rows with halves. -/

theorem isMarked_ofText (s : Text) : isMarked (ofText s : List CodePoint) = isMarked s := by
  rw [isMarked, Glyph.ofText_eq, List.any_map]
  rfl

theorem double_ofChar (c : Char) : double (ofChar c : CodePoint) = ofText (double c) := by
  simp only [double, Glyph.point_ofChar, Glyph.point_char]
  split_ifs <;> rfl

theorem writeField_ofText (s : Text) : writeField (ofText s : List CodePoint) = ofText (writeField s) := by
  have hdouble : (ofText s : List CodePoint).flatMap double = ofText (s.flatMap double) := by
    rw [Glyph.ofText_eq, Glyph.ofText_eq, List.flatMap_map, List.map_flatMap]
    exact List.flatMap_congr fun c _ => double_ofChar c
  rw [writeField, writeField, isMarked_ofText, hdouble]
  split_ifs
  · exact (congrArg (CodePoint.char '"' :: ·) (Glyph.ofText_append _ ['"'])).symm
  · rfl

theorem joinWith_map_ofText (separator : Text) (pieces : List Text) :
    Text.joinWith (ofText separator : List CodePoint) (pieces.map ofText) = ofText (Text.joinWith separator pieces) := by
  induction pieces with
  | nil => rfl
  | cons s pieces ih =>
    cases pieces with
    | nil => rw [List.map_singleton, Text.joinWith_singleton, Text.joinWith_singleton]
    | cons t pieces =>
      rw [Text.joinWith, Text.joinWith, List.map_cons, List.map_cons, List.intercalate_cons_cons,
        List.intercalate_cons_cons, Glyph.ofText_append, Glyph.ofText_append, ← List.map_cons]
      exact congrArg _ ih

theorem writeRow_map_ofText (row : List Text) :
    writeRow (row.map ofText : List (List CodePoint)) = ofText (writeRow row) := by
  have hfields : (row.map (ofText : Text → List CodePoint)).map writeField = (row.map writeField).map ofText := by
    rw [List.map_map, List.map_map]
    exact List.map_congr_left fun s _ => writeField_ofText s
  rw [writeRow, hfields, writeRow_char, Glyph.ofText_append, ← joinWith_map_ofText]
  rfl

/-- A half in a field is in the row. -/
theorem half_mem_writeRow {row : List (List CodePoint)} {field : List CodePoint} {n : Fin 0x800} (hrow : field ∈ row)
    (hfield : .half n ∈ field) : .half n ∈ writeRow row := by
  have hwritten : .half n ∈ writeField field := by
    rw [writeField]
    split_ifs
    · refine List.mem_append_left _ (List.mem_cons_of_mem _ (List.mem_flatMap.2 ⟨_, hfield, ?_⟩))
      exact List.mem_singleton_self _
    · exact hfield
  refine List.mem_append_left _ ?_
  induction row with
  | nil => cases hrow
  | cons s row ih =>
    cases row with
    | nil =>
      rw [List.map_singleton, Text.joinWith_singleton, ← List.mem_singleton.1 hrow]
      exact hwritten
    | cons t row =>
      rw [List.map_cons, List.map_cons, Text.joinWith_cons_cons, ← List.map_cons]
      rcases List.mem_cons.1 hrow with rfl | hrow
      · exact List.mem_append_left _ hwritten
      · exact List.mem_append_right _ (List.mem_cons_of_mem _ (List.mem_append_right _ (ih hrow)))

end Csv

namespace Report

/-! Reports by what their rows hold. -/

/-- An issue as its row holds it. -/
structure Finding where
  line : Int
  severity : List CodePoint
  message : List CodePoint

/-- A report as its rows hold it. -/
structure Listing where
  file : List CodePoint
  findings : List Finding
  suggestions : List (List CodePoint)

/-- The document is that of the issue; it may have other fields. -/
def Finding.IsOf (f : Finding) (issue : Json CodePoint) : Prop :=
  ∃ fields, issue = .object fields ∧
    Json.field? (ofText "line".toList) fields = some (.int f.line) ∧
    Json.field? (ofText "severity".toList) fields = some (.text f.severity) ∧
    Json.field? (ofText "message".toList) fields = some (.text f.message)

/-- The document is that of the report; it may have other fields, and may lack what the report has none of. -/
def Listing.IsOf (l : Listing) (report : Json CodePoint) : Prop :=
  ∃ fields issues, report = .object fields ∧
    Json.field? (ofText "file".toList) fields = some (.text l.file) ∧
    (Json.field? (ofText "issues".toList) fields).getD (.list []) = .list issues ∧
    l.findings.Forall₂ Finding.IsOf issues ∧
    (Json.field? (ofText "suggestions".toList) fields).getD (.list []) = .list (l.suggestions.map .text)

/-- A row, whose line is that of an issue. -/
structure Row where
  file : List CodePoint
  kind : Text
  line : Option Int
  severity : List CodePoint
  message : List CodePoint

/-- The fields of a row, its line in decimal. -/
def Row.fields (r : Row) : List (List CodePoint) :=
  [r.file, ofText r.kind, ofText ((r.line.map Text.ofInt).getD []), r.severity, r.message]

/-- The line of the row is not too long to be written. -/
def Row.IsShort (r : Row) : Prop :=
  ∀ i ∈ r.line, Json.IsShort i

instance (r : Row) : Decidable r.IsShort :=
  inferInstanceAs (Decidable (∀ i ∈ r.line, Json.IsShort i))

/-- The row can be saved: its line is not too long, and no half is in its fields. -/
def Row.IsWritable (r : Row) : Prop :=
  r.IsShort ∧ ∀ field ∈ r.fields, ∀ n, .half n ∉ field

def Finding.row (file : List CodePoint) (f : Finding) : Row :=
  ⟨file, "issue".toList, some f.line, f.severity, f.message⟩

def suggestedRow (file s : List CodePoint) : Row :=
  ⟨file, "suggestion".toList, none, [], s⟩

/-- A row for each issue, and then one for each suggestion. -/
def Listing.rows (l : Listing) : List Row :=
  l.findings.map (Finding.row l.file) ++ l.suggestions.map (suggestedRow l.file)

/-- What comes of making a row. -/
def Row.made (r : Row) : Except Json.AccessError (List (List CodePoint)) :=
  if r.IsShort then .ok r.fields else .error .longInteger

/-! Rows that are made. -/

theorem fieldOf_int (i : Int) : Csv.fieldOf (.int i : Json CodePoint) =
    if Json.IsShort i then .ok (ofText (Text.ofInt i)) else .error .longInteger := by
  have hexcess : (Json.int i : Json CodePoint).excess? = Json.excessOf i.natAbs := rfl
  rw [Csv.fieldOf, hexcess]
  · by_cases h : Json.IsShort i
    · rw [Json.excessOf_eq_none_iff.2 h, if_pos h]
      rfl
    · rw [if_neg h, if_pos (Option.isSome_iff_ne_none.2 (mt Json.excessOf_eq_none_iff.1 h))]
  · exact nofun

theorem parts_of_getD {name : Text} {fields : List (List CodePoint × Json CodePoint)} {items : List (Json CodePoint)}
    (h : (Json.field? (ofText name) fields).getD (.list []) = .list items) : parts name (.object fields) = .ok items := by
  have hmember : Json.member? name (.object fields) = .ok (Json.field? (ofText name) fields) := rfl
  rw [parts, hmember]
  cases hv : Json.field? (ofText name) fields with
  | none =>
    rw [hv] at h
    exact congrArg Except.ok (Json.list.inj h)
  | some v =>
    rw [hv] at h
    obtain rfl : v = .list items := h
    rfl

section
variable {fields : List (List CodePoint × Json CodePoint)} {file : List CodePoint}
  (hfile : Json.field? (ofText "file".toList) fields = some (.text file))

include hfile

theorem issueRow_of_isOf {f : Finding} {issue : Json CodePoint} (h : f.IsOf issue) :
    issueRow (.object fields) issue = (f.row file).made := by
  obtain ⟨parts, rfl, hline, hseverity, hmessage⟩ := h
  have hshort : (f.row file).IsShort ↔ Json.IsShort f.line := by simp [Row.IsShort, Finding.row]
  simp only [issueRow, Json.entry, hfile, hline, hseverity, hmessage, Row.made, hshort]
  change [.text file, .text (ofText "issue".toList), .int f.line, .text f.severity, .text f.message].mapM Csv.fieldOf = _
  simp only [List.mapM_cons, fieldOf_int]
  split_ifs <;> rfl

theorem suggestionRow_text (s : List CodePoint) :
    suggestionRow (.object fields) (.text s) = (suggestedRow file s).made := by
  have hshort : (suggestedRow file s).IsShort := nofun
  simp only [suggestionRow, Json.entry, hfile, Row.made, if_pos hshort]
  rfl

end

theorem csvRows_of_isOf {l : Listing} {report : Json CodePoint} (h : l.IsOf report) :
    csvRows report = l.rows.map Row.made := by
  obtain ⟨fields, issues, rfl, hfile, hissues, hfindings, hsuggestions⟩ := h
  have hissueRows : issues.map (issueRow (.object fields)) = l.findings.map fun f => (f.row l.file).made := by
    rw [← List.forall₂_eq_eq_eq, List.forall₂_map_left_iff, List.forall₂_map_right_iff]
    exact hfindings.flip.imp fun _ _ => issueRow_of_isOf hfile
  have hsuggestionRows : (l.suggestions.map Json.text).map (suggestionRow (.object fields)) =
      l.suggestions.map fun s => (suggestedRow l.file s).made := by
    rw [List.map_map]
    exact List.map_congr_left fun s _ => suggestionRow_text hfile s
  rw [csvRows, issuesOf, suggestionsOf, parts_of_getD hissues, parts_of_getD hsuggestions, rowsOf, rowsOf, hissueRows,
    hsuggestionRows, Listing.rows, List.map_append, List.map_map, List.map_map]
  rfl

/-! Rows that are saved. -/

/-- The line of the table that comes of a row. -/
def Row.written (r : Row) : Except Json.AccessError (List CodePoint) :=
  r.made.map Csv.writeRow

theorem csvLines_of_isOf {listings : List Listing} {reports : List (Json CodePoint)}
    (h : listings.Forall₂ Listing.IsOf reports) :
    csvLines reports = .ok (ofText (Csv.writeRow csvHeader)) :: (listings.flatMap Listing.rows).map Row.written := by
  have hrows : reports.flatMap csvRows = (listings.flatMap Listing.rows).map Row.made := by
    induction h with
    | nil => rfl
    | cons hl _ ih => rw [List.flatMap_cons, List.flatMap_cons, csvRows_of_isOf hl, ih, List.map_append]
  rw [csvLines, hrows, List.map_cons, List.map_map, ← Csv.writeRow_map_ofText]
  rfl

variable {r : Row} {parts : List (Except Json.AccessError (List CodePoint))}

theorem map_toText_fields (h : r.IsWritable) : (r.fields.map toText).map ofText = r.fields := by
  rw [List.map_map]
  exact (List.map_congr_left fun field hfield => Encoding.ofText_toText (h.2 field hfield)).trans (List.map_id _)

theorem ofParts_ofText (s : Text) : Saved.ofParts (.ok (ofText s) :: parts) =
    ⟨Encoding.encode s ++ (Saved.ofParts parts).content, (Saved.ofParts parts).trouble⟩ := by
  rw [Saved.ofParts, Encoding.encodeFrom_ofText]

theorem written_of_isWritable (h : r.IsWritable) :
    r.written = .ok (ofText (Csv.writeRow (r.fields.map toText))) := by
  rw [Row.written, Row.made, if_pos h.1, ← Csv.writeRow_map_ofText, map_toText_fields h]
  rfl

/-- A row that cannot be saved ends the saving with trouble. -/
theorem ofParts_not_written (h : ¬ r.IsWritable) :
    (Saved.ofParts (r.written :: parts)).content = [] ∧ (Saved.ofParts (r.written :: parts)).trouble ≠ none := by
  by_cases hshort : r.IsShort
  · have hhalf : ∃ field ∈ r.fields, ∃ n, .half n ∈ field := by
      by_contra hno
      exact h ⟨hshort, fun field hfield n hn => hno ⟨field, hfield, n, hn⟩⟩
    obtain ⟨field, hfield, n, hn⟩ := hhalf
    obtain ⟨e, he⟩ := Encoding.exists_encodeFrom_eq_error (Csv.half_mem_writeRow hfield hn) 0
    have hwritten : r.written = .ok (Csv.writeRow r.fields) := congrArg (Except.map _) (if_pos hshort)
    rw [hwritten, Saved.ofParts, he]
    exact ⟨rfl, Option.some_ne_none _⟩
  · have hwritten : r.written = .error .longInteger := congrArg (Except.map _) (if_neg hshort)
    rw [hwritten, Saved.ofParts]
    exact ⟨rfl, Option.some_ne_none _⟩

/-- The fields of rows that can be saved, as texts of characters. -/
def charactersOf (rows : List Row) : List (List Text) :=
  rows.map fun r => r.fields.map toText

theorem ne_nil_of_mem_charactersOf {rows : List Row} : ∀ row ∈ csvHeader :: charactersOf rows, row ≠ [] := by
  refine List.forall_mem_cons.2 ⟨List.cons_ne_nil _ _, fun row hrow => ?_⟩
  obtain ⟨r, -, rfl⟩ := List.mem_map.1 hrow
  exact List.cons_ne_nil _ _

/-- Of any rows those before the first that cannot be saved are in the file. -/
theorem exists_saved (rows : List Row) : ∃ done rest, rows = done ++ rest ∧ (∀ r ∈ done, r.IsWritable) ∧
    (∀ r ∈ rest.head?, ¬ r.IsWritable) ∧
    (Saved.ofParts (rows.map Row.written)).content = Encoding.encode ((charactersOf done).flatMap Csv.writeRow) ∧
    ((Saved.ofParts (rows.map Row.written)).trouble = none ↔ rest = []) := by
  induction rows with
  | nil => exact ⟨[], [], rfl, nofun, nofun, rfl, iff_of_true rfl rfl⟩
  | cons r rows ih =>
    rw [List.map_cons]
    by_cases hr : r.IsWritable
    · obtain ⟨done, rest, hsplit, hdone, hrest, hcontent, htrouble⟩ := ih
      rw [written_of_isWritable hr, ofParts_ofText]
      refine ⟨r :: done, rest, congrArg (r :: ·) hsplit, List.forall_mem_cons.2 ⟨hr, hdone⟩, hrest, ?_, htrouble⟩
      have hcons : charactersOf (r :: done) = r.fields.map toText :: charactersOf done := rfl
      rw [hcontent, hcons, List.flatMap_cons, Encoding.encode_append]
    · obtain ⟨hcontent, htrouble⟩ := @ofParts_not_written r (rows.map Row.written) hr
      refine ⟨[], r :: rows, rfl, nofun, ?_, hcontent, iff_of_false htrouble (List.cons_ne_nil _ _)⟩
      rintro _ ⟨⟩
      exact hr

/-- The table of rows that can all be saved is made. -/
theorem csv_of_isWritable {reports : List (Json CodePoint)} {rows : List Row} (h : ∀ r ∈ rows, r.IsWritable)
    (hlines : csvLines reports = .ok (ofText (Csv.writeRow csvHeader)) :: rows.map Row.written) :
    csv reports = .ok (ofText ((csvHeader :: charactersOf rows).flatMap Csv.writeRow)) := by
  have hwritten : rows.map Row.written = ((charactersOf rows).map Csv.writeRow).map fun s => .ok (ofText s) := by
    rw [charactersOf, List.map_map, List.map_map]
    exact List.map_congr_left fun r hr => written_of_isWritable (h r hr)
  have hmade : (csvLines reports).mapM id = .ok (((csvHeader :: charactersOf rows).map Csv.writeRow).map ofText) := by
    rw [hlines, hwritten]
    refine mapM_eq_ok_of_forall₂ (.cons rfl ?_)
    rw [List.forall₂_map_left_iff, List.forall₂_map_right_iff, List.forall₂_same]
    exact fun _ _ => rfl
  rw [csv, hmade, Except.map, List.flatMap_def, Glyph.ofText_flatten]

/-- The table of any reports has the header and the rows of the reports, one report after the other: a row for each
issue, its line in decimal, and then one for each suggestion, without line and severity. The file holds the rows before
the first that cannot be saved, and is read as these rows, every field as it was. There is trouble unless all rows are
saved, and then the file is the table. -/
theorem csv_read_back {listings : List Listing} {reports : List (Json CodePoint)}
    (h : listings.Forall₂ Listing.IsOf reports) :
    ∃ done rest table rows, listings.flatMap Listing.rows = done ++ rest ∧
      (∀ row ∈ done, row.IsWritable) ∧ (∀ row ∈ rest.head?, ¬ row.IsWritable) ∧
      Encoding.decode (Saved.ofParts (csvLines reports)).content = .ok table ∧
      Csv.read table = some (["file", "kind", "line", "severity", "message"].map String.toList :: rows) ∧
      rows.map (·.map ofText) = done.map Row.fields ∧
      ((Saved.ofParts (csvLines reports)).trouble = none ↔ rest = []) ∧
      (rest = [] → csv reports = .ok (ofText table)) := by
  obtain ⟨done, rest, hsplit, hdone, hrest, hcontent, htrouble⟩ := exists_saved (listings.flatMap Listing.rows)
  have hlines := csvLines_of_isOf h
  refine ⟨done, rest, (csvHeader :: charactersOf done).flatMap Csv.writeRow, charactersOf done, hsplit, hdone, hrest, ?_,
    Csv.read_flatMap_writeRow ne_nil_of_mem_charactersOf, ?_, ?_, ?_⟩
  · rw [hlines, ofParts_ofText, hcontent, ← Encoding.encode_append, ← List.flatMap_cons, Encoding.decode_encode]
  · rw [charactersOf, List.map_map]
    exact List.map_congr_left fun r hr => map_toText_fields (hdone r hr)
  · rw [hlines, ofParts_ofText]
    exact htrouble
  · rintro rfl
    rw [List.append_nil] at hsplit
    exact csv_of_isWritable hdone (hsplit ▸ hlines)

/-! Reports of the linter. -/

def listing (r : Report CodePoint) : Listing where
  file := ofText r.file
  findings := r.issues.map fun i => ⟨i.line, ofText i.severity, ofText i.message⟩
  suggestions := r.suggestions

theorem isOf_toJson (r : Report CodePoint) : r.listing.IsOf r.toJson := by
  refine ⟨_, _, rfl, rfl, rfl, ?_, rfl⟩
  rw [listing, List.forall₂_map_left_iff, List.forall₂_map_right_iff, List.forall₂_same]
  exact fun i _ => ⟨_, rfl, rfl, rfl, rfl⟩

/-- Fields with each of the marks, and an issue on a negative line in a document with a further field. -/
def listingOfMarks : Listing where
  file := ofText "a,b".toList
  findings := [⟨-3, ofText "\"\"".toList, ofText "x\r\n\",\"y".toList⟩, ⟨0, [], ofText "\r".toList⟩]
  suggestions := [ofText "\n".toList, [], ofText ",".toList]

def documentOfMarks : Json CodePoint :=
  .object [
    (ofText "file".toList, .text (ofText "a,b".toList)),
    (ofText "suggestions".toList, .list [.text (ofText "\n".toList), .text [], .text (ofText ",".toList)]),
    (ofText "issues".toList, .list [
      .object [
        (ofText "message".toList, .text (ofText "x\r\n\",\"y".toList)),
        (ofText "context".toList, .null),
        (ofText "line".toList, .int (-3)),
        (ofText "severity".toList, .text (ofText "\"\"".toList))],
      .object [
        (ofText "line".toList, .int 0),
        (ofText "message".toList, .text (ofText "\r".toList)),
        (ofText "severity".toList, .text [])]])]

/-- A report with a half in its second suggestion. -/
def reportOfHalf : Report CodePoint where
  file := "\"".toList
  isValid := false
  issues := [⟨12, ",\r\n".toList, Lint.errorSeverity⟩]
  suggestions := [ofText "a \"b\" é".toList, [.char 'c', .half 0], ofText "d".toList]
  buildability := []

/-- The saving ends with the half, which comes after 19 characters of its row. -/
theorem csv_read_back_marks : [listingOfMarks, reportOfHalf.listing].Forall₂ Listing.IsOf
      [documentOfMarks, reportOfHalf.toJson] ∧
    let saved := Saved.ofParts (csvLines [documentOfMarks, reportOfHalf.toJson])
    saved.trouble = some (.encoding ⟨0, 19, 1⟩) ∧ ∃ done rest table rows, rest ≠ [] ∧
      [listingOfMarks, reportOfHalf.listing].flatMap Listing.rows = done ++ rest ∧
      Encoding.decode saved.content = .ok table ∧
      Csv.read table = some (["file", "kind", "line", "severity", "message"].map String.toList :: rows) ∧
      rows.map (·.map ofText) = done.map Row.fields := by
  have hmarks : listingOfMarks.IsOf documentOfMarks :=
    ⟨_, _, rfl, rfl, rfl, .cons ⟨_, rfl, rfl, rfl, rfl⟩ (.cons ⟨_, rfl, rfl, rfl, rfl⟩ .nil), rfl⟩
  have hboth : [listingOfMarks, reportOfHalf.listing].Forall₂ Listing.IsOf [documentOfMarks, reportOfHalf.toJson] :=
    .cons hmarks (.cons (isOf_toJson reportOfHalf) .nil)
  have htrouble : (Saved.ofParts (csvLines [documentOfMarks, reportOfHalf.toJson])).trouble =
      some (.encoding ⟨0, 19, 1⟩) := by decide +kernel
  obtain ⟨done, rest, table, rows, hsplit, -, -, htable, hread, hrows, hnone, -⟩ := csv_read_back hboth
  refine ⟨hboth, htrouble, done, rest, table, rows, fun hrest => ?_, hsplit, htable, hread, hrows⟩
  rw [htrouble] at hnone
  cases hnone.2 hrest

/-- Not all texts are read back: the table of a suggestion that begins with a half has its header alone. -/
theorem not_csv_lossless : ¬ ∀ (listings : List Listing) (reports : List (Json CodePoint)),
    listings.Forall₂ Listing.IsOf reports → ∃ table rows,
      Encoding.decode (Saved.ofParts (csvLines reports)).content = .ok table ∧
      Csv.read table = some (["file", "kind", "line", "severity", "message"].map String.toList :: rows) ∧
      rows.map (·.map ofText) = (listings.flatMap Listing.rows).map Row.fields := by
  intro h
  let report : Report CodePoint := ⟨"Dockerfile".toList, true, [], [CodePoint.half 0 :: ofText "a".toList], []⟩
  obtain ⟨table, rows, htable, hread, hrows⟩ := h [report.listing] [report.toJson] (.cons (isOf_toJson report) .nil)
  have hheader : Encoding.decode (Saved.ofParts (csvLines [report.toJson])).content =
      .ok "file,kind,line,severity,message\r\n".toList := by decide +kernel
  obtain rfl : _ = table := Except.ok.inj (hheader.symm.trans htable)
  have hnone : Csv.read "file,kind,line,severity,message\r\n".toList =
      some [["file", "kind", "line", "severity", "message"].map String.toList] := by decide +kernel
  obtain rfl : _ = rows := (List.cons.inj (Option.some.inj (hnone.symm.trans hread))).2
  cases hrows

end Report

end Dockgraph
