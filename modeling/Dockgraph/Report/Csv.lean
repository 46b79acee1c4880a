import Dockgraph.File.Saving
import Dockgraph.Report.Entry

/-! Reports as a table of comma-separated values: a row for each issue and each suggestion. -/

namespace Dockgraph

open Glyph (ofChar ofText)

namespace Csv

/-- The marks of the format. -/
def isMark (c : Char) : Bool :=
  c == ',' || c == '"' || c == '\r' || c == '\n'

variable {σ : Type} [Glyph σ]

/-- Whether a field has to stand in quotation marks: it holds a mark of the format. -/
def isMarked (field : List σ) : Bool :=
  field.any fun g =>
    match Glyph.point g with
    | .char c => isMark c
    | .half _ => false

/-- A quotation mark inside a quoted field is written twice. -/
def double (g : σ) : List σ :=
  if Glyph.point g = .char '"' then [g, g] else [g]

def writeField (field : List σ) : List σ :=
  if isMarked field then ofChar '"' :: field.flatMap double ++ ([ofChar '"'] : List σ) else field

def writeRow (fields : List (List σ)) : List σ :=
  Text.joinWith [ofChar ','] (fields.map writeField) ++ ([ofChar '\r', ofChar '\n'] : List σ)

/-- The text of a value in a field: nothing for null. -/
def fieldOf : Json σ → Except Json.AccessError (List σ)
  | .null => .ok []
  | v => if v.excess?.isSome then .error .longInteger else .ok v.display

end Csv

namespace Report

def csvHeader : List Text := ["file", "kind", "line", "severity", "message"]

variable {σ : Type} [Glyph σ] [DecidableEq σ]

/-- The row of an issue. -/
def issueRow (report issue : Json σ) : Except Json.AccessError (List (List σ)) := do
  let file ← report.entry "file".toList
  let line ← issue.entry "line".toList
  let severity ← issue.entry "severity".toList
  let message ← issue.entry "message".toList
  [file, .text (ofText "issue".toList), line, severity, message].mapM Csv.fieldOf

/-- The row of a suggestion, which has neither line nor severity. -/
def suggestionRow (report suggestion : Json σ) : Except Json.AccessError (List (List σ)) := do
  let file ← report.entry "file".toList
  [file, .text (ofText "suggestion".toList), .emptyText, .emptyText, suggestion].mapM Csv.fieldOf

/-- The rows of some items, if there are items. -/
def rowsOf (row : Json σ → Except Json.AccessError (List (List σ))) :
    Except Json.AccessError (List (Json σ)) → List (Except Json.AccessError (List (List σ)))
  | .ok items => items.map row
  | .error cause => [.error cause]

/-- The rows of a report, each as far as it can be made. -/
def csvRows (report : Json σ) : List (Except Json.AccessError (List (List σ))) :=
  rowsOf (issueRow report) (issuesOf report) ++ rowsOf (suggestionRow report) (suggestionsOf report)

/-- The table of the reports by its lines. -/
def csvLines (reports : List (Json σ)) : List (Except Json.AccessError (List σ)) :=
  (.ok (csvHeader.map ofText) :: reports.flatMap csvRows).map fun row => row.map Csv.writeRow

/-- The table of the reports. -/
def csv (reports : List (Json σ)) : Except Json.AccessError (List σ) :=
  ((csvLines reports).mapM id).map List.flatten

end Report

end Dockgraph
