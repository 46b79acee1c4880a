import Dockgraph.Json.Display
import Dockgraph.Report.Entry
import Dockgraph.Terminal

/-! Reports as lines on the console, and the summary of a run. -/

namespace Dockgraph.Report

open Terminal (painted)

def indent : Text := "    ".toList

def verdictColour (isValid : Bool) : Terminal.Colour :=
  if isValid then .green else .red

/-- A finding below the line of its file. -/
def finding (colour : Terminal.Colour) (s : Text) : Text :=
  indent ++ painted colour s

section
variable {σ : Type} [Glyph σ] [DecidableEq σ]

/-- The value as the console shows it. -/
def shown (v : Json σ) : Text :=
  Glyph.toText v.display

def issueLine (issue : Json σ) : Except Json.AccessError Text := do
  let line ← issue.entry "line".toList
  let message ← issue.entry "message".toList
  return finding .red ("→ Line ".toList ++ shown line ++ ": ".toList ++ shown message)

def isValidOf (report : Json σ) : Except Json.AccessError Bool :=
  (report.entry "is_valid".toList).map Json.isTruthy

/-- The lines of a report, the last one empty. -/
def consoleLines (report : Json σ) : Except Json.AccessError (List Text) := do
  let valid ← isValidOf report
  let file ← report.entry "file".toList
  let issues ← (← issuesOf report).mapM issueLine
  let suggestions ← suggestionsOf report
  let buildability ← report.member? "buildability".toList
  return ['[' :: painted (verdictColour valid) (verdictWord valid) ++ "] ".toList ++ shown file]
    ++ issues
    ++ suggestions.map (fun s => finding .yellow ("→ ".toList ++ shown s))
    ++ ((buildability.bind Json.truthy?).map fun b => finding .cyan (shown b)).toList
    ++ [[]]

end

/-- The lines of what was measured. -/
def measureLines (measures : List (Text × Json)) : List Text :=
  if measures.isEmpty then []
  else "\nPerformance:".toList
    :: measures.map fun m => "  ".toList ++ m.1 ++ ": ".toList ++ m.2.display

/-- How many reports have the verdict. -/
def countLine (verdicts : List Bool) (valid : Bool) : Text :=
  "  ".toList ++ painted (verdictColour valid)
    (verdictWord valid ++ ": ".toList ++ Text.ofNat (verdicts.count valid))

/-- The lines of the summary of a run. -/
def summaryLines {σ : Type} [Glyph σ] [DecidableEq σ] (reports : List (Json σ)) (measures : List (Text × Json)) :
    Except Json.AccessError (List Text) := do
  let verdicts ← reports.mapM isValidOf
  let suggestions ← reports.mapM suggestionCount
  return [
    "\n=== Lint Summary ===".toList,
    "Files checked: ".toList ++ Text.ofNat reports.length,
    countLine verdicts true,
    countLine verdicts false,
    "Suggestions: ".toList ++ Text.ofNat (total suggestions)]
    ++ measureLines measures
    ++ ["====================\n".toList]

end Dockgraph.Report
