import Dockgraph.Json.Access
import Dockgraph.Lint.Explanation

/-! A report: what the check of one file has found. The documents that hold reports are read field by
field, so that one made elsewhere needs only the fields that are used. -/

namespace Dockgraph

structure Report (σ : Type := Char) where
  file : Text
  isValid : Bool
  issues : List Lint.Issue
  suggestions : List (List σ)
  buildability : Text
  deriving DecidableEq, Repr

variable {σ : Type} [Glyph σ]

open Glyph (ofText)

def Lint.Issue.toJson (i : Lint.Issue) : Json σ :=
  .object [
    (ofText "line".toList, .int i.line),
    (ofText "message".toList, .text (ofText i.message)),
    (ofText "severity".toList, .text (ofText i.severity))]

namespace Report

def toJson (r : Report σ) : Json σ :=
  .object [
    (ofText "file".toList, .text (ofText r.file)),
    (ofText "is_valid".toList, .bool r.isValid),
    (ofText "issues".toList, .list (r.issues.map Lint.Issue.toJson)),
    (ofText "suggestions".toList, .list (r.suggestions.map .text)),
    (ofText "buildability".toList, .text (ofText r.buildability))]

/-- The report on a file, given its result. -/
def ofResult (file content : Text) (r : Lint.Result σ) : Report σ where
  file := file
  isValid := r.isValid
  issues := r.issues
  suggestions := r.suggestions
  buildability := Lint.buildability content r

/-- The report on a file that could not be checked; the reason stands on line 0. -/
def failed (file reason : Text) : Report σ where
  file := file
  isValid := false
  issues := [Lint.errorAt 0 reason]
  suggestions := []
  buildability := []

variable [DecidableEq σ]

/-- The parts of a report document under a name; none where the name is not there. -/
def parts (name : Text) (report : Json σ) : Except Json.AccessError (List (Json σ)) := do
  match ← report.member? name with
  | none => return []
  | some v => v.elements

def issuesOf (report : Json σ) : Except Json.AccessError (List (Json σ)) :=
  parts "issues".toList report

def suggestionsOf (report : Json σ) : Except Json.AccessError (List (Json σ)) :=
  parts "suggestions".toList report

/-- The number of suggestions of a report document. -/
def suggestionCount (report : Json σ) : Except Json.AccessError Nat := do
  match ← report.member? "suggestions".toList with
  | none => return 0
  | some v => v.size

def total (counts : List Nat) : Nat :=
  counts.foldl (· + ·) 0

/-- The word for a verdict. -/
def verdictWord (isValid : Bool) : Text :=
  if isValid then "valid".toList else "invalid".toList

end Report

end Dockgraph
