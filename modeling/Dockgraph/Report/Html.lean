import Dockgraph.Json.Display
import Dockgraph.Json.Writer
import Dockgraph.Lint.Explanation
import Dockgraph.Report.Entry
import Dockgraph.Report.Page
import Dockgraph.Text.Case

/-! Reports as a page: figures, a card for each report, and the reports as data for the page's script. -/

namespace Dockgraph

open Glyph (ofText)

namespace Html

def escapeChar (c : Char) : Text :=
  if c = '&' then "&amp;".toList
  else if c = '<' then "&lt;".toList
  else if c = '>' then "&gt;".toList
  else if c = '\'' then "&#39;".toList
  else if c = '"' then "&#34;".toList
  else [c]

variable {σ : Type} [Glyph σ]

/-- The text in a page; a half stays. -/
def escape (s : List σ) : List σ :=
  s.flatMap fun g =>
    match Glyph.point g with
    | .char c => ofText (escapeChar c)
    | .half _ => [g]

/-- The lower case of a text, of which `before` comes before it. A half has no case, and words end at it. -/
def lowerFrom (before : Text) : List σ → List σ
  | [] => ofText (Text.lower before)
  | g :: s =>
    match Glyph.point g with
    | .char c => lowerFrom (before ++ [c]) s
    | .half _ => (ofText (Text.lower before) : List σ) ++ g :: lowerFrom [] s

/-- The text of a value that may be missing. -/
def shown (v : Option (Json σ)) : List σ :=
  match v with
  | none => []
  | some v => v.display

/-- The value in the text of a page. -/
def value (v : Option (Json σ)) : List σ :=
  escape (shown v)

/-- Text that can stand in a script: no tag ends in it. -/
def guardScript : Text → Text
  | [] => []
  | '<' :: '/' :: s => '<' :: '\\' :: '/' :: guardScript s
  | c :: s => c :: guardScript s

end Html

namespace Report

variable {σ : Type} [Glyph σ]

/-- The background of a message of any kind; only texts have any. -/
def contextOf (message : Json σ) : Except Json.AccessError Text :=
  match message.truthy? with
  | none => .ok (Lint.context [])
  | some (.text s) => .ok (Lint.context (Glyph.toText s))
  | some v => .error (.noMember v.kind "lower".toList)

def contextBox (context : Text) : Text :=
  if context.isEmpty then []
  else "<div class=\"context\">".toList ++ Html.escape context ++ "</div>".toList

def suggestionCard (suggestion : Json σ) : Except Json.AccessError (List σ) := do
  let text : Text → List σ := ofText
  let context ← contextOf suggestion
  return text "\n    <div class=\"suggestion\">\n      ".toList ++ Html.value (some suggestion)
    ++ text ("\n      ".toList ++ contextBox context ++ "\n    </div>\n    ".toList)

variable [DecidableEq σ]

def issueCard (issue : Json σ) : Except Json.AccessError (List σ) := do
  let text : Text → List σ := ofText
  let fields ← issue.fields
  let part (name : String) : Option (Json σ) := Json.field? (ofText name.toList) fields
  let context ← contextOf ((part "message").getD Json.emptyText)
  return text "\n    <div class=\"issue\">\n      <b>Line ".toList ++ Html.value (part "line")
    ++ text "</b> [".toList ++ Html.value (part "severity") ++ text "] ".toList ++ Html.value (part "message")
    ++ text ("\n      ".toList ++ contextBox context ++ "\n    </div>\n    ".toList)

/-- The verdict of a report, which is invalid where it says nothing else. -/
def validOf (report : Json σ) : Except Json.AccessError Bool :=
  (report.member? "is_valid".toList).map fun v => v.any Json.isTruthy

/-- The card of a report. -/
def card (report : Json σ) : Except Json.AccessError (List σ) := do
  let text : Text → List σ := ofText
  let fields ← report.fields
  let part (name : String) : Option (Json σ) := Json.field? (ofText name.toList) fields
  let issues ← (← issuesOf report).mapM issueCard
  let suggestions ← (← suggestionsOf report).mapM suggestionCard
  let verdict := verdictWord (← validOf report)
  return text "\n  <div class=\"card report\" data-file=\"".toList
    ++ Html.escape (Html.lowerFrom [] (Html.shown (part "file")))
    ++ text ("\" data-verdict=\"".toList ++ verdict ++ "\">\n    <h3>".toList) ++ Html.value (part "file")
    ++ text (" <span class=\"badge ".toList ++ verdict ++ "\">".toList ++ verdict
      ++ "</span></h3>\n    <div class=\"meta\">".toList) ++ Html.value (part "buildability")
    ++ text "</div>\n    ".toList ++ issues.flatten ++ text "\n    ".toList ++ suggestions.flatten
    ++ text "\n  </div>\n  ".toList

/-- How many issues of a report are errors. -/
def errorCount (report : Json σ) : Except Json.AccessError Nat := do
  let severities ← (← issuesOf report).mapM fun i => i.member? "severity".toList
  return severities.countP fun
    | some (.text s) => s == ofText Lint.errorSeverity
    | _ => false

/-- The reports as data for the page's script. -/
def embedded (reports : List (Json σ)) : Text :=
  Html.guardScript (Json.list reports).compact

/-- The page of the reports, made at a given time. -/
def html (time : Text) (reports : List (Json σ)) : Except Json.AccessError (List σ) := do
  let text : Text → List σ := ofText
  let verdicts ← reports.mapM validOf
  let errors ← reports.mapM errorCount
  let suggestions ← reports.mapM suggestionCount
  let cards ← reports.mapM card
  return text (Page.top ++ time
      ++ Page.beforeFileCount ++ Text.ofNat reports.length
      ++ Page.beforeValidCount ++ Text.ofNat (verdicts.count true)
      ++ Page.beforeErrorCount ++ Text.ofNat (total errors)
      ++ Page.beforeSuggestionCount ++ Text.ofNat (total suggestions)
      ++ Page.beforeCards)
    ++ cards.flatten
    ++ text (Page.afterCards ++ time
      ++ Page.beforeData ++ embedded reports
      ++ Page.bottom)

end Report

end Dockgraph
