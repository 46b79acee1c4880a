import Dockgraph.Lint.Advice
import Dockgraph.Lint.CustomRule

/-! The check of a Dockerfile: issues, which make it invalid, and suggestions. -/

namespace Dockgraph.Lint

structure Issue where
  line : Nat
  message : Text
  severity : Text
  deriving DecidableEq, Repr

/-- The severity of issues that make a file invalid. -/
def errorSeverity : Text := "error".toList

structure Result (σ : Type := Char) where
  isValid : Bool
  issues : List Issue
  suggestions : List (List σ)
  deriving DecidableEq, Repr

def Result.errors {σ : Type} (r : Result σ) : List Issue :=
  r.issues.filter fun i => i.severity == errorSeverity

def errorAt (line : Nat) (message : Text) : Issue :=
  ⟨line, message, errorSeverity⟩

def invalidInstruction (l : Numbered) : Issue :=
  errorAt l.number ("Invalid Dockerfile instruction: ".toList ++ l.line)

def baseNotFirst (number : Nat) : Issue :=
  errorAt number "FROM must be the first instruction in the Dockerfile (ARG excepted)".toList

def missingBase : Issue :=
  errorAt 1 "Dockerfile must contain a FROM instruction.".toList

def isBase (l : Numbered) : Bool :=
  (recognise? l.line).any fun s => s.keyword == Instruction.base.keyword

/-- The issues of lines that make no statement. -/
def invalidIssues (lines : List Numbered) : List Issue :=
  (lines.filter fun l => (recognise? l.line).isNone).map invalidInstruction

/-- The issue of the place of the first `FROM`: only `ARG` may stand before it. -/
def placementIssue? (lines : List Numbered) : Option Issue :=
  if lines.any isBase then
    ((lines.takeWhile fun l => !isBase l).find? fun l => !isArgument l.line).map fun l =>
      baseNotFirst l.number
  else some missingBase

/-- Puts an issue after those of its line and the lines before. -/
def insertIssue (x : Issue) (issues : List Issue) : List Issue :=
  (issues.takeWhile fun i => i.line ≤ x.line) ++ x :: (issues.dropWhile fun i => i.line ≤ x.line)

/-- All issues, by line. -/
def issuesOf (lines : List Numbered) : List Issue :=
  match placementIssue? lines with
  | none => invalidIssues lines
  | some x => insertIssue x (invalidIssues lines)

section
variable {σ ε : Type} [Glyph σ]

/-- A remark with the number of its line. -/
def lineRemark (number : Nat) (remark : List σ) : List σ :=
  (Glyph.ofText ("Line ".toList ++ Text.ofNat number ++ ": ".toList) : List σ) ++ remark

/-- The suggestions for a line: the advice on its statement, then what the custom rules say. -/
def lineSuggestions (rules : List (CustomRule σ)) (l : Numbered) : List (List σ) :=
  match recognise? l.line with
  | none => []
  | some s =>
    ((Advice.forStatement s : List (List σ)) ++ (rules.filter (·.applies l.line s)).map (·.remark)).map
      (lineRemark l.number)

/-- The check with rules that are already read. -/
def checkWith (rules : List (CustomRule σ)) (content : Text) : Result σ :=
  let lines := significant content
  let issues := issuesOf lines
  { isValid := !(issues.any fun i => i.severity == errorSeverity)
    issues := issues
    suggestions := lines.flatMap (lineSuggestions rules) ++ (documentAdvice content : List (List σ)) }

/-- Whether a rule has to say of some line what is too long to be written. -/
def isOverlong (rules : List (CustomRule σ)) (content : Text) : Bool :=
  rules.any fun rule => rule.isOverlong &&
    (significant content).any fun l => (recognise? l.line).any (rule.applies l.line)

/-- The check of a text with a list of custom rules. -/
def checkBy [DecidableEq σ] (E : Pattern.Engine σ ε) (content : Text) (rules : List (Json σ)) : Except ε (Result σ) :=
  match CustomRule.ofList E rules with
  | .error fault => .error fault
  | .ok custom => if isOverlong custom content then .error E.longInteger else .ok (checkWith custom content)

end

/-- The check by the library's own engine. -/
def check (content : Text) (rules : List Json) : Except Pattern.Fault Result :=
  checkBy Pattern.Searched.engine content rules

end Dockgraph.Lint
