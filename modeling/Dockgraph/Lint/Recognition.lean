import Dockgraph.Catalog
import Dockgraph.Script.Lines
import Dockgraph.Text.Fold

/-! The lines that the linter recognises: a keyword, case apart, and white space after it. -/

namespace Dockgraph.Lint

/-- The part of a line that is the keyword up to case, and the rest. -/
def splitKeyword? : Text → Text → Option (Text × Text)
  | [], line => some ([], line)
  | _ :: _, [] => none
  | k :: keyword, c :: line =>
    if Text.sameLetter k c then (splitKeyword? keyword line).map fun r => (c :: r.1, r.2) else none

/-- A recognised line: its keyword in upper case and its arguments. -/
structure Statement where
  keyword : Text
  arguments : Text
  deriving DecidableEq, Repr

/-- The line as a statement of the given instruction. -/
def statementOf? (line : Text) (i : Instruction) : Option Statement :=
  match splitKeyword? i.keyword line with
  | some (word, c :: rest) =>
    if Text.isBlank c then some ⟨Text.upper word, Text.trim (c :: rest)⟩ else none
  | _ => none

/-- The statement that a trimmed line makes. -/
def recognise? (line : Text) : Option Statement :=
  Instruction.all.findSome? (statementOf? line)

/-- Whether the first word of a line is `ARG`. -/
def isArgument (line : Text) : Bool :=
  Text.upper (Text.firstWord line) == Instruction.arg.keyword

/-- A line with its number, from one. -/
structure Numbered where
  number : Nat
  line : Text
  deriving DecidableEq, Repr

def numberFrom (n : Nat) : List Text → List Numbered
  | [] => []
  | line :: rest => ⟨n, line⟩ :: numberFrom (n + 1) rest

/-- The trimmed lines that say something, with their numbers. -/
def significant (content : Text) : List Numbered :=
  (numberFrom 1 ((Text.lines content).map Text.trim)).filter fun l => Script.isSignificant l.line

end Dockgraph.Lint
