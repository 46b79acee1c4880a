import Dockgraph.CommandLine.Arguments

/-! What a command line asks for. -/

namespace Dockgraph.CommandLine

open Arguments (Switch Form Reading Fault)

structure LintOptions where
  paths : List Text
  folder : Text
  summaryOnly : Bool
  failOnError : Bool
  withoutPage : Bool
  jsonOnly : Bool
  withCsv : Bool
  rules : Option Text
  openPage : Bool
  deriving DecidableEq, Repr

inductive Command where
  | lint (options : LintOptions)
  | importFile (file : Text) (output : Option Text)
  | exportGraph (file : Text) (output : Option Text)
  | templates (id : Option Text) (asGraph : Bool)
  | catalog (advanced : Bool)
  deriving DecidableEq, Repr

structure Request where
  verbose : Bool
  command : Command
  deriving DecidableEq, Repr

def program : Text := "dockerblueprint".toList

/-- A command line that asks for nothing, and the program or command that finds so. -/
structure Misuse where
  program : Text
  fault : Fault
  deriving DecidableEq, Repr

def Misuse.message (m : Misuse) : Text :=
  m.program ++ ": error: ".toList ++ m.fault.message

def help : Switch := ⟨["-h".toList, "--help".toList], .help⟩

def flag (spelling : String) : Switch := ⟨[spelling.toList], .flag⟩

def outputSwitch : Switch := ⟨["--output".toList, "-o".toList], .text⟩

inductive CommandName where
  | lint
  | importFile
  | exportGraph
  | templates
  | catalog
  deriving DecidableEq, Repr

namespace CommandName

def word : CommandName → Text
  | .lint => "lint".toList
  | .importFile => "import".toList
  | .exportGraph => "export".toList
  | .templates => "templates".toList
  | .catalog => "catalog".toList

def all : List CommandName := [.lint, .importFile, .exportGraph, .templates, .catalog]

def ofWord? (w : Text) : Option CommandName :=
  all.find? fun c => c.word == w

def form : CommandName → Form
  | .lint => {
    switches := [
      help, ⟨["--out".toList, "-o".toList], .text⟩, flag "--summary", flag "--fail-on-error",
      flag "--no-html", flag "--json-only", flag "--export-csv", ⟨["--rules".toList], .text⟩,
      ⟨["--threads".toList], .integer⟩, flag "--open"]
    operands := .many "paths".toList }
  | .importFile => { switches := [help, outputSwitch], operands := .one "dockerfile".toList }
  | .exportGraph => { switches := [help, outputSwitch], operands := .one "graph".toList }
  | .templates => { switches := [help, flag "--graph"], operands := .optional }
  | .catalog => { switches := [help, flag "--advanced"], operands := .none }

end CommandName

/-- The form of the whole command line. -/
def mainForm : Form where
  switches := [help, ⟨["--verbose".toList, "-v".toList], .flag⟩]
  operands := .command "command".toList (CommandName.all.map (·.word))

def defaultFolder : Text := "./reports".toList

/-- The value of an option, where it is not empty. -/
def filled? (r : Reading) (name : String) : Option Text :=
  (r.value? name).filter fun s => !s.isEmpty

def LintOptions.ofReading (r : Reading) : LintOptions where
  paths := r.operands.getD []
  folder := (r.value? "--out").getD defaultFolder
  summaryOnly := r.has "--summary"
  failOnError := r.has "--fail-on-error"
  withoutPage := r.has "--no-html"
  jsonOnly := r.has "--json-only"
  withCsv := r.has "--export-csv"
  rules := filled? r "--rules"
  openPage := r.has "--open"

def operand (r : Reading) : Text :=
  (r.operands.getD []).headD []

def Command.ofReading (r : Reading) : CommandName → Command
  | .lint => .lint (LintOptions.ofReading r)
  | .importFile => .importFile (operand r) (filled? r "--output")
  | .exportGraph => .exportGraph (operand r) (filled? r "--output")
  | .templates => .templates (if (operand r).isEmpty then none else some (operand r)) (r.has "--graph")
  | .catalog => .catalog (r.has "--advanced")

def misuse {α : Type} (program : Text) : Except Fault α → Except Misuse α
  | .ok v => .ok v
  | .error fault => .error ⟨program, fault⟩

/-- The request that a command line makes. Words without a place are a fault of the whole line, those
before the command first. -/
def Request.ofArguments (words : List Text) : Except Misuse Request := do
  let r ← misuse program (Arguments.read mainForm words)
  match r.operands with
  | none => misuse program (.error (.noOperand "command".toList))
  | some words =>
    match CommandName.ofWord? (words.headD []) with
    | none => misuse program (.error (.noOperand "command".toList))
    | some name =>
      let c ← misuse (program ++ ' ' :: name.word) (Arguments.read name.form words.tail)
      match r.leftover ++ c.leftover with
      | [] => return ⟨r.has "--verbose", Command.ofReading c name⟩
      | leftover => misuse program (.error (.unrecognized leftover))

end Dockgraph.CommandLine
