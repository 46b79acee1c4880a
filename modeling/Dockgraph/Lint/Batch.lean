import Dockgraph.File.Collect
import Dockgraph.File.Document
import Dockgraph.Report.Entry

/-! The check of files: of one, and of all Dockerfiles that some paths stand for. Every file gets a report,
also one that cannot be read or checked. -/

namespace Dockgraph.Lint

/-- Why a text cannot be checked: its rules are no list, or the engine fails at one. -/
inductive Refusal (ε : Type := Pattern.Fault) where
  | rules (cause : Json.AccessError)
  | pattern (cause : ε)
  deriving DecidableEq, Repr

def Refusal.message : Refusal → Text
  | .rules cause => cause.message
  | .pattern cause => cause.message

section
variable {σ : Type} [Glyph σ] [DecidableEq σ]

/-- The check of a text by an engine, with rules of any kind. -/
def checkDocumentBy {ε : Type} (E : Pattern.Engine σ ε) (content : Text) (rules : Json σ) :
    Except (Refusal ε) (Result σ) :=
  match ruleEntries rules with
  | .error cause => .error (.rules cause)
  | .ok entries =>
    match checkBy E content entries with
    | .error cause => .error (.pattern cause)
    | .ok r => .ok r

/-- The check of a text by the library's own engine. -/
def checkDocument (content : Text) (rules : Json) : Except Refusal Result :=
  checkDocumentBy Pattern.Searched.engine content rules

variable [Pattern.Searched σ]

/-- The report on a file with a given content. -/
def reportOn (file content : Text) (rules : Json σ) : Except Refusal (Report σ) :=
  (checkDocumentBy Pattern.Searched.engine content rules).map (Report.ofResult file content)

/-- What the check of a text tells: the rules that it skips. -/
def checkNotices (rules : Json σ) : List Notice :=
  match ruleEntries rules with
  | .error _ => []
  | .ok entries => skipNotices Pattern.Searched.engine entries

/-- What is told of a report. -/
def reportNotice (r : Report σ) : Notice :=
  .operation .info ("[RulesEngine] ".toList ++ r.file ++ " → ".toList
    ++ Text.ofNat (r.issues.countP fun i => i.severity == errorSeverity) ++ " error(s), ".toList
    ++ Text.ofNat r.suggestions.length ++ " suggestion(s)".toList)

/-- The report on a file of a disk. -/
def lintFile (d : Disk) (rules : Json σ) (file : Text) : Except Refusal (Report σ) :=
  match d.readText file with
  | .error _ => .ok (Report.failed file "Could not read file".toList)
  | .ok content => reportOn file content rules

/-- The report on a file of a disk, which tells of a refusal too. -/
def fileReport (d : Disk) (rules : Json σ) (file : Text) : Report σ :=
  match lintFile d rules file with
  | .ok r => r
  | .error cause => Report.failed file ("Exception during lint: ".toList ++ cause.message)

def readNotice (file : Text) (cause : Disk.Error) : Notice :=
  .command .debug ("Read error for ".toList ++ file ++ ": ".toList ++ cause.message)

/-- What the check of a file tells. -/
def fileNotices (d : Disk) (rules : Json σ) (file : Text) : List Notice :=
  match d.readText file with
  | .error cause => [readNotice file cause]
  | .ok content =>
    checkNotices rules ++
      match reportOn file content rules with
      | .ok r => [reportNotice r]
      | .error _ => [.command .error ("Exception linting file ".toList ++ file)]

/-- The files that some paths stand for. -/
def filesOf (d : Disk) (paths : List Text) : List Text :=
  paths.flatMap d.collect

/-- Reports by file; those on one file stay as they come. -/
def inOrder (reports : List (Report σ)) : List (Report σ) :=
  reports.mergeSort fun a b => Text.precedesOrEq a.file b.file

/-- The reports on all files that some paths stand for. -/
def lintPaths (d : Disk) (rules : Json σ) (paths : List Text) : List (Report σ) :=
  inOrder ((filesOf d paths).map (fileReport d rules))

end

end Dockgraph.Lint
