import Dockgraph.CommandLine.Act
import Dockgraph.CommandLine.Request
import Dockgraph.Editor.Basic
import Dockgraph.Json.Writer
import Dockgraph.Lint.Batch
import Dockgraph.Lint.RuleFile
import Dockgraph.Report.Console
import Dockgraph.Report.Csv
import Dockgraph.Report.Html

/-! The commands, and the run of a request: its result and what it has done. -/

namespace Dockgraph.CommandLine

open Act

def info (message : Text) : Notice := .command .info message

/-- What was measured: the seconds, the files, and the files in a second. -/
def measures (elapsed : Double) (files : Nat) : List (Text × Json) := [
  ("elapsed_s".toList, .float elapsed.roundHundredths),
  ("files".toList, .int files),
  ("fps".toList,
    if elapsed.isPositive then .float (Double.countOver files elapsed).roundHundredths else .int 0)]

/-- The rules that an option names. -/
def rulesOf : Option Text → Act (Json CodePoint)
  | none => return .list []
  | some path => do
    let (rules, notice) := Lint.loadRulesAs CodePoint (← disk) path
    tell notice
    return .list rules

section
variable {σ : Type} [Glyph σ] [DecidableEq σ]

def saveJson (path : Text) (reports : List (Json σ)) : Act Unit := do
  saveFile path ((Json.list reports).indented 0)
  tell (info ("JSON report: ".toList ++ path))

def saveCsv (path : Text) (reports : List (Json σ)) : Act Unit := do
  saveParts path (Report.csvLines reports)
  tell (info ("CSV report: ".toList ++ path))

/-- Opens a page, if it can be opened. -/
def openReport (s : Surroundings) (path : Text) : Act Unit :=
  match s.browserTrouble with
  | none => openPage ("file://".toList ++ Path.absolute s.folder path)
  | some reason => tell (.operation .warning ("Failed to auto-open report: ".toList ++ reason))

def savePage (s : Surroundings) (path : Text) (wanted : Bool) (reports : List (Json σ)) : Act Unit := do
  let page ← orRefuse Json.AccessError.message (Report.html s.time reports)
  saveParts path [.ok page]
  tell (.operation .info ("HTML report: ".toList ++ path))
  if wanted then openReport s path

def printReports (reports : List (Json σ)) : Act Unit := do
  let lines ← orRefuse Json.AccessError.message (reports.mapM Report.consoleLines)
  printLines lines.flatten

def printSummary (s : Surroundings) (reports : List (Json σ)) : Act Unit := do
  let lines ← orRefuse Json.AccessError.message
    (Report.summaryLines reports (measures s.elapsed reports.length))
  printLines lines

end

/-- Checks the Dockerfiles of the paths and writes the reports. -/
def lint (s : Surroundings) (o : LintOptions) : Act Nat := do
  let rules ← rulesOf o.rules
  let d ← disk
  tellAll ((Lint.filesOf d o.paths).flatMap (Lint.fileNotices d rules))
  let found := Lint.lintPaths d rules o.paths
  let reports := found.map Report.toJson
  if found.isEmpty then
    tell (.command .warning ("No Dockerfiles found in: ".toList ++ Text.joinWith ", ".toList o.paths))
  saveJson (Path.join o.folder "report.json".toList) reports
  if o.withCsv then saveCsv (Path.join o.folder "report.csv".toList) reports
  if !o.withoutPage && !o.jsonOnly then
    savePage s (Path.join o.folder "report.html".toList) o.openPage reports
  if !o.jsonOnly then
    if !o.summaryOnly then printReports reports
    printSummary s reports
  if o.failOnError && found.any (!·.isValid) then
    printLine "Failing on invalid Dockerfiles (exit code 1).".toList
    return 1
  return 0

/-- Writes a text to the output file or, without one, prints it. -/
def writeOutput (content : Text) : Option Text → Act Unit
  | none => printLine content
  | some path => do
    writeFile path content
    tell (info ("Wrote ".toList ++ path))

def newEditor (s : Surroundings) : Editor :=
  Editor.start (IdSource.ofSession s.session) []

/-- The editor after a command that has to succeed. -/
def edited (e : Editor) (c : Editor.Command) : Act Editor :=
  let outcome := e.step c
  match outcome.answer with
  | .ok _ => return outcome.editor
  | .error (.document .hugeInteger) => throw .hugeInteger
  | .error cause => refuse cause.message

/-- The document of the editor's graph with the name of its file. -/
def graphDocument (e : Editor) : Json :=
  .object (e.graph.toFields ++ [("file_name".toList, Json.ofTextOption e.fileName)])

/-- Reads a Dockerfile into a graph. -/
def importFile (s : Surroundings) (file : Text) (output : Option Text) : Act Nat := do
  match (← disk).readText file with
  | .error cause =>
    tell (Lint.readNotice file cause)
    tell (.command .error ("Could not read ".toList ++ file))
    return 2
  | .ok content =>
    let e ← edited (newEditor s) (.importText content (some (Path.baseName file)))
    tellAll (e.importNotices content)
    writeOutput ((graphDocument e).indented 0) output
    return 0

/-- The file name in a document of a graph. One that is no text would be kept too, but is asked for nowhere. -/
def fileNameIn (document : Json) : Option Text :=
  match document with
  | .object fields =>
    match Json.field? "file_name".toList fields with
    | some (.text name) => some name
    | _ => none
  | _ => none

/-- Writes the Dockerfile of a graph. -/
def exportGraph (s : Surroundings) (file : Text) (output : Option Text) : Act Nat := do
  let document ← orRefuse Disk.LoadError.message ((← disk).load file)
  let e ← edited (newEditor s) (.loadDocument document (fileNameIn document))
  tellAll e.graph.orderNotices
  if output.isSome && e.content.isEmpty then
    tell (.command .warning ("Graph ".toList ++ file ++ " renders to an empty Dockerfile".toList))
  writeOutput (if output.isSome then e.content else e.exportText) output
  return 0

/-- The line of a template in the list of templates. -/
def templateLine (t : Json × Json) : Text :=
  "  ".toList ++ Text.padRight 12 t.1.display ++ ' ' :: t.2.display

def listTemplates : Act Nat := do
  let found ← orRefuse Template.Error.message (Template.index Template.builtin)
  printLines (found.map templateLine)
  return 0

def printTemplate (s : Surroundings) (id : Text) (asGraph : Bool) : Act Nat := do
  let t ← orRefuse Template.Error.message (Template.load Template.builtin (some id))
  tell (Template.loadNotice (some id) t)
  let e ← edited (newEditor s) (.loadTemplate (some id))
  printLine (if asGraph then e.graph.toJson.indented 0 else e.content)
  return 0

/-- The lines of a catalog entry. -/
def catalogLines (verbose : Bool) (spec : Spec) : List Text :=
  let mark := if spec.advanced then ' ' :: Terminal.painted .magenta "(advanced)".toList else []
  let line := "  ".toList ++ Text.padRight 20 spec.id ++ ' ' :: Text.padRight 12 spec.instruction.keyword
    ++ ' ' :: spec.description ++ mark
  line :: if verbose then ["      default: ".toList ++ spec.defaultArguments] else []

def catalog (verbose advanced : Bool) : Act Nat := do
  printLines ((Spec.listed advanced).flatMap (catalogLines verbose))
  return 0

def Request.act (s : Surroundings) (r : Request) : Act Nat :=
  match r.command with
  | .lint o => lint s o
  | .importFile file output => importFile s file output
  | .exportGraph file output => exportGraph s file output
  | .templates none _ => listTemplates
  | .templates (some id) asGraph => printTemplate s id asGraph
  | .catalog advanced => catalog r.verbose advanced

/-- How a run ends: with a code, or by the failure that is no refusal. -/
inductive Exit where
  | code (n : Nat)
  | hugeInteger
  deriving DecidableEq, Repr

/-- The exit of a run and what it has done. -/
structure Outcome where
  exit : Exit
  trace : Trace

/-- Runs a request. A refusal is told and ends the run with code 2. -/
def Request.run (s : Surroundings) (d : Disk) (r : Request) : Outcome :=
  match (r.act s).run.run (Trace.start d) with
  | (.ok n, t) => ⟨.code n, t⟩
  | (.error .hugeInteger, t) => ⟨.hugeInteger, t⟩
  | (.error (.refused reason), t) =>
    ⟨.code 2, { t with notices := t.notices ++ [.command .error reason] }⟩

/-- What a run prints, as it goes out. -/
def Outcome.printed (o : Outcome) (onTerminal : Bool) : Text :=
  o.trace.lines.flatMap (Terminal.shown onTerminal)

/-- The notices that the user sees. -/
def Outcome.shownNotices (o : Outcome) (verbose : Bool) : List Notice :=
  o.trace.notices.filter (·.isShown verbose)

end Dockgraph.CommandLine
