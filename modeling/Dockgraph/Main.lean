import Dockgraph.CommandLine.Run
import Std.Time

/-! The program. It takes a copy of the files that a request may touch, runs the request on the copy, and
puts the outcome into effect. -/

namespace Dockgraph.Program

open CommandLine

def textOf (s : String) : Text := s.toList

def stringOf (s : Text) : String := String.ofList s

/-- The paths that a command reads or writes, and whether it goes through all that is below them. -/
def touched : Command → List (Text × Bool)
  | .lint o =>
    o.paths.map (·, true)
      ++ o.rules.toList.map (·, false)
      ++ ["report.json", "report.csv", "report.html"].map (fun name =>
        (Path.join o.folder name.toList, false))
  | .importFile file output => (file :: output.toList).map (·, false)
  | .exportGraph file output => (file :: output.toList).map (·, false)
  | .templates .. => []
  | .catalog .. => []

def place (names : List Text) : IO.FS.DirEntry :=
  ⟨"/", stringOf (Text.joinWith Path.slash names)⟩

def contentOf (p : IO.FS.DirEntry) : IO Encoding.Bytes := do
  return (← IO.FS.readBinFile p.path).toList

/-- Copies what stands at a place of the machine: a file, or a folder with its Dockerfiles. -/
partial def copyOf (p : IO.FS.DirEntry) : IO FileTree := do
  if ← p.path.isDir then
    let mut entries := []
    for entry in ← p.path.readDir do
      if (← entry.path.isDir) || isDockerfileName (textOf entry.fileName) then
        entries := entries ++ [(textOf entry.fileName, ← copyOf entry)]
    return .folder entries
  else return .file (← contentOf p)

/-- Takes what stands at the end of a row of names into the copy, folders without what they hold. -/
def takeInto (d : Disk) (names : List Text) (all : Bool) : IO Disk := do
  let p := place names
  if !(← p.path.pathExists) then return d
  if all then return d.put names (← copyOf p)
  if ← p.path.isDir then
    if (d.root.at? names).isSome then return d else return d.put names (.folder [])
  return d.put names (.file (← contentOf p))

/-- The beginnings of a path, the shortest first. -/
def beginnings (path : Text) : List Text :=
  let segments := Path.segments path
  (List.range segments.length).map fun n => Text.joinWith Path.slash (segments.take (n + 1))

def namesOf (directory path : Text) : List Text :=
  (Path.segments (Path.absolute directory path)).filter fun s => !s.isEmpty

/-- Takes a path and all that leads to it into the copy. -/
def takePath (directory : Text) (d : Disk) (path : Text) (all : Bool) : IO Disk := do
  let mut copy := d
  for start in beginnings path do
    copy ← takeInto copy (namesOf directory start) false
  takeInto copy (namesOf directory path) all

def copyFor (directory : Text) (c : Command) : IO Disk := do
  let here := namesOf directory []
  let mut copy : Disk := ⟨.folder [], here⟩
  copy := copy.put here (.folder [])
  for (path, all) in touched c do
    copy ← takePath directory copy path all
  return copy

/-- Writes the files that the run has changed. -/
def putBack (before after : Disk) : IO Unit :=
  for (names, content) in after.changesSince before do
    IO.FS.createDirAll (place names.dropLast).path
    IO.FS.writeBinFile (place names).path (ByteArray.mk content.toArray)

def timeText : IO Text := do
  let now := Std.Time.DateTime.ofTimestamp (← Std.Time.Timestamp.now) Std.Time.TimeZone.ZoneRules.UTC
  return textOf (now.format "uuuu-MM-dd HH:mm:ss" ++ "Z")

def newSession : IO Text := do
  return Text.ofHex 8 (← IO.rand 0 0xffffffff)

def runRequest (r : Request) : IO UInt32 := do
  let directory := textOf (toString (← IO.currentDir))
  let begun ← IO.monoNanosNow
  let disk ← copyFor directory r.command
  let surroundings : Surroundings := {
    elapsed := Double.ofRatio false ((← IO.monoNanosNow) - begun) 1000000000
    time := ← timeText
    folder := directory
    browserTrouble := some (textOf "could not locate runnable browser")
    session := ← newSession }
  let outcome := r.run surroundings disk
  putBack disk outcome.trace.disk
  for n in outcome.shownNotices r.verbose do
    IO.eprintln (stringOf (n.level.name ++ textOf ": " ++ n.message))
  let stdout ← IO.getStdout
  stdout.putStr (stringOf (outcome.printed (← stdout.isTty)))
  match outcome.exit with
  | .code n => return n.toUInt32
  | .hugeInteger =>
    IO.eprintln (stringOf (Graph.DocumentError.hugeInteger).message)
    return 1

def usage : String :=
  "usage: dockerblueprint [-h] [--verbose] (lint | import | export | templates | catalog) ..."

end Dockgraph.Program

open Dockgraph Dockgraph.Program in
def main (arguments : List String) : IO UInt32 := do
  match CommandLine.Request.ofArguments (arguments.map textOf) with
  | .ok r => runRequest r
  | .error ⟨_, .help⟩ =>
    IO.println usage
    return 0
  | .error m =>
    IO.eprintln (stringOf m.message)
    return 2
