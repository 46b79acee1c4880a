import Dockgraph.File.Disk
import Dockgraph.File.Saving
import Dockgraph.Notice
import Dockgraph.Number.Double

/-! What a command does besides its result: it reads and writes files, prints lines, tells notices, and
opens pages. A command that fails keeps what it has done so far. -/

namespace Dockgraph.CommandLine

/-- What a run meets with outside the disk. -/
structure Surroundings where
  /-- The seconds that the check of the files takes. -/
  elapsed : Double
  /-- The time to put on pages. -/
  time : Text
  /-- The full name of the folder where relative paths begin. -/
  folder : Text
  /-- Why no page can be opened, if so. -/
  browserTrouble : Option Text
  /-- The session for new ids. -/
  session : Text

/-- What a run has done so far. -/
structure Trace where
  disk : Disk
  lines : List Text
  notices : List Notice
  opened : List Text

def Trace.start (d : Disk) : Trace := ⟨d, [], [], []⟩

/-- Why a command fails: for a reason that the user is told, or by an integer beyond all doubles. -/
inductive Failure where
  | refused (reason : Text)
  | hugeInteger
  deriving DecidableEq, Repr

abbrev Act (α : Type) := ExceptT Failure (StateM Trace) α

namespace Act

def disk : Act Disk := do
  return (← get).disk

def tell (n : Notice) : Act Unit :=
  modify fun t => { t with notices := t.notices ++ [n] }

def tellAll (ns : List Notice) : Act Unit :=
  modify fun t => { t with notices := t.notices ++ ns }

def printLine (line : Text) : Act Unit :=
  modify fun t => { t with lines := t.lines ++ [line] }

def printLines (lines : List Text) : Act Unit :=
  modify fun t => { t with lines := t.lines ++ lines }

/-- Notes that a page is opened. -/
def openPage (address : Text) : Act Unit :=
  modify fun t => { t with opened := t.opened ++ [address] }

def refuse {α : Type} (reason : Text) : Act α :=
  throw (.refused reason)

/-- The value, or a refusal for the reason that the error gives. -/
def orRefuse {ε α : Type} (message : ε → Text) : Except ε α → Act α
  | .ok v => return v
  | .error e => refuse (message e)

/-- Writes bytes to a file, in a folder that has to be there. -/
def writeBytes (path : Text) (content : Encoding.Bytes) : Act Unit := do
  let d ← disk
  let written ← orRefuse Disk.Error.message (d.write path content)
  modify fun t => { t with disk := written }

/-- Writes a text to a file, in a folder that has to be there. -/
def writeFile (path content : Text) : Act Unit :=
  writeBytes path (Encoding.encode content)

/-- Makes the folder of a file. -/
def ensureFolderOf (path : Text) : Act Unit := do
  let folder := Path.folderOf path
  let d ← disk
  let attempt := d.ensureFolder (if folder.isEmpty then Path.here else folder)
  modify fun t => { t with disk := attempt.disk }
  match attempt.trouble with
  | none => return ()
  | some e => refuse e.message

/-- Writes a text to a file and makes its folder before. -/
def saveFile (path content : Text) : Act Unit := do
  ensureFolderOf path
  writeFile path content

/-- Saves the parts of a text in a file and makes its folder before. What is saved before there is trouble stays. -/
def saveParts {σ : Type} [Glyph σ] (path : Text) (parts : List (Except Json.AccessError (List σ))) : Act Unit := do
  ensureFolderOf path
  writeBytes path (Saved.ofParts parts).content
  match (Saved.ofParts parts).trouble with
  | none => return ()
  | some e => refuse e.message

end Act

end Dockgraph.CommandLine
