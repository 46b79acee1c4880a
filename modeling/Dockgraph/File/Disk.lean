import Dockgraph.File.Path
import Dockgraph.File.Tree
import Dockgraph.Text.Quoted

/-! A disk: a tree, and the folder in it where relative paths begin. -/

namespace Dockgraph

open Encoding (Bytes)

structure Disk where
  root : FileTree
  /-- The names that lead to the folder where relative paths begin. -/
  here : List Text

namespace Disk

inductive Trouble where
  | notFound
  | alreadyThere
  | notFolder
  | isFolder
  deriving DecidableEq, Repr

def Trouble.number : Trouble → Nat
  | .notFound => 2
  | .alreadyThere => 17
  | .notFolder => 20
  | .isFolder => 21

def Trouble.text : Trouble → Text
  | .notFound => "No such file or directory".toList
  | .alreadyThere => "File exists".toList
  | .notFolder => "Not a directory".toList
  | .isFolder => "Is a directory".toList

structure Error where
  trouble : Trouble
  path : Text
  deriving DecidableEq, Repr

def Error.message (e : Error) : Text :=
  "[Errno ".toList ++ Text.ofNat e.trouble.number ++ "] ".toList ++ e.trouble.text ++ ": ".toList
    ++ Text.quoted e.path

/-- One segment further along a path. -/
def step (d : Disk) (names : List Text) (segment : Text) : Except Trouble (List Text) :=
  match d.root.at? names with
  | none => .error .notFound
  | some (.file _) => .error .notFolder
  | some (.folder entries) =>
    if segment.isEmpty || segment = Path.here then .ok names
    else if segment = Path.parent then .ok names.dropLast
    else if (entries.lookup segment).isSome then .ok (names ++ [segment])
    else .error .notFound

/-- Where the segments lead. -/
def walk (d : Disk) (names : List Text) (segments : List Text) : Except Trouble (List Text) :=
  segments.foldlM d.step names

/-- Where a path begins. -/
def startOf (d : Disk) (path : Text) : List Text :=
  if path.head? = some '/' then [] else d.here

/-- The names that lead to what a path stands for. -/
def locate (d : Disk) (path : Text) : Except Trouble (List Text) :=
  if path.isEmpty then .error .notFound else d.walk (d.startOf path) (Path.segments path)

/-- What a path stands for. -/
def lookup (d : Disk) (path : Text) : Except Trouble FileTree :=
  match d.locate path with
  | .error t => .error t
  | .ok names =>
    match d.root.at? names with
    | some t => .ok t
    | none => .error .notFound

def exists? (d : Disk) (path : Text) : Bool :=
  (d.lookup path).isOk

def isFolder (d : Disk) (path : Text) : Bool :=
  match d.lookup path with
  | .ok (.folder _) => true
  | _ => false

/-- The content of a file. -/
def read (d : Disk) (path : Text) : Except Error Bytes :=
  match d.lookup path with
  | .ok (.file content) => .ok content
  | .ok (.folder _) => .error ⟨.isFolder, path⟩
  | .error t => .error ⟨t, path⟩

/-- The folder that a path is to be made in. -/
def locateFolderOf (d : Disk) (path : Text) : Except Trouble (List Text) :=
  d.walk (d.startOf path) (Path.segments path).dropLast

/-- The disk with something new at the end of a row of names. -/
def put (d : Disk) (names : List Text) (t : FileTree) : Disk :=
  { d with root := FileTree.put t names d.root }

/-- Writes a file, in a folder that has to be there. -/
def write (d : Disk) (path : Text) (content : Bytes) : Except Error Disk :=
  match d.lookup path with
  | .ok (.folder _) => .error ⟨.isFolder, path⟩
  | .ok (.file _) =>
    match d.locate path with
    | .ok names => .ok (d.put names (.file content))
    | .error t => .error ⟨t, path⟩
  | .error .notFound =>
    if path.isEmpty then .error ⟨.notFound, path⟩
    else
      match d.locateFolderOf (Path.dropSlashes path) with
      | .error t => .error ⟨t, path⟩
      | .ok names =>
        if path.getLast? = some '/' then .error ⟨.isFolder, path⟩
        else .ok (d.put (names ++ [Path.baseName path]) (.file content))
  | .error t => .error ⟨t, path⟩

/-- Makes a folder, in a folder that has to be there. -/
def makeFolder (d : Disk) (path : Text) : Except Error Disk :=
  match d.lookup path with
  | .ok _ => .error ⟨.alreadyThere, path⟩
  | .error .notFound =>
    if path.isEmpty then .error ⟨.notFound, path⟩
    else
      let path' := Path.dropSlashes path
      match d.locateFolderOf path' with
      | .error t => .error ⟨t, path⟩
      | .ok names => .ok (d.put (names ++ [Path.baseName path']) (.folder []))
  | .error t => .error ⟨t, path⟩

/-- The disk after an attempt, and what went wrong if anything did. -/
structure Attempt where
  disk : Disk
  trouble : Option Error

/-- Makes a folder unless it is there. -/
def makeUnlessThere (d : Disk) (path : Text) : Attempt :=
  match d.makeFolder path with
  | .ok made => ⟨made, none⟩
  | .error e => ⟨d, if d.isFolder path then none else some e⟩

/-- Makes a folder and, before it, the folders on the way, of which there are no more than `steps`. A path
that ends in `.` is made with what stands before it. -/
def ensureIn (d : Disk) (path : Text) : Nat → Attempt
  | 0 => ⟨d, none⟩
  | steps + 1 =>
    let (folder, name) := Path.splitLast path
    if folder.isEmpty || name.isEmpty || d.exists? folder then d.makeUnlessThere path
    else
      let before := d.ensureIn folder steps
      match before.trouble with
      | some ⟨.alreadyThere, _⟩ => before.disk.makeUnlessThere path
      | some _ => before
      | none => if name = Path.here then before else before.disk.makeUnlessThere path

/-- Makes a folder with all that lead to it, where they are not there. -/
def ensureFolder (d : Disk) (path : Text) : Attempt :=
  d.ensureIn path (path.length + 1)

/-- The files that are new or have another content than they had on the disk before, each by the names that
lead to it. -/
def changesSince (d before : Disk) : List (List Text × Bytes) :=
  d.root.files.filter fun f => before.root.content? f.1 != some f.2

/-- The path from the folder where relative paths begin or, for what is not below it, from the root. -/
def pathTo (d : Disk) (names : List Text) : Text :=
  if d.here.isPrefixOf names then Text.joinWith Path.slash (names.drop d.here.length)
  else '/' :: Text.joinWith Path.slash names

end Disk

end Dockgraph
