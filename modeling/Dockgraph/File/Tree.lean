import Dockgraph.Text.Encoding

/-! Files and folders as a tree. -/

namespace Dockgraph

open Encoding (Bytes)

inductive FileTree where
  | file (content : Bytes)
  | folder (entries : List (Text × FileTree))

namespace FileTree

instance : Inhabited FileTree := ⟨.folder []⟩

/-- What a folder holds under a name. -/
def child? (t : FileTree) (name : Text) : Option FileTree :=
  match t with
  | .file _ => none
  | .folder entries => entries.lookup name

/-- What stands at the end of a row of names. -/
def at? (t : FileTree) : List Text → Option FileTree
  | [] => some t
  | name :: names => (t.child? name).bind (·.at? names)

/-- Puts an entry in the place of the one with its name, or at the end. -/
def setEntry (name : Text) (t : FileTree) : List (Text × FileTree) → List (Text × FileTree)
  | [] => [(name, t)]
  | (n, u) :: rest => if n = name then (n, t) :: rest else (n, u) :: setEntry name t rest

/-- Puts a tree at the end of a row of names; folders on the way are made where there are none. A file on
the way stays as it is. -/
def put (new : FileTree) : List Text → FileTree → FileTree
  | [], _ => new
  | _ :: _, .file content => .file content
  | name :: names, .folder entries =>
    .folder (setEntry name (put new names ((entries.lookup name).getD (.folder []))) entries)

mutual

/-- All files of the tree, each with its row of names after the given one. -/
def filesBelow (names : List Text) : FileTree → List (List Text × Bytes)
  | .file content => [(names, content)]
  | .folder entries => filesOfEntries names entries

def filesOfEntries (names : List Text) : List (Text × FileTree) → List (List Text × Bytes)
  | [] => []
  | (name, t) :: rest => filesBelow (names ++ [name]) t ++ filesOfEntries names rest

end

def files (t : FileTree) : List (List Text × Bytes) :=
  filesBelow [] t

/-- The content of the file at the end of a row of names. -/
def content? (t : FileTree) (names : List Text) : Option Bytes :=
  match t.at? names with
  | some (.file content) => some content
  | _ => none

end FileTree

end Dockgraph
