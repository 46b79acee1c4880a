import Dockgraph.Text.Basic

/-! The names of files and folders: segments with slashes between them. -/

namespace Dockgraph.Path

def slash : Text := ['/']

/-- A name inside a folder. A name that begins with a slash stands for itself. -/
def join (folder name : Text) : Text :=
  if name.head? = some '/' then name
  else if folder.isEmpty || folder.getLast? = some '/' then folder ++ name
  else folder ++ '/' :: name

/-- What stands before and after each slash. -/
def segments : Text → List Text
  | [] => [[]]
  | c :: s =>
    if c = '/' then [] :: segments s
    else
      match segments s with
      | [] => [[c]]
      | x :: rest => (c :: x) :: rest

/-- What follows the last slash. -/
def baseName (path : Text) : Text :=
  (path.reverse.takeWhile (· != '/')).reverse

/-- Drops slashes at the end, unless there is nothing else. -/
def dropSlashes (s : Text) : Text :=
  if s.all (· == '/') then s else (s.reverse.dropWhile (· == '/')).reverse

/-- What stands before the last slash. -/
def folderOf (path : Text) : Text :=
  dropSlashes (path.reverse.dropWhile (· != '/')).reverse

/-- The last name of a path and the path before it, slashes at the end aside. -/
def splitLast (path : Text) : Text × Text :=
  if (baseName path).isEmpty then
    (folderOf (folderOf path), baseName (folderOf path))
  else (folderOf path, baseName path)

def here : Text := ['.']

def parent : Text := ['.', '.']

/-- Takes a segment into a path that is kept in reverse and without detours. -/
def takeSegment (path : List Text) (segment : Text) : List Text :=
  if segment.isEmpty || segment = here then path
  else if segment = parent then path.tail
  else segment :: path

/-- The path of something below a folder without detours, where the folder is known by its full name. -/
def absolute (folder path : Text) : Text :=
  let names := ((segments (join folder path)).foldl takeSegment []).reverse
  let body := Text.joinWith slash names
  if (join folder path).head? = some '/' then '/' :: body else body

end Dockgraph.Path
