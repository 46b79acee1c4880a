import Dockgraph.File.Disk
import Dockgraph.Text.Case

/-! The Dockerfiles that a path stands for: the file itself, whatever its name, or all Dockerfiles below a
folder. -/

namespace Dockgraph

/-- Whether a file is a Dockerfile by its name. -/
def isDockerfileName (name : Text) : Bool :=
  "Dockerfile".toList.isPrefixOf name || ".dockerfile".toList.isSuffixOf (Text.lower name)

namespace FileTree

mutual

/-- The paths of the Dockerfiles below the folder of a given path. -/
def dockerfiles (path : Text) : List (Text × FileTree) → List Text
  | [] => []
  | (name, t) :: rest => dockerfilesAt path name t ++ dockerfiles path rest

def dockerfilesAt (path name : Text) : FileTree → List Text
  | .file _ => if isDockerfileName name then [Path.join path name] else []
  | .folder entries => dockerfiles (Path.join path name) entries

end

end FileTree

namespace Disk

/-- The Dockerfiles of a path, in order; none where nothing is there. -/
def collect (d : Disk) (path : Text) : List Text :=
  match d.lookup path with
  | .ok (.file _) => [path]
  | .ok (.folder entries) => (FileTree.dockerfiles path entries).mergeSort Text.precedesOrEq
  | .error _ => []

end Disk

end Dockgraph
