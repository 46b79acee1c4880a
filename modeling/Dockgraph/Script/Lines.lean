import Dockgraph.Text.Blank
import Dockgraph.Text.Case

/-! The lines of a Dockerfile: those that say something, and the logical lines that continuations join. -/

namespace Dockgraph.Script

/-- Whether a trimmed line says something: it is neither empty nor a comment. -/
def isSignificant (line : Text) : Bool :=
  !line.isEmpty && line.head? != some '#'

/-- The trimmed lines that say something. -/
def significantLines (content : Text) : List Text :=
  ((Text.lines content).map Text.trim).filter isSignificant

/-- Whether the next line continues this one. -/
def continues (line : Text) : Bool :=
  line.getLast? == some '\\'

/-- Joins each line that ends in a backslash to the next one, a space for the backslash, after what is
pending from before. What is pending at the end stands as a line of its own. -/
def joinContinued (pending : Text) : List Text → List Text
  | [] => if pending.isEmpty then [] else [pending]
  | line :: rest =>
    if continues line then joinContinued (pending ++ line.dropLast ++ [' ']) rest
    else (pending ++ line) :: joinContinued [] rest

def logicalLines (content : Text) : List Text :=
  joinContinued [] (significantLines content)

/-- The first word in upper case and the arguments, where there are any. -/
def splitInstruction (line : Text) : Option (Text × Text) :=
  let arguments := Text.trim (Text.afterFirstWord line)
  if arguments.isEmpty then none else some (Text.upper (Text.firstWord line), arguments)

end Dockgraph.Script
