import Dockgraph.Text.Basic

/-! What a run tells its user besides its result. -/

namespace Dockgraph

inductive Level where
  | debug
  | info
  | warning
  | error
  deriving DecidableEq, Repr

def Level.name : Level → Text
  | .debug => "DEBUG"
  | .info => "INFO"
  | .warning => "WARNING"
  | .error => "ERROR"

/-- Who speaks: the command line, or the operations that it uses. -/
inductive Speaker where
  | command
  | operation
  deriving DecidableEq, Repr

structure Notice where
  speaker : Speaker
  level : Level
  message : Text
  deriving DecidableEq, Repr

namespace Notice

def operation (level : Level) (message : Text) : Notice :=
  ⟨.operation, level, message⟩

def command (level : Level) (message : Text) : Notice :=
  ⟨.command, level, message⟩

/-- Whether the user sees the notice. Without `verbose` the command line tells all but details, and the
operations tell only of trouble. -/
def isShown (verbose : Bool) (n : Notice) : Bool :=
  verbose ||
    match n.speaker, n.level with
    | _, .debug => false
    | .command, _ => true
    | .operation, .info => false
    | .operation, _ => true

end Notice

end Dockgraph
