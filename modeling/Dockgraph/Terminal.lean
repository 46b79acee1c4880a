import Dockgraph.Text.Alphanumeric
import Dockgraph.Text.Basic

/-! Text for a terminal: colours, and lines as they go out to a terminal or to anything else, which gets
no control sequences. -/

namespace Dockgraph.Terminal

inductive Colour where
  | red
  | green
  | yellow
  | magenta
  | cyan
  deriving DecidableEq, Repr

/-- A control sequence with numeric parameters and a final letter. -/
def sequence (parameters : String) (final : Char) : Text :=
  '\x1b' :: '[' :: parameters.toList ++ [final]

def Colour.on : Colour → Text
  | .red => sequence "31" 'm'
  | .green => sequence "32" 'm'
  | .yellow => sequence "33" 'm'
  | .magenta => sequence "35" 'm'
  | .cyan => sequence "36" 'm'

/-- Back to how the terminal writes by itself. -/
def reset : Text := sequence "0" 'm'

def painted (colour : Colour) (s : Text) : Text :=
  colour.on ++ s ++ reset

/-- A digit of any script or the semicolon between parameters. -/
def isParameter (c : Char) : Bool :=
  c == ';' || Text.isDecimalDigit c

/-- Drops a given character where it comes first. -/
def skip (c : Char) : Text → Text
  | [] => []
  | d :: s => if d = c then s else d :: s

/-- What follows a control sequence at the beginning. The sequence may stand between the marks of what
takes no width. -/
def afterSequence? (s : Text) : Option Text :=
  match skip '\x01' s with
  | '\x1b' :: '[' :: rest =>
    match rest.dropWhile isParameter with
    | [] => none
    | final :: rest => if final.isAlpha then some (skip '\x02' rest) else none
  | _ => none

/-- The text without control sequences, from the end of one that still covers `covered` characters. -/
def plainFrom (covered : Nat) : Text → Text
  | [] => []
  | c :: s =>
    match covered with
    | n + 1 => plainFrom n s
    | 0 =>
      match afterSequence? (c :: s) with
      | some rest => plainFrom (s.length - rest.length) s
      | none => c :: plainFrom 0 s

def plain (s : Text) : Text :=
  plainFrom 0 s

/-- A line as it goes out. On a terminal each piece, the line's end among them, is followed by a reset. -/
def shown (onTerminal : Bool) (line : Text) : Text :=
  if onTerminal then line ++ reset ++ '\n' :: reset else plain line ++ ['\n']

end Dockgraph.Terminal
