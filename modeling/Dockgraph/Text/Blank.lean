import Dockgraph.Text.Basic
import Dockgraph.Text.Ranges

/-! White space, the text between its edges, and the first word of a text. -/

namespace Dockgraph.Text

/-- The white space of Unicode 14, with the four information separators. -/
def blankRanges : List (Nat × Nat) := [
  (9, 13), (28, 32), (133, 133), (160, 160), (5760, 5760), (8192, 8202), (8232, 8233), (8239, 8239),
  (8287, 8287), (12288, 12288)]

def isBlank (c : Char) : Bool :=
  inRanges c.toNat blankRanges

def trimLeft (s : Text) : Text :=
  s.dropWhile isBlank

def trim (s : Text) : Text :=
  trimBy isBlank s

/-- The characters before the first blank, leading blanks left out. -/
def firstWord (s : Text) : Text :=
  (trimLeft s).takeWhile fun c => !isBlank c

/-- What follows the first word and the blanks after it. -/
def afterFirstWord (s : Text) : Text :=
  trimLeft ((trimLeft s).dropWhile fun c => !isBlank c)

theorem isBlank_newline : isBlank '\n' = true := by decide

theorem isBlank_space : isBlank ' ' = true := by decide

end Dockgraph.Text
