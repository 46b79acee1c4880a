import Dockgraph.Text.CodePoint
import Dockgraph.Text.Printable

/-! The quoted form of a text, for messages: single quotes, or double quotes where the text holds only
single ones; a backslash before the quote and the backslash; the unprintable by their code. -/

namespace Dockgraph.Text

/-- The code of what is not printable, in the shortest of the three widths. -/
def escapeCode (n : Nat) : Text :=
  if n ≤ 0xff then '\\' :: 'x' :: ofHex 2 n
  else if n ≤ 0xffff then '\\' :: 'u' :: ofHex 4 n
  else '\\' :: 'U' :: ofHex 8 n

def escapeFor (quote c : Char) : Text :=
  if c = quote || c = '\\' then ['\\', c]
  else if c = '\n' then ['\\', 'n']
  else if c = '\r' then ['\\', 'r']
  else if c = '\t' then ['\\', 't']
  else if isPrintable c then [c]
  else escapeCode c.toNat

/-- The quotation mark that a text is shown in. -/
def quoteMark (s : Text) : Char :=
  if s.contains '\'' && !s.contains '"' then '"' else '\''

def quoted (s : Text) : Text :=
  let quote := quoteMark s
  quote :: s.flatMap (escapeFor quote) ++ [quote]

end Dockgraph.Text

namespace Dockgraph

def CodePoint.escapeFor (quote : Char) : CodePoint → Text
  | .char c => Text.escapeFor quote c
  | .half n => Text.escapeCode (CodePoint.half n).toNat

/-- The quoted form of a text that may hold halves, which are never printable. -/
def Glyph.quoted {σ : Type} [Glyph σ] (s : List σ) : Text :=
  let quote := Text.quoteMark (toText s)
  quote :: s.flatMap (fun g => (point g).escapeFor quote) ++ [quote]

end Dockgraph
