import Dockgraph.Pattern.Reader
import Dockgraph.Pattern.Search
import Dockgraph.Text.Quoted

/-! Search engines. A check takes its engine as it is: what can be read as a pattern, where a pattern is found, and what
goes wrong are the engine's to say. -/

namespace Dockgraph.Pattern

/-- A search engine for patterns over `σ`, whose failures are of type `ε`. -/
structure Engine (σ ε : Type) where
  /-- Reads a pattern, by which texts can then be searched. -/
  read : List σ → Except ε (Text → Bool)
  /-- Whether a failure is about the form of the pattern. -/
  isMalformed : ε → Bool
  /-- The failure at an integer with more digits than may be written, which is none of a pattern. -/
  longInteger : ε

/-- The characters that do not stand for themselves in a pattern, or may not. -/
def specials : Text := "()[]\x7b\x7d?*+-|^$\\.&~# \t\n\r\x0b\x0c".toList

section
variable {σ ε : Type} [Glyph σ]

def isSpecial (g : σ) : Bool :=
  match Glyph.point g with
  | .char c => specials.contains c
  | .half _ => false

/-- The pattern that stands for a text as it is. -/
def escaped (s : List σ) : List σ :=
  s.flatMap fun g => if isSpecial g then [Glyph.ofChar '\\', g] else [g]

/-- Reads a user's pattern; a malformed one stands for itself. -/
def Engine.search (E : Engine σ ε) (s : List σ) : Except ε (Text → Bool) :=
  match E.read s with
  | .ok found => .ok found
  | .error fault => if E.isMalformed fault then E.read (escaped s) else .error fault

end

/-- The engine of this library, for given names of characters. -/
def engine (charNamed : Text → Option Char) : Engine Char Fault where
  read s := (ofText charNamed s).map occursIn
  isMalformed fault := fault == .malformed
  longInteger := .longInteger

/-- A pattern with its halves written by their codes; a backslash before a half says nothing more. -/
def spelled : List CodePoint → Text
  | [] => []
  | .char '\\' :: .char c :: s => '\\' :: c :: spelled s
  | .char '\\' :: .half n :: s => Text.escapeCode (CodePoint.half n).toNat ++ spelled s
  | .char c :: s => c :: spelled s
  | .half n :: s => Text.escapeCode (CodePoint.half n).toNat ++ spelled s

/-- The same engine for patterns of code points. -/
def pointEngine (charNamed : Text → Option Char) : Engine CodePoint Fault :=
  { engine charNamed with read := fun s => (engine charNamed).read (spelled s) }

/-- Glyphs whose patterns this library reads itself. It knows no names of characters. -/
class Searched (σ : Type) where
  engine : Engine σ Fault

instance : Searched Char := ⟨engine fun _ => none⟩

instance : Searched CodePoint := ⟨pointEngine fun _ => none⟩

end Dockgraph.Pattern
