import Dockgraph.Text.Basic
import Dockgraph.Text.CaseTable

/-! Upper and lower case. A character may have several characters as its upper case; a capital sigma
that ends a word has the final sigma as its lower case. -/

namespace Dockgraph.Text

/-- The one character that the rows give for `c`. -/
def mapRows (rows : List CaseRow) (c : Char) : Char :=
  match rows.findSome? (·.map? c.toNat) with
  | some n => Char.ofNat n
  | none => c

def upperChar (c : Char) : Text :=
  if c.toNat < 128 then [c.toUpper]
  else
    match upperSpecial.lookup c.toNat with
    | some image => image.map Char.ofNat
    | none => [mapRows upperRows c]

def upper (s : Text) : Text :=
  s.flatMap upperChar

/-- The lower case by one character: that of the dotted capital I is the plain letter. -/
def lowerOne (c : Char) : Char :=
  if c.toNat < 128 then c.toLower
  else if c = 'İ' then 'i'
  else mapRows lowerRows c

/-- The lower case of a character on its own: the dotted capital I keeps its dot. -/
def lowerChar (c : Char) : Text :=
  if c = 'İ' then ['i', '\u0307'] else [lowerOne c]

def isCaseIgnorable (c : Char) : Bool :=
  inRanges c.toNat caseIgnorableRanges

/-- Whether the nearest character of `s` that matters to case is a letter with case. -/
def meetsCased (s : Text) : Bool :=
  match s.dropWhile isCaseIgnorable with
  | [] => false
  | c :: _ => inRanges c.toNat casedRanges

/-- The lower case of a text whose characters `before`, the nearest first, come before it. -/
def lowerAfter (before : Text) : Text → Text
  | [] => []
  | c :: s =>
    (if c = 'Σ' then [if meetsCased before && !meetsCased s then 'ς' else 'σ'] else lowerChar c)
      ++ lowerAfter (c :: before) s

def lower (s : Text) : Text :=
  lowerAfter [] s

end Dockgraph.Text
