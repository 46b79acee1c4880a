import Dockgraph.Text.Alphanumeric
import Dockgraph.Text.Blank
import Dockgraph.Text.Fold

/-! Search patterns, and the number of characters that a pattern can span. -/

namespace Dockgraph

namespace Pattern

/-- What a part of a pattern takes into account; a pattern may change it for all of itself or for one
of its groups. -/
structure Mode where
  ignoreCase : Bool := false
  ascii : Bool := false
  dotAll : Bool := false
  multiline : Bool := false
  verbose : Bool := false
  deriving DecidableEq, Repr

/-- Classes of characters that have a name. -/
inductive Category where
  | digit
  | space
  | word
  deriving DecidableEq, Repr

/-- What a class in brackets lists; code points rather than characters, so that no code is left out. -/
inductive ClassItem where
  | code (n : Nat)
  | range (lo hi : Nat)
  | category (kind : Category) (negated : Bool)
  deriving DecidableEq, Repr

/-- Places that a pattern may ask for. -/
inductive Edge where
  | textStart
  | textEnd
  | lastLineEnd
  | lineStart
  | lineEnd
  | wordEdge (ascii : Bool)
  | noWordEdge (ascii : Bool)
  deriving DecidableEq, Repr

/-- How a repetition chooses its count: the most first, the least first, or the most alone. -/
inductive Appetite where
  | greedy
  | lazy
  | possessive
  deriving DecidableEq, Repr

def Category.admits (ascii : Bool) (c : Char) : Category → Bool
  | .digit => if ascii then '0' ≤ c && c ≤ '9' else Text.isDecimalDigit c
  | .space => if ascii then c == ' ' || ('\t' ≤ c && c ≤ '\r') else Text.isBlank c
  | .word => (!ascii || c.toNat < 128) && Text.isWordChar c

/-- The lower case that a mode compares by. -/
def Mode.lower (mode : Mode) (c : Char) : Char :=
  if mode.ascii then c.toLower else Text.lowerOne c

/-- The lower case forms that stand for a character in a mode. -/
def Mode.forms (mode : Mode) (c : Char) : List Char :=
  if mode.ascii then [c.toLower] else Text.foldForms c

/-- The characters whose lower case in a mode is `c`. -/
def Mode.sources (mode : Mode) (c : Char) : List Char :=
  if mode.ascii then [c, c.toUpper] else Text.lowerSources c

/-- Whether a character is the one of the given code, up to case if the mode ignores case. -/
def Mode.sameCode (mode : Mode) (n : Nat) (c : Char) : Bool :=
  if !mode.ignoreCase then c.toNat == n
  else if n.isValidChar then (mode.forms (Char.ofNat n)).contains (mode.lower c)
  else false

end Pattern

open Pattern in
/-- A pattern over texts. A sequence or choice is built of two parts; `group` keeps what it spans. -/
inductive Pattern where
  | nothing
  | code (mode : Mode) (negated : Bool) (n : Nat)
  | oneOf (mode : Mode) (negated : Bool) (items : List ClassItem)
  | any (newline : Bool)
  | edge (place : Edge)
  | seq (first second : Pattern)
  | choice (first second : Pattern)
  | group (index : Nat) (body : Pattern)
  | plainGroup (body : Pattern)
  | atomic (body : Pattern)
  | repeated (appetite : Appetite) (least : Nat) (most : Option Nat) (body : Pattern)
  | backreference (mode : Mode) (index : Nat) (least : Nat) (most : Option Nat)
  | look (behind negated : Bool) (body : Pattern)
  | ifGroup (index : Nat) (present absent : Pattern)
  deriving Inhabited

namespace Pattern

/-- The least and the greatest number of characters spanned; no number where there is no bound. -/
structure Width where
  least : Nat
  most : Option Nat
  deriving DecidableEq, Repr

def Width.add (a b : Width) : Width :=
  ⟨a.least + b.least, a.most.bind fun m => b.most.map (m + ·)⟩

def Width.or (a b : Width) : Width :=
  ⟨min a.least b.least, a.most.bind fun m => b.most.map (max m)⟩

/-- The width of a repetition; nothing repeated without bound is still nothing. -/
def Width.repeated (a : Width) (least : Nat) (most : Option Nat) : Width :=
  ⟨a.least * least,
   if a.most = some 0 then some 0 else a.most.bind fun m => most.map (m * ·)⟩

def width : Pattern → Width
  | .nothing => ⟨0, some 0⟩
  | .code .. => ⟨1, some 1⟩
  | .oneOf .. => ⟨1, some 1⟩
  | .any _ => ⟨1, some 1⟩
  | .edge _ => ⟨0, some 0⟩
  | .seq p q => p.width.add q.width
  | .choice p q => p.width.or q.width
  | .group _ p => p.width
  | .plainGroup p => p.width
  | .atomic p => p.width
  | .repeated _ least most p => p.width.repeated least most
  | .backreference _ _ least most => ⟨least, most⟩
  | .look .. => ⟨0, some 0⟩
  | .ifGroup _ p q => p.width.or q.width

/-- The greatest distance of a look behind. -/
def maxBehind : Nat := 4294967295

/-- Whether every look behind in the pattern is for one number of characters. -/
def looksFixed : Pattern → Bool
  | .nothing => true
  | .code .. => true
  | .oneOf .. => true
  | .any _ => true
  | .edge _ => true
  | .seq p q => p.looksFixed && q.looksFixed
  | .choice p q => p.looksFixed && q.looksFixed
  | .group _ p => p.looksFixed
  | .plainGroup p => p.looksFixed
  | .atomic p => p.looksFixed
  | .repeated _ _ _ p => p.looksFixed
  | .backreference .. => true
  | .look behind _ p =>
    (!behind || (p.width.most == some p.width.least && p.width.least ≤ maxBehind)) && p.looksFixed
  | .ifGroup _ p q => p.looksFixed && q.looksFixed

def ofList : List Pattern → Pattern
  | [] => .nothing
  | [p] => p
  | p :: q :: rest => .seq p (ofList (q :: rest))

/-- The pattern that a text is found by as it stands, case apart. -/
def literal (s : Text) : Pattern :=
  ofList (s.map fun c => .code { ignoreCase := true } false c.toNat)

end Pattern

end Dockgraph
