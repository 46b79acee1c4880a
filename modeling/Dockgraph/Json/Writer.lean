import Dockgraph.Json.Value

/-! Documents as text, in ASCII: on one line, or with each item and field on a line of its own. -/

namespace Dockgraph.Json

/-- A code unit as an escape of four hexadecimal digits. -/
def unitEscape (n : Nat) : Text :=
  '\\' :: 'u' :: Text.ofHex 4 n

/-- A character in a text literal. What is not printable ASCII is written by its code, in two halves
beyond sixteen bits. -/
def escapeChar (c : Char) : Text :=
  if c = '"' then ['\\', '"']
  else if c = '\\' then ['\\', '\\']
  else if c = '\n' then ['\\', 'n']
  else if c = '\r' then ['\\', 'r']
  else if c = '\t' then ['\\', 't']
  else if c = '\x08' then ['\\', 'b']
  else if c = '\x0c' then ['\\', 'f']
  else if ' ' ≤ c && c ≤ '~' then [c]
  else if c.toNat < 0x10000 then unitEscape c.toNat
  else
    let n := c.toNat - 0x10000
    unitEscape (0xd800 + n / 0x400) ++ unitEscape (0xdc00 + n % 0x400)

/-- A glyph in a text literal; a half is written by its code. -/
def escapePoint : CodePoint → Text
  | .char c => escapeChar c
  | .half n => unitEscape (CodePoint.half n).toNat

variable {σ : Type} [Glyph σ]

def writeText (s : List σ) : Text :=
  '"' :: s.flatMap (fun g => escapePoint (Glyph.point g)) ++ ['"']

theorem writeText_char (s : Text) : writeText s = '"' :: s.flatMap escapeChar ++ ['"'] := rfl

def writeDouble : Double → Text :=
  Double.toTextWith "Infinity".toList "NaN".toList

/-- A value that is neither list nor object. -/
def writeScalar : Json σ → Text
  | .null => "null".toList
  | .bool b => if b then "true".toList else "false".toList
  | .int i => Text.ofInt i
  | .float x => writeDouble x
  | .text s => writeText s
  | .list _ => []
  | .object _ => []

mutual

/-- The document on one line, a blank after each comma and colon. -/
def compact : Json σ → Text
  | .list items => '[' :: compactItems items ++ [']']
  | .object fields => '\x7b' :: compactFields fields ++ ['\x7d']
  | .null => writeScalar (.null : Json σ)
  | .bool b => writeScalar (.bool b : Json σ)
  | .int i => writeScalar (.int i : Json σ)
  | .float x => writeScalar (.float x : Json σ)
  | .text s => writeScalar (.text s)

def compactItems : List (Json σ) → Text
  | [] => []
  | [v] => compact v
  | v :: w :: rest => compact v ++ ", ".toList ++ compactItems (w :: rest)

def compactFields : List (List σ × Json σ) → Text
  | [] => []
  | [(name, v)] => writeText name ++ ": ".toList ++ compact v
  | (name, v) :: f :: rest =>
    writeText name ++ ": ".toList ++ compact v ++ ", ".toList ++ compactFields (f :: rest)

end

/-- A line break and two spaces for each level. -/
def newline (level : Nat) : Text :=
  '\n' :: List.replicate (2 * level) ' '

mutual

/-- The document in lines, at a level of indentation; an empty list or object stays on its line. -/
def indented (level : Nat) : Json σ → Text
  | .list [] => ['[', ']']
  | .list (v :: rest) =>
    '[' :: newline (level + 1) ++ indentedItems (level + 1) (v :: rest) ++ newline level ++ [']']
  | .object [] => ['\x7b', '\x7d']
  | .object (f :: rest) =>
    '\x7b' :: newline (level + 1) ++ indentedFields (level + 1) (f :: rest) ++ newline level
      ++ ['\x7d']
  | .null => writeScalar (.null : Json σ)
  | .bool b => writeScalar (.bool b : Json σ)
  | .int i => writeScalar (.int i : Json σ)
  | .float x => writeScalar (.float x : Json σ)
  | .text s => writeScalar (.text s)

def indentedItems (level : Nat) : List (Json σ) → Text
  | [] => []
  | [v] => indented level v
  | v :: w :: rest => indented level v ++ ',' :: newline level ++ indentedItems level (w :: rest)

def indentedFields (level : Nat) : List (List σ × Json σ) → Text
  | [] => []
  | [(name, v)] => writeText name ++ ": ".toList ++ indented level v
  | (name, v) :: f :: rest =>
    writeText name ++ ": ".toList ++ indented level v ++ ',' :: newline level
      ++ indentedFields level (f :: rest)

end

end Dockgraph.Json
