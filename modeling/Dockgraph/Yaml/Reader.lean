import Dockgraph.Yaml.Scalar

/-! Documents in a part of YAML: lists and mappings in blocks or in brackets, plain and quoted scalars, and
comments. What is outside of that part is refused. -/

namespace Dockgraph.Yaml

def isSpace (c : Char) : Bool :=
  c == ' ' || c == '\t' || c == '\n' || c == '\r'

/-- Drops white space and comments. -/
def skip (comment : Bool) : Text → Text
  | [] => []
  | c :: s =>
    if comment then skip (c != '\n') s
    else if isSpace c then skip false s
    else if c = '#' then skip true s
    else c :: s

/-- The rest of a text in single quotes, where a doubled quote stands for one. -/
def singleQuoted : Text → Option (Text × Text)
  | [] => none
  | '\'' :: '\'' :: s => (singleQuoted s).map fun r => ('\'' :: r.1, r.2)
  | '\'' :: s => some ([], s)
  | c :: s => (singleQuoted s).map fun r => (c :: r.1, r.2)

def escaped? : Char → Option Char
  | '0' => some '\x00'
  | 'a' => some '\x07'
  | 'v' => some '\x0b'
  | 'e' => some '\x1b'
  | ' ' => some ' '
  | c => Json.shortEscape? c

/-- The rest of a text in double quotes, with escapes. -/
def doubleQuoted : Nat → Text → Option (Text × Text)
  | 0, _ => none
  | _ + 1, [] => none
  | _ + 1, '"' :: s => some ([], s)
  | fuel + 1, '\\' :: 'u' :: s =>
    match Json.unitEscaped s with
    | .error _ => none
    | .ok (c, s) => (doubleQuoted fuel s).map fun r => (c :: r.1, r.2)
  | fuel + 1, '\\' :: e :: s =>
    match escaped? e with
    | none => none
    | some c => (doubleQuoted fuel s).map fun r => (c :: r.1, r.2)
  | fuel + 1, c :: s => (doubleQuoted fuel s).map fun r => (c :: r.1, r.2)

/-- Whether a plain scalar ends here: at a comment, a colon before white space, a line break, and in
brackets at what divides them. -/
def endsPlain (inBrackets : Bool) : Text → Bool
  | [] => true
  | '\n' :: _ => true
  | ' ' :: '#' :: _ => true
  | ':' :: rest => rest.head?.all fun c => isSpace c || (inBrackets && ",[]\x7b\x7d".toList.contains c)
  | c :: _ => inBrackets && ",[]\x7b\x7d".toList.contains c

def plain (inBrackets : Bool) : Text → Text × Text
  | [] => ([], [])
  | c :: s =>
    if endsPlain inBrackets (c :: s) then ([], c :: s)
    else
      let r := plain inBrackets s
      (c :: r.1, r.2)

mutual

/-- A value, up to what divides or ends it. -/
def value : Nat → Bool → Text → Option (Json × Text)
  | 0, _, _ => none
  | fuel + 1, inBrackets, s =>
    match s with
    | '"' :: rest => (doubleQuoted (rest.length + 1) rest).map fun r => (.text r.1, r.2)
    | '\'' :: rest => (singleQuoted rest).map fun r => (.text r.1, r.2)
    | '[' :: rest => (items fuel (skip false rest)).map fun r => (.list r.1, r.2)
    | '\x7b' :: rest => (pairs fuel [] (skip false rest)).map fun r => (.object r.1, r.2)
    | s =>
      let r := plain inBrackets s
      some (plainValue (Text.trimBy isSpace r.1), r.2)

/-- The items up to the closing bracket; a comma may stand before it. -/
def items : Nat → Text → Option (List Json × Text)
  | 0, _ => none
  | _ + 1, ']' :: rest => some ([], rest)
  | fuel + 1, s =>
    match value fuel true s with
    | none => none
    | some (v, rest) =>
      match skip false rest with
      | ',' :: rest => (items fuel (skip false rest)).map fun r => (v :: r.1, r.2)
      | ']' :: rest => some ([v], rest)
      | _ => none

/-- The pairs up to the closing brace, added to those before. -/
def pairs : Nat → List (Text × Json) → Text → Option (List (Text × Json) × Text)
  | 0, _, _ => none
  | _ + 1, fields, '\x7d' :: rest => some (fields, rest)
  | fuel + 1, fields, s =>
    match value fuel true s with
    | some (.text name, rest) =>
      match skip false rest with
      | ':' :: rest =>
        match value fuel true (skip false rest) with
        | none => none
        | some (v, rest) =>
          let fields := Json.setField name v fields
          match skip false rest with
          | ',' :: rest => pairs fuel fields (skip false rest)
          | '\x7d' :: rest => some (fields, rest)
          | _ => none
      | _ => none
    | _ => none

end

/-- A line by the column at which it begins. -/
structure Line where
  column : Nat
  text : Text

/-- The lines that hold something. -/
def blockLines (s : Text) : List Line :=
  ((Text.lines s).map fun l =>
    (⟨(l.takeWhile (· == ' ')).length, Text.trimBy isSpace l⟩ : Line)).filter fun l =>
      !l.text.isEmpty && l.text.head? != some '#'

/-- The value that a text holds on its own. -/
def inlineValue (s : Text) : Option Json :=
  match value (2 * s.length + 2) false s with
  | some (v, rest) => if (skip false rest).isEmpty then some v else none
  | none => none

/-- The item of a dash, and the column at which it begins. -/
def dashed? (l : Line) : Option Line :=
  match l.text with
  | ['-'] => some ⟨l.column + 1, []⟩
  | '-' :: ' ' :: rest =>
    some ⟨l.column + 2 + (rest.takeWhile (· == ' ')).length, rest.dropWhile (· == ' ')⟩
  | _ => none

/-- The name before a colon and the text after it. -/
def keyed? (l : Line) : Option (Text × Text) :=
  match value (2 * l.text.length + 2) false l.text with
  | some (.text name, ':' :: rest) => some (name, Text.trimBy isSpace rest)
  | _ => none

mutual

/-- The value of the block that begins with the first line; lines after it are left. -/
def block : Nat → List Line → Option (Json × List Line)
  | 0, _ => none
  | _ + 1, [] => some (.null, [])
  | fuel + 1, l :: rest =>
    if (dashed? l).isSome then (blockItems fuel l.column (l :: rest)).map fun r => (.list r.1, r.2)
    else if (keyed? l).isSome then
      (blockPairs fuel l.column [] (l :: rest)).map fun r => (.object r.1, r.2)
    else (inlineValue l.text).map fun v => (v, rest)

/-- The items with a dash at the column. -/
def blockItems : Nat → Nat → List Line → Option (List Json × List Line)
  | 0, _, _ => none
  | _ + 1, _, [] => some ([], [])
  | fuel + 1, column, l :: rest =>
    if l.column ≠ column then some ([], l :: rest)
    else
      match dashed? l with
      | none => some ([], l :: rest)
      | some item =>
        let lines := if item.text.isEmpty then rest else item :: rest
        match nested fuel column lines with
        | none => none
        | some (v, rest) => (blockItems fuel column rest).map fun r => (v :: r.1, r.2)

/-- The pairs whose names begin at the column, added to those before. -/
def blockPairs : Nat → Nat → List (Text × Json) → List Line →
    Option (List (Text × Json) × List Line)
  | 0, _, _, _ => none
  | _ + 1, _, fields, [] => some (fields, [])
  | fuel + 1, column, fields, l :: rest =>
    if l.column ≠ column then some (fields, l :: rest)
    else
      match keyed? l with
      | none => some (fields, l :: rest)
      | some (name, inline) =>
        if inline.isEmpty || inline.head? = some '#' then
          let sameColumn := rest.head?.any fun n => n.column == column && (dashed? n).isSome
          match if sameColumn then block fuel rest else nested fuel column rest with
          | none => none
          | some (v, rest) => blockPairs fuel column (Json.setField name v fields) rest
        else
          match inlineValue inline with
          | none => none
          | some v => blockPairs fuel column (Json.setField name v fields) rest

/-- The block that is further in than the column, or null where there is none. -/
def nested : Nat → Nat → List Line → Option (Json × List Line)
  | 0, _, _ => none
  | _ + 1, _, [] => some (.null, [])
  | fuel + 1, column, l :: rest =>
    if column < l.column then block fuel (l :: rest) else some (.null, l :: rest)

end

/-- The document that a text writes. -/
def read (s : Text) : Option Json :=
  match skip false s with
  | [] => some .null
  | c :: rest =>
    if c = '[' || c = '\x7b' then inlineValue (c :: rest)
    else
      match block (4 * s.length + 4) (blockLines s) with
      | some (v, []) => some v
      | _ => none

end Dockgraph.Yaml
