import Dockgraph.Json.Value
import Dockgraph.Number.Numeral

/-! Reading documents. A fault is what was missing or wrong, and how many characters were left there, so
that its place is a matter of the whole text alone. -/

namespace Dockgraph.Json

inductive Fault where
  | value
  | comma
  | colon
  | name
  | openText
  | control
  | escape
  | unitEscape
  | extra
  | byteOrderMark
  deriving DecidableEq, Repr

def Fault.what : Fault → Text
  | .value => "Expecting value".toList
  | .comma => "Expecting ',' delimiter".toList
  | .colon => "Expecting ':' delimiter".toList
  | .name => "Expecting property name enclosed in double quotes".toList
  | .openText => "Unterminated string starting at".toList
  | .control => "Invalid control character at".toList
  | .escape => "Invalid \\escape".toList
  | .unitEscape => "Invalid \\uXXXX escape".toList
  | .extra => "Extra data".toList
  | .byteOrderMark => "Unexpected UTF-8 BOM (decode using utf-8-sig)".toList

inductive ReadError where
  | fault (cause : Fault) (position : Nat) (line : Nat) (column : Nat)
  | longNumeral (digits : Nat)
  deriving DecidableEq, Repr

def ReadError.message : ReadError → Text
  | .fault cause position line column =>
    cause.what ++ ": line ".toList ++ Text.ofNat line ++ " column ".toList ++ Text.ofNat column
      ++ " (char ".toList ++ Text.ofNat position ++ ")".toList
  | .longNumeral digits => Numeral.tooLongToRead digits

/-- What stops the reader: a fault with the count of characters left, or a numeral of too many digits. -/
inductive Stop where
  | at (cause : Fault) (left : Nat)
  | longNumeral (digits : Nat)

/-- Line and column, from one, of a place in a text. -/
def lineColumn (s : Text) (position : Nat) : Nat × Nat :=
  let before := s.take position
  (before.count '\n' + 1, (before.reverse.takeWhile (· != '\n')).length + 1)

def Stop.toError (s : Text) : Stop → ReadError
  | .at cause left =>
    let position := s.length - left
    let (line, column) := lineColumn s position
    .fault cause position line column
  | .longNumeral digits => .longNumeral digits

def isSpace (c : Char) : Bool :=
  c == ' ' || c == '\t' || c == '\n' || c == '\r'

def skipSpace (s : Text) : Text :=
  s.dropWhile isSpace

/-- The value of four hexadecimal digits at the head. -/
def unit? : Text → Option (Nat × Text)
  | a :: b :: c :: d :: rest =>
    match Text.digitIn? 16 a, Text.digitIn? 16 b, Text.digitIn? 16 c, Text.digitIn? 16 d with
    | some a, some b, some c, some d => some (Text.valueOf 16 [a, b, c, d], rest)
    | _, _, _, _ => none
  | _ => none

def isHighHalf (n : Nat) : Bool :=
  0xd800 ≤ n && n < 0xdc00

def isLowHalf (n : Nat) : Bool :=
  0xdc00 ≤ n && n < 0xe000

variable {σ : Type}

/-- What a code unit stands for. -/
def unitGlyph [Glyph σ] (n : Nat) : σ :=
  if h : 0xd800 ≤ n ∧ n < 0xe000 then Glyph.ofHalf ⟨n - 0xd800, by omega⟩ else Glyph.ofChar (Char.ofNat n)

/-- What a code escape stands for, given what follows `\u`. A high half joins a low half that is
escaped right after it. The text must go on after the last digit. -/
def unitEscaped [Glyph σ] (s : Text) : Except Stop (σ × Text) :=
  if s.length ≤ 4 then .error (.at .unitEscape (s.length + 1))
  else
    match unit? s with
    | none => .error (.at .unitEscape (s.length + 1))
    | some (n, rest) =>
      match isHighHalf n, rest with
      | true, '\\' :: 'u' :: more =>
        if rest.length ≤ 6 then .ok (unitGlyph n, rest)
        else
          match unit? more with
          | none => .error (.at .unitEscape (more.length + 1))
          | some (low, after) =>
            if isLowHalf low then
              .ok (Glyph.ofChar (Char.ofNat (0x10000 + (n - 0xd800) * 0x400 + (low - 0xdc00))), after)
            else .ok (unitGlyph n, rest)
      | _, _ => .ok (unitGlyph n, rest)

def shortEscape? : Char → Option Char
  | '"' => some '"'
  | '\\' => some '\\'
  | '/' => some '/'
  | 'b' => some '\x08'
  | 'f' => some '\x0c'
  | 'n' => some '\n'
  | 'r' => some '\r'
  | 't' => some '\t'
  | _ => none

/-- The rest of a text literal whose opening mark had `opened` characters left, mark included. -/
def readText [Glyph σ] (opened : Nat) : Nat → Text → Except Stop (List σ × Text)
  | 0, _ => .error (.at .openText opened)
  | _ + 1, [] => .error (.at .openText opened)
  | fuel + 1, c :: s =>
    if c = '"' then .ok ([], s)
    else if c = '\\' then
      match s with
      | [] => .error (.at .openText opened)
      | e :: s =>
        if e = 'u' then
          match unitEscaped s with
          | .error stop => .error stop
          | .ok (g, s) =>
            match readText opened fuel s with
            | .error stop => .error stop
            | .ok (t, s) => .ok (g :: t, s)
        else
          match shortEscape? e with
          | none => .error (.at .escape (s.length + 2))
          | some c =>
            match readText opened fuel s with
            | .error stop => .error stop
            | .ok (t, s) => .ok (Glyph.ofChar c :: t, s)
    else if c.toNat ≤ 0x1f then .error (.at .control (s.length + 1))
    else
      match readText opened fuel s with
      | .error stop => .error stop
      | .ok (t, s) => .ok (Glyph.ofChar c :: t, s)

def isDigit (c : Char) : Bool :=
  '0' ≤ c && c ≤ '9'

def digitsValue (s : Text) : Nat :=
  Text.valueOf 10 (s.map fun c => c.toNat - '0'.toNat)

/-- The whole part of a number: a zero, or digits of which the first is not zero. -/
def wholePart : Text → Option (Text × Text)
  | [] => none
  | c :: s =>
    if c = '0' then some (['0'], s)
    else if isDigit c then some ((c :: s).takeWhile isDigit, (c :: s).dropWhile isDigit)
    else none

/-- A point with digits after it, else nothing. -/
def fractionPart (s : Text) : Option Text × Text :=
  match s with
  | '.' :: d :: _ =>
    if isDigit d then (some ((s.drop 1).takeWhile isDigit), (s.drop 1).dropWhile isDigit)
    else (none, s)
  | _ => (none, s)

/-- An exponent mark, a sign if any, and digits; else nothing. -/
def exponentPart (s : Text) : Option Int × Text :=
  match s with
  | c :: rest =>
    if c = 'e' || c = 'E' then
      let (negative, digits) :=
        match rest with
        | '-' :: r => (true, r)
        | '+' :: r => (false, r)
        | r => (false, r)
      let ds := digits.takeWhile isDigit
      if ds.isEmpty then (none, s)
      else
        let n : Int := digitsValue ds
        (some (if negative then -n else n), digits.dropWhile isDigit)
    else (none, s)
  | [] => (none, s)

/-- A number whose sign is read: an integer unless it has a fraction or an exponent. -/
def readNumber (negative : Bool) (s : Text) : Except Stop (Option (Json σ × Text)) :=
  match wholePart s with
  | none => .ok none
  | some (whole, s) =>
    let (part, s) := fractionPart s
    let (power, s) := exponentPart s
    if part.isNone && power.isNone then
      if Numeral.maxDigits < whole.length then .error (.longNumeral whole.length)
      else
        let n : Int := digitsValue whole
        .ok (some (.int (if negative then -n else n), s))
    else
      let part := part.getD []
      .ok (some (.float (Double.ofDecimal negative (digitsValue (whole ++ part))
        (power.getD 0 - part.length)), s))

/-- What a word at the head of the text stands for. -/
def words : List (Text × Json σ) := [
  ("null".toList, .null),
  ("true".toList, .bool true),
  ("false".toList, .bool false),
  ("NaN".toList, .float .nan),
  ("Infinity".toList, .float (.infinite false)),
  ("-Infinity".toList, .float (.infinite true))]

def readWord (s : Text) : Option (Json σ × Text) :=
  (words.find? fun w => w.1.isPrefixOf s).map fun w => (w.2, s.drop w.1.length)

/-- A word or a number; the whole of it is missing where neither is there. -/
def readAtom (s : Text) : Except Stop (Json σ × Text) :=
  match readWord s with
  | some r => .ok r
  | none =>
    let (negative, t) :=
      match s with
      | '-' :: t => (true, t)
      | t => (false, t)
    match readNumber negative t with
    | .error stop => .error stop
    | .ok (some r) => .ok r
    | .ok none => .error (.at .value s.length)

variable [Glyph σ] [DecidableEq σ]

mutual

/-- A value at the head of the text. -/
def readValue : Nat → Text → Except Stop (Json σ × Text)
  | 0, s => .error (.at .value s.length)
  | fuel + 1, s =>
    match s with
    | '"' :: rest =>
      match readText s.length rest.length.succ rest with
      | .error stop => .error stop
      | .ok (t, rest) => .ok (.text t, rest)
    | '[' :: rest =>
      match skipSpace rest with
      | ']' :: rest => .ok (.list [], rest)
      | rest =>
        match readItems fuel rest with
        | .error stop => .error stop
        | .ok (items, rest) => .ok (.list items, rest)
    | '\x7b' :: rest =>
      match skipSpace rest with
      | '\x7d' :: rest => .ok (.object [], rest)
      | rest =>
        match readFields fuel [] rest with
        | .error stop => .error stop
        | .ok (fields, rest) => .ok (.object fields, rest)
    | s => readAtom s

/-- The items from here to the closing bracket. -/
def readItems : Nat → Text → Except Stop (List (Json σ) × Text)
  | 0, s => .error (.at .value s.length)
  | fuel + 1, s =>
    match readValue fuel s with
    | .error stop => .error stop
    | .ok (v, rest) =>
      match skipSpace rest with
      | ']' :: rest => .ok ([v], rest)
      | ',' :: rest =>
        match readItems fuel (skipSpace rest) with
        | .error stop => .error stop
        | .ok (vs, rest) => .ok (v :: vs, rest)
      | rest => .error (.at .comma rest.length)

/-- The fields from here to the closing brace, added to those before; the last value of a name counts,
in the place of the first. -/
def readFields : Nat → List (List σ × Json σ) → Text → Except Stop (List (List σ × Json σ) × Text)
  | 0, _, s => .error (.at .name s.length)
  | fuel + 1, fields, s =>
    match s with
    | '"' :: rest =>
      match readText s.length rest.length.succ rest with
      | .error stop => .error stop
      | .ok (name, rest) =>
        match skipSpace rest with
        | ':' :: rest =>
          match readValue fuel (skipSpace rest) with
          | .error stop => .error stop
          | .ok (v, rest) =>
            let fields := setField name v fields
            match skipSpace rest with
            | '\x7d' :: rest => .ok (fields, rest)
            | ',' :: rest => readFields fuel fields (skipSpace rest)
            | rest => .error (.at .comma rest.length)
        | rest => .error (.at .colon rest.length)
    | s => .error (.at .name s.length)

end

/-- The document that a whole text writes, up to white space around it. -/
def readDocument (s : Text) : Except Stop (Json σ) :=
  if s.head? = some '\ufeff' then .error (.at .byteOrderMark s.length)
  else
    match readValue (2 * s.length + 2) (skipSpace s) with
    | .error stop => .error stop
    | .ok (v, rest) =>
      match skipSpace rest with
      | [] => .ok v
      | rest => .error (.at .extra rest.length)

/-- The document of a text, its texts being of the given glyphs. -/
def readAs (σ : Type) [Glyph σ] [DecidableEq σ] (s : Text) : Except ReadError (Json σ) :=
  match readDocument s with
  | .ok v => .ok v
  | .error stop => .error (stop.toError s)

/-- The document of a text over characters, among which half of a pair that stands alone is none: it is read as the
replacement character. -/
def read (s : Text) : Except ReadError Json :=
  readAs Char s

end Dockgraph.Json
