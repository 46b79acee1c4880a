import Dockgraph.Number.Double
import Dockgraph.Text.Alphanumeric
import Dockgraph.Text.Blank

/-! Numbers read from texts written by people: decimal digits of any script, single low lines between
digits, blanks at the edges, and the words for infinity and for no number. -/

namespace Dockgraph.Numeral

/-- A run of digits with single low lines between them, and the rest; `none` where a low line has
no digit after it. -/
def digitRun : Text → Option (List Nat × Text)
  | [] => some ([], [])
  | '_' :: c :: s =>
    match Text.digitValue? c with
    | some _ =>
      match digitRun (c :: s) with
      | some r => some r
      | none => none
    | none => none
  | c :: s =>
    match Text.digitValue? c with
    | some d =>
      match digitRun s with
      | some (ds, rest) => some (d :: ds, rest)
      | none => none
    | none => if c = '_' then none else some ([], c :: s)

/-- A run that does not begin with a low line. -/
def digits (s : Text) : Option (List Nat × Text) :=
  match s with
  | '_' :: _ => none
  | s => digitRun s

def sign : Text → Bool × Text
  | '-' :: s => (true, s)
  | '+' :: s => (false, s)
  | s => (false, s)

/-- The power of ten that an exponent part stands for: nothing, or a mark and at least one digit. -/
def exponent : Text → Option Int
  | [] => some 0
  | c :: s =>
    if c = 'e' || c = 'E' then
      let (negative, s) := sign s
      match digits s with
      | some (d :: ds, []) =>
        let n : Int := Text.valueOf 10 (d :: ds)
        some (if negative then -n else n)
      | _ => none
    else none

/-- An unsigned decimal: digits, a point with digits, an exponent; at least one digit in all. -/
def unsigned (negative : Bool) (s : Text) : Option Double :=
  match digits s with
  | none => none
  | some (whole, '.' :: s) =>
    match digits s with
    | none => none
    | some (part, s) =>
      if whole.isEmpty && part.isEmpty then none
      else (exponent s).map fun e =>
        Double.ofDecimal negative (Text.valueOf 10 (whole ++ part)) (e - part.length)
  | some (whole, s) =>
    if whole.isEmpty then none
    else (exponent s).map fun e => Double.ofDecimal negative (Text.valueOf 10 whole) e

/-- The blanks that may surround a number: all but the information separators. -/
def isMargin (c : Char) : Bool :=
  Text.isBlank c && !(28 ≤ c.toNat && c.toNat ≤ 31)

/-- The double that a text writes. -/
def double? (s : Text) : Option Double :=
  let (negative, s) := sign (Text.trimBy isMargin s)
  let word := s.map Char.toLower
  if word = "inf".toList || word = "infinity".toList then some (.infinite negative)
  else if word = "nan".toList then some .nan
  else unsigned negative s

/-- The greatest number of digits of an integer. -/
def maxDigits : Nat := 4300

/-- What is said of a numeral that is too long to be read. -/
def tooLongToRead (digits : Nat) : Text :=
  "Exceeds the limit (4300 digits) for integer string conversion: value has ".toList ++ Text.ofNat digits
    ++ " digits; use sys.set_int_max_str_digits() to increase the limit".toList

/-- What is said of an integer whose numeral is too long to be written. -/
def tooLongToWrite : Text :=
  "Exceeds the limit (4300 digits) for integer string conversion; use sys.set_int_max_str_digits() to increase the limit".toList

/-- Whether a text writes an integer. -/
def isInteger (s : Text) : Bool :=
  match digits (sign (Text.trimBy isMargin s)).2 with
  | some (d :: ds, []) => (d :: ds).length ≤ maxDigits
  | _ => false

end Dockgraph.Numeral
