import Dockgraph.Json.Reader

/-! Plain scalars: which of them are null, a boolean or a number rather than text. -/

namespace Dockgraph.Yaml

def nullWords : List Text := ["", "~", "null", "Null", "NULL"]

def trueWords : List Text := [
  "yes", "Yes", "YES", "true", "True", "TRUE", "on", "On", "ON"]

def falseWords : List Text := [
  "no", "No", "NO", "false", "False", "FALSE", "off", "Off", "OFF"]

def isDigitOrLow (c : Char) : Bool :=
  Json.isDigit c || c == '_'

def dropLows (s : Text) : Text :=
  s.filter (· != '_')

def signed (negative : Bool) (n : Nat) : Json :=
  .int (if negative then -(n : Int) else n)

/-- The digits of a number in a base, low lines apart. -/
def based? (base : Nat) (s : Text) : Option Nat :=
  if !s.isEmpty && (dropLows s).all fun c => (Text.digitIn? base c).isSome then
    some (Text.valueOf base (s.filterMap (Text.digitIn? base)))
  else none

/-- An integer: decimal without a leading zero, or octal, hexadecimal or binary after `0`, `0x`, `0b`. -/
def integer? (negative : Bool) (s : Text) : Option Json :=
  match s with
  | ['0'] => some (signed negative 0)
  | '0' :: 'x' :: rest => (based? 16 rest).map (signed negative)
  | '0' :: 'b' :: rest => (based? 2 rest).map (signed negative)
  | '0' :: rest => (based? 8 rest).map (signed negative)
  | c :: _ => if Json.isDigit c then (based? 10 s).map (signed negative) else none
  | [] => none

/-- The power of ten after the digits of a decimal: none, or a mark, a sign and digits. -/
def power? : Text → Option Int
  | [] => some 0
  | e :: sign :: digits =>
    if (e = 'e' || e = 'E') && (sign = '+' || sign = '-') && !digits.isEmpty
        && digits.all Json.isDigit then
      let n : Int := Json.digitsValue digits
      some (if sign = '-' then -n else n)
    else none
  | _ => none

/-- A decimal has a point, and a digit before or after it. -/
def decimal? (negative : Bool) (s : Text) : Option Json :=
  let whole := s.takeWhile isDigitOrLow
  match s.dropWhile isDigitOrLow with
  | '.' :: rest =>
    let part := rest.takeWhile isDigitOrLow
    if whole.head? = some '_' || (whole.isEmpty && !(part.head?.any Json.isDigit)) then none
    else
      (power? (rest.dropWhile isDigitOrLow)).map fun e =>
        .float (Double.ofDecimal negative (Json.digitsValue (dropLows (whole ++ part)))
          (e - (dropLows part).length))
  | _ => none

def unbounded? (negative : Bool) (s : Text) : Option Json :=
  if [".inf", ".Inf", ".INF"].any (·.toList == s) then some (.float (.infinite negative)) else none

def number? (s : Text) : Option Json :=
  let (negative, digits) :=
    match s with
    | '-' :: rest => (true, rest)
    | '+' :: rest => (false, rest)
    | rest => (false, rest)
  (integer? negative digits).or ((decimal? negative digits).or (unbounded? negative digits))

/-- The value of a plain scalar. -/
def plainValue (s : Text) : Json :=
  if nullWords.contains s then .null
  else if trueWords.contains s then .bool true
  else if falseWords.contains s then .bool false
  else if [".nan", ".NaN", ".NAN"].any (·.toList == s) then .float .nan
  else (number? s).getD (.text s)

end Dockgraph.Yaml
