/-! Binary floating point numbers of 64 bits, as exact dyadic numbers. Every operation is done in exact
arithmetic and rounded once, to the nearest representable number, a tie to the even one. -/

namespace Dockgraph

/-- `finite` stands for `± mantissa * 2 ^ exponent`, with a mantissa below `2 ^ 53`, an exponent from
`-1074` to `971`, and the least such exponent unless the mantissa has 53 bits. -/
inductive Double where
  | finite (negative : Bool) (mantissa : Nat) (exponent : Int)
  | infinite (negative : Bool)
  | nan
  deriving DecidableEq, Repr

/-- The natural number nearest to `num / den`, a tie going to the even one. -/
def roundDiv (num den : Nat) : Nat :=
  let q := num / den
  let r := num % den
  if 2 * r < den then q
  else if den < 2 * r then q + 1
  else if q % 2 = 0 then q else q + 1

namespace Double

def zero : Double := .finite false 0 (-1074)

/-- A fraction `num / den` times `2 ^ e`, as a fraction. -/
def scaleTwo (num den : Nat) (e : Int) : Nat × Nat :=
  if 0 ≤ e then (num * Nat.pow 2 e.toNat, den) else (num, den * Nat.pow 2 (-e).toNat)

/-- The greatest `e` with `2 ^ e ≤ num / den`, for positive `num` and `den`. -/
def floorLog2 (num den : Nat) : Int :=
  let e : Int := num.log2 - den.log2
  let scaled := scaleTwo num den (-e)
  if scaled.1 < scaled.2 then e - 1 else e

/-- The double nearest to `± num / den`; from half a unit beyond the greatest double on, infinity. -/
def ofRatio (negative : Bool) (num den : Nat) : Double :=
  if num = 0 then .finite negative 0 (-1074)
  else
    let e : Int := max (floorLog2 num den - 52) (-1074)
    let scaled := scaleTwo num den (-e)
    let m := roundDiv scaled.1 scaled.2
    let (m, e) := if m = Nat.pow 2 53 then (Nat.pow 2 52, e + 1) else (m, e)
    if 971 < e then .infinite negative else .finite negative m e

/-- The absolute value of a finite double as a fraction. -/
def fraction (mantissa : Nat) (exponent : Int) : Nat × Nat :=
  scaleTwo mantissa 1 exponent

/-- The double nearest to an integer, unless the integer is beyond them all. -/
def ofInt? (i : Int) : Option Double :=
  match ofRatio (i < 0) i.natAbs 1 with
  | .infinite _ => none
  | x => some x

/-- The double nearest to `± digits * 10 ^ exponent`. An exponent far outside the range of doubles
is decided by the number of digits alone. -/
def ofDecimal (negative : Bool) (digits : Nat) (exponent : Int) : Double :=
  let magnitude : Int := (Nat.toDigits 10 digits).length + exponent
  if digits = 0 || magnitude < -400 then ofRatio negative 0 1
  else if 400 < magnitude then .infinite negative
  else if 0 ≤ exponent then ofRatio negative (digits * Nat.pow 10 exponent.toNat) 1
  else ofRatio negative digits (Nat.pow 10 (-exponent).toNat)

def isZero : Double → Bool
  | .finite _ m _ => m == 0
  | _ => false

/-- Whether the number is above zero. -/
def isPositive : Double → Bool
  | .finite negative m _ => !negative && m != 0
  | .infinite negative => !negative
  | .nan => false

/-- The signed numerator over the common denominator. -/
def signed (negative : Bool) (n : Nat) : Int :=
  if negative then -(n : Int) else n

/-- The sum; a sum of zero is positive unless both summands are negative zeros. -/
def add : Double → Double → Double
  | .finite s m e, .finite t n f =>
    let (a, b) := fraction m e
    let (c, d) := fraction n f
    let sum := signed s (a * d) + signed t (c * b)
    if sum = 0 then .finite (s && t) 0 (-1074) else ofRatio (sum < 0) sum.natAbs (b * d)
  | .infinite s, .infinite t => if s = t then .infinite s else .nan
  | .infinite s, .finite .. => .infinite s
  | .finite .., .infinite t => .infinite t
  | .nan, _ => .nan
  | _, .nan => .nan

/-- A count divided by a positive number. -/
def countOver (count : Nat) : Double → Double
  | .finite s m e =>
    let (a, b) := fraction m e
    ofRatio s (count * b) a
  | .infinite s => .finite s 0 (-1074)
  | .nan => .nan

/-- Rounds to two decimal places: the exact value decides, a tie goes to the even digit. -/
def roundHundredths : Double → Double
  | .finite s m e =>
    let (a, b) := fraction m e
    ofRatio s (roundDiv (a * 100) b) 100
  | x => x

end Double

end Dockgraph
