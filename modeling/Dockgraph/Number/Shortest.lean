import Dockgraph.Number.Double
import Dockgraph.Text.Basic

/-! The shortest decimal numeral that reads back as a given double, and how it is laid out. -/

namespace Dockgraph.Double

/-- A decimal `0.d₁d₂… * 10 ^ point` given by its digits. -/
structure Digits where
  digits : Text
  point : Int

/-- The numbers that round to `m * 2 ^ e`, as bounds in quarters of `2 ^ e`; the bounds belong to them
where the mantissa is even. -/
def roundingBounds (m : Nat) (e : Int) : Nat × Nat :=
  let lower := if m = Nat.pow 2 52 && (-1074 : Int) < e then 4 * m - 1 else 4 * m - 2
  (lower, 4 * m + 2)

/-- Whether the fraction `num / den`, in quarters of `2 ^ e`, rounds to `m * 2 ^ e`. -/
def roundsTo (m : Nat) (e : Int) (num den : Nat) : Bool :=
  let (lo, hi) := roundingBounds m e
  if m % 2 = 0 then lo * den ≤ num && num ≤ hi * den else lo * den < num && num < hi * den

/-- The exponent of ten of the leading digit of `num / den`, both positive. -/
def floorLog10 (num den : Nat) : Int :=
  let e : Int := (Nat.toDigits 10 num).length - (Nat.toDigits 10 den).length
  let below := if 0 ≤ e then num < den * Nat.pow 10 e.toNat else num * Nat.pow 10 (-e).toNat < den
  if below then e - 1 else e

/-- A fraction times `10 ^ k`, as a fraction. -/
def scaleTen (num den : Nat) (k : Int) : Nat × Nat :=
  if 0 ≤ k then (num * Nat.pow 10 k.toNat, den) else (num, den * Nat.pow 10 (-k).toNat)

/-- The multiple of `10 ^ k` nearest to `m * 2 ^ e` among its two neighbours that read back as it. -/
def onGrid? (m : Nat) (e : Int) (k : Int) : Option Nat :=
  let (num, den) := fraction m e
  let (p, q) := scaleTen num den (-k)
  let down := p / q
  let reads (n : Nat) : Bool :=
    let (a, b) := scaleTen n 1 k
    let quarters := scaleTwo (4 * a) b (-e)
    roundsTo m e quarters.1 quarters.2
  let nearest := roundDiv p q
  if reads nearest then some nearest
  else if reads down then some down
  else if reads (down + 1) then some (down + 1)
  else none

/-- The first of the grids with `n`, `n + 1`, … digits that holds a numeral for `m * 2 ^ e`. -/
def shortestFrom (m : Nat) (e lead : Int) (n : Nat) : Nat → Digits
  | 0 => ⟨['0'], 1⟩
  | tries + 1 =>
    match onGrid? m e (lead - n + 1) with
    | some d =>
      let ds := Text.ofNat d
      ⟨(ds.reverse.dropWhile (· == '0')).reverse, lead - n + 1 + ds.length⟩
    | none => shortestFrom m e lead (n + 1) tries

/-- The fewest digits that read back, and of these the nearest to the number; 17 always suffice. -/
def shortest (m : Nat) (e : Int) : Digits :=
  if m = 0 then ⟨['0'], 1⟩
  else
    let (num, den) := fraction m e
    shortestFrom m e (floorLog10 num den) 1 17

/-- The leading exponents that are written without an exponent, and the least width of an exponent. -/
structure Layout where
  leastPlain : Int
  greatestPlain : Int
  exponentWidth : Nat

/-- From `0.0001` up to sixteen digits before the point a number is written plainly. -/
def layout : Layout := ⟨-4, 15, 2⟩

def zeros (n : Nat) : Text :=
  List.replicate n '0'

/-- The digits around a decimal point; at least one digit stands on either side. -/
def plainForm (d : Digits) : Text :=
  if d.point ≤ 0 then '0' :: '.' :: (zeros (-d.point).toNat ++ d.digits)
  else
    let whole := d.point.toNat
    if d.digits.length ≤ whole then d.digits ++ zeros (whole - d.digits.length) ++ ['.', '0']
    else d.digits.take whole ++ '.' :: d.digits.drop whole

/-- One digit before the point, a point only before further digits, and a signed exponent. -/
def exponentForm (width : Nat) (d : Digits) : Text :=
  let e := d.point - 1
  let shown := Text.ofNat e.natAbs
  d.digits.take 1 ++ (if d.digits.length = 1 then [] else '.' :: d.digits.drop 1)
    ++ ['e', if e < 0 then '-' else '+'] ++ zeros (width - shown.length) ++ shown

def digitsText (d : Digits) : Text :=
  let lead := d.point - 1
  if layout.leastPlain ≤ lead && lead ≤ layout.greatestPlain then plainForm d
  else exponentForm layout.exponentWidth d

def signText (negative : Bool) : Text :=
  if negative then ['-'] else []

/-- The text of a double; `unbounded` and `undefined` name infinity and the number that is none. -/
def toTextWith (unbounded undefined : Text) : Double → Text
  | .finite s m e => signText s ++ digitsText (shortest m e)
  | .infinite s => signText s ++ unbounded
  | .nan => undefined

def toText : Double → Text :=
  toTextWith "inf".toList "nan".toList

end Dockgraph.Double
