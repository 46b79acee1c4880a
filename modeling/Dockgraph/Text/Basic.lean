/-! A text is a list of characters. Here are its lines, the search for a part, decimal and hexadecimal
numerals, and the order by code point. -/

namespace Dockgraph

abbrev Text := List Char

namespace Text

instance : Coe String Text := ⟨String.toList⟩

/-- Whether `part` occurs in the text without a gap. -/
def hasPart (part : Text) : Text → Bool
  | [] => part.isEmpty
  | c :: s => part.isPrefixOf (c :: s) || hasPart part s

/-- The pieces between newlines; a text without a newline is its own only line. -/
def lines : Text → List Text
  | [] => [[]]
  | c :: s =>
    if c = '\n' then [] :: lines s
    else
      match lines s with
      | [] => [[c]]
      | l :: ls => (c :: l) :: ls

/-- Drops the characters that satisfy `p` from both ends. -/
def trimBy (p : Char → Bool) (s : Text) : Text :=
  ((s.dropWhile p).reverse.dropWhile p).reverse

def joinWith {α : Type} (separator : List α) (pieces : List (List α)) : List α :=
  separator.intercalate pieces

def unlines (pieces : List Text) : Text :=
  joinWith ['\n'] pieces

/-- The decimal numeral of `n`. -/
def ofNat (n : Nat) : Text :=
  Nat.toDigits 10 n

def ofInt : Int → Text
  | .ofNat n => ofNat n
  | .negSucc n => '-' :: ofNat (n + 1)

/-- The hexadecimal numeral of `n` with at least `width` digits. -/
def ofHex (width n : Nat) : Text :=
  let digits := Nat.toDigits 16 n
  List.replicate (width - digits.length) '0' ++ digits

/-- Fills the text up with spaces on the right. -/
def padRight (width : Nat) (s : Text) : Text :=
  s ++ List.replicate (width - s.length) ' '

/-- The value of a character in the numerals of a base up to 36. -/
def digitIn? (base : Nat) (c : Char) : Option Nat :=
  let value? :=
    if '0' ≤ c && c ≤ '9' then some (c.toNat - '0'.toNat)
    else if 'a' ≤ c && c ≤ 'z' then some (c.toNat - 'a'.toNat + 10)
    else if 'A' ≤ c && c ≤ 'Z' then some (c.toNat - 'A'.toNat + 10)
    else none
  value?.filter (· < base)

/-- The number that the digits write, most significant digit first. -/
def valueOf (base : Nat) (digits : List Nat) : Nat :=
  digits.foldl (fun n d => base * n + d) 0

/-- The order by code point, a beginning before what it begins. -/
def precedesOrEq : Text → Text → Bool
  | [], _ => true
  | _ :: _, [] => false
  | a :: s, b :: t => a < b || (a == b && precedesOrEq s t)

theorem lines_ne_nil (s : Text) : lines s ≠ [] := by
  cases s with
  | nil => simp [lines]
  | cons c s =>
    unfold lines
    split
    · simp
    · split <;> simp

end Text

end Dockgraph
