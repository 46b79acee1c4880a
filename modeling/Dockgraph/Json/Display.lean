import Dockgraph.Json.Value
import Dockgraph.Number.Numeral

/-! The text of a value in messages. Texts inside a list or object are quoted; a text by itself is shown
as it is by `display` and quoted by `inspect`. -/

namespace Dockgraph.Json

variable {σ : Type}

section
variable [Glyph σ]

mutual

def inspect : Json σ → Text
  | .null => "None".toList
  | .bool b => if b then "True".toList else "False".toList
  | .int i => Text.ofInt i
  | .float x => x.toText
  | .text s => Glyph.quoted s
  | .list items => '[' :: inspectItems items ++ [']']
  | .object fields => '\x7b' :: inspectFields fields ++ ['\x7d']

def inspectItems : List (Json σ) → Text
  | [] => []
  | [v] => inspect v
  | v :: w :: rest => inspect v ++ ", ".toList ++ inspectItems (w :: rest)

def inspectFields : List (List σ × Json σ) → Text
  | [] => []
  | [(name, v)] => Glyph.quoted name ++ ": ".toList ++ inspect v
  | (name, v) :: f :: rest =>
    Glyph.quoted name ++ ": ".toList ++ inspect v ++ ", ".toList ++ inspectFields (f :: rest)

end

def display : Json σ → List σ
  | .text s => s
  | v => Glyph.ofText (inspect v)

end

/-! Integers of more digits than may be written. -/

/-- The number of digits of a numeral that has too many. -/
def excessOf (n : Nat) : Option Nat :=
  if Numeral.maxDigits < (Text.ofNat n).length then some (Text.ofNat n).length else none

mutual

/-- The number of digits of the first integer in a document that has too many. -/
def excess? : Json σ → Option Nat
  | .int i => excessOf i.natAbs
  | .list items => excessItems? items
  | .object fields => excessFields? fields
  | .null => none
  | .bool _ => none
  | .float _ => none
  | .text _ => none

def excessItems? : List (Json σ) → Option Nat
  | [] => none
  | v :: vs => (excess? v).or (excessItems? vs)

def excessFields? : List (List σ × Json σ) → Option Nat
  | [] => none
  | (_, v) :: fs => (excess? v).or (excessFields? fs)

end

end Dockgraph.Json
