import Dockgraph.Text.Basic

/-! What texts are made of. A document may hold one half of a pair of code units by itself, which is a code point but no
character. What is said over any glyphs goes for texts of characters and for texts of code points. -/

namespace Dockgraph

/-- A character, or one half of a pair that stands alone. -/
inductive CodePoint where
  | char (c : Char)
  | half (n : Fin 0x800)
  deriving DecidableEq, Repr

def CodePoint.toNat : CodePoint → Nat
  | .char c => c.toNat
  | .half n => 0xd800 + n

/-- The character of a code point, a half being shown as the replacement character. -/
def CodePoint.shown : CodePoint → Char
  | .char c => c
  | .half _ => '\ufffd'

/-- Parts of texts, each of which stands for a code point. -/
class Glyph (σ : Type) where
  ofChar : Char → σ
  ofHalf : Fin 0x800 → σ
  point : σ → CodePoint
  ofText : Text → List σ
  /-- The characters that a text is shown by. -/
  toText : List σ → Text
  ofText_eq : ∀ s, ofText s = s.map ofChar
  toText_eq : ∀ s, toText s = s.map fun g => (point g).shown
  point_ofChar : ∀ c, point (ofChar c) = .char c

/-- Characters, among which there is no half. -/
@[default_instance]
instance : Glyph Char where
  ofChar := id
  ofHalf _ := '\ufffd'
  point := .char
  ofText := id
  toText := id
  ofText_eq s := (List.map_id s).symm
  toText_eq s := (List.map_id s).symm
  point_ofChar _ := rfl

instance : Glyph CodePoint where
  ofChar := .char
  ofHalf := .half
  point := id
  ofText s := s.map .char
  toText s := s.map CodePoint.shown
  ofText_eq _ := rfl
  toText_eq _ := rfl
  point_ofChar _ := rfl

namespace Glyph

@[simp] theorem ofChar_char (c : Char) : (ofChar c : Char) = c := rfl

@[simp] theorem ofText_char (s : Text) : (ofText s : Text) = s := rfl

@[simp] theorem point_char (c : Char) : point c = .char c := rfl

theorem ofText_append {σ : Type} [Glyph σ] (s t : Text) :
    (ofText (s ++ t) : List σ) = (ofText s : List σ) ++ (ofText t : List σ) := by
  rw [ofText_eq, ofText_eq, ofText_eq, List.map_append]

theorem ofText_flatten {σ : Type} [Glyph σ] (pieces : List Text) :
    (pieces.map ofText : List (List σ)).flatten = ofText pieces.flatten := by
  rw [ofText_eq, List.map_flatten, funext ofText_eq]

@[simp] theorem toText_eq_nil_iff {σ : Type} [Glyph σ] {s : List σ} : toText s = [] ↔ s = [] := by
  rw [toText_eq, List.map_eq_nil_iff]

end Glyph

end Dockgraph
