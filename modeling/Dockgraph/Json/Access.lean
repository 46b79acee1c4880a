import Dockgraph.Json.Display

/-! Access to the parts of a value whose kind is not known: an object's entry or field, and the elements
of what can be gone through. -/

namespace Dockgraph.Json

/-- Why a value does not have the part that is asked of it. -/
inductive AccessError where
  | missing (name : Text)
  | noMember (kind : Kind) (name : Text)
  | notSubscriptable (kind : Kind)
  | textIndex
  | listIndex
  | notIterable (kind : Kind)
  | noLength (kind : Kind)
  /-- The text of an integer with more digits than may be written. -/
  | longInteger
  deriving DecidableEq, Repr

def quotedKind (kind : Kind) : Text :=
  '\'' :: kind.name ++ ['\'']

def AccessError.message : AccessError → Text
  | .missing name => Text.quoted name
  | .noMember kind name =>
    quotedKind kind ++ " object has no attribute '".toList ++ name ++ ['\'']
  | .notSubscriptable kind => quotedKind kind ++ " object is not subscriptable".toList
  | .textIndex => "string indices must be integers, not 'str'".toList
  | .listIndex => "list indices must be integers or slices, not str".toList
  | .notIterable kind => quotedKind kind ++ " object is not iterable".toList
  | .noLength kind => "object of type ".toList ++ quotedKind kind ++ " has no len()".toList
  | .longInteger => Numeral.tooLongToWrite

variable {σ : Type}

/-- The entry of an object, which must be there. -/
def entry [Glyph σ] [DecidableEq σ] (name : Text) : Json σ → Except AccessError (Json σ)
  | .object fields =>
    match field? (Glyph.ofText name) fields with
    | some v => .ok v
    | none => .error (.missing name)
  | .text _ => .error .textIndex
  | .list _ => .error .listIndex
  | v => .error (.notSubscriptable v.kind)

/-- The fields of an object. -/
def fields : Json σ → Except AccessError (List (List σ × Json σ))
  | .object fields => .ok fields
  | v => .error (.noMember v.kind "get".toList)

/-- The field of an object if it is there. -/
def member? [Glyph σ] [DecidableEq σ] (name : Text) (v : Json σ) : Except AccessError (Option (Json σ)) :=
  v.fields.map (field? (Glyph.ofText name))

/-- What a value consists of: items, characters or field names. -/
def elements : Json σ → Except AccessError (List (Json σ))
  | .list items => .ok items
  | .text s => .ok (s.map fun c => .text [c])
  | .object fields => .ok (fields.map fun f => .text f.1)
  | v => .error (.notIterable v.kind)

/-- How many items, characters or fields a value has. -/
def size : Json σ → Except AccessError Nat
  | .list items => .ok items.length
  | .text s => .ok s.length
  | .object fields => .ok fields.length
  | v => .error (.noLength v.kind)

end Dockgraph.Json
