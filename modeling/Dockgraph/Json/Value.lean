import Dockgraph.Number.Shortest
import Dockgraph.Text.CodePoint
import Dockgraph.Text.Quoted

/-! Documents: null, booleans, integers of any size, doubles, texts, lists, and objects whose fields keep
their order and have distinct names. Their texts are of characters unless it is said otherwise. -/

namespace Dockgraph

inductive Json (σ : Type := Char) where
  | null
  | bool (value : Bool)
  | int (value : Int)
  | float (value : Double)
  | text (value : List σ)
  | list (items : List (Json σ))
  | object (fields : List (List σ × Json σ))

namespace Json

variable {σ : Type}

instance : Inhabited (Json σ) := ⟨.null⟩

def emptyText : Json σ := .text []

/-- The kinds of value, which messages name. -/
inductive Kind where
  | null
  | bool
  | int
  | float
  | text
  | list
  | object
  deriving DecidableEq, Repr

def kind : Json σ → Kind
  | .null => .null
  | .bool _ => .bool
  | .int _ => .int
  | .float _ => .float
  | .text _ => .text
  | .list _ => .list
  | .object _ => .object

def Kind.name : Kind → Text
  | .null => "NoneType".toList
  | .bool => "bool".toList
  | .int => "int".toList
  | .float => "float".toList
  | .text => "str".toList
  | .list => "list".toList
  | .object => "dict".toList

/-- Whether a value counts as present: not null, false, zero or empty. -/
def isTruthy : Json σ → Bool
  | .null => false
  | .bool b => b
  | .int i => i != 0
  | .float x => !x.isZero
  | .text s => !s.isEmpty
  | .list items => !items.isEmpty
  | .object fields => !fields.isEmpty

/-- The value, where it is truthy. -/
def truthy? (v : Json σ) : Option (Json σ) :=
  if v.isTruthy then some v else none

/-- The field of an object's field list. -/
def field? [DecidableEq σ] (name : List σ) (fields : List (List σ × Json σ)) : Option (Json σ) :=
  fields.lookup name

/-- Sets a field: in its place where the name is there, else at the end. -/
def setField [DecidableEq σ] (name : List σ) (value : Json σ) : List (List σ × Json σ) → List (List σ × Json σ)
  | [] => [(name, value)]
  | (n, v) :: rest => if n = name then (n, value) :: rest else (n, v) :: setField name value rest

def ofTextOption : Option Text → Json
  | some s => .text s
  | none => .null

end Json

end Dockgraph
