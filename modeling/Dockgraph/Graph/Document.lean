import Dockgraph.Graph.Basic
import Dockgraph.Json.Access
import Dockgraph.Number.Numeral

/-! Graphs as documents: an object with the lists `nodes` and `edges`. -/

namespace Dockgraph

def Position.toJson (p : Position) : Json :=
  .object [("x".toList, p.x), ("y".toList, p.y)]

def Node.toJson (n : Node) : Json :=
  .object [
    ("id".toList, .text n.id),
    ("keyword".toList, n.keyword),
    ("arguments".toList, n.arguments),
    ("label".toList, n.label),
    ("description".toList, n.description),
    ("advanced".toList, n.advanced),
    ("position".toList, n.position.toJson)]

def Edge.toJson (e : Edge) : Json :=
  .object [
    ("id".toList, .text e.id), ("source".toList, .text e.source), ("target".toList, .text e.target)]

namespace Graph

def toFields (g : Graph) : List (Text × Json) := [
  ("nodes".toList, .list (g.nodes.items.map Node.toJson)),
  ("edges".toList, .list (g.edges.items.map Edge.toJson))]

def toJson (g : Graph) : Json :=
  .object g.toFields

/-- What is wrong with an entry. -/
inductive EntryError where
  | access (cause : Json.AccessError)
  | notNumeral (text : Text)
  | notNumber (kind : Json.Kind)
  deriving DecidableEq, Repr

def EntryError.message : EntryError → Text
  | .access cause => cause.message
  | .notNumeral text => "could not convert string to float: ".toList ++ Text.quoted text
  | .notNumber kind =>
    "float() argument must be a string or a real number, not ".toList ++ Json.quotedKind kind

/-- Why a document is no graph. An integer beyond all doubles is a fault of its own kind. -/
inductive DocumentError where
  | notObject
  | notLists
  | node (entry : Json) (cause : EntryError)
  | edge (entry : Json) (cause : Json.AccessError)
  | hugeInteger

def DocumentError.message : DocumentError → Text
  | .notObject => "graph document must be an object with 'nodes' and 'edges'".toList
  | .notLists => "'nodes' and 'edges' must be lists".toList
  | .node entry cause => "invalid node entry ".toList ++ entry.inspect ++ ": ".toList ++ cause.message
  | .edge entry cause => "invalid edge entry ".toList ++ entry.inspect ++ ": ".toList ++ cause.message
  | .hugeInteger => "int too large to convert to float".toList

/-- What can stop the reading of an entry. -/
inductive EntryStop where
  | entry (cause : EntryError)
  | hugeInteger

/-- A coordinate as a double. -/
def coordinate : Json → Except EntryStop Double
  | .bool b => .ok (Double.ofRatio false b.toNat 1)
  | .int i =>
    match Double.ofInt? i with
    | some x => .ok x
    | none => .error .hugeInteger
  | .float x => .ok x
  | .text s =>
    match Numeral.double? s with
    | some x => .ok x
    | none => .error (.entry (.notNumeral s))
  | v => .error (.entry (.notNumber v.kind))

def liftAccess {α : Type} : Except Json.AccessError α → Except EntryStop α
  | .ok v => .ok v
  | .error cause => .error (.entry (.access cause))

/-- The position object of an entry; what is not truthy stands for an empty one. -/
def positionFields (entry : List (Text × Json)) : Json :=
  match (Json.field? "position".toList entry).bind Json.truthy? with
  | some v => v
  | none => .object []

/-- Reads a node. The id is looked for before the coordinates, and `x` before `y`. -/
def nodeOfJson (entry : Json) : Except EntryStop Node := do
  let fields ← liftAccess entry.fields
  let position := positionFields fields
  let id ← liftAccess (entry.entry "id".toList)
  let field (name : String) : Json := (Json.field? name.toList fields).getD Json.emptyText
  let place ← liftAccess position.fields
  let x ← coordinate ((Json.field? "x".toList place).getD (.int 0))
  let y ← coordinate ((Json.field? "y".toList place).getD (.int 0))
  return {
    id := id.display
    keyword := field "keyword"
    arguments := field "arguments"
    label := field "label"
    description := field "description"
    advanced := .bool ((Json.field? "advanced".toList fields).any Json.isTruthy)
    position := ⟨.float x, .float y⟩ }

def edgeOfJson (entry : Json) : Except Json.AccessError Edge := do
  let id ← entry.entry "id".toList
  let source ← entry.entry "source".toList
  let target ← entry.entry "target".toList
  return ⟨id.display, source.display, target.display⟩

/-- Adds the nodes of the entries, up to the first faulty one. -/
def addNodes (g : Graph) : List Json → Except DocumentError Graph
  | [] => .ok g
  | entry :: rest =>
    match nodeOfJson entry with
    | .ok n => addNodes (g.insertNode n) rest
    | .error (.entry cause) => .error (.node entry cause)
    | .error .hugeInteger => .error .hugeInteger

def addEdges (g : Graph) : List Json → Except DocumentError Graph
  | [] => .ok g
  | entry :: rest =>
    match edgeOfJson entry with
    | .ok e => addEdges (g.insertEdge e) rest
    | .error cause => .error (.edge entry cause)

/-- A field that is to be a list; what is not truthy stands for an empty one. -/
def listField? (name : Text) (fields : List (Text × Json)) : Option (List Json) :=
  match (Json.field? name fields).bind Json.truthy? with
  | none => some []
  | some (.list items) => some items
  | some _ => none

/-- The graph of a document. -/
def ofJson : Json → Except DocumentError Graph
  | .object fields =>
    match listField? "nodes".toList fields, listField? "edges".toList fields with
    | some nodes, some edges => do
      let g ← addNodes .empty nodes
      addEdges g edges
    | _, _ => .error .notLists
  | _ => .error .notObject

end Graph

end Dockgraph
