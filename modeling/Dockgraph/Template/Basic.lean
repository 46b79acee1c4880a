import Dockgraph.Graph.Basic
import Dockgraph.Json.Access
import Dockgraph.Notice

/-! Templates: named lists of steps, each an instruction with arguments, that become a chain of nodes. -/

namespace Dockgraph

structure Template where
  id : Json
  name : Json
  graph : Graph

namespace Template

inductive Error where
  | unknownTemplate (id : Option Text)
  | unknownInstruction (instruction : Json)
  | access (cause : Json.AccessError)

def Error.message : Error → Text
  | .unknownTemplate id => "Unknown template id: ".toList ++ (Json.ofTextOption id).display
  | .unknownInstruction i => "No catalog entry for instruction ".toList ++ i.inspect
  | .access cause => cause.message

def liftAccess {α : Type} : Except Json.AccessError α → Except Error α
  | .ok v => .ok v
  | .error cause => .error (.access cause)

/-- The use of an instruction that a step names. -/
def specOf (instruction : Json) : Except Error Spec :=
  match instruction.truthy? with
  | none => .error (.unknownInstruction instruction)
  | some (.text token) =>
    match Spec.ofToken? token with
    | some spec => .ok spec
    | none => .error (.unknownInstruction instruction)
  | some v => .error (.access (.noMember v.kind "strip".toList))

def startX : Int := 250

def startY : Int := 50

def spacing : Int := 100

/-- The place of the node of the step with this index. -/
def placeOf (index : Nat) : Position :=
  ⟨.int startX, .int (startY + index * spacing)⟩

/-- The node of the step with this index; nodes are numbered from one. -/
def nodeOf (index : Nat) (step : Json) : Except Error Node := do
  let instruction ← liftAccess (step.entry "instruction".toList)
  let arguments ← liftAccess (step.member? "arguments".toList)
  let spec ← specOf instruction
  return Node.ofSpec (Text.ofNat (index + 1)) spec (arguments.getD .null) (placeOf index)

/-- Adds the nodes of steps, the first of which has the given index, each linked to the one before. -/
def addSteps (g : Graph) (index : Nat) : List Json → Except Error Graph
  | [] => .ok g
  | step :: rest =>
    match nodeOf index step with
    | .error e => .error e
    | .ok n =>
      let g := g.insertNode n
      let g := if index = 0 then g else g.insertEdge (Edge.between (Text.ofNat index) n.id)
      addSteps g (index + 1) rest

/-- The steps of an outline; what is not truthy stands for none. -/
def stepsOf (outline : Json) : Except Error (List Json) := do
  let steps ← liftAccess (outline.member? "steps".toList)
  match steps.bind Json.truthy? with
  | none => return []
  | some v => liftAccess v.elements

/-- The template of an outline: an object with id, name and steps. -/
def build (outline : Json) : Except Error Template := do
  let steps ← stepsOf outline
  let graph ← addSteps .empty 0 steps
  let id ← liftAccess (outline.entry "id".toList)
  let name ← liftAccess (outline.entry "name".toList)
  return ⟨id, name, graph⟩

/-- The outlines of a collection; what is not truthy holds none. -/
def outlinesOf (collection : Json) : Except Error (List Json) :=
  match collection.truthy? with
  | none => .ok []
  | some v => liftAccess v.elements

/-- The ids and names of the outlines. -/
def index (collection : Json) : Except Error (List (Json × Json)) := do
  let outlines ← outlinesOf collection
  outlines.mapM fun o => do
    let id ← liftAccess (o.entry "id".toList)
    let name ← liftAccess (o.entry "name".toList)
    return (id, name)

/-- Whether an outline has the id, where no id is that of outlines without one. -/
def hasId (id : Option Text) (found : Option Json) : Bool :=
  match id, found with
  | none, none => true
  | none, some .null => true
  | some s, some (.text t) => s == t
  | _, _ => false

/-- The first outline with the id. -/
def findOutline (id : Option Text) : List Json → Except Error Json
  | [] => .error (.unknownTemplate id)
  | o :: rest =>
    match o.member? "id".toList with
    | .error cause => .error (.access cause)
    | .ok found => if hasId id found then .ok o else findOutline id rest

/-- The template with the id. -/
def load (collection : Json) (id : Option Text) : Except Error Template := do
  let outlines ← outlinesOf collection
  let outline ← findOutline id outlines
  build outline

/-- What loading tells. -/
def loadNotice (id : Option Text) (t : Template) : Notice :=
  .operation .debug ("loaded template ".toList ++ (Json.ofTextOption id).display ++ " with ".toList
    ++ Text.ofNat t.graph.nodes.size ++ " node(s)".toList)

end Template

end Dockgraph
