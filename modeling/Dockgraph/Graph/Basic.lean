import Dockgraph.Catalog
import Dockgraph.Json.Value
import Dockgraph.Registry

/-! Graphs of instructions. The order of the nodes is the order in which they were made. What a node shows
is kept as it was given, whatever its kind. -/

namespace Dockgraph

structure Position where
  x : Json
  y : Json

/-- The place of nodes that were given none. -/
def Position.origin : Position :=
  ⟨.float Double.zero, .float Double.zero⟩

structure Node where
  id : Text
  keyword : Json
  arguments : Json
  label : Json
  description : Json
  advanced : Json
  position : Position

structure Edge where
  id : Text
  source : Text
  target : Text
  deriving DecidableEq, Repr

instance : Identified Node := ⟨Node.id⟩

instance : Identified Edge := ⟨Edge.id⟩

/-- A node for a use of an instruction; null arguments stand for those it starts with. -/
def Node.ofSpec (id : Text) (spec : Spec) (arguments : Json) (position : Position) : Node where
  id := id
  keyword := .text spec.instruction.keyword
  arguments :=
    match arguments with
    | .null => .text spec.defaultArguments
    | v => v
  label := .text spec.label
  description := .text spec.description
  advanced := .bool spec.advanced
  position := position

/-- The edge between two nodes, with the id that is made of theirs. -/
def Edge.between (source target : Text) : Edge :=
  ⟨'e' :: source ++ '-' :: target, source, target⟩

@[ext]
structure Graph where
  nodes : Registry Node
  edges : Registry Edge

namespace Graph

def empty : Graph := ⟨.empty, .empty⟩

instance : Inhabited Graph := ⟨empty⟩

def insertNode (g : Graph) (n : Node) : Graph :=
  { g with nodes := g.nodes.insert n }

def insertEdge (g : Graph) (e : Edge) : Graph :=
  { g with edges := g.edges.insert e }

/-- Whether both ends of the edge are nodes of the graph. -/
def isLive (g : Graph) (e : Edge) : Bool :=
  g.nodes.has e.source && g.nodes.has e.target

def liveEdges (g : Graph) : List Edge :=
  g.edges.items.filter g.isLive

def danglingEdges (g : Graph) : List Edge :=
  g.edges.items.filter fun e => !g.isLive e

/-- A step along a live edge. -/
def Leads (g : Graph) (a b : Text) : Prop :=
  ∃ e ∈ g.liveEdges, e.source = a ∧ e.target = b

end Graph

end Dockgraph
