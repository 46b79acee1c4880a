import Dockgraph.Graph.Basic
import Dockgraph.IdSource
import Dockgraph.Notice
import Dockgraph.Script.Lines

/-! Dockerfiles as graphs: a chain of one node for each logical line that holds a known instruction with
arguments. -/

namespace Dockgraph.Script

/-- What a logical line is to the importer. -/
inductive Reading where
  | noArguments (line : Text)
  | unknown (token : Text)
  | instruction (spec : Spec) (arguments : Text)

/-- The use of an instruction that its arguments make it: `FROM` with a name for its stage has a use of
its own. -/
def specFor (i : Instruction) (arguments : Text) : Spec :=
  if i = .base && Text.hasPart " AS ".toList arguments then Spec.multiStage else Spec.ofInstruction i

def Reading.ofLine (line : Text) : Reading :=
  match splitInstruction line with
  | none => .noArguments line
  | some (token, arguments) =>
    match Instruction.resolve? token with
    | none => .unknown token
    | some i => .instruction (specFor i arguments) arguments

/-- The place of the first node, how high a node is and how far below it the next one begins. -/
def startX : Int := 250

def startY : Int := 100

def nodeHeight : Int := 150

def nodeMargin : Int := 50

def spacing : Int := nodeHeight + nodeMargin

/-- The place of the node for the logical line of this index. -/
def placeOf (index : Nat) : Position :=
  ⟨.int startX, .int (startY + index * spacing)⟩

/-- The chain so far, its last node, and the source of ids. -/
structure Chain where
  graph : Graph
  last : Option Text
  ids : IdSource

/-- Adds a node below the chain and links it to the last one. -/
def Chain.extend (c : Chain) (index : Nat) (spec : Spec) (arguments : Text) : Chain :=
  let (id, ids) := c.ids.next spec.instruction.keyword
  let graph := c.graph.insertNode (Node.ofSpec id spec (.text arguments) (placeOf index))
  let graph :=
    match c.last with
    | none => graph
    | some last => graph.insertEdge (Edge.between last id)
  ⟨graph, some id, ids⟩

def Chain.addLine (c : Chain) (index : Nat) (line : Text) : Chain :=
  match Reading.ofLine line with
  | .instruction spec arguments => c.extend index spec arguments
  | _ => c

/-- Adds lines, the first of which has the given index. -/
def Chain.addLines (c : Chain) (index : Nat) : List Text → Chain
  | [] => c
  | line :: rest => (c.addLine index line).addLines (index + 1) rest

/-- The graph of a Dockerfile, and the source of ids after it. -/
def parse (content : Text) (ids : IdSource) : Graph × IdSource :=
  let c := Chain.addLines ⟨.empty, none, ids⟩ 0 (logicalLines content)
  (c.graph, c.ids)

def Reading.notice? : Reading → Option Notice
  | .noArguments line =>
    some (.operation .debug ("skipping line without arguments: ".toList ++ Text.quoted line))
  | .unknown token =>
    some (.operation .debug ("skipping unknown instruction ".toList ++ Text.quoted token))
  | .instruction .. => none

/-- What the importer tells: the lines that it skips, and the size of the graph. -/
def parseNotices (content : Text) (g : Graph) : List Notice :=
  (logicalLines content).filterMap (fun line => (Reading.ofLine line).notice?) ++ [
    .operation .debug ("parsed ".toList ++ Text.ofNat g.nodes.size ++ " node(s), ".toList
      ++ Text.ofNat g.edges.size ++ " edge(s)".toList)]

end Dockgraph.Script
