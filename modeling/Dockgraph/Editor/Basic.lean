import Dockgraph.Graph.Document
import Dockgraph.Lint.Explanation
import Dockgraph.Script.Import
import Dockgraph.Script.Render
import Dockgraph.Template.Builtin

/-! An editing session: the graph, the name of the file to export, the source of ids and the custom rules.
An edit yields a session in any case, and an answer or the reason why there is none. -/

namespace Dockgraph

structure Editor where
  graph : Graph
  fileName : Option Text
  ids : IdSource
  rules : List Json

namespace Editor

def defaultFileName : Text := "Dockerfile".toList

/-- What an export shows while the graph renders to nothing. -/
def placeholder : Text :=
  "# The generated Dockerfile will appear here\n# Add nodes and connect them to build a Dockerfile".toList

def start (ids : IdSource) (rules : List Json) : Editor :=
  ⟨.empty, some defaultFileName, ids, rules⟩

/-- What tells which use of an instruction to add. -/
inductive Reference where
  /-- An id or, failing that, a keyword. -/
  | named (name : Option Text)
  /-- An id alone. -/
  | withId (id : Text)
  /-- A use of an instruction itself, be it in the catalog or not. -/
  | use (spec : Spec)

/-- What keeps a coordinate from being moved down. -/
inductive CoordinateError where
  | text
  | list
  | other (kind : Json.Kind)
  deriving DecidableEq, Repr

def CoordinateError.message : CoordinateError → Text
  | .text => "can only concatenate str (not \"int\") to str".toList
  | .list => "can only concatenate list (not \"int\") to list".toList
  | .other kind => "unsupported operand type(s) for +: ".toList ++ Json.quotedKind kind ++ " and 'int'".toList

inductive Error where
  | unknownInstruction (name : Option Text)
  | notEditable (names : List Text)
  | coordinate (cause : CoordinateError)
  | document (cause : Graph.DocumentError)
  | template (cause : Template.Error)

def Error.message : Error → Text
  | .unknownInstruction name =>
    "No catalog entry for ".toList ++ (Json.ofTextOption name).inspect
  | .notEditable names => "Cannot update node fields: ".toList ++ Text.joinWith ", ".toList names
  | .coordinate cause => cause.message
  | .document cause => cause.message
  | .template cause => cause.message

inductive Command where
  | add (reference : Reference) (arguments : Json)
  | addNode (node : Node)
  | update (id : Text) (fields : List (Text × Json))
  | move (id : Text) (x y : Json)
  | remove (id : Text)
  | connect (source target : Text)
  | addEdge (edge : Edge)
  | disconnect (id : Text)
  | setFileName (name : Option Text)
  | reset
  | loadDocument (document : Json) (fileName : Option Text)
  | importText (content : Text) (fileName : Option Text)
  | loadTemplate (id : Option Text)

inductive Answer where
  | nothing
  | node (node : Node)
  | noNode
  | edge (edge : Edge)
  | flag (done : Bool)
  | graph (graph : Graph)

/-- The session after an edit, and the edit's answer. -/
structure Outcome where
  editor : Editor
  answer : Except Error Answer

def done (e : Editor) (a : Answer) : Outcome := ⟨e, .ok a⟩

def failed (e : Editor) (cause : Error) : Outcome := ⟨e, .error cause⟩

def Reference.find? : Reference → Option Spec
  | .named none => none
  | .named (some name) => (Spec.ofId? name).or (Spec.ofToken? name)
  | .withId id => Spec.ofId? id
  | .use spec => some spec

/-- The name that a message gives for a reference that finds nothing. -/
def Reference.name? : Reference → Option Text
  | .named name => name
  | .withId _ => none
  | .use _ => none

/-- A coordinate moved down by one place. A double moves by the node's height first and then by the margin, and
is rounded twice. -/
def moveDown : Json → Except CoordinateError Json
  | .int i => .ok (.int (i + Script.spacing))
  | .bool b => .ok (.int (b.toNat + Script.spacing))
  | .float x =>
    .ok (.float ((x.add (Double.ofRatio false Script.nodeHeight.toNat 1)).add
      (Double.ofRatio false Script.nodeMargin.toNat 1)))
  | .text _ => .error .text
  | .list _ => .error .list
  | v => .error (.other v.kind)

/-- The place below the last node, or the first place. -/
def nextPosition (e : Editor) : Except CoordinateError Position :=
  match e.graph.nodes.items.getLast? with
  | none => .ok (Script.placeOf 0)
  | some last => (moveDown last.position.y).map fun y => ⟨last.position.x, y⟩

/-- The first edge from one node to another. -/
def edge? (g : Graph) (source target : Text) : Option Edge :=
  g.edges.items.find? fun e => e.source == source && e.target == target

/-- Links two nodes; they stay as they are where an edge links them already. -/
def connect (e : Editor) (source target : Text) : Editor × Edge :=
  match edge? e.graph source target with
  | some edge => (e, edge)
  | none =>
    let edge := Edge.between source target
    ({ e with graph := e.graph.insertEdge edge }, edge)

/-- Adds a node for a use of an instruction below the last node, and links it to that. -/
def addSpec (e : Editor) (spec : Spec) (arguments : Json) (position : Position) : Outcome :=
  let (id, ids) := e.ids.next spec.instruction.keyword
  let node := Node.ofSpec id spec arguments position
  let grown := { e with graph := e.graph.insertNode node, ids := ids }
  match e.graph.nodes.items.getLast? with
  | none => done grown (.node node)
  | some last => done (grown.connect last.id id).1 (.node node)

def add (e : Editor) (reference : Reference) (arguments : Json) : Outcome :=
  match reference.find? with
  | none => e.failed (.unknownInstruction reference.name?)
  | some spec =>
    match e.nextPosition with
    | .error cause => e.failed (.coordinate cause)
    | .ok position => e.addSpec spec arguments position

/-- The fields of a node that an update may set. -/
def editableFields : List Text := ["keyword", "arguments", "label", "description", "advanced"]

/-- The names among the fields that cannot be updated, in order. -/
def notEditable (fields : List (Text × Json)) : List Text :=
  ((fields.map (·.1)).filter fun name => !editableFields.contains name).mergeSort Text.precedesOrEq

def setNodeField (n : Node) (field : Text × Json) : Node :=
  if field.1 = "keyword".toList then { n with keyword := field.2 }
  else if field.1 = "arguments".toList then { n with arguments := field.2 }
  else if field.1 = "label".toList then { n with label := field.2 }
  else if field.1 = "description".toList then { n with description := field.2 }
  else if field.1 = "advanced".toList then { n with advanced := field.2 }
  else n

def replaceNode (e : Editor) (n : Node) : Editor :=
  { e with graph := e.graph.insertNode n }

def update (e : Editor) (id : Text) (fields : List (Text × Json)) : Outcome :=
  match notEditable fields with
  | [] =>
    match e.graph.nodes.find? id with
    | none => e.done .noNode
    | some n =>
      let updated := fields.foldl setNodeField n
      (e.replaceNode updated).done (.node updated)
  | names => e.failed (.notEditable names)

def move (e : Editor) (id : Text) (x y : Json) : Outcome :=
  match e.graph.nodes.find? id with
  | none => e.done .noNode
  | some n =>
    let moved := { n with position := ⟨x, y⟩ }
    (e.replaceNode moved).done (.node moved)

def touches (id : Text) (edge : Edge) : Bool :=
  edge.source == id || edge.target == id

/-- Removes a node with the edges at it. -/
def remove (e : Editor) (id : Text) : Outcome :=
  if e.graph.nodes.has id then
    { e with graph := ⟨e.graph.nodes.erase id, e.graph.edges.eraseAll (touches id)⟩ }.done (.flag true)
  else e.done (.flag false)

def disconnect (e : Editor) (id : Text) : Outcome :=
  if e.graph.edges.has id then
    { e with graph := { e.graph with edges := e.graph.edges.erase id } }.done (.flag true)
  else e.done (.flag false)

def reset (e : Editor) : Editor :=
  { e with graph := .empty, fileName := some defaultFileName }

/-- An empty name stands for the default. -/
def nameOrDefault (name : Option Text) : Text :=
  match name with
  | none => defaultFileName
  | some s => if s.isEmpty then defaultFileName else s

def loadGraph (e : Editor) (g : Graph) (fileName : Option Text) : Editor :=
  { e with graph := g, fileName := some (nameOrDefault fileName) }

def loadDocument (e : Editor) (document : Json) (fileName : Option Text) : Outcome :=
  match Graph.ofJson document with
  | .error cause => e.failed (.document cause)
  | .ok g => (e.loadGraph g fileName).done .nothing

def importText (e : Editor) (content : Text) (fileName : Option Text) : Outcome :=
  let cleared := e.reset
  let (g, ids) := Script.parse content cleared.ids
  ({ cleared with ids := ids }.loadGraph g fileName).done (.graph g)

def loadTemplate (e : Editor) (id : Option Text) : Outcome :=
  match Template.load Template.builtin id with
  | .error cause => e.failed (.template cause)
  | .ok t => (e.reset.loadGraph t.graph none).done (.graph t.graph)

/-- One edit. -/
def step (e : Editor) : Command → Outcome
  | .add reference arguments => e.add reference arguments
  | .addNode n => (e.replaceNode n).done (.node n)
  | .update id fields => e.update id fields
  | .move id x y => e.move id x y
  | .remove id => e.remove id
  | .connect source target =>
    let (connected, edge) := e.connect source target
    connected.done (.edge edge)
  | .addEdge edge => { e with graph := e.graph.insertEdge edge }.done (.edge edge)
  | .disconnect id => e.disconnect id
  | .setFileName name => { e with fileName := name }.done .nothing
  | .reset => e.reset.done .nothing
  | .loadDocument document fileName => e.loadDocument document fileName
  | .importText content fileName => e.importText content fileName
  | .loadTemplate id => e.loadTemplate id

/-- The session after a run of edits, failed ones among them. -/
def after (e : Editor) (commands : List Command) : Editor :=
  commands.foldl (fun e c => (e.step c).editor) e

/-- The Dockerfile of the session. -/
def content (e : Editor) : Text :=
  e.graph.text

/-- The Dockerfile to export, or a placeholder. -/
def exportText (e : Editor) : Text :=
  if e.content.isEmpty then placeholder else e.content

/-- The verdict on the session's Dockerfile. -/
structure Verdict where
  result : Lint.Result
  buildability : Text

/-- The verdict, where the session has a Dockerfile at all. -/
def verdict (e : Editor) : Except Pattern.Fault (Option Verdict) :=
  if e.content.isEmpty then .ok none
  else (Lint.check e.content e.rules).map fun r => some ⟨r, Lint.buildability e.content r⟩

/-- What an import tells. -/
def importNotices (e : Editor) (content : Text) : List Notice :=
  Script.parseNotices content e.graph ++ [
    .operation .info ("Imported ".toList ++ (Json.ofTextOption e.fileName).display ++ ": ".toList
      ++ Text.ofNat e.graph.nodes.size ++ " instruction(s)".toList)]

end Editor

end Dockgraph
