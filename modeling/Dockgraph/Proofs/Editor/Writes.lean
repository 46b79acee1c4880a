import Dockgraph.Editor.Basic
import Dockgraph.Proofs.Registry

/-! Edits as they are carried out: checks that may refuse, and single writes to the session, one after the other. What
is written before a refusal stays written, and an entry that is to be deleted has to be there. Every edit carried out
in this way has the outcome of the edit as a whole. -/

namespace Dockgraph.Editor

/-- What stops an edit on its way: a refusal, or an entry to delete that is not there. -/
inductive Fault where
  | refused (cause : Error)
  | missing (id : Text)

abbrev Edit := EStateM Fault Editor

/-- What carrying out an edit comes to, with the session that it leaves. -/
abbrev Result := EStateM.Result Fault Editor Answer

def Outcome.result (o : Outcome) : Result :=
  match o.answer with
  | .ok answer => .ok answer o.editor
  | .error cause => .error (.refused cause) o.editor

def refuse {α : Type} (cause : Error) : Edit α :=
  throw (.refused cause)

/-- Goes on with a value, where there is one. -/
def check {ε α : Type} (wrap : ε → Error) : Except ε α → Edit α
  | .ok a => pure a
  | .error cause => refuse (wrap cause)

/-! Single writes. -/

def takeId (keyword : Text) : Edit Text :=
  modifyGet fun e => ((e.ids.next keyword).1, { e with ids := (e.ids.next keyword).2 })

def putNode (n : Node) : Edit Unit :=
  modify fun e => e.replaceNode n

def putEdge (d : Edge) : Edit Unit :=
  modify fun e => { e with graph := e.graph.insertEdge d }

/-- Takes a node away, and tells whether it was there. -/
def popNode (id : Text) : Edit Bool :=
  modifyGet fun e =>
    if e.graph.nodes.has id then (true, { e with graph := { e.graph with nodes := e.graph.nodes.erase id } })
    else (false, e)

/-- Takes an edge away, and tells whether it was there. -/
def popEdge (id : Text) : Edit Bool :=
  modifyGet fun e =>
    if e.graph.edges.has id then (true, { e with graph := { e.graph with edges := e.graph.edges.erase id } })
    else (false, e)

/-- Deletes edges one by one, which must be there. -/
def deleteEdges : List Text → Edit Unit
  | [] => return
  | id :: ids => do
    if !(← popEdge id) then throw (.missing id)
    deleteEdges ids

def setGraph (g : Graph) : Edit Unit :=
  modify fun e => { e with graph := g }

def setFileName (name : Option Text) : Edit Unit :=
  modify fun e => { e with fileName := name }

/-! Edits. -/

def link (source target : Text) : Edit Edge := do
  match edge? (← get).graph source target with
  | some d => return d
  | none =>
    putEdge (Edge.between source target)
    return Edge.between source target

/-- The new node is placed before it has an id, and linked after it is stored. -/
def addInstruction (reference : Reference) (arguments : Json) : Edit Answer := do
  match reference.find? with
  | none => refuse (.unknownInstruction reference.name?)
  | some spec =>
    let last := (← get).graph.nodes.items.getLast?
    let position ← check .coordinate (← get).nextPosition
    let id ← takeId spec.instruction.keyword
    let node := Node.ofSpec id spec arguments position
    putNode node
    match last with
    | none => return .node node
    | some last =>
      let _ ← link last.id id
      return .node node

def updateNode (id : Text) (fields : List (Text × Json)) : Edit Answer := do
  match notEditable fields with
  | [] =>
    match (← get).graph.nodes.find? id with
    | none => return .noNode
    | some n =>
      putNode (fields.foldl setNodeField n)
      return .node (fields.foldl setNodeField n)
  | names => refuse (.notEditable names)

def moveNode (id : Text) (x y : Json) : Edit Answer := do
  match (← get).graph.nodes.find? id with
  | none => return .noNode
  | some n =>
    let moved := { n with position := ⟨x, y⟩ }
    putNode moved
    return .node moved

/-- The edges at a node are deleted one by one when the node is gone. -/
def removeNode (id : Text) : Edit Answer := do
  if ← popNode id then
    deleteEdges (((← get).graph.edges.items.filter (touches id)).map Edge.id)
    return .flag true
  return .flag false

def clear : Edit Unit := do
  setGraph .empty
  setFileName (some defaultFileName)

def replaceGraph (g : Graph) (name : Option Text) : Edit Unit := do
  setGraph g
  setFileName (some (nameOrDefault name))

/-- Reads lines into a chain that is not yet the session's, with ids that are. -/
def readLines (g : Graph) (last : Option Text) (index : Nat) : List Text → Edit Graph
  | [] => return g
  | line :: rest =>
    match Script.Reading.ofLine line with
    | .instruction spec arguments => do
      let id ← takeId spec.instruction.keyword
      let node := Node.ofSpec id spec (.text arguments) (Script.placeOf index)
      match last with
      | none => readLines (g.insertNode node) (some id) (index + 1) rest
      | some last => readLines ((g.insertNode node).insertEdge (Edge.between last id)) (some id) (index + 1) rest
    | _ => readLines g last (index + 1) rest

/-- The session is cleared before the text is read. -/
def importLines (content : Text) (name : Option Text) : Edit Answer := do
  clear
  let g ← readLines .empty none 0 (Script.logicalLines content)
  replaceGraph g name
  return .graph g

def loadBuiltin (id : Option Text) : Edit Answer := do
  let t ← check .template (Template.load Template.builtin id)
  clear
  replaceGraph t.graph none
  return .graph t.graph

/-- An edit, check by check and write by write. -/
def perform : Command → Edit Answer
  | .add reference arguments => addInstruction reference arguments
  | .addNode n => do
    putNode n
    return .node n
  | .update id fields => updateNode id fields
  | .move id x y => moveNode id x y
  | .remove id => removeNode id
  | .connect source target => return .edge (← link source target)
  | .addEdge d => do
    putEdge d
    return .edge d
  | .disconnect id => return .flag (← popEdge id)
  | .setFileName name => do
    setFileName name
    return .nothing
  | .reset => do
    clear
    return .nothing
  | .loadDocument document name => do
    let g ← check .document (Graph.ofJson document)
    replaceGraph g name
    return .nothing
  | .importText content name => importLines content name
  | .loadTemplate id => loadBuiltin id

/-! Their runs. -/

section
variable {α β : Type} {e : Editor}

theorem run_bind (x : Edit α) (f : α → Edit β) : (x >>= f).run e =
    match x.run e with
    | .ok a e => (f a).run e
    | .error fault e => .error fault e := by
  change EStateM.bind x f e = _
  unfold EStateM.bind EStateM.run
  cases x e <;> rfl

theorem run_get : (get : Edit Editor).run e = .ok e e := rfl

theorem run_modifyGet (f : Editor → α × Editor) : (modifyGet f : Edit α).run e = .ok (f e).1 (f e).2 := rfl

theorem run_check_ok {ε : Type} (wrap : ε → Error) (a : α) : (check wrap (.ok a) : Edit α).run e = .ok a e := rfl

theorem run_takeId (keyword : Text) :
    (takeId keyword).run e = .ok (e.ids.next keyword).1 { e with ids := (e.ids.next keyword).2 } := rfl

theorem run_putNode (n : Node) : (putNode n).run e = .ok () (e.replaceNode n) := rfl

theorem run_popEdge_of_mem {id : Text} (h : id ∈ e.graph.edges.ids) : (popEdge id).run e =
    .ok true { e with graph := { e.graph with edges := e.graph.edges.erase id } } := by
  rw [popEdge, run_modifyGet, if_pos (Registry.has_iff.2 h)]

theorem run_link (source target : Text) :
    (link source target).run e = .ok (e.connect source target).2 (e.connect source target).1 := by
  unfold link connect
  simp only [run_bind, run_get]
  cases edge? e.graph source target <;> rfl

theorem run_clear : clear.run e = .ok () e.reset := rfl

theorem run_addInstruction (reference : Reference) (arguments : Json) :
    (addInstruction reference arguments).run e = (e.add reference arguments).result := by
  unfold addInstruction add
  cases reference.find? with
  | none => rfl
  | some spec =>
    simp only [run_bind, run_get]
    cases e.nextPosition with
    | error cause => rfl
    | ok position =>
      simp only [run_check_ok, run_takeId, run_putNode, addSpec]
      cases e.graph.nodes.items.getLast? with
      | none => rfl
      | some last =>
        simp only [run_bind, run_link]
        rfl

theorem run_updateNode (id : Text) (fields : List (Text × Json)) :
    (updateNode id fields).run e = (e.update id fields).result := by
  unfold updateNode update
  cases notEditable fields with
  | cons name names => rfl
  | nil =>
    simp only [run_bind, run_get]
    cases e.graph.nodes.find? id <;> rfl

theorem run_moveNode (id : Text) (x y : Json) : (moveNode id x y).run e = (e.move id x y).result := by
  unfold moveNode move
  simp only [run_bind, run_get]
  cases e.graph.nodes.find? id <;> rfl

/-- Edges that are there can be deleted one by one, if each is named once. -/
theorem run_deleteEdges {ids : List Text} (hdistinct : ids.Nodup) (hids : ∀ id ∈ ids, id ∈ e.graph.edges.ids) :
    (deleteEdges ids).run e =
      .ok () { e with graph := { e.graph with edges := e.graph.edges.eraseAll fun d => ids.contains d.id } } := by
  induction ids generalizing e with
  | nil =>
    have hnone : e.graph.edges.eraseAll (fun d => [].contains d.id) = e.graph.edges := by
      ext1
      exact List.filter_eq_self.2 fun _ _ => rfl
    rw [hnone]
    rfl
  | cons id ids ih =>
    rw [List.nodup_cons] at hdistinct
    rw [List.forall_mem_cons] at hids
    have hrest : ∀ other ∈ ids, other ∈ (e.graph.edges.erase id).ids := fun other hother =>
      Registry.mem_ids_erase.2 ⟨hids.2 other hother, fun h => hdistinct.1 (h ▸ hother)⟩
    have hboth : (e.graph.edges.erase id).eraseAll (fun d => ids.contains d.id) =
        e.graph.edges.eraseAll fun d => (id :: ids).contains d.id := by
      ext1
      refine List.filter_filter.trans (List.filter_congr fun d _ => ?_)
      change (!ids.contains d.id && d.id != id) = !(id :: ids).contains d.id
      rw [List.contains_cons, Bool.not_or, Bool.and_comm]
      rfl
    rw [deleteEdges, run_bind, run_popEdge_of_mem hids.1]
    exact (ih hdistinct.2 hrest).trans (by rw [hboth])

/-- The edges at a node are all there to be deleted. -/
theorem run_deleteEdges_touching (id : Text) :
    (deleteEdges ((e.graph.edges.items.filter (touches id)).map Edge.id)).run e =
      .ok () { e with graph := { e.graph with edges := e.graph.edges.eraseAll (touches id) } } := by
  have hdistinct : ((e.graph.edges.items.filter (touches id)).map Edge.id).Nodup :=
    e.graph.edges.distinct.sublist (List.filter_sublist.map _)
  have hids : ∀ i ∈ (e.graph.edges.items.filter (touches id)).map Edge.id, i ∈ e.graph.edges.ids := fun i hi =>
    (List.filter_sublist.map _).subset hi
  have hall : e.graph.edges.eraseAll (fun d => ((e.graph.edges.items.filter (touches id)).map Edge.id).contains d.id) =
      e.graph.edges.eraseAll (touches id) := by
    ext1
    refine List.filter_congr fun d hd => congrArg not (Bool.eq_iff_iff.2 ?_)
    rw [List.contains_iff_mem, List.mem_map]
    constructor
    · rintro ⟨d', hd', hid⟩
      obtain ⟨hmem, htouches⟩ := List.mem_filter.1 hd'
      rwa [← List.inj_on_of_nodup_map e.graph.edges.distinct hmem hd hid]
    · exact fun htouches => ⟨d, List.mem_filter.2 ⟨hd, htouches⟩, rfl⟩
  rw [run_deleteEdges hdistinct hids, hall]

theorem run_removeNode (id : Text) : (removeNode id).run e = (e.remove id).result := by
  unfold removeNode remove popNode
  simp only [run_bind, run_modifyGet]
  cases e.graph.nodes.has id with
  | false => rfl
  | true =>
    let popped : Editor := { e with graph := { e.graph with nodes := e.graph.nodes.erase id } }
    have hdelete := run_deleteEdges_touching (e := popped) id
    dsimp only [popped] at hdelete
    simp only [if_true, run_bind, run_get, hdelete]
    rfl

theorem run_readLines (g : Graph) (last : Option Text) (index : Nat) (lines : List Text) :
    (readLines g last index lines).run e =
      .ok (Script.Chain.addLines ⟨g, last, e.ids⟩ index lines).graph
        { e with ids := (Script.Chain.addLines ⟨g, last, e.ids⟩ index lines).ids } := by
  induction lines generalizing e g last index with
  | nil => rfl
  | cons line rest ih =>
    rw [readLines, Script.Chain.addLines, Script.Chain.addLine]
    cases Script.Reading.ofLine line with
    | noArguments | unknown => exact ih g last (index + 1)
    | instruction spec arguments =>
      simp only [run_bind, run_takeId]
      cases last <;> exact ih _ _ _

/-- Reading the text takes ids from the session but does not touch its graph, and nothing in a text can stop it. -/
theorem run_importLines (content : Text) (name : Option Text) :
    (importLines content name).run e = (e.importText content name).result := by
  simp only [importLines, run_bind, run_clear, run_readLines]
  rfl

theorem run_loadBuiltin (id : Option Text) : (loadBuiltin id).run e = (e.loadTemplate id).result := by
  unfold loadBuiltin loadTemplate
  cases Template.load Template.builtin id <;> rfl

/-- Carried out write by write, every edit leaves the session and gives the answer that it has as a whole. -/
theorem run_perform (c : Command) : (perform c).run e = (e.step c).result := by
  cases c with
  | add reference arguments => exact run_addInstruction reference arguments
  | update id fields => exact run_updateNode id fields
  | move id x y => exact run_moveNode id x y
  | remove id => exact run_removeNode id
  | connect source target =>
    rw [perform, run_bind, run_link]
    rfl
  | disconnect id =>
    rw [perform, step, disconnect, run_bind, popEdge, run_modifyGet]
    cases e.graph.edges.has id <;> rfl
  | loadDocument document name =>
    rw [perform, step, loadDocument, run_bind]
    cases Graph.ofJson document <;> rfl
  | importText content name => exact run_importLines content name
  | loadTemplate id => exact run_loadBuiltin id
  | addNode | addEdge | setFileName | reset => rfl

end

end Dockgraph.Editor
