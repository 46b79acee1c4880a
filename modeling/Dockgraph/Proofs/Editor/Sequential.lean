import Dockgraph.Editor.Basic
import Dockgraph.Proofs.Script.Import
import Dockgraph.Proofs.Template

/-! Sessions that only add below the last node, change what nodes show or replace the whole graph. Their
graph stays a chain in the order in which its nodes were made: ids are never made twice, and those of
templates are numerals, so nothing that is added takes the place of something else. -/

namespace Dockgraph.Editor

/-- The edits that leave the links between nodes alone, but for those of new nodes. -/
def Command.isSequential : Command → Bool
  | .add .. | .update .. | .move .. | .setFileName _ | .reset | .importText .. | .loadTemplate _ => true
  | .addNode _ | .remove _ | .connect .. | .addEdge _ | .disconnect _ | .loadDocument .. => false

/-- The session's graph is a chain of nodes with known ids. -/
def Linear (e : Editor) : Prop :=
  e.graph.Linear e.ids

variable {e : Editor}

theorem linear_start (ids : IdSource) (rules : List Json) : (start ids rules).Linear :=
  Graph.linear_empty ids

theorem linear_reset (e : Editor) : e.reset.Linear :=
  Graph.linear_empty e.ids

/-! Additions. -/

theorem getLast?_ids (g : Graph) : g.nodes.ids.getLast? = g.nodes.items.getLast?.map Node.id :=
  List.getLast?_map

theorem edge?_of_fresh {g : Graph} (hc : g.IsChain) (source : Text) {target : Text}
    (ht : target ∉ g.nodes.ids) : edge? g source target = none := by
  rw [edge?, List.find?_eq_none]
  intro e he hst
  rw [hc] at he
  have htarget : e.target = target := by
    rw [Bool.and_eq_true, beq_iff_eq, beq_iff_eq] at hst
    exact hst.2
  exact ht (htarget ▸ (Edge.mem_ids_of_mem_chain he).2)

/-- An addition links its node to the last one, where no edge leads to the new id yet. -/
theorem addSpec_eq_of_fresh {spec : Spec}
    (hno : ∀ source, edge? e.graph source (e.ids.next spec.instruction.keyword).1 = none) (arguments : Json)
    (position : Position) :
    e.addSpec spec arguments position =
      done { e with
        graph := e.graph.grow
          (Node.ofSpec (e.ids.next spec.instruction.keyword).1 spec arguments position)
        ids := (e.ids.next spec.instruction.keyword).2 }
      (.node (Node.ofSpec (e.ids.next spec.instruction.keyword).1 spec arguments position)) := by
  have hl := getLast?_ids e.graph
  unfold addSpec
  cases hi : e.graph.nodes.items.getLast? with
  | none =>
    rw [hi, Option.map_none] at hl
    rw [Graph.grow_of_none hl]
  | some last =>
    rw [hi, Option.map_some] at hl
    have hno' : edge? (e.graph.insertNode
        (Node.ofSpec (e.ids.next spec.instruction.keyword).1 spec arguments position)) last.id
        (e.ids.next spec.instruction.keyword).1 = none := hno last.id
    simp only [connect, hno', Graph.grow_of_some hl]
    rfl

/-- In a chain no edge leads to a new id. -/
theorem addSpec_eq (h : e.Linear) (spec : Spec) (arguments : Json) (position : Position) :
    e.addSpec spec arguments position =
      done { e with
        graph := e.graph.grow
          (Node.ofSpec (e.ids.next spec.instruction.keyword).1 spec arguments position)
        ids := (e.ids.next spec.instruction.keyword).2 }
      (.node (Node.ofSpec (e.ids.next spec.instruction.keyword).1 spec arguments position)) :=
  addSpec_eq_of_fresh (fun source => edge?_of_fresh h.chain source (h.next_fresh spec.instruction.keyword))
    arguments position

theorem Linear.addSpec (h : e.Linear) (spec : Spec) (arguments : Json) (position : Position) :
    (e.addSpec spec arguments position).editor.Linear := by
  rw [addSpec_eq h]
  exact Graph.Linear.grow_next h rfl

theorem Linear.add (h : e.Linear) (reference : Reference) (arguments : Json) :
    (e.add reference arguments).editor.Linear := by
  unfold Editor.add
  split
  · exact h
  · split
    · exact h
    · exact h.addSpec _ _ _

theorem exists_addSpec_of_ok {reference : Reference} {arguments : Json} {answer : Answer}
    (ha : (e.add reference arguments).answer = .ok answer) :
    ∃ spec position, e.add reference arguments = e.addSpec spec arguments position := by
  unfold Editor.add at ha ⊢
  cases hf : reference.find? with
  | none => simp [hf, failed] at ha
  | some spec =>
    cases hp : e.nextPosition with
    | error cause => simp [hf, hp, failed] at ha
    | ok position => exact ⟨spec, position, rfl⟩

/-- What succeeds in adding puts one node after the others and one edge, from the last of them, after the
other edges. -/
theorem Linear.add_ok (h : e.Linear) {reference : Reference} {arguments : Json} {answer : Answer}
    (ha : (e.add reference arguments).answer = .ok answer) : ∃ n, answer = .node n ∧
      (e.add reference arguments).editor.graph.nodes.items = e.graph.nodes.items ++ [n] ∧
      (e.add reference arguments).editor.graph.edges.items =
        e.graph.edges.items ++ e.graph.nodes.ids.getLast?.toList.map (Edge.between · n.id) := by
  obtain ⟨spec, position, heq⟩ := exists_addSpec_of_ok ha
  rw [heq, addSpec_eq h] at ha ⊢
  have hfresh := h.next_fresh spec.instruction.keyword
  refine ⟨_, (Except.ok.inj ha).symm, ?_, ?_⟩
  · exact Graph.items_nodes_grow hfresh
  · exact h.items_edges_grow hfresh

/-! Changes of nodes. -/

theorem id_foldl_setNodeField (n : Node) (fields : List (Text × Json)) :
    (fields.foldl setNodeField n).id = n.id := by
  induction fields generalizing n with
  | nil => rfl
  | cons f fields ih =>
    rw [List.foldl_cons, ih]
    unfold setNodeField
    split_ifs <;> rfl

theorem ids_replaceNode {n : Node} (hn : n.id ∈ e.graph.nodes.ids) :
    (e.replaceNode n).graph.nodes.ids = e.graph.nodes.ids :=
  Registry.ids_insert_of_mem hn

theorem Linear.replaceNode (h : e.Linear) {n : Node} (hn : n.id ∈ e.graph.nodes.ids) :
    (e.replaceNode n).Linear where
  chain := by
    rw [Graph.IsChain, ids_replaceNode hn]
    exact h.chain
  known id hid := by
    rw [ids_replaceNode hn] at hid
    exact h.known id hid

theorem id_mem_of_find? {g : Graph} {id : Text} {n : Node} (h : g.nodes.find? id = some n) :
    n.id ∈ g.nodes.ids :=
  Registry.mem_ids_of_mem (Registry.mem_of_find? h)

theorem Linear.update (h : e.Linear) (id : Text) (fields : List (Text × Json)) :
    (e.update id fields).editor.Linear := by
  unfold Editor.update
  split
  · split
    · exact h
    · next n hn =>
      refine h.replaceNode ?_
      rw [id_foldl_setNodeField]
      exact id_mem_of_find? hn
  · exact h

theorem Linear.move (h : e.Linear) (id : Text) (x y : Json) : (e.move id x y).editor.Linear := by
  unfold Editor.move
  split
  · exact h
  · next n hn =>
    have hm := id_mem_of_find? hn
    exact h.replaceNode hm

/-! Replacements of the whole graph. -/

theorem linear_importText (e : Editor) (content : Text) (fileName : Option Text) :
    (e.importText content fileName).editor.Linear :=
  Script.linear_parse content e.ids

theorem content_importText (e : Editor) (content : Text) (fileName : Option Text) :
    (e.importText content fileName).editor.content = Script.canonical content :=
  Script.text_parse content e.ids

theorem Linear.loadTemplate (h : e.Linear) (id : Option Text) : (e.loadTemplate id).editor.Linear := by
  unfold Editor.loadTemplate
  split
  · exact h
  · next t ht =>
    obtain ⟨n, hn⟩ := Template.numbered_of_load ht
    exact hn.linear e.ids

/-! Runs. -/

theorem Linear.step (h : e.Linear) {c : Command} (hc : c.isSequential = true) :
    (e.step c).editor.Linear := by
  cases c with
  | add reference arguments => exact h.add reference arguments
  | update id fields => exact h.update id fields
  | move id x y => exact h.move id x y
  | setFileName name => exact h
  | reset => exact linear_reset e
  | importText content fileName => exact linear_importText e content fileName
  | loadTemplate id => exact h.loadTemplate id
  | _ => cases hc

theorem Linear.after (h : e.Linear) {commands : List Command}
    (hc : ∀ c ∈ commands, c.isSequential = true) : (e.after commands).Linear := by
  induction commands generalizing e with
  | nil => exact h
  | cons c commands ih =>
    exact ih (h.step (hc c List.mem_cons_self)) fun d hd => hc d (List.mem_cons_of_mem _ hd)

/-- After any sequential run the edges lead from each node to the next one made and the Dockerfile has
the nodes in that order. An addition only appends, and after an import the text is that of the imported
instructions, whatever the session was and what it held. -/
theorem sequential_run (session : Text) (rules : List Json) (commands : List Command)
    (hc : ∀ c ∈ commands, c.isSequential = true) :
    let e := (start (.ofSession session) rules).after commands
    e.graph.nodes.ids.Nodup ∧
    e.graph.edges.items = Edge.chain e.graph.nodes.ids ∧
    e.graph.ordered = e.graph.nodes.items ∧
    (∀ reference arguments answer, (e.step (.add reference arguments)).answer = .ok answer →
      ∃ n, answer = .node n ∧
        (e.step (.add reference arguments)).editor.graph.nodes.items = e.graph.nodes.items ++ [n] ∧
        (e.step (.add reference arguments)).editor.graph.edges.items =
          e.graph.edges.items ++ e.graph.nodes.ids.getLast?.toList.map (Edge.between · n.id)) ∧
    (∀ content fileName,
      (e.step (.importText content fileName)).editor.content = Script.canonical content ∧
      ∀ (other : Editor) (otherName : Option Text),
        (other.step (.importText content otherName)).editor.exportText =
          (e.step (.importText content fileName)).editor.exportText) := by
  intro e
  have h : e.Linear := (linear_start (.ofSession session) rules).after hc
  refine ⟨e.graph.nodes.nodup_ids, h.chain, h.chain.ordered, fun _ _ _ ha => h.add_ok ha,
    fun content fileName => ⟨content_importText e content fileName, fun other otherName => ?_⟩⟩
  have hcontent := content_importText e content fileName
  have hother := content_importText other content otherName
  simp only [step, exportText, hcontent, hother]

/-- A template, an import, and additions of which two fail: one finds no instruction, the other cannot
stand below a node whose place is a text. -/
def mixedRun : List Command := [
  .loadTemplate (some "nginx"),
  .add (.named (some "run")) .null,
  .importText "FROM a AS b\n# c\nrun d \\\n  e" none,
  .add (.named (some "bogus")) .null,
  .move "run_a-1_x_3" (.int 0) (.text "low"),
  .add (.withId "copy_from") .null,
  .move "run_a-1_x_3" (.int 0) (.int 7),
  .add (.withId "copy_from") (.text ". ."),
  .update "from_a-1_x_2" [("arguments".toList, .text "scratch")],
  .setFileName none]

theorem sequential_mixedRun :
    (∀ c ∈ mixedRun, c.isSequential = true) ∧
    ((start (.ofSession "a-1_x") []).after mixedRun).graph.nodes.ids =
      ["from_a-1_x_2".toList, "run_a-1_x_3".toList, "copy_a-1_x_4".toList] ∧
    ((start (.ofSession "a-1_x") []).after mixedRun).graph.ordered =
      ((start (.ofSession "a-1_x") []).after mixedRun).graph.nodes.items := by
  have hc : ∀ c ∈ mixedRun, c.isSequential = true := by
    rw [← List.all_eq_true]
    rfl
  exact ⟨hc, by decide +kernel, (sequential_run "a-1_x" [] mixedRun hc).2.2.1⟩

end Dockgraph.Editor
