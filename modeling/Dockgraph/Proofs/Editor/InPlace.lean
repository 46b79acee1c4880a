import Dockgraph.Proofs.Editor.Atomicity
import Dockgraph.Proofs.Editor.Sequential
import Dockgraph.Proofs.Order.Likeness

/-! Edits of a node in its place. Whatever the edges are, a node that shows something else or is moved keeps its turn,
and so does every other node: the order of writing knows the ids alone. So a move changes no line of the Dockerfile, and
an update changes at most the line of its node, which may come or go with it. -/

namespace Dockgraph

namespace Graph

/-- A node put in the place of the one with its id has its turn among the same nodes. -/
theorem exists_ordered_insertNode {g : Graph} {n n' : Node} (hn : n ∈ g.nodes.items) (hid : n'.id = n.id) :
    ∃ before after, g.ordered = before ++ n :: after ∧ (g.insertNode n').ordered = before ++ n' :: after := by
  let exchange (m : Node) : Node := if m.id = n'.id then n' else m
  have hkeep : ∀ m, (exchange m).id = m.id := by
    intro m
    by_cases h : m.id = n'.id
    · simp only [exchange, if_pos h, h]
    · simp only [exchange, if_neg h]
  have hitems : (g.insertNode n').nodes.items = g.nodes.items.map exchange :=
    Registry.items_insert_of_mem (List.mem_map.2 ⟨n, hn, hid.symm⟩)
  obtain ⟨before, after, hsplit⟩ := List.append_of_mem ((ordered_perm g).mem_iff.2 hn)
  have hids := (orderedIds_perm g).nodup_iff.2 g.nodes.nodup_ids
  rw [← map_id_ordered, hsplit, List.map_append, List.map_cons, List.nodup_append, List.nodup_cons] at hids
  obtain ⟨-, ⟨hafter, -⟩, hbefore⟩ := hids
  -- no other node has the id, so the exchange leaves those before and after as they are
  have hothers : ∀ ms : List Node, n.id ∉ ms.map Node.id → ms.map exchange = ms := by
    intro ms hms
    refine (List.map_congr_left fun m hm => ?_).trans (List.map_id ms)
    exact if_neg fun h => hms (List.mem_map.2 ⟨m, hm, h.trans hid⟩)
  refine ⟨before, after, hsplit, ?_⟩
  rw [ordered_of_map hkeep hitems rfl, hsplit, List.map_append, List.map_cons, hothers after hafter,
    hothers before fun hm => hbefore _ hm _ List.mem_cons_self rfl]
  exact congrArg (fun m => before ++ m :: after) (if_pos hid.symm)

/-- The text has the lines of the nodes in their order. -/
theorem text_of_ordered {g : Graph} {before after : List Node} {n : Node} (h : g.ordered = before ++ n :: after) :
    g.text = Text.unlines (before.filterMap Node.line? ++ n.line?.toList ++ after.filterMap Node.line?) := by
  rw [text, Script.render, h, List.filterMap_append, List.append_assoc]
  cases hn : n.line? with
  | none => rw [List.filterMap_cons_none hn, Option.toList_none, List.nil_append]
  | some line => rw [List.filterMap_cons_some hn, Option.toList_some, List.singleton_append]

end Graph

namespace Editor

/-- Both sessions have the same edges and are written in one order, in which the second has `n'` where the first has
`n`; and so their Dockerfiles have the same lines but for that of this node. -/
def Exchanges (e e' : Editor) (n n' : Node) : Prop :=
  n'.id = n.id ∧ e'.graph.edges = e.graph.edges ∧ ∃ before after,
    e.graph.ordered = before ++ n :: after ∧ e'.graph.ordered = before ++ n' :: after ∧
    e.content = Text.unlines (before.filterMap Node.line? ++ n.line?.toList ++ after.filterMap Node.line?) ∧
    e'.content = Text.unlines (before.filterMap Node.line? ++ n'.line?.toList ++ after.filterMap Node.line?)

variable {e e' : Editor} {n n' : Node}

theorem exchanges_replaceNode (hn : n ∈ e.graph.nodes.items) (hid : n'.id = n.id) :
    e.Exchanges (e.replaceNode n') n n' := by
  obtain ⟨before, after, hold, hnew⟩ := Graph.exists_ordered_insertNode hn hid
  exact ⟨hid, rfl, before, after, hold, hnew, Graph.text_of_ordered hold, Graph.text_of_ordered hnew⟩

theorem Exchanges.map_id_ordered (h : e.Exchanges e' n n') :
    e'.graph.ordered.map Node.id = e.graph.ordered.map Node.id := by
  obtain ⟨hid, -, before, after, hold, hnew, -, -⟩ := h
  rw [hold, hnew, List.map_append, List.map_append, List.map_cons, List.map_cons, hid]

theorem Exchanges.content_of_line? (h : e.Exchanges e' n n') (hline : n'.line? = n.line?) :
    e'.content = e.content := by
  obtain ⟨-, -, before, after, -, -, hold, hnew⟩ := h
  rw [hold, hnew, hline]

variable {id : Text} {fields : List (Text × Json)}

/-- An update of a node that is there answers the node with the new fields, which takes the place of the old one. -/
theorem step_update_of_find? (hn : e.graph.nodes.find? id = some n) (hf : ∀ f ∈ fields, f.1 ∈ editableFields) :
    (e.step (.update id fields)).answer = .ok (.node (fields.foldl setNodeField n)) ∧
      e.Exchanges (e.step (.update id fields)).editor n (fields.foldl setNodeField n) := by
  have hstep : e.step (.update id fields) =
      (e.replaceNode (fields.foldl setNodeField n)).done (.node (fields.foldl setNodeField n)) := by
    simp only [step, update, notEditable_eq_nil_iff.2 hf, hn]
  rw [hstep]
  exact ⟨rfl, exchanges_replaceNode (Registry.mem_of_find? hn) (id_foldl_setNodeField n fields)⟩

/-- An update of what is not there, or of what is not to be edited, does nothing. -/
theorem editor_step_update_of_idle (h : e.graph.nodes.find? id = none ∨ ∃ f ∈ fields, f.1 ∉ editableFields) :
    (e.step (.update id fields)).editor = e := by
  by_cases hf : ∀ f ∈ fields, f.1 ∈ editableFields
  · have hnone : e.graph.nodes.find? id = none := h.resolve_right fun ⟨f, hm, hforeign⟩ => hforeign (hf f hm)
    simp only [step, update, notEditable_eq_nil_iff.2 hf, hnone]
    rfl
  · push Not at hf
    obtain ⟨f, given, foreign⟩ := hf
    exact editor_of_fails (.field given foreign)

theorem step_move_of_find? (hn : e.graph.nodes.find? id = some n) (x y : Json) :
    (e.step (.move id x y)).answer = .ok (.node { n with position := ⟨x, y⟩ }) ∧
      e.Exchanges (e.step (.move id x y)).editor n { n with position := ⟨x, y⟩ } := by
  have hstep : e.step (.move id x y) =
      (e.replaceNode { n with position := ⟨x, y⟩ }).done (.node { n with position := ⟨x, y⟩ }) := by
    simp only [step, move, hn]
  have hid : ({ n with position := ⟨x, y⟩ } : Node).id = n.id := rfl
  rw [hstep]
  exact ⟨rfl, exchanges_replaceNode (Registry.mem_of_find? hn) hid⟩

theorem editor_step_move_of_absent (hn : e.graph.nodes.find? id = none) (x y : Json) :
    (e.step (.move id x y)).editor = e := by
  simp only [step, move, hn]
  rfl

/-- In any session, an update of a node and a move of it leave the ids in their order. An update puts the node with the
new fields in the place of the old one and changes at most its line; a move changes no line. -/
theorem edits_in_place (e : Editor) (id : Text) :
    (∀ fields,
      let updated := e.step (.update id fields)
      updated.editor.graph.ordered.map Node.id = e.graph.ordered.map Node.id ∧
      (e.graph.nodes.find? id = none ∨ (∃ f ∈ fields, f.1 ∉ editableFields) → updated.editor = e) ∧
      ∀ n, e.graph.nodes.find? id = some n → (∀ f ∈ fields, f.1 ∈ editableFields) →
        updated.answer = .ok (.node (fields.foldl setNodeField n)) ∧
        e.Exchanges updated.editor n (fields.foldl setNodeField n)) ∧
    ∀ x y,
      let moved := e.step (.move id x y)
      moved.editor.graph.ordered.map Node.id = e.graph.ordered.map Node.id ∧
      moved.editor.content = e.content ∧
      ∀ n, e.graph.nodes.find? id = some n →
        moved.answer = .ok (.node { n with position := ⟨x, y⟩ }) ∧
        e.Exchanges moved.editor n { n with position := ⟨x, y⟩ } := by
  constructor
  · intro fields
    refine ⟨?ids, editor_step_update_of_idle, fun n => step_update_of_find?⟩
    case ids =>
      by_cases hidle : e.graph.nodes.find? id = none ∨ ∃ f ∈ fields, f.1 ∉ editableFields
      · rw [editor_step_update_of_idle hidle]
      · push Not at hidle
        obtain ⟨n, hn⟩ := Option.ne_none_iff_exists'.1 hidle.1
        exact (step_update_of_find? hn hidle.2).2.map_id_ordered
  · intro x y
    refine ⟨?ids, ?text, fun n hn => step_move_of_find? hn x y⟩
    all_goals
      cases hn : e.graph.nodes.find? id with
      | none => rw [editor_step_move_of_absent hn]
      | some n => ?_
    case ids => exact (step_move_of_find? hn x y).2.map_id_ordered
    case text => exact (step_move_of_find? hn x y).2.content_of_line? rfl

/-- Two nodes that lead to each other, and an edge from nowhere. -/
def circle : Editor :=
  (start (.ofSession "s") []).after [
    .add (.named (some "FROM")) (.text "a"),
    .add (.named (some "RUN")) (.text "b"),
    .add (.named (some "RUN")) (.text "c"),
    .connect "run_s_3" "run_s_2",
    .addEdge ⟨"stray", "gone", "from_s_1"⟩]

/-- Without arguments the node in the middle loses its line, and the others keep theirs. -/
theorem edits_in_place_circle :
    let fields : List (Text × Json) := [("label".toList, .int 0), ("arguments".toList, .null)]
    let updated := (circle.step (.update "run_s_2" fields)).editor
    (∀ f ∈ fields, f.1 ∈ editableFields) ∧
    (∃ n, circle.graph.nodes.find? "run_s_2" = some n ∧ circle.Exchanges updated n (fields.foldl setNodeField n)) ∧
    circle.graph.danglingEdges = [⟨"stray", "gone", "from_s_1"⟩] ∧ circle.graph.shortfall? = some 1 ∧
    circle.content = "FROM a\nRUN b\nRUN c".toList ∧ updated.content = "FROM a\nRUN c".toList ∧
    (circle.step (.move "run_s_2" .null (.int 0))).editor.content = circle.content := by
  intro fields updated
  have hf : ∀ f ∈ fields, f.1 ∈ editableFields := by decide
  obtain ⟨hupdate, hmove⟩ := edits_in_place circle "run_s_2"
  obtain ⟨n, hn⟩ : ∃ n, circle.graph.nodes.find? "run_s_2" = some n := ⟨_, rfl⟩
  exact ⟨hf, ⟨n, hn, ((hupdate fields).2.2 n hn hf).2⟩, by decide +kernel, by decide +kernel, by decide +kernel,
    by decide +kernel, (hmove .null (.int 0)).2.1⟩

end Editor

end Dockgraph
