import Dockgraph.Editor.Basic
import Dockgraph.Proofs.Registry

/-! Connecting two nodes. Whether they are linked is asked of the ends of the edges, but a new edge is stored
under the id that is made of both ends, and an edge that has this id already gives way to it. Ends with hyphens
make the same id in several ways. -/

namespace Dockgraph

/-- Whether some edge leads from `source` to `target`, be they nodes or not. -/
def Graph.Links (g : Graph) (source target : Text) : Prop :=
  ∃ d ∈ g.edges.items, d.source = source ∧ d.target = target

namespace Editor

variable {e : Editor} {source target : Text}

theorem edge?_eq_none_iff {g : Graph} : edge? g source target = none ↔ ¬ g.Links source target := by
  rw [edge?, List.find?_eq_none, Graph.Links]
  simp

theorem step_connect_of_links (h : e.graph.Links source target) :
    (e.step (.connect source target)).editor = e := by
  cases hd : edge? e.graph source target with
  | none => exact absurd h (edge?_eq_none_iff.1 hd)
  | some d => simp [step, done, connect, hd]

theorem step_connect_of_not_links (h : ¬ e.graph.Links source target) :
    (e.step (.connect source target)).editor =
      { e with graph := e.graph.insertEdge (Edge.between source target) } := by
  simp [step, done, connect, edge?_eq_none_iff.2 h]

/-- A new link is there afterwards, with every edge whose id is another one. -/
theorem mem_edges_connect (h : ¬ e.graph.Links source target) {d : Edge} :
    d ∈ (e.step (.connect source target)).editor.graph.edges.items ↔
      d = Edge.between source target ∨
      d ∈ e.graph.edges.items ∧ d.id ≠ (Edge.between source target).id := by
  rw [step_connect_of_not_links h]
  exact Registry.mem_items_insert

/-- What connecting two nodes does to the edges of any session. All edges are kept only where the two were linked
or the id of the new edge was free. -/
theorem connect_keeps_edges_iff (e : Editor) (source target : Text) :
    let link := Edge.between source target
    let connected := (e.step (.connect source target)).editor
    connected.graph.nodes = e.graph.nodes ∧
    connected.graph.Links source target ∧
    (∀ d ∈ connected.graph.edges.items, d ∈ e.graph.edges.items ∨ d = link) ∧
    (∀ d ∈ e.graph.edges.items, d ∈ connected.graph.edges.items ∨ d.id = link.id) ∧
    ((∀ d ∈ e.graph.edges.items, d ∈ connected.graph.edges.items) ↔
      e.graph.Links source target ∨ link.id ∉ e.graph.edges.ids) := by
  intro link connected
  by_cases h : e.graph.Links source target
  · have hsame : connected = e := step_connect_of_links h
    rw [hsame]
    exact ⟨rfl, h, fun d hd => Or.inl hd, fun d hd => Or.inl hd, by simp [h]⟩
  · have hmem : ∀ {d}, d ∈ connected.graph.edges.items ↔
        d = link ∨ d ∈ e.graph.edges.items ∧ d.id ≠ link.id := mem_edges_connect h
    refine ⟨?nodes, ?linked, ?added, ?kept, ?all, ?free⟩
    case nodes => exact congrArg (·.graph.nodes) (step_connect_of_not_links h)
    case linked => exact ⟨link, hmem.2 (Or.inl rfl), rfl, rfl⟩
    case added =>
      intro d hd
      exact (hmem.1 hd).elim Or.inr fun hold => Or.inl hold.1
    case kept =>
      intro d hd
      by_cases hid : d.id = link.id
      · exact Or.inr hid
      · exact Or.inl (hmem.2 (Or.inr ⟨hd, hid⟩))
    case all =>
      -- an edge with the id of the link is kept only if it is the link, which was not there
      intro hall
      refine Or.inr fun hid => ?_
      obtain ⟨d, hd, hdid⟩ := List.mem_map.1 hid
      rcases hmem.1 (hall d hd) with rfl | ⟨-, hne⟩
      · exact h ⟨link, hd, rfl, rfl⟩
      · exact hne hdid
    case free =>
      rintro (hl | hfree) d hd
      · exact absurd hl h
      · exact hmem.2 (Or.inr ⟨hd, fun hid => hfree (List.mem_map.2 ⟨d, hd, hid⟩)⟩)

/-- Four nodes whose ids make the id of an edge in two ways. -/
def hyphenated : List Command := [
  .addNode (Node.ofSpec "b-c".toList (Spec.ofInstruction .run) (.text "x".toList) (Script.placeOf 0)),
  .addNode (Node.ofSpec "a".toList (Spec.ofInstruction .base) (.text "i".toList) (Script.placeOf 1)),
  .addNode (Node.ofSpec "a-b".toList (Spec.ofInstruction .arg) (.text "v".toList) (Script.placeOf 2)),
  .addNode (Node.ofSpec "c".toList (Spec.ofInstruction .cmd) (.text "y".toList) (Script.placeOf 3))]

/-- It is not so that connecting keeps every edge: the link from `a-b` to `c` takes the place of the one from
`a` to `b-c`. -/
theorem not_connect_keeps_edges : ¬ ∀ (ids : IdSource) (rules : List Json) (commands : List Command)
    (source target : Text),
    let before := (start ids rules).after commands
    let connected := (before.step (.connect source target)).editor
    (∀ d ∈ before.graph.edges.items, d ∈ connected.graph.edges.items) ∧
      connected.graph.Links source target ∧
      connected.graph.edges.size ≤ before.graph.edges.size + 1 := by
  intro h
  have hbad := (h (.ofSession "s".toList) [] (hyphenated ++ [.connect "a".toList "b-c".toList]) "a-b".toList
    "c".toList).1 (Edge.between "a".toList "b-c".toList) (by decide +kernel)
  revert hbad
  decide +kernel

end Editor

end Dockgraph
