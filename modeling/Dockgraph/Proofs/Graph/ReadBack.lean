import Dockgraph.Proofs.Graph.Document
import Dockgraph.Proofs.Order.Likeness

/-! Graphs that are written as documents and read back. Every node and edge comes back in its place, with everything
that it holds; only the coordinates come back as doubles, and the mark of an advanced use as what it amounts to. -/

namespace Dockgraph

/-- A value as the double that it is read as, where it is one. -/
def Json.asDouble (v : Json) : Json :=
  match Graph.coordinate v with
  | .ok x => .float x
  | .error _ => v

/-- The place as it is read back. -/
def Position.settled (p : Position) : Position :=
  ⟨p.x.asDouble, p.y.asDouble⟩

/-- The node as it is read back. -/
def Node.settled (n : Node) : Node :=
  { n with advanced := .bool n.advanced.isTruthy, position := n.position.settled }

/-- Both coordinates can be read. -/
def Position.IsReadable (p : Position) : Prop :=
  (∃ x, Graph.coordinate p.x = .ok x) ∧ ∃ y, Graph.coordinate p.y = .ok y

theorem Node.line?_settled (n : Node) : n.settled.line? = n.line? := rfl

namespace Graph

theorem coordinate_int {i : Int} (h : i.natAbs < Double.firstHuge) : ∃ x, coordinate (.int i) = .ok x := by
  cases hx : Double.ofInt? i with
  | none => exact absurd (Double.ofInt?_eq_none_iff.1 hx) (Nat.not_le.2 h)
  | some x => exact ⟨x, by rw [coordinate, hx]⟩

theorem nodeOfJson_toJson {n : Node} (h : n.position.IsReadable) : nodeOfJson n.toJson = .ok n.settled := by
  obtain ⟨⟨x, hx⟩, y, hy⟩ := h
  have hposition : n.position.settled = ⟨.float x, .float y⟩ := by
    simp only [Position.settled, Json.asDouble, hx, hy]
  have hread : nodeOfJson n.toJson = (coordinate n.position.x >>= fun x => coordinate n.position.y >>= fun y =>
      pure { n with advanced := .bool n.advanced.isTruthy, position := ⟨.float x, .float y⟩ }) := rfl
  rw [hread, hx, hy, Node.settled, hposition]
  rfl

theorem edgeOfJson_toJson (e : Edge) : edgeOfJson e.toJson = .ok e := rfl

theorem addNodes_map_toJson {g : Graph} {nodes : List Node} (hread : ∀ n ∈ nodes, n.position.IsReadable)
    (hdistinct : (g.nodes.ids ++ nodes.map Node.id).Nodup) :
    ∃ g', addNodes g (nodes.map Node.toJson) = .ok g' ∧
      g'.nodes.items = g.nodes.items ++ nodes.map Node.settled ∧ g'.edges = g.edges := by
  induction nodes generalizing g with
  | nil => exact ⟨g, rfl, (List.append_nil _).symm, rfl⟩
  | cons n nodes ih =>
    rw [List.forall_mem_cons] at hread
    have hfresh : n.settled.id ∉ g.nodes.ids := by
      intro hm
      exact (List.nodup_append.1 hdistinct).2.2 _ hm _ List.mem_cons_self rfl
    have hitems : (g.insertNode n.settled).nodes.items = g.nodes.items ++ [n.settled] :=
      Registry.items_insert_of_fresh hfresh
    have hids : (g.insertNode n.settled).nodes.ids = g.nodes.ids ++ [n.id] := Registry.ids_insert_of_fresh hfresh
    obtain ⟨g', hg, hnodes, hedges⟩ := ih (g := g.insertNode n.settled) hread.2 (by simpa [hids] using hdistinct)
    refine ⟨g', ?_, ?_, hedges⟩
    · rw [List.map_cons, addNodes, nodeOfJson_toJson hread.1]
      exact hg
    · rw [hnodes, hitems, List.append_assoc]
      rfl

theorem addEdges_map_toJson {g : Graph} {edges : List Edge} (hdistinct : (g.edges.ids ++ edges.map Edge.id).Nodup) :
    ∃ g', addEdges g (edges.map Edge.toJson) = .ok g' ∧ g'.edges.items = g.edges.items ++ edges ∧
      g'.nodes = g.nodes := by
  induction edges generalizing g with
  | nil => exact ⟨g, rfl, (List.append_nil _).symm, rfl⟩
  | cons e edges ih =>
    have hfresh : e.id ∉ g.edges.ids := by
      intro hm
      exact (List.nodup_append.1 hdistinct).2.2 _ hm _ List.mem_cons_self rfl
    have hitems : (g.insertEdge e).edges.items = g.edges.items ++ [e] := Registry.items_insert_of_fresh hfresh
    have hids : (g.insertEdge e).edges.ids = g.edges.ids ++ [e.id] := Registry.ids_insert_of_fresh hfresh
    obtain ⟨g', hg, hedges, hnodes⟩ := ih (g := g.insertEdge e) (by simpa [hids] using hdistinct)
    refine ⟨g', ?_, ?_, hnodes⟩
    · rw [List.map_cons, addEdges, edgeOfJson_toJson]
      exact hg
    · rw [hedges, hitems, List.append_assoc]
      rfl

theorem listField?_of_lookup {name : Text} {fields : List (Text × Json)} {items : List Json}
    (h : Json.field? name fields = some (.list items)) : listField? name fields = some items := by
  rw [listField?, h]
  cases items <;> rfl

/-- The graph of a graph's document, whatever other fields the document has. -/
theorem ofJson_toFields {g : Graph} (hread : ∀ n ∈ g.nodes.items, n.position.IsReadable)
    (more : List (Text × Json)) : ∃ g', ofJson (.object (g.toFields ++ more)) = .ok g' ∧
      g'.nodes.items = g.nodes.items.map Node.settled ∧ g'.edges = g.edges := by
  have hnodes : listField? "nodes".toList (g.toFields ++ more) = some (g.nodes.items.map Node.toJson) :=
    listField?_of_lookup rfl
  have hedges : listField? "edges".toList (g.toFields ++ more) = some (g.edges.items.map Edge.toJson) :=
    listField?_of_lookup rfl
  obtain ⟨g₁, hg₁, hitems, hempty⟩ := addNodes_map_toJson (g := .empty) hread g.nodes.distinct
  obtain ⟨g₂, hg₂, hlinks, hsame⟩ := addEdges_map_toJson (g := g₁) (by rw [hempty]; exact g.edges.distinct)
  refine ⟨g₂, ?_, ?_, ?_⟩
  · rw [ofJson, hnodes, hedges]
    dsimp only
    rw [hg₁]
    exact hg₂
  · rw [hsame, hitems]
    rfl
  · rw [hempty] at hlinks
    exact Registry.ext hlinks

end Graph

end Dockgraph
