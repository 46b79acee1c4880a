import Dockgraph.Proofs.Ids
import Dockgraph.Proofs.Order.Chain

/-! A chain grows at its end. A node with an id of its own, linked to the last node made, takes the place
of no other node and its edge that of no other edge. -/

namespace Dockgraph

namespace Graph

/-- The graph with one more node, linked to the last one made. -/
def grow (g : Graph) (n : Node) : Graph :=
  match g.nodes.ids.getLast? with
  | none => g.insertNode n
  | some last => (g.insertNode n).insertEdge (Edge.between last n.id)

theorem grow_of_none {g : Graph} (h : g.nodes.ids.getLast? = none) (n : Node) :
    g.grow n = g.insertNode n := by
  rw [grow, h]

theorem grow_of_some {g : Graph} {last : Text} (h : g.nodes.ids.getLast? = some last) (n : Node) :
    g.grow n = (g.insertNode n).insertEdge (Edge.between last n.id) := by
  rw [grow, h]

/-- A chain of nodes whose ids the source of ids knows. -/
structure Linear (g : Graph) (s : IdSource) : Prop where
  chain : g.IsChain
  known : ∀ id ∈ g.nodes.ids, s.Known id

theorem linear_empty (s : IdSource) : Graph.empty.Linear s where
  chain := rfl
  known _ h := absurd h List.not_mem_nil

/-- The id of an edge to a new node is none of those in the chain. -/
theorem Linear.between_fresh {g : Graph} {s : IdSource} (h : g.Linear s) {a b : Text}
    (ha : a ∈ g.nodes.ids) (hb : b ∉ g.nodes.ids) : (Edge.between a b).id ∉ g.edges.ids := by
  intro hm
  obtain ⟨e, he, hid⟩ := List.mem_map.1 hm
  rw [h.chain] at he
  obtain ⟨c, hc, d, hd, rfl⟩ := Edge.exists_of_mem_chain he
  obtain ⟨-, rfl⟩ := (h.known c hc).between_inj (h.known a ha) hid
  exact hb hd

theorem nodes_grow (g : Graph) (n : Node) : (g.grow n).nodes = g.nodes.insert n := by
  unfold grow
  split <;> rfl

theorem items_nodes_grow {g : Graph} {n : Node} (hn : n.id ∉ g.nodes.ids) :
    (g.grow n).nodes.items = g.nodes.items ++ [n] := by
  rw [nodes_grow, Registry.items_insert_of_fresh hn]

theorem ids_nodes_grow {g : Graph} {n : Node} (hn : n.id ∉ g.nodes.ids) :
    (g.grow n).nodes.ids = g.nodes.ids ++ [n.id] := by
  rw [nodes_grow, Registry.ids_insert_of_fresh hn]
  rfl

theorem Linear.items_edges_grow {g : Graph} {s : IdSource} (h : g.Linear s) {n : Node}
    (hn : n.id ∉ g.nodes.ids) : (g.grow n).edges.items =
      g.edges.items ++ g.nodes.ids.getLast?.toList.map (Edge.between · n.id) := by
  cases hl : g.nodes.ids.getLast? with
  | none =>
    rw [grow_of_none hl]
    exact (List.append_nil _).symm
  | some last =>
    have hfresh := h.between_fresh (List.mem_of_getLast? hl) hn
    rw [grow_of_some hl]
    exact Registry.items_insert_of_fresh hfresh

theorem Linear.grow {g : Graph} {s s' : IdSource} (h : g.Linear s) {n : Node} (hn : n.id ∉ g.nodes.ids)
    (hs : s'.session = s.session) (hle : s.issued ≤ s'.issued) (hk : s'.Known n.id) :
    (g.grow n).Linear s' where
  chain := by
    rw [IsChain, h.items_edges_grow hn, ids_nodes_grow hn, Edge.chain_snoc, h.chain]
  known id hid := by
    rw [ids_nodes_grow hn, List.mem_append, List.mem_singleton] at hid
    rcases hid with hid | rfl
    · exact (h.known id hid).mono hs hle
    · exact hk

/-- A source of ids makes ids that are new to the graph. -/
theorem Linear.next_fresh {g : Graph} {s : IdSource} (h : g.Linear s) (k : Text) :
    (s.next k).1 ∉ g.nodes.ids :=
  fun hm => s.not_known_next k (h.known _ hm)

theorem Linear.grow_next {g : Graph} {s : IdSource} (h : g.Linear s) {n : Node} {i : Instruction}
    (hn : n.id = (s.next i.keyword).1) : (g.grow n).Linear (s.next i.keyword).2 :=
  h.grow (hn ▸ h.next_fresh i.keyword) rfl (Nat.le_succ _) (hn ▸ s.known_next i)

end Graph

end Dockgraph
