import Dockgraph.Proofs.Order.Progress
import Dockgraph.Script.Render

/-! The order of writing is a matter of the ids and the edges alone. What the nodes hold shows in the lines that they
are written as and nowhere else. -/

namespace Dockgraph

namespace Graph

open Sequencing

/-- The same edges between nodes with the same ids in the same order. -/
structure Alike (g h : Graph) : Prop where
  ids : g.nodes.ids = h.nodes.ids
  edges : g.edges.items = h.edges.items

namespace Alike

variable {g h : Graph} (hgh : Alike g h)

include hgh

theorem liveEdges : g.liveEdges = h.liveEdges := by
  have hhas : ∀ i, g.nodes.has i = h.nodes.has i := by
    intro i
    rw [Bool.eq_iff_iff, Registry.has_iff, Registry.has_iff, hgh.ids]
  rw [Graph.liveEdges, Graph.liveEdges, hgh.edges]
  exact List.filter_congr fun e _ => by rw [isLive, isLive, hhas, hhas]

theorem size : g.nodes.size = h.nodes.size := by
  rw [← Registry.length_ids, ← Registry.length_ids, hgh.ids]

theorem start : start g = start h := by
  have hincoming : incoming g = incoming h := by
    funext i
    rw [incoming, incoming, hgh.liveEdges]
  rw [Sequencing.start, Sequencing.start, hgh.ids, hincoming]

theorem turn (p : Progress) : turn g p = turn h p := by
  cases hq : p.queue with
  | nil => rw [turn_of_nil hq, turn_of_nil hq]
  | cons id rest =>
    have htargets : targets g id = targets h id := by rw [targets, targets, hgh.liveEdges]
    rw [turn_of_cons hq, turn_of_cons hq, htargets]

theorem after (n : Nat) : after g n = after h n := by
  induction n with
  | zero => exact hgh.start
  | succ n ih => rw [Sequencing.after, Sequencing.after, ih, hgh.turn]

theorem orderedIds : g.orderedIds = h.orderedIds := by
  rw [Graph.orderedIds, Graph.orderedIds, final, final, hgh.after, hgh.size, hgh.ids]

end Alike

/-- Nodes that are changed within themselves are written in the order of the old ones. -/
theorem ordered_of_map {g h : Graph} {f : Node → Node} (hid : ∀ n, (f n).id = n.id)
    (hnodes : g.nodes.items = h.nodes.items.map f) (hedges : g.edges.items = h.edges.items) :
    g.ordered = h.ordered.map f := by
  have hids : g.nodes.ids = h.nodes.ids := by
    rw [Registry.ids, Registry.ids, hnodes, List.map_map]
    exact List.map_congr_left fun n _ => hid n
  have hfind : ∀ i, g.nodes.find? i = (h.nodes.find? i).map f := by
    intro i
    have hsame : ((fun n => n.id == i) ∘ f) = fun n => n.id == i := by
      funext n
      rw [Function.comp_apply, hid]
    change g.nodes.items.find? (fun n => n.id == i) = (h.nodes.items.find? fun n => n.id == i).map f
    rw [hnodes, List.find?_map, hsame]
  rw [ordered, ordered, Alike.orderedIds ⟨hids, hedges⟩, List.map_filterMap]
  exact List.filterMap_congr fun i _ => hfind i

/-- Nodes that keep their lines keep the text. -/
theorem text_of_map {g h : Graph} {f : Node → Node} (hid : ∀ n, (f n).id = n.id) (hline : ∀ n, (f n).line? = n.line?)
    (hnodes : g.nodes.items = h.nodes.items.map f) (hedges : g.edges.items = h.edges.items) : g.text = h.text := by
  rw [text, text, ordered_of_map hid hnodes hedges, Script.render, Script.render, List.filterMap_map]
  exact congrArg Text.unlines (List.filterMap_congr fun n _ => hline n)

end Graph

end Dockgraph
