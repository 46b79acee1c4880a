import Dockgraph.Proofs.Editor.Connection
import Dockgraph.Proofs.Editor.Sequential

/-! Sessions that link only nodes that are there. Every edge has the id that is made of its ends and leads from
one node of the graph to another: an edge goes with either of its nodes, and nothing else takes a node away. As the
ids of nodes are those of the session's source or numerals, the id of an edge can be taken apart again, so no link
takes the place of another. -/

namespace Dockgraph

open Identified (ident)

namespace Graph

/-- Edges are named after their ends, which are nodes with ids that the source knows. -/
structure Intact (g : Graph) (s : IdSource) : Prop where
  known : ∀ id ∈ g.nodes.ids, s.Known id
  named : ∀ d ∈ g.edges.items, d = Edge.between d.source d.target
  anchored : ∀ d ∈ g.edges.items, d.source ∈ g.nodes.ids ∧ d.target ∈ g.nodes.ids

variable {g : Graph} {s s' : IdSource}

theorem intact_empty (s : IdSource) : Graph.empty.Intact s where
  known _ h := absurd h List.not_mem_nil
  named _ h := absurd h List.not_mem_nil
  anchored _ h := absurd h List.not_mem_nil

theorem Linear.intact (h : g.Linear s) : g.Intact s where
  known := h.known
  named d hd := by
    rw [h.chain] at hd
    obtain ⟨a, -, b, -, rfl⟩ := Edge.exists_of_mem_chain hd
    rfl
  anchored d hd := by
    rw [h.chain] at hd
    exact Edge.mem_ids_of_mem_chain hd

theorem Intact.insertNode (h : g.Intact s) {n : Node} (hs : s'.session = s.session) (hle : s.issued ≤ s'.issued)
    (hn : s'.Known n.id) : (g.insertNode n).Intact s' where
  known id hid := by
    rcases Registry.mem_ids_insert.1 hid with rfl | hid
    · exact hn
    · exact (h.known id hid).mono hs hle
  named := h.named
  anchored d hd := by
    obtain ⟨hsource, htarget⟩ := h.anchored d hd
    exact ⟨Registry.mem_ids_insert.2 (Or.inr hsource), Registry.mem_ids_insert.2 (Or.inr htarget)⟩

theorem Intact.insertEdge (h : g.Intact s) {a b : Text} (ha : a ∈ g.nodes.ids) (hb : b ∈ g.nodes.ids) :
    (g.insertEdge (Edge.between a b)).Intact s where
  known := h.known
  named d hd := by
    rcases Registry.mem_items_insert.1 hd with rfl | ⟨hd, -⟩
    · rfl
    · exact h.named d hd
  anchored d hd := by
    rcases Registry.mem_items_insert.1 hd with rfl | ⟨hd, -⟩
    · exact ⟨ha, hb⟩
    · exact h.anchored d hd

/-- No link between nodes that are there has the id of another edge. -/
theorem Intact.links_or_fresh (h : g.Intact s) {a b : Text} (ha : a ∈ g.nodes.ids) :
    g.Links a b ∨ (Edge.between a b).id ∉ g.edges.ids := by
  by_contra hno
  rw [not_or, not_not] at hno
  obtain ⟨hlinks, hid⟩ := hno
  obtain ⟨d, hd, hdid⟩ := List.mem_map.1 hid
  have hsource := h.known d.source (h.anchored d hd).1
  have hbetween : (Edge.between d.source d.target).id = (Edge.between a b).id := h.named d hd ▸ hdid
  obtain ⟨hda, hdb⟩ := hsource.between_inj (h.known a ha) hbetween
  exact hlinks ⟨d, hd, hda, hdb⟩

/-- Edges that are named after their ends have different ends. -/
theorem Intact.nodup_ends (h : g.Intact s) : (g.edges.items.map fun d => (d.source, d.target)).Nodup := by
  have hids : g.edges.items.map ident =
      (g.edges.items.map fun d => (d.source, d.target)).map fun p => (Edge.between p.1 p.2).id := by
    rw [List.map_map]
    exact List.map_congr_left fun d hd => congrArg Edge.id (h.named d hd)
  have hdistinct := g.edges.distinct
  rw [hids] at hdistinct
  exact hdistinct.of_map _

end Graph

namespace Editor

/-- Whether the edit leaves the making of nodes and edges to the session and links only nodes that are there. -/
def Command.isAnchored (e : Editor) : Command → Bool
  | .connect source target => e.graph.nodes.has source && e.graph.nodes.has target
  | .addNode _ | .addEdge _ | .loadDocument .. => false
  | .add .. | .update .. | .move .. | .remove _ | .disconnect _ | .setFileName _ | .reset | .importText ..
  | .loadTemplate _ => true

/-- Whether every edit of a run is anchored where its turn comes. -/
def isAnchored (e : Editor) : List Command → Bool
  | [] => true
  | c :: commands => c.isAnchored e && (e.step c).editor.isAnchored commands

def Intact (e : Editor) : Prop :=
  e.graph.Intact e.ids

variable {e : Editor}

theorem intact_start (ids : IdSource) (rules : List Json) : (start ids rules).Intact :=
  Graph.intact_empty ids

theorem Intact.connect (h : e.Intact) {source target : Text} (hs : source ∈ e.graph.nodes.ids)
    (ht : target ∈ e.graph.nodes.ids) : (e.connect source target).1.Intact := by
  unfold Editor.connect
  split
  · exact h
  · exact Graph.Intact.insertEdge h hs ht

theorem Intact.addSpec (h : e.Intact) (spec : Spec) (arguments : Json) (position : Position) :
    (e.addSpec spec arguments position).editor.Intact := by
  let k := spec.instruction.keyword
  let node := Node.ofSpec (e.ids.next k).1 spec arguments position
  have hgrown : Intact { e with graph := e.graph.insertNode node, ids := (e.ids.next k).2 } :=
    Graph.Intact.insertNode h rfl (Nat.le_succ _) (e.ids.known_next spec.instruction)
  unfold Editor.addSpec
  cases hlast : e.graph.nodes.items.getLast? with
  | none => exact hgrown
  | some last =>
    have hmem : last.id ∈ e.graph.nodes.ids := Registry.mem_ids_of_mem (List.mem_of_getLast? hlast)
    exact hgrown.connect (Registry.mem_ids_insert.2 (Or.inr hmem)) (Registry.mem_ids_insert.2 (Or.inl rfl))

theorem Intact.add (h : e.Intact) (reference : Reference) (arguments : Json) :
    (e.add reference arguments).editor.Intact := by
  unfold Editor.add
  split
  · exact h
  · split
    · exact h
    · exact h.addSpec _ _ _

theorem Intact.replaceNode (h : e.Intact) {n : Node} (hn : n.id ∈ e.graph.nodes.ids) :
    (e.replaceNode n).Intact :=
  Graph.Intact.insertNode h rfl le_rfl (h.known n.id hn)

theorem Intact.update (h : e.Intact) (id : Text) (fields : List (Text × Json)) :
    (e.update id fields).editor.Intact := by
  unfold Editor.update
  split
  · split
    · exact h
    · next n hn =>
      refine h.replaceNode ?_
      rw [id_foldl_setNodeField]
      exact id_mem_of_find? hn
  · exact h

theorem Intact.move (h : e.Intact) (id : Text) (x y : Json) : (e.move id x y).editor.Intact := by
  unfold Editor.move
  split
  · exact h
  · next n hn =>
    have hm := id_mem_of_find? hn
    exact h.replaceNode hm

/-- The edges that stay when a node is removed touch other nodes only, which stay too. -/
theorem Intact.remove (h : e.Intact) (id : Text) : (e.remove id).editor.Intact := by
  unfold Editor.remove
  split
  · have stays : ∀ d ∈ (e.graph.edges.eraseAll (touches id)).items,
        d ∈ e.graph.edges.items ∧ d.source ≠ id ∧ d.target ≠ id := by
      intro d hd
      obtain ⟨hd, htouch⟩ := List.mem_filter.1 hd
      exact ⟨hd, by simpa [touches] using htouch⟩
    refine ⟨fun i hi => h.known i (Registry.mem_ids_erase.1 hi).1, fun d hd => h.named d (stays d hd).1,
      fun d hd => ?_⟩
    obtain ⟨hd, hsource, htarget⟩ := stays d hd
    obtain ⟨hs, ht⟩ := h.anchored d hd
    exact ⟨Registry.mem_ids_erase.2 ⟨hs, hsource⟩, Registry.mem_ids_erase.2 ⟨ht, htarget⟩⟩
  · exact h

theorem Intact.disconnect (h : e.Intact) (id : Text) : (e.disconnect id).editor.Intact := by
  unfold Editor.disconnect
  split
  · exact ⟨h.known, fun d hd => h.named d (List.mem_filter.1 hd).1,
      fun d hd => h.anchored d (List.mem_filter.1 hd).1⟩
  · exact h

theorem Intact.loadTemplate (h : e.Intact) (id : Option Text) : (e.loadTemplate id).editor.Intact := by
  unfold Editor.loadTemplate
  split
  · exact h
  · next t ht =>
    obtain ⟨n, hn⟩ := Template.numbered_of_load ht
    exact (hn.linear e.ids).intact

theorem Intact.step (h : e.Intact) {c : Command} (hc : c.isAnchored e = true) : (e.step c).editor.Intact := by
  cases c with
  | add reference arguments => exact h.add reference arguments
  | update id fields => exact h.update id fields
  | move id x y => exact h.move id x y
  | remove id => exact h.remove id
  | connect source target =>
    rw [Command.isAnchored, Bool.and_eq_true, Registry.has_iff, Registry.has_iff] at hc
    exact h.connect hc.1 hc.2
  | disconnect id => exact h.disconnect id
  | setFileName name => exact h
  | reset => exact Graph.intact_empty e.ids
  | importText content fileName => exact (linear_importText e content fileName).intact
  | loadTemplate id => exact h.loadTemplate id
  | addNode n => cases hc
  | addEdge d => cases hc
  | loadDocument document fileName => cases hc

theorem Intact.after (h : e.Intact) {commands : List Command} (hc : e.isAnchored commands = true) :
    (e.after commands).Intact := by
  induction commands generalizing e with
  | nil => exact h
  | cons c commands ih =>
    rw [isAnchored, Bool.and_eq_true] at hc
    exact ih (h.step hc.1) hc.2

/-- After any anchored run every node and every edge is found under its id, that of an edge is made of its ends,
the ends are nodes, and no two edges have the same ones. A further link between nodes leaves every edge as it is. -/
theorem anchored_run (session : Text) (rules : List Json) (commands : List Command)
    (hc : (start (.ofSession session) rules).isAnchored commands = true) :
    let e := (start (.ofSession session) rules).after commands
    (∀ id n, e.graph.nodes.find? id = some n ↔ n ∈ e.graph.nodes.items ∧ n.id = id) ∧
    (∀ id d, e.graph.edges.find? id = some d ↔ d ∈ e.graph.edges.items ∧ d.id = id) ∧
    (∀ d ∈ e.graph.edges.items, d.id = 'e' :: d.source ++ '-' :: d.target) ∧
    (∀ d ∈ e.graph.edges.items, d.source ∈ e.graph.nodes.ids ∧ d.target ∈ e.graph.nodes.ids) ∧
    e.graph.danglingEdges = [] ∧
    (e.graph.edges.items.map fun d => (d.source, d.target)).Nodup ∧
    ∀ source ∈ e.graph.nodes.ids, ∀ target, ∀ d ∈ e.graph.edges.items,
      d ∈ (e.step (.connect source target)).editor.graph.edges.items := by
  intro e
  have h : e.Intact := (intact_start (.ofSession session) rules).after hc
  refine ⟨fun _ _ => Registry.find?_eq_some_iff, fun _ _ => Registry.find?_eq_some_iff, ?named, h.anchored, ?live,
    h.nodup_ends, ?kept⟩
  case named => exact fun d hd => congrArg Edge.id (h.named d hd)
  case live =>
    rw [Graph.danglingEdges, List.filter_eq_nil_iff]
    intro d hd
    obtain ⟨hs, ht⟩ := h.anchored d hd
    simp [Graph.isLive, Registry.has_iff.2 hs, Registry.has_iff.2 ht]
  case kept =>
    intro source hs target
    exact (connect_keeps_edges_iff e source target).2.2.2.2.2 (h.links_or_fresh hs)

/-- A template, additions in a session whose name has hyphens and digits, a circle, and removals that cut it. -/
def tangledRun : List Command := [
  .loadTemplate (some "nginx"),
  .add (.named (some "run")) .null,
  .connect "run_1-2_3_1" "1",
  .connect "4" "2",
  .add (.withId "copy_from") (.text ". ."),
  .remove "3",
  .remove "gone",
  .connect "copy_1-2_3_2" "copy_1-2_3_2",
  .disconnect "e4-2",
  .update "1" [("keyword".toList, .null)],
  .connect "1" "2"]

theorem anchored_tangledRun :
    (start (.ofSession "1-2_3") []).isAnchored tangledRun = true ∧
    ((start (.ofSession "1-2_3") []).after tangledRun).graph.edges.ids =
      ["e1-2".toList, "e4-run_1-2_3_1".toList, "erun_1-2_3_1-1".toList, "erun_1-2_3_1-copy_1-2_3_2".toList,
        "ecopy_1-2_3_2-copy_1-2_3_2".toList] ∧
    ((start (.ofSession "1-2_3") []).after tangledRun).graph.danglingEdges = [] := by
  have hc : (start (.ofSession "1-2_3") []).isAnchored tangledRun = true := by decide +kernel
  exact ⟨hc, by decide +kernel, (anchored_run "1-2_3" [] tangledRun hc).2.2.2.2.1⟩

end Editor

end Dockgraph
