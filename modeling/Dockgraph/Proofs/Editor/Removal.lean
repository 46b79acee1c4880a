import Dockgraph.Proofs.Editor.Sequential
import Dockgraph.Proofs.Script.RoundTrip

/-! What a removal does to an imported Dockerfile. The chain falls into the one above the node and the one
below it, with no edge between them, and the two come out by turns. So their lines are mixed as soon as two
nodes stand above and one below. -/

namespace Dockgraph.Editor

theorem touches_between {a b c : Text} : touches a (Edge.between b c) = (b == a || c == a) := rfl

theorem filter_touches_chain_of_notMem {ids : List Text} {a : Text} (h : a ∉ ids) :
    ((Edge.chain ids).filter fun e => !touches a e) = Edge.chain ids := by
  rw [List.filter_eq_self]
  intro e he
  obtain ⟨b, hb, c, hc, rfl⟩ := Edge.exists_of_mem_chain he
  have hba : b ≠ a := fun hba => h (hba ▸ hb)
  have hca : c ≠ a := fun hca => h (hca ▸ hc)
  simp [touches_between, hba, hca]

/-- Without the edges at one of its nodes a chain is two chains. -/
theorem filter_touches_chain {before after : List Text} {a : Text} (h : (before ++ a :: after).Nodup) :
    ((Edge.chain (before ++ a :: after)).filter fun e => !touches a e) =
      Edge.chain before ++ Edge.chain after := by
  induction before with
  | nil =>
    rw [List.nil_append, List.nodup_cons] at h
    have hfirst : ∀ b, (!touches a (Edge.between a b)) = false := fun b => by simp [touches_between]
    rw [List.nil_append, Edge.chain_cons, List.filter_append, Edge.filter_map_between hfirst,
      filter_touches_chain_of_notMem h.1]
    rfl
  | cons b before ih =>
    rw [List.cons_append, List.nodup_cons] at h
    have hb : b ≠ a := fun hba => h.1 (by simp [hba])
    rw [List.cons_append, Edge.chain_cons, List.filter_append, ih h.2, Edge.chain_cons, List.append_assoc]
    congr 1
    cases before with
    | nil => simp [touches_between]
    | cons c before =>
      have hc : c ≠ a := by
        rintro rfl
        rw [List.cons_append, List.nodup_cons] at h
        exact h.2.1 (by simp)
      simp [touches_between, hb, hc]

/-- The removal of a node of a chain leaves the chains above and below it. -/
theorem twoChains_remove {e : Editor} (hc : e.graph.IsChain) {before after : List Node} {n : Node}
    (h : e.graph.nodes.items = before ++ n :: after) :
    (e.remove n.id).editor.graph.nodes.items = before ++ after ∧
    (e.remove n.id).editor.graph.TwoChains (before.map Node.id) (after.map Node.id) := by
  have hids : e.graph.nodes.ids = before.map Node.id ++ n.id :: after.map Node.id := by
    rw [Registry.ids, h, List.map_append, List.map_cons]
    rfl
  have hm : e.graph.nodes.has n.id = true := by
    rw [Registry.has_iff, hids]
    simp
  have hn := e.graph.nodes.nodup_ids
  rw [hids] at hn
  have hr : (e.remove n.id).editor.graph =
      ⟨e.graph.nodes.erase n.id, e.graph.edges.eraseAll (touches n.id)⟩ := by
    rw [remove, if_pos hm]
    rfl
  have hi : (e.graph.nodes.erase n.id).items = before ++ after := Registry.items_erase h
  rw [hr]
  refine ⟨hi, ?_, ?_⟩
  · rw [Registry.ids, hi, List.map_append]
    rfl
  · change e.graph.edges.items.filter (fun edge => !touches n.id edge) = _
    rw [hc, hids, filter_touches_chain hn]

/-! The lines of an imported Dockerfile. -/

/-- The lines that the nodes of an import have, split as the nodes are. -/
theorem exists_lines (content : Text) (ids : IdSource) {before after : List Node} {n : Node}
    (h : (Script.parse content ids).1.nodes.items = before ++ n :: after) :
    ∃ (above : List Text) (line : Text) (below : List Text),
      before.map Node.line? = above.map some ∧ n.line? = some line ∧
      after.map Node.line? = below.map some ∧ ∀ l ∈ above ++ below, '\n' ∉ l := by
  have hl := Script.map_line?_parse content ids
  rw [h, List.map_append, List.map_cons] at hl
  obtain ⟨is, rest, hi, hb, hr⟩ := List.map_eq_append_iff.1 hl.symm
  obtain ⟨i, js, hj, hn, ha⟩ := List.map_eq_cons_iff.1 hr
  refine ⟨is.map Script.lineOf, Script.lineOf i, js.map Script.lineOf, ?_, ?_, ?_, ?_⟩
  · rw [← hb, List.map_map]
  · exact hn.symm
  · rw [← ha, List.map_map]
  · intro l hl'
    rw [← List.map_append] at hl'
    obtain ⟨j, hj', rfl⟩ := List.mem_map.1 hl'
    have hm : j ∈ Script.instructions content := by
      rw [hi, hj]
      rcases List.mem_append.1 hj' with hj' | hj'
      · exact List.mem_append_left _ hj'
      · exact List.mem_append_right _ (List.mem_cons_of_mem _ hj')
    exact (Script.isLine_lineOf hm).oneLine

/-- A removal after an import takes out the node's line and no other. Of the lines above it and those
below it each keep their order, but they come out by turns, so the nodes keep theirs only where at most one
stood above or none below. -/
theorem remove_after_import (e : Editor) (content : Text) (fileName : Option Text)
    {before after : List Node} {n : Node}
    (h : (e.importText content fileName).editor.graph.nodes.items = before ++ n :: after) :
    let imported := (e.importText content fileName).editor
    let removed := (imported.remove n.id).editor
    ∃ (above : List Text) (line : Text) (below : List Text),
      before.map Node.line? = above.map some ∧ n.line? = some line ∧
      after.map Node.line? = below.map some ∧
      imported.content = Text.unlines (above ++ line :: below) ∧
      removed.content = Text.unlines (alternate above below) ∧
      (removed.content = Text.unlines (above ++ below) ↔ alternate above below = above ++ below) ∧
      removed.graph.ordered = alternate before after ∧
      (removed.graph.ordered = before ++ after ↔ before.length ≤ 1 ∨ after = []) := by
  intro imported removed
  have hc : imported.graph.IsChain := (linear_importText e content fileName).chain
  obtain ⟨hi, ht⟩ := twoChains_remove hc h
  obtain ⟨above, line, below, hb, hn, ha, hnl⟩ := exists_lines content e.ids h
  have horder : removed.graph.ordered = alternate before after := ht.ordered_eq hi
  have hmap : (alternate before after).map Node.line? = (alternate above below).map some := by
    rw [map_alternate, hb, ha, map_alternate]
  have hcontent : removed.content = Text.unlines (alternate above below) := by
    rw [Editor.content, Graph.text, horder, Script.render, Script.filterMap_line? hmap]
  have hnodup : (before ++ after).Nodup := by
    rw [← hi]
    exact List.Nodup.of_map _ removed.graph.nodes.distinct
  refine ⟨above, line, below, hb, hn, ha, ?_, hcontent, ⟨fun he => ?_, fun he => ?_⟩, horder, ?_⟩
  · have hall : (before ++ n :: after).map Node.line? = (above ++ line :: below).map some := by
      rw [List.map_append, List.map_cons, hb, hn, ha, List.map_append, List.map_cons]
    rw [Editor.content, Graph.text, hc.ordered, h, Script.render, Script.filterMap_line? hall]
  · have hp := alternate_perm above below
    rw [hcontent] at he
    exact Text.unlines_inj (fun l hl => hnl l (hp.subset hl)) hnl hp.length_eq he
  · rw [hcontent, he]
  · rw [horder]
    exact alternate_eq_append_iff hnodup

/-- A new session with an imported Dockerfile. -/
def ofText (session content : Text) : Editor :=
  ((start (.ofSession session) []).importText content none).editor

/-- The third of four nodes has two above it and one below, which comes to stand between them. -/
theorem remove_third_of_four :
    let e := ofText "s" "FROM a\nRUN b\nRUN c\nRUN d"
    let third := Node.ofSpec "run_s_3" (Spec.ofInstruction .run) (.text "c") (Script.placeOf 2)
    e.graph.nodes.items = e.graph.nodes.items.take 2 ++ third :: e.graph.nodes.items.drop 3 ∧
    (e.remove third.id).editor.graph.ordered ≠ e.graph.nodes.items.take 2 ++ e.graph.nodes.items.drop 3 := by
  intro e third
  have h : e.graph.nodes.items = e.graph.nodes.items.take 2 ++ third :: e.graph.nodes.items.drop 3 := rfl
  obtain ⟨_, _, _, _, _, _, _, _, _, _, horder⟩ :=
    remove_after_import (start (.ofSession "s") []) "FROM a\nRUN b\nRUN c\nRUN d" none h
  refine ⟨h, fun heq => ?_⟩
  rcases horder.1 heq with hl | hd
  · exact absurd hl (by decide +kernel)
  · exact absurd (congrArg List.length hd) (by decide +kernel)

/-- It is not so that a removal takes the node's line out and leaves the others in their order. -/
theorem not_remove_keeps_order : ¬ ∀ session content id : Text,
    id ∈ (ofText session content).graph.nodes.ids →
    ((ofText session content).remove id).editor.content =
      Text.unlines ((Text.lines (ofText session content).content).eraseIdx
        ((ofText session content).graph.nodes.ids.idxOf id)) := by
  intro h
  have hbad := h "s" "FROM a\nRUN b\nRUN c\nRUN d" "run_s_3" (by decide +kernel)
  revert hbad
  decide +kernel

end Dockgraph.Editor
