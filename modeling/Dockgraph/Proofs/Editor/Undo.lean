import Dockgraph.Proofs.Editor.Integrity

/-! Edits that are taken back. Ids are not made twice, neither for nodes nor, where edges are named after their ends, for
edges; and an edge goes with its nodes, so none is left that touches an id to come. Therefore the node that an addition
makes can be removed again, with its edge and no other, and a new edge can be taken out again, and everything is where it
was; of the session only the source of ids has gone on. -/

namespace Dockgraph

open Identified (ident)

/-- A new item that is dropped again leaves nothing behind. -/
theorem Registry.erase_insert_of_fresh {α : Type} [Identified α] {r : Registry α} {x : α} (h : ident x ∉ r.ids) :
    (r.insert x).erase (ident x) = r := by
  refine Registry.ext ?_
  rw [items_erase (items_insert_of_fresh h), List.append_nil]

namespace Graph

variable {g : Graph} {s : IdSource} {n : Node} {id : Text}

/-- No edge leads from an id that is no node's or to it. -/
theorem Intact.not_links (h : g.Intact s) {a b : Text} (hb : b ∉ g.nodes.ids) : ¬ g.Links a b := by
  rintro ⟨d, hd, -, rfl⟩
  exact hb (h.anchored d hd).2

theorem Intact.eraseAll_touches (h : g.Intact s) (hid : id ∉ g.nodes.ids) :
    g.edges.eraseAll (Editor.touches id) = g.edges := by
  refine Registry.ext (List.filter_eq_self.2 fun d hd => ?_)
  obtain ⟨hs, ht⟩ := h.anchored d hd
  have hsource : d.source ≠ id := fun he => hid (he ▸ hs)
  have htarget : d.target ≠ id := fun he => hid (he ▸ ht)
  simp [Editor.touches, hsource, htarget]

/-- A node that is added and linked to the last one can be taken out again with the edges at it. -/
theorem Intact.grow_undone (h : g.Intact s) (hn : n.id ∉ g.nodes.ids) :
    Graph.mk ((g.grow n).nodes.erase n.id) ((g.grow n).edges.eraseAll (Editor.touches n.id)) = g := by
  have hnodes : (g.grow n).nodes.erase n.id = g.nodes := by
    rw [nodes_grow]
    exact Registry.erase_insert_of_fresh hn
  have hold := h.eraseAll_touches hn
  have hedges : (g.grow n).edges.eraseAll (Editor.touches n.id) = g.edges := by
    cases hl : g.nodes.ids.getLast? with
    | none =>
      rw [grow_of_none hl]
      exact hold
    | some last =>
      have hfresh := (h.links_or_fresh (b := n.id) (List.mem_of_getLast? hl)).resolve_left (h.not_links hn)
      rw [grow_of_some hl]
      refine Registry.ext ?_
      rw [← hold]
      change ((g.edges.insert (Edge.between last n.id)).items.filter fun d => !Editor.touches n.id d) = _
      rw [Registry.items_insert_of_fresh hfresh, List.filter_append]
      simp [Registry.eraseAll, Editor.touches, Edge.between]
  rw [hnodes, hedges]

end Graph

namespace Editor

variable {e : Editor}

theorem step_remove_of_mem {id : Text} (h : id ∈ e.graph.nodes.ids) :
    e.step (.remove id) =
      { e with graph := ⟨e.graph.nodes.erase id, e.graph.edges.eraseAll (touches id)⟩ }.done (.flag true) := by
  rw [step, remove, if_pos (Registry.has_iff.2 h)]

theorem step_disconnect_of_mem {id : Text} (h : id ∈ e.graph.edges.ids) :
    e.step (.disconnect id) =
      { e with graph := { e.graph with edges := e.graph.edges.erase id } }.done (.flag true) := by
  rw [step, disconnect, if_pos (Registry.has_iff.2 h)]

theorem answer_connect_of_not_links {source target : Text} (h : ¬ e.graph.Links source target) :
    (e.step (.connect source target)).answer = .ok (.edge (Edge.between source target)) := by
  simp [step, done, connect, edge?_eq_none_iff.2 h]

/-- What succeeds in adding makes the graph grow by a node with an id of its own. -/
theorem Intact.exists_grow_of_add (h : e.Intact) {reference : Reference} {arguments : Json} {answer : Answer}
    (ha : (e.step (.add reference arguments)).answer = .ok answer) :
    ∃ n ids, answer = .node n ∧ n.id ∉ e.graph.nodes.ids ∧
      e.step (.add reference arguments) = { e with graph := e.graph.grow n, ids := ids }.done (.node n) := by
  obtain ⟨spec, position, hspec⟩ := exists_addSpec_of_ok ha
  have hfresh : (e.ids.next spec.instruction.keyword).1 ∉ e.graph.nodes.ids := fun hm =>
    e.ids.not_known_next _ (h.known _ hm)
  have hgrow := addSpec_eq_of_fresh (fun source => edge?_eq_none_iff.2 (h.not_links hfresh)) arguments position
  have hstep := hspec.trans hgrow
  have hanswer := ha.symm.trans (congrArg Outcome.answer hstep)
  exact ⟨_, _, Except.ok.inj hanswer, hfresh, hstep⟩

/-- Without the new node the session is as before, but for the source of ids. -/
theorem Intact.add_undone (h : e.Intact) {reference : Reference} {arguments : Json} {answer : Answer}
    (ha : (e.step (.add reference arguments)).answer = .ok answer) :
    let added := (e.step (.add reference arguments)).editor
    ∃ n, answer = .node n ∧ added.graph.nodes.items = e.graph.nodes.items ++ [n] ∧
      added.step (.remove n.id) = { e with ids := added.ids }.done (.flag true) := by
  obtain ⟨n, ids, hanswer, hn, hadd⟩ := h.exists_grow_of_add ha
  have hmem : n.id ∈ (e.graph.grow n).nodes.ids := by
    rw [Graph.ids_nodes_grow hn]
    exact List.mem_append_right _ List.mem_cons_self
  rw [hadd]
  refine ⟨n, hanswer, Graph.items_nodes_grow hn, ?_⟩
  exact (step_remove_of_mem hmem).trans
    (congrArg (fun g => Editor.done { e with graph := g, ids := ids } (.flag true)) (Graph.Intact.grow_undone h hn))

/-- Without the new edge the session is as before. -/
theorem Intact.connect_undone (h : e.Intact) {source target : Text} (hs : source ∈ e.graph.nodes.ids)
    (hlinks : ¬ e.graph.Links source target) :
    let connected := e.step (.connect source target)
    ∃ d, connected.answer = .ok (.edge d) ∧ connected.editor.graph.edges.items = e.graph.edges.items ++ [d] ∧
      connected.editor.step (.disconnect d.id) = e.done (.flag true) := by
  have hfresh := (h.links_or_fresh (b := target) hs).resolve_left hlinks
  have hmem : (Edge.between source target).id ∈ (e.graph.edges.insert (Edge.between source target)).ids :=
    Registry.mem_ids_insert.2 (Or.inl rfl)
  refine ⟨Edge.between source target, answer_connect_of_not_links hlinks, ?_⟩
  rw [step_connect_of_not_links hlinks]
  refine ⟨Registry.items_insert_of_fresh hfresh, (step_disconnect_of_mem hmem).trans ?_⟩
  exact congrArg (fun edges => Editor.done { e with graph := { e.graph with edges := edges } } (.flag true))
    (Registry.erase_insert_of_fresh hfresh)

/-- After any anchored run an addition that succeeds is taken back by the removal of the node that it answers: nodes,
edges, their orders, the name of the file and the text to export are those from before, and only the count of ids has
gone on. A new link between nodes is taken back by taking out the edge that it answers, and nothing at all is left
of it. -/
theorem edits_undone (session : Text) (rules : List Json) (commands : List Command)
    (hc : (start (.ofSession session) rules).isAnchored commands = true) :
    let e := (start (.ofSession session) rules).after commands
    (∀ reference arguments answer, (e.step (.add reference arguments)).answer = .ok answer →
      let added := (e.step (.add reference arguments)).editor
      ∃ n, answer = .node n ∧ added.graph.nodes.items = e.graph.nodes.items ++ [n] ∧
        let undone := added.step (.remove n.id)
        undone.answer = .ok (.flag true) ∧ undone.editor = { e with ids := added.ids } ∧
        undone.editor.graph = e.graph ∧ undone.editor.exportText = e.exportText) ∧
    ∀ source ∈ e.graph.nodes.ids, ∀ target ∈ e.graph.nodes.ids, ¬ e.graph.Links source target →
      let connected := e.step (.connect source target)
      ∃ d, connected.answer = .ok (.edge d) ∧
        connected.editor.graph.edges.items = e.graph.edges.items ++ [d] ∧
        let undone := connected.editor.step (.disconnect d.id)
        undone.answer = .ok (.flag true) ∧ undone.editor = e := by
  intro e
  have h : e.Intact := (intact_start (.ofSession session) rules).after hc
  constructor
  · intro reference arguments answer ha added
    obtain ⟨n, hanswer, hitems, hundone⟩ := h.add_undone ha
    refine ⟨n, hanswer, hitems, ?_⟩
    rw [hundone]
    exact ⟨rfl, rfl, rfl, rfl⟩
  · intro source hs target _ hlinks connected
    obtain ⟨d, hanswer, hitems, hundone⟩ := h.connect_undone hs hlinks
    refine ⟨d, hanswer, hitems, ?_⟩
    rw [hundone]
    exact ⟨rfl, rfl⟩

/-- In a session with removed nodes, a circle and hyphens in its ids. -/
theorem edits_undone_tangled :
    let e := (start (.ofSession "1-2_3") []).after tangledRun
    let addition : Command := .add (.named (some "cmd")) .null
    let link : Command := .connect "2" "4"
    (start (.ofSession "1-2_3") []).isAnchored tangledRun = true ∧
    (∃ n, (e.step addition).answer = .ok (.node n) ∧
      ((e.step addition).editor.step (.remove n.id)).editor.graph = e.graph) ∧
    ("2".toList ∈ e.graph.nodes.ids ∧ "4".toList ∈ e.graph.nodes.ids ∧ ¬ e.graph.Links "2" "4") ∧
    ∃ d, (e.step link).answer = .ok (.edge d) ∧ ((e.step link).editor.step (.disconnect d.id)).editor = e := by
  intro e addition link
  have hc : (start (.ofSession "1-2_3") []).isAnchored tangledRun = true := by decide +kernel
  obtain ⟨hadd, hconnect⟩ := edits_undone "1-2_3" [] tangledRun hc
  have hsource : "2".toList ∈ e.graph.nodes.ids := by decide +kernel
  have htarget : "4".toList ∈ e.graph.nodes.ids := by decide +kernel
  have hlinks : ¬ e.graph.Links "2" "4" := edge?_eq_none_iff.1 (by decide +kernel)
  refine ⟨hc, ?_, ⟨hsource, htarget, hlinks⟩, ?_⟩
  · have hsucceeds : (e.step addition).answer.toOption.isSome = true := by decide +kernel
    cases hanswer : (e.step addition).answer with
    | error cause =>
      rw [hanswer] at hsucceeds
      cases hsucceeds
    | ok answer =>
      obtain ⟨n, rfl, -, -, -, hundone, -⟩ := hadd _ _ answer hanswer
      exact ⟨n, rfl, hundone⟩
  · obtain ⟨d, hanswer, -, -, hundone⟩ := hconnect "2" hsource "4" htarget hlinks
    exact ⟨d, hanswer, hundone⟩

end Editor

end Dockgraph
