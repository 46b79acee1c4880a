import Dockgraph.Proofs.Order.Progress
import Mathlib.Data.List.Basic
import Mathlib.Logic.Relation
import Mathlib.Order.WellFoundedSet

/-! Which nodes have their turn, and after which others. A node has its turn once every node with a live
edge into it has had its own, so the nodes on a cycle and those past one are left out, and no others are:
a node that is left out has one before it that is left out, and among finitely many nodes this goes back
to a cycle. -/

namespace Dockgraph

open Relation (TransGen ReflTransGen)

namespace Graph

/-- Some live edges lead round in a circle. -/
def Cyclic (g : Graph) : Prop :=
  ∃ id, TransGen g.Leads id id

/-- The node lies on a cycle, or live edges lead to it from one. -/
def PastCycle (g : Graph) (id : Text) : Prop :=
  ∃ c, TransGen g.Leads c c ∧ ReflTransGen g.Leads c id

theorem PastCycle.tail {g : Graph} {u v : Text} (h : g.PastCycle u) (huv : TransGen g.Leads u v) :
    g.PastCycle v := by
  obtain ⟨c, hc, hcu⟩ := h
  exact ⟨c, hc, hcu.trans huv.to_reflTransGen⟩

end Graph

namespace Sequencing

/-- Each of the nodes has all nodes that lead to it before it. -/
def InOrder (g : Graph) (ids : List Text) : Prop :=
  ∀ v ∈ ids, ∀ u, g.Leads u v → u ∈ ids ∧ ids.idxOf u < ids.idxOf v

theorem InOrder.snoc {g : Graph} {ids : List Text} (h : InOrder g ids) {id : Text} (hid : id ∉ ids)
    (hall : ∀ u, g.Leads u id → u ∈ ids) : InOrder g (ids ++ [id]) := by
  intro v hv u hu
  rcases List.mem_append.1 hv with hv | hv
  · obtain ⟨hm, hlt⟩ := h v hv u hu
    rw [List.idxOf_append_of_mem hm, List.idxOf_append_of_mem hv]
    exact ⟨List.mem_append_left _ hm, hlt⟩
  · rw [List.mem_singleton] at hv
    subst hv
    have hm := hall u hu
    rw [List.idxOf_append_of_mem hm, List.idxOf_append_of_notMem hid]
    have := List.idxOf_lt_length_of_mem hm
    exact ⟨List.mem_append_left _ hm, by omega⟩

theorem inOrder_after (g : Graph) (n : Nat) : InOrder g (after g n).done := by
  induction n with
  | zero => intro v hv; simp [after, start] at hv
  | succ n ih =>
    have hs := sound_after g n
    rw [after]
    cases hq : (after g n).queue with
    | nil => rwa [turn_of_nil hq]
    | cons id rest =>
      rw [turn_of_cons hq]
      refine ih.snoc (hs.not_mem_done hq) ?_
      rw [← pending_eq_zero]
      exact ((hs.reached id).1 (by simp [hq])).2

theorem InOrder.lt_of_transGen {g : Graph} {ids : List Text} (h : InOrder g ids) {u v : Text}
    (huv : TransGen g.Leads u v) (hv : v ∈ ids) : u ∈ ids ∧ ids.idxOf u < ids.idxOf v := by
  induction huv using TransGen.head_induction_on with
  | single huv => exact h v hv _ huv
  | head huw _ ih =>
    obtain ⟨hw, hlt⟩ := ih
    obtain ⟨hu, hlt'⟩ := h _ hw _ huw
    exact ⟨hu, hlt'.trans hlt⟩

theorem not_pastCycle_of_mem {g : Graph} {id : Text} (h : id ∈ (final g).done) : ¬ g.PastCycle id := by
  rintro ⟨c, hc, hcid⟩
  have ho : InOrder g (final g).done := inOrder_after g _
  have hm : c ∈ (final g).done := by
    rcases Relation.reflTransGen_iff_eq_or_transGen.1 hcid with rfl | ht
    · exact h
    · exact (ho.lt_of_transGen ht h).1
  exact lt_irrefl _ (ho.lt_of_transGen hc hm).2

/-- Leading to a node that is not past a cycle is a strict order: a circle would be a cycle. -/
theorem isStrictOrder_leads (g : Graph) :
    IsStrictOrder Text fun u v => TransGen g.Leads u v ∧ ¬ g.PastCycle v where
  irrefl _ h := h.2 ⟨_, h.1, ReflTransGen.refl⟩
  trans _ _ _ hab hbc := ⟨hab.1.trans hbc.1, hbc.2⟩

theorem mem_done_of_not_pastCycle {g : Graph} {id : Text} (hid : id ∈ g.nodes.ids)
    (h : ¬ g.PastCycle id) : id ∈ (final g).done := by
  have := isStrictOrder_leads g
  have hw := (List.finite_toSet g.nodes.ids).wellFoundedOn
    (r := fun u v => TransGen g.Leads u v ∧ ¬ g.PastCycle v)
  refine hw.induction (P := fun v => ¬ g.PastCycle v → v ∈ (final g).done) hid ?_ h
  intro v hv ih hpast
  refine mem_done_final.2 ⟨hv, fun u hu => ?_⟩
  exact ih u (leads_mem_ids hu).1 ⟨.single hu, hpast⟩ fun hc => hpast (hc.tail (.single hu))

/-- The nodes that have their turn are those that no cycle leads to. -/
theorem mem_done_final_iff {g : Graph} {id : Text} :
    id ∈ (final g).done ↔ id ∈ g.nodes.ids ∧ ¬ g.PastCycle id :=
  ⟨fun h => ⟨(mem_done_final.1 h).1, not_pastCycle_of_mem h⟩,
    fun h => mem_done_of_not_pastCycle h.1 h.2⟩

theorem nodup_done_final (g : Graph) : (final g).done.Nodup :=
  (List.nodup_append.1 (sound_after g g.nodes.size).nodup).1

theorem perm_done_final {g : Graph} (h : ¬ g.Cyclic) : (final g).done.Perm g.nodes.ids := by
  rw [List.perm_ext_iff_of_nodup (nodup_done_final g) g.nodes.nodup_ids]
  intro id
  rw [mem_done_final_iff]
  exact and_iff_left fun ⟨c, hc, _⟩ => h ⟨c, hc⟩

/-- Where there is a cycle not all nodes have their turn. -/
theorem length_done_final_lt {g : Graph} (h : g.Cyclic) : (final g).done.length < g.nodes.size := by
  obtain ⟨c, hc⟩ := h
  obtain ⟨d, hcd, -⟩ := (TransGen.head'_iff).1 hc
  have hn : c ∉ (final g).done := fun hm => not_pastCycle_of_mem hm ⟨c, hc, .refl⟩
  have hsub : (c :: (final g).done).Subperm g.nodes.ids := by
    refine List.subperm_of_subset (List.nodup_cons.2 ⟨hn, nodup_done_final g⟩) ?_
    intro id hid
    rcases List.mem_cons.1 hid with rfl | hid
    · exact (leads_mem_ids hcd).1
    · exact (mem_done_final.1 hid).1
  have hl := hsub.length_le
  rw [List.length_cons, Registry.length_ids] at hl
  omega

end Sequencing

namespace Graph

open Sequencing

theorem orderedIds_of_not_cyclic {g : Graph} (h : ¬ g.Cyclic) : g.orderedIds = (final g).done := by
  have hl := (perm_done_final h).length_eq
  rw [Registry.length_ids] at hl
  simp [orderedIds, hl]

theorem orderedIds_of_cyclic {g : Graph} (h : g.Cyclic) : g.orderedIds = g.nodes.ids :=
  if_neg (length_done_final_lt h).ne

theorem orderedIds_perm (g : Graph) : g.orderedIds.Perm g.nodes.ids := by
  by_cases h : g.Cyclic
  · rw [orderedIds_of_cyclic h]
  · rw [orderedIds_of_not_cyclic h]; exact perm_done_final h

theorem map_id_ordered (g : Graph) : g.ordered.map Node.id = g.orderedIds :=
  Registry.map_ident_filterMap_find? fun _ h => (orderedIds_perm g).subset h

theorem ordered_of_orderedIds {g : Graph} (h : g.orderedIds = g.nodes.ids) : g.ordered = g.nodes.items := by
  rw [ordered, h, Registry.filterMap_find?_ids]

theorem ordered_perm (g : Graph) : g.ordered.Perm g.nodes.items := by
  rw [← g.nodes.filterMap_find?_ids]
  exact (orderedIds_perm g).filterMap _

/-- The ordering comes to an end, with every node in it once. Without a cycle the source of every live
edge stands before its target; with one the nodes stand in the order in which they were made. -/
theorem ordered_by_edges_or_creation (g : Graph) :
    (final g).queue = [] ∧
    g.ordered.Perm g.nodes.items ∧ (g.ordered.map Node.id).Nodup ∧
    (¬ g.Cyclic → ∀ e ∈ g.edges.items, g.isLive e →
      (g.ordered.map Node.id).idxOf e.source < (g.ordered.map Node.id).idxOf e.target) ∧
    (g.Cyclic → g.ordered = g.nodes.items) := by
  refine ⟨queue_final g, ordered_perm g, ?_, fun h e he hl => ?_, fun h => ?_⟩
  · rw [map_id_ordered, (orderedIds_perm g).nodup_iff]
    exact g.nodes.nodup_ids
  · have hleads : g.Leads e.source e.target := ⟨e, List.mem_filter.2 ⟨he, hl⟩, rfl, rfl⟩
    have hm : e.target ∈ (final g).done := (perm_done_final h).mem_iff.2 (leads_mem_ids hleads).2
    rw [map_id_ordered, orderedIds_of_not_cyclic h]
    exact (inOrder_after g _ _ hm _ hleads).2
  · exact ordered_of_orderedIds (orderedIds_of_cyclic h)

/-- Nodes that show nothing, with the given ids and edges. -/
def ofIds (ids : List Text) (edges : List Edge) : Graph :=
  ⟨.ofList (ids.map fun id => ⟨id, .null, .null, .null, .null, .null, .origin⟩), .ofList edges⟩

/-- A diamond made from its end, with an edge twice and one that dangles, and a circle behind a node. -/
theorem ordered_diamond_and_circle :
    let diamond := ofIds ["d", "c", "b", "a"] [
      .between "a" "b", .between "a" "c", .between "b" "d", .between "c" "d", ⟨"twice", "a", "b"⟩,
      .between "gone" "a"]
    let circle := ofIds ["z", "y", "x"] [.between "x" "y", .between "y" "z", .between "z" "y"]
    (¬ diamond.Cyclic ∧ (diamond.ordered.map Node.id).idxOf "c".toList <
      (diamond.ordered.map Node.id).idxOf "d".toList) ∧
    circle.Cyclic ∧ circle.ordered = circle.nodes.items := by
  intro diamond circle
  have hd : ¬ diamond.Cyclic := by
    intro h
    have he := congrArg (List.map Node.id) ((ordered_by_edges_or_creation diamond).2.2.2.2 h)
    exact absurd he (by decide +kernel)
  have hyz : circle.Leads "y" "z" := ⟨.between "y" "z", by decide +kernel, rfl, rfl⟩
  have hzy : circle.Leads "z" "y" := ⟨.between "z" "y", by decide +kernel, rfl, rfl⟩
  have hc : circle.Cyclic := ⟨"y", (TransGen.single hyz).tail hzy⟩
  refine ⟨⟨hd, ?_⟩, hc, (ordered_by_edges_or_creation circle).2.2.2.2 hc⟩
  exact (ordered_by_edges_or_creation diamond).2.2.2.1 hd (.between "c" "d") (by decide +kernel)
    (by decide +kernel)

end Graph

end Dockgraph
