import Dockgraph.Proofs.Order.Freeing
import Mathlib.Order.Lattice.Nat

/-! Which of the admissible orders is taken. Without a cycle there is one order in which the nodes that no edge leads to
come first, as they were made, and every other node comes as soon as it is freed, where the places that tell when it is
freed are those of this very order. The ordering takes it. Along it the longest paths to the nodes grow: where one node
stands before another, every path to the first has one at least as long to the second. -/

namespace Dockgraph

theorem lt_iff_lt_of_pairwise {α β γ : Type} [Preorder β] [Preorder γ] {f : α → β} {h : α → γ} {l : List α}
    (hl : l.Pairwise fun a b => f a < f b ∧ h a < h b) {a b : α} (ha : a ∈ l) (hb : b ∈ l) :
    f a < f b ↔ h a < h b := by
  induction l with
  | nil => exact absurd ha List.not_mem_nil
  | cons c l ih =>
    rw [List.pairwise_cons] at hl
    rcases List.mem_cons.1 ha with rfl | hal
    · rcases List.mem_cons.1 hb with rfl | hbl
      · exact iff_of_false (lt_irrefl _) (lt_irrefl _)
      · exact iff_of_true (hl.1 b hbl).1 (hl.1 b hbl).2
    · rcases List.mem_cons.1 hb with rfl | hbl
      · exact iff_of_false (hl.1 a hal).1.asymm (hl.1 a hal).2.asymm
      · exact ih hl.2 hal hbl

/-- What comes next stands before all else that is to come. -/
theorem idxOf_next_lt {done rest : List Text} {u v : Text} (hu : u ∉ done) (hv : v ∉ done) (h : u ≠ v) :
    (done ++ u :: rest).idxOf u < (done ++ u :: rest).idxOf v := by
  rw [List.idxOf_append_of_notMem hu, List.idxOf_append_of_notMem hv, List.idxOf_cons_self, List.idxOf_cons_ne _ h]
  omega

namespace Graph

open Sequencing (InOrder leads_mem_ids inOrder_after freedInOrder_final perm_done_final)

/-- The roots come first, in the order in which they were made, and of two other nodes that one which is freed first. -/
structure FirstFreed (g : Graph) (ids : List Text) : Prop where
  roots_first : g.roots <+: ids
  others : ∀ d e, g.Frees ids d → g.Frees ids e →
    (ids.idxOf d.target < ids.idxOf e.target ↔ g.moment ids d < g.moment ids e)

/-- A path of so many live edges ends at the node. -/
inductive PathTo (g : Graph) : Text → ℕ → Prop
  | here {v : Text} (h : v ∈ g.nodes.ids) : PathTo g v 0
  | onward {u v : Text} {n : ℕ} (h : PathTo g u n) (huv : g.Leads u v) : PathTo g v (n + 1)

variable {g : Graph} {ids order : List Text}

theorem exists_leads_of_notMem_roots {v : Text} (hv : v ∈ g.nodes.ids) (h : v ∉ g.roots) : ∃ u, g.Leads u v := by
  rw [mem_roots, not_and, not_forall] at h
  obtain ⟨u, hu⟩ := h hv
  exact ⟨u, not_not.1 hu⟩

theorem FreedInOrder.firstFreed (hids : ids.Perm g.nodes.ids) (h : g.FreedInOrder ids) : g.FirstFreed ids := by
  obtain ⟨es, hes, hfrees, hsorted⟩ := h
  have hplaces : (es.map Edge.target).Pairwise fun u v => ids.idxOf u < ids.idxOf v :=
    (pairwise_idxOf (hids.nodup_iff.2 g.nodes.nodup_ids)).sublist (hes ▸ List.sublist_append_right _ _)
  have hboth := (List.pairwise_map.1 hplaces).and hsorted
  have hall : ∀ e, g.Frees ids e → e ∈ es := by
    intro e he
    have hleads := leads_of_mem_liveEdges he.live
    have hmem : e.target ∈ g.roots ++ es.map Edge.target := hes ▸ hids.mem_iff.2 (leads_mem_ids hleads).2
    have hnotRoot : e.target ∉ g.roots := fun hr => (mem_roots.1 hr).2 _ hleads
    obtain ⟨d, hd, hdt⟩ := List.mem_map.1 ((List.mem_append.1 hmem).resolve_left hnotRoot)
    have hsource := hids.mem_iff.2 (leads_mem_ids (leads_of_mem_liveEdges (hfrees d hd).live)).1
    exact (hfrees d hd).unique he hsource hdt ▸ hd
  exact ⟨hes ▸ List.prefix_append _ _, fun d e hd he => lt_iff_lt_of_pairwise hboth (hall d hd) (hall e he)⟩

/-! There is one such order. -/

/-- What leads to the node that comes next has had its turn. -/
theorem mem_of_leads_next {done rest : List Text} {u v : Text} (hin : InOrder g (done ++ v :: rest)) (hv : v ∉ done)
    (h : g.Leads u v) : u ∈ done := by
  have hlt := (hin v (by simp) u h).2
  rw [List.idxOf_append_of_notMem hv, List.idxOf_cons_self, Nat.add_zero] at hlt
  exact mem_iff_idxOf_lt_length.2 hlt

/-- What is freed before another node has nothing to wait for when the source of the other one has had its turn. -/
theorem Frees.mem_of_leads_of_lt {done rest : List Text} {d e : Edge} {u : Text} (hd : g.Frees (done ++ rest) d)
    (hlt : g.moment (done ++ rest) d < g.moment (done ++ rest) e) (he : e.source ∈ done) (hu : g.Leads u d.target) :
    u ∈ done := by
  have hle : (done ++ rest).idxOf u ≤ (done ++ rest).idxOf e.source :=
    (hd.last_source u hu).trans (idxOf_source_le hlt.le)
  exact mem_iff_idxOf_lt_length.2 (hle.trans_lt (mem_iff_idxOf_lt_length.1 he))

/-- After the same beginning comes the same node: all that leads to the one or the other is in the beginning, so both
orders tell alike when the two are freed. -/
theorem FirstFreed.head_unique {done rest rest' : List Text} {x y : Text} (hids : (done ++ x :: rest).Perm g.nodes.ids)
    (horder : (done ++ y :: rest').Perm g.nodes.ids) (hin : InOrder g (done ++ y :: rest'))
    (hroots : g.roots ⊆ done) (h : g.FirstFreed (done ++ x :: rest)) (h' : g.FirstFreed (done ++ y :: rest')) :
    x = y := by
  by_contra hne
  have hx : x ∉ done := fun hm =>
    (List.nodup_cons.1 (List.nodup_middle.1 (hids.nodup_iff.2 g.nodes.nodup_ids))).1 (List.mem_append_left _ hm)
  have hy : y ∉ done := fun hm =>
    (List.nodup_cons.1 (List.nodup_middle.1 (horder.nodup_iff.2 g.nodes.nodup_ids))).1 (List.mem_append_left _ hm)
  obtain ⟨u, hux⟩ := exists_leads_of_notMem_roots (hids.subset (by simp)) fun hr => hx (hroots hr)
  obtain ⟨v, hvy⟩ := exists_leads_of_notMem_roots (horder.subset (by simp)) fun hr => hy (hroots hr)
  obtain ⟨d, rfl, hd⟩ := exists_frees hux (done ++ x :: rest)
  obtain ⟨e, rfl, he⟩ := exists_frees hvy (done ++ d.target :: rest)
  have hdleads := leads_of_mem_liveEdges hd.live
  have heleads := leads_of_mem_liveEdges he.live
  have hlt := (h.others d e hd he).1 (idxOf_next_lt hx hy hne)
  have hesettled : ∀ w, g.Leads w e.target → w ∈ done := fun w => mem_of_leads_next hin hy
  have hdsettled : ∀ w, g.Leads w d.target → w ∈ done := fun w => hd.mem_of_leads_of_lt hlt (hesettled _ heleads)
  have hsame : ∀ w ∈ done, (done ++ e.target :: rest').idxOf w = (done ++ d.target :: rest).idxOf w := by
    intro w hw
    rw [List.idxOf_append_of_mem hw, List.idxOf_append_of_mem hw]
  have hgt := (h'.others e d (he.congr fun w hw => hsame w (hesettled w hw))
    (hd.congr fun w hw => hsame w (hdsettled w hw))).1 (idxOf_next_lt hy hx (Ne.symm hne))
  rw [moment_congr (hsame _ (hesettled _ heleads)), moment_congr (hsame _ (hdsettled _ hdleads))] at hgt
  exact hlt.asymm hgt

theorem FirstFreed.unique (hids : ids.Perm g.nodes.ids) (horder : order.Perm g.nodes.ids) (hin : InOrder g order)
    (h : g.FirstFreed ids) (h' : g.FirstFreed order) : ids = order := by
  obtain ⟨rest, hrest⟩ := h.roots_first
  obtain ⟨rest', hrest'⟩ := h'.roots_first
  suffices hall : ∀ done, g.roots ⊆ done → done ++ rest = ids → done ++ rest' = order → rest = rest' by
    rw [← hrest, ← hrest', hall g.roots (List.Subset.refl _) hrest hrest']
  clear hrest hrest'
  induction rest generalizing rest' with
  | nil =>
    intro done _ hdone hdone'
    have hlength := (hids.trans horder.symm).length_eq
    rw [← hdone, ← hdone'] at hlength
    simpa using hlength
  | cons x rest ih =>
    intro done hroots hdone hdone'
    cases rest' with
    | nil =>
      have hlength := (hids.trans horder.symm).length_eq
      rw [← hdone, ← hdone'] at hlength
      simp at hlength
    | cons y rest' =>
      have hxy : x = y := by
        subst hdone hdone'
        exact FirstFreed.head_unique hids horder hin hroots h h'
      have hmore := ih rest' (done ++ [x]) (fun w hw => List.mem_append_left _ (hroots hw)) (by simpa using hdone)
        (by simpa [hxy] using hdone')
      rw [hxy, hmore]

/-! Paths. -/

theorem PathTo.le_idxOf (hin : InOrder g ids) {v : Text} {n : ℕ} (h : g.PathTo v n) (hv : v ∈ ids) :
    n ≤ ids.idxOf v := by
  induction h with
  | here => exact Nat.zero_le _
  | onward _ huv ih =>
    obtain ⟨hu, hlt⟩ := hin _ hv _ huv
    exact (ih hu).trans_lt hlt

/-- After a node that is no root come no roots. -/
theorem FirstFreed.notMem_roots_of_le (h : g.FirstFreed ids) {u v : Text} (hu : u ∉ g.roots)
    (huv : ids.idxOf u ≤ ids.idxOf v) : v ∉ g.roots := by
  intro hv
  obtain ⟨rest, rfl⟩ := h.roots_first
  exact hu (mem_iff_idxOf_lt_length.2 (huv.trans_lt (mem_iff_idxOf_lt_length.1 hv)))

theorem exists_longest (hin : InOrder g ids) {v : Text} (hv : v ∈ ids) (hnode : v ∈ g.nodes.ids) :
    ∃ n, IsGreatest {n | g.PathTo v n} n := by
  have hbound : BddAbove {n | g.PathTo v n} := ⟨ids.idxOf v, fun n hn => hn.le_idxOf hin hv⟩
  exact ⟨_, Nat.sSup_mem ⟨0, .here hnode⟩ hbound, fun n hn => le_csSup hbound hn⟩

/-- A path to a node is not longer than all paths to a node after it. Its last edge comes from no later than the source
of the edge that frees the node, and that source stands no later than the one of the edge that frees the node after. -/
theorem FirstFreed.exists_pathTo (hids : ids.Perm g.nodes.ids) (hin : InOrder g ids) (h : g.FirstFreed ids) {u v : Text}
    {m : ℕ} (hu : u ∈ ids) (hv : v ∈ ids) (huv : ids.idxOf u ≤ ids.idxOf v) (hpath : g.PathTo u m) :
    ∃ n, m ≤ n ∧ g.PathTo v n := by
  induction hk : ids.idxOf v using Nat.strong_induction_on generalizing u v m with
  | _ k ih =>
    subst hk
    cases hpath with
    | here => exact ⟨0, le_rfl, .here (hids.mem_iff.1 hv)⟩
    | @onward w _ n hpath hwu =>
      have hroot : u ∉ g.roots := fun hr => (mem_roots.1 hr).2 w hwu
      obtain ⟨d, rfl, hd⟩ := exists_frees hwu ids
      obtain ⟨x, hxv⟩ := exists_leads_of_notMem_roots (hids.mem_iff.1 hv) (h.notMem_roots_of_le hroot huv)
      obtain ⟨e, rfl, he⟩ := exists_frees hxv ids
      have hdleads := leads_of_mem_liveEdges hd.live
      have heleads := leads_of_mem_liveEdges he.live
      have hsource : ids.idxOf d.source ≤ ids.idxOf e.source := by
        rcases huv.eq_or_lt with heq | hlt
        · rw [hd.unique he (hin _ hu _ hdleads).1 ((List.idxOf_inj hu).1 heq)]
        · exact idxOf_source_le ((h.others d e hd he).1 hlt).le
      obtain ⟨hmem, hbefore⟩ := hin _ hv _ heleads
      obtain ⟨n', hle, hn'⟩ := ih _ hbefore (hin _ hu _ hwu).1 hmem ((hd.last_source w hwu).trans hsource) hpath rfl
      exact ⟨n' + 1, Nat.succ_le_succ hle, hn'.onward heleads⟩

/-- Without a cycle the order of writing is determined: the nodes that no live edge leads to come first, as they were
made, and of two others the one that is freed first, and there is no other order of which this is true. Every other node
is freed by one edge. The longest paths to the nodes do not get shorter along the order. -/
theorem ordered_first_freed (g : Graph) (h : ¬ g.Cyclic) :
    let order := g.ordered.map Node.id
    order.Perm g.nodes.ids ∧ g.FirstFreed order ∧
    (∀ ids, ids.Perm g.nodes.ids → g.FirstFreed ids → ids = order) ∧
    (∀ v ∈ g.nodes.ids, v ∉ g.roots → ∃! e, g.Frees order e ∧ e.target = v) ∧
    ∃ depth : Text → ℕ, (∀ v ∈ g.nodes.ids, IsGreatest {n | g.PathTo v n} (depth v)) ∧
      (order.map depth).Pairwise (· ≤ ·) := by
  intro order
  have horder : order = (Sequencing.final g).done := by
    rw [← orderedIds_of_not_cyclic h, ← map_id_ordered]
  have hperm : order.Perm g.nodes.ids := horder ▸ perm_done_final h
  have hin : InOrder g order := horder ▸ inOrder_after g _
  have hfirst : g.FirstFreed order := FreedInOrder.firstFreed hperm (horder ▸ freedInOrder_final g)
  refine ⟨hperm, hfirst, fun ids hids hfreed => hfreed.unique hids hperm hin hfirst, fun v hv hroot => ?_, ?_⟩
  · obtain ⟨u, huv⟩ := exists_leads_of_notMem_roots hv hroot
    obtain ⟨e, rfl, he⟩ := exists_frees huv order
    refine ⟨e, ⟨he, rfl⟩, fun d ⟨hd, hdt⟩ => hd.unique he ?_ hdt⟩
    exact hperm.mem_iff.2 (leads_mem_ids (leads_of_mem_liveEdges hd.live)).1
  · have hlongest : ∀ v, ∃ n, v ∈ g.nodes.ids → IsGreatest {n | g.PathTo v n} n := by
      intro v
      by_cases hv : v ∈ g.nodes.ids
      · obtain ⟨n, hn⟩ := exists_longest hin (hperm.mem_iff.2 hv) hv
        exact ⟨n, fun _ => hn⟩
      · exact ⟨0, fun hm => absurd hm hv⟩
    choose depth hdepth using hlongest
    refine ⟨depth, hdepth, List.pairwise_map.2 ?_⟩
    refine (pairwise_idxOf (hperm.nodup_iff.2 g.nodes.nodup_ids)).imp_of_mem fun hu hv hlt => ?_
    obtain ⟨n, hle, hn⟩ := hfirst.exists_pathTo hperm hin hu hv hlt.le (hdepth _ (hperm.mem_iff.1 hu)).1
    exact hle.trans ((hdepth _ (hperm.mem_iff.1 hv)).2 hn)

/-- Where an edge is there twice, the second one frees: `b` has to wait, and `c` stands before it. -/
theorem ordered_first_freed_twice :
    let g := ofIds ["d", "c", "b", "a", "e"] [
      .between "a" "b", .between "a" "c", .between "c" "d", .between "b" "d", ⟨"twice", "a", "b"⟩,
      .between "gone" "a"]
    ¬ g.Cyclic ∧ g.FirstFreed ["a", "e", "c", "b", "d"] ∧
    (∀ ids, ids.Perm g.nodes.ids → g.FirstFreed ids → ids = ["a", "e", "c", "b", "d"]) ∧
    ∃ e, g.Frees ["a", "e", "c", "b", "d"] e ∧ e.target = "d" := by
  intro g
  have hg : ¬ g.Cyclic := fun h => absurd (orderedIds_of_cyclic h) (by decide +kernel)
  have horder : g.ordered.map Node.id = ["a", "e", "c", "b", "d"] := by decide +kernel
  obtain ⟨-, hfirst, hunique, hfreed, -⟩ := ordered_first_freed g hg
  rw [horder] at hfirst hunique hfreed
  exact ⟨hg, hfirst, hunique, (hfreed "d" (by decide +kernel) (by decide +kernel)).exists⟩

end Graph

end Dockgraph
