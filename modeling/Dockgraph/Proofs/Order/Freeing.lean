import Dockgraph.Proofs.Order.Cycles
import Mathlib.Data.Prod.Lex

/-! What brings a node its turn. The live edges into a node are settled when their sources have their turns, in the order
of the edges where they leave the same node, and the last one that is settled frees the node. So the nodes into which no
live edge leads come first, in the order in which they were made, and the others come in the order in which the edges
that free them are settled. -/

namespace Dockgraph

/-- The items of a list without repetitions stand in the order of their places. -/
theorem pairwise_idxOf {α : Type} [BEq α] [LawfulBEq α] {l : List α} (h : l.Nodup) :
    l.Pairwise fun a b => l.idxOf a < l.idxOf b := by
  rw [List.pairwise_iff_getElem]
  intro i j hi hj hij
  rwa [h.idxOf_getElem i hi, h.idxOf_getElem j hj]

theorem mem_iff_idxOf_lt_length {done rest : List Text} {u : Text} : u ∈ done ↔ (done ++ rest).idxOf u < done.length := by
  constructor
  · intro hu
    rw [List.idxOf_append_of_mem hu]
    exact List.idxOf_lt_length_of_mem hu
  · intro hlt
    by_contra hu
    rw [List.idxOf_append_of_notMem hu] at hlt
    omega

namespace Graph

/-- The place of an edge among all edges of the graph. -/
def edgeIndex (g : Graph) (e : Edge) : ℕ :=
  g.edges.items.idxOf e

/-- The nodes into which no live edge leads, in the order in which they were made. -/
def roots (g : Graph) : List Text :=
  g.nodes.ids.filter fun id => g.liveEdges.all fun e => e.target != id

/-- Of the live edges into a node, the last one from the source that comes last in `ids`. -/
structure Frees (g : Graph) (ids : List Text) (e : Edge) : Prop where
  live : e ∈ g.liveEdges
  last_source : ∀ u, g.Leads u e.target → ids.idxOf u ≤ ids.idxOf e.source
  last_edge : ∀ d ∈ g.liveEdges, d.source = e.source → d.target = e.target → g.edgeIndex d ≤ g.edgeIndex e

/-- When an edge is settled: in the turn of its source, and then in the order of the edges. -/
def moment (g : Graph) (ids : List Text) (e : Edge) : ℕ ×ₗ ℕ :=
  toLex (ids.idxOf e.source, g.edgeIndex e)

/-- The roots come first and then the targets of edges that free them, in the order in which these are settled. -/
def FreedInOrder (g : Graph) (ids : List Text) : Prop :=
  ∃ es : List Edge, ids = g.roots ++ es.map Edge.target ∧ (∀ e ∈ es, g.Frees ids e) ∧
    es.Pairwise fun d e => g.moment ids d < g.moment ids e

variable {g : Graph} {ids ids' : List Text} {d e : Edge}

theorem moment_lt_iff : g.moment ids d < g.moment ids e ↔
    ids.idxOf d.source < ids.idxOf e.source ∨
      ids.idxOf d.source = ids.idxOf e.source ∧ g.edgeIndex d < g.edgeIndex e :=
  Prod.Lex.toLex_lt_toLex

theorem moment_le_iff : g.moment ids d ≤ g.moment ids e ↔
    ids.idxOf d.source < ids.idxOf e.source ∨
      ids.idxOf d.source = ids.idxOf e.source ∧ g.edgeIndex d ≤ g.edgeIndex e :=
  Prod.Lex.toLex_le_toLex

theorem idxOf_source_le (h : g.moment ids d ≤ g.moment ids e) : ids.idxOf d.source ≤ ids.idxOf e.source := by
  rcases moment_le_iff.1 h with hlt | ⟨heq, -⟩
  · exact hlt.le
  · exact heq.le

theorem moment_congr (h : ids'.idxOf e.source = ids.idxOf e.source) : g.moment ids' e = g.moment ids e := by
  rw [moment, moment, h]

theorem leads_of_mem_liveEdges (h : e ∈ g.liveEdges) : g.Leads e.source e.target :=
  ⟨e, h, rfl, rfl⟩

theorem edgeIndex_inj (hd : d ∈ g.liveEdges) (h : g.edgeIndex d = g.edgeIndex e) : d = e :=
  (List.idxOf_inj (List.mem_filter.1 hd).1).1 h

theorem pairwise_edgeIndex_liveEdges (g : Graph) :
    g.liveEdges.Pairwise fun d e => g.edgeIndex d < g.edgeIndex e :=
  (pairwise_idxOf (List.Nodup.of_map _ g.edges.distinct)).sublist List.filter_sublist

theorem mem_roots {id : Text} : id ∈ g.roots ↔ id ∈ g.nodes.ids ∧ ∀ u, ¬ g.Leads u id := by
  rw [roots, List.mem_filter, List.all_eq_true]
  refine and_congr_right fun _ => ⟨?_, fun h e he => ?_⟩
  · rintro h u ⟨e, he, -, rfl⟩
    simpa using h e he
  · rw [bne_iff_ne]
    rintro rfl
    exact h e.source (leads_of_mem_liveEdges he)

/-- Only the places of the nodes that lead to a node have a say in what frees it. -/
theorem Frees.congr (h : g.Frees ids e) (hsame : ∀ u, g.Leads u e.target → ids'.idxOf u = ids.idxOf u) :
    g.Frees ids' e where
  live := h.live
  last_source u hu := by
    rw [hsame u hu, hsame e.source (leads_of_mem_liveEdges h.live)]
    exact h.last_source u hu
  last_edge := h.last_edge

/-- A node is freed once. -/
theorem Frees.unique (hd : g.Frees ids d) (he : g.Frees ids e) (hmem : d.source ∈ ids) (h : d.target = e.target) :
    d = e := by
  have hplace : ids.idxOf d.source = ids.idxOf e.source :=
    le_antisymm (he.last_source d.source (h ▸ leads_of_mem_liveEdges hd.live))
      (hd.last_source e.source (h ▸ leads_of_mem_liveEdges he.live))
  have hsource : d.source = e.source := (List.idxOf_inj hmem).1 hplace
  exact edgeIndex_inj hd.live
    (le_antisymm (he.last_edge d hd.live hsource h) (hd.last_edge e he.live hsource.symm h.symm))

/-- A node to which others lead is freed by one of the edges. -/
theorem exists_frees {u v : Text} (h : g.Leads u v) (ids : List Text) : ∃ e, e.target = v ∧ g.Frees ids e := by
  obtain ⟨d, hd, -, hdv⟩ := h
  have hmem : ∀ e, e ∈ (g.liveEdges.filter fun e => e.target == v).toFinset ↔ e ∈ g.liveEdges ∧ e.target = v := by
    simp
  obtain ⟨e, he, hmax⟩ := Finset.exists_max_image _ (g.moment ids) ⟨d, (hmem d).2 ⟨hd, hdv⟩⟩
  obtain ⟨hlive, rfl⟩ := (hmem e).1 he
  refine ⟨e, rfl, hlive, ?_, ?_⟩
  · rintro _ ⟨c, hc, rfl, hct⟩
    exact idxOf_source_le (hmax c ((hmem c).2 ⟨hc, hct⟩))
  · intro c hc hcs hct
    rcases moment_le_iff.1 (hmax c ((hmem c).2 ⟨hc, hct⟩)) with hlt | ⟨-, hle⟩
    · rw [hcs] at hlt
      exact absurd hlt (lt_irrefl _)
    · exact hle

/-- The edges from `id` that free their targets in its turn, when the nodes of `done` have had theirs. -/
structure FreedBy (g : Graph) (done : List Text) (id : Text) (es : List Edge) : Prop where
  live : ∀ e ∈ es, e ∈ g.liveEdges
  source : ∀ e ∈ es, e.source = id
  settled : ∀ e ∈ es, ∀ u, g.Leads u e.target → u ∈ done ++ [id]
  last : ∀ e ∈ es, ∀ d ∈ g.liveEdges, d.source = id → d.target = e.target → g.edgeIndex d ≤ g.edgeIndex e
  sorted : es.Pairwise fun d e => g.edgeIndex d < g.edgeIndex e

/-- A turn adds the nodes that it frees at the end, where they belong. -/
theorem FreedInOrder.append {done rest : List Text} {id : Text} {new : List Edge}
    (h : g.FreedInOrder (done ++ id :: rest)) (hid : id ∉ done)
    (hsettled : ∀ v ∈ done ++ id :: rest, ∀ u, g.Leads u v → u ∈ done) (hnew : g.FreedBy done id new) :
    g.FreedInOrder (done ++ id :: rest ++ new.map Edge.target) := by
  obtain ⟨es, hes, hfrees, hsorted⟩ := h
  have hsource : ∀ e ∈ es, ∀ u, g.Leads u e.target → u ∈ done := fun e he =>
    hsettled e.target (hes ▸ List.mem_append_right _ (List.mem_map_of_mem he))
  -- what has had its turn keeps its place, and after it comes `id`
  have hplace : ∀ u ∈ done, (done ++ id :: rest ++ new.map Edge.target).idxOf u = (done ++ id :: rest).idxOf u :=
    fun u hu => List.idxOf_append_of_mem (List.mem_append_left _ hu)
  have hbefore : ∀ u ∈ done, (done ++ id :: rest ++ new.map Edge.target).idxOf u < done.length := by
    intro u hu
    rw [List.append_assoc]
    exact mem_iff_idxOf_lt_length.1 hu
  have hnext : (done ++ id :: rest ++ new.map Edge.target).idxOf id = done.length := by
    rw [List.append_assoc, List.idxOf_append_of_notMem hid, List.cons_append, List.idxOf_cons_self, Nat.add_zero]
  refine ⟨es ++ new, by rw [hes, List.map_append, List.append_assoc], ?frees, List.pairwise_append.2 ⟨?old, ?new, ?both⟩⟩
  case frees =>
    intro e he
    rcases List.mem_append.1 he with he | he
    · exact (hfrees e he).congr fun u hu => hplace u (hsource e he u hu)
    · refine ⟨hnew.live e he, fun u hu => ?_, fun d hd hs ht => ?_⟩
      · rw [hnew.source e he, hnext]
        rcases List.mem_append.1 (hnew.settled e he u hu) with hu | hu
        · exact (hbefore u hu).le
        · rw [List.mem_singleton.1 hu, hnext]
      · exact hnew.last e he d hd (hs.trans (hnew.source e he)) ht
  case old =>
    refine hsorted.imp_of_mem fun hd he hlt => ?_
    rwa [moment_congr (hplace _ (hsource _ hd _ (leads_of_mem_liveEdges (hfrees _ hd).live))),
      moment_congr (hplace _ (hsource _ he _ (leads_of_mem_liveEdges (hfrees _ he).live)))]
  case new =>
    refine hnew.sorted.imp_of_mem fun hd he hlt => ?_
    exact moment_lt_iff.2 (Or.inr ⟨by rw [hnew.source _ hd, hnew.source _ he], hlt⟩)
  case both =>
    intro d hd e he
    refine moment_lt_iff.2 (Or.inl ?_)
    rw [hnew.source e he, hnext]
    exact hbefore _ (hsource d hd _ (leads_of_mem_liveEdges (hfrees d hd).live))

end Graph

namespace Sequencing

open Dockgraph.Graph (FreedInOrder FreedBy)

/-- The nodes that have had their turn and those that wait for it. -/
def line (p : Progress) : List Text :=
  p.done ++ p.queue

/-- Where no counter is brought below zero, each node is freed by the last edge into it. -/
theorem exists_freed_edges (index : Edge → ℕ) {counters : List (Text × Int)} {es : List Edge}
    (hes : es.Pairwise fun d e => index d < index e)
    (hcounters : ∀ e ∈ es, ∃ n, counters.lookup e.target = some n ∧ ((es.map Edge.target).count e.target : Int) ≤ n) :
    ∃ new : List Edge, new.Sublist es ∧ freed counters (es.map Edge.target) = new.map Edge.target ∧
      ∀ e ∈ new, ∀ d ∈ es, d.target = e.target → index d ≤ index e := by
  induction es generalizing counters with
  | nil => exact ⟨[], List.Sublist.slnil, rfl, fun _ h => absurd h List.not_mem_nil⟩
  | cons first es ih =>
    rw [List.pairwise_cons] at hes
    have hrest : ∀ e ∈ es, ∃ n, (countDown first.target counters).lookup e.target = some n ∧
        ((es.map Edge.target).count e.target : Int) ≤ n := by
      intro e he
      obtain ⟨n, hn, hle⟩ := hcounters e (List.mem_cons_of_mem _ he)
      rw [List.map_cons, List.count_cons] at hle
      rw [lookup_countDown, hn, Option.map_some]
      by_cases ht : e.target = first.target
      · exact ⟨n - 1, by rw [if_pos ht], by simp [ht] at hle ⊢; omega⟩
      · have hne : (first.target == e.target) = false := beq_false_of_ne fun h => ht h.symm
        exact ⟨n, by rw [if_neg ht], by simpa [hne] using hle⟩
    obtain ⟨new, hsub, hfreed, hlast⟩ := ih hes.2 hrest
    have hlast' : ∀ e ∈ new, ∀ d ∈ first :: es, d.target = e.target → index d ≤ index e := by
      intro e he d hd ht
      rcases List.mem_cons.1 hd with rfl | hd
      · exact (hes.1 e (hsub.subset he)).le
      · exact hlast e he d hd ht
    rw [List.map_cons, freed, hfreed]
    by_cases hzero : (countDown first.target counters).lookup first.target = some 0
    · -- the counter comes to zero here, so no other edge leads to this target
      have hnone : ∀ d ∈ es, d.target ≠ first.target := by
        intro d hd ht
        obtain ⟨n, hn, hle⟩ := hrest d hd
        have hpos := List.count_pos_iff.2 (List.mem_map_of_mem (f := Edge.target) hd)
        rw [ht, hzero, Option.some.injEq] at hn
        omega
      refine ⟨first :: new, hsub.cons_cons first, by rw [if_pos hzero]; rfl, List.forall_mem_cons.2 ⟨?_, hlast'⟩⟩
      intro d hd ht
      rcases List.mem_cons.1 hd with rfl | hd
      · exact le_rfl
      · exact absurd ht (hnone d hd)
    · exact ⟨new, hsub.cons first, by rw [if_neg hzero]; rfl, hlast'⟩

variable {g : Graph} {p : Progress}

/-- What a turn frees is freed by edges from the node whose turn it is. -/
theorem Sound.exists_freedBy (hs : Sound g p) {id : Text} {rest : List Text} (hq : p.queue = id :: rest) :
    ∃ new, g.FreedBy p.done id new ∧ line (Sequencing.turn g p) = line p ++ new.map Edge.target := by
  have hid := hs.not_mem_done hq
  have hsorted : (g.liveEdges.filter fun e => e.source == id).Pairwise fun d e => g.edgeIndex d < g.edgeIndex e :=
    g.pairwise_edgeIndex_liveEdges.sublist List.filter_sublist
  have hcounters : ∀ e ∈ g.liveEdges.filter fun e => e.source == id, ∃ n, p.counters.lookup e.target = some n ∧
      ((targets g id).count e.target : Int) ≤ n := by
    intro e he
    have hleads := Graph.leads_of_mem_liveEdges (List.mem_filter.1 he).1
    have hpending := pending_snoc (g := g) hid e.target
    exact ⟨_, hs.counters e.target (leads_mem_ids hleads).2, by omega⟩
  obtain ⟨new, hsub, hfreed, hlast⟩ := exists_freed_edges g.edgeIndex hsorted hcounters
  have hmem : ∀ e ∈ new, e ∈ g.liveEdges ∧ e.source = id := fun e he => by
    simpa using hsub.subset he
  refine ⟨new, ⟨fun e he => (hmem e he).1, fun e he => (hmem e he).2, ?settled, ?last, hsorted.sublist hsub⟩, ?line⟩
  case settled =>
    intro e he
    have hm : e.target ∈ freed p.counters (targets g id) := hfreed ▸ List.mem_map_of_mem he
    exact pending_eq_zero.1 ((hs.mem_freed hid).1 hm).2.2
  case last => exact fun e he d hd hsource ht => hlast e he d (List.mem_filter.2 ⟨hd, by simpa using hsource⟩) ht
  case line =>
    rw [turn_of_cons hq, line, line, hq, targets, hfreed]
    simp

theorem freedInOrder_start (g : Graph) : g.FreedInOrder (line (start g)) := by
  refine ⟨[], ?_, fun _ h => absurd h List.not_mem_nil, List.Pairwise.nil⟩
  rw [line, start, List.nil_append, List.map_nil, List.append_nil, Graph.roots]
  refine List.filter_congr fun id _ => ?_
  rw [Bool.eq_iff_iff, beq_iff_eq, incoming, List.length_eq_zero_iff, List.filter_eq_nil_iff, List.all_eq_true]
  simp

theorem Sound.freedInOrder_turn (hs : Sound g p) (h : g.FreedInOrder (line p)) :
    g.FreedInOrder (line (Sequencing.turn g p)) := by
  cases hq : p.queue with
  | nil => rwa [turn_of_nil hq]
  | cons id rest =>
    obtain ⟨new, hnew, hturn⟩ := hs.exists_freedBy hq
    have hsettled : ∀ v ∈ line p, ∀ u, g.Leads u v → u ∈ p.done := fun v hv =>
      pending_eq_zero.1 ((hs.reached v).1 hv).2
    rw [hturn]
    rw [line, hq] at h hsettled ⊢
    exact h.append (hs.not_mem_done hq) hsettled hnew

theorem freedInOrder_after (g : Graph) (n : ℕ) : g.FreedInOrder (line (after g n)) := by
  induction n with
  | zero => exact freedInOrder_start g
  | succ n ih => exact (sound_after g n).freedInOrder_turn ih

theorem freedInOrder_final (g : Graph) : g.FreedInOrder (final g).done := by
  have h := freedInOrder_after g g.nodes.size
  rwa [← final, line, queue_final, List.append_nil] at h

end Sequencing

end Dockgraph
