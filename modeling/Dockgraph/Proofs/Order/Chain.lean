import Dockgraph.Proofs.Order.Cycles

/-! Graphs whose edges form chains. Where no node has two edges into it the ordering goes on, turn by turn,
with the targets of the node whose turn it was. So a chain keeps its order, and two chains, one made after
the other, come out by turns. -/

namespace Dockgraph

/-- The items of two lists by turns, and what is left of the longer one. -/
def alternate {α : Type} : List α → List α → List α
  | [], bs => bs
  | a :: as, [] => a :: as
  | a :: as, b :: bs => a :: b :: alternate as bs

section Alternate

variable {α : Type}

theorem alternate_nil (as : List α) : alternate as [] = as := by
  cases as <;> rfl

theorem alternate_cons (a : α) (as bs : List α) : alternate (a :: as) bs = a :: alternate bs as := by
  induction bs generalizing a as with
  | nil => rfl
  | cons b bs ih =>
    cases as with
    | nil => simp [alternate]
    | cons a' as =>
      rw [alternate, alternate, ih]

theorem alternate_perm (as bs : List α) : (alternate as bs).Perm (as ++ bs) := by
  induction as generalizing bs with
  | nil => exact .refl _
  | cons a as ih =>
    cases bs with
    | nil => simp [alternate]
    | cons b bs =>
      rw [alternate, List.cons_append]
      exact ((ih bs).cons b |>.trans List.perm_middle.symm).cons a

theorem map_alternate {β : Type} (f : α → β) (as bs : List α) :
    (alternate as bs).map f = alternate (as.map f) (bs.map f) := by
  induction as generalizing bs with
  | nil => rfl
  | cons a as ih =>
    cases bs with
    | nil => rfl
    | cons b bs => simp [alternate, ih]

/-- Taking turns keeps one list after the other only where the first ends at once or the second is empty. -/
theorem alternate_eq_append_iff {as bs : List α} (h : (as ++ bs).Nodup) :
    alternate as bs = as ++ bs ↔ as.length ≤ 1 ∨ bs = [] := by
  match as, bs with
  | [], bs => simp [alternate]
  | [a], [] => simp [alternate]
  | [a], b :: bs => simp [alternate]
  | a :: a' :: as, [] => simp [alternate]
  | a :: a' :: as, b :: bs =>
    have hne : a' ≠ b := by
      rw [List.nodup_append] at h
      exact h.2.2 a' (by simp) b (by simp)
    constructor
    · intro he
      simp only [alternate, List.cons_append, List.cons.injEq, true_and] at he
      exact absurd he.1.symm hne
    · simp

end Alternate

/-- The edges of a chain: one from each id to the next. -/
def Edge.chain : List Text → List Edge
  | [] => []
  | a :: ids => ids.head?.toList.map (Edge.between a) ++ chain ids

namespace Edge

theorem chain_cons (a : Text) (ids : List Text) :
    chain (a :: ids) = ids.head?.toList.map (between a) ++ chain ids := rfl

theorem filter_map_between {p : Edge → Bool} {a : Text} (h : ∀ b, p (between a b) = false)
    (ids : List Text) : (ids.map (between a)).filter p = [] := by
  rw [List.filter_eq_nil_iff]
  intro e he
  obtain ⟨b, -, rfl⟩ := List.mem_map.1 he
  simp [h b]

theorem exists_of_mem_chain {ids : List Text} {e : Edge} (h : e ∈ chain ids) :
    ∃ a ∈ ids, ∃ b ∈ ids, e = between a b := by
  induction ids with
  | nil => simp [chain] at h
  | cons a ids ih =>
    rw [chain_cons, List.mem_append, List.mem_map] at h
    rcases h with ⟨b, hb, rfl⟩ | h
    · rw [Option.mem_toList] at hb
      exact ⟨a, List.mem_cons_self, b, List.mem_cons_of_mem _ (List.mem_of_mem_head? hb), rfl⟩
    · obtain ⟨b, hb, c, hc, rfl⟩ := ih h
      exact ⟨b, List.mem_cons_of_mem _ hb, c, List.mem_cons_of_mem _ hc, rfl⟩

theorem mem_ids_of_mem_chain {ids : List Text} {e : Edge} (h : e ∈ chain ids) :
    e.source ∈ ids ∧ e.target ∈ ids := by
  obtain ⟨a, ha, b, hb, rfl⟩ := exists_of_mem_chain h
  exact ⟨ha, hb⟩

theorem map_target_chain (ids : List Text) : (chain ids).map target = ids.tail := by
  induction ids with
  | nil => rfl
  | cons a ids ih =>
    rw [chain_cons, List.map_append, ih]
    cases ids <;> simp [between]

theorem chain_snoc (ids : List Text) (b : Text) :
    chain (ids ++ [b]) = chain ids ++ ids.getLast?.toList.map (between · b) := by
  induction ids with
  | nil => rfl
  | cons a ids ih =>
    rw [List.cons_append, chain_cons, ih, chain_cons]
    cases ids with
    | nil => simp [chain]
    | cons c ids => simp

theorem chain_map_range (f : Nat → Text) (n : Nat) :
    chain ((List.range n).map f) = (List.range (n - 1)).map fun k => between (f k) (f (k + 1)) := by
  induction n with
  | zero => rfl
  | succ n ih =>
    rw [List.range_succ, List.map_append, List.map_singleton, chain_snoc, ih]
    cases n with
    | zero => rfl
    | succ n => simp [List.range_succ]

theorem filter_source_chain {ids : List Text} {a : Text} (h : a ∉ ids) :
    ((chain ids).filter fun e => e.source == a) = [] := by
  rw [List.filter_eq_nil_iff]
  intro e he hs
  rw [beq_iff_eq] at hs
  exact h (hs ▸ (mem_ids_of_mem_chain he).1)

/-- The node that follows another in a chain is the only target of an edge from it. -/
theorem targets_chain {before after : List Text} {a : Text} (h : (before ++ a :: after).Nodup) :
    ((chain (before ++ a :: after)).filter fun e => e.source == a).map target = after.head?.toList := by
  induction before with
  | nil =>
    rw [List.nil_append, List.nodup_cons] at h
    rw [List.nil_append, chain_cons, List.filter_append, filter_source_chain h.1, List.append_nil]
    cases after <;> simp [between]
  | cons b before ih =>
    rw [List.cons_append, List.nodup_cons] at h
    have hb : b ≠ a := fun hba => h.1 (by simp [hba])
    have hsource : ∀ c, ((between b c).source == a) = false := fun c => beq_false_of_ne hb
    rw [List.cons_append, chain_cons, List.filter_append, filter_map_between hsource, List.nil_append]
    exact ih h.2

end Edge

namespace Sequencing

theorem freed_of_ones {counters : List (Text × Int)} {ts : List Text} (hn : ts.Nodup)
    (h : ∀ t ∈ ts, counters.lookup t = some 1) : freed counters ts = ts := by
  induction ts generalizing counters with
  | nil => rfl
  | cons t ts ih =>
    rw [List.nodup_cons] at hn
    have hrest : freed (countDown t counters) ts = ts := by
      refine ih hn.2 fun v hv => ?_
      have hvt : v ≠ t := fun he => hn.1 (he ▸ hv)
      simp [lookup_countDown, h v (List.mem_cons_of_mem _ hv), hvt]
    rw [freed, hrest, lookup_countDown, h t List.mem_cons_self]
    simp

/-- No node has two live edges into it. -/
def Forest (g : Graph) : Prop :=
  (g.liveEdges.map Edge.target).Nodup

theorem incoming_le_one {g : Graph} (h : Forest g) (v : Text) : incoming g v ≤ 1 := by
  have hc := (List.nodup_iff_count_le_one.1 h) v
  rw [List.count, List.countP_map, List.countP_eq_length_filter] at hc
  exact hc

theorem pending_le_incoming (g : Graph) (done : List Text) (v : Text) :
    pending g done v ≤ incoming g v := by
  rw [pending, incoming, ← List.countP_eq_length_filter]
  exact List.countP_mono_left fun e _ he => (Bool.and_eq_true_iff.1 he).1

theorem Sound.turn_of_forest {g : Graph} {p : Progress} (h : Sound g p) (hf : Forest g) {id : Text}
    {rest : List Text} (hq : p.queue = id :: rest) :
    (Sequencing.turn g p).queue = rest ++ targets g id ∧ (Sequencing.turn g p).done = p.done ++ [id] := by
  have hid := h.not_mem_done hq
  have hn : (targets g id).Nodup := hf.sublist (List.filter_sublist.map _)
  rw [turn_of_cons hq, freed_of_ones hn]
  · exact ⟨rfl, rfl⟩
  · intro v hv
    have hs := pending_snoc (g := g) hid v
    have h1 : 0 < (targets g id).count v := List.count_pos_iff.2 hv
    have h2 := (pending_le_incoming g p.done v).trans (incoming_le_one hf v)
    rw [h.counters v (leads_mem_ids (mem_targets.1 hv)).2, Option.some.injEq]
    omega

/-- Each of the nodes has the next one as its only target. -/
def Follow (g : Graph) : List Text → Prop
  | [] => True
  | a :: ids => targets g a = ids.head?.toList ∧ Follow g ids

theorem follow_of_targets {g : Graph} {ids : List Text}
    (h : ∀ before a after, ids = before ++ a :: after → targets g a = after.head?.toList) :
    Follow g ids := by
  induction ids with
  | nil => trivial
  | cons a ids ih =>
    refine ⟨h [] a ids rfl, ih fun before b after hs => ?_⟩
    exact h (a :: before) b after (by rw [hs, List.cons_append])

/-- While two chains come out by turns, the first nodes of what is left of them wait. -/
theorem after_of_follow {g : Graph} (hf : Forest g) {as bs : List Text} (ha : Follow g as)
    (hb : Follow g bs) (hq : (start g).queue = as.head?.toList ++ bs.head?.toList) (n : Nat) :
    ∃ xs ys, Follow g xs ∧ Follow g ys ∧ (after g n).queue = xs.head?.toList ++ ys.head?.toList ∧
      (after g n).done ++ alternate xs ys = alternate as bs := by
  induction n with
  | zero => exact ⟨as, bs, ha, hb, hq, rfl⟩
  | succ n ih =>
    obtain ⟨xs, ys, hx, hy, hxy, hd⟩ := ih
    have hs := sound_after g n
    rw [after]
    cases xs with
    | cons x xs =>
      have hnext : (after g n).queue = x :: ys.head?.toList := by simpa using hxy
      obtain ⟨hq', hd'⟩ := hs.turn_of_forest hf hnext
      refine ⟨ys, xs, hy, hx.2, by rw [hq', hx.1], ?_⟩
      rw [hd', ← hd, alternate_cons, List.append_assoc, List.singleton_append]
    | nil =>
      cases ys with
      | nil =>
        rw [turn_of_nil (by simpa using hxy)]
        exact ⟨[], [], trivial, trivial, hxy, hd⟩
      | cons y ys =>
        have hnext : (after g n).queue = [y] := by simpa using hxy
        obtain ⟨hq', hd'⟩ := hs.turn_of_forest hf hnext
        refine ⟨[], ys, trivial, hy.2, by simp [hq', hy.1], ?_⟩
        rw [hd', ← hd, List.append_assoc]
        rfl

theorem done_final_of_follow {g : Graph} (hf : Forest g) {as bs : List Text} (ha : Follow g as)
    (hb : Follow g bs) (hq : (start g).queue = as.head?.toList ++ bs.head?.toList) :
    (final g).done = alternate as bs := by
  obtain ⟨xs, ys, -, -, hxy, hd⟩ := after_of_follow hf ha hb hq g.nodes.size
  have h0 : (after g g.nodes.size).queue = [] := queue_final g
  rw [h0] at hxy
  have hx : xs = [] := by
    cases xs with
    | nil => rfl
    | cons x xs => simp at hxy
  have hy : ys = [] := by
    cases ys with
    | nil => rfl
    | cons y ys => simp [hx] at hxy
  rw [hx, hy, alternate_nil, List.append_nil] at hd
  exact hd

end Sequencing

/-- What a list holds besides its tail. -/
theorem filter_eq_head? {p : Text → Bool} {ids : List Text} (hn : ids.Nodup)
    (hp : ∀ i ∈ ids, p i = true ↔ i ∉ ids.tail) : ids.filter p = ids.head?.toList := by
  cases ids with
  | nil => rfl
  | cons a ids =>
    rw [List.nodup_cons] at hn
    have hrest : ids.filter p = [] := by
      rw [List.filter_eq_nil_iff]
      intro i hi
      rw [hp i (List.mem_cons_of_mem _ hi), not_not]
      exact hi
    rw [List.filter_cons, if_pos ((hp a List.mem_cons_self).2 hn.1), hrest]
    rfl

namespace Graph

open Sequencing

/-- The nodes are those of two chains, one made after the other, and the edges those of the chains. -/
structure TwoChains (g : Graph) (as bs : List Text) : Prop where
  ids : g.nodes.ids = as ++ bs
  edges : g.edges.items = Edge.chain as ++ Edge.chain bs

namespace TwoChains

variable {g : Graph} {as bs : List Text}

theorem nodup (h : TwoChains g as bs) : (as ++ bs).Nodup :=
  h.ids ▸ g.nodes.nodup_ids

theorem liveEdges_eq (h : TwoChains g as bs) : g.liveEdges = Edge.chain as ++ Edge.chain bs := by
  rw [liveEdges, h.edges, List.filter_eq_self]
  intro e he
  rw [isLive, Bool.and_eq_true, Registry.has_iff, Registry.has_iff, h.ids]
  rcases List.mem_append.1 he with he | he
  · obtain ⟨hs, ht⟩ := Edge.mem_ids_of_mem_chain he
    exact ⟨List.mem_append_left _ hs, List.mem_append_left _ ht⟩
  · obtain ⟨hs, ht⟩ := Edge.mem_ids_of_mem_chain he
    exact ⟨List.mem_append_right _ hs, List.mem_append_right _ ht⟩

theorem map_target (h : TwoChains g as bs) : g.liveEdges.map Edge.target = as.tail ++ bs.tail := by
  rw [h.liveEdges_eq, List.map_append, Edge.map_target_chain, Edge.map_target_chain]

theorem forest (h : TwoChains g as bs) : Forest g := by
  rw [Forest, h.map_target]
  exact h.nodup.sublist ((List.tail_sublist as).append (List.tail_sublist bs))

theorem incoming_eq_zero (h : TwoChains g as bs) (v : Text) :
    (incoming g v == 0) = true ↔ v ∉ as.tail ++ bs.tail := by
  rw [← h.map_target, ← List.count_eq_zero, List.count, List.countP_map, List.countP_eq_length_filter,
    beq_iff_eq]
  rfl

/-- Of each chain the first node waits at the start. -/
theorem queue_start (h : TwoChains g as bs) :
    (start g).queue = as.head?.toList ++ bs.head?.toList := by
  have hn := List.nodup_append.1 h.nodup
  rw [start, h.ids]
  dsimp only
  rw [List.filter_append, filter_eq_head? hn.1, filter_eq_head? hn.2.1]
  · intro b hb
    rw [h.incoming_eq_zero, List.mem_append]
    exact not_congr (or_iff_right fun ha => hn.2.2 b (List.mem_of_mem_tail ha) b hb rfl)
  · intro a ha
    rw [h.incoming_eq_zero, List.mem_append]
    exact not_congr (or_iff_left fun hb => hn.2.2 a ha a (List.mem_of_mem_tail hb) rfl)

theorem follow_left (h : TwoChains g as bs) : Follow g as := by
  have hn := List.nodup_append.1 h.nodup
  refine follow_of_targets fun before a after hs => ?_
  have ha : a ∉ bs := fun hb => hn.2.2 a (by simp [hs]) a hb rfl
  rw [targets, h.liveEdges_eq, List.filter_append, Edge.filter_source_chain ha, List.append_nil, hs]
  exact Edge.targets_chain (hs ▸ hn.1)

theorem follow_right (h : TwoChains g as bs) : Follow g bs := by
  have hn := List.nodup_append.1 h.nodup
  refine follow_of_targets fun before b after hs => ?_
  have hb : b ∉ as := fun ha => hn.2.2 b ha b (by simp [hs]) rfl
  rw [targets, h.liveEdges_eq, List.filter_append, Edge.filter_source_chain hb, List.nil_append, hs]
  exact Edge.targets_chain (hs ▸ hn.2.1)

theorem orderedIds_eq (h : TwoChains g as bs) : g.orderedIds = alternate as bs := by
  have hd := done_final_of_follow h.forest h.follow_left h.follow_right h.queue_start
  have hl : (final g).done.length = g.nodes.size := by
    rw [hd, (alternate_perm as bs).length_eq, ← h.ids, Registry.length_ids]
  rw [orderedIds, if_pos hl, hd]

/-- Two chains come out by turns. -/
theorem ordered_eq {before after : List Node} (h : TwoChains g (before.map Node.id) (after.map Node.id))
    (hi : g.nodes.items = before ++ after) : g.ordered = alternate before after := by
  rw [ordered, h.orderedIds_eq, ← map_alternate]
  refine Registry.filterMap_find?_map_ident fun n hn => ?_
  rw [hi]
  exact (alternate_perm before after).subset hn

end TwoChains

/-- The edges lead from each node to the next one made. -/
def IsChain (g : Graph) : Prop :=
  g.edges.items = Edge.chain g.nodes.ids

theorem IsChain.twoChains {g : Graph} (h : g.IsChain) : TwoChains g g.nodes.ids [] where
  ids := (List.append_nil _).symm
  edges := by rw [h, Edge.chain, List.append_nil]

theorem IsChain.ordered {g : Graph} (h : g.IsChain) : g.ordered = g.nodes.items := by
  have ho := h.twoChains.orderedIds_eq
  rw [alternate_nil] at ho
  exact ordered_of_orderedIds ho

end Graph

end Dockgraph
