import Dockgraph.Graph.Order
import Dockgraph.Proofs.Registry
import Mathlib.Data.List.Perm.Subperm

/-! What every turn of the ordering keeps. The counter of a node is the number of live edges into it whose
source has not had its turn, and the nodes with counter zero are those that have had their turn or wait
for it, none of them twice. So no node waits any more after as many turns as there are nodes. -/

namespace Dockgraph.Sequencing

/-! Settling edges one after another. -/

/-- The nodes whose turn comes while the edges into `targets` are settled. -/
def freed (counters : List (Text × Int)) : List Text → List Text
  | [] => []
  | t :: ts =>
    (if (countDown t counters).lookup t = some 0 then [t] else []) ++ freed (countDown t counters) ts

theorem foldl_settle (p : Progress) (ts : List Text) :
    ts.foldl settle p =
      ⟨ts.foldl (fun c t => countDown t c) p.counters, p.queue ++ freed p.counters ts, p.done⟩ := by
  induction ts generalizing p with
  | nil => simp [freed]
  | cons t ts ih =>
    rw [List.foldl_cons, ih, List.foldl_cons]
    simp only [settle, freed]
    split_ifs <;> simp

theorem lookup_countDown (t v : Text) (counters : List (Text × Int)) :
    (countDown t counters).lookup v =
      (counters.lookup v).map fun n => if v = t then n - 1 else n := by
  induction counters with
  | nil => rfl
  | cons entry rest ih =>
    obtain ⟨i, n⟩ := entry
    by_cases hv : v = i
    · subst hv
      by_cases ht : v = t <;> simp [countDown, ht]
    · have hb : (v == i) = false := by simpa using hv
      by_cases hi : i = t
      · subst hi; simp [countDown, List.lookup_cons, hb, hv]
      · simp [countDown, hi, List.lookup_cons, hb, ih]

theorem lookup_foldl_countDown (ts : List Text) (v : Text) (counters : List (Text × Int)) :
    (ts.foldl (fun c t => countDown t c) counters).lookup v =
      (counters.lookup v).map fun n => n - (ts.count v : Int) := by
  induction ts generalizing counters with
  | nil => simp
  | cons t ts ih =>
    rw [List.foldl_cons, ih, lookup_countDown, Option.map_map]
    congr 1
    funext n
    by_cases hv : v = t
    · subst hv; simp; omega
    · have : t ≠ v := fun h => hv h.symm
      simp [hv, this]

/-- A node is freed when there are enough edges into it to bring its counter from above down to zero. -/
theorem mem_freed {counters : List (Text × Int)} {ts : List Text} {v : Text} :
    v ∈ freed counters ts ↔ ∃ n, counters.lookup v = some n ∧ 1 ≤ n ∧ n ≤ ts.count v := by
  induction ts generalizing counters with
  | nil =>
    simp only [freed, List.not_mem_nil, List.count_nil, false_iff]
    rintro ⟨n, -, h1, h2⟩
    simp at h2; omega
  | cons t ts ih =>
    rw [freed, List.mem_append, ih, lookup_countDown, lookup_countDown]
    by_cases hv : v = t
    · subst hv
      cases hc : counters.lookup v with
      | none => simp
      | some n =>
        by_cases h0 : n - 1 = 0
        · simp [h0]; omega
        · simp [h0]; omega
    · have ht : t ≠ v := fun h => hv h.symm
      simp [hv, ht]

theorem nodup_freed (counters : List (Text × Int)) (ts : List Text) : (freed counters ts).Nodup := by
  induction ts generalizing counters with
  | nil => exact List.nodup_nil
  | cons t ts ih =>
    rw [freed]
    split_ifs with h
    · rw [List.singleton_append, List.nodup_cons]
      refine ⟨fun hm => ?_, ih _⟩
      -- its counter is zero already, so it is not brought down to zero again
      obtain ⟨n, hn, h1, -⟩ := mem_freed.1 hm
      rw [h, Option.some.injEq] at hn
      omega
    · exact ih _

/-! The edges that are still to be settled. -/

/-- The number of live edges into a node whose source is not among `done`. -/
def pending (g : Graph) (done : List Text) (id : Text) : Nat :=
  g.liveEdges.countP fun e => e.target == id && !done.contains e.source

theorem pending_nil (g : Graph) (id : Text) : pending g [] id = incoming g id := by
  simp [pending, incoming, List.countP_eq_length_filter]

theorem pending_eq_zero {g : Graph} {done : List Text} {id : Text} :
    pending g done id = 0 ↔ ∀ u, g.Leads u id → u ∈ done := by
  simp only [pending, List.countP_eq_zero, Bool.and_eq_true, Bool.not_eq_true', beq_iff_eq,
    List.contains_eq_mem, decide_eq_false_iff_not, not_and, not_not, Graph.Leads]
  constructor
  · rintro h u ⟨e, he, rfl, rfl⟩
    exact h e he rfl
  · intro h e he ht
    exact h e.source ⟨e, he, rfl, ht⟩

/-- A turn settles the edges that leave the node. -/
theorem pending_snoc {g : Graph} {done : List Text} {id : Text} (h : id ∉ done) (v : Text) :
    pending g (done ++ [id]) v + (targets g id).count v = pending g done v := by
  unfold pending targets
  induction g.liveEdges with
  | nil => rfl
  | cons e es ih =>
    by_cases hs : e.source = id
    · have hd : done.contains id = false := by simpa using h
      by_cases ht : e.target = v
      · simp [hs, ht, h] at ih ⊢
        omega
      · simpa [hs, ht] using ih
    · by_cases ht : e.target = v
      · by_cases hm : e.source ∈ done
        · simpa [hs, ht, hm] using ih
        · simp [hs, ht, hm] at ih ⊢
          omega
      · simpa [hs, ht] using ih

theorem pending_snoc_le {g : Graph} {done : List Text} {id : Text} (h : id ∉ done) (v : Text) :
    pending g (done ++ [id]) v ≤ pending g done v := by
  have := pending_snoc (g := g) h v
  omega

theorem leads_mem_ids {g : Graph} {u v : Text} (h : g.Leads u v) : u ∈ g.nodes.ids ∧ v ∈ g.nodes.ids := by
  obtain ⟨e, he, rfl, rfl⟩ := h
  have hl : g.isLive e = true := (List.mem_filter.1 he).2
  rw [Graph.isLive, Bool.and_eq_true, Registry.has_iff, Registry.has_iff] at hl
  exact hl

theorem mem_targets {g : Graph} {u v : Text} : v ∈ targets g u ↔ g.Leads u v := by
  simp [targets, Graph.Leads, and_assoc]

/-! The invariant. -/

structure Sound (g : Graph) (p : Progress) : Prop where
  counters : ∀ id ∈ g.nodes.ids, p.counters.lookup id = some (pending g p.done id : Int)
  nodup : (p.done ++ p.queue).Nodup
  reached : ∀ id, id ∈ p.done ++ p.queue ↔ id ∈ g.nodes.ids ∧ pending g p.done id = 0

theorem lookup_map_pair {β : Type} (f : Text → β) {is : List Text} {i : Text} (h : i ∈ is) :
    (is.map fun j => (j, f j)).lookup i = some (f i) := by
  induction is with
  | nil => simp at h
  | cons j js ih =>
    by_cases hj : i = j
    · subst hj; simp
    · have hb : (i == j) = false := by simpa using hj
      simpa [List.lookup_cons, hb] using ih ((List.mem_cons.1 h).resolve_left hj)

theorem sound_start (g : Graph) : Sound g (start g) where
  counters id h := by
    rw [start, lookup_map_pair (fun i => (incoming g i : Int)) h, pending_nil]
  nodup := by
    simpa [start] using g.nodes.nodup_ids.filter _
  reached id := by
    simp [start, pending_nil]

theorem turn_of_nil {g : Graph} {p : Progress} (h : p.queue = []) : turn g p = p := by
  simp [turn, h]

theorem turn_of_cons {g : Graph} {p : Progress} {id : Text} {rest : List Text} (h : p.queue = id :: rest) :
    turn g p = ⟨(targets g id).foldl (fun c t => countDown t c) p.counters,
      rest ++ freed p.counters (targets g id), p.done ++ [id]⟩ := by
  simp [turn, h, foldl_settle]

theorem Sound.not_mem_done {g : Graph} {p : Progress} (h : Sound g p) {id : Text} {rest : List Text}
    (hq : p.queue = id :: rest) : id ∉ p.done := by
  have hn := h.nodup
  rw [hq] at hn
  exact fun hm => (List.disjoint_of_nodup_append hn) hm List.mem_cons_self

/-- The turn of `id` frees the nodes whose last pending edges leave it. -/
theorem Sound.mem_freed {g : Graph} {p : Progress} (h : Sound g p) {id : Text} (hid : id ∉ p.done)
    {v : Text} : v ∈ freed p.counters (targets g id) ↔
      v ∈ g.nodes.ids ∧ 0 < pending g p.done v ∧ pending g (p.done ++ [id]) v = 0 := by
  rw [Sequencing.mem_freed]
  have hs := pending_snoc (g := g) hid v
  constructor
  · rintro ⟨n, hn, h1, h2⟩
    have hv : v ∈ targets g id := List.count_pos_iff.1 (by omega)
    have hm := (leads_mem_ids (mem_targets.1 hv)).2
    rw [h.counters v hm, Option.some.injEq] at hn
    exact ⟨hm, by omega, by omega⟩
  · rintro ⟨hm, h1, h2⟩
    exact ⟨_, h.counters v hm, by omega, by omega⟩

theorem Sound.turn {g : Graph} {p : Progress} (h : Sound g p) : Sound g (turn g p) := by
  cases hq : p.queue with
  | nil => rwa [turn_of_nil hq]
  | cons id rest =>
    have hid := h.not_mem_done hq
    have hsplit : p.done ++ [id] ++ (rest ++ freed p.counters (targets g id)) =
        (p.done ++ p.queue) ++ freed p.counters (targets g id) := by simp [hq]
    rw [turn_of_cons hq]
    refine ⟨fun v hv => ?_, ?_, fun v => ?_⟩
    · rw [lookup_foldl_countDown, h.counters v hv, Option.map_some, ← pending_snoc hid v]
      simp
    · rw [hsplit, List.nodup_append]
      refine ⟨h.nodup, nodup_freed _ _, fun a ha b hb hab => ?_⟩
      have h0 := ((h.reached a).1 ha).2
      have h1 := ((h.mem_freed hid).1 (hab ▸ hb)).2.1
      omega
    · rw [hsplit, List.mem_append, h.reached, h.mem_freed hid]
      have := pending_snoc_le (g := g) hid v
      dsimp only
      constructor
      · rintro (⟨hm, h0⟩ | ⟨hm, -, h0⟩)
        · exact ⟨hm, by omega⟩
        · exact ⟨hm, h0⟩
      · rintro ⟨hm, h0⟩
        rcases Nat.eq_zero_or_pos (pending g p.done v) with hz | hz
        · exact Or.inl ⟨hm, hz⟩
        · exact Or.inr ⟨hm, hz, h0⟩

theorem sound_after (g : Graph) (n : Nat) : Sound g (after g n) := by
  induction n with
  | zero => exact sound_start g
  | succ n ih => exact ih.turn

/-! The end of the run. -/

theorem Sound.length_le {g : Graph} {p : Progress} (h : Sound g p) :
    (p.done ++ p.queue).length ≤ g.nodes.size := by
  rw [← Registry.length_ids]
  exact (List.subperm_of_subset h.nodup fun id hm => ((h.reached id).1 hm).1).length_le

theorem length_done_after (g : Graph) (n : Nat) (h : (after g n).queue ≠ []) :
    (after g n).done.length = n := by
  induction n with
  | zero => rfl
  | succ n ih =>
    cases hq : (after g n).queue with
    | nil =>
      rw [after, turn_of_nil hq] at h
      exact absurd hq h
    | cons id rest =>
      rw [after, turn_of_cons hq, List.length_append, ih (by simp [hq]), List.length_singleton]

theorem queue_final (g : Graph) : (final g).queue = [] := by
  by_contra h
  have hd := length_done_after g g.nodes.size h
  have hl := (sound_after g g.nodes.size).length_le
  have hp : 0 < (after g g.nodes.size).queue.length := List.length_pos_iff.2 h
  rw [List.length_append] at hl
  omega

theorem mem_done_final {g : Graph} {id : Text} :
    id ∈ (final g).done ↔ id ∈ g.nodes.ids ∧ ∀ u, g.Leads u id → u ∈ (final g).done := by
  have h := (sound_after g g.nodes.size).reached id
  rw [← final, queue_final, List.append_nil, pending_eq_zero] at h
  exact h

end Dockgraph.Sequencing
