import Dockgraph.Proofs.Order.Cycles
import Dockgraph.Script.Render
import Mathlib.Data.Set.Card

/-! The ordering edge by edge. A node is taken from the queue, and then the live edges that leave it are settled one
after another. On the way no counter falls below zero, since it is the number of live edges into its node that are
not settled yet, and at the end the nodes that were taken are those that no cycle leads to. -/

namespace Dockgraph

namespace Sequencing

/-- The states that the ordering passes through, each with the targets of the edges that have to be settled before the
next node is taken. -/
inductive Passes (g : Graph) : Progress → List Text → Prop
  | start : Passes g (start g) []
  | take {p : Progress} {id : Text} {rest : List Text} (between_nodes : Passes g p []) (first : p.queue = id :: rest) :
      Passes g { p with queue := rest, done := p.done ++ [id] } (targets g id)
  | settle {p : Progress} {t : Text} {ts : List Text} (unsettled : Passes g p (t :: ts)) : Passes g (settle p t) ts

variable {g : Graph} {p : Progress} {ts : List Text}

/-! The states between two nodes are those after whole turns. -/

theorem Passes.foldl_settle (h : Passes g p ts) : Passes g (ts.foldl Sequencing.settle p) [] := by
  induction ts generalizing p with
  | nil => exact h
  | cons t ts ih => exact ih h.settle

theorem Passes.turn (h : Passes g p []) : Passes g (turn g p) [] := by
  cases hq : p.queue with
  | nil => rwa [turn_of_nil hq]
  | cons id rest =>
    have hturn : Sequencing.turn g p =
        (targets g id).foldl Sequencing.settle { p with queue := rest, done := p.done ++ [id] } := by
      simp only [Sequencing.turn, hq]
    rw [hturn]
    exact (h.take hq).foldl_settle

theorem passes_after (g : Graph) (n : Nat) : Passes g (after g n) [] := by
  induction n with
  | zero => exact .start
  | succ n ih => exact ih.turn

/-- Some edges that leave the first node in the queue have been settled, and those to `ts` have not. -/
def Within (g : Graph) (n : Nat) (p : Progress) (ts : List Text) : Prop :=
  ∃ id rest settled, (after g n).queue = id :: rest ∧ targets g id = settled ++ ts ∧
    p = settled.foldl settle { after g n with queue := rest, done := (after g n).done ++ [id] }

theorem Within.eq_after {n : Nat} (h : Within g n p []) : p = after g (n + 1) := by
  obtain ⟨id, rest, settled, hq, htargets, rfl⟩ := h
  rw [List.append_nil] at htargets
  simp only [after, Sequencing.turn, hq, htargets]

theorem Passes.exists_turn (h : Passes g p ts) : ∃ n, p = after g n ∧ ts = [] ∨ Within g n p ts := by
  induction h with
  | start => exact ⟨0, Or.inl ⟨rfl, rfl⟩⟩
  | @take p id rest _ hq ih =>
    obtain ⟨n, ⟨rfl, -⟩ | hw⟩ := ih
    · exact ⟨n, Or.inr ⟨id, rest, [], hq, rfl, rfl⟩⟩
    · obtain rfl := hw.eq_after
      exact ⟨n + 1, Or.inr ⟨id, rest, [], hq, rfl, rfl⟩⟩
  | @settle p t ts _ ih =>
    obtain ⟨n, ⟨-, hnil⟩ | ⟨id, rest, settled, hq, htargets, rfl⟩⟩ := ih
    · cases hnil
    · refine ⟨n, Or.inr ⟨id, rest, settled ++ [t], hq, ?_, ?_⟩⟩
      · rw [htargets, List.append_assoc, List.singleton_append]
      · rw [List.foldl_append]
        rfl

theorem Passes.exists_after (h : Passes g p []) : ∃ n, p = after g n := by
  obtain ⟨n, ⟨hn, -⟩ | hw⟩ := h.exists_turn
  · exact ⟨n, hn⟩
  · exact ⟨n + 1, hw.eq_after⟩

/-- Once no node waits nothing changes any more. -/
theorem after_add_of_queue_nil {n : Nat} (h : (after g n).queue = []) (k : Nat) : after g (n + k) = after g n := by
  induction k with
  | zero => rfl
  | succ k ih =>
    rw [← Nat.add_assoc, after, ih, turn_of_nil h]

theorem after_eq_final {n : Nat} (h : (after g n).queue = []) : after g n = final g := by
  rcases Nat.le_total n g.nodes.size with hle | hle
  · rw [final, ← Nat.add_sub_cancel' hle, after_add_of_queue_nil h]
  · rw [← Nat.add_sub_cancel' hle, after_add_of_queue_nil (queue_final g), ← final]

theorem Passes.eq_final (h : Passes g p []) (hq : p.queue = []) : p = final g := by
  obtain ⟨n, rfl⟩ := h.exists_after
  exact after_eq_final hq

/-! Counters on the way. -/

/-- The counter of a node is the number of live edges into it whose source has not been taken, and of those that leave
the node taken last and are not settled. -/
theorem Passes.lookup_counters (h : Passes g p ts) {v : Text} (hv : v ∈ g.nodes.ids) :
    p.counters.lookup v = some ((pending g p.done v + ts.count v : Nat) : Int) := by
  obtain ⟨n, ⟨rfl, rfl⟩ | ⟨id, rest, settled, hq, htargets, rfl⟩⟩ := h.exists_turn
  · exact (sound_after g n).counters v hv
  · have hsound := sound_after g n
    have hpending := pending_snoc (g := g) (hsound.not_mem_done hq) v
    rw [htargets, List.count_append] at hpending
    rw [Sequencing.foldl_settle, lookup_foldl_countDown, hsound.counters v hv, Option.map_some, Option.some.injEq]
    dsimp only
    omega

theorem map_fst_countDown (t : Text) (counters : List (Text × Int)) :
    (countDown t counters).map Prod.fst = counters.map Prod.fst := by
  induction counters with
  | nil => rfl
  | cons entry rest ih =>
    rw [countDown]
    split_ifs
    · rfl
    · rw [List.map_cons, List.map_cons, ih]

theorem Passes.map_fst_counters (h : Passes g p ts) : p.counters.map Prod.fst = g.nodes.ids := by
  induction h with
  | start => exact List.map_map.trans (List.map_id _)
  | take _ _ ih => exact ih
  | settle _ ih => exact (map_fst_countDown _ _).trans ih

/-- A counter is found under its node, which has no other one. -/
theorem lookup_of_mem {entries : List (Text × Int)} (hnodup : (entries.map Prod.fst).Nodup) {id : Text} {n : Int}
    (h : (id, n) ∈ entries) : entries.lookup id = some n := by
  obtain ⟨before, later, rfl⟩ := List.append_of_mem h
  rw [List.map_append, List.map_cons, List.nodup_append] at hnodup
  refine List.lookup_eq_some_iff.2 ⟨before, later, rfl, fun entry hentry => ?_⟩
  have hne := hnodup.2.2 entry.1 (List.mem_map_of_mem hentry) id List.mem_cons_self
  simpa using fun heq => hne heq.symm

theorem Passes.counter_nonneg (h : Passes g p ts) {entry : Text × Int} (hentry : entry ∈ p.counters) :
    0 ≤ entry.2 := by
  have hkeys := h.map_fst_counters
  have hid : entry.1 ∈ g.nodes.ids := hkeys ▸ List.mem_map_of_mem hentry
  have hlookup := lookup_of_mem (hkeys ▸ g.nodes.nodup_ids) hentry
  rw [h.lookup_counters hid, Option.some.injEq] at hlookup
  omega

theorem Passes.nodup_done (h : Passes g p ts) : p.done.Nodup := by
  obtain ⟨n, ⟨rfl, -⟩ | ⟨id, rest, settled, hq, -, rfl⟩⟩ := h.exists_turn
  · exact (List.nodup_append.1 (sound_after g n).nodup).1
  · have hnodup := (sound_after g n).nodup
    rw [hq, List.append_cons] at hnodup
    rw [Sequencing.foldl_settle]
    exact (List.nodup_append.1 hnodup).1

/-! The number of nodes that were taken. -/

theorem length_done_final (g : Graph) :
    (final g).done.length = {id | id ∈ g.nodes.ids ∧ ¬ g.PastCycle id}.ncard := by
  have hset : {id | id ∈ g.nodes.ids ∧ ¬ g.PastCycle id} = ↑(final g).done.toFinset := by
    ext id
    rw [List.coe_toFinset]
    exact mem_done_final_iff.symm
  rw [hset, Set.ncard_coe_finset, List.toFinset_card_of_nodup (nodup_done_final g)]

end Sequencing

namespace Graph

open Sequencing

theorem shortfall?_of_cyclic {g : Graph} (h : g.Cyclic) : g.shortfall? = some (final g).done.length :=
  if_neg (length_done_final_lt h).ne

theorem shortfall?_of_not_cyclic {g : Graph} (h : ¬ g.Cyclic) : g.shortfall? = none := by
  refine if_pos ?_
  rw [(perm_done_final h).length_eq, Registry.length_ids]

/-- At no time is a counter below zero, and no node is taken twice. The queue becomes empty, and the nodes that were
taken by then are those that lie on no cycle and come after none. Where there is a cycle their number is told. -/
theorem taken_unless_past_cycle (g : Graph) :
    (∀ p ts, Passes g p ts → (∀ entry ∈ p.counters, 0 ≤ entry.2) ∧ p.done.Nodup) ∧
    (Passes g (final g) [] ∧ (final g).queue = []) ∧
    (∀ p, Passes g p [] → p.queue = [] → ∀ id, id ∈ p.done ↔ id ∈ g.nodes.ids ∧ ¬ g.PastCycle id) ∧
    (¬ g.Cyclic → g.orderNotices = []) ∧
    (g.Cyclic → g.orderNotices = [.operation .debug ("[Linearizer] ordered ".toList
      ++ Text.ofNat {id | id ∈ g.nodes.ids ∧ ¬ g.PastCycle id}.ncard ++ " of ".toList
      ++ Text.ofNat g.nodes.size ++ " nodes, falling back to creation order".toList)]) := by
  refine ⟨fun p ts h => ⟨fun entry => h.counter_nonneg, h.nodup_done⟩, ⟨passes_after g _, queue_final g⟩, ?_,
    fun h => ?_, fun h => ?_⟩
  · intro p h hq id
    rw [h.eq_final hq]
    exact mem_done_final_iff
  · rw [orderNotices, shortfall?_of_not_cyclic h]
  · rw [orderNotices, shortfall?_of_cyclic h, length_done_final]

/-- Two edges lead from `v` to `x`, so `x` is not free when one of them is settled. Past `x` there is a circle, and `w`
comes after it. -/
theorem taken_before_circle :
    let g := ofIds ["w", "z", "y", "x", "v"] [
      ⟨"one", "v", "x"⟩, ⟨"two", "v", "x"⟩, .between "x" "y", .between "y" "z", .between "z" "y", .between "z" "w"]
    let p := settle { start g with queue := [], done := ["v"] } "x"
    (Passes g p ["x"] ∧ p.counters.lookup "x".toList = some 1 ∧ (∀ entry ∈ p.counters, 0 ≤ entry.2) ∧ p.done.Nodup) ∧
    (Passes g (final g) [] ∧ (final g).queue = [] ∧ ¬ g.PastCycle "x" ∧ g.PastCycle "w") ∧
    g.Cyclic ∧ g.orderNotices = [
      .operation .debug "[Linearizer] ordered 2 of 5 nodes, falling back to creation order".toList] := by
  intro g p
  obtain ⟨hcounters, ⟨hpasses, hqueue⟩, htaken, -, hcyclic⟩ := taken_unless_past_cycle g
  have hmem := htaken (final g) hpasses hqueue
  have hp : Passes g p ["x"] := by
    have hqueue : (start g).queue = ["v".toList] := by decide +kernel
    have htargets : targets g "v" = ["x".toList, "x".toList] := by decide +kernel
    exact (htargets ▸ Passes.start.take hqueue : Passes g _ ["x".toList, "x".toList]).settle
  have hw : g.PastCycle "w" := by
    by_contra h
    exact absurd ((hmem "w").2 ⟨by decide +kernel, h⟩) (by decide +kernel)
  have hc : g.Cyclic := by
    obtain ⟨c, hc, -⟩ := hw
    exact ⟨c, hc⟩
  refine ⟨⟨hp, by decide +kernel, hcounters p _ hp⟩, ⟨hpasses, hqueue, ?_, hw⟩, hc, ?_⟩
  · exact ((hmem "x").1 (by decide +kernel)).2
  · rw [hcyclic hc, ← length_done_final]
    decide +kernel

end Graph

end Dockgraph
