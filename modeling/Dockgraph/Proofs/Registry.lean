import Dockgraph.Registry
import Mathlib.Data.List.Induction
import Mathlib.Data.List.Nodup

/-! What a registry holds after its items are looked up, replaced or dropped. An item put in the place of
one with the same id changes neither the ids nor their order, and looking all the ids up in order gives
the items back. -/

namespace Dockgraph

open Identified (ident)

variable {α : Type} [Identified α]

theorem map_ident_upsert_of_mem {x : α} {ys : List α} (h : ident x ∈ ys.map ident) :
    (upsert x ys).map ident = ys.map ident := by
  induction ys with
  | nil => simp at h
  | cons y ys ih =>
    by_cases hy : ident y = ident x
    · simp [upsert, hy]
    · have hm : ident x ∈ ys.map ident := by
        rw [List.map_cons, List.mem_cons] at h
        exact h.resolve_left fun e => hy e.symm
      simp [upsert, hy, ih hm]

theorem upsert_eq_map {x : α} {ys : List α} (h : ident x ∈ ys.map ident) (hd : (ys.map ident).Nodup) :
    upsert x ys = ys.map fun y => if ident y = ident x then x else y := by
  induction ys with
  | nil => exact absurd h List.not_mem_nil
  | cons y ys ih =>
    rw [List.map_cons, List.nodup_cons] at hd
    by_cases hy : ident y = ident x
    · have hrest : (ys.map fun z => if ident z = ident x then x else z) = ys := by
        refine (List.map_congr_left fun z hz => ?_).trans (List.map_id ys)
        exact if_neg fun hzx => hd.1 (List.mem_map.2 ⟨z, hz, hzx.trans hy.symm⟩)
      rw [upsert, if_pos hy, List.map_cons, if_pos hy, hrest]
    · have hm : ident x ∈ ys.map ident := by
        rw [List.map_cons, List.mem_cons] at h
        exact h.resolve_left fun e => hy e.symm
      rw [upsert, if_neg hy, List.map_cons, if_neg hy, ih hm hd.2]

/-- What is put into a list is there, and what had another id stays. -/
theorem mem_upsert {x y : α} {ys : List α} (h : (ys.map ident).Nodup) :
    y ∈ upsert x ys ↔ y = x ∨ y ∈ ys ∧ ident y ≠ ident x := by
  induction ys with
  | nil => simp [upsert]
  | cons z ys ih =>
    rw [List.map_cons, List.nodup_cons] at h
    by_cases hz : ident z = ident x
    · have hother : ∀ w ∈ ys, ident w ≠ ident x := fun w hw he =>
        h.1 (List.mem_map.2 ⟨w, hw, he.trans hz.symm⟩)
      simp only [upsert, hz, if_true, List.mem_cons]
      constructor
      · rintro (rfl | hy)
        · exact Or.inl rfl
        · exact Or.inr ⟨Or.inr hy, hother y hy⟩
      · rintro (rfl | ⟨rfl | hy, hne⟩)
        · exact Or.inl rfl
        · exact absurd hz hne
        · exact Or.inr hy
    · simp only [upsert, hz, if_false, List.mem_cons, ih h.2]
      constructor
      · rintro (rfl | rfl | ⟨hy, hne⟩)
        · exact Or.inr ⟨Or.inl rfl, hz⟩
        · exact Or.inl rfl
        · exact Or.inr ⟨Or.inr hy, hne⟩
      · rintro (rfl | ⟨rfl | hy, hne⟩)
        · exact Or.inr (Or.inl rfl)
        · exact Or.inl rfl
        · exact Or.inr (Or.inr ⟨hy, hne⟩)

theorem find?_ident_append {xs ys : List α} {x : α} (h : ident x ∉ xs.map ident) :
    (xs ++ x :: ys).find? (fun y => ident y == ident x) = some x := by
  have hn : xs.find? (fun y => ident y == ident x) = none := by
    rw [List.find?_eq_none]
    intro y hy hyx
    exact h (List.mem_map.2 ⟨y, hy, by simpa using hyx⟩)
  simp [List.find?_append, hn]

namespace Registry

theorem nodup_ids (r : Registry α) : r.ids.Nodup := r.distinct

theorem length_ids (r : Registry α) : r.ids.length = r.size := by
  simp [ids, size]

theorem mem_ids_of_mem {r : Registry α} {x : α} (h : x ∈ r.items) : ident x ∈ r.ids :=
  List.mem_map.2 ⟨x, h, rfl⟩

theorem ids_insert_of_mem {r : Registry α} {x : α} (h : ident x ∈ r.ids) :
    (r.insert x).ids = r.ids :=
  map_ident_upsert_of_mem h

theorem ids_insert_of_fresh {r : Registry α} {x : α} (h : ident x ∉ r.ids) :
    (r.insert x).ids = r.ids ++ [ident x] := by
  simp [ids, items_insert_of_fresh h]

/-- An item put in the place of another leaves the rest in their places. -/
theorem items_insert_of_mem {r : Registry α} {x : α} (h : ident x ∈ r.ids) :
    (r.insert x).items = r.items.map fun y => if ident y = ident x then x else y :=
  upsert_eq_map h r.distinct

theorem mem_items_insert {r : Registry α} {x y : α} :
    y ∈ (r.insert x).items ↔ y = x ∨ y ∈ r.items ∧ ident y ≠ ident x :=
  mem_upsert r.distinct

theorem mem_of_find? {r : Registry α} {i : Text} {x : α} (h : r.find? i = some x) : x ∈ r.items :=
  List.mem_of_find?_eq_some h

theorem find?_ident {r : Registry α} {x : α} (h : x ∈ r.items) : r.find? (ident x) = some x := by
  obtain ⟨xs, ys, hr⟩ := List.append_of_mem h
  have hd := r.distinct
  rw [hr, List.map_append, List.map_cons, List.nodup_append] at hd
  have hx : ident x ∉ xs.map ident := fun hm => hd.2.2 _ hm _ List.mem_cons_self rfl
  rw [find?, hr]
  exact find?_ident_append hx

/-- What is found under an id is the item that has it. -/
theorem find?_eq_some_iff {r : Registry α} {i : Text} {x : α} :
    r.find? i = some x ↔ x ∈ r.items ∧ ident x = i := by
  constructor
  · intro h
    exact ⟨mem_of_find? h, by simpa using List.find?_some h⟩
  · rintro ⟨hx, rfl⟩
    exact find?_ident hx

/-- The ids of what is found are the ids that are looked up, where all of them are there. -/
theorem map_ident_filterMap_find? {r : Registry α} {is : List Text} (h : ∀ i ∈ is, i ∈ r.ids) :
    (is.filterMap r.find?).map ident = is := by
  induction is with
  | nil => rfl
  | cons i is ih =>
    obtain ⟨x, hx, rfl⟩ := List.mem_map.1 (h i List.mem_cons_self)
    have hrest := ih fun j hj => h j (List.mem_cons_of_mem _ hj)
    rw [List.filterMap_cons_some (find?_ident hx), List.map_cons, hrest]

theorem filterMap_find?_map_ident {r : Registry α} {xs : List α} (h : ∀ x ∈ xs, x ∈ r.items) :
    (xs.map ident).filterMap r.find? = xs := by
  induction xs with
  | nil => rfl
  | cons x xs ih =>
    rw [List.map_cons, List.filterMap_cons_some (find?_ident (h x List.mem_cons_self)),
      ih fun y hy => h y (List.mem_cons_of_mem _ hy)]

theorem filterMap_find?_ids (r : Registry α) : r.ids.filterMap r.find? = r.items :=
  filterMap_find?_map_ident fun _ h => h

theorem mem_ids_erase {r : Registry α} {i j : Text} : i ∈ (r.erase j).ids ↔ i ∈ r.ids ∧ i ≠ j := by
  simp only [ids, erase, List.mem_map, List.mem_filter, bne_iff_ne]
  constructor
  · rintro ⟨x, ⟨hx, hne⟩, rfl⟩
    exact ⟨⟨x, hx, rfl⟩, hne⟩
  · rintro ⟨⟨x, hx, rfl⟩, hne⟩
    exact ⟨x, ⟨hx, hne⟩, rfl⟩

/-- Dropping the item of an id leaves what stands before it and after it. -/
theorem items_erase {r : Registry α} {xs ys : List α} {x : α} (h : r.items = xs ++ x :: ys) :
    (r.erase (ident x)).items = xs ++ ys := by
  have hd := r.distinct
  rw [h, List.map_append, List.map_cons, List.nodup_append, List.nodup_cons] at hd
  obtain ⟨-, ⟨hy, -⟩, hxs⟩ := hd
  have keep : ∀ zs : List α, ident x ∉ zs.map ident → zs.filter (fun z => ident z != ident x) = zs := by
    intro zs hz
    rw [List.filter_eq_self]
    intro z hm
    simpa using fun e => hz (List.mem_map.2 ⟨z, hm, e⟩)
  change r.items.filter (fun z => ident z != ident x) = xs ++ ys
  rw [h, List.filter_append, List.filter_cons_of_neg (by simp), keep ys hy,
    keep xs fun hm => hxs _ hm _ List.mem_cons_self rfl]

end Registry

end Dockgraph
