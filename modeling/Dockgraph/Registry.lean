import Dockgraph.Text.Basic

/-! Items in order of arrival, one for each id. An item that arrives with an id already there takes the
place of the one before it. -/

namespace Dockgraph

class Identified (α : Type) where
  ident : α → Text

open Identified (ident)

variable {α : Type} [Identified α]

/-- Puts an item in the place of the one with its id, or at the end. -/
def upsert (x : α) : List α → List α
  | [] => [x]
  | y :: ys => if ident y = ident x then x :: ys else y :: upsert x ys

theorem mem_map_ident_upsert {x : α} {ys : List α} {i : Text} :
    i ∈ (upsert x ys).map ident ↔ i = ident x ∨ i ∈ ys.map ident := by
  induction ys with
  | nil => simp [upsert]
  | cons y ys ih =>
    by_cases h : ident y = ident x
    · simp [upsert, h]
    · simp only [upsert, h, if_false, List.map_cons, List.mem_cons, ih]
      exact or_left_comm

theorem nodup_upsert {x : α} {ys : List α} (h : (ys.map ident).Nodup) :
    ((upsert x ys).map ident).Nodup := by
  induction ys with
  | nil => simp [upsert]
  | cons y ys ih =>
    rw [List.map_cons, List.nodup_cons] at h
    by_cases hy : ident y = ident x
    · simp only [upsert, hy, if_true, List.map_cons, List.nodup_cons]
      exact ⟨hy ▸ h.1, h.2⟩
    · simp only [upsert, hy, if_false, List.map_cons, List.nodup_cons]
      refine ⟨fun hm => ?_, ih h.2⟩
      exact (mem_map_ident_upsert.1 hm).elim hy h.1

theorem upsert_of_notMem {x : α} {ys : List α} (h : ident x ∉ ys.map ident) :
    upsert x ys = ys ++ [x] := by
  induction ys with
  | nil => rfl
  | cons y ys ih =>
    rw [List.map_cons, List.mem_cons, not_or] at h
    have hy : ¬ident y = ident x := fun e => h.1 e.symm
    simp [upsert, hy, ih h.2]

@[ext]
structure Registry (α : Type) [Identified α] where
  items : List α
  distinct : (items.map ident).Nodup

namespace Registry

def empty : Registry α := ⟨[], List.nodup_nil⟩

instance : Inhabited (Registry α) := ⟨empty⟩

def ids (r : Registry α) : List Text :=
  r.items.map ident

def size (r : Registry α) : Nat :=
  r.items.length

def find? (r : Registry α) (i : Text) : Option α :=
  r.items.find? fun x => ident x == i

def has (r : Registry α) (i : Text) : Bool :=
  r.items.any fun x => ident x == i

def insert (r : Registry α) (x : α) : Registry α :=
  ⟨upsert x r.items, nodup_upsert r.distinct⟩

def erase (r : Registry α) (i : Text) : Registry α :=
  ⟨r.items.filter fun x => ident x != i, r.distinct.sublist (List.filter_sublist.map ident)⟩

def eraseAll (r : Registry α) (p : α → Bool) : Registry α :=
  ⟨r.items.filter fun x => !p x, r.distinct.sublist (List.filter_sublist.map ident)⟩

def ofList (xs : List α) : Registry α :=
  xs.foldl insert empty

theorem items_insert_of_fresh {r : Registry α} {x : α} (h : ident x ∉ r.ids) :
    (r.insert x).items = r.items ++ [x] :=
  upsert_of_notMem h

theorem mem_ids_insert {r : Registry α} {x : α} {i : Text} :
    i ∈ (r.insert x).ids ↔ i = ident x ∨ i ∈ r.ids :=
  mem_map_ident_upsert

theorem has_iff {r : Registry α} {i : Text} : r.has i = true ↔ i ∈ r.ids := by
  simp [has, ids]

end Registry

end Dockgraph
