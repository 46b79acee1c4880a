import Dockgraph.Graph.Document
import Dockgraph.Proofs.Except
import Dockgraph.Proofs.Number.Overflow

/-! Which documents bring the reading of a graph to a stop that is no verdict on the document. Everything that can
be wrong with an entry is a fault of that entry, whatever kinds its fields have, but for one thing: a coordinate
that is an integer beyond all doubles. -/

namespace Dockgraph

/-- An integer beyond all doubles. -/
def Json.IsHuge (v : Json) : Prop :=
  ∃ i, v = .int i ∧ Double.firstHuge ≤ i.natAbs

namespace Graph

/-- The coordinate of a position that has a name; a missing one is zero. -/
def coordinateField (name : String) (place : List (Text × Json)) : Json :=
  (Json.field? name.toList place).getD (.int 0)

/-- A node with an id and a position whose coordinates cannot both be read, as the first that cannot is huge. -/
def NodeOverflows (entry : Json) : Prop :=
  ∃ fields place, entry = .object fields ∧ (Json.field? "id".toList fields).isSome = true ∧
    positionFields fields = .object place ∧
    ((coordinateField "x" place).IsHuge ∨
      (∃ x, coordinate (coordinateField "x" place) = .ok x) ∧ (coordinateField "y" place).IsHuge)

/-- The first entry that is no node overflows. -/
def NodesOverflow (entries : List Json) : Prop :=
  ∃ before entry after, entries = before ++ entry :: after ∧ (∀ b ∈ before, ∃ n, nodeOfJson b = .ok n) ∧
    NodeOverflows entry

/-- A document with lists of nodes and edges, the first one of which overflows. -/
def DocumentOverflows (document : Json) : Prop :=
  ∃ fields nodes edges, document = .object fields ∧ listField? "nodes".toList fields = some nodes ∧
    listField? "edges".toList fields = some edges ∧ NodesOverflow nodes

theorem coordinate_eq_huge_iff {v : Json} : coordinate v = .error .hugeInteger ↔ v.IsHuge := by
  cases v with
  | int i =>
    have hi : (Json.int i).IsHuge ↔ Double.ofInt? i = none := by
      rw [Double.ofInt?_eq_none_iff]
      constructor
      · rintro ⟨j, hj, h⟩
        cases hj
        exact h
      · intro h
        exact ⟨i, rfl, h⟩
    rw [hi, coordinate]
    cases Double.ofInt? i <;> simp
  | text s =>
    rw [coordinate]
    cases Numeral.double? s <;> simp [Json.IsHuge]
  | null | bool | float | list | object => simp [coordinate, Json.IsHuge]

theorem liftAccess_eq_ok_iff {α : Type} {r : Except Json.AccessError α} {v : α} :
    liftAccess r = .ok v ↔ r = .ok v := by
  cases r <;> simp [liftAccess]

theorem liftAccess_ne_huge {α : Type} {r : Except Json.AccessError α} :
    liftAccess r ≠ .error .hugeInteger := by
  cases r <;> simp [liftAccess]

theorem fields_eq_ok_iff {v : Json} {fields : List (Text × Json)} :
    v.fields = .ok fields ↔ v = .object fields := by
  cases v <;> simp [Json.fields]

theorem entry_object_eq_ok_iff {name : Text} {fields : List (Text × Json)} {v : Json} :
    (Json.object fields).entry name = .ok v ↔ Json.field? name fields = some v := by
  rw [Json.entry, Glyph.ofText_char]
  cases Json.field? name fields <;> simp

/-- The parts of an entry are read in order, and only the coordinates can be huge. -/
theorem nodeOfJson_eq_huge_iff {entry : Json} :
    nodeOfJson entry = .error .hugeInteger ↔ NodeOverflows entry := by
  rw [nodeOfJson, bind_eq_error_iff]
  simp only [bind_eq_error_iff, liftAccess_ne_huge, liftAccess_eq_ok_iff, fields_eq_ok_iff,
    coordinate_eq_huge_iff, false_or, pure, Except.pure, reduceCtorEq, and_false, exists_false, or_false]
  constructor
  · rintro ⟨fields, rfl, id, hid, place, hplace, hcoordinates⟩
    refine ⟨fields, place, rfl, ?_, hplace, ?_⟩
    · rw [entry_object_eq_ok_iff.1 hid]
      rfl
    · exact hcoordinates.imp_right fun ⟨x, hx, hy⟩ => ⟨⟨x, hx⟩, hy⟩
  · rintro ⟨fields, place, rfl, hid, hplace, hcoordinates⟩
    obtain ⟨id, hid⟩ := Option.isSome_iff_exists.1 hid
    exact ⟨fields, rfl, id, entry_object_eq_ok_iff.2 hid, place, hplace,
      hcoordinates.imp_right fun ⟨⟨x, hx⟩, hy⟩ => ⟨x, hx, hy⟩⟩

theorem nodesOverflow_cons {first : Json} {rest : List Json} :
    NodesOverflow (first :: rest) ↔
      NodeOverflows first ∨ (∃ n, nodeOfJson first = .ok n) ∧ NodesOverflow rest := by
  constructor
  · rintro ⟨before, entry, after, hsplit, hbefore, hentry⟩
    cases before with
    | nil =>
      cases hsplit
      exact Or.inl hentry
    | cons b before =>
      cases hsplit
      rw [List.forall_mem_cons] at hbefore
      exact Or.inr ⟨hbefore.1, before, entry, after, rfl, hbefore.2, hentry⟩
  · rintro (hfirst | ⟨hfirst, before, entry, after, rfl, hbefore, hentry⟩)
    · exact ⟨[], first, rest, rfl, fun b hb => absurd hb List.not_mem_nil, hfirst⟩
    · exact ⟨first :: before, entry, after, rfl, List.forall_mem_cons.2 ⟨hfirst, hbefore⟩, hentry⟩

theorem addNodes_eq_huge_iff {g : Graph} {entries : List Json} :
    addNodes g entries = .error .hugeInteger ↔ NodesOverflow entries := by
  induction entries generalizing g with
  | nil => simp [addNodes, NodesOverflow]
  | cons first rest ih =>
    rw [addNodes, nodesOverflow_cons, ← nodeOfJson_eq_huge_iff]
    cases nodeOfJson first with
    | ok n => simp [ih]
    | error stop => cases stop <;> simp

theorem addEdges_ne_huge {g : Graph} {entries : List Json} : addEdges g entries ≠ .error .hugeInteger := by
  induction entries generalizing g with
  | nil => simp [addEdges]
  | cons first rest ih =>
    rw [addEdges]
    cases edgeOfJson first with
    | ok e => exact ih
    | error cause => simp

theorem documentOverflows_object {fields : List (Text × Json)} :
    DocumentOverflows (.object fields) ↔ ∃ nodes edges, listField? "nodes".toList fields = some nodes ∧
      listField? "edges".toList fields = some edges ∧ NodesOverflow nodes := by
  constructor
  · rintro ⟨_, nodes, edges, hobject, h⟩
    cases hobject
    exact ⟨nodes, edges, h⟩
  · rintro ⟨nodes, edges, h⟩
    exact ⟨fields, nodes, edges, rfl, h⟩

/-- A document makes a graph or has a fault that is told, unless a coordinate overflows. -/
theorem ofJson_eq_huge_iff {document : Json} :
    ofJson document = .error .hugeInteger ↔ DocumentOverflows document := by
  cases document with
  | object fields =>
    rw [ofJson, documentOverflows_object]
    generalize listField? "nodes".toList fields = nodes?
    generalize listField? "edges".toList fields = edges?
    cases nodes? <;> cases edges? <;>
      simp [bind_eq_error_iff, addNodes_eq_huge_iff, addEdges_ne_huge]
  | null | bool | int | float | text | list => simp [ofJson, DocumentOverflows]

end Graph

end Dockgraph
