import Dockgraph.Proofs.Graph.ReadBack
import Dockgraph.Proofs.Json.RoundTrip
import Dockgraph.Proofs.Script.Import

/-! The document of an import. Every node stands at the place of its line, so that a text of any length that a file can
have makes places for which there are doubles; and everything else that the nodes hold is text. -/

namespace Dockgraph

/-- An integer with a double has no more digits than can be read. -/
theorem Json.isShort_of_lt_firstHuge {i : Int} (h : i.natAbs < Double.firstHuge) : IsShort i := by
  refine Text.length_ofNat_le (by decide) (Nat.lt_of_lt_of_le h ?_)
  obtain ⟨k, hk⟩ : ∃ k, k = 970 := ⟨_, rfl⟩
  have htwo : (Nat.pow 2 54 - 1) * Nat.pow 2 k ≤ 2 ^ (54 + k) := by
    rw [Nat.pow_add]
    exact Nat.mul_le_mul_right _ (Nat.sub_le _ _)
  rw [Double.firstHuge_eq hk]
  calc
    _ ≤ 2 ^ (54 + k) := htwo
    _ ≤ 10 ^ (54 + k) := Nat.pow_le_pow_left (by omega) _
    _ ≤ 10 ^ Numeral.maxDigits := Nat.pow_le_pow_right (by omega) (by rw [Numeral.maxDigits]; omega)

namespace Script

/-! Places. -/

theorem length_lines_le (s : Text) : (Text.lines s).length ≤ s.length + 1 := by
  induction s with
  | nil => exact Nat.le_refl 1
  | cons c s ih =>
    rw [Text.lines]
    split_ifs
    · exact Nat.succ_le_succ ih
    · cases hs : Text.lines s with
      | nil => simp
      | cons l ls =>
        rw [hs] at ih
        exact Nat.le_succ_of_le ih

theorem length_joinContinued_le (pending : Text) (ls : List Text) :
    (joinContinued pending ls).length ≤ ls.length + 1 := by
  induction ls generalizing pending with
  | nil =>
    rw [joinContinued]
    split_ifs <;> simp
  | cons l ls ih =>
    rw [joinContinued]
    split_ifs
    · exact Nat.le_succ_of_le (ih _)
    · exact Nat.succ_le_succ (ih _)

theorem length_logicalLines_le (content : Text) : (logicalLines content).length ≤ content.length + 2 := by
  have hjoined := length_joinContinued_le [] (significantLines content)
  have hlines := length_lines_le content
  have hkept : (significantLines content).length ≤ (Text.lines content).length := by
    have hfilter := List.length_filter_le isSignificant ((Text.lines content).map Text.trim)
    rwa [List.length_map] at hfilter
  rw [logicalLines]
  omega

variable {content : Text} {ids : IdSource} {n : Node}

theorem exists_place_of_mem_parse (hn : n ∈ (parse content ids).1.nodes.items) :
    ∃ k < content.length + 2, n.position = placeOf k := by
  obtain ⟨k, line, i, hline, -, he⟩ := exists_line_of_mem_parse hn
  have hk := (List.getElem?_eq_some_iff.1 hline).1
  have hlen := length_logicalLines_le content
  exact ⟨k, by omega, congrArg Node.position he⟩

theorem lt_firstHuge_of_lt {k : Nat} (hk : k < 2 ^ 1000 + 2) :
    (startX.natAbs < Double.firstHuge) ∧ (startY + k * spacing).natAbs < Double.firstHuge := by
  obtain ⟨e, he⟩ : ∃ e, e = 970 := ⟨_, rfl⟩
  have hsplit : 1000 = 30 + e := by omega
  have hpos := Nat.two_pow_pos e
  rw [hsplit, Nat.pow_add] at hk
  rw [Double.firstHuge_eq he, startX, startY, spacing, nodeHeight, nodeMargin]
  simp only [Nat.pow_eq]
  generalize 2 ^ e = p at *
  omega

/-! Documents. -/

variable (hsize : content.length < 2 ^ 1000)

include hsize

/-- The coordinates of a node are integers with doubles. -/
theorem exists_coordinates_of_mem_parse (hn : n ∈ (parse content ids).1.nodes.items) :
    ∃ x y : Int, n.position = ⟨.int x, .int y⟩ ∧ x.natAbs < Double.firstHuge ∧ y.natAbs < Double.firstHuge := by
  obtain ⟨k, hk, hplace⟩ := exists_place_of_mem_parse hn
  exact ⟨startX, startY + k * spacing, hplace, lt_firstHuge_of_lt (by omega)⟩

theorem isReadable_of_mem_parse (hn : n ∈ (parse content ids).1.nodes.items) : n.position.IsReadable := by
  obtain ⟨x, y, hposition, hx, hy⟩ := exists_coordinates_of_mem_parse hsize hn
  rw [hposition]
  exact ⟨Graph.coordinate_int hx, Graph.coordinate_int hy⟩

theorem isPlain_toJson_of_mem_parse (hn : n ∈ (parse content ids).1.nodes.items) : n.toJson.IsPlain := by
  obtain ⟨i, -, hbare⟩ := exists_bare_of_mem_parse hn
  obtain ⟨x, y, hposition, hx, hy⟩ := exists_coordinates_of_mem_parse hsize hn
  have hkeyword : n.keyword = .text i.1.instruction.keyword := congrArg Node.keyword hbare
  have harguments : n.arguments = .text i.2 := congrArg Node.arguments hbare
  have hlabel : n.label = .text i.1.label := congrArg Node.label hbare
  have hdescription : n.description = .text i.1.description := congrArg Node.description hbare
  have hadvanced : n.advanced = .bool i.1.advanced := congrArg Node.advanced hbare
  have hplace : n.position.toJson.IsPlain := by
    rw [hposition]
    refine .object (by simp) ?_
    simp only [List.forall_mem_cons, List.not_mem_nil, false_implies, implies_true, and_true]
    exact ⟨.int (Json.isShort_of_lt_firstHuge hx), .int (Json.isShort_of_lt_firstHuge hy)⟩
  rw [Node.toJson, hkeyword, harguments, hlabel, hdescription, hadvanced]
  refine .object (by simp) ?_
  simp only [List.forall_mem_cons, List.not_mem_nil, false_implies, implies_true, and_true]
  exact ⟨.text _, .text _, .text _, .text _, .text _, .bool _, hplace⟩

omit hsize in
theorem isPlain_toJson_edge (e : Edge) : e.toJson.IsPlain := by
  refine .object (by simp) ?_
  simp only [List.forall_mem_cons, List.not_mem_nil, false_implies, implies_true, and_true]
  exact ⟨.text _, .text _, .text _⟩

/-- The document of an import with the name of its file is plain. -/
theorem isPlain_document (ids : IdSource) (name : Option Text) :
    (Json.object ((parse content ids).1.toFields ++ [("file_name".toList, Json.ofTextOption name)])).IsPlain := by
  refine .object (by simp [Graph.toFields]) ?_
  simp only [Graph.toFields, List.cons_append, List.nil_append, List.forall_mem_cons,
    List.not_mem_nil, false_implies, implies_true, and_true]
  refine ⟨.list (List.forall_mem_map.2 fun n hn => isPlain_toJson_of_mem_parse hsize hn),
    .list (List.forall_mem_map.2 fun e _ => isPlain_toJson_edge e), ?_⟩
  cases name with
  | none => exact .null
  | some s => exact .text s

end Script

end Dockgraph
