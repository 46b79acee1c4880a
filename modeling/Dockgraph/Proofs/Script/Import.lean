import Dockgraph.Proofs.Order.Growth
import Dockgraph.Script.Import
import Dockgraph.Script.Render

/-! What an import makes of a Dockerfile: a chain with one node for each instruction, in the order of the
instructions and each at the place of its line. Session and number show in the ids only, so the text of the graph is
that of the instructions. -/

namespace Dockgraph

/-- The node less its id. -/
def Node.unnamed (n : Node) : Node :=
  { n with id := [] }

/-- The node less its id and its place. -/
def Node.bare (n : Node) : Node :=
  { n with id := [], position := .origin }

namespace Script

def Reading.instruction? : Reading → Option (Spec × Text)
  | .instruction spec arguments => some (spec, arguments)
  | _ => none

/-- The instructions of a Dockerfile with their arguments, in the order of its logical lines. -/
def instructions (content : Text) : List (Spec × Text) :=
  (logicalLines content).filterMap fun line => (Reading.ofLine line).instruction?

/-- What the node of an instruction shows. -/
def bareNode (i : Spec × Text) : Node :=
  Node.ofSpec [] i.1 (.text i.2) .origin

/-- What the node of an instruction shows that stands on the line of the given index. -/
def placedNode (index : Nat) (i : Spec × Text) : Node :=
  Node.ofSpec [] i.1 (.text i.2) (placeOf index)

/-- The nodes of lines, the first of which has the given index, less their ids. -/
def placedNodes (index : Nat) : List Text → List Node
  | [] => []
  | line :: rest =>
    (Reading.ofLine line).instruction?.toList.map (placedNode index) ++ placedNodes (index + 1) rest

/-- The line that an instruction is written as. -/
def lineOf (i : Spec × Text) : Text :=
  i.1.instruction.keyword ++ ' ' :: i.2

/-- The Dockerfile of the instructions alone: what the import of a Dockerfile renders to. -/
def canonical (content : Text) : Text :=
  Text.unlines ((instructions content).map lineOf)

namespace Chain

/-- The chain is linear and its last node is the last one made. -/
structure Linked (c : Chain) : Prop where
  linear : c.graph.Linear c.ids
  last : c.last = c.graph.nodes.ids.getLast?

variable {c : Chain}

theorem extend_eq (h : c.Linked) (index : Nat) (spec : Spec) (arguments : Text) :
    c.extend index spec arguments =
      ⟨c.graph.grow (Node.ofSpec (c.ids.next spec.instruction.keyword).1 spec (.text arguments)
          (placeOf index)),
        some (c.ids.next spec.instruction.keyword).1, (c.ids.next spec.instruction.keyword).2⟩ := by
  unfold extend
  cases hl : c.graph.nodes.ids.getLast? with
  | none =>
    rw [h.last, hl, Graph.grow_of_none hl]
  | some last =>
    rw [h.last, hl, Graph.grow_of_some hl]
    rfl

theorem Linked.extend (h : c.Linked) (index : Nat) (spec : Spec) (arguments : Text) :
    (c.extend index spec arguments).Linked := by
  rw [extend_eq h]
  refine ⟨h.linear.grow_next rfl, ?_⟩
  dsimp only
  rw [Graph.ids_nodes_grow (h.linear.next_fresh _), List.getLast?_concat]
  rfl

theorem Linked.items_extend (h : c.Linked) (index : Nat) (spec : Spec) (arguments : Text) :
    (c.extend index spec arguments).graph.nodes.items.map Node.unnamed =
      c.graph.nodes.items.map Node.unnamed ++ [placedNode index (spec, arguments)] := by
  rw [extend_eq h]
  dsimp only
  rw [Graph.items_nodes_grow (h.linear.next_fresh _), List.map_append]
  rfl

theorem Linked.addLine (h : c.Linked) (index : Nat) (line : Text) : (c.addLine index line).Linked := by
  unfold Chain.addLine
  split
  · exact h.extend _ _ _
  · exact h

theorem Linked.items_addLine (h : c.Linked) (index : Nat) (line : Text) :
    (c.addLine index line).graph.nodes.items.map Node.unnamed =
      c.graph.nodes.items.map Node.unnamed ++
        (Reading.ofLine line).instruction?.toList.map (placedNode index) := by
  unfold Chain.addLine
  cases Reading.ofLine line with
  | instruction spec arguments => exact h.items_extend index spec arguments
  | noArguments line => exact (List.append_nil _).symm
  | unknown token => exact (List.append_nil _).symm

theorem Linked.addLines (h : c.Linked) (index : Nat) (lines : List Text) :
    (c.addLines index lines).Linked := by
  induction lines generalizing c index with
  | nil => exact h
  | cons line rest ih => exact ih (h.addLine index line) _

theorem Linked.items_addLines (h : c.Linked) (index : Nat) (lines : List Text) :
    (c.addLines index lines).graph.nodes.items.map Node.unnamed =
      c.graph.nodes.items.map Node.unnamed ++ placedNodes index lines := by
  induction lines generalizing c index with
  | nil => exact (List.append_nil _).symm
  | cons line rest ih =>
    rw [Chain.addLines, ih (h.addLine index line), h.items_addLine, List.append_assoc, placedNodes]

end Chain

theorem linked_start (ids : IdSource) : Chain.Linked ⟨.empty, none, ids⟩ :=
  ⟨Graph.linear_empty ids, rfl⟩

theorem linear_parse (content : Text) (ids : IdSource) :
    (parse content ids).1.Linear (parse content ids).2 :=
  ((linked_start ids).addLines 0 (logicalLines content)).linear

/-- An import makes the nodes of the logical lines, whatever the source of ids. -/
theorem unnamed_parse (content : Text) (ids : IdSource) :
    (parse content ids).1.nodes.items.map Node.unnamed = placedNodes 0 (logicalLines content) :=
  (linked_start ids).items_addLines 0 (logicalLines content)

theorem bare_placedNodes (index : Nat) (lines : List Text) :
    (placedNodes index lines).map Node.bare =
      (lines.filterMap fun line => (Reading.ofLine line).instruction?).map bareNode := by
  induction lines generalizing index with
  | nil => rfl
  | cons line rest ih =>
    rw [placedNodes, List.map_append, ih, List.filterMap_cons]
    cases (Reading.ofLine line).instruction? <;> rfl

/-- Places apart, they are the nodes of the instructions. -/
theorem bare_parse (content : Text) (ids : IdSource) :
    (parse content ids).1.nodes.items.map Node.bare = (instructions content).map bareNode := by
  have hplaced := congrArg (List.map Node.bare) (unnamed_parse content ids)
  rw [bare_placedNodes, List.map_map] at hplaced
  exact hplaced

/-- A node of an import shows an instruction with its arguments. -/
theorem exists_bare_of_mem_parse {content : Text} {ids : IdSource} {n : Node}
    (hn : n ∈ (parse content ids).1.nodes.items) : ∃ i ∈ instructions content, n.bare = bareNode i := by
  have hbare := List.mem_map_of_mem (f := Node.bare) hn
  rw [bare_parse, List.mem_map] at hbare
  obtain ⟨i, hi, he⟩ := hbare
  exact ⟨i, hi, he.symm⟩

/-! The places of nodes. -/

theorem mem_placedNodes {index : Nat} {lines : List Text} {n : Node} :
    n ∈ placedNodes index lines ↔ ∃ k line i, lines[k]? = some line ∧
      (Reading.ofLine line).instruction? = some i ∧ n = placedNode (index + k) i := by
  induction lines generalizing index with
  | nil => simp [placedNodes]
  | cons first rest ih =>
    rw [placedNodes, List.mem_append, ih]
    constructor
    · rintro (h | ⟨k, line, i, hl, hi, rfl⟩)
      · obtain ⟨i, hi, rfl⟩ := List.mem_map.1 h
        exact ⟨0, first, i, rfl, Option.mem_toList.1 hi, rfl⟩
      · exact ⟨k + 1, line, i, hl, hi, by rw [Nat.add_right_comm, Nat.add_assoc]⟩
    · rintro ⟨k, line, i, hl, hi, rfl⟩
      cases k with
      | zero =>
        obtain rfl : first = line := Option.some.inj hl
        exact Or.inl (List.mem_map.2 ⟨i, Option.mem_toList.2 hi, rfl⟩)
      | succ k => exact Or.inr ⟨k, line, i, hl, hi, by rw [Nat.add_right_comm, Nat.add_assoc]⟩

theorem placeOf_inj {j k : Nat} (h : placeOf j = placeOf k) : j = k := by
  have hy : startY + j * spacing = startY + k * spacing := Json.int.inj (congrArg Position.y h)
  rw [spacing, nodeHeight, nodeMargin] at hy
  omega

theorem nodup_position_placedNodes (index : Nat) (lines : List Text) :
    ((placedNodes index lines).map Node.position).Nodup := by
  induction lines generalizing index with
  | nil => exact List.nodup_nil
  | cons first rest ih =>
    rw [placedNodes, List.map_append, List.nodup_append]
    refine ⟨?_, ih (index + 1), ?_⟩
    · cases (Reading.ofLine first).instruction? <;> simp
    · -- the places after the first line are those of later indices
      intro p hp q hq
      obtain ⟨n, hn, rfl⟩ := List.mem_map.1 hp
      obtain ⟨i, -, rfl⟩ := List.mem_map.1 hn
      obtain ⟨m, hm, rfl⟩ := List.mem_map.1 hq
      obtain ⟨k, line, j, -, -, rfl⟩ := mem_placedNodes.1 hm
      intro he
      have := placeOf_inj he
      omega

/-- No two nodes of an import stand at one place. -/
theorem eq_of_position_parse {content : Text} {ids : IdSource} {n m : Node}
    (hn : n ∈ (parse content ids).1.nodes.items) (hm : m ∈ (parse content ids).1.nodes.items)
    (h : n.position = m.position) : n = m := by
  have hnodup := nodup_position_placedNodes 0 (logicalLines content)
  rw [← unnamed_parse content ids, List.map_map] at hnodup
  exact List.inj_on_of_nodup_map hnodup hn hm h

/-- Every node of an import stands at the place of a line and shows the instruction of that line. -/
theorem exists_line_of_mem_parse {content : Text} {ids : IdSource} {n : Node}
    (hn : n ∈ (parse content ids).1.nodes.items) : ∃ k line i, (logicalLines content)[k]? = some line ∧
      (Reading.ofLine line).instruction? = some i ∧ n.unnamed = placedNode k i := by
  have hmem := List.mem_map_of_mem (f := Node.unnamed) hn
  rw [unnamed_parse, mem_placedNodes] at hmem
  simpa using hmem

/-- Every line that is read as an instruction has its node. -/
theorem exists_mem_parse_of_line {content : Text} (ids : IdSource) {k : Nat} {line : Text} {i : Spec × Text}
    (hl : (logicalLines content)[k]? = some line) (hi : (Reading.ofLine line).instruction? = some i) :
    ∃ n ∈ (parse content ids).1.nodes.items, n.unnamed = placedNode k i := by
  have hmem : placedNode (0 + k) i ∈ placedNodes 0 (logicalLines content) :=
    mem_placedNodes.2 ⟨k, line, i, hl, hi, rfl⟩
  rw [← unnamed_parse content ids, List.mem_map, Nat.zero_add] at hmem
  exact hmem

/-! The text of what an import makes. -/

theorem splitInstruction_eq_some {line token arguments : Text}
    (h : splitInstruction line = some (token, arguments)) :
    arguments = Text.trim (Text.afterFirstWord line) ∧ arguments ≠ [] := by
  simp only [splitInstruction] at h
  split_ifs at h with he
  rw [Option.some.injEq, Prod.mk.injEq] at h
  rw [← h.2]
  exact ⟨rfl, by simpa using he⟩

/-- The arguments of an instruction are what follows the first word of its line. -/
theorem arguments_of_ofLine {line : Text} {i : Spec × Text}
    (h : (Reading.ofLine line).instruction? = some i) :
    i.2 = Text.trim (Text.afterFirstWord line) ∧ i.2 ≠ [] := by
  unfold Reading.ofLine at h
  split at h
  · simp [Reading.instruction?] at h
  · next hs =>
    split at h
    · simp [Reading.instruction?] at h
    · rw [Reading.instruction?, Option.some.injEq] at h
      rw [← h]
      exact splitInstruction_eq_some hs

theorem arguments_ne_nil {content : Text} {i : Spec × Text} (h : i ∈ instructions content) : i.2 ≠ [] := by
  obtain ⟨line, -, hi⟩ := List.mem_filterMap.1 h
  exact (arguments_of_ofLine hi).2

theorem line?_bareNode {i : Spec × Text} (h : i.2 ≠ []) : (bareNode i).line? = some (lineOf i) := by
  simp [Node.line?, bareNode, Node.ofSpec, Json.isTruthy, Json.display, lineOf, h,
    i.1.instruction.keyword_ne_nil]

/-- Every node of an import has a line. -/
theorem map_line?_parse (content : Text) (ids : IdSource) :
    (parse content ids).1.nodes.items.map Node.line? = (instructions content).map (some ∘ lineOf) := by
  have hb := congrArg (List.map Node.line?) (bare_parse content ids)
  rw [List.map_map, List.map_map] at hb
  change (parse content ids).1.nodes.items.map (Node.line? ∘ Node.bare) = _
  rw [hb]
  exact List.map_congr_left fun i hi => line?_bareNode (arguments_ne_nil hi)

theorem filterMap_line? {nodes : List Node} {lines : List Text}
    (h : nodes.map Node.line? = lines.map some) : nodes.filterMap Node.line? = lines := by
  have hm := congrArg (List.filterMap id) h
  simpa [List.filterMap_map] using hm

theorem text_parse (content : Text) (ids : IdSource) :
    (parse content ids).1.text = canonical content := by
  have hl := map_line?_parse content ids
  rw [← List.map_map] at hl
  rw [Graph.text, (linear_parse content ids).chain.ordered, render, filterMap_line? hl, canonical]

end Script

end Dockgraph
