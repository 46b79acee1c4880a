import Dockgraph.Proofs.Script.Import
import Dockgraph.Proofs.Text.Lines

/-! Dockerfiles that are written and read again. A line that is trimmed, says something and does not end
in a backslash is a logical line of its own, and a keyword before a space and trimmed arguments is read as
the instruction with those arguments. -/

namespace Dockgraph.Script

/-! Lines. -/

/-- A line that the trimming of lines does not change. -/
structure IsLine (line : Text) : Prop where
  oneLine : '\n' ∉ line
  trimmed : Text.IsTrimmed line
  significant : isSignificant line = true

/-- A line that neither the trimming nor the joining of lines changes. -/
structure IsWhole (line : Text) : Prop extends IsLine line where
  ends : continues line = false

theorem significantLines_unlines {ls : List Text} (h : ∀ l ∈ ls, IsLine l) :
    significantLines (Text.unlines ls) = ls := by
  cases ls with
  | nil => rfl
  | cons l ls =>
    rw [significantLines, Text.lines_unlines (List.cons_ne_nil _ _) fun l' hl => (h l' hl).oneLine]
    have ht : (l :: ls).map Text.trim = (l :: ls).map id :=
      List.map_congr_left fun l' hl => Text.trim_of_isTrimmed (h l' hl).trimmed
    rw [ht, List.map_id, List.filter_eq_self]
    exact fun l' hl => (h l' hl).significant

theorem joinContinued_append_of_ends {ls : List Text} (h : ∀ l ∈ ls, continues l = false)
    (rest : List Text) : joinContinued [] (ls ++ rest) = ls ++ joinContinued [] rest := by
  induction ls with
  | nil => rfl
  | cons l ls ih =>
    rw [List.cons_append, joinContinued, h l List.mem_cons_self,
      ih fun l' hl => h l' (List.mem_cons_of_mem _ hl)]
    rfl

theorem logicalLines_unlines {ls : List Text} (h : ∀ l ∈ ls, IsWhole l) :
    logicalLines (Text.unlines ls) = ls := by
  have hj := joinContinued_append_of_ends (fun l hl => (h l hl).ends) []
  rw [List.append_nil] at hj
  rw [logicalLines, significantLines_unlines fun l hl => (h l hl).toIsLine, hj]
  exact List.append_nil ls

/-- What a logical line holds comes from one line, but for the spaces in place of backslashes. -/
theorem mem_of_mem_joinContinued {pending : Text} {ls : List Text} {l : Text} {c : Char}
    (hl : l ∈ joinContinued pending ls) (hc : c ∈ l) : c ∈ pending ∨ c = ' ' ∨ ∃ l' ∈ ls, c ∈ l' := by
  induction ls generalizing pending with
  | nil =>
    rw [joinContinued] at hl
    split_ifs at hl
    · exact absurd hl List.not_mem_nil
    · rw [List.mem_singleton] at hl
      exact Or.inl (hl ▸ hc)
  | cons first rest ih =>
    rw [joinContinued] at hl
    have hrest : (∃ l' ∈ rest, c ∈ l') → ∃ l' ∈ first :: rest, c ∈ l' :=
      fun ⟨l', hl', hcl⟩ => ⟨l', List.mem_cons_of_mem _ hl', hcl⟩
    split_ifs at hl
    · rcases ih hl with h | h | h
      · rw [List.mem_append, List.mem_append, List.mem_singleton] at h
        rcases h with (h | h) | h
        · exact Or.inl h
        · exact Or.inr (Or.inr ⟨first, List.mem_cons_self, List.mem_of_mem_dropLast h⟩)
        · exact Or.inr (Or.inl h)
      · exact Or.inr (Or.inl h)
      · exact Or.inr (Or.inr (hrest h))
    · rcases List.mem_cons.1 hl with rfl | hl
      · rcases List.mem_append.1 hc with h | h
        · exact Or.inl h
        · exact Or.inr (Or.inr ⟨first, List.mem_cons_self, h⟩)
      · rcases ih hl with h | h | h
        · exact absurd h List.not_mem_nil
        · exact Or.inr (Or.inl h)
        · exact Or.inr (Or.inr (hrest h))

theorem newline_notMem_logicalLines {content l : Text} (hl : l ∈ logicalLines content) : '\n' ∉ l := by
  intro hc
  rcases mem_of_mem_joinContinued hl hc with h | h | ⟨l', hl', hc'⟩
  · exact absurd h List.not_mem_nil
  · exact absurd h (by decide)
  · rw [significantLines, List.mem_filter, List.mem_map] at hl'
    obtain ⟨⟨s, hs, rfl⟩, -⟩ := hl'
    exact Text.notMem_of_mem_lines hs (Text.mem_of_mem_trim hc')

/-! Instructions. -/

theorem newline_notMem_arguments {content : Text} {i : Spec × Text} (h : i ∈ instructions content) :
    '\n' ∉ i.2 := by
  obtain ⟨line, hl, hi⟩ := List.mem_filterMap.1 h
  intro hc
  rw [(arguments_of_ofLine hi).1] at hc
  exact newline_notMem_logicalLines hl (Text.mem_of_mem_afterFirstWord (Text.mem_of_mem_trim hc))

theorem isTrimmed_arguments {content : Text} {i : Spec × Text} (h : i ∈ instructions content) :
    Text.IsTrimmed i.2 := by
  obtain ⟨line, -, hr⟩ := List.mem_filterMap.1 h
  rw [(arguments_of_ofLine hr).1]
  exact Text.isTrimmed_trim _

theorem instruction_ofInstruction (i : Instruction) : (Spec.ofInstruction i).instruction = i := by
  cases i <;> decide

theorem instruction_specFor (i : Instruction) (arguments : Text) :
    (specFor i arguments).instruction = i := by
  unfold specFor
  split_ifs with h
  · rw [Bool.and_eq_true, decide_eq_true_eq] at h
    exact h.1.symm
  · exact instruction_ofInstruction i

theorem isBlank_of_mem_keyword (i : Instruction) : ∀ c ∈ i.keyword, Text.isBlank c = false := by
  have hall : i.keyword.all (fun c => !Text.isBlank c) = true := by
    cases i <;> rfl
  simpa using hall

theorem upper_keyword (i : Instruction) : Text.upper i.keyword = i.keyword := by
  cases i <;> decide

theorem resolve?_keyword (i : Instruction) : Instruction.resolve? i.keyword = some i := by
  cases i <;> decide

theorem keyword_inj {i j : Instruction} (h : i.keyword = j.keyword) : i = j := by
  have hr := congrArg Instruction.resolve? h
  rw [resolve?_keyword, resolve?_keyword] at hr
  exact Option.some.inj hr

theorem ofKeyword?_eq_some_iff {s : Text} {i : Instruction} :
    Instruction.ofKeyword? s = some i ↔ s = i.keyword ∨ s = Instruction.maintainer ∧ i = .label := by
  constructor
  · intro h
    unfold Instruction.ofKeyword? at h
    split_ifs at h with hm
    · exact Or.inr ⟨hm, (Option.some.inj h).symm⟩
    · have hk := List.find?_some h
      exact Or.inl (beq_iff_eq.1 hk).symm
  · rintro (rfl | ⟨rfl, rfl⟩)
    · cases i <;> decide
    · rfl

/-- The line of an instruction with its arguments. -/
def written (i : Instruction × Text) : Text :=
  i.1.keyword ++ ' ' :: i.2

/-- Arguments that survive being written. -/
structure IsWritable (arguments : Text) : Prop where
  nonempty : arguments ≠ []
  trimmed : Text.IsTrimmed arguments
  oneLine : '\n' ∉ arguments
  ends : continues arguments = false

theorem getLast?_written (i : Instruction) {a : Text} (h : a ≠ []) :
    (written (i, a)).getLast? = a.getLast? := by
  obtain ⟨c, a, rfl⟩ := List.exists_cons_of_ne_nil h
  rw [written, List.getLast?_append, List.getLast?_cons_cons, List.getLast?_eq_some_getLast (by simp)]
  rfl

theorem head_keyword (i : Instruction) : ∃ c k, i.keyword = c :: k ∧ Text.isBlank c = false ∧ c ≠ '#' := by
  cases i <;> exact ⟨_, _, rfl, by decide, by decide⟩

theorem newline_notMem_keyword (i : Instruction) : '\n' ∉ i.keyword :=
  fun h => absurd (isBlank_of_mem_keyword i _ h) (by decide)

theorem isLine_written (i : Instruction) {a : Text} (hne : a ≠ []) (ht : Text.IsTrimmed a)
    (hn : '\n' ∉ a) : IsLine (written (i, a)) := by
  obtain ⟨c, k, hk, hb, hc⟩ := head_keyword i
  have hw : written (i, a) = c :: (k ++ ' ' :: a) := by rw [written, hk]; rfl
  refine ⟨?_, ⟨?_, ?_⟩, ?_⟩
  · rw [written, List.mem_append, List.mem_cons]
    rintro (hm | hm | hm)
    · exact newline_notMem_keyword i hm
    · exact absurd hm (by decide)
    · exact hn hm
  · intro d hd
    rw [hw, List.head?_cons, Option.some.injEq] at hd
    exact hd ▸ hb
  · rw [getLast?_written i hne]
    exact ht.2
  · simp [hw, isSignificant, hc]

/-- What an import writes for an instruction is one line. -/
theorem isLine_lineOf {content : Text} {i : Spec × Text} (h : i ∈ instructions content) :
    IsLine (lineOf i) :=
  isLine_written i.1.instruction (arguments_ne_nil h) (isTrimmed_arguments h) (newline_notMem_arguments h)

theorem isWhole_written (i : Instruction) {a : Text} (h : IsWritable a) : IsWhole (written (i, a)) where
  toIsLine := isLine_written i h.nonempty h.trimmed h.oneLine
  ends := by
    rw [continues, getLast?_written i h.nonempty]
    exact h.ends

theorem ofLine_written (i : Instruction) {a : Text} (h : IsWritable a) :
    Reading.ofLine (written (i, a)) = .instruction (specFor i a) a := by
  have hf := Text.firstWord_word i.keyword_ne_nil (isBlank_of_mem_keyword i) Text.isBlank_space a
  have ha := Text.afterFirstWord_word i.keyword_ne_nil (isBlank_of_mem_keyword i) Text.isBlank_space a
  have hs : splitInstruction (written (i, a)) = some (i.keyword, a) := by
    rw [splitInstruction, written, hf, ha, Text.trimLeft_of_isTrimmed h.trimmed,
      Text.trim_of_isTrimmed h.trimmed, upper_keyword]
    simp [h.nonempty]
  simp only [Reading.ofLine, hs, resolve?_keyword]

theorem filterMap_written {entries : List (Instruction × Text)} (h : ∀ i ∈ entries, IsWritable i.2) :
    (entries.map written).filterMap (fun line => (Reading.ofLine line).instruction?) =
      entries.map fun i => (specFor i.1 i.2, i.2) := by
  rw [List.filterMap_map, ← List.filterMap_eq_map]
  refine List.filterMap_congr fun i hi => ?_
  simp [ofLine_written i.1 (h i hi), Reading.instruction?]

/-- Written instructions are read back. -/
theorem instructions_unlines {entries : List (Instruction × Text)} (h : ∀ i ∈ entries, IsWritable i.2) :
    instructions (Text.unlines (entries.map written)) =
      entries.map fun i => (specFor i.1 i.2, i.2) := by
  have hw : ∀ l ∈ entries.map written, IsWhole l := by
    intro l hl
    obtain ⟨i, hi, rfl⟩ := List.mem_map.1 hl
    exact isWhole_written i.1 (h i hi)
  rw [instructions, logicalLines_unlines hw, filterMap_written h]

/-! Nodes. -/

/-- A node with one of the keywords and arguments that survive being written. -/
def IsInstruction (n : Node) : Prop :=
  ∃ (i : Instruction) (a : Text), n.keyword = .text i.keyword ∧ n.arguments = .text a ∧ a ≠ [] ∧
    Text.trim a = a ∧ '\n' ∉ a ∧ a.getLast? ≠ some '\\'

/-- What a node is written with. -/
def fieldsOf (n : Node) : Json × Json :=
  (n.keyword, n.arguments)

def entryFields (i : Instruction × Text) : Json × Json :=
  (.text i.1.keyword, .text i.2)

theorem exists_entry {n : Node} (h : IsInstruction n) :
    ∃ i : Instruction × Text, IsWritable i.2 ∧ fieldsOf n = entryFields i ∧ n.line? = some (written i) := by
  obtain ⟨i, a, hk, ha, hne, ht, hn, hb⟩ := h
  refine ⟨(i, a), ⟨hne, Text.trim_eq_self_iff.1 ht, hn, ?_⟩, ?_, ?_⟩
  · simpa [continues] using hb
  · rw [fieldsOf, hk, ha, entryFields]
  · simp [Node.line?, hk, ha, Json.isTruthy, Json.display, written, hne, i.keyword_ne_nil]

theorem exists_entries {nodes : List Node} (h : ∀ n ∈ nodes, IsInstruction n) :
    ∃ entries : List (Instruction × Text), (∀ i ∈ entries, IsWritable i.2) ∧
      nodes.map fieldsOf = entries.map entryFields ∧ nodes.filterMap Node.line? = entries.map written := by
  induction nodes with
  | nil => exact ⟨[], by simp, rfl, rfl⟩
  | cons n nodes ih =>
    obtain ⟨i, hi, hf, hl⟩ := exists_entry (h n List.mem_cons_self)
    obtain ⟨entries, hw, hfs, hls⟩ := ih fun m hm => h m (List.mem_cons_of_mem _ hm)
    refine ⟨i :: entries, ?_, ?_, ?_⟩
    · intro j hj
      rcases List.mem_cons.1 hj with rfl | hj
      · exact hi
      · exact hw j hj
    · rw [List.map_cons, hf, hfs, List.map_cons]
    · rw [List.filterMap_cons_some hl, hls, List.map_cons]

/-- Nodes that are written and imported again come back with their keywords and arguments, in their
order, and are written the same again. -/
theorem parse_render (nodes : List Node) (ids : IdSource) (h : ∀ n ∈ nodes, IsInstruction n) :
    (parse (render nodes) ids).1.nodes.items.map fieldsOf = nodes.map fieldsOf ∧
    (parse (render nodes) ids).1.text = render nodes := by
  obtain ⟨entries, hw, hf, hl⟩ := exists_entries h
  have hr : render nodes = Text.unlines (entries.map written) := by rw [render, hl]
  have hi : instructions (render nodes) = entries.map fun i => (specFor i.1 i.2, i.2) := by
    rw [hr, instructions_unlines hw]
  constructor
  · have hb := congrArg (List.map fieldsOf) (bare_parse (render nodes) ids)
    rw [hi, List.map_map, List.map_map, List.map_map] at hb
    rw [hf]
    refine Eq.trans hb (List.map_congr_left fun i _ => ?_)
    simp [fieldsOf, bareNode, Node.ofSpec, entryFields, instruction_specFor]
  · rw [text_parse, canonical, hi, List.map_map, hr]
    congr 1
    refine List.map_congr_left fun i _ => ?_
    simp [lineOf, written, instruction_specFor]

/-- Arguments that look like a comment, hold backslashes, blanks and another keyword, or name a stage. -/
theorem parse_render_hard :
    let node (keyword arguments : Text) : Node :=
      ⟨[], .text keyword, .text arguments, .null, .null, .bool false, .origin⟩
    let nodes := [node "FROM" "é AS \u2003b", node "RUN" "# \\ RUN\r\tx", node "COPY" "\\n"]
    (∀ n ∈ nodes, IsInstruction n) ∧ (parse (render nodes) (.ofSession "s")).1.text = render nodes := by
  intro node nodes
  have h : ∀ n ∈ nodes, IsInstruction n := by
    intro n hn
    simp only [nodes, List.mem_cons, List.not_mem_nil, or_false] at hn
    rcases hn with rfl | rfl | rfl
    · exact ⟨.base, "é AS \u2003b", rfl, rfl, by decide, by decide, by decide, by decide⟩
    · exact ⟨.run, "# \\ RUN\r\tx", rfl, rfl, by decide, by decide, by decide, by decide⟩
    · exact ⟨.copy, "\\n", rfl, rfl, by decide, by decide, by decide, by decide⟩
  exact ⟨h, (parse_render nodes (.ofSession "s") h).2⟩

end Dockgraph.Script
