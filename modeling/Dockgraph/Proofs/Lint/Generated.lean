import Dockgraph.Proofs.Lint.Verdict
import Dockgraph.Proofs.Script.RoundTrip

/-! The verdict on rendered text. A node with a keyword and arguments of one line is one statement of the text, and
its keyword is what the linter takes the line for, whatever the arguments look like. So the verdict can be read off
the keywords of the nodes, and the number of a line is the place of its node. -/

namespace Dockgraph.Lint

open Script (render parse keyword_inj)

/-! Statements of nodes. -/

/-- A node with a keyword and arguments that fill one line. -/
def IsStated (n : Node) : Prop :=
  ∃ (i : Instruction) (a : Text), n.keyword = .text i.keyword ∧ n.arguments = .text a ∧
    (∃ c ∈ a, Text.isBlank c = false) ∧ '\n' ∉ a

/-- A node with the keyword of the instruction. -/
def IsA (i : Instruction) (n : Node) : Prop :=
  n.keyword = .text i.keyword

/-- The line of a node, as the linter sees it. -/
def statement (n : Node) : Text :=
  Text.trim (n.keyword.display ++ ' ' :: n.arguments.display)

theorem spells_keyword (i : Instruction) : Spells i.keyword i.keyword :=
  List.forall₂_same.2 fun k _ => Text.sameLetter_self k

theorem spells_keyword_base {i : Instruction} (h : Spells i.keyword Instruction.base.keyword) : i = .base := by
  by_contra hne
  have hupper := upper_of_spells h fun k hk c hc => upperChar_of_base hk hc
  exact upper_ne_base_of_spells hne (spells_keyword i) hupper

theorem isA_iff {i j : Instruction} {n : Node} (h : n.keyword = .text i.keyword) : IsA j n ↔ i = j := by
  rw [IsA, h, Json.text.injEq]
  exact ⟨keyword_inj, congrArg _⟩

namespace IsStated

variable {n : Node}

theorem line? (h : IsStated n) : n.line? = some (n.keyword.display ++ ' ' :: n.arguments.display) := by
  obtain ⟨i, a, hk, ha, ⟨c, hc, -⟩, -⟩ := h
  have hne : a ≠ [] := List.ne_nil_of_mem hc
  simp [Node.line?, hk, ha, Json.isTruthy, hne, i.keyword_ne_nil]

theorem oneLine (h : IsStated n) : '\n' ∉ n.keyword.display ++ ' ' :: n.arguments.display := by
  obtain ⟨i, a, hk, ha, -, hnl⟩ := h
  rw [hk, ha, Json.display, Json.display, List.mem_append, List.mem_cons]
  rintro (hm | hm | hm)
  · exact Script.newline_notMem_keyword i hm
  · exact absurd hm (by decide)
  · exact hnl hm

/-- The trimming of the line leaves the keyword and the space after it. -/
theorem statement_eq (h : IsStated n) :
    ∃ i rest, n.keyword = .text (Instruction.keyword i) ∧ statement n = i.keyword ++ ' ' :: rest := by
  obtain ⟨i, a, hk, ha, hblank, -⟩ := h
  refine ⟨i, a.rdropWhile Text.isBlank, hk, ?_⟩
  rw [statement, hk, ha]
  exact Text.trim_word i.keyword_ne_nil (Script.isBlank_of_mem_keyword i) ' ' hblank

theorem exists_names (h : IsStated n) : ∃ i, Names i (statement n) := by
  obtain ⟨i, rest, -, hs⟩ := h.statement_eq
  exact ⟨i, i.keyword, ' ', rest, hs, spells_keyword i, Text.isBlank_space⟩

theorem firstWord_statement (h : IsStated n) :
    ∃ i, n.keyword = .text (Instruction.keyword i) ∧ Text.firstWord (statement n) = i.keyword := by
  obtain ⟨i, rest, hk, hs⟩ := h.statement_eq
  exact ⟨i, hk, hs ▸ firstWord_of_spells (spells_keyword i) Text.isBlank_space rest⟩

theorem names_base_iff (h : IsStated n) : Names .base (statement n) ↔ IsA .base n := by
  obtain ⟨i, hk, hw⟩ := h.firstWord_statement
  rw [names_iff_firstWord h.exists_names, hw, isA_iff hk]
  exact ⟨spells_keyword_base, fun hi => hi ▸ spells_keyword i⟩

theorem isArgument_iff (h : IsStated n) : isArgument (statement n) = true ↔ IsA .arg n := by
  obtain ⟨i, hk, hw⟩ := h.firstWord_statement
  rw [isArgument, hw, Script.upper_keyword, isA_iff hk, beq_iff_eq]
  exact ⟨keyword_inj, congrArg _⟩

end IsStated

/-! The lines of rendered nodes. -/

variable {nodes : List Node}

theorem exists_of_mem_numberFrom {k : Nat} {l : Numbered} (hl : l ∈ numberFrom k (nodes.map statement)) :
    ∃ n ∈ nodes, l.line = statement n := by
  have hm := List.mem_map_of_mem (f := Numbered.line) hl
  rw [map_line_numberFrom, List.mem_map] at hm
  obtain ⟨n, hn, he⟩ := hm
  exact ⟨n, hn, he.symm⟩

theorem significant_unlines {ls : List Text} (hnl : ∀ l ∈ ls, '\n' ∉ l)
    (hsig : ∀ l ∈ ls, Script.isSignificant (Text.trim l) = true) :
    significant (Text.unlines ls) = numberFrom 1 (ls.map Text.trim) := by
  cases ls with
  | nil => rfl
  | cons l ls =>
    rw [significant, Text.lines_unlines (List.cons_ne_nil l ls) hnl, List.filter_eq_self]
    intro x hx
    have hm := List.mem_map_of_mem (f := Numbered.line) hx
    rw [map_line_numberFrom] at hm
    obtain ⟨l', hl', he⟩ := List.mem_map.1 hm
    exact he ▸ hsig l' hl'

/-- The lines of the rendered text are the statements of the nodes, one by one. -/
theorem significant_render (h : ∀ n ∈ nodes, IsStated n) :
    significant (render nodes) = numberFrom 1 (nodes.map statement) := by
  have hlines : nodes.filterMap Node.line? =
      nodes.map fun n => n.keyword.display ++ ' ' :: n.arguments.display := by
    rw [← List.filterMap_eq_map]
    exact List.filterMap_congr fun n hn => (h n hn).line?
  rw [render, hlines, significant_unlines, List.map_map]
  · rfl
  · exact List.forall_mem_map.2 fun n hn => (h n hn).oneLine
  · refine List.forall_mem_map.2 fun n hn => ?_
    obtain ⟨i, hi⟩ := (h n hn).exists_names
    exact isSignificant_of_names hi

/-! The verdict. -/

/-- Only `ARG`s stand before some `FROM`. -/
def BaseLeads (nodes : List Node) : Prop :=
  ∃ before base after, nodes = before ++ base :: after ∧ IsA .base base ∧ ∀ n ∈ before, IsA .arg n

/-- The result is the one that the keywords of the nodes call for. -/
structure DecidedBy (nodes : List Node) (result : Result) : Prop where
  none_invalid : ∀ x ∈ result.issues, ¬ IsInvalidMessage x.message
  isValid_iff : result.isValid = true ↔ BaseLeads nodes
  none_of_valid : result.isValid = true → result.issues = []
  missing : (∀ n ∈ nodes, ¬ IsA .base n) → result.issues =
    [⟨1, "Dockerfile must contain a FROM instruction.".toList, "error".toList⟩]
  misplaced : (∃ n ∈ nodes, IsA .base n) → ¬ BaseLeads nodes →
    ∃ before late after, nodes = before ++ late :: after ∧ (∀ n ∈ before, IsA .arg n) ∧ ¬ IsA .arg late ∧
      result.issues = [⟨before.length + 1,
        "FROM must be the first instruction in the Dockerfile (ARG excepted)".toList, "error".toList⟩]

theorem issuesOf_of_recognised {lines : List Numbered} (h : ∀ l ∈ lines, ∃ i, Names i l.line) :
    issuesOf lines = (placementIssue? lines).toList := by
  rw [issuesOf, invalidIssues_eq_nil_iff.2 h]
  cases placementIssue? lines <;> rfl

theorem all_or_first_late (nodes : List Node) : (∀ n ∈ nodes, IsA .arg n) ∨
    ∃ before late after, nodes = before ++ late :: after ∧ (∀ n ∈ before, IsA .arg n) ∧ ¬ IsA .arg late := by
  induction nodes with
  | nil => exact Or.inl fun _ h => absurd h List.not_mem_nil
  | cons n nodes ih =>
    by_cases hn : IsA .arg n
    · rcases ih with hall | ⟨before, late, after, rfl, hbefore, hlate⟩
      · exact Or.inl (List.forall_mem_cons.2 ⟨hn, hall⟩)
      · exact Or.inr ⟨n :: before, late, after, rfl, List.forall_mem_cons.2 ⟨hn, hbefore⟩, hlate⟩
    · exact Or.inr ⟨[], n, nodes, rfl, fun _ h => absurd h List.not_mem_nil, hn⟩

theorem not_isA_base_of_arg {n : Node} (h : IsA .arg n) : ¬ IsA .base n := by
  rw [isA_iff h]
  decide

theorem isBase_of_mem (h : ∀ n ∈ nodes, IsStated n) (hno : ∀ n ∈ nodes, ¬ IsA .base n) {k : Nat} :
    ∀ l ∈ numberFrom k (nodes.map statement), isBase l = false := by
  intro l hl
  obtain ⟨n, hn, he⟩ := exists_of_mem_numberFrom hl
  rw [← Bool.not_eq_true, isBase_iff, he, (h n hn).names_base_iff]
  exact hno n hn

theorem isArgument_of_mem (h : ∀ n ∈ nodes, IsStated n) (harg : ∀ n ∈ nodes, IsA .arg n) {k : Nat} :
    ∀ l ∈ numberFrom k (nodes.map statement), isArgument l.line = true := by
  intro l hl
  obtain ⟨n, hn, he⟩ := exists_of_mem_numberFrom hl
  rw [he, (h n hn).isArgument_iff]
  exact harg n hn

theorem placementIssue?_of_none (h : ∀ n ∈ nodes, IsStated n) (hno : ∀ n ∈ nodes, ¬ IsA .base n) :
    placementIssue? (numberFrom 1 (nodes.map statement)) = some missingBase := by
  have hany : (numberFrom 1 (nodes.map statement)).any isBase = false := by
    simpa using isBase_of_mem h hno
  rw [placementIssue?, hany]
  rfl

theorem placementIssue?_of_late {before after : List Node} {late : Node}
    (h : ∀ n ∈ before ++ late :: after, IsStated n) (hbefore : ∀ n ∈ before, IsA .arg n)
    (hlate : ¬ IsA .arg late) (hno : ¬ IsA .base late) (hbase : ∃ n ∈ after, IsA .base n) :
    placementIssue? (numberFrom 1 ((before ++ late :: after).map statement)) =
      some (baseNotFirst (before.length + 1)) := by
  have hb : ∀ n ∈ before, IsStated n := fun n hn => h n (by simp [hn])
  have hl : IsStated late := h late (by simp)
  obtain ⟨base, hmem, hisbase⟩ := hbase
  have hlist : numberFrom 1 ((before ++ late :: after).map statement) =
      numberFrom 1 (before.map statement) ++ ⟨before.length + 1, statement late⟩ ::
        numberFrom (before.length + 2) (after.map statement) := by
    rw [List.map_append, numberFrom_append, List.map_cons, numberFrom, List.length_map, Nat.add_comm 1]
  have hany : (numberFrom 1 ((before ++ late :: after).map statement)).any isBase = true := by
    have hin : statement base ∈ (before ++ late :: after).map statement :=
      List.mem_map_of_mem (by simp [hmem])
    rw [← map_line_numberFrom 1 ((before ++ late :: after).map statement), List.mem_map] at hin
    obtain ⟨l, hl, he⟩ := hin
    refine List.any_eq_true.2 ⟨l, hl, ?_⟩
    rw [isBase_iff, he, (h base (by simp [hmem])).names_base_iff]
    exact hisbase
  have hnone : isBase ⟨before.length + 1, statement late⟩ = false := by
    rw [← Bool.not_eq_true, isBase_iff, hl.names_base_iff]
    exact hno
  have hnotarg : isArgument (statement late) = false := by
    rw [← Bool.not_eq_true, hl.isArgument_iff]
    exact hlate
  have hskip : (numberFrom 1 (before.map statement)).find? (fun l => !isArgument l.line) = none := by
    simpa using isArgument_of_mem hb hbefore
  rw [placementIssue?, if_pos hany, hlist, List.takeWhile_append_of_pos fun l hl => by
      simpa using isBase_of_mem hb (fun n hn => not_isA_base_of_arg (hbefore n hn)) l hl,
    List.takeWhile_cons_of_pos (by simpa using hnone), List.find?_append, hskip,
    List.find?_cons_of_pos (by simpa using hnotarg)]
  rfl

theorem acceptable_map_statement (h : ∀ n ∈ nodes, IsStated n) :
    Acceptable (nodes.map statement) ↔ BaseLeads nodes := by
  constructor
  · rintro ⟨-, ws, w, vs, hsplit, hbase, hbefore⟩
    obtain ⟨before, rest, rfl, rfl, hrest⟩ := List.map_eq_append_iff.1 hsplit
    obtain ⟨base, after, rfl, rfl, rfl⟩ := List.map_eq_cons_iff.1 hrest
    refine ⟨before, base, after, rfl, (h base (by simp)).names_base_iff.1 hbase, fun n hn => ?_⟩
    rw [← (h n (by simp [hn])).isArgument_iff]
    simpa [isArgument] using hbefore (statement n) (List.mem_map_of_mem hn)
  · rintro ⟨before, base, after, rfl, hbase, hbefore⟩
    refine ⟨List.forall_mem_map.2 fun n hn => (h n hn).exists_names, before.map statement, statement base,
      after.map statement, by simp, (h base (by simp)).names_base_iff.2 hbase,
      List.forall_mem_map.2 fun n hn => ?_⟩
    simpa [isArgument] using (h n (by simp [hn])).isArgument_iff.2 (hbefore n hn)

theorem decidedBy_checkWith (h : ∀ n ∈ nodes, IsStated n) (custom : List CustomRule) :
    DecidedBy nodes (checkWith custom (render nodes)) := by
  have hlines := significant_render h
  have hvalid : (checkWith custom (render nodes)).isValid = true ↔ BaseLeads nodes := by
    rw [isValid_iff_acceptable, ← map_line_significant, hlines, map_line_numberFrom, acceptable_map_statement h]
  have hissues : (checkWith custom (render nodes)).issues =
      (placementIssue? (numberFrom 1 (nodes.map statement))).toList := by
    change issuesOf (significant (render nodes)) = _
    rw [hlines]
    refine issuesOf_of_recognised fun l hl => ?_
    obtain ⟨n, hn, he⟩ := exists_of_mem_numberFrom hl
    exact he ▸ (h n hn).exists_names
  refine ⟨fun x hx => ?_, hvalid, isValid_checkWith_iff.1, fun hno => ?_, fun hbase hlead => ?_⟩
  · rw [hissues, Option.mem_toList] at hx
    exact not_isInvalidMessage_of_placement (ascending_numberFrom 1 _) hx
  · rw [hissues, placementIssue?_of_none h hno]
    rfl
  · obtain ⟨base, hmem, hisbase⟩ := hbase
    rcases all_or_first_late nodes with hall | ⟨before, late, after, rfl, hbefore, hlate⟩
    · exact absurd hisbase (not_isA_base_of_arg (hall base hmem))
    · have hno : ¬ IsA .base late := fun hb => hlead ⟨before, late, after, rfl, hb, hbefore⟩
      have hafter : ∃ n ∈ after, IsA .base n := by
        refine ⟨base, ?_, hisbase⟩
        rcases List.mem_append.1 hmem with hb | hb
        · exact absurd hisbase (not_isA_base_of_arg (hbefore base hb))
        · exact (List.mem_cons.1 hb).resolve_left fun he => hno (he ▸ hisbase)
      refine ⟨before, late, after, rfl, hbefore, hlate, ?_⟩
      rw [hissues, placementIssue?_of_late h hbefore hlate hno hafter]
      rfl

/-- What an import makes of a text are stated nodes. -/
theorem isStated_of_mem_parse {content : Text} {ids : IdSource} {n : Node}
    (hn : n ∈ (parse content ids).1.nodes.items) : IsStated n := by
  obtain ⟨i, hi, he⟩ := Script.exists_bare_of_mem_parse hn
  have ht := Script.isTrimmed_arguments hi
  obtain ⟨c, a, hca⟩ := List.exists_cons_of_ne_nil (Script.arguments_ne_nil hi)
  refine ⟨i.1.instruction, i.2, congrArg Node.keyword he, congrArg Node.arguments he,
    ⟨c, by simp [hca], ht.1 c (by simp [hca])⟩, Script.newline_notMem_arguments hi⟩

/-- The verdict on rendered text is the one that the keywords of its nodes call for: on any nodes that are stated,
and on what an import makes of any text. -/
theorem generated_verdict :
    (∀ nodes : List Node, (∀ n ∈ nodes, IsStated n) →
      (∃ result, checkDocument (render nodes) .null = .ok result) ∧
      ∀ rules result, checkDocument (render nodes) rules = .ok result → DecidedBy nodes result) ∧
    ∀ content ids,
      let nodes := (parse content ids).1.ordered
      (∃ result, checkDocument (render nodes) .null = .ok result) ∧
      ∀ rules result, checkDocument (render nodes) rules = .ok result → DecidedBy nodes result := by
  have hgen : ∀ nodes : List Node, (∀ n ∈ nodes, IsStated n) →
      (∃ result, checkDocument (render nodes) .null = .ok result) ∧
      ∀ rules result, checkDocument (render nodes) rules = .ok result → DecidedBy nodes result := by
    refine fun nodes h => ⟨⟨_, rfl⟩, fun rules result hr => ?_⟩
    obtain ⟨custom, rfl⟩ := exists_checkWith_of_checkDocument hr
    exact decidedBy_checkWith h custom
  refine ⟨hgen, fun content ids => hgen _ fun n hn => ?_⟩
  rw [(Script.linear_parse content ids).chain.ordered] at hn
  exact isStated_of_mem_parse hn

/-- Arguments that hold a `FROM` of their own, look like a comment or end in a backslash count for nothing. -/
theorem generated_verdict_late :
    let node (keyword arguments : Text) : Node :=
      ⟨[], .text keyword, .text arguments, .null, .null, .bool false, .origin⟩
    let nodes := [node "ARG" "v \\", node "RUN" "\r# FROM a", node "FROM" "\t\u2003b "]
    (∀ n ∈ nodes, IsStated n) ∧ ∃ result, checkDocument (render nodes) .null = .ok result ∧
      DecidedBy nodes result ∧ result.issues = [⟨2,
        "FROM must be the first instruction in the Dockerfile (ARG excepted)".toList, "error".toList⟩] := by
  intro node nodes
  have h : ∀ n ∈ nodes, IsStated n := by
    intro n hn
    simp only [nodes, List.mem_cons, List.not_mem_nil, or_false] at hn
    rcases hn with rfl | rfl | rfl
    · exact ⟨.arg, "v \\", rfl, rfl, ⟨'v', by decide, by decide⟩, by decide⟩
    · exact ⟨.run, "\r# FROM a", rfl, rfl, ⟨'a', by decide, by decide⟩, by decide⟩
    · exact ⟨.base, "\t\u2003b ", rfl, rfl, ⟨'b', by decide, by decide⟩, by decide⟩
  exact ⟨h, _, rfl, (generated_verdict.1 nodes h).2 .null _ rfl, by decide +kernel⟩

end Dockgraph.Lint
