import Dockgraph.Proofs.Lint.Issues

/-! When a text is valid. The verdict is a matter of the trimmed lines that say something, taken one by one: each
is a statement, there is a `FROM`, and before the first only `ARG` stands. -/

namespace Dockgraph.Lint

/-- Lines without an issue. -/
structure Acceptable (lines : List Text) : Prop where
  recognised : ∀ l ∈ lines, ∃ i, Names i l
  placed : ∃ before base after, lines = before ++ base :: after ∧ Names .base base ∧
    ∀ l ∈ before, Text.upper (Text.firstWord l) = Instruction.arg.keyword

theorem map_line_numberFrom (n : Nat) (ls : List Text) : (numberFrom n ls).map Numbered.line = ls := by
  induction ls generalizing n with
  | nil => rfl
  | cons l ls ih => rw [numberFrom, List.map_cons, ih]

theorem map_line_significant (content : Text) :
    (significant content).map Numbered.line = Script.significantLines content := by
  have h := List.filter_map (f := Numbered.line) (p := Script.isSignificant)
    (l := numberFrom 1 ((Text.lines content).map Text.trim))
  rw [map_line_numberFrom] at h
  exact h.symm

/-- There is no issue of place where some `FROM` has only `ARG` before it. -/
theorem placementIssue?_eq_none_iff {lines : List Numbered} :
    placementIssue? lines = none ↔
      ∃ before base after, lines = before ++ base :: after ∧ isBase base = true ∧
        ∀ l ∈ before, isArgument l.line = true := by
  rw [placementIssue?]
  constructor
  · intro h
    split at h
    · next hany =>
      obtain ⟨base, hfind⟩ := Option.isSome_iff_exists.1 (List.find?_isSome.2 (List.any_eq_true.1 hany))
      obtain ⟨hbase, before, after, rfl, hbefore⟩ := List.find?_eq_some_iff_append.1 hfind
      refine ⟨before, base, after, rfl, hbase, ?_⟩
      rw [Option.map_eq_none_iff, List.find?_eq_none, List.takeWhile_append_of_pos hbefore,
        List.takeWhile_cons_of_neg (by simp [hbase]), List.append_nil] at h
      simpa using h
    · cases h
  · rintro ⟨before, base, after, rfl, hbase, hbefore⟩
    have hany : (before ++ base :: after).any isBase = true := by simp [hbase]
    rw [if_pos hany, Option.map_eq_none_iff, List.find?_eq_none]
    -- what is taken before the first `FROM` lies before this one
    intro l hl
    have hmem : l ∈ before := by
      rw [List.takeWhile_append] at hl
      split at hl
      · rw [List.takeWhile_cons_of_neg (by simp [hbase]), List.append_nil] at hl
        exact hl
      · exact (List.takeWhile_sublist _).subset hl
    simpa using hbefore l hmem

theorem invalidIssues_eq_nil_iff {lines : List Numbered} :
    invalidIssues lines = [] ↔ ∀ l ∈ lines, ∃ i, Names i l.line := by
  rw [List.eq_nil_iff_forall_not_mem]
  simp only [mem_invalidIssues, not_exists, not_and]
  constructor
  · intro h l hl
    by_contra hno
    exact h _ l hl (not_exists.1 hno) rfl
  · rintro h x l hl hno -
    obtain ⟨i, hi⟩ := h l hl
    exact hno i hi

theorem issuesOf_eq_nil_iff {lines : List Numbered} :
    issuesOf lines = [] ↔ invalidIssues lines = [] ∧ placementIssue? lines = none := by
  simp only [List.eq_nil_iff_forall_not_mem, mem_issuesOf, not_or, Option.eq_none_iff_forall_ne_some]
  exact forall_and

theorem acceptable_map_line {lines : List Numbered} :
    Acceptable (lines.map Numbered.line) ↔ invalidIssues lines = [] ∧ placementIssue? lines = none := by
  rw [invalidIssues_eq_nil_iff, placementIssue?_eq_none_iff]
  constructor
  · rintro ⟨hrec, before, base, after, hsplit, hbase, hbefore⟩
    refine ⟨fun l hl => hrec l.line (List.mem_map_of_mem hl), ?_⟩
    obtain ⟨xs, ys, rfl, rfl, hys⟩ := List.map_eq_append_iff.1 hsplit
    obtain ⟨b, zs, rfl, rfl, rfl⟩ := List.map_eq_cons_iff.1 hys
    refine ⟨xs, b, zs, rfl, isBase_iff.2 hbase, fun l hl => ?_⟩
    simpa [isArgument] using hbefore l.line (List.mem_map_of_mem hl)
  · rintro ⟨hrec, before, base, after, rfl, hbase, hbefore⟩
    refine ⟨List.forall_mem_map.2 hrec, before.map Numbered.line, base.line, after.map Numbered.line, by simp,
      isBase_iff.1 hbase, List.forall_mem_map.2 fun l hl => ?_⟩
    simpa [isArgument] using hbefore l hl

variable {content : Text} {custom : List CustomRule}

theorem isValid_checkWith_iff :
    (checkWith custom content).isValid = true ↔ (checkWith custom content).issues = [] := by
  change (!((issuesOf (significant content)).any fun i => i.severity == errorSeverity)) = true ↔
    issuesOf (significant content) = []
  rw [Bool.not_eq_true', List.any_eq_false, List.eq_nil_iff_forall_not_mem]
  refine forall_congr' fun x => ⟨fun hx hm => hx hm ?_, fun hx hm => absurd hm hx⟩
  simpa using severity_of_called (mem_issuesOf_significant.1 hm)

/-- A text is valid where its lines are acceptable, whatever the custom rules are. -/
theorem isValid_iff_acceptable :
    (checkWith custom content).isValid = true ↔ Acceptable (Script.significantLines content) := by
  rw [isValid_checkWith_iff, ← map_line_significant, acceptable_map_line]
  exact issuesOf_eq_nil_iff

end Dockgraph.Lint
