import Dockgraph.Lint.Explanation
import Dockgraph.Proofs.Lint.Verdict
import Dockgraph.Proofs.Text.Parts

/-! Which instructions a summary calls missing. The check reads keywords in any case, the summary looks for the capitals
anywhere in the text. So an instruction that it calls missing may be there, in small letters. -/

namespace Dockgraph.Lint

/-- How a summary goes that lists what is missing, before the list. -/
def missingOpening : Text :=
  "This Dockerfile is basically correct, but it is missing some common instructions: ".toList

/-- Whether the summary says that the instruction is missing: its keyword stands in the list of what is missing, which
goes on up to a full stop. -/
def CallsMissing (summary : Text) (i : Instruction) : Prop :=
  ∃ missing rest, summary = missingOpening ++ missing ++ '.' :: rest ∧ '.' ∉ missing ∧ i.keyword <:+: missing

/-! What the summary lists. -/

/-- No keyword stands within that of another instruction if the other is a usual one. -/
theorem isInfix_keyword_iff {i j : Instruction} (hj : j ∈ essentials) : i.keyword <:+: j.keyword ↔ i = j := by
  have hall : ∀ j ∈ essentials, ∀ i ∈ Instruction.all, Text.hasPart i.keyword j.keyword = true ↔ i = j := by
    decide +kernel
  exact Text.hasPart_iff_isInfix.symm.trans (hall j hj i (Instruction.mem_all i))

theorem notMem_keyword (i : Instruction) : ',' ∉ i.keyword ∧ ' ' ∉ i.keyword := by
  cases i <;> decide

theorem mem_missingEssentials {content : Text} {i : Instruction} :
    i ∈ missingEssentials content ↔ i ∈ essentials ∧ ¬ i.keyword <:+: content := by
  rw [missingEssentials, List.mem_filter, Bool.not_eq_true', ← Bool.not_eq_true, Text.hasPart_iff_isInfix]

/-- The keywords of some instructions in a row. -/
def keywordList (is : List Instruction) : Text :=
  Text.joinWith ", ".toList (is.map (·.keyword))

theorem isInfix_keywordList_iff {is : List Instruction} (h : ∀ j ∈ is, j ∈ essentials) {i : Instruction} :
    i.keyword <:+: keywordList is ↔ i ∈ is := by
  obtain ⟨hcomma, hspace⟩ := notMem_keyword i
  have hgap : ∀ d ∈ [' '], d ∉ i.keyword := List.forall_mem_singleton.2 hspace
  change i.keyword <:+: Text.joinWith (',' :: [' ']) _ ↔ _
  rw [Text.isInfix_joinWith_iff i.keyword_ne_nil hcomma hgap]
  simp only [List.mem_map, exists_exists_and_eq_and]
  constructor
  · rintro ⟨j, hj, hpart⟩
    exact (isInfix_keyword_iff (h j hj)).1 hpart ▸ hj
  · exact fun hi => ⟨i, hi, List.infix_rfl⟩

theorem notMem_keywordList (is : List Instruction) : '.' ∉ keywordList is := by
  have hall : (keywordList is).all (· != '.') = true := by
    refine Text.all_joinWith (by decide) (List.forall_mem_map.2 fun i _ => ?_)
    cases i <;> decide
  intro hm
  exact absurd (List.all_eq_true.1 hall _ hm) (by decide)

theorem summary_eq (is : List Instruction) (rest : Text) :
    basicallyCorrect ++ missingText is ++ rest = missingOpening ++ keywordList is ++ '.' :: rest := by
  have hopening : missingOpening = basicallyCorrect ++ "it is missing some common instructions: ".toList := by
    decide +kernel
  have hstop : ".".toList ++ rest = '.' :: rest := rfl
  rw [hopening, List.append_assoc, List.append_assoc, List.append_assoc, List.append_cancel_left_eq]
  unfold missingText keywordList
  rw [List.append_assoc, List.append_assoc, hstop]

theorem callsMissing_list_iff {is : List Instruction} (h : ∀ j ∈ is, j ∈ essentials) {i : Instruction} (rest : Text) :
    CallsMissing (basicallyCorrect ++ missingText is ++ rest) i ↔ i ∈ is := by
  rw [summary_eq, ← isInfix_keywordList_iff h]
  constructor
  · rintro ⟨missing, rest', heq, hstop, hi⟩
    rw [List.append_assoc, List.append_assoc, List.append_cancel_left_eq] at heq
    obtain ⟨rfl, -⟩ := Text.append_cons_inj_of_notMem_left (notMem_keywordList is) hstop heq
    exact hi
  · exact fun hi => ⟨keywordList is, rest, rfl, notMem_keywordList is, hi⟩

/-- The summaries that list nothing. -/
def withoutList : List Text :=
  [cannotBuild, shouldBuild, basicallyCorrect ++ hasEssentials ++ [], basicallyCorrect ++ hasEssentials ++ hasSuggestions]

theorem not_callsMissing {summary : Text} {i : Instruction} (h : summary ∈ withoutList) : ¬ CallsMissing summary i := by
  have hall : ∀ summary ∈ withoutList, ¬ missingOpening <+: summary := by decide +kernel
  rintro ⟨missing, rest, rfl, -⟩
  refine hall _ h ?_
  rw [List.append_assoc]
  exact List.prefix_append _ _

theorem callsMissing_buildability_iff {content : Text} {r : Result} {i : Instruction} :
    CallsMissing (buildability content r) i ↔
      r.isValid = true ∧ (r.errors ≠ [] ∨ r.suggestions ≠ []) ∧ i ∈ missingEssentials content := by
  rw [buildability]
  cases hvalid : r.isValid with
  | false => simpa using not_callsMissing (by simp [withoutList])
  | true =>
    by_cases hclean : r.errors = [] ∧ r.suggestions = []
    · simpa [hclean] using not_callsMissing (by simp [withoutList])
    · have hfound : r.errors ≠ [] ∨ r.suggestions ≠ [] := by
        rwa [← not_and_or]
      have hbranch : (r.errors.isEmpty && r.suggestions.isEmpty) = false := by
        simpa using hclean
      simp only [Bool.not_true, Bool.false_eq_true, if_false, hbranch, hfound, true_and]
      cases hmissing : missingEssentials content with
      | nil =>
        refine iff_of_false (not_callsMissing ?_) List.not_mem_nil
        cases r.suggestions <;> simp [withoutList]
      | cons j is =>
        have hessential : ∀ k ∈ j :: is, k ∈ essentials := by
          intro k hk
          exact (mem_missingEssentials.1 (hmissing ▸ hk)).1
        exact callsMissing_list_iff hessential _

/-! Lines of instructions that are called missing. -/

/-- A spelling of a keyword without small letters is in capitals, unless one of its letters has a capital that is in
none of the usual keywords. -/
theorem upperChar_of_mem_variants {k : Char} (hk : k ∈ letters) {c : Char} (hc : c ∈ Text.variants k) :
    c.isLower = true ∨ Text.upperChar c = [c] ∨ ∃ u ∈ Text.upperChar c, u ∉ essentials.flatMap (·.keyword) := by
  have hall : (letters.all fun k => (Text.variants k).all fun c => c.isLower || (Text.upperChar c == [c] ||
      (Text.upperChar c).any fun u => decide (u ∉ essentials.flatMap (·.keyword)))) = true := by decide +kernel
  have hone := List.all_eq_true.1 (List.all_eq_true.1 hall k hk) c hc
  simpa only [Bool.or_eq_true, beq_iff_eq, List.any_eq_true, decide_eq_true_eq] using hone

theorem Spells.exists_isLower {word : Text} {i j : Instruction} (h : Spells word j.keyword) (hi : i ∈ essentials)
    (hupper : Text.upper word = i.keyword) (hne : word ≠ i.keyword) : ∃ c ∈ word, c.isLower = true := by
  by_contra hnone
  have hself : ∀ c ∈ word, Text.upperChar c = [c] := by
    intro c hc
    obtain ⟨k, hk, hsame⟩ := h.exists_letter hc
    rcases upperChar_of_mem_variants (mem_letters j hk) (Text.mem_variants_of_sameLetter hsame) with
      hlower | hself | ⟨u, hu, hnot⟩
    · exact absurd ⟨c, hc, hlower⟩ hnone
    · exact hself
    · have hmem : u ∈ i.keyword := hupper ▸ List.mem_flatMap.2 ⟨c, hc, hu⟩
      exact absurd (List.mem_flatMap.2 ⟨i, hi, hmem⟩) hnot
  refine hne (Eq.trans ?_ hupper)
  rw [Text.upper, List.flatMap_congr hself, List.flatMap_singleton']

/-- What the first word of a line is stands in the text. -/
theorem isInfix_of_lineAt {content line rest word : Text} {n : Nat} (hat : LineAt content n line)
    (hline : line = word ++ rest) {i : Instruction} (h : Spells word i.keyword) : word <:+: content := by
  rw [← Text.hasPart_iff_isInfix, Text.hasPart_iff_exists_line h.ne_nil h.isBlank]
  refine ⟨line, List.mem_of_getElem? hat.2, Text.hasPart_iff_isInfix.2 ?_⟩
  rw [hline]
  exact (List.prefix_append word rest).isInfix

/-- The summary of a text that is valid and gets suggestions calls those of the usual instructions missing whose keyword
stands nowhere in the text in capitals. A line that is recognised as one of these has a small letter in its keyword. -/
theorem calledMissing_iff_no_capitals (content : Text) :
    ∃ result, checkDocument content .null = .ok result ∧
      (∀ i, CallsMissing (buildability content result) i ↔
        result.isValid = true ∧ result.suggestions ≠ [] ∧ i ∈ essentials ∧ ¬ i.keyword <:+: content) ∧
      ∀ i, CallsMissing (buildability content result) i → ∀ n line s, LineAt content n line →
        recognise? line = some s → s.keyword = i.keyword → ∃ c ∈ Text.firstWord line, c.isLower = true := by
  refine ⟨checkWith [] content, rfl, ?_, ?_⟩
  · intro i
    rw [callsMissing_buildability_iff, mem_missingEssentials]
    refine and_congr_right fun hvalid => ?_
    have herrors : (checkWith [] content).errors = [] := by
      rw [Result.errors, isValid_checkWith_iff.1 hvalid, List.filter_nil]
    rw [herrors, Ne, eq_self, not_true_eq_false, false_or]
  · intro i hmissing n line s hat hs hi
    obtain ⟨-, -, hmem⟩ := callsMissing_buildability_iff.1 hmissing
    obtain ⟨hessential, hnone⟩ := mem_missingEssentials.1 hmem
    obtain ⟨j, -, hj⟩ := List.exists_of_findSome?_eq_some hs
    obtain ⟨word, b, rest, hline, hw, hb, rfl⟩ := statementOf?_eq_some_iff.1 hj
    have hne : word ≠ i.keyword := by
      rintro rfl
      exact hnone (isInfix_of_lineAt hat hline hw)
    rw [hline, firstWord_of_spells hw hb]
    exact hw.exists_isLower hessential hi hne

/-- One capital does not do. -/
theorem calledMissing_in_mixed_letters : ∃ result, checkDocument "FROM a:1\nCopy . /".toList .null = .ok result ∧
    (CallsMissing (buildability "FROM a:1\nCopy . /".toList result) .copy ∧
      ¬ CallsMissing (buildability "FROM a:1\nCopy . /".toList result) .base) ∧
    recognise? "Copy . /".toList = some ⟨"COPY", ". /"⟩ ∧
    ∃ c ∈ Text.firstWord "Copy . /".toList, c.isLower = true := by
  obtain ⟨result, hresult, hmissing, hlower⟩ := calledMissing_iff_no_capitals "FROM a:1\nCopy . /".toList
  obtain rfl : checkWith [] _ = result := Except.ok.inj hresult
  have hcopy := (hmissing .copy).2 ⟨by decide +kernel, by decide +kernel, by decide +kernel, by decide +kernel⟩
  have hline : LineAt "FROM a:1\nCopy . /".toList 2 "Copy . /" := ⟨by decide, by decide +kernel⟩
  have hrecognised : recognise? "Copy . /".toList = some ⟨"COPY", ". /"⟩ := by decide +kernel
  refine ⟨_, hresult, ⟨hcopy, fun hbase => ?_⟩, hrecognised, hlower .copy hcopy 2 _ _ hline hrecognised rfl⟩
  have hnone := ((hmissing .base).1 hbase).2.2.2
  exact hnone ⟨[], " a:1\nCopy . /".toList, by decide⟩

/-- Not every instruction that is called missing is. -/
theorem not_calledMissing_absent : ¬ ∀ content result, checkDocument content .null = .ok result →
    ∀ i, CallsMissing (buildability content result) i → ∀ n line s, LineAt content n line →
      recognise? line = some s → s.keyword ≠ i.keyword := by
  intro h
  have hmissing : CallsMissing (buildability "from alpine:3\nrun echo hi".toList
      (checkWith [] "from alpine:3\nrun echo hi".toList)) .run :=
    callsMissing_buildability_iff.2 ⟨by decide +kernel, by decide +kernel, by decide +kernel⟩
  exact h "from alpine:3\nrun echo hi".toList _ rfl .run hmissing 2 "run echo hi" ⟨"RUN", "echo hi"⟩
    ⟨by decide, by decide +kernel⟩ (by decide +kernel) rfl

end Dockgraph.Lint
