import Dockgraph.Proofs.Lint.Verdict
import Dockgraph.Proofs.Lint.WholeText

/-! Lines that say nothing: blank ones and comments. Wherever one is put into a text the importer makes the same graph,
and the linter says the same of the lines around it, under their new numbers. The one issue that is of no line stays
where it is, so that it may change places with the issues of other lines. -/

namespace Dockgraph

/-- The text with one line more, after the first `k` lines. -/
def Text.insertLine (k : Nat) (x content : Text) : Text :=
  unlines ((lines content).take k ++ x :: (lines content).drop k)

namespace Lint

open Script (significantLines)

/-- A line that says nothing. -/
def IsInert (x : Text) : Prop :=
  Text.trim x = [] ∨ (Text.trim x).head? = some '#'

/-- The number of a line once another one stands after the first `k`. -/
def numberAfter (k n : Nat) : Nat :=
  if k < n then n + 1 else n

def Numbered.moved (k : Nat) (l : Numbered) : Numbered :=
  ⟨numberAfter k l.number, l.line⟩

def Issue.moved (k : Nat) (x : Issue) : Issue :=
  { x with line := numberAfter k x.line }

/-- Whether the issue is that of a missing `FROM`, which is of no line. -/
def isMissing (x : Issue) : Bool :=
  x.message == missingBase.message

/-- What the check of a text comes to once the line `x`, which says nothing, stands after the first `k` lines. The
issue of a missing `FROM` stays, and the others move with their lines and keep their order. What is suggested for a line
moves with it. Of the advice on the text as a whole some may go, but only if the line is a comment. -/
structure Moves (k : Nat) (x content : Text) (result result' : Result) : Prop where
  isValid : result'.isValid = result.isValid
  missing : result'.issues.filter isMissing = result.issues.filter isMissing
  missing_first : ∀ i ∈ result'.issues, isMissing i = true → i.line = 1
  others : result'.issues.filter (!isMissing ·) = (result.issues.filter (!isMissing ·)).map (Issue.moved k)
  ordered : result'.issues.Pairwise Precedes
  suggestions : ∃ remarks : List (Nat × Text),
    result.suggestions = remarks.map (fun r => lineRemark r.1 r.2) ++ documentAdvice content ∧
    result'.suggestions = remarks.map (fun r => lineRemark (numberAfter k r.1) r.2) ++
      documentAdvice (Text.insertLine k x content)
  advice : (documentAdvice (Text.insertLine k x content)).Sublist (documentAdvice content)
  advice_of_blank : Text.trim x = [] → documentAdvice (Text.insertLine k x content) = documentAdvice content

theorem numberAfter_le_iff {k m n : Nat} : numberAfter k m ≤ numberAfter k n ↔ m ≤ n := by
  unfold numberAfter
  split_ifs <;> omega

theorem isSignificant_trim_of_inert {x : Text} (h : IsInert x) : Script.isSignificant (Text.trim x) = false := by
  rcases h with h | h <;> simp [Script.isSignificant, h]

/-! Lines. -/

variable {content x : Text} {k : Nat}

theorem lines_insertLine (hx : '\n' ∉ x) (k : Nat) (content : Text) :
    Text.lines (Text.insertLine k x content) = (Text.lines content).take k ++ x :: (Text.lines content).drop k := by
  refine Text.lines_unlines (by simp) fun l hl => ?_
  rw [List.mem_append, List.mem_cons] at hl
  rcases hl with hl | rfl | hl
  · exact Text.notMem_of_mem_lines (List.mem_of_mem_take hl)
  · exact hx
  · exact Text.notMem_of_mem_lines (List.mem_of_mem_drop hl)

theorem numberFrom_succ (n : Nat) (ls : List Text) :
    numberFrom (n + 1) ls = (numberFrom n ls).map fun l => ⟨l.number + 1, l.line⟩ := by
  induction ls generalizing n with
  | nil => rfl
  | cons l ls ih => rw [numberFrom, ih, numberFrom, List.map_cons]

theorem number_of_mem_numberFrom {n : Nat} {ls : List Text} {l : Numbered} (h : l ∈ numberFrom n ls) :
    n ≤ l.number ∧ l.number < n + ls.length := by
  obtain ⟨hn, hat⟩ := mem_numberFrom.1 h
  have hlt := (List.getElem?_eq_some_iff.1 hat).1
  omega

/-- The lines above keep their numbers and the lines below have the next ones. -/
theorem map_moved_numberFrom (k : Nat) (ls : List Text) : (numberFrom 1 ls).map (Numbered.moved k) =
    numberFrom 1 (ls.take k) ++ numberFrom (1 + (ls.take k).length + 1) (ls.drop k) := by
  have habove : (numberFrom 1 (ls.take k)).map (Numbered.moved k) = numberFrom 1 (ls.take k) := by
    conv_rhs => rw [← List.map_id (numberFrom 1 (ls.take k))]
    refine List.map_congr_left fun l hl => ?_
    have hnumber := (number_of_mem_numberFrom hl).2
    rw [List.length_take] at hnumber
    rw [Numbered.moved, numberAfter, if_neg (by omega)]
    rfl
  have hbelow : (numberFrom (1 + (ls.take k).length) (ls.drop k)).map (Numbered.moved k) =
      numberFrom (1 + (ls.take k).length + 1) (ls.drop k) := by
    rw [numberFrom_succ]
    refine List.map_congr_left fun l hl => ?_
    have hnumber := number_of_mem_numberFrom hl
    rw [List.length_take, List.length_drop] at hnumber
    rw [Numbered.moved, numberAfter, if_pos (by omega)]
  rw [← habove, ← hbelow, ← List.map_append, ← numberFrom_append, List.take_append_drop]

theorem significant_insertLine (hx : '\n' ∉ x) (hinert : IsInert x) (k : Nat) (content : Text) :
    significant (Text.insertLine k x content) = (significant content).map (Numbered.moved k) := by
  have hmoved : ∀ ls : List Numbered, (ls.map (Numbered.moved k)).filter (fun l => Script.isSignificant l.line) =
      (ls.filter fun l => Script.isSignificant l.line).map (Numbered.moved k) := fun ls => List.filter_map
  rw [significant, significant, lines_insertLine hx, ← hmoved, map_moved_numberFrom, List.map_append, List.map_cons,
    numberFrom_append, numberFrom, List.filter_append, List.filter_append,
    List.filter_cons_of_neg (by simp [isSignificant_trim_of_inert hinert]), List.map_take, List.map_drop]

theorem significantLines_insertLine (hx : '\n' ∉ x) (hinert : IsInert x) (k : Nat) (content : Text) :
    significantLines (Text.insertLine k x content) = significantLines content := by
  rw [← map_line_significant, significant_insertLine hx hinert, List.map_map, ← map_line_significant]
  rfl

theorem linesAmong_insertLine (hx : '\n' ∉ x) (k : Nat) (content : Text) :
    Text.LinesAmong content (Text.insertLine k x content) := by
  intro l hl _
  rw [lines_insertLine hx, List.map_append, List.map_cons]
  rw [← List.take_append_drop k (Text.lines content), List.map_append, List.mem_append] at hl
  exact List.mem_append.2 (hl.imp_right (List.mem_cons_of_mem _))

theorem insertLine_linesAmong (hx : '\n' ∉ x) (hblank : Text.trim x = []) (k : Nat) (content : Text) :
    Text.LinesAmong (Text.insertLine k x content) content := by
  intro l hl hne
  rw [lines_insertLine hx, List.map_append, List.map_cons, hblank, List.mem_append, List.mem_cons] at hl
  rw [← List.take_append_drop k (Text.lines content), List.map_append, List.mem_append]
  exact hl.imp_right fun h => h.resolve_left hne

/-! Issues. -/

variable {lines : List Numbered}

theorem invalidIssues_moved (k : Nat) (lines : List Numbered) :
    invalidIssues (lines.map (Numbered.moved k)) = (invalidIssues lines).map (Issue.moved k) := by
  rw [invalidIssues, invalidIssues, List.filter_map, List.map_map, List.map_map]
  rfl

theorem placementIssue?_moved (k : Nat) (hbase : lines.any isBase = true) :
    placementIssue? (lines.map (Numbered.moved k)) = (placementIssue? lines).map (Issue.moved k) := by
  have hbase' : (lines.map (Numbered.moved k)).any isBase = true := by rwa [List.any_map]
  rw [placementIssue?, placementIssue?, if_pos hbase, if_pos hbase', List.takeWhile_map, List.find?_map, Option.map_map,
    Option.map_map]
  rfl

theorem insertIssue_moved (k : Nat) (x : Issue) (issues : List Issue) :
    insertIssue (x.moved k) (issues.map (Issue.moved k)) = (insertIssue x issues).map (Issue.moved k) := by
  have hsame : (fun i : Issue => decide (i.line ≤ (x.moved k).line)) ∘ Issue.moved k =
      fun i => decide (i.line ≤ x.line) :=
    funext fun i => decide_eq_decide.2 numberAfter_le_iff
  rw [insertIssue, insertIssue, List.takeWhile_map, List.dropWhile_map, hsame, List.map_append, List.map_cons]

theorem issuesOf_moved_of_base (k : Nat) (hbase : lines.any isBase = true) :
    issuesOf (lines.map (Numbered.moved k)) = (issuesOf lines).map (Issue.moved k) := by
  rw [issuesOf, issuesOf, placementIssue?_moved k hbase, invalidIssues_moved]
  cases placementIssue? lines with
  | none => rfl
  | some x => exact insertIssue_moved k x (invalidIssues lines)

theorem issuesOf_of_no_base (hbase : lines.any isBase = false) :
    issuesOf lines = insertIssue missingBase (invalidIssues lines) := by
  rw [issuesOf, placementIssue?, hbase]
  rfl

theorem isMissing_of_mem_invalidIssues {x : Issue} (h : x ∈ invalidIssues lines) : isMissing x = false := by
  obtain ⟨l, -, -, rfl⟩ := mem_invalidIssues.1 h
  rfl

theorem isMissing_of_mem_issuesOf (hbase : lines.any isBase = true) {x : Issue} (h : x ∈ issuesOf lines) :
    isMissing x = false := by
  rcases mem_issuesOf.1 h with hinvalid | hplace
  · exact isMissing_of_mem_invalidIssues hinvalid
  · rw [placementIssue?, if_pos hbase, Option.map_eq_some_iff] at hplace
    obtain ⟨l, -, rfl⟩ := hplace
    rfl

/-- The issue of a missing `FROM` among others. -/
theorem filter_insertIssue_missingBase {issues : List Issue} (h : ∀ x ∈ issues, isMissing x = false) :
    (insertIssue missingBase issues).filter isMissing = [missingBase] ∧
    (insertIssue missingBase issues).filter (!isMissing ·) = issues := by
  have hnone : issues.filter isMissing = [] := List.filter_eq_nil_iff.2 fun x hx => by simp [h x hx]
  have hall : issues.filter (!isMissing ·) = issues := List.filter_eq_self.2 fun x hx => by simp [h x hx]
  have hmissing : isMissing missingBase = true := rfl
  rw [← List.takeWhile_append_dropWhile (p := fun i : Issue => decide (i.line ≤ missingBase.line)) (l := issues),
    List.filter_append] at hnone hall
  rw [insertIssue, List.filter_append, List.filter_append, List.filter_cons_of_pos hmissing,
    List.filter_cons_of_neg (by simp [hmissing]), hall, List.takeWhile_append_dropWhile]
  exact ⟨by rw [(List.append_eq_nil_iff.1 hnone).1, (List.append_eq_nil_iff.1 hnone).2, List.nil_append], rfl⟩

/-- The issues of moved lines are the moved issues, but for that of a missing `FROM`. -/
theorem filter_issuesOf_moved (k : Nat) (lines : List Numbered) :
    (issuesOf (lines.map (Numbered.moved k))).filter isMissing = (issuesOf lines).filter isMissing ∧
    (issuesOf (lines.map (Numbered.moved k))).filter (!isMissing ·) =
      ((issuesOf lines).filter (!isMissing ·)).map (Issue.moved k) := by
  cases hbase : lines.any isBase with
  | true =>
    rw [issuesOf_moved_of_base k hbase, List.filter_map, List.filter_map]
    have hnone : (issuesOf lines).filter isMissing = [] :=
      List.filter_eq_nil_iff.2 fun x hx => by simp [isMissing_of_mem_issuesOf hbase hx]
    exact ⟨by rw [hnone]; exact congrArg (List.map (Issue.moved k)) hnone, rfl⟩
  | false =>
    have hbase' : (lines.map (Numbered.moved k)).any isBase = false := by rwa [List.any_map]
    obtain ⟨hmissing, hothers⟩ := filter_insertIssue_missingBase (@isMissing_of_mem_invalidIssues lines)
    obtain ⟨hmissing', hothers'⟩ :=
      filter_insertIssue_missingBase (@isMissing_of_mem_invalidIssues (lines.map (Numbered.moved k)))
    rw [issuesOf_of_no_base hbase, issuesOf_of_no_base hbase', hmissing, hmissing', hothers, hothers']
    exact ⟨rfl, invalidIssues_moved k lines⟩

theorem eq_missingBase_of_isMissing {x : Issue} (h : x ∈ issuesOf lines) (hx : isMissing x = true) :
    x = missingBase := by
  cases hbase : lines.any isBase with
  | true =>
    rw [isMissing_of_mem_issuesOf hbase h] at hx
    cases hx
  | false =>
    have hmem : x ∈ (insertIssue missingBase (invalidIssues lines)).filter isMissing :=
      List.mem_filter.2 ⟨issuesOf_of_no_base hbase ▸ h, hx⟩
    rw [(filter_insertIssue_missingBase (@isMissing_of_mem_invalidIssues lines)).1] at hmem
    exact List.mem_singleton.1 hmem

/-! Suggestions. -/

/-- What is suggested for a line, whatever its number is. -/
def remarksOn (custom : List CustomRule) (line : Text) : List Text :=
  match recognise? line with
  | none => []
  | some s => Advice.forStatement s ++ (custom.filter (·.applies line s)).map (·.remark)

/-- What is suggested for lines, with their numbers. -/
def numberedRemarks (custom : List CustomRule) (lines : List Numbered) : List (Nat × Text) :=
  lines.flatMap fun l => (remarksOn custom l.line).map fun remark => (l.number, remark)

theorem lineSuggestions_eq_remarks (custom : List CustomRule) (l : Numbered) :
    lineSuggestions custom l = (remarksOn custom l.line).map (lineRemark l.number) := by
  rw [lineSuggestions, remarksOn]
  cases recognise? l.line <;> rfl

/-- The suggestions for lines whose numbers are changed. -/
theorem flatMap_lineSuggestions (custom : List CustomRule) (f : Nat → Nat) (lines : List Numbered) :
    (lines.map fun l => ⟨f l.number, l.line⟩).flatMap (lineSuggestions custom) =
      (numberedRemarks custom lines).map fun r => lineRemark (f r.1) r.2 := by
  rw [numberedRemarks, List.map_flatMap, List.flatMap_map]
  refine List.flatMap_congr fun l _ => ?_
  rw [lineSuggestions_eq_remarks, List.map_map]
  rfl

theorem suggestions_checkWith (custom : List CustomRule) (content : Text) : (checkWith custom content).suggestions =
    (numberedRemarks custom (significant content)).map (fun r => lineRemark r.1 r.2) ++ documentAdvice content := by
  have h := flatMap_lineSuggestions custom id (significant content)
  rw [List.map_id''] at h
  · rw [checkWith, h]
    rfl
  · exact fun _ => rfl

/-! Checks. -/

/-- Rules by which one text is checked check all that have as little to say of them. -/
theorem checkDocument_of_eq_ok {rules : Json} {result : Result} (h : checkDocument content rules = .ok result) :
    ∃ custom, result = checkWith custom content ∧
      ∀ t, isOverlong custom t = isOverlong custom content → checkDocument t rules = .ok (checkWith custom t) := by
  obtain ⟨entries, custom, hentries, hcustom, hlong, rfl⟩ := checkDocumentBy_eq_ok_iff.1 h
  exact ⟨custom, rfl, fun t ht => checkDocumentBy_eq_ok_iff.2 ⟨entries, custom, hentries, hcustom, ht.trans hlong, rfl⟩⟩

theorem isOverlong_insertLine (hx : '\n' ∉ x) (hinert : IsInert x) (custom : List CustomRule) (k : Nat)
    (content : Text) : isOverlong custom (Text.insertLine k x content) = isOverlong custom content := by
  simp only [isOverlong, significant_insertLine hx hinert, List.any_map]
  rfl

theorem moves_checkWith (custom : List CustomRule) (content : Text) (k : Nat) (hx : '\n' ∉ x) (hinert : IsInert x) :
    Moves k x content (checkWith custom content) (checkWith custom (Text.insertLine k x content)) := by
  have hlines := significant_insertLine hx hinert k content
  have hissues : (checkWith custom (Text.insertLine k x content)).issues =
      issuesOf ((significant content).map (Numbered.moved k)) := congrArg issuesOf hlines
  constructor
  case isValid =>
    rw [Bool.eq_iff_iff, isValid_iff_acceptable, isValid_iff_acceptable, significantLines_insertLine hx hinert]
  case missing =>
    rw [hissues]
    exact (filter_issuesOf_moved k _).1
  case missing_first =>
    intro i hi hmissing
    rw [eq_missingBase_of_isMissing hi hmissing]
    rfl
  case others =>
    rw [hissues]
    exact (filter_issuesOf_moved k _).2
  case ordered => exact pairwise_issuesOf (ascending_significant _)
  case suggestions =>
    refine ⟨numberedRemarks custom (significant content), suggestions_checkWith custom content, ?_⟩
    rw [← flatMap_lineSuggestions]
    exact congrArg (·.flatMap (lineSuggestions custom) ++ _) hlines
  case advice => exact documentAdvice_sublist (linesAmong_insertLine hx k content)
  case advice_of_blank =>
    exact fun hblank =>
      documentAdvice_eq (insertLine_linesAmong hx hblank k content) (linesAmong_insertLine hx k content)

/-- A blank line or a comment after any number of lines, be it in the middle of a continuation, changes nothing for the
importer and only moves for the linter what is below it. -/
theorem inert_line {x : Text} (hx : '\n' ∉ x) (hinert : IsInert x) (content : Text) (k : Nat) :
    (∀ ids, Script.parse (Text.insertLine k x content) ids = Script.parse content ids) ∧
    ∀ rules result, checkDocument content rules = .ok result → ∃ result',
      checkDocument (Text.insertLine k x content) rules = .ok result' ∧ Moves k x content result result' := by
  constructor
  · intro ids
    rw [Script.parse, Script.parse, Script.logicalLines, significantLines_insertLine hx hinert, ← Script.logicalLines]
  · intro rules result h
    obtain ⟨custom, rfl, hcustom⟩ := checkDocument_of_eq_ok h
    exact ⟨_, hcustom _ (isOverlong_insertLine hx hinert custom k content),
      moves_checkWith custom content k hx hinert⟩

/-- A comment within a continuation: the issue of the line below it moves, that of the missing `FROM` does not, and the
comment has the word that the advice asks for. -/
theorem inert_line_in_continuation :
    let content : Text := "ADD \\\nBOGUS x".toList
    let x : Text := "\t# USER".toList
    '\n' ∉ x ∧ IsInert x ∧ ∃ result result', checkDocument content .null = .ok result ∧
      checkDocument (Text.insertLine 1 x content) .null = .ok result' ∧ Moves 1 x content result result' ∧
      result.issues.map (·.line) = [1, 2] ∧ result'.issues.map (·.line) = [1, 3] ∧
      result'.suggestions.length + 1 = result.suggestions.length := by
  intro content x
  have hx : '\n' ∉ x := by decide
  have hinert : IsInert x := Or.inr (by decide)
  obtain ⟨result', hcheck, hmoved⟩ := (inert_line hx hinert content 1).2 .null _ rfl
  obtain rfl := Except.ok.inj hcheck
  exact ⟨hx, hinert, _, _, rfl, rfl, hmoved, by decide +kernel, by decide +kernel, by decide +kernel⟩

end Lint

end Dockgraph
