import Dockgraph.Lint.Batch
import Dockgraph.Proofs.Except
import Dockgraph.Proofs.Lint.Recognition
import Mathlib.Data.List.TakeWhile
import Mathlib.Order.Bounds.Basic

/-! The issues of a text are those that its lines call for. The check goes over the lines once for statements
and once more, up to the first `FROM`, for the place of that line, and the two passes read a line in different
ways: as a keyword with a blank after it, and by its first word. Both come down to which trimmed line has which
number. -/

namespace Dockgraph.Lint

/-- The trimmed line of the text with the given number, counted from one. -/
def LineAt (content : Text) (number : Nat) (line : Text) : Prop :=
  1 ≤ number ∧ ((Text.lines content).map Text.trim)[number - 1]? = some line

/-- The numbers of the `FROM` lines. -/
def baseNumbers (content : Text) : Set Nat :=
  {n | ∃ line, LineAt content n line ∧ Names .base line}

/-- The numbers of the lines that may not come before `FROM`: those whose first word is not `ARG`. -/
def lateNumbers (content : Text) : Set Nat :=
  {n | ∃ line, LineAt content n line ∧ Script.isSignificant line = true ∧
    Text.upper (Text.firstWord line) ≠ Instruction.arg.keyword}

/-- The issues that the lines of a text call for. -/
inductive Called (content : Text) : Issue → Prop where
  | invalid {n : Nat} {line : Text} (at_line : LineAt content n line)
      (significant_line : Script.isSignificant line = true) (unrecognised : ∀ i, ¬ Names i line) :
      Called content ⟨n, "Invalid Dockerfile instruction: ".toList ++ line, "error".toList⟩
  | missing (none_base : ∀ n line, LineAt content n line → ¬ Names .base line) :
      Called content ⟨1, "Dockerfile must contain a FROM instruction.".toList, "error".toList⟩
  | misplaced {n m : Nat} (first_late : IsLeast (lateNumbers content) n)
      (first_base : IsLeast (baseNumbers content) m) (before : n < m) :
      Called content
        ⟨n, "FROM must be the first instruction in the Dockerfile (ARG excepted)".toList, "error".toList⟩

/-- Whether the message is that of a line that is no statement. -/
def IsInvalidMessage (message : Text) : Prop :=
  "Invalid Dockerfile instruction: ".toList <+: message

/-- The order of issues: by line, and the one of a line that is no statement first. It is strict, so that no
issue comes twice. -/
def Precedes (a b : Issue) : Prop :=
  a.line < b.line ∨ a.line = b.line ∧ IsInvalidMessage a.message ∧ ¬ IsInvalidMessage b.message

/-! Numbered lines. -/

/-- Lines in the order of their numbers, no two with the same one. -/
def Ascending (lines : List Numbered) : Prop :=
  lines.Pairwise fun a b => a.number < b.number

theorem numberFrom_eq_map_zipIdx (n : Nat) (ls : List Text) :
    numberFrom n ls = (ls.zipIdx n).map fun p => ⟨p.2, p.1⟩ := by
  induction ls generalizing n with
  | nil => rfl
  | cons line ls ih => rw [numberFrom, ih, List.zipIdx_cons, List.map_cons]

theorem mem_numberFrom {n : Nat} {ls : List Text} {l : Numbered} :
    l ∈ numberFrom n ls ↔ n ≤ l.number ∧ ls[l.number - n]? = some l.line := by
  rw [numberFrom_eq_map_zipIdx, List.mem_map]
  constructor
  · rintro ⟨p, hp, rfl⟩
    exact List.mem_zipIdx_iff_le_and_getElem?_sub.1 hp
  · intro h
    exact ⟨(l.line, l.number), List.mem_zipIdx_iff_le_and_getElem?_sub.2 h, rfl⟩

theorem numberFrom_append (k : Nat) (ls ls' : List Text) :
    numberFrom k (ls ++ ls') = numberFrom k ls ++ numberFrom (k + ls.length) ls' := by
  induction ls generalizing k with
  | nil => rfl
  | cons l ls ih =>
    rw [List.cons_append, numberFrom, ih, numberFrom, List.cons_append, List.length_cons]
    congr 3
    omega

theorem ascending_numberFrom (n : Nat) (ls : List Text) : Ascending (numberFrom n ls) := by
  rw [Ascending, numberFrom_eq_map_zipIdx, List.pairwise_map, ← List.pairwise_map (f := Prod.snd),
    List.zipIdx_map_snd]
  exact List.pairwise_lt_range' 1

theorem ascending_significant (content : Text) : Ascending (significant content) :=
  (ascending_numberFrom _ _).filter _

theorem mem_significant {content : Text} {l : Numbered} :
    l ∈ significant content ↔ LineAt content l.number l.line ∧ Script.isSignificant l.line = true := by
  rw [significant, List.mem_filter, mem_numberFrom, LineAt]

/-- The numbers of the lines with a property. -/
def numbersOf (p : Numbered → Bool) (lines : List Numbered) : Set Nat :=
  {n | ∃ l ∈ lines, p l = true ∧ l.number = n}

/-- The first line with a property is the one with the least number. -/
theorem isLeast_numbersOf_iff {p : Numbered → Bool} {lines : List Numbered} (hlines : Ascending lines)
    {n : Nat} : IsLeast (numbersOf p lines) n ↔ ∃ l, lines.find? p = some l ∧ l.number = n := by
  have least : ∀ l, lines.find? p = some l → IsLeast (numbersOf p lines) l.number := by
    intro l hl
    obtain ⟨hp, before, after, rfl, hbefore⟩ := List.find?_eq_some_iff_append.1 hl
    refine ⟨⟨l, by simp, hp, rfl⟩, ?_⟩
    rintro _ ⟨x, hx, hpx, rfl⟩
    have hafter := (List.pairwise_cons.1 (List.pairwise_append.1 hlines).2.1).1
    rcases List.mem_append.1 hx with hx | hx
    · simpa [hpx] using hbefore x hx
    · rcases List.mem_cons.1 hx with rfl | hx
      · exact le_rfl
      · exact (hafter x hx).le
  constructor
  · intro h
    obtain ⟨x, hx, hpx, -⟩ := h.1
    obtain ⟨l, hl⟩ := Option.isSome_iff_exists.1 (List.find?_isSome.2 ⟨x, hx, hpx⟩)
    exact ⟨l, hl, (least l hl).unique h⟩
  · rintro ⟨l, hl, rfl⟩
    exact least l hl

theorem numbersOf_isBase (content : Text) :
    numbersOf isBase (significant content) = baseNumbers content := by
  ext n
  constructor
  · rintro ⟨l, hl, hb, rfl⟩
    exact ⟨l.line, (mem_significant.1 hl).1, isBase_iff.1 hb⟩
  · rintro ⟨line, hl, hb⟩
    exact ⟨⟨n, line⟩, mem_significant.2 ⟨hl, isSignificant_of_names hb⟩, isBase_iff.2 hb, rfl⟩

theorem numbersOf_not_isArgument (content : Text) :
    numbersOf (fun l => !isArgument l.line) (significant content) = lateNumbers content := by
  ext n
  constructor
  · rintro ⟨l, hl, ha, rfl⟩
    obtain ⟨hat, hsig⟩ := mem_significant.1 hl
    exact ⟨l.line, hat, hsig, by simpa [isArgument] using ha⟩
  · rintro ⟨line, hat, hsig, ha⟩
    exact ⟨⟨n, line⟩, mem_significant.2 ⟨hat, hsig⟩, by simpa [isArgument] using ha, rfl⟩

/-! The place of the first `FROM`. -/

/-- Of the lines before the first `FROM`, the first that is no argument is the first one of all that is none, if
it comes before `FROM`. -/
theorem find?_before_base {lines : List Numbered} (hlines : Ascending lines) {b : Numbered}
    (hb : lines.find? isBase = some b) {p : Numbered → Bool} {l : Numbered} :
    (lines.takeWhile fun l => !isBase l).find? p = some l ↔
      lines.find? p = some l ∧ l.number < b.number := by
  obtain ⟨hbase, before, after, rfl, hbefore⟩ := List.find?_eq_some_iff_append.1 hb
  have htake : (before ++ b :: after).takeWhile (fun l => !isBase l) = before := by
    rw [List.takeWhile_append_of_pos hbefore, List.takeWhile_cons_of_neg (by simp [hbase]),
      List.append_nil]
  obtain ⟨-, hafter, hsplit⟩ := List.pairwise_append.1 hlines
  rw [htake, List.find?_append]
  constructor
  · intro h
    rw [h]
    exact ⟨rfl, hsplit l (List.mem_of_find?_eq_some h) b List.mem_cons_self⟩
  · rintro ⟨h, hlt⟩
    rcases Option.or_eq_some_iff.1 h with h | ⟨-, h⟩
    · exact h
    · exfalso
      rcases List.mem_cons.1 (List.mem_of_find?_eq_some h) with rfl | hl
      · exact lt_irrefl _ hlt
      · exact lt_asymm hlt ((List.pairwise_cons.1 hafter).1 l hl)

theorem placementIssue?_eq_some_iff {lines : List Numbered} (hlines : Ascending lines) {x : Issue} :
    placementIssue? lines = some x ↔
      (∀ l ∈ lines, isBase l = false) ∧ x = missingBase ∨
      ∃ n m, IsLeast (numbersOf (fun l => !isArgument l.line) lines) n ∧
        IsLeast (numbersOf isBase lines) m ∧ n < m ∧ x = baseNotFirst n := by
  simp only [isLeast_numbersOf_iff hlines]
  cases hb : lines.find? isBase with
  | none =>
    have hnone : ∀ l ∈ lines, isBase l = false := by simpa using List.find?_eq_none.1 hb
    have hany : lines.any isBase = false := by simpa using hnone
    rw [placementIssue?, hany]
    constructor
    · intro h
      exact Or.inl ⟨hnone, (Option.some.inj h).symm⟩
    · rintro (⟨-, rfl⟩ | ⟨n, m, -, ⟨l, h, -⟩, -⟩)
      · rfl
      · cases h
  | some b =>
    have hany : lines.any isBase = true :=
      List.any_eq_true.2 ⟨b, List.mem_of_find?_eq_some hb, List.find?_some hb⟩
    rw [placementIssue?, if_pos hany, Option.map_eq_some_iff]
    simp only [find?_before_base hlines hb]
    constructor
    · rintro ⟨l, ⟨hl, hlt⟩, rfl⟩
      exact Or.inr ⟨l.number, b.number, ⟨l, hl, rfl⟩, ⟨b, rfl, rfl⟩, hlt, rfl⟩
    · rintro (⟨hnone, -⟩ | ⟨n, m, ⟨l, hl, rfl⟩, ⟨b', hb', rfl⟩, hlt, rfl⟩)
      · have := hnone b (List.mem_of_find?_eq_some hb)
        rw [List.find?_some hb] at this
        cases this
      · cases hb'
        exact ⟨l, ⟨hl, hlt⟩, rfl⟩

/-! All issues. -/

theorem mem_invalidIssues {lines : List Numbered} {x : Issue} :
    x ∈ invalidIssues lines ↔ ∃ l ∈ lines, (∀ i, ¬ Names i l.line) ∧ x = invalidInstruction l := by
  simp only [invalidIssues, List.mem_map, List.mem_filter, isNone_recognise?, and_assoc]
  simp only [eq_comm]

theorem mem_issuesOf {lines : List Numbered} {x : Issue} :
    x ∈ issuesOf lines ↔ x ∈ invalidIssues lines ∨ placementIssue? lines = some x := by
  unfold issuesOf
  cases placementIssue? lines with
  | none => simp
  | some y =>
    have hsplit : x ∈ invalidIssues lines ↔
        x ∈ (invalidIssues lines).takeWhile (fun i => i.line ≤ y.line) ∨
        x ∈ (invalidIssues lines).dropWhile (fun i => i.line ≤ y.line) := by
      rw [← List.mem_append, List.takeWhile_append_dropWhile]
    simp only [insertIssue, List.mem_append, List.mem_cons, hsplit, Option.some.injEq, eq_comm]
    tauto

/-- What is left of ascending issues once those up to a line are dropped comes after that line. -/
theorem lt_line_of_mem_dropWhile {n : Nat} {issues : List Issue}
    (hissues : issues.Pairwise fun a b => a.line < b.line) {i : Issue}
    (hi : i ∈ issues.dropWhile fun i => i.line ≤ n) : n < i.line := by
  induction issues with
  | nil => cases hi
  | cons first rest ih =>
    rw [List.pairwise_cons] at hissues
    by_cases hle : first.line ≤ n
    · rw [List.dropWhile_cons_of_pos (by simpa using hle)] at hi
      exact ih hissues.2 hi
    · rw [List.dropWhile_cons_of_neg (by simpa using hle)] at hi
      have hfirst : n < first.line := Nat.lt_of_not_le hle
      rcases List.mem_cons.1 hi with rfl | hi
      · exact hfirst
      · exact hfirst.trans (hissues.1 i hi)

/-- An issue goes after those of its line, and before those of later lines. -/
theorem pairwise_insertIssue {x : Issue} {issues : List Issue}
    (hissues : issues.Pairwise fun a b => a.line < b.line)
    (hinvalid : ∀ i ∈ issues, IsInvalidMessage i.message) (hx : ¬ IsInvalidMessage x.message) :
    (insertIssue x issues).Pairwise Precedes := by
  have hearly : ∀ i ∈ issues.takeWhile (fun i => i.line ≤ x.line), Precedes i x := by
    intro i hi
    have hle : i.line ≤ x.line := by simpa using List.mem_takeWhile_imp hi
    rcases hle.lt_or_eq with hlt | heq
    · exact Or.inl hlt
    · exact Or.inr ⟨heq, hinvalid i ((List.takeWhile_sublist _).subset hi), hx⟩
  have hlate : ∀ i ∈ issues.dropWhile (fun i => i.line ≤ x.line), Precedes x i :=
    fun i hi => Or.inl (lt_line_of_mem_dropWhile hissues hi)
  have hall : issues.Pairwise Precedes := hissues.imp Or.inl
  rw [← List.takeWhile_append_dropWhile (p := fun i => decide (i.line ≤ x.line)) (l := issues),
    List.pairwise_append] at hall
  refine List.pairwise_append.2 ⟨hall.1, List.pairwise_cons.2 ⟨hlate, hall.2.1⟩, ?_⟩
  intro i hi y hy
  rcases List.mem_cons.1 hy with rfl | hy
  · exact hearly i hi
  · exact hall.2.2 i hi y hy

theorem not_isInvalidMessage_of_placement {lines : List Numbered} (hlines : Ascending lines) {x : Issue}
    (h : placementIssue? lines = some x) : ¬ IsInvalidMessage x.message := by
  unfold IsInvalidMessage
  rcases (placementIssue?_eq_some_iff hlines).1 h with ⟨-, rfl⟩ | ⟨n, m, -, -, -, rfl⟩
  · decide
  · change ¬ _ <+: "FROM must be the first instruction in the Dockerfile (ARG excepted)".toList
    decide

theorem pairwise_issuesOf {lines : List Numbered} (hlines : Ascending lines) :
    (issuesOf lines).Pairwise Precedes := by
  have hsorted : (invalidIssues lines).Pairwise fun a b => a.line < b.line :=
    List.pairwise_map.2 (hlines.filter _)
  unfold issuesOf
  cases h : placementIssue? lines with
  | none => exact hsorted.imp Or.inl
  | some x =>
    refine pairwise_insertIssue hsorted ?_ (not_isInvalidMessage_of_placement hlines h)
    intro i hi
    obtain ⟨l, -, -, rfl⟩ := mem_invalidIssues.1 hi
    exact List.prefix_append _ _

theorem mem_issuesOf_significant {content : Text} {x : Issue} :
    x ∈ issuesOf (significant content) ↔ Called content x := by
  rw [mem_issuesOf, mem_invalidIssues, placementIssue?_eq_some_iff (ascending_significant content),
    numbersOf_isBase, numbersOf_not_isArgument]
  constructor
  · rintro (⟨l, hl, hn, rfl⟩ | ⟨hnone, rfl⟩ | ⟨n, m, hn, hm, hlt, rfl⟩)
    · obtain ⟨hat, hsig⟩ := mem_significant.1 hl
      exact .invalid hat hsig hn
    · refine .missing fun n line hat hb => ?_
      have := hnone ⟨n, line⟩ (mem_significant.2 ⟨hat, isSignificant_of_names hb⟩)
      rw [isBase_iff.2 hb] at this
      cases this
    · exact .misplaced hn hm hlt
  · rintro (⟨hat, hsig, hn⟩ | hnone | ⟨hn, hm, hlt⟩)
    · exact Or.inl ⟨⟨_, _⟩, mem_significant.2 ⟨hat, hsig⟩, hn, rfl⟩
    · refine Or.inr (Or.inl ⟨fun l hl => ?_, rfl⟩)
      rw [← Bool.not_eq_true, isBase_iff]
      exact hnone l.number l.line (mem_significant.1 hl).1
    · exact Or.inr (Or.inr ⟨_, _, hn, hm, hlt, rfl⟩)

theorem severity_of_called {content : Text} {x : Issue} (h : Called content x) :
    x.severity = errorSeverity := by
  cases h <;> rfl

section
variable {σ ε : Type} [Glyph σ] [DecidableEq σ] {E : Pattern.Engine σ ε} {content : Text}

theorem checkBy_eq_ok_iff {entries : List (Json σ)} {result : Result σ} : checkBy E content entries = .ok result ↔
    ∃ custom, CustomRule.ofList E entries = .ok custom ∧ isOverlong custom content = false ∧
      checkWith custom content = result := by
  rw [checkBy]
  cases CustomRule.ofList E entries with
  | error fault => simp
  | ok custom => cases hlong : isOverlong custom content <;> simp [hlong]

/-- The entries are read first, then the rules among them, and then the text is checked. -/
theorem checkDocumentBy_eq (rules : Json σ) : checkDocumentBy E content rules =
    (ruleEntries rules).mapError Refusal.rules >>= fun entries => (checkBy E content entries).mapError Refusal.pattern := by
  unfold checkDocumentBy
  cases ruleEntries rules with
  | error cause => rfl
  | ok entries =>
    dsimp only
    change _ = (checkBy E content entries).mapError Refusal.pattern
    cases checkBy E content entries <;> rfl

theorem checkDocumentBy_eq_ok_iff {rules : Json σ} {result : Result σ} : checkDocumentBy E content rules = .ok result ↔
    ∃ entries custom, ruleEntries rules = .ok entries ∧ CustomRule.ofList E entries = .ok custom ∧
      isOverlong custom content = false ∧ checkWith custom content = result := by
  simp only [checkDocumentBy_eq, bind_eq_ok_iff, mapError_eq_ok_iff, checkBy_eq_ok_iff, exists_and_left]

end

/-- A check that comes to a result is the check with the rules that it has read. -/
theorem exists_checkWith_of_checkDocument {content : Text} {rules : Json} {result : Result}
    (h : checkDocument content rules = .ok result) : ∃ custom, result = checkWith custom content := by
  obtain ⟨_, custom, -, -, -, hresult⟩ := checkDocumentBy_eq_ok_iff.1 h
  exact ⟨custom, hresult.symm⟩

/-- The issues of a checked text are exactly those that its lines call for, in their order, and the text is valid
if there are none. -/
theorem issues_exact {content : Text} {rules : Json} {result : Result}
    (h : checkDocument content rules = .ok result) :
    (∀ x, x ∈ result.issues ↔ Called content x) ∧ result.issues.Pairwise Precedes ∧
      (result.isValid = true ↔ result.issues = []) := by
  obtain ⟨custom, rfl⟩ := exists_checkWith_of_checkDocument h
  refine ⟨fun x => mem_issuesOf_significant, pairwise_issuesOf (ascending_significant content), ?_⟩
  change (!((issuesOf (significant content)).any fun i => i.severity == errorSeverity)) = true ↔
    issuesOf (significant content) = []
  rw [Bool.not_eq_true', List.any_eq_false, List.eq_nil_iff_forall_not_mem]
  refine forall_congr' fun x => ⟨fun hx hm => hx hm ?_, fun hx hm => absurd hm hx⟩
  simpa using severity_of_called (mem_issuesOf_significant.1 hm)

/-- An `arg` with nothing after it is no statement and may yet stand before `FROM`; the `RUN` may not. -/
theorem issues_exact_mixed :
    let content := "ARG a\n arg\nRUN b\nFROM c\nBOGUS".toList
    ∃ result, checkDocument content .null = .ok result ∧
      result.issues = [⟨2, "Invalid Dockerfile instruction: arg".toList, "error".toList⟩,
        ⟨3, "FROM must be the first instruction in the Dockerfile (ARG excepted)".toList, "error".toList⟩,
        ⟨5, "Invalid Dockerfile instruction: BOGUS".toList, "error".toList⟩] ∧
      (∀ x, x ∈ result.issues ↔ Called content x) ∧ result.issues.Pairwise Precedes ∧
        (result.isValid = true ↔ result.issues = []) :=
  ⟨_, rfl, by decide +kernel, @issues_exact _ .null _ rfl⟩

end Dockgraph.Lint
