import Dockgraph.Proofs.Lint.Issues
import Dockgraph.Proofs.Lint.WholeText

/-! White space at the edges of lines. Where two texts differ in nothing else, the importer makes the same graph of both
and the linter says the same of both; so the style of the line ends does not matter. -/

namespace Dockgraph

namespace Text

/-- As many lines here as there, and each the same but for blanks at its edges. -/
def SameLines (a b : Text) : Prop :=
  List.Forall₂ (fun l m => trim l = trim m) (lines a) (lines b)

instance (a b : Text) : Decidable (SameLines a b) :=
  inferInstanceAs (Decidable (List.Forall₂ (fun l m => trim l = trim m) (lines a) (lines b)))

/-- The text with a carriage return before each newline. -/
def withReturns (s : Text) : Text :=
  s.flatMap fun c => if c = '\n' then ['\r', '\n'] else [c]

variable {a b : Text}

theorem sameLines_iff : SameLines a b ↔ (lines a).map trim = (lines b).map trim := by
  have heq : List.Forall₂ (fun l m : Text => l = m) = Eq := List.forall₂_eq_eq_eq
  rw [SameLines, ← heq, List.forall₂_map_left_iff, List.forall₂_map_right_iff]

theorem SameLines.linesAmong (h : SameLines a b) : LinesAmong a b ∧ LinesAmong b a := by
  rw [sameLines_iff] at h
  constructor
  · exact fun l hl _ => h ▸ hl
  · exact fun l hl _ => h ▸ hl

theorem trim_snoc_blank {c : Char} (hc : isBlank c = true) (s : Text) : trim (s ++ [c]) = trim s := by
  rw [trim_eq_rdropWhile, trim_eq_rdropWhile, List.dropWhile_append]
  split_ifs with hs
  · rw [List.isEmpty_iff.1 hs, List.dropWhile_cons_of_pos hc, List.dropWhile_nil]
  · exact List.rdropWhile_concat_pos _ _ _ hc

/-- Every line but the last one ends in a carriage return now. -/
theorem lines_withReturns (s : Text) :
    List.Forall₂ (fun l m => m = l ∨ m = l ++ ['\r']) (lines s) (lines (withReturns s)) := by
  induction s with
  | nil => exact .cons (Or.inl rfl) .nil
  | cons c s ih =>
    have hcons : withReturns (c :: s) = (if c = '\n' then ['\r', '\n'] else [c]) ++ withReturns s :=
      List.flatMap_cons ..
    rw [hcons]
    by_cases hc : c = '\n'
    · have hret : lines ('\r' :: '\n' :: withReturns s) = ['\r'] :: lines (withReturns s) := by
        simp [lines]
      rw [lines, if_pos hc, if_pos hc, List.cons_append, List.singleton_append, hret]
      exact .cons (Or.inr rfl) ih
    · rw [lines, if_neg hc, if_neg hc, List.singleton_append, lines, if_neg hc]
      -- both texts have a first line, and the character goes before both
      generalize lines s = ls, lines (withReturns s) = ms at ih
      cases ih with
      | nil => exact .cons (Or.inl rfl) .nil
      | cons hfirst hrest => exact .cons (hfirst.imp (congrArg (c :: ·)) (congrArg (c :: ·))) hrest

theorem sameLines_withReturns (s : Text) : SameLines s (withReturns s) := by
  refine (lines_withReturns s).imp fun l m h => ?_
  rcases h with rfl | rfl
  · rfl
  · exact (trim_snoc_blank (by decide) l).symm

end Text

namespace Lint

variable {a b : Text}

/-- The importer reads two texts alike, and nothing is said of the one that is not said of the other: in checks with
any rules, in summaries, and in reports. -/
structure Indistinct (a b : Text) : Prop where
  parse : ∀ ids, Script.parse a ids = Script.parse b ids
  check : ∀ rules, checkDocument a rules = checkDocument b rules
  summary : ∀ result : Result, buildability a result = buildability b result
  report : ∀ file (rules : Json), reportOn file a rules = reportOn file b rules

theorem significantLines_congr (h : Text.SameLines a b) :
    Script.significantLines a = Script.significantLines b := by
  rw [Script.significantLines, Text.sameLines_iff.1 h, ← Script.significantLines]

theorem significant_congr (h : Text.SameLines a b) : significant a = significant b := by
  rw [significant, Text.sameLines_iff.1 h, ← significant]

theorem checkWith_congr (h : Text.SameLines a b) (custom : List CustomRule) :
    checkWith custom a = checkWith custom b := by
  simp only [checkWith, significant_congr h, documentAdvice_eq h.linesAmong.1 h.linesAmong.2]

theorem isOverlong_congr (h : Text.SameLines a b) (custom : List CustomRule) :
    isOverlong custom a = isOverlong custom b := by
  simp only [isOverlong, significant_congr h]

theorem checkDocument_congr (h : Text.SameLines a b) (rules : Json) :
    checkDocument a rules = checkDocument b rules := by
  simp only [checkDocument, checkDocumentBy, checkBy, checkWith_congr h, isOverlong_congr h]

theorem buildability_congr (h : Text.SameLines a b) (result : Result) :
    buildability a result = buildability b result := by
  simp only [buildability, missingEssentials_eq h.linesAmong.1 h.linesAmong.2]

theorem parse_congr (h : Text.SameLines a b) (ids : IdSource) : Script.parse a ids = Script.parse b ids := by
  simp only [Script.parse, Script.logicalLines, significantLines_congr h]

theorem reportOn_congr (h : Text.SameLines a b) (file : Text) (rules : Json) :
    reportOn file a rules = reportOn file b rules := by
  have hresult : Report.ofResult file a = (Report.ofResult file b : Result → Report) := by
    funext result
    rw [Report.ofResult, Report.ofResult, buildability_congr h]
  have hcheck : checkDocument a rules = checkDocument b rules := checkDocument_congr h rules
  rw [reportOn, ← checkDocument, hcheck, hresult]
  rfl

/-- Blanks at the edges of lines do not matter, and so the style of the line ends does not either. -/
theorem line_edges_do_not_matter : (∀ a b, Text.SameLines a b → Indistinct a b) ∧
    ∀ content, Indistinct content (Text.withReturns content) := by
  have hgen : ∀ a b, Text.SameLines a b → Indistinct a b := fun a b h =>
    ⟨parse_congr h, checkDocument_congr h, buildability_congr h, reportOn_congr h⟩
  exact ⟨hgen, fun content => hgen _ _ (Text.sameLines_withReturns content)⟩

/-- Blanks of several kinds before a keyword, after a backslash, around a comment and on a line of their own. -/
theorem line_edges_do_not_matter_mixed :
    let a : Text := "FROM a:1\nRUN b \\\n# USER c\nd\n".toList
    let b : Text := "\u2003FROM a:1\r\n\x1cRUN b \\ \r\n\t# USER c\x85\nd\u3000\n\r".toList
    Text.SameLines a b ∧ a ≠ b ∧ Indistinct a b := by
  intro a b
  have h : Text.SameLines a b := by decide +kernel
  exact ⟨h, by decide, line_edges_do_not_matter.1 a b h⟩

end Lint

end Dockgraph
