import Dockgraph.Lint.Batch
import Dockgraph.Proofs.Script.RoundTrip
import Dockgraph.Proofs.Text.Parts

/-! What the check asks of a text as a whole. It looks for words without blanks, so that the answer is a matter of the
trimmed lines of the text, comments included: where one text has every line of another that is not blank, it has every
word of it. -/

namespace Dockgraph

namespace Text

variable {a b part : Text}

/-- Every trimmed line of the one text that is not blank is one of the other. -/
def LinesAmong (a b : Text) : Prop :=
  ∀ l ∈ (lines a).map trim, l ≠ [] → l ∈ (lines b).map trim

/-- A word to look for: it has characters and none of them is blank. -/
structure IsWord (part : Text) : Prop where
  ne_nil : part ≠ []
  isBlank : ∀ c ∈ part, Text.isBlank c = false

theorem IsWord.of_all (hne : part ≠ []) (h : part.all (fun c => !Text.isBlank c) = true) : IsWord part :=
  ⟨hne, fun c hc => by simpa using List.all_eq_true.1 h c hc⟩

theorem ne_nil_of_hasPart {l : Text} (hne : part ≠ []) (h : hasPart part l = true) : l ≠ [] := by
  rintro rfl
  exact hne (List.isEmpty_iff.1 h)

theorem LinesAmong.hasPart_mono (h : LinesAmong a b) (hword : IsWord part) (ha : hasPart part a = true) :
    hasPart part b = true := by
  rw [hasPart_iff_exists_line hword.ne_nil hword.isBlank] at ha ⊢
  obtain ⟨l, hl, hpart⟩ := ha
  exact ⟨l, h l hl (ne_nil_of_hasPart hword.ne_nil hpart), hpart⟩

theorem LinesAmong.hasPart_lower_mono (h : LinesAmong a b) (hword : IsWord part) (hsigma : 'σ' ∉ part ∧ 'ς' ∉ part)
    (ha : hasPart part (lower a) = true) : hasPart part (lower b) = true := by
  rw [hasPart_lower_iff_exists_line hword.ne_nil hword.isBlank hsigma] at ha ⊢
  obtain ⟨l, hl, hpart⟩ := ha
  refine ⟨l, h l hl ?_, hpart⟩
  rintro rfl
  exact ne_nil_of_hasPart hword.ne_nil hpart rfl

end Text

namespace Lint

variable {a b : Text}

theorem isWord_keyword (i : Instruction) : Text.IsWord i.keyword :=
  ⟨i.keyword_ne_nil, Script.isBlank_of_mem_keyword i⟩

/-- Advice on a text is advice on a text with fewer lines, too. -/
theorem documentAdvice_sublist (h : Text.LinesAmong a b) : (documentAdvice b).Sublist (documentAdvice a) := by
  have hwords : Text.IsWord "HEALTHCHECK".toList ∧ Text.IsWord "USER".toList ∧ Text.IsWord "alpine".toList :=
    ⟨.of_all (by decide) (by decide), .of_all (by decide) (by decide), .of_all (by decide) (by decide)⟩
  have hhealthcheck : has "HEALTHCHECK" a = true → has "HEALTHCHECK" b = true := h.hasPart_mono hwords.1
  have huser : (has "USER" a || has "alpine" (Text.lower a)) = true →
      (has "USER" b || has "alpine" (Text.lower b)) = true := by
    rw [Bool.or_eq_true, Bool.or_eq_true]
    exact Or.imp (h.hasPart_mono hwords.2.1) (h.hasPart_lower_mono hwords.2.2 (by decide))
  have hone : ∀ {p q : Bool} {advice : List Text}, (p = true → q = true) →
      (if q then [] else advice).Sublist (if p then [] else advice) := by
    intro p q advice hpq
    cases q with
    | true => exact List.nil_sublist _
    | false =>
      cases p with
      | true => cases hpq rfl
      | false => exact List.Sublist.refl _
  exact (hone hhealthcheck).append (hone huser)

theorem documentAdvice_eq (hab : Text.LinesAmong a b) (hba : Text.LinesAmong b a) :
    documentAdvice a = documentAdvice b :=
  (documentAdvice_sublist hba).antisymm (documentAdvice_sublist hab)

theorem missingEssentials_eq (hab : Text.LinesAmong a b) (hba : Text.LinesAmong b a) :
    missingEssentials a = missingEssentials b := by
  refine List.filter_congr fun i _ => congrArg (!·) ?_
  rw [Bool.eq_iff_iff]
  exact ⟨hab.hasPart_mono (isWord_keyword i), hba.hasPart_mono (isWord_keyword i)⟩

end Lint

end Dockgraph
