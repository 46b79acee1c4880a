import Dockgraph.Proofs.Lint.CustomRules
import Dockgraph.Proofs.Pattern.Refusal

/-! When a check with custom rules comes to no result. A pattern that is malformed is taken as it stands, but one that
the engine fails at otherwise is refused, and with it the whole check, whatever the text. The only other failure is at
an integer that a rule has to say of a line and that is too long to be written. -/

namespace Dockgraph.Lint

open Pattern (Engine Fault HasCause)

section
variable {σ ε : Type} [Glyph σ]

/-- The engine refuses a user's pattern: it fails at the pattern, though not for its form, or at the one for its
text. -/
inductive Refused (E : Engine σ ε) (pattern : List σ) (fault : ε) : Prop where
  | severe (refused : E.read pattern = .error fault) (formed : E.isMalformed fault = false)
  | verbatim {cause : ε} (malformed : E.read pattern = .error cause) (formless : E.isMalformed cause = true)
      (refused : E.read (Pattern.escaped pattern) = .error fault)

variable [DecidableEq σ]

/-- The value is no rule whose pattern is refused. -/
def Usable (E : Engine σ ε) (v : Json σ) : Prop :=
  ∀ e, IsRule v e → ∀ fault, ¬ Refused E e.pattern fault

/-- The first rule of the list with a refused pattern has this fault. What comes after it does not matter. -/
inductive FirstRefused (E : Engine σ ε) (fault : ε) : List (Json σ) → Prop where
  | here {v : Json σ} {e : RuleEntry σ} {rest : List (Json σ)} (rule : IsRule v e)
      (refused : Refused E e.pattern fault) : FirstRefused E fault (v :: rest)
  | later {v : Json σ} {rest : List (Json σ)} (usable : Usable E v) (others : FirstRefused E fault rest) :
      FirstRefused E fault (v :: rest)

/-- Some rule has to say of some line what holds an integer that is too long to be written. -/
def Overlong (E : Engine σ ε) (content : Text) (rules : List (Json σ)) : Prop :=
  ∃ v ∈ rules, ∃ e, IsRule v e ∧ e.remark.excess? ≠ none ∧
    ∃ l ∈ significant content, ∃ s, recognise? l.line = some s ∧ e.Concerns E l.line s.keyword

end

/-! Patterns. -/

section
variable {σ ε : Type} [Glyph σ] {E : Engine σ ε}

theorem search_eq_error_iff {s : List σ} {fault : ε} : E.search s = .error fault ↔ Refused E s fault := by
  cases hread : E.read s with
  | ok found =>
    rw [Engine.search, hread]
    constructor
    · rintro ⟨⟩
    · rintro (⟨hrefused, -⟩ | ⟨hmalformed, -⟩)
      · cases hread.symm.trans hrefused
      · cases hread.symm.trans hmalformed
  | error cause =>
    rw [Engine.search, hread]
    dsimp only
    split
    next hformless =>
      constructor
      · exact .verbatim hread hformless
      · rintro (⟨hrefused, hformed⟩ | ⟨-, -, hrefused⟩)
        · obtain rfl := Except.error.inj (hread.symm.trans hrefused)
          cases hformed.symm.trans hformless
        · exact hrefused
    next hformed =>
      constructor
      · rintro ⟨⟩
        exact .severe hread (Bool.eq_false_iff.2 hformed)
      · rintro (⟨hrefused, -⟩ | ⟨hmalformed, hformless, -⟩)
        · exact hread.symm.trans hrefused
        · obtain rfl := Except.error.inj (hread.symm.trans hmalformed)
          exact absurd hformless hformed

theorem ofEntry_eq_error_iff {e : RuleEntry σ} {fault : ε} :
    CustomRule.ofEntry E e = .error fault ↔ Refused E e.pattern fault :=
  map_eq_error_iff.trans search_eq_error_iff

/-- This library's engine refuses what it fails at otherwise than for the form, for which there is a cause in the
pattern. It never refuses the pattern for a text. -/
theorem refused_engine_iff {charNamed : Text → Option Char} {pattern : Text} {fault : Fault} :
    Refused (Pattern.engine charNamed) pattern fault ↔
      Pattern.ofText charNamed pattern = .error fault ∧ fault ≠ .malformed ∧ HasCause pattern fault := by
  constructor
  · rintro (⟨hrefused, hformed⟩ | ⟨-, -, hrefused⟩)
    · have hpattern : Pattern.ofText charNamed pattern = .error fault := map_eq_error_iff.1 hrefused
      exact ⟨hpattern, ne_of_beq_false hformed, Pattern.hasCause_of_ofText hpattern⟩
    · cases (Pattern.ofText_escaped charNamed pattern).symm.trans (map_eq_error_iff.1 hrefused)
  · rintro ⟨hpattern, hfault, -⟩
    exact .severe (map_eq_error_iff.2 hpattern) (beq_false_of_ne hfault)

end

/-! Rules. -/

section
variable {σ ε : Type} [Glyph σ] [DecidableEq σ] {E : Engine σ ε}

theorem usable_iff_of_isRule {v : Json σ} {e : RuleEntry σ} (hv : IsRule v e) :
    Usable E v ↔ ∃ rule, CustomRule.ofEntry E e = .ok rule := by
  cases h : CustomRule.ofEntry E e with
  | ok rule =>
    refine iff_of_true (fun e' he' fault hrefused => ?_) ⟨rule, rfl⟩
    rw [he'.unique hv, ← ofEntry_eq_error_iff, h] at hrefused
    cases hrefused
  | error fault =>
    refine iff_of_false (fun husable => husable e hv fault (ofEntry_eq_error_iff.1 h)) ?_
    rintro ⟨rule, hrule⟩
    cases hrule

/-- The rules of a list cannot be read where one has a refused pattern; the first such one says why. -/
theorem ofList_eq_error_iff {rules : List (Json σ)} {fault : ε} :
    CustomRule.ofList E rules = .error fault ↔ FirstRefused E fault rules := by
  induction rules with
  | nil => exact iff_of_false nofun nofun
  | cons v rest ih =>
    cases hv : RuleEntry.ofJson? v with
    | none =>
      rw [ofJson?_eq_none_iff] at hv
      rw [ofList_of_malformed hv, ih]
      constructor
      · exact .later fun e he => absurd he (hv e)
      · rintro (⟨rule, -⟩ | ⟨-, others⟩)
        · exact absurd rule (hv _)
        · exact others
    | some e =>
      rw [ofJson?_eq_some_iff] at hv
      rw [ofList_of_isRule hv, bind_eq_error_iff, ofEntry_eq_error_iff]
      constructor
      · rintro (hrefused | ⟨rule, hrule, hrest⟩)
        · exact .here hv hrefused
        · exact .later ((usable_iff_of_isRule hv).2 ⟨rule, hrule⟩) (ih.1 (map_eq_error_iff.1 hrest))
      · rintro (⟨rule, refused⟩ | ⟨usable, others⟩)
        · exact Or.inl (rule.unique hv ▸ refused)
        · obtain ⟨rule, hrule⟩ := (usable_iff_of_isRule hv).1 usable
          exact Or.inr ⟨rule, hrule, map_eq_error_iff.2 (ih.2 others)⟩

/-- Some rule of a list is the first with a refused pattern unless all can be used. -/
theorem not_exists_firstRefused_iff {rules : List (Json σ)} :
    (¬ ∃ fault, FirstRefused E fault rules) ↔ ∀ v ∈ rules, Usable E v := by
  induction rules with
  | nil => exact iff_of_true (fun ⟨_, h⟩ => nomatch h) nofun
  | cons v rest ih =>
    rw [List.forall_mem_cons, ← ih]
    constructor
    · intro h
      have husable : Usable E v := fun e he fault hrefused => h ⟨fault, .here he hrefused⟩
      exact ⟨husable, fun ⟨fault, hrest⟩ => h ⟨fault, .later husable hrest⟩⟩
    · rintro ⟨husable, hrest⟩ ⟨fault, ⟨rule, refused⟩ | ⟨-, others⟩⟩
      · exact husable _ rule fault refused
      · exact hrest ⟨fault, others⟩

theorem usable_of_ofList {rules : List (Json σ)} {custom : List (CustomRule σ)}
    (h : CustomRule.ofList E rules = .ok custom) : ∀ v ∈ rules, Usable E v := by
  refine not_exists_firstRefused_iff.1 fun ⟨fault, hfault⟩ => ?_
  cases h.symm.trans (ofList_eq_error_iff.2 hfault)

/-- The rules that are read from a list are those of its well-formed entries. -/
theorem mem_ofList_iff {rules : List (Json σ)} {custom : List (CustomRule σ)}
    (h : CustomRule.ofList E rules = .ok custom) {rule : CustomRule σ} :
    rule ∈ custom ↔ ∃ v ∈ rules, ∃ e, IsRule v e ∧ CustomRule.ofEntry E e = .ok rule := by
  induction rules generalizing custom with
  | nil =>
    obtain rfl : [] = custom := Except.ok.inj h
    simp
  | cons v rest ih =>
    simp only [List.mem_cons, exists_eq_or_imp]
    cases hv : RuleEntry.ofJson? v with
    | none =>
      rw [ofJson?_eq_none_iff] at hv
      rw [ofList_of_malformed hv] at h
      rw [ih h, or_iff_right]
      rintro ⟨e, he, -⟩
      exact hv e he
    | some e =>
      rw [ofJson?_eq_some_iff] at hv
      rw [ofList_of_isRule hv, bind_eq_ok_iff] at h
      obtain ⟨first, hfirst, h⟩ := h
      obtain ⟨others, hothers, rfl⟩ := map_eq_ok_iff.1 h
      rw [List.mem_cons, ← ih hothers]
      refine or_congr_left ⟨?_, ?_⟩
      · rintro rfl
        exact ⟨e, hv, hfirst⟩
      · rintro ⟨e', he', hrule⟩
        rw [he'.unique hv] at hrule
        exact Except.ok.inj (hrule.symm.trans hfirst)

/-- Rules that are read have to say what is too long where their entries have. -/
theorem isOverlong_iff {content : Text} {rules : List (Json σ)} {custom : List (CustomRule σ)}
    (h : CustomRule.ofList E rules = .ok custom) : isOverlong custom content = true ↔ Overlong E content rules := by
  simp only [isOverlong, List.any_eq_true, Bool.and_eq_true, Option.any_eq_true, mem_ofList_iff h]
  constructor
  · rintro ⟨rule, ⟨v, hv, e, he, hrule⟩, hlong, l, hl, s, hs, happlies⟩
    refine ⟨v, hv, e, he, ?_, l, hl, s, hs, (applies_iff hrule l.line s).1 happlies⟩
    obtain ⟨found, -, rfl⟩ := ofEntry_eq_ok_iff.1 hrule
    exact Option.isSome_iff_ne_none.1 hlong
  · rintro ⟨v, hv, e, he, hlong, l, hl, s, hs, hconcerns⟩
    obtain ⟨rule, hrule⟩ := (usable_iff_of_isRule he).1 (usable_of_ofList h v hv)
    refine ⟨rule, ⟨v, hv, e, he, hrule⟩, ?_, l, hl, s, hs, (applies_iff hrule l.line s).2 hconcerns⟩
    obtain ⟨found, -, rfl⟩ := ofEntry_eq_ok_iff.1 hrule
    exact Option.isSome_iff_ne_none.2 hlong

/-! Checks. -/

theorem checkDocumentBy_list {content : Text} {rules : List (Json σ)} :
    checkDocumentBy E content (.list rules) = (checkBy E content rules).mapError Refusal.pattern := by
  rw [checkDocumentBy_eq, ruleEntries_list]
  rfl

theorem checkBy_eq_error_iff {content : Text} {rules : List (Json σ)} {fault : ε} :
    checkBy E content rules = .error fault ↔ FirstRefused E fault rules ∨
      fault = E.longInteger ∧ (∀ v ∈ rules, Usable E v) ∧ Overlong E content rules := by
  rw [checkBy]
  cases hcustom : CustomRule.ofList E rules with
  | error cause =>
    have hfirst : FirstRefused E cause rules := ofList_eq_error_iff.1 hcustom
    rw [Except.error.injEq]
    constructor
    · rintro rfl
      exact Or.inl hfirst
    · rintro (hfault | ⟨-, husable, -⟩)
      · exact Except.error.inj (hcustom.symm.trans (ofList_eq_error_iff.2 hfault))
      · exact absurd ⟨cause, hfirst⟩ (not_exists_firstRefused_iff.2 husable)
  | ok custom =>
    have hnone : ¬ FirstRefused E fault rules := fun hfault => by
      cases hcustom.symm.trans (ofList_eq_error_iff.2 hfault)
    dsimp only
    rw [or_iff_right hnone, and_iff_right (usable_of_ofList hcustom), ← isOverlong_iff hcustom]
    cases isOverlong custom content <;> simp [eq_comm]

end

/-- A check with a list of custom rules fails with the fault of the first rule whose pattern is refused. Where there is
none it fails if a rule has to say of a line what is too long to be written, and else it comes to a result, whatever the
list holds and whatever the text. What is refused is for the engine to say; this library's own refuses no pattern
without a cause in it. -/
theorem checkDocument_fails_iff_refused {σ ε : Type} [Glyph σ] [DecidableEq σ] (E : Engine σ ε) (content : Text)
    (rules : List (Json σ)) :
    (∀ cause, checkDocumentBy E content (.list rules) = .error cause ↔
      (∃ fault, cause = .pattern fault ∧ FirstRefused E fault rules) ∨
        cause = .pattern E.longInteger ∧ (∀ v ∈ rules, Usable E v) ∧ Overlong E content rules) ∧
    ((∃ result, checkDocumentBy E content (.list rules) = .ok result) ↔
      (∀ v ∈ rules, Usable E v) ∧ ¬ Overlong E content rules) ∧
    ∀ charNamed pattern fault, Refused (Pattern.engine charNamed) pattern fault ↔
      Pattern.ofText charNamed pattern = .error fault ∧ fault ≠ .malformed ∧ HasCause pattern fault := by
  refine ⟨fun cause => ?_, ?_, fun _ _ _ => refused_engine_iff⟩
  · simp only [checkDocumentBy_list, mapError_eq_error_iff, checkBy_eq_error_iff, or_and_right, exists_or, and_assoc,
      exists_eq_left]
    refine or_congr (exists_congr fun fault => ?_) ?_
    · rw [and_comm, eq_comm]
    · rw [← and_assoc, and_comm, @eq_comm _ cause]
  · rw [checkDocumentBy_list]
    simp only [mapError_eq_ok_iff, checkBy_eq_ok_iff]
    constructor
    · rintro ⟨_, custom, hcustom, hlong, -⟩
      rw [← isOverlong_iff hcustom, hlong]
      exact ⟨usable_of_ofList hcustom, Bool.false_ne_true⟩
    · rintro ⟨husable, hlong⟩
      cases hcustom : CustomRule.ofList E rules with
      | error fault => exact absurd ⟨fault, ofList_eq_error_iff.1 hcustom⟩ (not_exists_firstRefused_iff.2 husable)
      | ok custom =>
        rw [← isOverlong_iff hcustom, Bool.not_eq_true] at hlong
        exact ⟨_, custom, rfl, hlong, rfl⟩

example : checkDocumentBy (Pattern.engine digitNamed) "FROM a:1".toList (.list [
      .object [("pattern", .text "\\N\x7bDIGIT ONE\x7d\x7b4294967295\x7d")],
      .object [("pattern", .text "(?a)(?u)x")]]) = .error (.pattern .hugeRepetition) := by decide +kernel

/-- Not every list of custom rules lets a check come to a result. -/
theorem not_checkDocument_total :
    let rules : List Json := [.object [("pattern", .text "a\x7b4294967295\x7d".toList)]]
    checkDocument "FROM a:1".toList (.list rules) = .error (.pattern .hugeRepetition) ∧
      ¬ ∀ content rules, ∃ result, checkDocument content (.list rules) = .ok result := by
  intro rules
  have h : checkDocument "FROM a:1".toList (.list rules) = .error (.pattern .hugeRepetition) := by decide +kernel
  refine ⟨h, fun htotal => ?_⟩
  obtain ⟨result, hresult⟩ := htotal "FROM a:1".toList rules
  cases h.symm.trans hresult

end Dockgraph.Lint
