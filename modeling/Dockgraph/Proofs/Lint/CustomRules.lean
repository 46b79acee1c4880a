import Dockgraph.Proofs.Lint.Issues
import Dockgraph.Proofs.Pattern.Literal

/-! What custom rules add to a check: suggestions, and nothing else. The well-formed entries of a rule list are told by
their fields. Each has its say on the recognised lines that it is for and that have its pattern, after the built-in
advice on the line; entries of another form are as good as absent. All this holds of every search engine, and of rules
whose texts hold halves of pairs. -/

namespace Dockgraph.Lint

open Glyph (ofText)
open Pattern (Engine)

section
variable {σ ε : Type} [Glyph σ]

/-- The engine finds a user's pattern in a line: the pattern itself or, where it is malformed, the one for its text. -/
inductive Found (E : Engine σ ε) (pattern : List σ) (line : Text) : Prop where
  | matched {found : Text → Bool} (reads : E.read pattern = .ok found) (occurs : found line = true)
  | verbatim {fault : ε} {found : Text → Bool} (refused : E.read pattern = .error fault)
      (malformed : E.isMalformed fault = true) (reads : E.read (Pattern.escaped pattern) = .ok found)
      (occurs : found line = true)

/-- A rule is for a line with the given keyword, and its pattern is found there. -/
def RuleEntry.Concerns (e : RuleEntry σ) (E : Engine σ ε) (line keyword : Text) : Prop :=
  (e.instruction = [] ∨ Text.upper (Glyph.toText e.instruction) = keyword) ∧ Found E e.pattern line

variable [DecidableEq σ]

/-- A field that is absent or has a value that counts as false. -/
def Lacks (name : Text) (fields : List (List σ × Json σ)) : Prop :=
  ∀ v, Json.field? (ofText name) fields = some v → v.isTruthy = false

/-- The instruction that a rule is for; an empty name for all. -/
inductive IsRestriction (fields : List (List σ × Json σ)) : List σ → Prop where
  | all (lacks : Lacks "instruction".toList fields) : IsRestriction fields []
  | one {name : List σ} (field : Json.field? (ofText "instruction".toList) fields = some (.text name)) :
      IsRestriction fields name

/-- What a rule says: its message or, failing that, its id. -/
inductive IsRemark (fields : List (List σ × Json σ)) : Json σ → Prop where
  | message {v : Json σ} (field : Json.field? (ofText "message".toList) fields = some v) (truthy : v.isTruthy = true) :
      IsRemark fields v
  | id (lacks : Lacks "message".toList fields) :
      IsRemark fields ((Json.field? (ofText "id".toList) fields).getD .null)

/-- A well-formed rule, with its parts. -/
inductive IsRule : Json σ → RuleEntry σ → Prop where
  | intro {fields : List (List σ × Json σ)} {e : RuleEntry σ}
      (pattern : Json.field? (ofText "pattern".toList) fields = some (.text e.pattern)) (nonempty : e.pattern ≠ [])
      (restriction : IsRestriction fields e.instruction) (remark : IsRemark fields e.remark) :
      IsRule (.object fields) e

/-- The remarks of a rule list on a line, rule by rule. -/
inductive Remarks (E : Engine σ ε) (line keyword : Text) : List (Json σ) → List (List σ) → Prop where
  | nil : Remarks E line keyword [] []
  | malformed {v : Json σ} {rest : List (Json σ)} {texts : List (List σ)} (noRule : ∀ e, ¬ IsRule v e)
      (others : Remarks E line keyword rest texts) : Remarks E line keyword (v :: rest) texts
  | silent {v : Json σ} {e : RuleEntry σ} {rest : List (Json σ)} {texts : List (List σ)} (rule : IsRule v e)
      (unconcerned : ¬ e.Concerns E line keyword) (others : Remarks E line keyword rest texts) :
      Remarks E line keyword (v :: rest) texts
  | remarked {v : Json σ} {e : RuleEntry σ} {rest : List (Json σ)} {texts : List (List σ)} (rule : IsRule v e)
      (concerned : e.Concerns E line keyword) (others : Remarks E line keyword rest texts) :
      Remarks E line keyword (v :: rest) (e.remark.display :: texts)

end

/-! Entries. -/

section
variable {σ ε : Type} [Glyph σ] [DecidableEq σ] {fields : List (List σ × Json σ)} {name : Text}

theorem truthyField_eq_some_iff {v : Json σ} : (Json.field? (ofText name) fields).bind Json.truthy? = some v ↔
    Json.field? (ofText name) fields = some v ∧ v.isTruthy = true := by
  rw [Option.bind_eq_some_iff]
  constructor
  · rintro ⟨w, hw, h⟩
    rw [Json.truthy?, Option.ite_none_right_eq_some, Option.some.injEq] at h
    obtain ⟨ht, rfl⟩ := h
    exact ⟨hw, ht⟩
  · rintro ⟨hv, ht⟩
    exact ⟨v, hv, if_pos ht⟩

theorem truthyField_eq_none_iff :
    (Json.field? (ofText name) fields).bind Json.truthy? = none ↔ Lacks name fields := by
  rw [Option.eq_none_iff_forall_ne_some]
  refine forall_congr' fun v => ?_
  rw [Ne, truthyField_eq_some_iff, not_and, Bool.not_eq_true]

/-- A text field reads as the text that stands there, as an empty one where nothing does. -/
theorem textField?_eq_some_iff {s : List σ} : textField? name fields = some s ↔
    Lacks name fields ∧ s = [] ∨ Json.field? (ofText name) fields = some (.text s) := by
  unfold textField?
  split
  next h =>
    have hlacks := truthyField_eq_none_iff.1 h
    rw [Option.some.injEq]
    constructor
    · rintro rfl
      exact Or.inl ⟨hlacks, rfl⟩
    · rintro (⟨-, rfl⟩ | hs)
      · rfl
      · have hempty : s = [] := by simpa [Json.isTruthy] using hlacks _ hs
        exact hempty.symm
  next t h =>
    obtain ⟨ht, htruthy⟩ := truthyField_eq_some_iff.1 h
    rw [Option.some.injEq]
    constructor
    · rintro rfl
      exact Or.inr ht
    · rintro (⟨hlacks, -⟩ | hs)
      · rw [hlacks _ ht] at htruthy
        cases htruthy
      · rw [ht] at hs
        injection hs with hs
        injection hs
  next v hnotext h =>
    obtain ⟨hv, htruthy⟩ := truthyField_eq_some_iff.1 h
    refine iff_of_false (fun h => nomatch h) ?_
    rintro (⟨hlacks, -⟩ | hs)
    · rw [hlacks _ hv] at htruthy
      cases htruthy
    · exact hnotext s (Option.some.inj (hv.symm.trans hs))

theorem isRemark_iff {remark : Json σ} : IsRemark fields remark ↔ remark = remarkOf fields := by
  unfold remarkOf
  split
  next v h =>
    obtain ⟨hv, htruthy⟩ := truthyField_eq_some_iff.1 h
    constructor
    · rintro (⟨hw, -⟩ | hlacks)
      · rw [Option.some.inj (hw.symm.trans hv)]
      · rw [hlacks v hv] at htruthy
        cases htruthy
    · rintro rfl
      exact .message hv htruthy
  next h =>
    have hlacks := truthyField_eq_none_iff.1 h
    constructor
    · rintro (⟨hw, htruthy⟩ | -)
      · rw [hlacks _ hw] at htruthy
        cases htruthy
      · rfl
    · rintro rfl
      exact .id hlacks

theorem isRestriction_iff {s : List σ} :
    IsRestriction fields s ↔ textField? "instruction".toList fields = some s := by
  rw [textField?_eq_some_iff]
  constructor
  · rintro (hlacks | hs)
    · exact Or.inl ⟨hlacks, rfl⟩
    · exact Or.inr hs
  · rintro (⟨hlacks, rfl⟩ | hs)
    · exact .all hlacks
    · exact .one hs

/-- What is read as a rule is a well-formed one. -/
theorem ofJson?_eq_some_iff {v : Json σ} {e : RuleEntry σ} : RuleEntry.ofJson? v = some e ↔ IsRule v e := by
  constructor
  · intro h
    unfold RuleEntry.ofJson? at h
    split at h
    case h_2 => cases h
    case h_1 fields =>
      split at h
      case h_2 => cases h
      case h_1 pattern instruction hpattern hinstruction =>
        rw [Option.ite_none_left_eq_some, Option.some.injEq, List.isEmpty_iff] at h
        obtain ⟨hne, rfl⟩ := h
        refine .intro ?_ hne (isRestriction_iff.2 hinstruction) (isRemark_iff.2 rfl)
        exact (textField?_eq_some_iff.1 hpattern).resolve_left fun hempty => hne hempty.2
  · rintro ⟨hpattern, hne, hrestriction, hremark⟩
    have hread := textField?_eq_some_iff.2 (Or.inr hpattern)
    simp only [RuleEntry.ofJson?, hread, isRestriction_iff.1 hrestriction, List.isEmpty_iff, hne, if_false,
      ← isRemark_iff.1 hremark]

theorem ofJson?_eq_none_iff {v : Json σ} : RuleEntry.ofJson? v = none ↔ ∀ e, ¬ IsRule v e := by
  simp only [Option.eq_none_iff_forall_ne_some, ne_eq, ofJson?_eq_some_iff]

theorem IsRule.unique {v : Json σ} {e e' : RuleEntry σ} (h : IsRule v e) (h' : IsRule v e') : e = e' :=
  Option.some.inj ((ofJson?_eq_some_iff.2 h).symm.trans (ofJson?_eq_some_iff.2 h'))

/-- A rule list has one sequence of remarks on a line. -/
theorem Remarks.unique {E : Engine σ ε} {line keyword : Text} {rules : List (Json σ)} {texts texts' : List (List σ)}
    (h : Remarks E line keyword rules texts) (h' : Remarks E line keyword rules texts') : texts = texts' := by
  induction h generalizing texts' with
  | nil =>
    cases h'
    rfl
  | malformed noRule _ ih =>
    cases h' with
    | malformed _ others => exact ih others
    | silent rule | remarked rule => exact absurd rule (noRule _)
  | silent rule unconcerned _ ih =>
    cases h' with
    | malformed noRule => exact absurd rule (noRule _)
    | silent _ _ others => exact ih others
    | remarked rule' concerned => exact absurd (rule.unique rule' ▸ concerned) unconcerned
  | remarked rule concerned _ ih =>
    cases h' with
    | malformed noRule => exact absurd rule (noRule _)
    | silent rule' unconcerned => exact absurd (rule.unique rule' ▸ concerned) unconcerned
    | remarked rule' _ others => rw [rule.unique rule', ih others]

end

/-! Rules that are read. -/

theorem upperChar_ne_nil (c : Char) : Text.upperChar c ≠ [] := by
  have hspecial : ∀ row ∈ Text.upperSpecial, row.2 ≠ [] := by decide +kernel
  unfold Text.upperChar
  split
  · exact List.cons_ne_nil _ _
  · split
    next image himage =>
      rw [Ne, List.map_eq_nil_iff]
      obtain ⟨before, after, hrows, -⟩ := List.lookup_eq_some_iff.1 himage
      exact hspecial (c.toNat, image) (hrows ▸ by simp)
    next => exact List.cons_ne_nil _ _

theorem upper_eq_nil_iff {s : Text} : Text.upper s = [] ↔ s = [] := by
  rw [Text.upper, List.flatMap_eq_nil_iff]
  cases s with
  | nil => simp
  | cons c s => exact iff_of_false (fun h => upperChar_ne_nil c (h c List.mem_cons_self)) (List.cons_ne_nil c s)

theorem ruleEntries_list {σ : Type} (rules : List (Json σ)) : ruleEntries (.list rules) = .ok rules := by
  cases rules <;> rfl

section
variable {σ ε : Type} [Glyph σ] {E : Engine σ ε}

/-- A user's pattern that can be searched for is found where the engine finds it. -/
theorem search_iff {pattern : List σ} {found : Text → Bool} (h : E.search pattern = .ok found)
    (line : Text) : found line = true ↔ Found E pattern line := by
  cases hread : E.read pattern with
  | ok f =>
    rw [Engine.search, hread, Except.ok.injEq] at h
    subst h
    constructor
    · exact .matched hread
    · rintro (⟨hreads, hoccurs⟩ | ⟨hrefused, -⟩)
      · rwa [Except.ok.inj (hread.symm.trans hreads)]
      · cases hread.symm.trans hrefused
  | error fault =>
    rw [Engine.search, hread] at h
    dsimp only at h
    split at h
    next hmalformed =>
      constructor
      · exact .verbatim hread hmalformed h
      · rintro (⟨hreads, -⟩ | ⟨-, -, hreads, hoccurs⟩)
        · cases hread.symm.trans hreads
        · rwa [Except.ok.inj (h.symm.trans hreads)]
    next => cases h

theorem ofEntry_eq_ok_iff {e : RuleEntry σ} {rule : CustomRule σ} :
    CustomRule.ofEntry E e = .ok rule ↔ ∃ found, E.search e.pattern = .ok found ∧
      ⟨found, Text.upper (Glyph.toText e.instruction), e.remark.display, e.remark.excess?.isSome⟩ = rule :=
  map_eq_ok_iff

theorem applies_iff {e : RuleEntry σ} {rule : CustomRule σ} (h : CustomRule.ofEntry E e = .ok rule) (line : Text)
    (s : Statement) : rule.applies line s = true ↔ e.Concerns E line s.keyword := by
  obtain ⟨p, hp, rfl⟩ := ofEntry_eq_ok_iff.1 h
  rw [CustomRule.applies, Bool.and_eq_true, Bool.or_eq_true, List.isEmpty_iff, upper_eq_nil_iff,
    Glyph.toText_eq_nil_iff, beq_iff_eq, search_iff hp, RuleEntry.Concerns]

/-- A malformed pattern is found by this library's engine where the line has its letters one after the other, case
apart. -/
theorem found_of_malformed_iff {charNamed : Text → Option Char} {pattern : Text}
    (h : Pattern.ofText charNamed pattern = .error .malformed) (line : Text) :
    Found (Pattern.engine charNamed) pattern line ↔
      ∃ before part after, line = before ++ part ++ after ∧ Spells part pattern := by
  have hrefused : (Pattern.engine charNamed).read pattern = .error .malformed := map_eq_error_iff.2 h
  have hreads : (Pattern.engine charNamed).read (Pattern.escaped pattern) = .ok (Pattern.literal pattern).occursIn :=
    map_eq_ok_iff.2 ⟨_, Pattern.ofText_escaped charNamed pattern, rfl⟩
  have hsearch : (Pattern.engine charNamed).search pattern = .ok (Pattern.literal pattern).occursIn := by
    rw [Engine.search, hrefused]
    exact hreads
  rw [← search_iff hsearch]
  exact Pattern.occursIn_literal_iff

/-- What the custom rules have to say of a line. -/
def customRemarks (custom : List (CustomRule σ)) (l : Numbered) : List (List σ) :=
  match recognise? l.line with
  | none => []
  | some s => ((custom.filter (·.applies l.line s)).map (·.remark)).map (lineRemark l.number)

theorem lineSuggestions_eq (custom : List (CustomRule σ)) (l : Numbered) :
    lineSuggestions custom l = (lineSuggestions [] l : List (List σ)) ++ customRemarks custom l := by
  unfold lineSuggestions customRemarks
  cases recognise? l.line with
  | none => rfl
  | some s => simp only [List.filter_nil, List.map_nil, List.append_nil, List.map_append]

variable [DecidableEq σ]

theorem ofList_of_malformed {v : Json σ} (hv : ∀ e, ¬ IsRule v e) (rest : List (Json σ)) :
    CustomRule.ofList E (v :: rest) = CustomRule.ofList E rest := by
  rw [CustomRule.ofList, ofJson?_eq_none_iff.2 hv]

theorem ofList_of_isRule {v : Json σ} {e : RuleEntry σ} (hv : IsRule v e) (rest : List (Json σ)) :
    CustomRule.ofList E (v :: rest) =
      CustomRule.ofEntry E e >>= fun rule => (CustomRule.ofList E rest).map (rule :: ·) := by
  rw [CustomRule.ofList, ofJson?_eq_some_iff.2 hv]
  cases h : CustomRule.ofEntry E e <;> simp [h, bind, Except.bind]

/-- The rules of a list say what its entries say. -/
theorem remarks_of_ofList {rules : List (Json σ)} {custom : List (CustomRule σ)}
    (h : CustomRule.ofList E rules = .ok custom) (line : Text) (s : Statement) :
    Remarks E line s.keyword rules ((custom.filter (·.applies line s)).map (·.remark)) := by
  induction rules generalizing custom with
  | nil =>
    obtain rfl : [] = custom := Except.ok.inj h
    exact .nil
  | cons v rules ih =>
    cases hv : RuleEntry.ofJson? v with
    | none =>
      rw [ofJson?_eq_none_iff] at hv
      rw [ofList_of_malformed hv] at h
      exact .malformed hv (ih h)
    | some e =>
      rw [ofJson?_eq_some_iff] at hv
      rw [ofList_of_isRule hv, bind_eq_ok_iff] at h
      obtain ⟨rule, hrule, h⟩ := h
      obtain ⟨others, hothers, rfl⟩ := map_eq_ok_iff.1 h
      have hconcerns := applies_iff hrule line s
      obtain ⟨p, -, rfl⟩ := ofEntry_eq_ok_iff.1 hrule
      by_cases hc : e.Concerns E line s.keyword
      · rw [List.filter_cons, if_pos (hconcerns.2 hc), List.map_cons]
        exact .remarked hv hc (ih hothers)
      · rw [List.filter_cons, if_neg (mt hconcerns.1 hc)]
        exact .silent hv hc (ih hothers)

/-- A malformed entry can be left out of a list. -/
theorem ofList_drop {v : Json σ} (hv : ∀ e, ¬ IsRule v e) (before after : List (Json σ)) :
    CustomRule.ofList E (before ++ v :: after) = CustomRule.ofList E (before ++ after) := by
  induction before with
  | nil => exact ofList_of_malformed hv after
  | cons w before ih => rw [List.cons_append, List.cons_append, CustomRule.ofList, CustomRule.ofList, ih]

theorem checkDocumentBy_list_eq_ok_iff {content : Text} {rules : List (Json σ)} {result : Result σ} :
    checkDocumentBy E content (.list rules) = .ok result ↔
      ∃ custom, CustomRule.ofList E rules = .ok custom ∧ isOverlong custom content = false ∧
        checkWith custom content = result := by
  simp only [checkDocumentBy_eq_ok_iff, ruleEntries_list, Except.ok.injEq, exists_eq_left', exists_and_left]

end

/-- Custom rules change neither the issues nor the verdict. Every recognised line keeps its advice and has the remarks
of the rules on it right after that, the advice on the whole text stays last, and entries that are no rules can be left
out. What is found is for the engine to say; by this library's own, a malformed pattern is found as it stands, case
apart. -/
theorem custom_rules_only_add {σ ε : Type} [Glyph σ] [DecidableEq σ] (E : Engine σ ε) {content : Text}
    {rules : List (Json σ)} {result : Result σ} (h : checkDocumentBy E content (.list rules) = .ok result) :
    (∃ plain, checkDocumentBy E content .null = .ok plain ∧
      result.issues = plain.issues ∧ result.isValid = plain.isValid ∧
      (∃ advice remarks : Numbered → List (List σ),
        plain.suggestions = (significant content).flatMap advice ++ (documentAdvice content : List (List σ)) ∧
        result.suggestions =
          (significant content).flatMap (fun l => advice l ++ remarks l) ++ (documentAdvice content : List (List σ)) ∧
        ∀ l ∈ significant content,
          (recognise? l.line = none → advice l = [] ∧ remarks l = []) ∧
          ∀ s, recognise? l.line = some s →
            advice l = (Advice.forStatement s).map (lineRemark l.number) ∧
            ∃ texts, Remarks E l.line s.keyword rules texts ∧ remarks l = texts.map (lineRemark l.number)) ∧
      ∀ before v after, rules = before ++ v :: after → (∀ e, ¬ IsRule v e) →
        checkDocumentBy E content (.list (before ++ after)) = .ok result) ∧
    ∀ charNamed pattern, Pattern.ofText charNamed pattern = .error .malformed →
      ∀ line, Found (Pattern.engine charNamed) pattern line ↔
        ∃ before part after, line = before ++ part ++ after ∧ Spells part pattern := by
  refine ⟨?_, fun _ _ => found_of_malformed_iff⟩
  obtain ⟨custom, hcustom, hlong, rfl⟩ := checkDocumentBy_list_eq_ok_iff.1 h
  refine ⟨checkWith [] content, rfl, rfl, rfl, ⟨lineSuggestions [], customRemarks custom, rfl, ?_, ?_⟩, ?_⟩
  · rw [← funext (lineSuggestions_eq custom)]
    rfl
  · refine fun l _ => ⟨fun hl => ?_, fun s hs => ?_⟩
    · simp only [lineSuggestions, customRemarks, hl, and_self]
    · simp only [lineSuggestions, customRemarks, hs, List.filter_nil, List.map_nil, List.append_nil, true_and]
      exact ⟨_, remarks_of_ofList hcustom l.line s, rfl⟩
  · rintro before v after rfl hv
    rw [ofList_drop hv] at hcustom
    exact checkDocumentBy_list_eq_ok_iff.2 ⟨custom, hcustom, hlong, rfl⟩

/-- Names of characters, as an engine may know them. -/
def digitNamed (name : Text) : Option Char :=
  if name = "DIGIT ONE".toList then some '1' else none

/-- A rule for all lines, one for an instruction whose text is no pattern and is found as it stands, one without
anything to say, and three entries that are no rules. -/
def mixedRules : List Json := [
  .object [("pattern", .text "\\N\x7bDIGIT ONE\x7d|DD"), ("message", .text "first")],
  .null,
  .object [("pattern", .text "*"), ("instruction", .text "user"), ("message", .text []), ("id", .int 7)],
  .object [("pattern", .text "x"), ("instruction", .int 1)],
  .object [("pattern", .text []), ("message", .text "none")],
  .object [("pattern", .text "e$"), ("instruction", .null)]]

/-- The line that is no statement and has the first pattern stays without a remark. -/
theorem custom_rules_only_add_mixed :
    let content := "FROM a:1\nRAN 1\nadd e\nUSER *".toList
    let result : Result := ⟨false, [⟨2, "Invalid Dockerfile instruction: RAN 1".toList, "error".toList⟩], [
      "Line 1: first",
      "Line 3: prefer COPY over ADD for plain file copies",
      "Line 3: first",
      "Line 3: None",
      "Line 4: 7",
      "Consider adding a HEALTHCHECK instruction to monitor container health"]⟩
    checkDocumentBy (Pattern.engine digitNamed) content (.list mixedRules) = .ok result ∧
      (∃ plain, checkDocumentBy (Pattern.engine digitNamed) content .null = .ok plain ∧ result.issues = plain.issues) ∧
      checkDocumentBy (Pattern.engine digitNamed) content (.list (mixedRules.eraseIdx 1)) = .ok result := by
  intro content result
  have h : checkDocumentBy (Pattern.engine digitNamed) content (.list mixedRules) = .ok result := by decide +kernel
  obtain ⟨⟨plain, hplain, hissues, -, -, hdrop⟩, -⟩ := custom_rules_only_add (Pattern.engine digitNamed) h
  exact ⟨h, ⟨plain, hplain, hissues⟩, hdrop [_] .null _ rfl nofun⟩

end Dockgraph.Lint
