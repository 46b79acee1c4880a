import Dockgraph.Proofs.Json.RoundTrip
import Dockgraph.Proofs.Text.Parts
import Dockgraph.Report.Html

/-! Documents guarded for a script. The guard puts a backslash before a slash behind `<`. In a document both stand in
a literal only, where the reader takes a slash with or without a backslash, so that the document is read back. No end
tag is left, but what begins a comment passes as it stands in a text. -/

namespace Dockgraph

namespace Html

/-! Guarded text. -/

variable {s t : Text}

theorem guardScript_cons {c : Char} (h : c = '<' → s.head? ≠ some '/') : guardScript (c :: s) = c :: guardScript s :=
  guardScript.eq_3 c s fun _ hc hs => h hc (hs ▸ rfl)

theorem guardScript_cons_of_ne {c : Char} (h : c ≠ '<') : guardScript (c :: s) = c :: guardScript s :=
  guardScript_cons fun he => absurd he h

theorem guardScript_append_of_notMem (h : '<' ∉ s) : guardScript (s ++ t) = s ++ guardScript t := by
  induction s with
  | nil => rfl
  | cons c s ih =>
    rw [List.mem_cons, not_or] at h
    rw [List.cons_append, guardScript_cons_of_ne fun he => h.1 he.symm, ih h.2, List.cons_append]

theorem guardScript_of_notMem (h : '<' ∉ s) : guardScript s = s := by
  have hs := guardScript_append_of_notMem (t := []) h
  rwa [List.append_nil, guardScript, List.append_nil] at hs

/-- The guard takes its steps: a slash behind `<`, or a character that is not `<` before a slash. -/
theorem guarded_induction {P : Text → Prop} (nil : P []) (slash : ∀ s, P s → P ('<' :: '/' :: s))
    (cons : ∀ c s, (c = '<' → s.head? ≠ some '/') → P s → P (c :: s)) (s : Text) : P s := by
  induction s using guardScript.induct with
  | case1 => exact nil
  | case2 s ih => exact slash s ih
  | case3 c s hne ih =>
    refine cons c s (fun hc hs => ?_) ih
    obtain ⟨s', rfl⟩ := List.head?_eq_some_iff.1 hs
    exact hne s' hc rfl

/-- What does not begin with a slash is guarded by itself. -/
theorem guardScript_append (h : t.head? ≠ some '/') : guardScript (s ++ t) = guardScript s ++ guardScript t := by
  induction s using guarded_induction with
  | nil => rfl
  | slash s ih => exact congrArg (fun s => '<' :: '\\' :: '/' :: s) ih
  | cons c s hs ih =>
    have hhead : c = '<' → (s ++ t).head? ≠ some '/' := by
      intro hc he
      rw [List.head?_append, Option.or_eq_some_iff] at he
      rcases he with he | ⟨-, he⟩
      · exact hs hc he
      · exact h he
    rw [List.cons_append, guardScript_cons hhead, ih, guardScript_cons hs, List.cons_append]

/-- A mark that is neither of the two is a border for the guard. -/
theorem guardScript_append_cons {c : Char} (hc : c ≠ '<' ∧ c ≠ '/') :
    guardScript (s ++ c :: t) = guardScript s ++ c :: guardScript t := by
  have hhead : (c :: t).head? ≠ some '/' := fun h => hc.2 (Option.some.inj h)
  rw [guardScript_append hhead, guardScript_cons_of_ne hc.1]

theorem head?_guardScript (s : Text) : (guardScript s).head? = s.head? := by
  induction s using guarded_induction with
  | nil => rfl
  | slash s _ => rfl
  | cons c s hs _ =>
    rw [guardScript_cons hs]
    rfl

/-- No end tag is left. -/
theorem not_isInfix_guardScript (s : Text) : ¬ ['<', '/'] <:+: guardScript s := by
  induction s using guarded_induction with
  | nil => simp [guardScript]
  | slash s ih =>
    rw [guardScript, List.infix_cons_iff, List.infix_cons_iff, List.infix_cons_iff]
    simp [ih]
  | cons c s hs ih =>
    rw [guardScript_cons hs, List.infix_cons_iff, List.cons_prefix_cons]
    rintro (⟨rfl, hslash⟩ | h)
    · obtain ⟨rest, hrest⟩ := hslash
      refine hs rfl ?_
      rw [← head?_guardScript, ← hrest]
      rfl
    · exact ih h

theorem toLower_eq_self_of_lt {c : Char} (h : c.toLower < 'a') : c.toLower = c := by
  unfold Char.toLower at h ⊢
  split_ifs at h ⊢ with hc
  · exfalso
    -- a capital becomes a small letter
    simp only [Char.lt_def, UInt32.lt_iff_toNat_lt, UInt32.le_iff_toNat_le, UInt32.toNat_add, ge_iff_le] at h hc
    simp only [UInt32.toNat_ofNat, UInt32.reduceSub, Char.reduceVal] at h hc
    omega
  · rfl

theorem not_isInfix_lower_guardScript (s : Text) : ¬ "</script".toList <:+: (guardScript s).map Char.toLower := by
  intro h
  have hlow : ∀ c ∈ ['<', '/'], c < 'a' := by simp [Char.lt_def]
  have hfixed : ∀ c ∈ ['<', '/'], c.toLower = c := by simp
  have htag : ['<', '/'] <:+: (guardScript s).map Char.toLower := List.IsInfix.trans ⟨[], "script".toList, rfl⟩ h
  rw [Text.isInfix_map_iff hfixed fun c hc => toLower_eq_self_of_lt (hlow _ hc)] at htag
  exact not_isInfix_guardScript s htag

theorem isPrefix_guardScript_iff {part : Text} (h : '<' ∉ part) : part <+: guardScript s ↔ part <+: s := by
  induction s using guarded_induction generalizing part with
  | nil => rfl
  | slash s _ =>
    cases part with
    | nil => simp
    | cons d part =>
      have hd : d ≠ '<' := fun he => h (he ▸ List.mem_cons_self)
      simp [guardScript, List.cons_prefix_cons, hd]
  | cons c s hs ih =>
    rw [guardScript_cons hs]
    cases part with
    | nil => simp
    | cons d part =>
      rw [List.cons_prefix_cons, List.cons_prefix_cons, ih fun hm => h (List.mem_cons_of_mem d hm)]

/-- What begins a comment. A script that holds it, and then its own opening tag, goes on behind the next end tag. -/
def commentOpening : Text := "<!--".toList

theorem forall_mem_commentOpening {P : Char → Prop} (h : P '<' ∧ P '!' ∧ P '-') : ∀ c ∈ commentOpening, P c := by
  simpa [commentOpening] using h

/-- Any other part that begins with `<` is neither made nor taken away. -/
theorem isInfix_guardScript_iff {d : Char} {part : Text} (hd : d ≠ '/' ∧ d ≠ '\\') (h : '<' ∉ d :: part) :
    '<' :: d :: part <:+: guardScript s ↔ '<' :: d :: part <:+: s := by
  induction s using guarded_induction with
  | nil => rfl
  | slash s ih =>
    rw [guardScript, List.infix_cons_iff, List.infix_cons_iff, List.infix_cons_iff, List.infix_cons_iff,
      List.infix_cons_iff, ih]
    simp [List.cons_prefix_cons, hd]
  | cons c s hs ih =>
    rw [guardScript_cons hs, List.infix_cons_iff, List.infix_cons_iff, ih, List.cons_prefix_cons, List.cons_prefix_cons,
      isPrefix_guardScript_iff h]

end Html

namespace Json

open Html

/-! Guarded documents. -/

theorem head?_escaped {t : Text} (h : (t.flatMap escapeChar).head? = some '/') : t.head? = some '/' := by
  cases t with
  | nil => cases h
  | cons c t =>
    obtain ⟨d, s, hs⟩ := List.exists_cons_of_ne_nil (escapeChar_ne_nil c)
    rw [List.flatMap_cons, hs] at h
    obtain rfl : d = '/' := Option.some.inj h
    rcases mem_escapeChar (hs ▸ List.mem_cons_self) with rfl | h | h
    · rfl
    · cases h
    · cases h

theorem lt_notMem_escapeChar {c : Char} (h : c ≠ '<') : '<' ∉ escapeChar c := by
  intro hm
  rcases mem_escapeChar hm with he | he | he
  · exact h he.symm
  · cases he
  · cases he

/-- What the guard makes of a literal is a literal of the same text. -/
theorem literal_guarded (t : Text) : Literal t (guardScript (t.flatMap escapeChar)) := by
  induction t using guarded_induction with
  | nil => exact .nil
  | slash t ih => exact .char '<' (.slash ih)
  | cons c t ht ih =>
    have hchar : guardScript (escapeChar c ++ t.flatMap escapeChar) =
        escapeChar c ++ guardScript (t.flatMap escapeChar) := by
      by_cases hc : c = '<'
      · subst hc
        exact guardScript_cons fun _ h => ht rfl (head?_escaped h)
      · exact guardScript_append_of_notMem (lt_notMem_escapeChar hc)
    rw [List.flatMap_cons, hchar]
    exact .char c ih

theorem lt_notMem_ofInt (i : Int) : '<' ∉ Text.ofInt i := by
  have hnat : ∀ n, '<' ∉ Text.ofNat n := fun n hm => absurd (isDigit_of_mem_ofNat hm) (by decide)
  cases i with
  | ofNat n => exact hnat n
  | negSucc n =>
    rw [Text.ofInt, List.mem_cons, not_or]
    exact ⟨by decide, hnat _⟩

theorem guardScript_joinWith (pieces : List Text) :
    guardScript (Text.joinWith ", ".toList pieces) = Text.joinWith ", ".toList (pieces.map guardScript) := by
  change guardScript (Text.joinWith (',' :: [' ']) pieces) = Text.joinWith (',' :: [' ']) (pieces.map guardScript)
  induction pieces with
  | nil => rfl
  | cons s pieces ih =>
    cases pieces with
    | nil => rw [List.map_singleton, Text.joinWith_singleton, Text.joinWith_singleton]
    | cons t pieces =>
      rw [List.map_cons, List.map_cons, Text.joinWith_cons_cons, Text.joinWith_cons_cons, ← List.map_cons, ← ih,
        guardScript_append_cons (by decide), List.singleton_append, guardScript_cons_of_ne (by decide)]
      rfl

/-- What is between brackets is guarded by itself. -/
theorem guardScript_brackets {opening closing : Char} (ho : opening ≠ '<') (hc : closing ≠ '<' ∧ closing ≠ '/')
    (s : Text) : guardScript (opening :: s ++ [closing]) = opening :: (guardScript s ++ [closing]) := by
  rw [List.cons_append, guardScript_cons_of_ne ho, guardScript_append_cons hc, guardScript]

/-- The document on one line for a script. -/
def guarded (v : Json) : Text :=
  guardScript v.compact

theorem guardScript_comp_writeField : guardScript ∘ writeField (List.flatMap escapeChar) compact =
    writeField (fun t => guardScript (t.flatMap escapeChar)) guarded := by
  funext f
  rw [Function.comp_apply, writeField, guardScript_cons_of_ne (by decide), guardScript_append_cons (by decide),
    guardScript_cons_of_ne (by decide), guardScript_cons_of_ne (by decide), writeField, guarded]

/-- A document is read back from its guarded text. -/
theorem IsExact.readsAs_guarded {v : Json} (h : IsExact v) : ReadsAs (guarded v) v := by
  induction h with
  | null => exact readsAs_null
  | bool b =>
    rw [guarded, compact, guardScript_of_notMem (by cases b <;> decide)]
    exact readsAs_bool b
  | int i =>
    rw [guarded, compact, writeScalar, guardScript_of_notMem (lt_notMem_ofInt i)]
    exact readsAs_int i
  | text s =>
    rw [guarded, compact, writeScalar, writeText_char, guardScript_brackets (by decide) (by decide)]
    exact readsAs_text (literal_guarded s)
  | list _ ih =>
    have hlist := readsAs_list isGap_nil isGap_space isGap_nil ih
    rw [guarded, compact, compactItems_eq, guardScript_brackets (by decide) (by decide), guardScript_joinWith,
      List.map_map]
    exact hlist
  | object distinct _ ih =>
    have hobject := readsAs_object literal_guarded isGap_nil isGap_space isGap_nil distinct ih
    rw [guarded, compact, compactFields_eq, guardScript_brackets (by decide) (by decide), guardScript_joinWith,
      List.map_map, guardScript_comp_writeField]
    exact hobject

/-! What begins a comment. -/

theorem commentOpening_isInfix_escaped_iff (s : Text) :
    commentOpening <:+: s.flatMap escapeChar ↔ commentOpening <:+: s := by
  have hplain : ∀ d ∈ commentOpening, d ≠ '\\' ∧ d.isAlphanum = false := forall_mem_commentOpening (by decide)
  have hself : ∀ d ∈ commentOpening, escapeChar d = [d] := forall_mem_commentOpening (by decide)
  refine Text.isInfix_flatMap_of_fixed hself fun c hc => ⟨escapeChar_ne_nil c, fun d hd hm => ?_⟩
  rcases mem_escapeChar hd with rfl | rfl | h
  · exact hc hm
  · exact (hplain _ hm).1 rfl
  · rw [(hplain d hm).2] at h
    cases h

theorem commentOpening_isInfix_text_iff (s : Text) :
    commentOpening <:+: compact (.text s) ↔ commentOpening <:+: s := by
  rw [compact, writeScalar, writeText_char, Text.isInfix_brackets_iff (by decide) (by decide),
    commentOpening_isInfix_escaped_iff]

theorem commentOpening_isInfix_joinWith_iff (pieces : List Text) :
    commentOpening <:+: Text.joinWith ", ".toList pieces ↔ ∃ s ∈ pieces, commentOpening <:+: s :=
  Text.isInfix_joinWith_iff (by decide) (show ',' ∉ commentOpening by decide)
    (List.forall_mem_singleton.2 (show ' ' ∉ commentOpening by decide))

theorem commentOpening_isInfix_list_iff (items : List Json) :
    commentOpening <:+: compact (.list items) ↔ ∃ v ∈ items, commentOpening <:+: compact v := by
  rw [compact, Text.isInfix_brackets_iff (by decide) (by decide), compactItems_eq, commentOpening_isInfix_joinWith_iff]
  simp only [List.mem_map, exists_exists_and_eq_and]

theorem commentOpening_not_isInfix {s : Text} (h : '<' ∉ s) : ¬ commentOpening <:+: s :=
  fun hs => h (hs.subset (by decide))

theorem commentOpening_isInfix_writeField_iff (f : Text × Json) :
    commentOpening <:+: writeField (List.flatMap escapeChar) compact f ↔
      commentOpening <:+: f.1 ∨ commentOpening <:+: compact f.2 := by
  rw [writeField, Text.isInfix_cons_of_notMem (by decide), Text.isInfix_append_cons_iff (by decide),
    Text.isInfix_cons_of_notMem (by decide), Text.isInfix_cons_of_notMem (by decide),
    commentOpening_isInfix_escaped_iff]

theorem commentOpening_isInfix_object_iff {fields : List (Text × Json)} (h : ∀ f ∈ fields, '<' ∉ f.1) :
    commentOpening <:+: compact (.object fields) ↔ ∃ f ∈ fields, commentOpening <:+: compact f.2 := by
  rw [compact, Text.isInfix_brackets_iff (by decide) (by decide), compactFields_eq,
    commentOpening_isInfix_joinWith_iff]
  simp only [List.mem_map, exists_exists_and_eq_and, commentOpening_isInfix_writeField_iff]
  exact exists_congr fun f => and_congr_right fun hf => or_iff_right (commentOpening_not_isInfix (h f hf))

theorem commentOpening_not_isInfix_bool (b : Bool) : ¬ commentOpening <:+: compact (.bool b) :=
  commentOpening_not_isInfix (by cases b <;> decide)

theorem commentOpening_not_isInfix_int (i : Int) : ¬ commentOpening <:+: compact (.int i) :=
  commentOpening_not_isInfix (lt_notMem_ofInt i)

end Json

end Dockgraph
