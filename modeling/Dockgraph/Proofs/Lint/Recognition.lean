import Dockgraph.Lint.Check
import Dockgraph.Proofs.Ids
import Dockgraph.Proofs.Text.Letters
import Dockgraph.Proofs.Text.Lines
import Mathlib.Data.List.Forall2

/-! Which lines the linter recognises. A recognised line begins with a keyword up to case and a blank after
it. The keyword of the statement is what the line has, in upper case: with a Kelvin sign for its K a line is a
`WORKDIR` line and its statement has another keyword. No letter of `FROM` has such variants, and no other
keyword can pass for it. -/

namespace Dockgraph.Lint

/-- Whether `word` is the keyword up to case, letter by letter. -/
def Spells (word keyword : Text) : Prop :=
  List.Forall₂ (fun k c => Text.sameLetter k c = true) keyword word

/-- Whether the line begins with the keyword of the instruction, case apart, and a blank after it. -/
def Names (i : Instruction) (line : Text) : Prop :=
  ∃ word b rest, line = word ++ b :: rest ∧ Spells word i.keyword ∧ Text.isBlank b = true

theorem splitKeyword?_eq_some_iff {keyword line word rest : Text} :
    splitKeyword? keyword line = some (word, rest) ↔ line = word ++ rest ∧ Spells word keyword := by
  induction keyword generalizing line word with
  | nil =>
    rw [splitKeyword?, Option.some.injEq, Prod.mk.injEq, Spells, List.forall₂_nil_left_iff]
    constructor
    · rintro ⟨rfl, rfl⟩
      exact ⟨rfl, rfl⟩
    · rintro ⟨rfl, rfl⟩
      exact ⟨rfl, rfl⟩
  | cons k keyword ih =>
    rw [Spells, List.forall₂_cons_left_iff]
    cases line with
    | nil =>
      constructor
      · intro h
        cases h
      · rintro ⟨hl, c, word, -, -, rfl⟩
        cases hl
    | cons c line =>
      rw [splitKeyword?, Option.ite_none_right_eq_some, Option.map_eq_some_iff]
      constructor
      · rintro ⟨hk, ⟨word, rest⟩, hr, he⟩
        obtain ⟨rfl, rfl⟩ := Prod.mk.injEq .. ▸ he
        obtain ⟨rfl, hs⟩ := ih.1 hr
        exact ⟨rfl, c, word, hk, hs, rfl⟩
      · rintro ⟨hl, c', word, hk, hs, rfl⟩
        obtain ⟨rfl, rfl⟩ := List.cons.injEq .. ▸ hl
        exact ⟨hk, (word, rest), ih.2 ⟨rfl, hs⟩, rfl⟩

theorem statementOf?_eq_some_iff {line : Text} {i : Instruction} {s : Statement} :
    statementOf? line i = some s ↔ ∃ word b rest, line = word ++ b :: rest ∧ Spells word i.keyword ∧
      Text.isBlank b = true ∧ s = ⟨Text.upper word, Text.trim (b :: rest)⟩ := by
  constructor
  · intro h
    unfold statementOf? at h
    split at h
    case h_1 word b rest hsplit =>
      obtain ⟨hl, hs⟩ := splitKeyword?_eq_some_iff.1 hsplit
      rw [Option.ite_none_right_eq_some, Option.some.injEq] at h
      exact ⟨word, b, rest, hl, hs, h.1, h.2.symm⟩
    case h_2 => cases h
  · rintro ⟨word, b, rest, hl, hs, hb, rfl⟩
    simp [statementOf?, splitKeyword?_eq_some_iff.2 ⟨hl, hs⟩, hb]

theorem isSome_statementOf? {line : Text} {i : Instruction} :
    (statementOf? line i).isSome = true ↔ Names i line := by
  constructor
  · intro h
    obtain ⟨s, hs⟩ := Option.isSome_iff_exists.1 h
    obtain ⟨word, b, rest, hl, hw, hb, -⟩ := statementOf?_eq_some_iff.1 hs
    exact ⟨word, b, rest, hl, hw, hb⟩
  · rintro ⟨word, b, rest, hl, hw, hb⟩
    exact Option.isSome_iff_exists.2 ⟨_, statementOf?_eq_some_iff.2 ⟨word, b, rest, hl, hw, hb, rfl⟩⟩

/-- A line is recognised where it names some instruction. -/
theorem isNone_recognise? {line : Text} : (recognise? line).isNone = true ↔ ∀ i, ¬ Names i line := by
  rw [recognise?, Option.isNone_iff_eq_none, List.findSome?_eq_none_iff]
  constructor
  · intro h i hi
    have := isSome_statementOf?.2 hi
    rw [h i (Instruction.mem_all i)] at this
    exact Bool.noConfusion this
  · intro h i _
    rw [← Option.not_isSome_iff_eq_none]
    exact fun hs => h i (isSome_statementOf?.1 hs)

/-! The letters of the keywords. -/

theorem upperChar_of_base {k : Char} (hk : k ∈ Instruction.base.keyword) {c : Char}
    (hc : c ∈ Text.variants k) : Text.upperChar c = [k] := by
  have hall : (Instruction.base.keyword.all fun k =>
      (Text.variants k).all fun c => Text.upperChar c == [k]) = true := by decide +kernel
  simpa using List.all_eq_true.1 (List.all_eq_true.1 hall k hk) c hc

/-- The characters that a spelling of the keyword may begin with. -/
def initials (i : Instruction) : List Char :=
  i.keyword.head?.toList.flatMap Text.variants

theorem initial_of_ne_base {i : Instruction} (hi : i ≠ .base) {c : Char} (hc : c ∈ initials i) :
    ∃ u, (Text.upperChar c).head? = some u ∧ u ≠ 'F' := by
  have hall : (Instruction.all.all fun i => decide (i = .base) ||
      (initials i).all fun c => (Text.upperChar c).head?.any (· != 'F')) = true := by decide +kernel
  have hone := List.all_eq_true.1 hall i (Instruction.mem_all i)
  rw [decide_eq_false hi, Bool.false_or] at hone
  simpa [Option.any_eq_true] using List.all_eq_true.1 hone c hc

theorem initial_ne_hash {i : Instruction} {c : Char} (hc : c ∈ initials i) : c ≠ '#' := by
  have hall : (Instruction.all.all fun i => (initials i).all (· != '#')) = true := by decide +kernel
  simpa using List.all_eq_true.1 (List.all_eq_true.1 hall i (Instruction.mem_all i)) c hc

theorem Spells.exists_initial {word : Text} {i : Instruction} (h : Spells word i.keyword) :
    ∃ c w, word = c :: w ∧ c ∈ initials i := by
  obtain ⟨k, ks, hk⟩ := List.exists_cons_of_ne_nil i.keyword_ne_nil
  rw [Spells, hk, List.forall₂_cons_left_iff] at h
  obtain ⟨c, w, hc, -, rfl⟩ := h
  refine ⟨c, w, rfl, ?_⟩
  simpa [initials, hk] using Text.mem_variants_of_sameLetter hc

theorem upper_of_spells {word keyword : Text} (h : Spells word keyword)
    (hk : ∀ k ∈ keyword, ∀ c ∈ Text.variants k, Text.upperChar c = [k]) : Text.upper word = keyword := by
  induction h with
  | nil => rfl
  | @cons k c keyword word hc _ ih =>
    rw [List.forall_mem_cons] at hk
    have hw : Text.upper word = keyword := ih hk.2
    have hu := hk.1 c (Text.mem_variants_of_sameLetter hc)
    rw [Text.upper, List.flatMap_cons, hu, ← Text.upper, hw]
    rfl

theorem upper_ne_base_of_spells {word : Text} {i : Instruction} (hi : i ≠ .base)
    (h : Spells word i.keyword) : Text.upper word ≠ Instruction.base.keyword := by
  intro he
  obtain ⟨c, w, rfl, hc⟩ := h.exists_initial
  obtain ⟨u, hu, hne⟩ := initial_of_ne_base hi hc
  have hhead : (Text.upper (c :: w)).head? = some u := by
    rw [Text.upper, List.flatMap_cons, List.head?_append, hu]
    rfl
  rw [he] at hhead
  exact hne (Option.some.inj hhead).symm

/-- A `FROM` line is one that names the instruction. -/
theorem isBase_iff {l : Numbered} : isBase l = true ↔ Names .base l.line := by
  rw [isBase, Option.any_eq_true]
  constructor
  · rintro ⟨s, hs, hk⟩
    obtain ⟨i, -, hi⟩ := List.exists_of_findSome?_eq_some hs
    obtain ⟨word, b, rest, hl, hw, hb, rfl⟩ := statementOf?_eq_some_iff.1 hi
    have hbase : i = .base := by
      by_contra hne
      exact upper_ne_base_of_spells hne hw (by simpa using hk)
    exact ⟨word, b, rest, hl, hbase ▸ hw, hb⟩
  · rintro ⟨word, b, rest, hl, hw, hb⟩
    -- `FROM` is the first keyword that is tried
    have hs := statementOf?_eq_some_iff.2 ⟨word, b, rest, hl, hw, hb, rfl⟩
    refine ⟨_, List.findSome?_cons_of_isSome ?_ |>.trans hs, ?_⟩
    · rw [hs]
      rfl
    · simpa using upper_of_spells hw fun k hk c hc => upperChar_of_base hk hc

theorem Spells.ne_nil {word : Text} {i : Instruction} (h : Spells word i.keyword) : word ≠ [] := by
  obtain ⟨c, w, rfl, -⟩ := h.exists_initial
  exact List.cons_ne_nil c w

/-- The letters of the keywords. -/
def letters : Text := "ABCDEFGHIKLMNOPRSTUVWXY".toList

theorem mem_letters (i : Instruction) {k : Char} (hk : k ∈ i.keyword) : k ∈ letters := by
  have hall : i.keyword.all letters.contains = true := by
    cases i <;> rfl
  simpa using List.all_eq_true.1 hall k hk

theorem isBlank_of_mem_variants {k : Char} (hk : k ∈ letters) {c : Char} (hc : c ∈ Text.variants k) :
    Text.isBlank c = false := by
  have hall : (letters.all fun k => (Text.variants k).all (!Text.isBlank ·)) = true := by decide +kernel
  simpa using List.all_eq_true.1 (List.all_eq_true.1 hall k hk) c hc

theorem Spells.exists_letter {word keyword : Text} (h : Spells word keyword) {c : Char} (hc : c ∈ word) :
    ∃ k ∈ keyword, Text.sameLetter k c = true := by
  induction h with
  | nil => cases hc
  | @cons k d keyword word hd _ ih =>
    rcases List.mem_cons.1 hc with rfl | hc
    · exact ⟨k, List.mem_cons_self, hd⟩
    · obtain ⟨k', hk', hsame⟩ := ih hc
      exact ⟨k', List.mem_cons_of_mem _ hk', hsame⟩

theorem Spells.isBlank {word : Text} {i : Instruction} (h : Spells word i.keyword) :
    ∀ c ∈ word, Text.isBlank c = false := by
  intro c hc
  obtain ⟨k, hk, hsame⟩ := h.exists_letter hc
  exact isBlank_of_mem_variants (mem_letters i hk) (Text.mem_variants_of_sameLetter hsame)

/-- The word that a line names its instruction by is its first word. -/
theorem firstWord_of_spells {word : Text} {i : Instruction} (h : Spells word i.keyword) {b : Char}
    (hb : Text.isBlank b = true) (rest : Text) : Text.firstWord (word ++ b :: rest) = word :=
  Text.firstWord_word h.ne_nil h.isBlank hb rest

/-- What a recognised line names is settled by its first word. -/
theorem names_iff_firstWord {line : Text} (h : ∃ j, Names j line) {i : Instruction} :
    Names i line ↔ Spells (Text.firstWord line) i.keyword := by
  constructor
  · rintro ⟨word, b, rest, rfl, hw, hb⟩
    rwa [firstWord_of_spells hw hb]
  · intro hi
    obtain ⟨j, word, b, rest, rfl, hw, hb⟩ := h
    rw [firstWord_of_spells hw hb] at hi
    exact ⟨word, b, rest, rfl, hi, hb⟩

/-- A line that names an instruction is neither empty nor a comment. -/
theorem isSignificant_of_names {i : Instruction} {line : Text} (h : Names i line) :
    Script.isSignificant line = true := by
  obtain ⟨word, b, rest, rfl, hw, -⟩ := h
  obtain ⟨c, w, rfl, hc⟩ := hw.exists_initial
  simpa [Script.isSignificant] using initial_ne_hash hc

end Dockgraph.Lint
