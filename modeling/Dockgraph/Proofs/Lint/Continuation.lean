import Dockgraph.Proofs.Lint.Verdict
import Dockgraph.Proofs.Script.Reimport

/-! The linter and continuations. The linter takes every line by itself, be it continued or not, where the importer
joins lines first. A joined line begins as the line that begins it, so a text that the linter accepts stays
acceptable when its lines are joined, unless a `FROM` goes under in a continuation or the last line is left
open. The other way round the linter also wants a keyword at the head of each line that goes on with another. -/

namespace Dockgraph.Lint

open Script (continues joinContinued significantLines logicalLines)

/-! First words. -/

/-- The words begin with `ARG`s and a `FROM`. -/
def BaseFirst (words : List Text) : Prop :=
  ∃ before base after, words = before ++ base :: after ∧ Spells base Instruction.base.keyword ∧
    ∀ w ∈ before, Text.upper w = Instruction.arg.keyword

theorem baseFirst_cons {w : Text} {ws : List Text} :
    BaseFirst (w :: ws) ↔
      Spells w Instruction.base.keyword ∨ Text.upper w = Instruction.arg.keyword ∧ BaseFirst ws := by
  constructor
  · rintro ⟨before, base, after, hsplit, hbase, hbefore⟩
    cases before with
    | nil =>
      obtain ⟨rfl, -⟩ := List.cons.inj hsplit
      exact Or.inl hbase
    | cons x before =>
      obtain ⟨rfl, rfl⟩ := List.cons.inj hsplit
      rw [List.forall_mem_cons] at hbefore
      exact Or.inr ⟨hbefore.1, before, base, after, rfl, hbase, hbefore.2⟩
  · rintro (hbase | ⟨harg, before, base, after, rfl, hbase, hbefore⟩)
    · exact ⟨[], w, ws, rfl, hbase, fun _ h => absurd h List.not_mem_nil⟩
    · exact ⟨w :: before, base, after, rfl, hbase, List.forall_mem_cons.2 ⟨harg, hbefore⟩⟩

/-- Whether statements are acceptable is settled by their first words. -/
theorem acceptable_iff_baseFirst {lines : List Text} (h : ∀ l ∈ lines, ∃ i, Names i l) :
    Acceptable lines ↔ BaseFirst (lines.map Text.firstWord) := by
  constructor
  · rintro ⟨-, before, base, after, rfl, hbase, hbefore⟩
    refine ⟨before.map Text.firstWord, Text.firstWord base, after.map Text.firstWord, by simp,
      (names_iff_firstWord ⟨_, hbase⟩).1 hbase, List.forall_mem_map.2 hbefore⟩
  · rintro ⟨ws, w, vs, hsplit, hw, hws⟩
    obtain ⟨before, rest, rfl, rfl, hrest⟩ := List.map_eq_append_iff.1 hsplit
    obtain ⟨base, after, rfl, rfl, rfl⟩ := List.map_eq_cons_iff.1 hrest
    exact ⟨h, before, base, after, rfl, (names_iff_firstWord (h base (by simp))).2 hw,
      List.forall_mem_map.1 hws⟩

/-- A line that begins with a word and a blank, where the word names an instruction. -/
def Begins (word line : Text) : Prop :=
  ∃ i b rest, Spells word (Instruction.keyword i) ∧ Text.isBlank b = true ∧ line = word ++ b :: rest

theorem begins_firstWord {line : Text} (h : ∃ i, Names i line) : Begins (Text.firstWord line) line := by
  obtain ⟨i, word, b, rest, rfl, hw, hb⟩ := h
  rw [firstWord_of_spells hw hb]
  exact ⟨i, b, rest, hw, hb, rfl⟩

theorem Begins.append {word line : Text} (h : Begins word line) (t : Text) : Begins word (line ++ t) := by
  obtain ⟨i, b, rest, hw, hb, rfl⟩ := h
  exact ⟨i, b, rest ++ t, hw, hb, by simp⟩

/-- A line that goes on loses its backslash, but not the blank after the word. -/
theorem Begins.dropLast {word line : Text} (h : Begins word line) (hc : continues line = true) :
    Begins word line.dropLast := by
  obtain ⟨i, b, rest, hw, hb, rfl⟩ := h
  have hrest : rest ≠ [] := by
    rintro rfl
    have hlast : b = '\\' := by simpa [continues] using hc
    rw [hlast] at hb
    exact absurd hb (by decide)
  refine ⟨i, b, rest.dropLast, hw, hb, ?_⟩
  rw [List.dropLast_append_of_ne_nil (List.cons_ne_nil b rest), List.dropLast_cons_of_ne_nil hrest]

/-- What has more than blanks after a line that begins with a word is a statement with this first word. -/
theorem Begins.trim {word line t : Text} (h : Begins word line) (ht : ∃ c ∈ t, Text.isBlank c = false) :
    Text.firstWord (Text.trim (line ++ t)) = word ∧ ∃ i, Names i (Text.trim (line ++ t)) := by
  obtain ⟨i, b, rest, hw, hb, rfl⟩ := h
  obtain ⟨c, hc, hblank⟩ := ht
  have hmore : ∃ c ∈ rest ++ t, Text.isBlank c = false := ⟨c, List.mem_append_right _ hc, hblank⟩
  rw [List.append_assoc, List.cons_append, Text.trim_word hw.ne_nil hw.isBlank b hmore]
  exact ⟨firstWord_of_spells hw hb _, i, word, b, _, rfl, hw, hb⟩

/-! Lines that begin a joined line. -/

/-- The lines that begin a joined line; the first one does not where it goes on with a line before. -/
def leadingLines (continued : Bool) : List Text → List Text
  | [] => []
  | l :: rest => (if continued then [] else [l]) ++ leadingLines (continues l) rest

/-- No line that goes on with another names `FROM`. -/
def NoBaseContinued (lines : List Text) : Prop :=
  lines.IsChain fun l next => continues l = true → ¬ Names .base next

/-- The last line is not left open. -/
def IsClosed (lines : List Text) : Prop :=
  ∀ l, lines.getLast? = some l → continues l = false

/-- Lines that are passed over and name no `FROM` are not missed. -/
theorem baseFirst_leadingLines {ls : List Text} {continued : Bool} (hrec : ∀ l ∈ ls, ∃ i, Names i l)
    (hbase : NoBaseContinued ls) (hfirst : ∀ l, ls.head? = some l → continued = true → ¬ Names .base l)
    (h : BaseFirst (ls.map Text.firstWord)) :
    BaseFirst ((leadingLines continued ls).map Text.firstWord) := by
  induction ls generalizing continued with
  | nil => exact h
  | cons l rest ih =>
    rw [List.forall_mem_cons] at hrec
    obtain ⟨hnext, hrest⟩ := List.isChain_cons.1 hbase
    have hgo := ih hrec.2 hrest hnext
    rw [List.map_cons, baseFirst_cons] at h
    cases continued with
    | false =>
      rw [leadingLines, if_neg Bool.false_ne_true, List.singleton_append, List.map_cons, baseFirst_cons]
      exact h.imp_right fun ⟨harg, hws⟩ => ⟨harg, hgo hws⟩
    | true =>
      have hno : ¬ Spells (Text.firstWord l) Instruction.base.keyword := fun hw =>
        hfirst l rfl rfl ((names_iff_firstWord hrec.1).2 hw)
      rw [leadingLines, if_pos rfl, List.nil_append]
      exact hgo (h.resolve_left hno).2

theorem IsClosed.tail {l : Text} {rest : List Text} (h : IsClosed (l :: rest)) : IsClosed rest := by
  intro l' hl
  refine h l' ?_
  rw [List.getLast?_cons, hl]
  rfl

/-- The joined lines are statements with the first words of the lines that begin them. -/
theorem joined_of_recognised {ls : List Text} (hls : ∀ l ∈ ls, Text.IsTrimmed l ∧ ∃ i, Names i l)
    (hclosed : IsClosed ls) :
    let joined := (joinContinued [] ls).map Text.trim
    joined.map Text.firstWord = (leadingLines false ls).map Text.firstWord ∧ ∀ l ∈ joined, ∃ i, Names i l := by
  -- what is pending is either nothing or begins with a word, and then some line is to come
  suffices hgen : ∀ (pending : Text) (word? : Option Text),
      (∀ word ∈ word?, Begins word pending ∧ ls ≠ []) → (word? = none → pending = []) →
      ((joinContinued pending ls).map Text.trim).map Text.firstWord =
        word?.toList ++ (leadingLines word?.isSome ls).map Text.firstWord ∧
      ∀ l ∈ (joinContinued pending ls).map Text.trim, ∃ i, Names i l by
    exact hgen [] none (by simp) fun _ => rfl
  induction ls with
  | nil =>
    intro pending word? hword hnone
    cases word? with
    | none =>
      obtain rfl := hnone rfl
      exact ⟨rfl, by simp [joinContinued]⟩
    | some word => exact absurd rfl (hword word rfl).2
  | cons l rest ih =>
    intro pending word? hword hnone
    rw [List.forall_mem_cons] at hls
    obtain ⟨⟨htrim, hl⟩, hrest⟩ := hls
    have hgo := ih hrest hclosed.tail
    rw [joinContinued, leadingLines]
    cases hc : continues l with
    | true =>
      have hne : rest ≠ [] := by
        rintro rfl
        rw [hclosed l rfl] at hc
        cases hc
      rw [if_pos rfl]
      cases word? with
      | none =>
        obtain rfl := hnone rfl
        have hb := ((begins_firstWord hl).dropLast hc).append [' ']
        exact hgo _ (some (Text.firstWord l)) (by rintro _ ⟨rfl⟩; exact ⟨hb, hne⟩) (by simp)
      | some word =>
        have hb := ((hword word rfl).1.append l.dropLast).append [' ']
        exact hgo _ (some word) (by rintro _ ⟨rfl⟩; exact ⟨hb, hne⟩) (by simp)
    | false =>
      obtain ⟨hwords, hnamed⟩ := hgo [] none (by simp) fun _ => rfl
      rw [if_neg Bool.false_ne_true, List.map_cons, List.map_cons, hwords, List.forall_mem_cons]
      cases word? with
      | none =>
        obtain rfl := hnone rfl
        rw [List.nil_append, Text.trim_of_isTrimmed htrim]
        exact ⟨rfl, hl, hnamed⟩
      | some word =>
        have hmore : ∃ c ∈ l, Text.isBlank c = false := by
          obtain ⟨i, w, b, r, rfl, hw, -⟩ := hl
          obtain ⟨c, w, rfl, -⟩ := hw.exists_initial
          exact ⟨c, by simp, hw.isBlank c List.mem_cons_self⟩
        obtain ⟨hfirst, hnames⟩ := (hword word rfl).1.trim hmore
        rw [hfirst]
        exact ⟨rfl, hnames, hnamed⟩

/-! The text of the joined lines. -/

theorem significantLines_unlines_of_oneLine {ls : List Text} (h : ∀ l ∈ ls, '\n' ∉ l) :
    significantLines (Text.unlines ls) = (ls.map Text.trim).filter Script.isSignificant := by
  cases ls with
  | nil => rfl
  | cons l ls => rw [significantLines, Text.lines_unlines (List.cons_ne_nil l ls) h]

theorem logicalLines_of_none_continues {content : Text}
    (h : ∀ l ∈ significantLines content, continues l = false) :
    logicalLines content = significantLines content := by
  have hj := Script.joinContinued_append_of_ends h []
  rw [List.append_nil] at hj
  exact hj.trans (List.append_nil _)

/-- The lines of the text that joins the logical lines of another. -/
theorem significantLines_joined (content : Text) :
    significantLines (Text.unlines (logicalLines content)) =
      ((logicalLines content).map Text.trim).filter Script.isSignificant :=
  significantLines_unlines_of_oneLine fun _ hl => Script.newline_notMem_logicalLines hl

theorem significantLines_joined_of_none_continues {content : Text}
    (h : ∀ l ∈ significantLines content, continues l = false) :
    significantLines (Text.unlines (logicalLines content)) = significantLines content := by
  rw [significantLines_joined, logicalLines_of_none_continues h]
  have htrim : (significantLines content).map Text.trim = (significantLines content).map id :=
    List.map_congr_left fun l hl =>
      Text.trim_of_isTrimmed (Script.isTrimmed_of_mem_significantLines hl).1
  rw [htrim, List.map_id, List.filter_eq_self]
  exact fun l hl => (List.mem_filter.1 hl).2

/-- Acceptable lines are acceptable when they are joined. -/
theorem Acceptable.joined {content : Text} (h : Acceptable (significantLines content))
    (hclosed : IsClosed (significantLines content)) (hbase : NoBaseContinued (significantLines content)) :
    Acceptable (significantLines (Text.unlines (logicalLines content))) := by
  have hls : ∀ l ∈ significantLines content, Text.IsTrimmed l ∧ ∃ i, Names i l :=
    fun l hl => ⟨(Script.isTrimmed_of_mem_significantLines hl).1, h.recognised l hl⟩
  obtain ⟨hwords, hnamed⟩ := joined_of_recognised hls hclosed
  have hall : ((logicalLines content).map Text.trim).filter Script.isSignificant =
      (logicalLines content).map Text.trim := by
    rw [List.filter_eq_self]
    intro l hl
    obtain ⟨i, hi⟩ := hnamed l hl
    exact isSignificant_of_names hi
  rw [significantLines_joined, hall]
  refine (acceptable_iff_baseFirst hnamed).2 ?_
  rw [hwords]
  refine baseFirst_leadingLines h.recognised hbase (by simp) ?_
  exact (acceptable_iff_baseFirst h.recognised).1 h

/-- The verdicts on a text and on its joined lines are those on the lines of each. They are the same where no line
is continued. Otherwise a text that is accepted stays so when its lines are joined, if no line that is continued
comes last or goes on with a `FROM`; and one that is not accepted may become so. -/
theorem verdict_of_joined (content : Text) : ∃ own joined,
    checkDocument content .null = .ok own ∧
    checkDocument (Text.unlines (logicalLines content)) .null = .ok joined ∧
    (own.isValid = true ↔ Acceptable (significantLines content)) ∧
    (joined.isValid = true ↔
      Acceptable (((logicalLines content).map Text.trim).filter Script.isSignificant)) ∧
    ((∀ l ∈ significantLines content, continues l = false) → own.isValid = joined.isValid) ∧
    (IsClosed (significantLines content) → NoBaseContinued (significantLines content) →
      own.isValid = true → joined.isValid = true) := by
  refine ⟨_, _, rfl, rfl, isValid_iff_acceptable, ?_, fun h => ?_, fun hclosed hbase hown => ?_⟩
  · rw [← significantLines_joined]
    exact isValid_iff_acceptable
  · rw [Bool.eq_iff_iff, isValid_iff_acceptable, isValid_iff_acceptable,
      significantLines_joined_of_none_continues h]
  · rw [isValid_iff_acceptable] at hown ⊢
    exact hown.joined hclosed hbase

/-- The linter rejects the second line of a `RUN` that the importer joins with the first. -/
theorem verdict_differs_from_joined : ¬ ∀ content own joined,
    checkDocument content .null = .ok own →
    checkDocument (Text.unlines (logicalLines content)) .null = .ok joined →
    own.isValid = joined.isValid := by
  intro h
  have heq := h "FROM a:1\nRUN b \\\n c".toList _ _ rfl rfl
  exact absurd heq (by decide +kernel)

/-- A `FROM` that goes under in a continuation is one for the linter alone. -/
example : ((checkDocument ("ARG x \\\nFROM b".toList) .null).map fun r => r.isValid) = .ok true ∧
    logicalLines ("ARG x \\\nFROM b".toList) = ["ARG x  FROM b".toList] := by
  decide +kernel

end Dockgraph.Lint
