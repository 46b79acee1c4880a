import Dockgraph.Proofs.Lint.Continuation
import Dockgraph.Proofs.Lint.Generated
import Dockgraph.Proofs.Text.Ascii

/-! The linter and the importer on one line. The linter looks for a keyword up to case and a blank after it, the
importer splits off the first word and looks its upper case up. Where the word is ASCII both find the same instruction
with the same arguments; only the deprecated keyword is one that the importer alone knows. -/

namespace Dockgraph.Lint

open Script (Reading continues significantLines logicalLines ofKeyword?_eq_some_iff parse placeOf specFor)

/-! ASCII words. -/

/-- Of the forms of a letter only its lower case is ASCII. -/
theorem mem_foldForms_iff_of_ascii {k d : Char} (hk : k ∈ letters) (hd : d.toNat < 128) :
    d ∈ Text.foldForms k ↔ d = k.toLower := by
  -- with `all` only the lists are gone through, not every character there is
  have hall : (letters.all fun k => (Text.foldForms k).contains k.toLower &&
      (Text.foldForms k).all fun d => d.toNat < 128 → d = k.toLower) = true := by
    decide +kernel
  simp only [List.all_eq_true, Bool.and_eq_true, List.contains_iff_mem, decide_eq_true_eq] at hall
  constructor
  · exact fun h => (hall k hk).2 d h hd
  · rintro rfl
    exact (hall k hk).1

theorem toLower_eq_iff_of_ascii {k c : Char} (hk : k ∈ letters) (hc : c.toNat < 128) :
    c.toLower.toNat < 128 ∧ (c.toLower = k.toLower ↔ c.toUpper = k) := by
  have hall : ∀ n < 128, (Char.ofNat n).toLower.toNat < 128 ∧
      (letters.all fun k => (Char.ofNat n).toLower = k.toLower ↔ (Char.ofNat n).toUpper = k) = true := by
    decide +kernel
  have hone := Text.of_ascii (P := fun c => c.toLower.toNat < 128 ∧
    (letters.all fun k => c.toLower = k.toLower ↔ c.toUpper = k) = true) hc hall
  exact ⟨hone.1, of_decide_eq_true (List.all_eq_true.1 hone.2 k hk)⟩

theorem sameLetter_iff_of_ascii {k c : Char} (hk : k ∈ letters) (hc : c.toNat < 128) :
    Text.sameLetter k c = true ↔ c.toUpper = k := by
  obtain ⟨hlower, hsame⟩ := toLower_eq_iff_of_ascii hk hc
  rw [Text.sameLetter, List.contains_iff_mem, Text.lowerOne, if_pos hc, mem_foldForms_iff_of_ascii hk hlower, hsame]

theorem spells_iff_of_isAscii {word : Text} (hw : Text.IsAscii word) (i : Instruction) :
    Spells word i.keyword ↔ Text.upper word = i.keyword := by
  suffices hgen : ∀ keyword : Text, (∀ k ∈ keyword, k ∈ letters) →
      (Spells word keyword ↔ word.map Char.toUpper = keyword) by
    rw [Text.upper_eq_map hw]
    exact hgen i.keyword fun k hk => mem_letters i hk
  induction word with
  | nil =>
    intro keyword _
    rw [Spells, List.forall₂_nil_right_iff, List.map_nil]
    exact eq_comm
  | cons c word ih =>
    intro keyword hk
    rw [Text.IsAscii, List.forall_mem_cons] at hw
    rw [Spells, List.forall₂_cons_right_iff, List.map_cons]
    constructor
    · rintro ⟨k, rest, hc, hrest, rfl⟩
      rw [List.forall_mem_cons] at hk
      rw [(sameLetter_iff_of_ascii hk.1 hw.1).1 hc, (ih hw.2 rest hk.2).1 hrest]
    · rintro rfl
      rw [List.forall_mem_cons] at hk
      exact ⟨_, _, (sameLetter_iff_of_ascii hk.1 hw.1).2 rfl, (ih hw.2 _ hk.2).2 rfl, rfl⟩

/-- A trimmed line that says something and begins with an ASCII word. -/
structure HasAsciiWord (line : Text) : Prop where
  trimmed : Text.IsTrimmed line
  nonempty : line ≠ []
  ascii : Text.IsAscii (Text.firstWord line)

/-- The arguments of a line: what comes after the first word. -/
def argumentsOf (line : Text) : Text :=
  Text.trim (Text.afterFirstWord line)

variable {line : Text}

theorem HasAsciiWord.firstWord_ne_nil (h : HasAsciiWord line) : Text.firstWord line ≠ [] := by
  intro h0
  rcases Text.eq_firstWord_or_split h.trimmed with he | ⟨b, rest, he, hb, -⟩
  · exact h.nonempty (he.trans h0)
  · rw [h0, List.nil_append] at he
    have hhead := h.trimmed.1 b (by rw [he]; rfl)
    rw [hb] at hhead
    cases hhead

/-! The linter. -/

theorem afterFirstWord_of_spells {word : Text} {i : Instruction} (h : Spells word i.keyword) {b : Char}
    (hb : Text.isBlank b = true) (rest : Text) :
    Text.trim (b :: rest) = argumentsOf (word ++ b :: rest) := by
  rw [argumentsOf, Text.afterFirstWord_word h.ne_nil h.isBlank hb, Text.trim_trimLeft, Text.trim_blank_cons hb]

/-- A line names the instruction of which its first word is the keyword in upper case, if it has arguments. -/
theorem HasAsciiWord.names_iff (h : HasAsciiWord line) {i : Instruction} :
    Names i line ↔ Text.upper (Text.firstWord line) = i.keyword ∧ Text.afterFirstWord line ≠ [] := by
  rw [← spells_iff_of_isAscii h.ascii]
  rcases Text.eq_firstWord_or_split h.trimmed with he | ⟨b, rest, he, hb, c, hc, hcb⟩
  · have hword : ∀ c ∈ line, Text.isBlank c = false := by
      rw [he]
      exact fun c => Text.isBlank_of_mem_firstWord
    refine iff_of_false ?_ fun hi => hi.2 ?_
    · rintro ⟨word, b, rest, rfl, -, hb⟩
      have hno := hword b (by simp)
      rw [hb] at hno
      cases hno
    · rw [Text.afterFirstWord, Text.trimLeft_of_isTrimmed h.trimmed,
        List.dropWhile_eq_nil_iff.2 fun c hc => by simp [hword c hc]]
      rfl
  · have hafter : Text.afterFirstWord line ≠ [] := by
      rw [he, Text.afterFirstWord_word h.firstWord_ne_nil (fun c => Text.isBlank_of_mem_firstWord) hb, Text.trimLeft,
        Ne, List.dropWhile_eq_nil_iff]
      intro hall
      rw [hall c hc] at hcb
      cases hcb
    rw [and_iff_left hafter]
    constructor
    · exact fun hi => (names_iff_firstWord ⟨i, hi⟩).1 hi
    · exact fun hi => ⟨_, b, rest, he, hi, hb⟩

/-- What the linter makes of a line. -/
theorem HasAsciiWord.recognise?_eq_some_iff (h : HasAsciiWord line) {s : Statement} :
    recognise? line = some s ↔ ∃ i, Names i line ∧ s = ⟨i.keyword, argumentsOf line⟩ := by
  have hone : ∀ i s, statementOf? line i = some s → Names i line ∧ s = ⟨i.keyword, argumentsOf line⟩ := by
    intro i s hs
    have hname : Names i line := isSome_statementOf?.1 (Option.isSome_iff_exists.2 ⟨s, hs⟩)
    obtain ⟨word, b, rest, rfl, hw, hb, rfl⟩ := statementOf?_eq_some_iff.1 hs
    have hupper := (h.names_iff.1 hname).1
    rw [firstWord_of_spells hw hb] at hupper
    rw [hupper, afterFirstWord_of_spells hw hb]
    exact ⟨hname, rfl⟩
  constructor
  · intro hs
    obtain ⟨i, -, hi⟩ := List.exists_of_findSome?_eq_some hs
    exact ⟨i, hone i s hi⟩
  · rintro ⟨i, hi, rfl⟩
    -- some instruction is found, and it can be no other one
    cases hs : recognise? line with
    | none => exact absurd hi (isNone_recognise?.1 (by rw [hs]; rfl) i)
    | some s =>
      obtain ⟨j, -, hj⟩ := List.exists_of_findSome?_eq_some hs
      obtain ⟨hname, rfl⟩ := hone j s hj
      rw [← (h.names_iff.1 hi).1, ← (h.names_iff.1 hname).1]

/-! The importer. -/

theorem HasAsciiWord.resolve?_eq (h : HasAsciiWord line) :
    Instruction.resolve? (Text.upper (Text.firstWord line)) =
      Instruction.ofKeyword? (Text.upper (Text.firstWord line)) := by
  have hne : Text.upper (Text.firstWord line) ≠ [] := by
    rw [Text.upper_eq_map h.ascii, Ne, List.map_eq_nil_iff]
    exact h.firstWord_ne_nil
  have htrim : Text.trim (Text.upper (Text.firstWord line)) = Text.upper (Text.firstWord line) := by
    have hblank := Text.isBlank_of_mem_upper h.ascii fun c => Text.isBlank_of_mem_firstWord
    exact Text.trim_of_isTrimmed ⟨fun c hc => hblank c (List.mem_of_head? hc),
      fun c hc => hblank c (List.mem_of_getLast? hc)⟩
  rw [Instruction.resolve?, if_neg (by simpa using hne), htrim, Text.upper_upper h.ascii]

theorem HasAsciiWord.instruction?_eq (h : HasAsciiWord line) :
    (Reading.ofLine line).instruction? =
      if Text.afterFirstWord line = [] then none
      else (Instruction.ofKeyword? (Text.upper (Text.firstWord line))).map fun i =>
        (specFor i (argumentsOf line), argumentsOf line) := by
  have hsplit : Script.splitInstruction line = if Text.afterFirstWord line = [] then none
      else some (Text.upper (Text.firstWord line), argumentsOf line) := by
    have hnil := Text.trim_afterFirstWord_eq_nil_iff (s := line)
    simp only [Script.splitInstruction, List.isEmpty_iff, hnil, argumentsOf]
  rw [Reading.ofLine, hsplit]
  split_ifs with hargs
  · rfl
  · dsimp only
    rw [h.resolve?_eq]
    cases Instruction.ofKeyword? (Text.upper (Text.firstWord line)) <;> rfl

/-- What the importer makes of a line. -/
theorem HasAsciiWord.instruction?_eq_some_iff (h : HasAsciiWord line) {x : Spec × Text} :
    (Reading.ofLine line).instruction? = some x ↔
      Text.afterFirstWord line ≠ [] ∧ ∃ i : Instruction, (Text.upper (Text.firstWord line) = i.keyword ∨
        Text.upper (Text.firstWord line) = Instruction.maintainer ∧ i = .label) ∧
      (specFor i (argumentsOf line), argumentsOf line) = x := by
  simp only [h.instruction?_eq, Option.ite_none_left_eq_some, Option.map_eq_some_iff, ofKeyword?_eq_some_iff, ne_eq]

/-! Lines of a text. -/

/-- The check reports the line of this number as no statement. -/
def Result.Reports (result : Result) (number : Nat) : Prop :=
  ∃ x ∈ result.issues, x.line = number ∧ IsInvalidMessage x.message

instance (result : Result) (number : Nat) : Decidable (result.Reports number) :=
  inferInstanceAs (Decidable (∃ x ∈ result.issues, x.line = number ∧
    "Invalid Dockerfile instruction: ".toList <+: x.message))

variable {content : Text}

theorem eq_of_mem_significant {l l' : Numbered} (hl : l ∈ significant content) (hl' : l' ∈ significant content)
    (h : l.number = l'.number) : l = l' := by
  have hline := (mem_significant.1 hl).1.2
  rw [h, (mem_significant.1 hl').1.2, Option.some.injEq] at hline
  cases l
  cases l'
  cases h
  cases hline
  rfl

theorem reports_iff (custom : List CustomRule) {l : Numbered} (hl : l ∈ significant content) :
    (checkWith custom content).Reports l.number ↔ ∀ i, ¬ Names i l.line := by
  constructor
  · rintro ⟨x, hx, hline, hmessage⟩
    rcases mem_issuesOf.1 hx with hx | hx
    · obtain ⟨l', hl', hnone, rfl⟩ := mem_invalidIssues.1 hx
      rwa [eq_of_mem_significant hl hl' hline.symm]
    · exact absurd hmessage (not_isInvalidMessage_of_placement (ascending_significant content) hx)
  · intro hnone
    exact ⟨invalidInstruction l, mem_issuesOf.2 (Or.inl (mem_invalidIssues.2 ⟨l, hl, hnone, rfl⟩)), rfl,
      List.prefix_append _ _⟩

/-- A node that was made of the significant line with the given index: it stands at the place of that line. -/
def IsMadeOf (content : Text) (ids : IdSource) (index : Nat) (n : Node) : Prop :=
  n ∈ (parse content ids).1.nodes.items ∧ n.position = placeOf index

/-- Where no line is continued a line has a node if it is read as an instruction, and that node shows it. -/
theorem exists_isMadeOf_iff (hwhole : ∀ l ∈ significantLines content, continues l = false) (ids : IdSource)
    {index : Nat} {l : Numbered} (hl : (significant content)[index]? = some l) (P : Node → Prop) :
    (∃ n, IsMadeOf content ids index n ∧ P n.unnamed) ↔
      ∃ x, (Reading.ofLine l.line).instruction? = some x ∧ P (Script.placedNode index x) := by
  have hline : (logicalLines content)[index]? = some l.line := by
    rw [logicalLines_of_none_continues hwhole, ← map_line_significant, List.getElem?_map, hl]
    rfl
  constructor
  · rintro ⟨n, ⟨hn, hplace⟩, hP⟩
    obtain ⟨k, line, x, hk, hx, he⟩ := Script.exists_line_of_mem_parse hn
    obtain rfl : k = index := Script.placeOf_inj ((congrArg Node.position he).symm.trans hplace)
    obtain rfl : line = l.line := Option.some.inj (hk.symm.trans hline)
    exact ⟨x, hx, he ▸ hP⟩
  · rintro ⟨x, hx, hP⟩
    obtain ⟨n, hn, he⟩ := Script.exists_mem_parse_of_line ids hline hx
    exact ⟨n, ⟨hn, congrArg Node.position he⟩, he.symm ▸ hP⟩

/-- Where no line is continued and all first words are ASCII, every node is made of one line, every line makes one node
at most, and it makes one exactly if the linter does not report it or it is a deprecated label. A line that the linter
does not report shows in its node with the keyword and the arguments that the advice is about. -/
theorem importer_agrees_with_linter (hwhole : ∀ l ∈ significantLines content, continues l = false)
    (hascii : ∀ l ∈ significantLines content, Text.IsAscii (Text.firstWord l)) {rules : Json} {result : Result}
    (h : checkDocument content rules = .ok result) (ids : IdSource) :
    (∀ n ∈ (parse content ids).1.nodes.items,
      ∃ index < (significant content).length, IsMadeOf content ids index n) ∧
    ∀ (index : Nat) (l : Numbered), (significant content)[index]? = some l →
      ((∃ n, IsMadeOf content ids index n) ↔ ¬ result.Reports l.number ∨
        Text.upper (Text.firstWord l.line) = Instruction.maintainer ∧ Text.afterFirstWord l.line ≠ []) ∧
      (∀ n m, IsMadeOf content ids index n → IsMadeOf content ids index m → n = m) ∧
      (¬ result.Reports l.number → ∃ n, IsMadeOf content ids index n ∧
        ∃ s, recognise? l.line = some s ∧ n.keyword = .text s.keyword ∧ n.arguments = .text s.arguments ∧
          ∀ custom, lineSuggestions custom l =
            ((Advice.forStatement s : List Text) ++ (custom.filter (·.applies l.line s)).map (·.remark)).map
              (lineRemark l.number)) := by
  obtain ⟨custom, rfl⟩ := exists_checkWith_of_checkDocument h
  refine ⟨fun n hn => ?made, fun index l hl => ?line⟩
  case made =>
    obtain ⟨k, line, x, hk, -, he⟩ := Script.exists_line_of_mem_parse hn
    have hlt := (List.getElem?_eq_some_iff.1 hk).1
    rw [logicalLines_of_none_continues hwhole, ← map_line_significant, List.length_map] at hlt
    exact ⟨k, hlt, hn, congrArg Node.position he⟩
  case line =>
    have hmem : l ∈ significant content := List.mem_of_getElem? hl
    have hline : l.line ∈ significantLines content := map_line_significant content ▸ List.mem_map_of_mem hmem
    have hword : HasAsciiWord l.line :=
      ⟨(Script.isTrimmed_of_mem_significantLines hline).1, (Script.isTrimmed_of_mem_significantLines hline).2,
        hascii l.line hline⟩
    have hreports : ¬ (checkWith custom content).Reports l.number ↔ ∃ i, Names i l.line := by
      rw [reports_iff custom hmem, not_forall_not]
    rw [hreports]
    refine ⟨?node, fun n m hn hm => ?one, ?shown⟩
    case node =>
      have hiff := exists_isMadeOf_iff hwhole ids hl fun _ => True
      simp only [and_true] at hiff
      simp only [hiff, hword.instruction?_eq_some_iff, hword.names_iff]
      constructor
      · rintro ⟨x, hargs, i, hi | ⟨hm, -⟩, -⟩
        · exact Or.inl ⟨i, hi, hargs⟩
        · exact Or.inr ⟨hm, hargs⟩
      · rintro (⟨i, hi, hargs⟩ | ⟨hm, hargs⟩)
        · exact ⟨_, hargs, i, Or.inl hi, rfl⟩
        · exact ⟨_, hargs, .label, Or.inr ⟨hm, rfl⟩, rfl⟩
    case one => exact Script.eq_of_position_parse hn.1 hm.1 (hn.2.trans hm.2.symm)
    case shown =>
      rintro ⟨i, hi⟩
      have hs : recognise? l.line = some ⟨i.keyword, argumentsOf l.line⟩ :=
        hword.recognise?_eq_some_iff.2 ⟨i, hi, rfl⟩
      obtain ⟨hupper, hargs⟩ := hword.names_iff.1 hi
      obtain ⟨n, hn, hkeyword, harguments⟩ := (exists_isMadeOf_iff hwhole ids hl fun n =>
        n.keyword = .text i.keyword ∧ n.arguments = .text (argumentsOf l.line)).2
        ⟨_, hword.instruction?_eq_some_iff.2 ⟨hargs, i, Or.inl hupper, rfl⟩,
          congrArg (fun j : Instruction => Json.text j.keyword) (Script.instruction_specFor i _), rfl⟩
      refine ⟨n, hn, _, hs, hkeyword, harguments, fun custom => ?_⟩
      rw [lineSuggestions, hs]

/-- Tabs and wide blanks part a keyword from its arguments, a longer word or a bare keyword is none, and the
deprecated label is one for the importer only. -/
theorem importer_agrees_mixed :
    let content := "from\ta:1\n#c\nMaintainer me\nCOPYX a\nRUN\n run\u2003b ".toList
    let ids := IdSource.ofSession "s".toList
    (∀ l ∈ significantLines content, continues l = false) ∧
    (∀ l ∈ significantLines content, Text.IsAscii (Text.firstWord l)) ∧
    ∃ result, checkDocument content .null = .ok result ∧
      (∃ n, IsMadeOf content ids 1 n) ∧ (¬ ∃ n, IsMadeOf content ids 2 n) ∧ (¬ ∃ n, IsMadeOf content ids 3 n) ∧
      ∃ n, IsMadeOf content ids 4 n ∧ n.keyword = .text "RUN".toList ∧ n.arguments = .text "b".toList := by
  intro content ids
  have hwhole : ∀ l ∈ significantLines content, continues l = false := by decide +kernel
  have hascii : ∀ l ∈ significantLines content, Text.IsAscii (Text.firstWord l) := by decide +kernel
  have hall := (@importer_agrees_with_linter content hwhole hascii .null _ rfl ids).2
  have hlines : significant content = [⟨1, "from\ta:1".toList⟩, ⟨3, "Maintainer me".toList⟩, ⟨4, "COPYX a".toList⟩,
    ⟨5, "RUN".toList⟩, ⟨6, "run\u2003b".toList⟩] := by decide +kernel
  refine ⟨hwhole, hascii, _, rfl, ?_, ?_, ?_, ?_⟩
  · exact (hall 1 ⟨3, "Maintainer me".toList⟩ (by rw [hlines]; rfl)).1.2 (by decide +kernel)
  · exact fun hn => absurd ((hall 2 ⟨4, "COPYX a".toList⟩ (by rw [hlines]; rfl)).1.1 hn) (by decide +kernel)
  · exact fun hn => absurd ((hall 3 ⟨5, "RUN".toList⟩ (by rw [hlines]; rfl)).1.1 hn) (by decide +kernel)
  · obtain ⟨n, hn, s, hs, hkeyword, harguments, -⟩ :=
      (hall 4 ⟨6, "run\u2003b".toList⟩ (by rw [hlines]; rfl)).2.2 (by decide +kernel)
    obtain rfl : (⟨"RUN".toList, "b".toList⟩ : Statement) = s :=
      Option.some.inj ((by decide +kernel : some _ = recognise? "run\u2003b".toList).trans hs)
    exact ⟨n, hn, hkeyword, harguments⟩

end Dockgraph.Lint
