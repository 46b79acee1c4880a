import Dockgraph.Proofs.Script.RoundTrip

/-! A Dockerfile that is imported, written and imported again. The arguments of an instruction end in a
backslash only where the text ends inside a continuation, so they are the last ones; written at the end of
a Dockerfile they are a continuation again and lose the backslash. All other arguments come back as they
are, and so does the whole graph where the text that is written does not end in a backslash. -/

namespace Dockgraph.Script

/-! The ends of logical lines. -/

/-- The line ends in a character that neither the trimming nor the joining of lines touches. -/
def EndsFirmly (line : Text) : Prop :=
  ∃ c, line.getLast? = some c ∧ Text.isBlank c = false ∧ c ≠ '\\'

theorem isTrimmed_of_mem_significantLines {content l : Text} (h : l ∈ significantLines content) :
    Text.IsTrimmed l ∧ l ≠ [] := by
  rw [significantLines, List.mem_filter, List.mem_map] at h
  obtain ⟨⟨s, -, rfl⟩, hs⟩ := h
  refine ⟨Text.isTrimmed_trim s, ?_⟩
  intro hne
  simp [isSignificant, hne] at hs

theorem endsFirmly_append {l : Text} (ht : Text.IsTrimmed l) (hne : l ≠ []) (hl : continues l = false)
    (pending : Text) : EndsFirmly (pending ++ l) := by
  have hlast := List.getLast?_eq_some_getLast hne
  refine ⟨l.getLast hne, ?_, ht.2 _ hlast, ?_⟩
  · rw [List.getLast?_append, hlast]
    rfl
  · intro hb
    rw [continues, hlast, hb] at hl
    exact absurd hl (by decide)

/-- Only the line that is pending when the text ends may end in a blank. -/
theorem joinContinued_eq_append (pending : Text) {ls : List Text}
    (h : ∀ l ∈ ls, Text.IsTrimmed l ∧ l ≠ []) :
    ∃ (whole : List Text) (open? : Option Text),
      joinContinued pending ls = whole ++ open?.toList ∧ ∀ l ∈ whole, EndsFirmly l := by
  induction ls generalizing pending with
  | nil =>
    rw [joinContinued]
    split_ifs
    · exact ⟨[], none, rfl, by simp⟩
    · exact ⟨[], some pending, rfl, by simp⟩
  | cons l ls ih =>
    have hrest := fun p => ih p fun l' hl => h l' (List.mem_cons_of_mem _ hl)
    rw [joinContinued]
    split_ifs with hc
    · exact hrest _
    · obtain ⟨whole, open?, hj, hw⟩ := hrest []
      obtain ⟨ht, hne⟩ := h l List.mem_cons_self
      refine ⟨(pending ++ l) :: whole, open?, by rw [hj, List.cons_append], ?_⟩
      intro l' hl
      rcases List.mem_cons.1 hl with rfl | hl
      · exact endsFirmly_append ht hne (by simpa using hc) pending
      · exact hw l' hl

/-! The ends of arguments. -/

theorem continues_arguments {line : Text} (hl : EndsFirmly line) {i : Spec × Text}
    (h : (Reading.ofLine line).instruction? = some i) : continues i.2 = false := by
  obtain ⟨c, hlast, hblank, hc⟩ := hl
  obtain ⟨ha, hne⟩ := arguments_of_ofLine h
  have hrest : Text.afterFirstWord line ≠ [] := by
    intro h0
    rw [ha, h0] at hne
    exact hne rfl
  have hend := (Text.getLast?_of_suffix (Text.afterFirstWord_suffix line) hrest).trans hlast
  rw [continues, ha, Text.getLast?_trim hend hblank]
  simpa using hc

/-- Only the arguments of the last instruction may end in a backslash. -/
theorem instructions_eq_append (content : Text) :
    ∃ (above : List (Spec × Text)) (last? : Option (Spec × Text)),
      instructions content = above ++ last?.toList ∧ ∀ i ∈ above, continues i.2 = false := by
  obtain ⟨whole, open?, hj, hw⟩ := joinContinued_eq_append []
    fun l (hl : l ∈ significantLines content) => isTrimmed_of_mem_significantLines hl
  refine ⟨whole.filterMap fun line => (Reading.ofLine line).instruction?,
    open?.bind fun line => (Reading.ofLine line).instruction?, ?_, ?_⟩
  · rw [instructions, logicalLines, hj, List.filterMap_append]
    cases open? with
    | none => rfl
    | some line => cases hr : (Reading.ofLine line).instruction? <;> simp [hr]
  · intro i hi
    obtain ⟨line, hl, hr⟩ := List.mem_filterMap.1 hi
    exact continues_arguments (hw line hl) hr

/-! Instructions that are written. -/

/-- The instruction and the arguments that a line is written with. -/
def entryOf (i : Spec × Text) : Instruction × Text :=
  (i.1.instruction, i.2)

theorem written_entryOf (i : Spec × Text) : written (entryOf i) = lineOf i := rfl

theorem map_written (is : List (Spec × Text)) : (is.map entryOf).map written = is.map lineOf :=
  List.map_map

variable {content : Text}

/-- The use of an instruction is settled by the instruction and its arguments. -/
theorem eq_specFor {i : Spec × Text} (h : i ∈ instructions content) :
    i = (specFor i.1.instruction i.2, i.2) := by
  obtain ⟨line, -, hr⟩ := List.mem_filterMap.1 h
  unfold Reading.ofLine at hr
  split at hr
  · cases hr
  · split at hr
    · cases hr
    · next instruction _ =>
      rw [← Option.some.inj hr, instruction_specFor]

theorem isWritable_arguments {i : Spec × Text} (h : i ∈ instructions content)
    (he : continues i.2 = false) : IsWritable i.2 :=
  ⟨arguments_ne_nil h, isTrimmed_arguments h, newline_notMem_arguments h, he⟩

/-- Lines that are written and read come back, where no arguments end in a backslash. -/
theorem filterMap_lineOf {is : List (Spec × Text)} (h : ∀ i ∈ is, i ∈ instructions content)
    (he : ∀ i ∈ is, continues i.2 = false) :
    (is.map lineOf).filterMap (fun line => (Reading.ofLine line).instruction?) = is := by
  have hw : ∀ i ∈ is.map entryOf, IsWritable i.2 := by
    intro i hi
    obtain ⟨j, hj, rfl⟩ := List.mem_map.1 hi
    exact isWritable_arguments (h j hj) (he j hj)
  rw [← map_written, filterMap_written hw, List.map_map]
  conv_rhs => rw [← List.map_id is]
  exact List.map_congr_left fun i hi => (eq_specFor (h i hi)).symm

theorem lineOf_ne_nil (i : Spec × Text) : lineOf i ≠ [] := by
  simp [lineOf]

theorem canonical_inj {content' : Text} :
    canonical content = canonical content' ↔
      (instructions content).map lineOf = (instructions content').map lineOf := by
  have hlines : ∀ t : Text, ∀ l ∈ (instructions t).map lineOf, l ≠ [] ∧ '\n' ∉ l := by
    intro t l hl
    obtain ⟨i, hi, rfl⟩ := List.mem_map.1 hl
    exact ⟨lineOf_ne_nil i, (isLine_lineOf hi).oneLine⟩
  constructor
  · exact Text.unlines_inj_of_ne_nil (hlines content) (hlines content')
  · intro h
    rw [canonical, canonical, h]

/-! The second import. -/

theorem logicalLines_canonical {above : List (Spec × Text)} {last? : Option (Spec × Text)}
    (hi : instructions content = above ++ last?.toList) (he : ∀ i ∈ above, continues i.2 = false) :
    logicalLines (canonical content) =
      above.map lineOf ++ joinContinued [] (last?.toList.map lineOf) := by
  have hl : ∀ l ∈ (instructions content).map lineOf, IsLine l := by
    intro l hl
    obtain ⟨i, hm, rfl⟩ := List.mem_map.1 hl
    exact isLine_lineOf hm
  have hends : ∀ l ∈ above.map lineOf, continues l = false := by
    intro l hl
    obtain ⟨i, hm, rfl⟩ := List.mem_map.1 hl
    have hin : i ∈ instructions content := by simp [hi, hm]
    rw [← written_entryOf, continues, entryOf, getLast?_written _ (arguments_ne_nil hin)]
    exact he i hm
  rw [logicalLines, canonical, significantLines_unlines hl, hi, List.map_append,
    joinContinued_append_of_ends hends]

theorem instructions_canonical (h : ∀ i ∈ instructions content, continues i.2 = false) :
    instructions (canonical content) = instructions content := by
  have hi : instructions content = instructions content ++ (none : Option (Spec × Text)).toList :=
    (List.append_nil _).symm
  rw [instructions, logicalLines_canonical hi h]
  simp only [Option.toList_none, List.map_nil, joinContinued, List.isEmpty_nil, if_true, List.append_nil]
  exact filterMap_lineOf (fun _ => id) h

/-- A line that loses its backslash is not read as the instruction that it was. -/
theorem lineOf_ne_of_continues {i j : Spec × Text} (hi : continues i.2 = true)
    (hj : (Reading.ofLine ((lineOf i).dropLast ++ [' '])).instruction? = some j) :
    lineOf j ≠ lineOf i := by
  obtain ⟨b, a, hba⟩ : ∃ b a, i.2 = a ++ [b] := by
    have hne : i.2 ≠ [] := by
      intro h0
      simp [continues, h0] at hi
    exact ⟨_, _, (List.dropLast_append_getLast hne).symm⟩
  have hb : b = '\\' := by simpa [continues, hba] using hi
  have hline : (lineOf i).dropLast ++ [' '] = i.1.instruction.keyword ++ ' ' :: (a ++ [' ']) := by
    rw [lineOf, hba, ← List.cons_append, ← List.append_assoc, List.dropLast_concat, List.append_assoc,
      List.cons_append]
  have hargs := (arguments_of_ofLine hj).1
  rw [hline, Text.afterFirstWord_word i.1.instruction.keyword_ne_nil (isBlank_of_mem_keyword _)
    Text.isBlank_space] at hargs
  intro he
  have hblank : ∀ k : Instruction, ' ' ∉ k.keyword :=
    fun k hk => absurd (isBlank_of_mem_keyword k _ hk) (by decide)
  have heq : j.2 = a ++ [b] :=
    hba ▸ (Text.append_cons_inj_of_notMem_left (hblank _) (hblank _) he).2
  -- the arguments lie within what is one as long but ends in a blank
  have hpart : a ++ [b] <:+: a ++ [' '] :=
    heq ▸ hargs ▸ (Text.isPart_trim _).trans (List.dropWhile_suffix _).isInfix
  have hlast := List.append_cancel_left (hpart.eq_of_length (by simp))
  rw [hb] at hlast
  exact absurd hlast (by decide)

theorem canonical_canonical_ne {above : List (Spec × Text)} {last : Spec × Text}
    (hi : instructions content = above ++ [last]) (he : ∀ i ∈ above, continues i.2 = false)
    (hl : continues last.2 = true) : canonical (canonical content) ≠ canonical content := by
  have hne : last.2 ≠ [] := by
    intro h0
    simp [continues, h0] at hl
  have hlast : continues (lineOf last) = true := by
    rw [← written_entryOf, continues, entryOf, getLast?_written _ hne]
    exact hl
  have hopen : joinContinued [] [lineOf last] = [(lineOf last).dropLast ++ [' ']] := by
    simp [joinContinued, hlast]
  have hi' : instructions content = above ++ (some last).toList := hi
  have habove : ∀ i ∈ above, i ∈ instructions content := fun i hm => by simp [hi, hm]
  have hagain : instructions (canonical content) =
      above ++ (Reading.ofLine ((lineOf last).dropLast ++ [' '])).instruction?.toList := by
    rw [instructions, logicalLines_canonical hi' he, List.filterMap_append, filterMap_lineOf habove he]
    simp only [Option.toList_some, List.map_cons, List.map_nil, hopen]
    cases hr : (Reading.ofLine ((lineOf last).dropLast ++ [' '])).instruction? <;> simp [hr]
  rw [Ne, canonical_inj, hagain, hi, List.map_append, List.map_append]
  intro heq
  have hrest := List.append_cancel_left heq
  cases hr : (Reading.ofLine ((lineOf last).dropLast ++ [' '])).instruction? with
  | none => simp [hr] at hrest
  | some j =>
    have hsame : lineOf j = lineOf last := by simpa [hr] using hrest
    exact lineOf_ne_of_continues hl hr hsame

/-- What an import renders to ends as the last arguments do. -/
theorem getLast?_canonical {above : List (Spec × Text)} {last : Spec × Text}
    (hi : instructions content = above ++ [last]) :
    (canonical content).getLast? = last.2.getLast? := by
  have hin : last ∈ instructions content := by simp [hi]
  rw [canonical, hi, List.map_append, List.map_singleton, Text.getLast?_unlines_snoc _ (lineOf_ne_nil last),
    ← written_entryOf]
  exact getLast?_written _ (arguments_ne_nil hin)

theorem getLast?_canonical_ne (h : ∀ i ∈ instructions content, continues i.2 = false) :
    (canonical content).getLast? ≠ some '\\' := by
  rcases List.eq_nil_or_concat (instructions content) with h0 | ⟨above, last, hi⟩
  · simp [canonical, h0, Text.unlines, Text.joinWith]
  · rw [List.concat_eq_append] at hi
    have hl := h last (by simp [hi])
    rw [getLast?_canonical hi]
    simpa [continues] using hl

/-- Either all arguments survive, or the last ones do not and end in a backslash. -/
theorem all_end_or_last_continues (content : Text) :
    (∀ i ∈ instructions content, continues i.2 = false) ∨
    ∃ above last, instructions content = above ++ [last] ∧ (∀ i ∈ above, continues i.2 = false) ∧
      continues last.2 = true := by
  obtain ⟨above, last?, hi, he⟩ := instructions_eq_append content
  cases last? with
  | none =>
    rw [Option.toList_none, List.append_nil] at hi
    exact Or.inl (hi ▸ he)
  | some last =>
    cases hl : continues last.2 with
    | true => exact Or.inr ⟨above, last, hi, he, hl⟩
    | false =>
      refine Or.inl fun i hm => ?_
      rw [hi, List.mem_append] at hm
      rcases hm with hm | hm
      · exact he i hm
      · rw [List.mem_singleton.1 hm, hl]

theorem instructions_of_canonical_canonical (h : canonical (canonical content) = canonical content) :
    instructions (canonical content) = instructions content := by
  rcases all_end_or_last_continues content with he | ⟨above, last, hi, he, hl⟩
  · exact instructions_canonical he
  · exact absurd h (canonical_canonical_ne hi he hl)

theorem canonical_canonical_iff (content : Text) :
    canonical (canonical content) = canonical content ↔ (canonical content).getLast? ≠ some '\\' := by
  rcases all_end_or_last_continues content with he | ⟨above, last, hi, he, hl⟩
  · have hsame : canonical (canonical content) = canonical content := by
      rw [canonical_inj, instructions_canonical he]
    exact iff_of_true hsame (getLast?_canonical_ne he)
  · refine iff_of_false (canonical_canonical_ne hi he hl) ?_
    rw [getLast?_canonical hi, not_not]
    simpa [continues] using hl

/-- Arguments that are a backslash alone are lost with their line. -/
example : canonical "FROM a\nRUN \\\\" = "FROM a\nRUN \\".toList ∧
    canonical "FROM a\nRUN \\" = "FROM a".toList := by
  decide +kernel

/-! Graphs. -/

/-- What nodes show tells the lines that they are written as. -/
theorem map_lineOf_of_map_bareNode {is js : List (Spec × Text)} (hi : ∀ i ∈ is, i.2 ≠ []) (hj : ∀ j ∈ js, j.2 ≠ [])
    (h : is.map bareNode = js.map bareNode) : is.map lineOf = js.map lineOf := by
  have hl := congrArg (List.filterMap Node.line?) h
  have line : ∀ ks : List (Spec × Text), (∀ k ∈ ks, k.2 ≠ []) →
      (ks.map bareNode).filterMap Node.line? = ks.map lineOf := by
    intro ks hk
    refine filterMap_line? ?_
    rw [List.map_map, List.map_map]
    exact List.map_congr_left fun k hm => line?_bareNode (hk k hm)
  rwa [line is hi, line js hj] at hl

/-- The Dockerfile of an import is imported to itself exactly where it does not end in a backslash, and
exactly then the second import makes the same nodes as the first, ids and places apart. -/
theorem reimport_stable_iff (content : Text) (ids ids' : IdSource) :
    let first := (parse content ids).1
    let second := (parse first.text ids').1
    (second.text = first.text ↔ first.text.getLast? ≠ some '\\') ∧
    (second.text = first.text ↔ second.nodes.items.map Node.bare = first.nodes.items.map Node.bare) := by
  dsimp only
  rw [text_parse content ids, text_parse (canonical content) ids', bare_parse content ids,
    bare_parse (canonical content) ids']
  refine ⟨canonical_canonical_iff content, fun h => ?_, fun h => ?_⟩
  · rw [instructions_of_canonical_canonical h]
  · rw [canonical_inj]
    exact map_lineOf_of_map_bareNode (fun _ => arguments_ne_nil) (fun _ => arguments_ne_nil) h

end Dockgraph.Script
