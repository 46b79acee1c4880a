import Dockgraph.Proofs.Script.Import
import Dockgraph.Proofs.Text.Lines

/-! Dockerfiles put one after the other. What the joining of lines carries from one line to the next is the text that is
pending, which is empty exactly if the last line that says something does not end in a backslash. So the logical lines
of two Dockerfiles are those of the first and those of the second, except that an open last line of the first and the
first line of the second are one line. -/

namespace Dockgraph.Script

/-- The lines that are whole, and what is pending after them. -/
def gather (pending : Text) : List Text → List Text × Text
  | [] => ([], pending)
  | line :: rest =>
    if continues line then gather (pending ++ line.dropLast ++ [' ']) rest
    else ((pending ++ line) :: (gather [] rest).1, (gather [] rest).2)

/-- Whether the last line that says something is to be continued. -/
def endsOpen (content : Text) : Bool :=
  (significantLines content).getLast?.any continues

/-- What is pending is all that the joining carries over. -/
theorem joinContinued_append (pending : Text) (xs ys : List Text) :
    joinContinued pending (xs ++ ys) = (gather pending xs).1 ++ joinContinued (gather pending xs).2 ys := by
  induction xs generalizing pending with
  | nil => rfl
  | cons x xs ih =>
    rw [List.cons_append, joinContinued, gather]
    split_ifs
    · exact ih _
    · rw [ih []]
      rfl

theorem joinContinued_eq_gather (pending : Text) (xs : List Text) :
    joinContinued pending xs = (gather pending xs).1 ++ joinContinued (gather pending xs).2 [] := by
  rw [← joinContinued_append, List.append_nil]

theorem gather_append (pending : Text) (xs ys : List Text) :
    gather pending (xs ++ ys) =
      ((gather pending xs).1 ++ (gather (gather pending xs).2 ys).1, (gather (gather pending xs).2 ys).2) := by
  induction xs generalizing pending with
  | nil => rfl
  | cons x xs ih =>
    rw [List.cons_append, gather, gather]
    split_ifs
    · exact ih _
    · rw [ih []]
      rfl

/-- Something is pending after an open line, if only a space, and after no other. -/
theorem gather_snd_eq_nil_iff {xs : List Text} : (gather [] xs).2 = [] ↔ xs.getLast?.any continues = false := by
  rcases List.eq_nil_or_concat xs with rfl | ⟨init, last, rfl⟩
  · exact iff_of_true rfl rfl
  · rw [List.concat_eq_append, gather_append, List.getLast?_concat, gather, Option.any_some]
    split_ifs with h
    · simp [gather, h]
    · simp [gather, h]

theorem joinContinued_eq_nil_iff {pending : Text} {ys : List Text} :
    joinContinued pending ys = [] ↔ pending = [] ∧ ys = [] := by
  induction ys generalizing pending with
  | nil => simp [joinContinued]
  | cons y ys ih =>
    rw [joinContinued]
    split_ifs
    · simp [ih]
    · simp

/-- What was pending before stands at the head of the first line. -/
theorem joinContinued_of_pending {pending first : Text} {ys rest : List Text} (before : Text)
    (h : joinContinued pending ys = first :: rest) :
    joinContinued (before ++ pending) ys = (before ++ first) :: rest := by
  induction ys generalizing pending with
  | nil =>
    rw [joinContinued] at h ⊢
    split_ifs at h with hempty
    obtain ⟨rfl, rfl⟩ := List.cons.inj h
    rw [if_neg]
    simp at hempty ⊢
    exact fun _ => hempty
  | cons y ys ih =>
    rw [joinContinued] at h ⊢
    split_ifs at h ⊢ with hc
    · rw [List.append_assoc, List.append_assoc, ← List.append_assoc pending]
      exact ih h
    · obtain ⟨rfl, rfl⟩ := List.cons.inj h
      rw [List.append_assoc]

theorem significantLines_append_newline (a b : Text) :
    significantLines (a ++ '\n' :: b) = significantLines a ++ significantLines b := by
  rw [significantLines, Text.lines_append_newline, List.map_append, List.filter_append]
  rfl

theorem logicalLines_append_newline (a b : Text) :
    logicalLines (a ++ '\n' :: b) =
      (gather [] (significantLines a)).1 ++ joinContinued (gather [] (significantLines a)).2 (significantLines b) := by
  rw [logicalLines, significantLines_append_newline, joinContinued_append]

/-- An open line goes on with the first line of what follows. -/
theorem logicalLines_seam {a b first : Text} {rest : List Text} (ha : endsOpen a = true)
    (hb : logicalLines b = first :: rest) :
    ∃ whole last, logicalLines a = whole ++ [last] ∧
      logicalLines (a ++ '\n' :: b) = whole ++ (last ++ first) :: rest := by
  have hpending : (gather [] (significantLines a)).2 ≠ [] := fun h =>
    Bool.false_ne_true ((gather_snd_eq_nil_iff.1 h).symm.trans ha)
  refine ⟨(gather [] (significantLines a)).1, (gather [] (significantLines a)).2, ?_, ?_⟩
  · rw [logicalLines, joinContinued_eq_gather, joinContinued, if_neg (by simpa using hpending)]
  · have hjoined := joinContinued_of_pending (gather [] (significantLines a)).2 hb
    rw [List.append_nil] at hjoined
    rw [logicalLines_append_newline, hjoined]

/-- Where no line is open, or nothing follows, the lines stay apart. -/
theorem logicalLines_apart {a b : Text} (h : endsOpen a = false ∨ logicalLines b = []) :
    logicalLines (a ++ '\n' :: b) = logicalLines a ++ logicalLines b := by
  rw [logicalLines_append_newline]
  rcases h with ha | hb
  · have hpending := gather_snd_eq_nil_iff.2 ha
    rw [logicalLines, joinContinued_eq_gather [] (significantLines a), hpending, logicalLines]
    simp [joinContinued]
  · have hnone := (joinContinued_eq_nil_iff.1 hb).2
    rw [hb, hnone, logicalLines, ← joinContinued_eq_gather, List.append_nil]

/-- The logical lines of two Dockerfiles, one after the other, are those of both, and so are the nodes that an import
makes, their ids and places apart. Only where the first ends in an open line and the second has a line at all are the
last line of the first and the first line of the second joined to one. -/
theorem logicalLines_of_two (a b : Text) :
    (endsOpen a = true → ∀ first rest, logicalLines b = first :: rest →
      ∃ whole last, logicalLines a = whole ++ [last] ∧
        logicalLines (a ++ '\n' :: b) = whole ++ (last ++ first) :: rest) ∧
    (endsOpen a = false ∨ logicalLines b = [] →
      logicalLines (a ++ '\n' :: b) = logicalLines a ++ logicalLines b ∧
      ∀ ids idsA idsB,
        (parse (a ++ '\n' :: b) ids).1.nodes.items.map Node.bare =
          (parse a idsA).1.nodes.items.map Node.bare ++ (parse b idsB).1.nodes.items.map Node.bare) := by
  refine ⟨fun ha first rest hb => logicalLines_seam ha hb, fun h => ?_⟩
  have hlines := logicalLines_apart h
  refine ⟨hlines, fun ids idsA idsB => ?_⟩
  rw [bare_parse, bare_parse, bare_parse, instructions, hlines, List.filterMap_append, List.map_append]
  rfl

/-- A comment and a blank line come after the open line, and the line that it goes on with is open itself. -/
theorem logicalLines_of_two_seam :
    let a : Text := "FROM a\nRUN b \\\n# c\n \t"
    let b : Text := "# d\n\\\n e \\\n#"
    endsOpen a = true ∧ logicalLines b = [" e  ".toList] ∧
    logicalLines (a ++ '\n' :: b) = ["FROM a".toList, "RUN b   e  ".toList] ∧
    endsOpen "FROM a" = false ∧ logicalLines ("FROM a".toList ++ '\n' :: b) = ["FROM a".toList, " e  ".toList] := by
  intro a b
  have hopen : endsOpen a = true := by decide +kernel
  have hb : logicalLines b = [" e  ".toList] := by decide +kernel
  have hclosed : endsOpen "FROM a" = false := by decide +kernel
  obtain ⟨whole, last, ha, hjoined⟩ := (logicalLines_of_two a b).1 hopen _ _ hb
  have hlines : logicalLines a = ["FROM a".toList] ++ ["RUN b  ".toList] := by decide +kernel
  obtain ⟨rfl, hlast⟩ := List.append_inj' (ha.symm.trans hlines) rfl
  obtain rfl := List.singleton_inj.1 hlast
  refine ⟨hopen, hb, hjoined, hclosed, ?_⟩
  rw [((logicalLines_of_two "FROM a" b).2 (Or.inl hclosed)).1, hb]
  decide +kernel

end Dockgraph.Script
