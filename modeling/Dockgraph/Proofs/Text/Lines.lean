import Dockgraph.Text.Blank
import Mathlib.Data.List.DropRight
import Mathlib.Data.List.TakeWhile

/-! Lines, trimmed texts and first words. Lines without a newline are read back from the text that joins
them, a trimmed text is one without blanks at its edges, and a word before a blank is the first word. -/

namespace Dockgraph.Text

/-! Pieces with a separator between. -/

theorem joinWith_singleton {α : Type} (sep a : List α) : joinWith sep [a] = a := by
  simp [joinWith]

theorem joinWith_cons_cons {α : Type} {c : α} (gap a b : List α) (l : List (List α)) :
    joinWith (c :: gap) (a :: b :: l) = a ++ c :: (gap ++ joinWith (c :: gap) (b :: l)) := by
  rw [joinWith, List.intercalate_cons_cons, List.append_assoc]
  rfl

theorem all_joinWith {p : Char → Bool} {sep : Text} {pieces : List Text} (hsep : sep.all p = true)
    (h : ∀ s ∈ pieces, s.all p = true) : (joinWith sep pieces).all p = true := by
  induction pieces with
  | nil => rfl
  | cons s pieces ih =>
    rw [List.forall_mem_cons] at h
    cases pieces with
    | nil =>
      rw [joinWith_singleton]
      exact h.1
    | cons t pieces =>
      rw [joinWith, List.intercalate_cons_cons, List.all_append, List.all_append, h.1, hsep]
      exact ih h.2

/-! Lines. -/

theorem lines_eq_splitOn (s : Text) : lines s = s.splitOn '\n' := by
  induction s with
  | nil => rfl
  | cons c s ih =>
    rw [lines, List.splitOn_cons_eq_if_modifyHead, ih]
    by_cases hc : c = '\n'
    · simp [hc]
    · rw [if_neg hc, if_neg (by simpa using hc)]
      cases hs : s.splitOn '\n' with
      | nil => exact absurd hs (List.splitOn_ne_nil _ _)
      | cons l ls => rfl

/-- A newline ends a line wherever it stands. -/
theorem lines_append_newline (s t : Text) : lines (s ++ '\n' :: t) = lines s ++ lines t := by
  rw [lines_eq_splitOn, lines_eq_splitOn, lines_eq_splitOn]
  exact List.splitOn_append_cons_self s t

theorem notMem_of_mem_lines {s l : Text} (h : l ∈ lines s) : '\n' ∉ l := by
  induction s generalizing l with
  | nil =>
    rw [lines, List.mem_singleton] at h
    simp [h]
  | cons c s ih =>
    rw [lines] at h
    split_ifs at h with hc
    · rcases List.mem_cons.1 h with rfl | h
      · exact List.not_mem_nil
      · exact ih h
    · cases hs : lines s with
      | nil => exact absurd hs (lines_ne_nil s)
      | cons first rest =>
        simp only [hs] at h ih
        rcases List.mem_cons.1 h with rfl | h
        · rw [List.mem_cons, not_or]
          exact ⟨fun he => hc he.symm, ih List.mem_cons_self⟩
        · exact ih (List.mem_cons_of_mem _ h)

theorem lines_unlines {ls : List Text} (hne : ls ≠ []) (h : ∀ l ∈ ls, '\n' ∉ l) :
    lines (unlines ls) = ls := by
  rw [lines_eq_splitOn]
  exact List.splitOn_intercalate '\n' h hne

theorem unlines_inj {ls ls' : List Text} (h : ∀ l ∈ ls, '\n' ∉ l) (h' : ∀ l ∈ ls', '\n' ∉ l)
    (hl : ls.length = ls'.length) (he : unlines ls = unlines ls') : ls = ls' := by
  cases ls with
  | nil => exact (List.length_eq_zero_iff.1 hl.symm).symm
  | cons l ls =>
    have hne' : ls' ≠ [] := by
      rintro rfl
      simp at hl
    rw [← lines_unlines (List.cons_ne_nil l ls) h, he, lines_unlines hne' h']

/-- Where no line is empty the lines are those of the text that joins them, the one line of the empty text
apart. -/
theorem filter_lines_unlines {ls : List Text} (h : ∀ l ∈ ls, l ≠ [] ∧ '\n' ∉ l) :
    (lines (unlines ls)).filter (fun l => !l.isEmpty) = ls := by
  cases ls with
  | nil => rfl
  | cons l ls =>
    rw [lines_unlines (List.cons_ne_nil l ls) fun l' hl => (h l' hl).2, List.filter_eq_self]
    intro l' hl
    simpa using (h l' hl).1

theorem unlines_inj_of_ne_nil {ls ls' : List Text} (h : ∀ l ∈ ls, l ≠ [] ∧ '\n' ∉ l)
    (h' : ∀ l ∈ ls', l ≠ [] ∧ '\n' ∉ l) (he : unlines ls = unlines ls') : ls = ls' := by
  rw [← filter_lines_unlines h, he, filter_lines_unlines h']

/-- A text ends as its last line does. -/
theorem getLast?_unlines_snoc (ls : List Text) {l : Text} (hne : l ≠ []) :
    (unlines (ls ++ [l])).getLast? = l.getLast? := by
  induction ls with
  | nil => simp [unlines, joinWith]
  | cons first ls ih =>
    have hl : unlines (first :: (ls ++ [l])) = (first ++ ['\n']) ++ unlines (ls ++ [l]) :=
      List.intercalate_cons_of_ne_nil (by simp)
    rw [List.cons_append, hl, List.getLast?_append, ih, List.getLast?_eq_some_getLast hne]
    rfl

/-! Trimmed texts. -/

/-- No blank at either end. -/
def IsTrimmed (s : Text) : Prop :=
  (∀ c, s.head? = some c → isBlank c = false) ∧ ∀ c, s.getLast? = some c → isBlank c = false

theorem trim_eq_rdropWhile (s : Text) : trim s = (s.dropWhile isBlank).rdropWhile isBlank := rfl

theorem trimLeft_of_isTrimmed {s : Text} (h : IsTrimmed s) : trimLeft s = s := by
  rw [trimLeft, List.dropWhile_eq_self_iff]
  intro hl
  have := h.1 s[0] (by rw [List.head?_eq_getElem?, List.getElem?_eq_getElem hl])
  simp [this]

theorem trim_of_isTrimmed {s : Text} (h : IsTrimmed s) : trim s = s := by
  have hl : s.dropWhile isBlank = s := trimLeft_of_isTrimmed h
  rw [trim_eq_rdropWhile, hl, List.rdropWhile_eq_self_iff]
  intro hne
  have := h.2 (s.getLast hne) (List.getLast?_eq_some_getLast hne)
  simp [this]

theorem isTrimmed_trim (s : Text) : IsTrimmed (trim s) := by
  rw [trim_eq_rdropWhile]
  constructor
  · intro c hc
    -- the first character is that of what is left when the blanks before it are dropped
    obtain ⟨t, ht⟩ := List.rdropWhile_prefix (p := isBlank) (s.dropWhile isBlank)
    have hh : (s.dropWhile isBlank).head? = some c := by
      rw [← ht, List.head?_append, hc]
      rfl
    have hb := List.head?_dropWhile_not isBlank s
    rw [hh] at hb
    simpa using hb
  · intro c hc
    have hne : (s.dropWhile isBlank).rdropWhile isBlank ≠ [] := by
      intro h0
      rw [h0] at hc
      exact absurd hc (by simp)
    rw [List.getLast?_eq_some_getLast hne, Option.some.injEq] at hc
    have hb := List.rdropWhile_last_not _ _ hne
    rw [hc] at hb
    simpa using hb

theorem trim_eq_self_iff {s : Text} : trim s = s ↔ IsTrimmed s :=
  ⟨fun h => h ▸ isTrimmed_trim s, trim_of_isTrimmed⟩

theorem isPart_trim (s : Text) : trim s <:+: s :=
  (List.rdropWhile_prefix isBlank _).isInfix.trans (List.dropWhile_suffix isBlank).isInfix

theorem mem_of_mem_trim {s : Text} {c : Char} (h : c ∈ trim s) : c ∈ s :=
  (isPart_trim s).subset h

theorem getLast?_of_suffix {s t : Text} (h : t <:+ s) (hne : t ≠ []) : t.getLast? = s.getLast? := by
  rw [List.getLast?_eq_some_getLast hne, List.getLast?_eq_some_getLast (h.ne_nil hne), h.getLast hne]

/-- A text that does not end in a blank ends the same when it is trimmed. -/
theorem getLast?_trim {s : Text} {c : Char} (hs : s.getLast? = some c) (hc : isBlank c = false) :
    (trim s).getLast? = some c := by
  have hne : s.dropWhile isBlank ≠ [] := by
    intro h
    have hb := List.dropWhile_eq_nil_iff.1 h c (List.mem_of_getLast? hs)
    rw [hc] at hb
    exact Bool.noConfusion hb
  have hl : (s.dropWhile isBlank).getLast? = some c :=
    (getLast?_of_suffix (List.dropWhile_suffix isBlank) hne).trans hs
  rw [trim_eq_rdropWhile, List.rdropWhile_eq_self_iff.2, hl]
  intro hne'
  rw [List.getLast?_eq_some_getLast hne', Option.some.injEq] at hl
  simp [hl, hc]

/-! First words. -/

theorem trimLeft_word {w : Text} (hne : w ≠ []) (hw : ∀ c ∈ w, isBlank c = false) (t : Text) :
    trimLeft (w ++ t) = w ++ t := by
  obtain ⟨c, w, rfl⟩ := List.exists_cons_of_ne_nil hne
  rw [trimLeft, List.cons_append, List.dropWhile_cons_of_neg]
  simp [hw c List.mem_cons_self]

theorem firstWord_word {w : Text} (hne : w ≠ []) (hw : ∀ c ∈ w, isBlank c = false) {b : Char}
    (hb : isBlank b = true) (t : Text) : firstWord (w ++ b :: t) = w := by
  rw [firstWord, trimLeft_word hne hw, List.takeWhile_append_of_pos fun c hc => by simp [hw c hc]]
  simp [hb]

theorem afterFirstWord_word {w : Text} (hne : w ≠ []) (hw : ∀ c ∈ w, isBlank c = false) {b : Char}
    (hb : isBlank b = true) (t : Text) : afterFirstWord (w ++ b :: t) = trimLeft t := by
  rw [afterFirstWord, trimLeft_word hne hw, List.dropWhile_append_of_pos fun c hc => by simp [hw c hc]]
  simp [hb, trimLeft]

/-- More than blanks after a blank keeps the blank when the text is trimmed. -/
theorem trim_word {w : Text} (hne : w ≠ []) (hw : ∀ c ∈ w, isBlank c = false) (b : Char) {t : Text}
    (ht : ∃ c ∈ t, isBlank c = false) : trim (w ++ b :: t) = w ++ b :: t.rdropWhile isBlank := by
  have hleft : (w ++ b :: t).dropWhile isBlank = w ++ b :: t := trimLeft_word hne hw (b :: t)
  have hrest : (t.reverse.dropWhile isBlank).isEmpty = false := by
    obtain ⟨c, hc, hblank⟩ := ht
    rw [List.isEmpty_eq_false_iff, Ne, List.dropWhile_eq_nil_iff]
    intro hall
    rw [hall c (List.mem_reverse.2 hc)] at hblank
    exact Bool.noConfusion hblank
  rw [trim_eq_rdropWhile, hleft, List.rdropWhile, List.reverse_append, List.reverse_cons, List.append_assoc,
    List.dropWhile_append, hrest]
  simp [List.rdropWhile]

theorem afterFirstWord_suffix (s : Text) : afterFirstWord s <:+ s :=
  (List.dropWhile_suffix _).trans ((List.dropWhile_suffix _).trans (List.dropWhile_suffix _))

theorem mem_of_mem_afterFirstWord {s : Text} {c : Char} (h : c ∈ afterFirstWord s) : c ∈ s :=
  (afterFirstWord_suffix s).subset h

theorem isBlank_of_mem_firstWord {s : Text} {c : Char} (h : c ∈ firstWord s) : isBlank c = false := by
  simpa using List.mem_takeWhile_imp h

/-- A trimmed text is one word, or goes on after the first word with a blank and more than blanks. -/
theorem eq_firstWord_or_split {s : Text} (h : IsTrimmed s) :
    s = firstWord s ∨ ∃ b rest, s = firstWord s ++ b :: rest ∧ isBlank b = true ∧
      ∃ c ∈ rest, isBlank c = false := by
  have hsplit : firstWord s ++ s.dropWhile (fun c => !isBlank c) = s := by
    rw [firstWord, trimLeft_of_isTrimmed h]
    exact List.takeWhile_append_dropWhile
  cases hrest : s.dropWhile (fun c => !isBlank c) with
  | nil =>
    rw [hrest, List.append_nil] at hsplit
    exact Or.inl hsplit.symm
  | cons b rest =>
    rw [hrest] at hsplit
    have hb := List.head?_dropWhile_not (fun c => !isBlank c) s
    rw [hrest] at hb
    have hblank : isBlank b = true := by simpa using hb
    -- the last character is no blank, so it comes after this one
    have hne : rest ≠ [] := by
      rintro rfl
      have hlast := h.2 b (by rw [← hsplit]; simp)
      rw [hblank] at hlast
      cases hlast
    refine Or.inr ⟨b, rest, hsplit.symm, hblank, rest.getLast hne, List.getLast_mem hne, h.2 _ ?_⟩
    rw [← hsplit, List.getLast?_append, List.getLast?_cons, List.getLast?_eq_some_getLast hne]
    rfl

theorem trim_trimLeft (s : Text) : trim (trimLeft s) = trim s := by
  rw [trim_eq_rdropWhile, trim_eq_rdropWhile, trimLeft, List.dropWhile_idempotent]

theorem trim_blank_cons {b : Char} (hb : isBlank b = true) (s : Text) : trim (b :: s) = trim s := by
  rw [trim_eq_rdropWhile, trim_eq_rdropWhile, List.dropWhile_cons_of_pos hb]

theorem trim_eq_nil_iff {s : Text} : trim s = [] ↔ ∀ c ∈ s, isBlank c = true := by
  rw [trim_eq_rdropWhile, List.rdropWhile_eq_nil_iff]
  constructor
  · intro h c hc
    rw [← List.takeWhile_append_dropWhile (p := isBlank) (l := s), List.mem_append] at hc
    exact hc.elim List.mem_takeWhile_imp (h c)
  · exact fun h c hc => h c ((List.dropWhile_suffix _).subset hc)

/-- What comes after the first word begins with no blank. -/
theorem trim_afterFirstWord_eq_nil_iff {s : Text} : trim (afterFirstWord s) = [] ↔ afterFirstWord s = [] := by
  rw [trim_eq_nil_iff]
  constructor
  · intro h
    rw [afterFirstWord, trimLeft]
    cases hs : ((trimLeft s).dropWhile fun c => !isBlank c).dropWhile isBlank with
    | nil => rfl
    | cons c t =>
      have hc := List.head?_dropWhile_not isBlank ((trimLeft s).dropWhile fun c => !isBlank c)
      rw [hs] at hc
      have hblank : isBlank c = true := h c (by rw [afterFirstWord, trimLeft, hs]; exact List.mem_cons_self)
      simp [hblank] at hc
  · intro h
    simp [h]

end Dockgraph.Text
