import Dockgraph.Json.Display
import Dockgraph.Json.Reader
import Dockgraph.Json.Writer
import Dockgraph.Proofs.Text.Numerals
import Mathlib.Tactic.SplitIfs

/-! Text literals and integers are read back as they were written. A character beyond sixteen bits is written as two
halves, and the reader joins a high half with a low half after it; no character is itself a half, so that it never
joins what was not split. -/

namespace Dockgraph.Json

/-! Characters by their codes. -/

theorem unit?_ofHex {n : Nat} (h : n < 0x10000) (rest : Text) :
    unit? (Text.ofHex 4 n ++ rest) = some (n, rest) := by
  rw [Text.ofHex_four h]
  simp only [List.cons_append, List.nil_append, unit?, Text.digitIn?_digitChar (show n / 4096 < 16 by omega),
    Text.digitIn?_digitChar (show n / 256 % 16 < 16 by omega),
    Text.digitIn?_digitChar (show n / 16 % 16 < 16 by omega), Text.digitIn?_digitChar (show n % 16 < 16 by omega),
    Text.valueOf, List.foldl_cons, List.foldl_nil]
  congr 2
  omega

theorem unitEscape_append (n : Nat) (s : Text) : unitEscape n ++ s = '\\' :: 'u' :: (Text.ofHex 4 n ++ s) := rfl

theorem length_ofHex_four {n : Nat} (h : n < 0x10000) : (Text.ofHex 4 n).length = 4 := by
  rw [Text.ofHex_four h]
  rfl

variable {σ : Type}

theorem unitEscaped_ofHex [Glyph σ] {n : Nat} (h : n < 0x10000) (hhigh : isHighHalf n = false) {rest : Text}
    (hrest : rest ≠ []) : unitEscaped (Text.ofHex 4 n ++ rest) = .ok ((unitGlyph n : σ), rest) := by
  have hpos := List.length_pos_of_ne_nil hrest
  rw [unitEscaped, if_neg (by rw [List.length_append, length_ofHex_four h]; omega), unit?_ofHex h]
  simp only [hhigh]

theorem unitEscaped_halves [Glyph σ] {high low : Nat} (hhigh : isHighHalf high = true) (hlow : isLowHalf low = true)
    {rest : Text} (hrest : rest ≠ []) : unitEscaped (Text.ofHex 4 high ++ (unitEscape low ++ rest)) =
      .ok ((Glyph.ofChar (Char.ofNat (0x10000 + (high - 0xd800) * 0x400 + (low - 0xdc00))) : σ), rest) := by
  have hpos := List.length_pos_of_ne_nil hrest
  have hh : high < 0x10000 := by
    simp only [isHighHalf, Bool.and_eq_true, decide_eq_true_eq] at hhigh
    omega
  have hl : low < 0x10000 := by
    simp only [isLowHalf, Bool.and_eq_true, decide_eq_true_eq] at hlow
    omega
  rw [unitEscape_append, unitEscaped, if_neg (by rw [List.length_append, length_ofHex_four hh]; simp), unit?_ofHex hh]
  simp only [hhigh]
  rw [if_neg (by simp only [List.length_cons, List.length_append, length_ofHex_four hl]; omega), unit?_ofHex hl]
  simp only [hlow, if_true]

theorem toNat_range (c : Char) : c.toNat < 0xd800 ∨ 0xdfff < c.toNat ∧ c.toNat < 0x110000 :=
  c.valid

/-- No character is a half of a pair. -/
theorem not_half (c : Char) : isHighHalf c.toNat = false ∧ isLowHalf c.toNat = false := by
  have hv := toNat_range c
  simp only [isHighHalf, isLowHalf, Bool.and_eq_false_iff, decide_eq_false_iff_not]
  omega

theorem unitGlyph_toNat [Glyph σ] (c : Char) : (unitGlyph c.toNat : σ) = Glyph.ofChar c := by
  have hv := toNat_range c
  rw [unitGlyph, dif_neg (by omega), Char.ofNat_toNat]

/-! Characters as they are written. -/

/-- The characters that have an escape of their own, with the letter of it. -/
def shortEscapes : List (Char × Char) :=
  [('"', '"'), ('\\', '\\'), ('\n', 'n'), ('\r', 'r'), ('\t', 't'), ('\x08', 'b'), ('\x0c', 'f')]

/-- The ways to write a character. -/
inductive Written : Char → Text → Prop where
  | short {c d : Char} (listed : (c, d) ∈ shortEscapes) : Written c ['\\', d]
  | plain {c : Char} (quote : c ≠ '"') (slash : c ≠ '\\') (low : ' ' ≤ c) (high : c ≤ '~') : Written c [c]
  | unit {c : Char} (small : c.toNat < 0x10000) : Written c (unitEscape c.toNat)
  | halves {c : Char} (large : 0x10000 ≤ c.toNat) :
    Written c (unitEscape (0xd800 + (c.toNat - 0x10000) / 0x400) ++ unitEscape (0xdc00 + (c.toNat - 0x10000) % 0x400))

theorem written_escapeChar (c : Char) : Written c (escapeChar c) := by
  rw [escapeChar]
  by_cases hquote : c = '"'
  · subst hquote
    exact .short (by decide)
  by_cases hslash : c = '\\'
  · subst hslash
    exact .short (by decide)
  by_cases hnewline : c = '\n'
  · subst hnewline
    exact .short (by decide)
  by_cases hreturn : c = '\r'
  · subst hreturn
    exact .short (by decide)
  by_cases htab : c = '\t'
  · subst htab
    exact .short (by decide)
  by_cases hback : c = '\x08'
  · subst hback
    exact .short (by decide)
  by_cases hfeed : c = '\x0c'
  · subst hfeed
    exact .short (by decide)
  rw [if_neg hquote, if_neg hslash, if_neg hnewline, if_neg hreturn, if_neg htab, if_neg hback, if_neg hfeed]
  by_cases hprint : (decide (' ' ≤ c) && decide (c ≤ '~')) = true
  · rw [if_pos hprint]
    rw [Bool.and_eq_true, decide_eq_true_eq, decide_eq_true_eq] at hprint
    exact .plain hquote hslash hprint.1 hprint.2
  rw [if_neg hprint]
  by_cases hunit : c.toNat < 0x10000
  · rw [if_pos hunit]
    exact .unit hunit
  · rw [if_neg hunit]
    exact .halves (Nat.le_of_not_lt hunit)

/-! Text literals. -/

/-- What the reader makes of the rest goes behind what it has read. -/
def prepend (g : σ) : Except Stop (List σ × Text) → Except Stop (List σ × Text)
  | .error stop => .error stop
  | .ok (t, rest) => .ok (g :: t, rest)

variable {opened fuel : Nat}

theorem readText_plain {c : Char} (hquote : c ≠ '"') (hslash : c ≠ '\\') (hcontrol : ¬ c.toNat ≤ 0x1f) (s : Text) :
    readText opened (fuel + 1) (c :: s) = prepend c (readText opened fuel s) := by
  rw [readText.eq_def]
  simp only [hquote, hslash, hcontrol, if_false]
  rfl

theorem readText_unit {c : Char} {s rest : Text} (h : unitEscaped s = .ok (c, rest)) :
    readText opened (fuel + 1) ('\\' :: 'u' :: s) = prepend c (readText opened fuel rest) := by
  rw [readText.eq_def]
  simp only [h]
  rfl

theorem readText_halves {c : Char} (hc : 0x10000 ≤ c.toNat) {s : Text} (hs : s ≠ []) :
    readText opened (fuel + 1) (unitEscape (0xd800 + (c.toNat - 0x10000) / 0x400) ++
        (unitEscape (0xdc00 + (c.toNat - 0x10000) % 0x400) ++ s)) =
      prepend c (readText opened fuel s) := by
  have hv := toNat_range c
  have hhigh : isHighHalf (0xd800 + (c.toNat - 0x10000) / 0x400) = true := by
    simp only [isHighHalf, Bool.and_eq_true, decide_eq_true_eq]
    omega
  have hlow : isLowHalf (0xdc00 + (c.toNat - 0x10000) % 0x400) = true := by
    simp only [isLowHalf, Bool.and_eq_true, decide_eq_true_eq]
    omega
  have hcode : 0x10000 + (0xd800 + (c.toNat - 0x10000) / 0x400 - 0xd800) * 0x400 +
      (0xdc00 + (c.toNat - 0x10000) % 0x400 - 0xdc00) = c.toNat := by omega
  have hread := unitEscaped_halves hhigh hlow hs
  rw [hcode, Char.ofNat_toNat, Glyph.ofChar_char] at hread
  rw [unitEscape_append, readText_unit hread]

/-- A character that is written is read as itself. -/
theorem readText_written {c : Char} {w s : Text} (h : Written c w) (hs : s ≠ []) :
    readText opened (fuel + 1) (w ++ s) = prepend c (readText opened fuel s) := by
  cases h with
  | short listed =>
    simp only [shortEscapes, List.mem_cons, Prod.mk.injEq, List.not_mem_nil, or_false] at listed
    rcases listed with ⟨rfl, rfl⟩ | ⟨rfl, rfl⟩ | ⟨rfl, rfl⟩ | ⟨rfl, rfl⟩ | ⟨rfl, rfl⟩ | ⟨rfl, rfl⟩ | ⟨rfl, rfl⟩ <;> rfl
  | plain quote slash low high =>
    have hle : 32 ≤ c.toNat := low
    exact readText_plain quote slash (by omega) s
  | unit small =>
    have hread := unitEscaped_ofHex small (not_half c).1 hs
    rw [unitGlyph_toNat, Glyph.ofChar_char] at hread
    rw [unitEscape_append, readText_unit hread]
  | halves large =>
    rw [List.append_assoc]
    exact readText_halves large hs

/-- The inside of a literal of the text: each character as the writer has it, a slash also with a backslash before. -/
inductive Literal : Text → Text → Prop where
  | nil : Literal [] []
  | char (c : Char) {t s : Text} (rest : Literal t s) : Literal (c :: t) (escapeChar c ++ s)
  | slash {t s : Text} (rest : Literal t s) : Literal ('/' :: t) ('\\' :: '/' :: s)

theorem literal_written (t : Text) : Literal t (t.flatMap escapeChar) := by
  induction t with
  | nil => exact .nil
  | cons c t ih => exact .char c ih

theorem escapeChar_ne_nil (c : Char) : escapeChar c ≠ [] := by
  have h := written_escapeChar c
  generalize escapeChar c = w at h ⊢
  cases h with
  | short => exact List.cons_ne_nil _ _
  | plain => exact List.cons_ne_nil _ _
  | unit => exact List.cons_ne_nil _ _
  | halves => exact List.cons_ne_nil _ _

theorem isAlphanum_digitChar {d : Nat} (h : d < 16) : (Nat.digitChar d).isAlphanum = true := by
  interval_cases d <;> rfl

theorem mem_unitEscape {n : Nat} (h : n < 0x10000) {d : Char} (hd : d ∈ unitEscape n) :
    d = '\\' ∨ d.isAlphanum = true := by
  rw [unitEscape, Text.ofHex_four h] at hd
  simp only [List.mem_cons, List.not_mem_nil, or_false] at hd
  rcases hd with rfl | rfl | rfl | rfl | rfl | rfl
  · exact Or.inl rfl
  · exact Or.inr rfl
  all_goals exact Or.inr (isAlphanum_digitChar (by omega))

/-- What is written for a character is the character, or made of backslashes, letters and digits. -/
theorem mem_escapeChar {c d : Char} (h : d ∈ escapeChar c) : d = c ∨ d = '\\' ∨ d.isAlphanum = true := by
  have hrange := toNat_range c
  have hw := written_escapeChar c
  generalize escapeChar c = w at h hw
  cases hw with
  | short listed =>
    have htable : shortEscapes.all (fun p => p.2 == p.1 || p.2.isAlphanum) = true := rfl
    have hletter := List.all_eq_true.1 htable _ listed
    rw [Bool.or_eq_true, beq_iff_eq] at hletter
    rcases List.mem_cons.1 h with rfl | h
    · exact Or.inr (Or.inl rfl)
    · obtain rfl := List.mem_singleton.1 h
      exact hletter.imp id Or.inr
  | plain => exact Or.inl (List.mem_singleton.1 h)
  | unit small => exact Or.inr (mem_unitEscape small h)
  | halves large =>
    rcases List.mem_append.1 h with h | h <;>
    exact Or.inr (mem_unitEscape (by omega) h)

namespace Literal

variable {t s : Text}

theorem length_le (h : Literal t s) : t.length ≤ s.length := by
  induction h with
  | nil => exact Nat.le_refl 0
  | char c _ ih =>
    have hpos := List.length_pos_of_ne_nil (escapeChar_ne_nil c)
    rw [List.length_append, List.length_cons]
    omega
  | slash _ ih =>
    rw [List.length_cons, List.length_cons, List.length_cons]
    omega

theorem readText_of_lt (h : Literal t s) (hfuel : t.length < fuel) (rest : Text) :
    readText opened fuel (s ++ '"' :: rest) = .ok (t, rest) := by
  induction h generalizing fuel with
  | nil =>
    obtain ⟨k, rfl⟩ : ∃ k, fuel = k + 1 := ⟨fuel - 1, by simp at hfuel; omega⟩
    rfl
  | char c _ ih =>
    obtain ⟨k, rfl⟩ : ∃ k, fuel = k + 1 := ⟨fuel - 1, by simp at hfuel; omega⟩
    rw [List.append_assoc, readText_written (written_escapeChar c) (by simp), ih (by simpa using hfuel)]
    rfl
  | @slash t s _ ih =>
    obtain ⟨k, rfl⟩ : ∃ k, fuel = k + 1 := ⟨fuel - 1, by simp at hfuel; omega⟩
    change prepend '/' (readText opened k (s ++ '"' :: rest)) = _
    rw [ih (by simpa using hfuel)]
    rfl

/-- A text literal is read in the turns that its length allows. -/
theorem readText_eq (h : Literal t s) (opened : Nat) (rest : Text) :
    readText opened ((s ++ '"' :: rest).length + 1) (s ++ '"' :: rest) = .ok (t, rest) := by
  have hlen := h.length_le
  refine h.readText_of_lt ?_ rest
  rw [List.length_append]
  omega

end Literal

/-! Integers. -/

/-- What follows does not go on with a number. -/
def EndsNumber (rest : Text) : Prop :=
  ∀ c, rest.head? = some c → isDigit c = false ∧ c ≠ '.' ∧ c ≠ 'e' ∧ c ≠ 'E'

theorem isDigit_of_mem_ofNat {n : Nat} {c : Char} (h : c ∈ Text.ofNat n) : isDigit c = true := by
  have hd := Text.isDigit_of_mem_ofNat h
  simp only [Char.isDigit, Bool.and_eq_true, decide_eq_true_eq] at hd
  simp only [isDigit, Bool.and_eq_true, decide_eq_true_eq]
  exact hd

theorem digitsValue_ofNat (n : Nat) : digitsValue (Text.ofNat n) = n := by
  rw [digitsValue, Text.valueOf, List.foldl_map]
  exact Nat.ofDigitChars_ten_toDigits

variable {rest : Text}

theorem EndsNumber.takeWhile (h : EndsNumber rest) : rest.takeWhile isDigit = [] := by
  cases rest with
  | nil => rfl
  | cons c rest => exact List.takeWhile_cons_of_neg (by simp [(h c rfl).1])

theorem EndsNumber.dropWhile (h : EndsNumber rest) : rest.dropWhile isDigit = rest := by
  cases rest with
  | nil => rfl
  | cons c rest => exact List.dropWhile_cons_of_neg (by simp [(h c rfl).1])

theorem fractionPart_of_ends (h : EndsNumber rest) : fractionPart rest = (none, rest) := by
  unfold fractionPart
  split
  · next d s => exact absurd rfl (h '.' rfl).2.1
  · rfl

theorem exponentPart_of_ends (h : EndsNumber rest) : exponentPart rest = (none, rest) := by
  cases rest with
  | nil => rfl
  | cons c rest =>
    obtain ⟨-, -, he, hE⟩ := h c rfl
    rw [exponentPart.eq_def]
    exact if_neg (by simp [he, hE])

theorem wholePart_ofNat (n : Nat) (h : EndsNumber rest) :
    wholePart (Text.ofNat n ++ rest) = some (Text.ofNat n, rest) := by
  rcases Nat.eq_zero_or_pos n with rfl | hpos
  · rfl
  · have hdigits : ∀ c ∈ Text.ofNat n, isDigit c = true := fun c => isDigit_of_mem_ofNat
    have htake : (Text.ofNat n ++ rest).takeWhile isDigit = Text.ofNat n := by
      rw [List.takeWhile_append_of_pos hdigits, h.takeWhile, List.append_nil]
    have hdrop : (Text.ofNat n ++ rest).dropWhile isDigit = rest := by
      rw [List.dropWhile_append_of_pos hdigits, h.dropWhile]
    have hhead := Text.head?_ofNat_ne_zero (Nat.ne_of_gt hpos)
    cases hn : Text.ofNat n with
    | nil => exact absurd hn (Text.ofNat_ne_nil n)
    | cons c s =>
      rw [hn] at hdigits htake hdrop hhead
      rw [List.cons_append] at htake hdrop ⊢
      rw [wholePart, if_neg (by simpa using hhead), if_pos (hdigits c List.mem_cons_self), htake, hdrop]

/-- An integer of no more digits than can be read. -/
def IsShort (i : Int) : Prop :=
  (Text.ofNat i.natAbs).length ≤ Numeral.maxDigits

instance (i : Int) : Decidable (IsShort i) :=
  inferInstanceAs (Decidable (_ ≤ _))

theorem excessOf_eq_none_iff {i : Int} : excessOf i.natAbs = none ↔ IsShort i := by
  rw [excessOf, ite_eq_right_iff, IsShort, ← Nat.not_lt]
  exact ⟨fun h hlt => Option.some_ne_none _ (h hlt), fun h hlt => absurd hlt h⟩

/-- What comes of reading: the value and what is left of the text, unless a numeral has too many digits. -/
def outcome {α : Type} (excess : Option Nat) (value : α) (rest : Text) : Except Stop (α × Text) :=
  match excess with
  | none => .ok (value, rest)
  | some digits => .error (.longNumeral digits)

theorem readNumber_ofNat (n : Nat) (negative : Bool) (h : EndsNumber rest) :
    readNumber negative (Text.ofNat n ++ rest) =
      (outcome (excessOf n) (Json.int (if negative then -n else n) : Json σ) rest).map some := by
  rw [readNumber, wholePart_ofNat n h]
  simp only [fractionPart_of_ends h, exponentPart_of_ends h]
  rw [if_pos (by rfl), digitsValue_ofNat, excessOf]
  split_ifs <;> rfl

theorem readWord_of_digit {c : Char} (hc : isDigit c = true) (s : Text) :
    (readWord (c :: s) : Option (Json σ × Text)) = none ∧
      (readWord ('-' :: c :: s) : Option (Json σ × Text)) = none := by
  have hne : ∀ d : Char, isDigit d = false → d ≠ c := by
    rintro d hd rfl
    rw [hc] at hd
    cases hd
  have hno : ∀ d : Char, isDigit d = false → (d == c) = false := fun d hd => beq_false_of_ne (hne d hd)
  constructor <;>
    simp [readWord, words, List.isPrefixOf, hno 'n' rfl, hno 't' rfl, hno 'f' rfl, hno 'N' rfl, hno 'I' rfl, hno '-' rfl]

theorem exists_digit_ofNat (n : Nat) : ∃ c s, Text.ofNat n = c :: s ∧ isDigit c = true := by
  obtain ⟨c, s, hs⟩ := List.exists_cons_of_ne_nil (Text.ofNat_ne_nil n)
  exact ⟨c, s, hs, isDigit_of_mem_ofNat (hs ▸ List.mem_cons_self)⟩

theorem readAtom_unsigned {c : Char} {s : Text} {r : Except Stop (Json σ × Text)}
    (hword : (readWord (c :: s) : Option (Json σ × Text)) = none)
    (hc : c ≠ '-') (h : readNumber false (c :: s) = r.map some) : readAtom (c :: s) = r := by
  rw [readAtom.eq_def, hword]
  cases r <;> simp [hc, h, Except.map]

theorem readAtom_negative {t : Text} {r : Except Stop (Json σ × Text)}
    (hword : (readWord ('-' :: t) : Option (Json σ × Text)) = none)
    (h : readNumber true t = r.map some) : readAtom ('-' :: t) = r := by
  rw [readAtom.eq_def, hword]
  cases r <;> simp [h, Except.map]

theorem readAtom_ofInt (i : Int) (h : EndsNumber rest) :
    readAtom (Text.ofInt i ++ rest) = outcome (excessOf i.natAbs) (Json.int i : Json σ) rest := by
  cases i with
  | ofNat n =>
    obtain ⟨c, s, hs, hc⟩ := exists_digit_ofNat n
    have hnum : readNumber false (Text.ofNat n ++ rest) = (outcome (excessOf n) (Json.int n : Json σ) rest).map some :=
      readNumber_ofNat n false h
    rw [hs, List.cons_append] at hnum
    rw [Text.ofInt, hs, List.cons_append]
    refine readAtom_unsigned (readWord_of_digit hc _).1 ?_ hnum
    rintro rfl
    cases hc
  | negSucc n =>
    obtain ⟨c, s, hs, hc⟩ := exists_digit_ofNat (n + 1)
    have hnum : readNumber true (Text.ofNat (n + 1) ++ rest) =
        (outcome (excessOf (n + 1)) (Json.int (.negSucc n) : Json σ) rest).map some :=
      readNumber_ofNat (n + 1) true h
    rw [hs, List.cons_append] at hnum
    rw [Text.ofInt, hs, List.cons_append]
    exact readAtom_negative (readWord_of_digit hc _).2 hnum

end Dockgraph.Json
