import Dockgraph.Proofs.Text.Lines
import Dockgraph.Text.Case

/-! Parts without blanks. Such a part stands in a text only if it stands within one line, away from the blanks at
the edges; and that is so in lower case too, although the lower case of a sigma depends on what is around it. -/

namespace Dockgraph.Text

variable {part s t : Text}

theorem hasPart_iff_isInfix : hasPart part s = true ↔ part <:+: s := by
  induction s with
  | nil => rw [hasPart, List.isEmpty_iff, List.infix_nil]
  | cons c s ih => rw [hasPart, Bool.or_eq_true, ih, List.isPrefixOf_iff_prefix, List.infix_cons_iff]

/-! Parts that lack a character. -/

theorem isPrefix_append_cons_iff {c : Char} (hc : c ∉ part) : part <+: s ++ c :: t ↔ part <+: s := by
  refine ⟨fun h => ?_, fun h => h.trans (List.prefix_append s _)⟩
  rcases List.prefix_or_prefix_of_prefix h (List.prefix_append s (c :: t)) with hs | ⟨rest, rfl⟩
  · exact hs
  · rw [List.prefix_append_right_inj] at h
    cases rest with
    | nil => exact (List.append_nil s).symm ▸ List.prefix_rfl
    | cons d rest =>
      -- what goes on after `s` would begin with the character that the part lacks
      obtain ⟨rfl, -⟩ := List.cons_prefix_cons.1 h
      exact absurd (by simp) hc

theorem isInfix_append_cons_iff {c : Char} (hc : c ∉ part) :
    part <:+: s ++ c :: t ↔ part <:+: s ∨ part <:+: t := by
  induction s with
  | nil =>
    have hnil : part <+: c :: t ↔ part <+: [] := isPrefix_append_cons_iff (s := []) hc
    rw [List.nil_append, List.infix_cons_iff, hnil, List.prefix_nil, List.infix_nil]
  | cons d s ih =>
    rw [List.cons_append, List.infix_cons_iff, ih, ← List.cons_append, isPrefix_append_cons_iff hc,
      List.infix_cons_iff, or_assoc]

theorem isInfix_cons_of_notMem {c : Char} (hc : c ∉ part) : part <:+: c :: s ↔ part <:+: s := by
  have hsplit := isInfix_append_cons_iff (s := []) (t := s) hc
  rw [List.nil_append] at hsplit
  rw [hsplit, or_iff_right_iff_imp, List.infix_nil]
  rintro rfl
  exact List.nil_infix

/-- What the part has nothing of does not matter at the beginning. -/
theorem isInfix_append_left_iff (h : ∀ c ∈ s, c ∉ part) : part <:+: s ++ t ↔ part <:+: t := by
  induction s with
  | nil => rfl
  | cons c s ih =>
    rw [List.forall_mem_cons] at h
    rw [List.cons_append, isInfix_cons_of_notMem h.1, ih h.2]

/-- Nor does it at the end. -/
theorem isInfix_append_right_iff (h : ∀ c ∈ t, c ∉ part) : part <:+: s ++ t ↔ part <:+: s := by
  rw [← List.reverse_infix, List.reverse_append, isInfix_append_left_iff, List.reverse_infix]
  intro c hc
  simpa using h c (List.mem_reverse.1 hc)

theorem isInfix_brackets_iff {opening closing : Char} (ho : opening ∉ part) (hc : closing ∉ part) :
    part <:+: opening :: s ++ [closing] ↔ part <:+: s := by
  rw [isInfix_append_right_iff (List.forall_mem_singleton.2 hc), isInfix_cons_of_notMem ho]

/-- A part that has nothing of a separator stands within one of the pieces. -/
theorem isInfix_joinWith_iff {c : Char} {gap : Text} (hne : part ≠ []) (hc : c ∉ part) (hgap : ∀ d ∈ gap, d ∉ part)
    {pieces : List Text} : part <:+: joinWith (c :: gap) pieces ↔ ∃ s ∈ pieces, part <:+: s := by
  induction pieces with
  | nil => simp [joinWith, hne]
  | cons s pieces ih =>
    cases pieces with
    | nil => simp [joinWith_singleton]
    | cons t pieces =>
      rw [joinWith_cons_cons, isInfix_append_cons_iff hc, isInfix_append_left_iff hgap, ih]
      simp only [List.exists_mem_cons_iff]

/-- A map that moves nothing to or from the characters of a part. -/
theorem isInfix_map_iff {f : Char → Char} (hfix : ∀ c ∈ part, f c = c) (honly : ∀ c, f c ∈ part → f c = c) :
    part <:+: s.map f ↔ part <:+: s := by
  constructor
  · rintro ⟨before, after, h⟩
    obtain ⟨rest, u, rfl, hrest, -⟩ := List.map_eq_append_iff.1 h.symm
    obtain ⟨v, mid, rfl, -, rfl⟩ := List.map_eq_append_iff.1 hrest
    have hmid : mid.map f = mid.map id :=
      List.map_congr_left fun c hc => honly c (List.mem_map_of_mem hc)
    rw [hmid, List.map_id]
    exact ⟨v, u, rfl⟩
  · intro h
    have hpart : part.map f = part := by
      rw [List.map_congr_left hfix, List.map_id']
    exact hpart ▸ h.map f

section
variable {g : Char → Text} (hself : ∀ c ∈ part, g c = [c]) (hother : ∀ c ∉ part, g c ≠ [] ∧ ∀ d ∈ g c, d ∉ part)
include hself hother

theorem isPrefix_flatMap_of_fixed {p : Text} (hp : ∀ c ∈ p, c ∈ part) : p <+: s.flatMap g ↔ p <+: s := by
  induction s generalizing p with
  | nil => rfl
  | cons c s ih =>
    cases p with
    | nil => simp
    | cons d p =>
      rw [List.forall_mem_cons] at hp
      rw [List.flatMap_cons]
      by_cases hc : c ∈ part
      · rw [hself c hc, List.singleton_append, List.cons_prefix_cons, List.cons_prefix_cons, ih hp.2]
      · obtain ⟨hne, hd⟩ := hother c hc
        obtain ⟨e, t, he⟩ := List.exists_cons_of_ne_nil hne
        rw [he, List.cons_append, List.cons_prefix_cons, List.cons_prefix_cons]
        refine iff_of_false ?_ ?_
        · rintro ⟨rfl, -⟩
          exact hd d (he ▸ List.mem_cons_self) hp.1
        · rintro ⟨rfl, -⟩
          exact hc hp.1

/-- A map to texts that leaves the characters of a part as they are and makes none of them from others. -/
theorem isInfix_flatMap_of_fixed : part <:+: s.flatMap g ↔ part <:+: s := by
  induction s with
  | nil => rfl
  | cons c s ih =>
    by_cases hc : c ∈ part
    · have hprefix := isPrefix_flatMap_of_fixed hself hother (s := c :: s) fun d hd => hd
      rw [List.flatMap_cons, hself c hc, List.singleton_append] at hprefix ⊢
      rw [List.infix_cons_iff, hprefix, ih, ← List.infix_cons_iff]
    · rw [List.flatMap_cons, isInfix_append_left_iff (hother c hc).2, ih, isInfix_cons_of_notMem hc]

end

/-! Blanks and lines. -/

/-- What holds of the few blanks that are listed holds of every blank. -/
theorem of_isBlank {P : Char → Prop} {c : Char} (hc : isBlank c = true)
    (h : ∀ r ∈ blankRanges, ∀ n ∈ List.range' r.1 (r.2 + 1 - r.1), P (Char.ofNat n)) : P c := by
  obtain ⟨r, hr, hlow, hhigh⟩ := exists_of_inRanges hc
  exact Char.ofNat_toNat c ▸ h r hr c.toNat (by rw [List.mem_range'_1]; omega)

theorem unlines_cons_cons (l l' : Text) (ls : List Text) :
    unlines (l :: l' :: ls) = l ++ '\n' :: unlines (l' :: ls) :=
  joinWith_cons_cons [] l l' ls

theorem unlines_lines (s : Text) : unlines (lines s) = s := by
  rw [lines_eq_splitOn]
  exact List.intercalate_splitOn '\n'

/-- A text is its trimmed text between blanks. -/
theorem exists_eq_append_trim (s : Text) : ∃ before after, s = before ++ (trim s ++ after) ∧
    (∀ c ∈ before, isBlank c = true) ∧ ∀ c ∈ after, isBlank c = true := by
  refine ⟨s.takeWhile isBlank, (s.dropWhile isBlank).rtakeWhile isBlank, ?_, fun c hc => List.mem_takeWhile_imp hc,
    fun c hc => List.mem_rtakeWhile_imp hc⟩
  rw [trim_eq_rdropWhile, List.rdropWhile_append_rtakeWhile, List.takeWhile_append_dropWhile]

section
variable {g : Char → Text} (hg : ∀ b, isBlank b = true → g b = [b])
include hg

theorem flatMap_of_blanks (h : ∀ c ∈ s, isBlank c = true) : s.flatMap g = s := by
  rw [List.flatMap_congr fun c hc => hg c (h c hc), List.flatMap_singleton']

theorem flatMap_unlines (ls : List Text) : (unlines ls).flatMap g = unlines (ls.map (List.flatMap g)) := by
  induction ls with
  | nil => rfl
  | cons l ls ih =>
    cases ls with
    | nil => simp [unlines, joinWith]
    | cons l' ls =>
      rw [unlines_cons_cons, List.flatMap_append, List.flatMap_cons, hg '\n' isBlank_newline, ih]
      exact (unlines_cons_cons (l.flatMap g) (l'.flatMap g) (ls.map (List.flatMap g))).symm

variable (hne : part ≠ []) (hpart : ∀ c ∈ part, isBlank c = false)
include hpart

theorem isInfix_flatMap_trim_iff : part <:+: (trim s).flatMap g ↔ part <:+: s.flatMap g := by
  have hblank : ∀ u : Text, (∀ c ∈ u, isBlank c = true) → ∀ c ∈ u, c ∉ part := by
    intro u hu c hc hm
    have hno := hpart c hm
    rw [hu c hc] at hno
    cases hno
  obtain ⟨before, after, hs, hbefore, hafter⟩ := exists_eq_append_trim s
  conv_rhs => rw [hs]
  rw [List.flatMap_append, List.flatMap_append, flatMap_of_blanks hg hbefore, flatMap_of_blanks hg hafter,
    isInfix_append_left_iff (hblank before hbefore), isInfix_append_right_iff (hblank after hafter)]

include hne

/-- A part without blanks stands within the edges of one line, also when each character is replaced by others and
the blanks are kept. -/
theorem isInfix_flatMap_iff_exists_line :
    part <:+: s.flatMap g ↔ ∃ l ∈ (lines s).map trim, part <:+: l.flatMap g := by
  have hnl : '\n' ∉ part := by
    intro hm
    have hno := hpart '\n' hm
    rw [isBlank_newline] at hno
    cases hno
  conv_lhs => rw [← unlines_lines s, flatMap_unlines hg, unlines, isInfix_joinWith_iff hne hnl (by simp)]
  simp only [List.mem_map, exists_exists_and_eq_and, isInfix_flatMap_trim_iff hg hpart]

end

theorem hasPart_iff_exists_line (hne : part ≠ []) (hpart : ∀ c ∈ part, isBlank c = false) :
    hasPart part s = true ↔ ∃ l ∈ (lines s).map trim, hasPart part l = true := by
  have h := isInfix_flatMap_iff_exists_line (s := s) (g := fun c => [c]) (fun _ _ => rfl) hne hpart
  simpa only [List.flatMap_singleton', ← hasPart_iff_isInfix] using h

/-! Lower case. -/

/-- Both small sigmas as one. -/
def mergeSigma (c : Char) : Char :=
  if c = 'ς' then 'σ' else c

/-- The lower case of a character, the small sigmas as one: it does not depend on what is around. -/
def lowerMerged (c : Char) : Text :=
  if c = 'Σ' then ['σ'] else (lowerChar c).map mergeSigma

theorem map_lowerAfter (before s : Text) : (lowerAfter before s).map mergeSigma = s.flatMap lowerMerged := by
  induction s generalizing before with
  | nil => rfl
  | cons c s ih =>
    rw [lowerAfter, List.map_append, ih, List.flatMap_cons, lowerMerged]
    split_ifs <;> rfl

theorem lowerMerged_of_isBlank {b : Char} (hb : isBlank b = true) : lowerMerged b = [b] :=
  of_isBlank (P := fun b => lowerMerged b = [b]) hb (by decide +kernel)

/-- A part without sigmas stands in the lower case of a text if it stands in the lower case of its characters. -/
theorem isInfix_lower_iff (hsigma : 'σ' ∉ part ∧ 'ς' ∉ part) : part <:+: lower s ↔ part <:+: s.flatMap lowerMerged := by
  rw [← map_lowerAfter [], isInfix_map_iff, lower]
  · intro c hc
    have hne : c ≠ 'ς' := fun h => hsigma.2 (h ▸ hc)
    exact if_neg hne
  · intro c hc
    by_cases h : c = 'ς'
    · rw [mergeSigma, if_pos h] at hc
      exact absurd hc hsigma.1
    · exact if_neg h

theorem hasPart_lower_iff_exists_line (hne : part ≠ []) (hpart : ∀ c ∈ part, isBlank c = false)
    (hsigma : 'σ' ∉ part ∧ 'ς' ∉ part) :
    hasPart part (lower s) = true ↔ ∃ l ∈ (lines s).map trim, hasPart part (lower l) = true := by
  have h := isInfix_flatMap_iff_exists_line (s := s) (fun _ => lowerMerged_of_isBlank) hne hpart
  simpa only [← isInfix_lower_iff hsigma, ← hasPart_iff_isInfix] using h

end Dockgraph.Text
