import Dockgraph.Pattern.Engine
import Mathlib.Data.List.Forall2
import Mathlib.Tactic.SplitIfs

/-! A text as a pattern for itself. It is found where the line has the letters of the text one after the other, case
apart, and it is what the text is read as once all in it is escaped that might mean something else. -/

namespace Dockgraph.Pattern

theorem sameCode_toNat (k c : Char) :
    Mode.sameCode { ignoreCase := true } k.toNat c = Text.sameLetter k c := by
  have hvalid : k.toNat.isValidChar := k.valid
  simp [Mode.sameCode, Mode.forms, Mode.lower, Text.sameLetter, hvalid]

/-- Whatever follows in a sequence is matched after its first part. -/
theorem run_ofList_cons (p : Pattern) (ps : List Pattern) (m : Match) (k : Continuation) :
    (ofList (p :: ps)).run m k = p.run m fun n => (ofList ps).run n k := by
  cases ps <;> rfl

/-- The match after the characters of `part`, when `rest` is left. -/
def Match.past (part rest : Text) (m : Match) : Match :=
  { m with place := ⟨part.reverse ++ m.place.before, rest⟩ }

theorem run_literal_eq_some_iff {s : Text} {m : Match} {k : Continuation} {r : Match} :
    (literal s).run m k = some r ↔ ∃ part rest, m.place.after = part ++ rest ∧
      List.Forall₂ (fun e c => Text.sameLetter e c = true) s part ∧ k (m.past part rest) = some r := by
  induction s generalizing m with
  | nil =>
    simp only [List.forall₂_nil_left_iff]
    constructor
    · intro h
      exact ⟨[], m.place.after, rfl, rfl, h⟩
    · rintro ⟨part, rest, hrest, rfl, h⟩
      obtain rfl : m.place.after = rest := hrest
      exact h
  | cons e s ih =>
    obtain ⟨⟨before, after⟩, spans, openings⟩ := m
    simp only [List.forall₂_cons_left_iff]
    rw [literal, List.map_cons, run_ofList_cons]
    cases after with
    | nil =>
      refine iff_of_false (fun h => nomatch h) ?_
      rintro ⟨part, rest, hrest, ⟨c, part, -, -, rfl⟩, -⟩
      cases hrest
    | cons c after =>
      have hone : ∀ k', (Pattern.code { ignoreCase := true } false e.toNat).run ⟨⟨before, c :: after⟩, spans, openings⟩ k' =
          if Text.sameLetter e c then k' ⟨⟨c :: before, after⟩, spans, openings⟩ else none := by
        intro k'
        simp [run, one, Place.next?, sameCode_toNat]
      rw [hone, Option.ite_none_right_eq_some, ← literal, ih]
      constructor
      · rintro ⟨hc, part, rest, rfl, hpart, h⟩
        refine ⟨c :: part, rest, rfl, ⟨c, part, hc, hpart, rfl⟩, ?_⟩
        simpa [Match.past] using h
      · rintro ⟨_, rest, hrest, ⟨c', part, hc, hpart, rfl⟩, h⟩
        obtain ⟨rfl, rfl⟩ := List.cons.injEq .. ▸ hrest
        refine ⟨hc, part, rest, rfl, hpart, ?_⟩
        simpa [Match.past] using h

/-- A pattern occurs where it matches after some part of the text. -/
theorem occursFrom_iff {p : Pattern} {before s : Text} :
    p.occursFrom before s = true ↔ ∃ skipped rest, s = skipped ++ rest ∧
      (p.run (.start ⟨skipped.reverse ++ before, rest⟩) some).isSome = true := by
  induction s generalizing before with
  | nil =>
    rw [occursFrom]
    constructor
    · intro h
      exact ⟨[], [], rfl, h⟩
    · rintro ⟨skipped, rest, hs, h⟩
      obtain ⟨rfl, rfl⟩ := List.nil_eq_append_iff.1 hs
      exact h
  | cons c s ih =>
    rw [occursFrom, Bool.or_eq_true, ih]
    constructor
    · rintro (h | ⟨skipped, rest, rfl, h⟩)
      · exact ⟨[], c :: s, rfl, h⟩
      · exact ⟨c :: skipped, rest, rfl, by simpa using h⟩
    · rintro ⟨skipped, rest, hs, h⟩
      cases skipped with
      | nil =>
        obtain rfl : c :: s = rest := hs
        exact Or.inl h
      | cons d skipped =>
        obtain ⟨rfl, rfl⟩ := List.cons.injEq .. ▸ hs
        exact Or.inr ⟨skipped, rest, rfl, by simpa using h⟩

/-- A text is found as it stands where the line has its letters, case apart. -/
theorem occursIn_literal_iff {s line : Text} :
    (literal s).occursIn line = true ↔ ∃ before part after, line = before ++ part ++ after ∧
      List.Forall₂ (fun e c => Text.sameLetter e c = true) s part := by
  simp only [occursIn, occursFrom_iff, Option.isSome_iff_exists, run_literal_eq_some_iff]
  constructor
  · rintro ⟨before, _, rfl, _, part, after, rfl, hpart, -⟩
    exact ⟨before, part, after, (List.append_assoc ..).symm, hpart⟩
  · rintro ⟨before, part, after, rfl, hpart⟩
    exact ⟨before, part ++ after, List.append_assoc .., _, part, after, rfl, hpart, rfl⟩

/-! A text with a backslash before all that might not stand for itself is read as the pattern for itself. -/

/-- The token of a character that is to stand for itself. -/
def tokenFor (c : Char) : Token :=
  if specials.contains c then .escaped c else .plain c

theorem escaped_cons (c : Char) (s : Text) :
    escaped (c :: s) = (if specials.contains c then ['\\', c] else [c]) ++ escaped s := rfl

theorem tokens_escaped (s : Text) : tokens (escaped s) = s.map tokenFor := by
  induction s with
  | nil => rfl
  | cons c s ih =>
    rw [escaped_cons, List.map_cons, ← ih, tokenFor]
    by_cases hc : specials.contains c = true
    · rw [if_pos hc, if_pos hc, List.cons_append, List.cons_append, List.nil_append, tokens, if_pos rfl]
    · rw [if_neg hc, if_neg hc, List.singleton_append]
      have hslash : c ≠ '\\' := by
        rintro rfl
        exact hc rfl
      cases escaped s with
      | nil => rfl
      | cons d t => rw [tokens, if_neg hslash]

theorem tokenFor_ne_slash (c : Char) : tokenFor c ≠ .plain '\\' := by
  rw [tokenFor]
  split_ifs with hc
  · nofun
  · rintro ⟨⟩
    exact hc rfl

variable {r : Reading}

theorem run_moveTo {s : Text} : (moveTo (s.map tokenFor)).run r = .ok ((), { r with rest := s.map tokenFor }) := by
  cases s with
  | nil => rfl
  | cons c s =>
    rw [moveTo, if_neg (by simpa using tokenFor_ne_slash c)]
    rfl

theorem run_skip {c : Char} {s : Text} (h : r.rest = (c :: s).map tokenFor) :
    skip.run r = .ok ((), { r with rest := s.map tokenFor }) := by
  have hmove := @run_moveTo r s
  rw [skip, StateT.run_bind]
  change (moveTo r.rest.tail).run r = _
  rw [h]
  exact hmove

/-- The characters to be escaped stand for themselves behind a backslash. -/
theorem run_escape (mode : Mode) {c : Char} (hc : specials.contains c = true) :
    (escape mode c).run r = .ok (.code mode false c.toNat, r) := by
  have hall : specials.all (fun c => (category? c).isNone && (controlCode? c).all (· == c.toNat) && c != '0' &&
      !isAsciiDigit c && !c.isAlpha) = true := by decide +kernel
  have hc' := List.all_eq_true.1 hall c (List.contains_iff_mem.1 hc)
  simp only [Bool.and_eq_true, Option.isNone_iff_eq_none, Option.all_eq_true, beq_iff_eq, bne_iff_ne, Bool.not_eq_true'] at hc'
  obtain ⟨⟨⟨⟨hcategory, hcontrol⟩, hzero⟩, hdigit⟩, halpha⟩ := hc'
  have hletter : ∀ d : Char, d.isAlpha = true → c ≠ d := by
    rintro d hd rfl
    rw [halpha] at hd
    cases hd
  have hedge : edge? mode c = none := by
    unfold edge?
    split <;> first | rfl | exact absurd rfl (hletter _ rfl)
  have hplain : (plainEscape c).run r = .ok (c.toNat, r) := by
    rw [plainEscape, if_neg (hletter 'N' rfl), if_neg (hletter 'x' rfl), if_neg (hletter 'u' rfl),
      if_neg (hletter 'U' rfl), if_neg (by rw [halpha]; exact Bool.false_ne_true)]
    rfl
  rw [escape, hcategory, hedge]
  cases hcode : controlCode? c with
  | none =>
    simp only [if_neg hzero, hdigit, Bool.false_eq_true, if_false]
    change ((plainEscape c).run r >>= _) = _
    rw [hplain]
    rfl
  | some n =>
    obtain rfl := hcontrol n hcode
    rfl

/-- What the reader makes of characters that stand for themselves. -/
def codes (mode : Mode) (s : Text) : List Pattern :=
  s.map fun c => .code mode false c.toNat

theorem run_bind_of_eq_ok {α β : Type} {x : Read α} {f : α → Read β} {a : α} {r r' : Reading}
    (h : x.run r = .ok (a, r')) : (x >>= f).run r = (f a).run r' := by
  rw [StateT.run_bind, h]
  rfl

theorem run_peek {s : Text} (h : r.rest = s.map tokenFor) : peek.run r = .ok (s.head?.map tokenFor, r) := by
  rw [peek]
  change Except.ok (r.rest.head?, r) = _
  rw [h, List.head?_map]

/-- The reader takes characters that stand for themselves one by one. -/
theorem run_sequence {mode : Mode} (hverbose : mode.verbose = false) {first : Bool} {fuel : Nat} {s : Text}
    {parts : List Pattern} (hfuel : s.length < fuel) (hrest : r.rest = s.map tokenFor) :
    (sequence fuel first mode parts).run r = .ok (parts.reverse ++ codes mode s, { r with rest := [] }) := by
  induction s generalizing r fuel parts with
  | nil =>
    obtain ⟨n, rfl⟩ : ∃ n, fuel = n + 1 := ⟨fuel - 1, by simp at hfuel; omega⟩
    have hdone : { r with rest := [] } = r := by
      rw [← hrest.trans List.map_nil]
    rw [sequence, run_bind_of_eq_ok (run_peek hrest), codes, List.map_nil, List.append_nil, hdone]
    rfl
  | cons c s ih =>
    obtain ⟨n, rfl⟩ : ∃ n, fuel = n + 1 := ⟨fuel - 1, by simp at hfuel; omega⟩
    have hnext := fun parts => @ih { r with rest := s.map tokenFor } n parts (by simp at hfuel; omega) rfl
    have hcons : parts.reverse ++ codes mode (c :: s) =
        (Pattern.code mode false c.toNat :: parts).reverse ++ codes mode s := by simp [codes]
    rw [hcons, sequence, run_bind_of_eq_ok (run_peek hrest), List.head?_cons, Option.map_some]
    by_cases hc : specials.contains c = true
    · rw [tokenFor, if_pos hc]
      dsimp only
      rw [run_bind_of_eq_ok (run_skip hrest)]
      simp only [hverbose, Bool.false_and, Bool.false_eq_true, if_false]
      rw [run_bind_of_eq_ok (run_escape mode hc), hnext]
    · have hne : ∀ d ∈ specials, c ≠ d := by
        rintro d hd rfl
        exact hc (List.contains_iff_mem.2 hd)
      rw [tokenFor, if_neg hc]
      split
      next h => cases h
      next h =>
        cases h
        exact absurd rfl (hne _ (by decide))
      next h =>
        cases h
        exact absurd rfl (hne _ (by decide))
      next t _ _ h =>
        cases h
        rw [run_bind_of_eq_ok (run_skip hrest)]
        simp only [hverbose, Bool.false_and, Bool.false_eq_true, if_false]
        split
        next h => cases h
        all_goals
          next h =>
            cases h
            first
            | exact hnext _
            | exact absurd rfl (hne _ (by decide))

theorem looksFixed_ofList {ps : List Pattern} (h : ∀ p ∈ ps, p.looksFixed = true) : (ofList ps).looksFixed = true := by
  induction ps with
  | nil => rfl
  | cons p ps ih =>
    rw [List.forall_mem_cons] at h
    cases ps with
    | nil => exact h.1
    | cons q ps =>
      rw [ofList, looksFixed, h.1, ih h.2]
      rfl

theorem run_alternatives {mode : Mode} (hverbose : r.mode.verbose = false) {fuel : Nat} {s : Text}
    (hfuel : s.length < fuel) (hrest : r.rest = s.map tokenFor) :
    (alternatives (fuel + 1) true true mode).run r = .ok (ofList (codes r.mode s), { r with rest := [] }) := by
  have hget : (get : Read Reading).run r = .ok (r, r) := rfl
  rw [alternatives, run_bind_of_eq_ok hget]
  dsimp only
  rw [if_pos rfl, run_bind_of_eq_ok (run_sequence hverbose hfuel hrest)]
  rfl

theorem looksFixed_literal (s : Text) : (literal s).looksFixed = true :=
  looksFixed_ofList (List.forall_mem_map.2 fun _ _ => rfl)

/-- An escaped text is read as the pattern for the text itself. -/
theorem ofText_escaped (charNamed : Text → Option Char) (s : Text) :
    ofText charNamed (escaped s) = .ok (literal s) := by
  rw [ofText, tokens_escaped]
  let start : Reading := ⟨charNamed, s.map tokenFor, { ignoreCase := true }, [], [none], [], none, []⟩
  have hget : (get : Read Reading).run start = .ok (start, start) := rfl
  have hmove : (moveTo start.rest).run start = .ok ((), start) := run_moveTo
  have hbody : (alternatives (2 * (s.map tokenFor).length + 1 + 1) true true { ignoreCase := true }).run start =
      .ok (literal s, { start with rest := [] }) :=
    run_alternatives rfl (by rw [List.length_map]; omega) rfl
  have hwhole : (whole (2 * (s.map tokenFor).length + 2) { ignoreCase := true }).run start =
      .ok (literal s, { start with rest := [] }) := by
    have hend : (get : Read Reading).run { start with rest := [] } =
        .ok ({ start with rest := [] }, { start with rest := [] }) := rfl
    rw [whole, run_bind_of_eq_ok hget, run_bind_of_eq_ok hmove, run_bind_of_eq_ok hbody, run_bind_of_eq_ok hend,
      looksFixed_literal]
    rfl
  rw [hwhole]
  rfl

end Dockgraph.Pattern
