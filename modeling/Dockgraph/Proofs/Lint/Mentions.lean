import Dockgraph.Lint.Explanation
import Dockgraph.Proofs.Script.RoundTrip
import Dockgraph.Proofs.Text.Parts

/-! What the background of a message is about. The keywords are found from left to right, each where no word goes on
before or after it; so they are the words of the message that are keywords, a word being a run of word characters that
nothing can be added to. -/

namespace Dockgraph

namespace Text

/-- A maximal run of word characters, with `place` characters of the text before it. -/
def WordAt (s : Text) (place : Nat) (word : Text) : Prop :=
  ∃ before after, s = before ++ (word ++ after) ∧ before.length = place ∧
    (word ≠ [] ∧ ∀ c ∈ word, isWordChar c = true) ∧
    (∀ c, before.getLast? = some c → isWordChar c = false) ∧ ∀ c, after.head? = some c → isWordChar c = false

variable {s word word' : Text} {n m : Nat}

theorem takeWhile_isWordChar {after : Text} (hword : ∀ c ∈ word, isWordChar c = true)
    (hafter : ∀ c, after.head? = some c → isWordChar c = false) : (word ++ after).takeWhile isWordChar = word := by
  rw [List.takeWhile_append_of_pos hword]
  cases after with
  | nil => exact List.append_nil word
  | cons c after => rw [List.takeWhile_cons_of_neg (by simp [hafter c rfl]), List.append_nil]

/-- There is one word in a place. -/
theorem WordAt.unique (h : WordAt s n word) (h' : WordAt s n word') : word = word' := by
  obtain ⟨before, after, rfl, rfl, hword, -, hafter⟩ := h
  obtain ⟨before', after', hs, hlength, hword', -, hafter'⟩ := h'
  obtain ⟨-, hrest⟩ := List.append_inj hs hlength.symm
  rw [← takeWhile_isWordChar hword.2 hafter, hrest, takeWhile_isWordChar hword'.2 hafter']

/-- No word begins within another one. -/
theorem WordAt.not_within (h : WordAt s n word) (hlow : n < m) (hhigh : m < n + word.length) : ¬ WordAt s m word' := by
  obtain ⟨before, after, rfl, rfl, hword, -, -⟩ := h
  rintro ⟨before', after', hs, rfl, -, hbefore', -⟩
  rcases List.append_eq_append_iff.1 hs with ⟨part, rfl, hrest⟩ | ⟨part, rfl, -⟩
  · -- what lies between the two places is a part of the word, and the text before the second place ends in it
    rw [List.length_append] at hlow hhigh
    have hne : part ≠ [] := List.length_pos_iff.1 (by omega)
    have hpart : part <+: word :=
      List.prefix_of_prefix_length_le ⟨_, hrest.symm⟩ (List.prefix_append word after) (by omega)
    have hlast : (before ++ part).getLast? = some (part.getLast hne) := by
      rw [List.getLast?_append_of_ne_nil before hne, List.getLast?_eq_some_getLast hne]
    have hno := hbefore' _ hlast
    rw [hword.2 _ (hpart.subset (List.getLast_mem hne))] at hno
    cases hno
  · rw [List.length_append] at hlow
    omega

theorem WordAt.place_lt (h : WordAt s n word) : n < s.length := by
  obtain ⟨before, after, rfl, rfl, hword, -, -⟩ := h
  have := List.length_pos_iff.2 hword.1
  simp only [List.length_append]
  omega

end Text

namespace Lint

open Script (keyword_inj)
open Text (WordAt isWordChar)

/-! One place. -/

theorem find?_eq_some_iff_of_unique {α : Type} {p : α → Bool} {l : List α} {a : α} (ha : a ∈ l)
    (hone : ∀ b, p a = true → p b = true → b = a) : l.find? p = some a ↔ p a = true := by
  constructor
  · exact List.find?_some
  · intro hp
    obtain ⟨b, hb⟩ := Option.isSome_iff_exists.1 (List.find?_isSome.2 ⟨a, ha, hp⟩)
    rw [hb, hone b hp (List.find?_some hb)]

theorem isWordChar_of_mem_keyword (i : Instruction) : ∀ c ∈ i.keyword, isWordChar c = true := by
  have hall : i.keyword.all isWordChar = true := by
    cases i <;> decide
  exact List.all_eq_true.1 hall

theorem wordAt_keyword_iff {before s : Text} {i : Instruction} : WordAt (before ++ s) before.length i.keyword ↔
    before.getLast?.any isWordChar = false ∧ ∃ after, s = i.keyword ++ after ∧ goesOn after = false := by
  have hany : ∀ o : Option Char, o.any isWordChar = false ↔ ∀ c, o = some c → isWordChar c = false := by
    intro o
    cases o <;> simp
  constructor
  · rintro ⟨before', after, hs, hlength, -, hbefore, hafter⟩
    obtain ⟨rfl, rfl⟩ := List.append_inj hs hlength.symm
    exact ⟨(hany _).2 hbefore, after, rfl, (hany _).2 hafter⟩
  · rintro ⟨hbefore, after, rfl, hafter⟩
    exact ⟨before, after, rfl, rfl, ⟨i.keyword_ne_nil, isWordChar_of_mem_keyword i⟩, (hany _).1 hbefore,
      (hany _).1 hafter⟩

/-- The keyword that is found in a place is the word there. -/
theorem keywordAt?_eq_some_iff {before s : Text} {i : Instruction} :
    keywordAt? before.getLast? s = some i ↔ WordAt (before ++ s) before.length i.keyword := by
  rw [keywordAt?]
  cases hbefore : before.getLast?.any isWordChar with
  | true => simp [wordAt_keyword_iff, hbefore]
  | false =>
    rw [if_neg Bool.false_ne_true]
    have hword : ∀ j : Instruction, (j.keyword.isPrefixOf s && !goesOn (s.drop j.keyword.length)) = true ↔
        WordAt (before ++ s) before.length j.keyword := by
      intro j
      rw [wordAt_keyword_iff, hbefore, Bool.and_eq_true, Bool.not_eq_true', List.isPrefixOf_iff_prefix]
      constructor
      · rintro ⟨⟨after, rfl⟩, hafter⟩
        rw [List.drop_left] at hafter
        exact ⟨rfl, after, rfl, hafter⟩
      · rintro ⟨-, after, rfl, hafter⟩
        rw [List.drop_left]
        exact ⟨List.prefix_append _ _, hafter⟩
    have hone : ∀ j : Instruction, (i.keyword.isPrefixOf s && !goesOn (s.drop i.keyword.length)) = true →
        (j.keyword.isPrefixOf s && !goesOn (s.drop j.keyword.length)) = true → j = i :=
      fun j hi hj => keyword_inj (((hword j).1 hj).unique ((hword i).1 hi))
    rw [find?_eq_some_iff_of_unique (Instruction.mem_all i) hone, hword]

/-! All places. -/

/-- A word that is still to come begins here or after this character. -/
theorem forthcoming_iff {before s : Text} {c : Char} {n : Nat} {i : Instruction} :
    before.length ≤ n ∧ WordAt (before ++ c :: s) n i.keyword ↔
      n = before.length ∧ keywordAt? before.getLast? (c :: s) = some i ∨
      (before ++ [c]).length ≤ n ∧ WordAt ((before ++ [c]) ++ s) n i.keyword := by
  rw [keywordAt?_eq_some_iff, List.length_append, List.length_singleton, ← List.append_cons]
  constructor
  · rintro ⟨hn, hword⟩
    rcases hn.eq_or_lt with rfl | hlt
    · exact Or.inl ⟨rfl, hword⟩
    · exact Or.inr ⟨hlt, hword⟩
  · rintro (⟨rfl, hword⟩ | ⟨hlt, hword⟩)
    · exact ⟨le_rfl, hword⟩
    · exact ⟨by omega, hword⟩

/-- From a place where no word begins `skip` characters on, the keywords are those of the words that are still to come,
in their order. -/
theorem exists_places (before s : Text) (skip : Nat)
    (hskip : ∀ n, before.length ≤ n → n < before.length + skip → ∀ i : Instruction, ¬ WordAt (before ++ s) n i.keyword) :
    ∃ places : List (Nat × Instruction), keywordsFrom skip before.getLast? s = places.map Prod.snd ∧
      places.Pairwise (fun a b => a.1 < b.1) ∧
      ∀ n i, (n, i) ∈ places ↔ before.length ≤ n ∧ WordAt (before ++ s) n i.keyword := by
  induction s generalizing before skip with
  | nil =>
    refine ⟨[], rfl, List.Pairwise.nil, fun n i => iff_of_false List.not_mem_nil ?_⟩
    rintro ⟨hn, hword⟩
    have := hword.place_lt
    rw [List.append_nil] at this
    omega
  | cons c s ih =>
    have hsplit : before ++ c :: s = (before ++ [c]) ++ s := List.append_cons _ _ _
    have hlast : (before ++ [c]).getLast? = some c := by simp
    have hlength : (before ++ [c]).length = before.length + 1 := by simp
    simp only [forthcoming_iff]
    cases skip with
    | succ skip =>
      obtain ⟨places, hplaces, hsorted, hmem⟩ := ih (before ++ [c]) skip fun n hlow hhigh =>
        hsplit ▸ hskip n (by omega) (by omega)
      refine ⟨places, ?_, hsorted, fun n i => (hmem n i).trans (or_iff_right ?_).symm⟩
      · rw [keywordsFrom, ← hlast, hplaces]
      · rintro ⟨-, hkey⟩
        exact hskip before.length le_rfl (by omega) i (keywordAt?_eq_some_iff.1 hkey)
    | zero =>
      cases hkey : keywordAt? before.getLast? (c :: s) with
      | none =>
        obtain ⟨places, hplaces, hsorted, hmem⟩ := ih (before ++ [c]) 0 fun n hlow hhigh => absurd hhigh (by omega)
        refine ⟨places, ?_, hsorted, fun n i => (hmem n i).trans (or_iff_right ?_).symm⟩
        · rw [keywordsFrom, hkey, ← hlast, hplaces]
        · rintro ⟨-, hnone⟩
          cases hnone
      | some j =>
        have hword := keywordAt?_eq_some_iff.1 hkey
        obtain ⟨places, hplaces, hsorted, hmem⟩ := ih (before ++ [c]) (j.keyword.length - 1) fun n hlow hhigh i =>
          hsplit ▸ hword.not_within (by omega) (by omega)
        refine ⟨(before.length, j) :: places, ?_, List.pairwise_cons.2 ⟨?_, hsorted⟩, fun n i => ?_⟩
        · rw [keywordsFrom, hkey, List.map_cons, ← hplaces, hlast]
        · rintro ⟨n, i⟩ hn
          have := ((hmem n i).1 hn).1
          dsimp only
          omega
        · rw [List.mem_cons, hmem, Prod.mk.injEq, Option.some.injEq, eq_comm (a := i)]

/-! Mentions in order. -/

/-- Of things in ascending places each is kept once, and in the order of the first places. -/
theorem pairwise_eraseDups {α : Type} [BEq α] [LawfulBEq α] {places : List (Nat × α)}
    (h : places.Pairwise fun a b => a.1 < b.1) : (places.map Prod.snd).eraseDups.Pairwise fun x y =>
      x ≠ y ∧ ∀ n, (n, y) ∈ places → ∃ m < n, (m, x) ∈ places := by
  induction hlength : places.length using Nat.strong_induction_on generalizing places with
  | _ length ih =>
    cases places with
    | nil => exact List.Pairwise.nil
    | cons place rest =>
      obtain ⟨k, x⟩ := place
      rw [List.pairwise_cons] at h
      rw [List.map_cons, List.eraseDups_cons, List.filter_map, List.pairwise_cons]
      generalize hothers : rest.filter ((fun y => !y == x) ∘ Prod.snd) = others
      have hmem : ∀ n y, (n, y) ∈ others ↔ (n, y) ∈ rest ∧ y ≠ x := by
        intro n y
        simp [← hothers]
      have hne : ∀ y ∈ (others.map Prod.snd).eraseDups, y ≠ x := by
        intro y hy
        rw [List.mem_eraseDups, List.mem_map] at hy
        obtain ⟨⟨n, y⟩, hn, rfl⟩ := hy
        exact ((hmem n y).1 hn).2
      have hrest : ∀ n y, y ≠ x → (n, y) ∈ (k, x) :: rest → (n, y) ∈ rest := by
        intro n y hy hn
        rcases List.mem_cons.1 hn with heq | hn
        · exact absurd (Prod.mk.inj heq).2 hy
        · exact hn
      have hshorter : others.length < length := by
        rw [← hlength, ← hothers, List.length_cons]
        exact Nat.lt_succ_of_le (List.length_filter_le _ _)
      have hothersSorted : others.Pairwise fun a b => a.1 < b.1 := hothers ▸ h.2.filter _
      constructor
      · intro y hy
        refine ⟨(hne y hy).symm, fun n hn => ⟨k, ?_, List.mem_cons_self⟩⟩
        exact h.1 (n, y) (hrest n y (hne y hy) hn)
      · refine (ih _ hshorter hothersSorted rfl).imp_of_mem fun {y z} _ hz hyz => ⟨hyz.1, fun n hn => ?_⟩
        obtain ⟨m, hlt, hm⟩ := hyz.2 n ((hmem n z).2 ⟨hrest n z (hne z hz) hn, hne z hz⟩)
        exact ⟨m, hlt, List.mem_cons_of_mem _ ((hmem m y).1 hm).1⟩

/-- Whether the first mention of an instruction comes before every mention of another one. -/
def MentionedBefore (message : Text) (i j : Instruction) : Prop :=
  ∀ n, WordAt message n j.keyword → ∃ m < n, WordAt message m i.keyword

theorem mentioned_spec (message : Text) :
    (mentioned message).Nodup ∧ (∀ i, i ∈ mentioned message ↔ ∃ n, WordAt message n i.keyword) ∧
      (mentioned message).Pairwise (MentionedBefore message) := by
  obtain ⟨places, hplaces, hsorted, hmem⟩ := exists_places [] message 0 fun n _ hhigh => absurd hhigh (by simp)
  have hplace : ∀ n i, (n, i) ∈ places ↔ WordAt message n i.keyword :=
    fun n i => (hmem n i).trans (and_iff_right (Nat.zero_le n))
  have hmentioned : mentioned message = (places.map Prod.snd).eraseDups := congrArg List.eraseDups hplaces
  have hpairs := pairwise_eraseDups hsorted
  rw [hmentioned]
  refine ⟨hpairs.imp And.left, fun i => ?_, hpairs.imp fun {i j} hij n hn => ?_⟩
  · rw [List.mem_eraseDups, List.mem_map]
    constructor
    · rintro ⟨⟨n, i⟩, hn, rfl⟩
      exact ⟨n, (hplace n i).1 hn⟩
    · rintro ⟨n, hn⟩
      exact ⟨(n, i), (hplace n i).2 hn, rfl⟩
  · obtain ⟨m, hlt, hm⟩ := hij.2 n ((hplace n j).2 hn)
    exact ⟨m, hlt, (hplace m i).1 hm⟩

/-- What is said of an instruction: its keyword, and the documentation of its first use in the catalog. -/
def Describes (i : Instruction) (description : Text) : Prop :=
  ∃ before spec after, Spec.catalog = before ++ spec :: after ∧ spec.instruction = i ∧
    (∀ other ∈ before, other.instruction ≠ i) ∧ description = i.keyword ++ ": ".toList ++ spec.documentation

theorem describes_documentation (i : Instruction) : Describes i (documentation i) := by
  have hfirst : Spec.catalog.find? (fun s => s.instruction == i) = some (Spec.ofInstruction i) :=
    (Option.some_get (Spec.ofInstruction?_isSome i)).symm
  obtain ⟨hi, before, after, hsplit, hbefore⟩ := List.find?_eq_some_iff_append.1 hfirst
  exact ⟨before, Spec.ofInstruction i, after, hsplit, by simpa using hi, by simpa using hbefore, rfl⟩

/-- The background of a message describes the instructions whose keywords are words of it, in the order of their first
mentions and each once, and then has the guides to the topics that stand in the message in small letters. -/
theorem context_describes_words (message : Text) :
    ∃ is descriptions, is.Nodup ∧ (∀ i, i ∈ is ↔ ∃ n, WordAt message n (Instruction.keyword i)) ∧
      is.Pairwise (MentionedBefore message) ∧ List.Forall₂ Describes is descriptions ∧
      context message = Text.joinWith [' '] (descriptions ++
        (guides.filter fun guide => guide.1 <:+: Text.lower message).map Prod.snd) := by
  obtain ⟨hnodup, hmem, hpairs⟩ := mentioned_spec message
  have hguides : (guides.filter fun guide => Text.hasPart guide.1 (Text.lower message)) =
      guides.filter fun guide => guide.1 <:+: Text.lower message := by
    refine List.filter_congr fun guide _ => ?_
    rw [Bool.eq_iff_iff, Text.hasPart_iff_isInfix, decide_eq_true_eq]
  refine ⟨mentioned message, (mentioned message).map documentation, hnodup, hmem, hpairs, ?_, ?_⟩
  · exact List.forall₂_map_right_iff.2 (List.forall₂_same.2 fun i _ => describes_documentation i)
  · rw [context, hguides]

/-- A keyword that goes on as a word, in small letters or not, is not mentioned. -/
example : mentioned "RUNé RUN_ run, USER/CMD RUN 'USER'".toList = [.user, .cmd, .run] := by decide +kernel

end Lint

end Dockgraph
