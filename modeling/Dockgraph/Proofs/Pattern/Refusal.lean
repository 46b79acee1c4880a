import Dockgraph.Pattern.Reader
import Dockgraph.Proofs.Except
import Mathlib

/-! What a text has to have to be refused as a pattern altogether: a repetition in braces with a count that is too large
or too long, or groups that set both character sets for the whole pattern. The reader only moves forward, so what it has
still to read is an end of the text. Where it may stop for such a cause, what it has read last is kept in front of that
end, and the cause can be pointed to. -/

open Std.Do

set_option mvcgen.warning false

namespace Dockgraph.Pattern

/-- The text has a repetition in braces with these bounds; an exact count is both of them. -/
inductive HasBounds (p : Text) : Text → Text → Prop where
  | exact {before count after : Text} (split : p = before ++ '\x7b' :: count ++ '\x7d' :: after)
      (digits : count.all isAsciiDigit = true) : HasBounds p count count
  | range {before least most after : Text} (split : p = before ++ '\x7b' :: least ++ ',' :: most ++ '\x7d' :: after)
      (leastDigits : least.all isAsciiDigit = true) (mostDigits : most.all isAsciiDigit = true) :
      HasBounds p least most

/-- The text has a repetition in braces with this count as a bound. -/
def HasCount (p count : Text) : Prop :=
  ∃ other, HasBounds p count other ∨ HasBounds p other count

/-- The text has a group of letters that sets the switch for the whole pattern. -/
def HasSwitch (p : Text) (s : Switch) : Prop :=
  ∃ before letters after, p = before ++ '(' :: '?' :: letters ++ ')' :: after ∧
    s ∈ letters.filterMap Switch.ofLetter?

/-- What a fault is put down to. -/
def HasCause (p : Text) : Fault → Prop
  | .malformed => True
  | .hugeRepetition => ∃ count, HasCount p count ∧ hugeCount ≤ numberOf 10 count
  | .longCount n => ∃ count, HasCount p count ∧ count.length = n ∧ digitLimit < n
  | .asciiAndUnicode => HasSwitch p .ascii ∧ HasSwitch p .unicode
  | .longInteger => False

/-- The text that is still to be read. -/
def Reading.left (r : Reading) : Text :=
  r.rest.flatMap Token.text

/-- What is still to be read, with `head` read just before it, is an end of the pattern, and the switches are those of
the pattern's groups. -/
structure Left (p head : Text) (r : Reading) : Prop where
  suffix : head ++ r.left <:+ p
  switches : ∀ s ∈ r.switches, HasSwitch p s

/-- The reader comes to a value as stated, or to a fault that has a cause. -/
abbrev ends {α : Type} (p : Text) (Q : α → Reading → Prop) : PostCond α (.arg Reading (.except Fault .pure)) :=
  post⟨fun a r => ⌜Q a r⌝, fun fault => ⌜HasCause p fault⌝⟩

/-- The reader moves forward in the pattern. -/
abbrev Advances {α : Type} (p : Text) (x : Read α) : Prop :=
  ⦃fun r => ⌜Left p [] r⌝⦄ x ⦃ends p fun _ => Left p []⦄

section
variable {α : Type} {p head : Text} {x : Read α} {P : Reading → Prop} {Q : α → Reading → Prop}

theorem Left.drop {more : Text} {r : Reading} (h : Left p (head ++ more) r) : Left p more r :=
  ⟨(List.append_assoc head more _ ▸ List.suffix_append head _).trans h.suffix, h.switches⟩

theorem Left.forget {r : Reading} (h : Left p head r) : Left p [] r :=
  Left.drop (by rwa [List.append_nil])

/-- A triple speaks of the reader's run. -/
theorem triple_iff : ⦃fun r => ⌜P r⌝⦄ x ⦃ends p Q⦄ ↔ ∀ r, P r →
    match x.run r with
    | .ok (a, s) => Q a s
    | .error fault => HasCause p fault := by
  refine forall_congr' fun r => imp_congr_right fun _ => ?_
  change (wp⟦x.run r⟧ post⟨fun a => ⌜Q a.1 a.2⌝, fun fault => ⌜HasCause p fault⌝⟩).down ↔ _
  cases x.run r with
  | ok result => exact iff_of_eq (congrArg ULift.down (WP.pure result _))
  | error fault => exact iff_of_eq (congrArg ULift.down WP.throw_Except)

/-- What a condition says apart from the reading can be taken as given. -/
theorem triple_of_and {φ : Prop} (h : φ → ⦃fun r => ⌜P r⌝⦄ x ⦃ends p Q⦄) : ⦃fun r => ⌜P r ∧ φ⌝⦄ x ⦃ends p Q⦄ :=
  triple_iff.2 fun r hr => triple_iff.1 (h hr.2) r hr.1

/-! Tokens. -/

theorem flatMap_tokens (s : Text) : (tokens s).flatMap Token.text = s := by
  induction s using tokens.induct with
  | case1 => rfl
  | case2 c => rfl
  | case3 d s ih => rw [tokens, if_pos rfl, List.flatMap_cons, ih, Token.text]; rfl
  | case4 c d s hc ih => rw [tokens, if_neg hc, List.flatMap_cons, ih, Token.text]; rfl

theorem flatMap_of_head? {t : Token} {ts : List Token} (h : ts.head? = some t) :
    ts.flatMap Token.text = t.text ++ ts.tail.flatMap Token.text := by
  obtain ⟨rest, rfl⟩ := List.head?_eq_some_iff.1 h
  rfl

theorem flatMap_tail_suffix (ts : List Token) : ts.tail.flatMap Token.text <:+ ts.flatMap Token.text := by
  cases ts with
  | nil => exact List.suffix_rfl
  | cons t ts => exact List.suffix_append t.text _

theorem flatMap_dropWhile_suffix (q : Token → Bool) (ts : List Token) :
    (ts.dropWhile q).flatMap Token.text <:+ ts.flatMap Token.text :=
  ⟨(ts.takeWhile q).flatMap Token.text, by rw [← List.flatMap_append, List.takeWhile_append_dropWhile]⟩

theorem flatMap_suffix_of_dropWhile {q : Token → Bool} {ts rest : List Token} {t : Token}
    (h : ts.dropWhile q = t :: rest) : rest.flatMap Token.text <:+ ts.flatMap Token.text := by
  have hdrop := flatMap_dropWhile_suffix q ts
  rw [h, List.flatMap_cons] at hdrop
  exact (List.suffix_append t.text _).trans hdrop

/-! The steps that tell what they have read. -/

@[spec]
theorem malformed_ends : ⦃fun _ => ⌜True⌝⦄ (malformed : Read α) ⦃ends p Q⦄ :=
  triple_iff.2 fun _ _ => trivial

theorem get_left :
    ⦃fun r => ⌜Left p head r⌝⦄ (get : Read Reading) ⦃ends p fun s r => Left p head r ∧ Left p head s⦄ := by
  mvcgen

theorem moveTo_left {rest : List Token} (h : head ++ rest.flatMap Token.text <:+ p) :
    ⦃fun r => ⌜Left p [] r⌝⦄ moveTo rest ⦃ends p fun _ => Left p head⦄ := by
  mvcgen [moveTo]
  next hr _ => exact ⟨h, hr.switches⟩

theorem peek_left : ⦃fun r => ⌜Left p head r⌝⦄ peek ⦃ends p fun t r => Left p head r ∧ r.rest.head? = t⦄ := by
  mvcgen [peek]

theorem skip_left {t : Token} :
    ⦃fun r => ⌜Left p head r ∧ r.rest.head? = some t⌝⦄ skip ⦃ends p fun _ => Left p (head ++ t.text)⦄ := by
  have hmove := fun rest => @moveTo_left p (head ++ t.text) rest
  mvcgen [skip, hmove]
  next h =>
    rw [List.append_assoc, ← flatMap_of_head? h.2]
    exact h.1.suffix
  next h => exact h.1.forget

theorem skip_left_end :
    ⦃fun r => ⌜Left p head r ∧ r.rest.head? = none⌝⦄ skip ⦃ends p fun _ => Left p head⦄ := by
  have hmove := fun rest => @moveTo_left p head rest
  mvcgen [skip, hmove]
  next h =>
    have hsuffix := h.1.suffix
    rw [Reading.left, List.head?_eq_none_iff.1 h.2] at hsuffix
    rwa [List.head?_eq_none_iff.1 h.2]
  next h => exact h.1.forget

theorem accept_left {c : Char} :
    ⦃fun r => ⌜Left p head r⌝⦄ accept c ⦃ends p fun b => Left p (if b then head ++ [c] else head)⦄ := by
  unfold accept
  refine Triple.bind _ _ peek_left fun t => ?_
  split
  next ht =>
    subst ht
    refine Triple.bind _ _ skip_left fun _ => ?_
    mvcgen
  next =>
    mvcgen
    next h => exact h.1

theorem next_left :
    ⦃fun r => ⌜Left p head r⌝⦄ next ⦃ends p fun t => Left p (head ++ t.elim [] Token.text)⦄ := by
  unfold next
  refine Triple.bind _ _ peek_left fun t => ?_
  cases t with
  | none =>
    refine Triple.bind _ _ skip_left_end fun _ => ?_
    mvcgen
    simpa
  | some t =>
    refine Triple.bind _ _ skip_left fun _ => ?_
    mvcgen

theorem need_left : ⦃fun r => ⌜Left p head r⌝⦄ need ⦃ends p fun t => Left p (head ++ t.text)⦄ := by
  mvcgen [need, next_left]

theorem takeUpTo_left {q : Char → Bool} {count : Nat} :
    ⦃fun r => ⌜Left p head r⌝⦄ takeUpTo q count ⦃ends p fun s r => Left p (head ++ s) r ∧ s.all q = true⦄ := by
  induction count generalizing head with
  | zero =>
    mvcgen [takeUpTo]
    next h => exact ⟨by simpa using h, rfl⟩
  | succ count ih =>
    rw [takeUpTo]
    refine Triple.bind _ _ peek_left fun t => ?_
    split
    next c =>
      split
      next hc =>
        refine Triple.bind _ _ skip_left fun _ => Triple.bind _ _ ih fun s => ?_
        mvcgen
        next h => exact ⟨by simpa [Token.text] using h.1, by simp [hc, h.2]⟩
      next =>
        mvcgen
        next h => exact ⟨by simpa using h.1, rfl⟩
    next =>
      mvcgen
      next h => exact ⟨by simpa using h.1, rfl⟩

theorem takeAll_left {q : Char → Bool} :
    ⦃fun r => ⌜Left p head r⌝⦄ takeAll q ⦃ends p fun s r => Left p (head ++ s) r ∧ s.all q = true⦄ := by
  mvcgen [takeAll, takeUpTo_left]

/-! The steps of which it matters only that they move forward. -/

@[spec]
theorem moveTo_advances {rest : List Token} (h : rest.flatMap Token.text <:+ p) : Advances p (moveTo rest) :=
  moveTo_left h

@[spec]
theorem peek_advances : Advances p peek := by
  mvcgen [peek]

@[spec]
theorem skip_advances : Advances p skip := by
  mvcgen [skip]
  next h => exact (flatMap_tail_suffix _).trans h.suffix

@[spec]
theorem accept_advances {c : Char} : Advances p (accept c) := by
  mvcgen [accept]

@[spec]
theorem demand_advances {c : Char} : Advances p (demand c) := by
  mvcgen [demand]

@[spec]
theorem need_advances : Advances p need := by
  mvcgen [need, next]

@[spec]
theorem takeUpTo_advances {q : Char → Bool} {count : Nat} : Advances p (takeUpTo q count) := by
  induction count with
  | zero => mvcgen [takeUpTo]
  | succ count ih => mvcgen [takeUpTo, ih]

@[spec]
theorem takeUntil_advances {c : Char} : Advances p (takeUntil c) := by
  mvcgen [takeUntil]
  next h _ _ _ _ hrest _ _ => exact (flatMap_suffix_of_dropWhile hrest).trans h.suffix

@[spec]
theorem hexCode_advances {count : Nat} : Advances p (hexCode count) := by
  mvcgen [hexCode]

@[spec]
theorem namedCode_advances : Advances p namedCode := by
  mvcgen [namedCode]

@[spec]
theorem plainEscape_advances {c : Char} : Advances p (plainEscape c) := by
  mvcgen [plainEscape]

@[spec]
theorem classEscape_advances {c : Char} : Advances p (classEscape c) := by
  mvcgen [classEscape]

@[spec]
theorem checkReference_advances {index : Nat} : Advances p (checkReference index) := by
  mvcgen [checkReference]

@[spec]
theorem checkBehind_advances {index : Nat} : Advances p (checkBehind index) := by
  mvcgen [checkBehind]

@[spec]
theorem backreferenceTo_advances {mode : Mode} {index : Nat} : Advances p (backreferenceTo mode index) := by
  mvcgen [backreferenceTo]

@[spec]
theorem escape_advances {mode : Mode} {c : Char} : Advances p (escape mode c) := by
  mvcgen [escape, numberEscape]

@[spec]
theorem classItem_advances {t : Token} : Advances p (classItem t) := by
  mvcgen [classItem]

@[spec]
theorem classItems_advances {fuel : Nat} {items : List ClassItem} : Advances p (classItems fuel items) := by
  induction fuel generalizing items with
  | zero => mvcgen [classItems]
  | succ fuel ih => mvcgen [classItems, ih]

@[spec]
theorem charClass_advances {mode : Mode} : Advances p (charClass mode) := by
  mvcgen [charClass]

@[spec]
theorem repeatLatest_advances {least : Nat} {most : Option Nat} {parts : List Pattern} :
    Advances p (repeatLatest least most parts) := by
  mvcgen [repeatLatest]

@[spec]
theorem openGroup_advances {name : Option Text} : Advances p (openGroup name) := by
  mvcgen [openGroup]
  next h _ _ _ => exact ⟨h.suffix, h.switches⟩
  next h _ _ _ _ _ _ => exact ⟨h.suffix, h.switches⟩

@[spec]
theorem closeGroup_advances {index : Nat} {body : Pattern} : Advances p (closeGroup index body) := by
  mvcgen [closeGroup]
  next h _ => exact ⟨h.suffix, h.switches⟩

@[spec]
theorem groupName_advances {closing : Char} : Advances p (groupName closing) := by
  mvcgen [groupName]

@[spec]
theorem condition_advances : Advances p condition := by
  mvcgen [condition]
  next h _ => exact ⟨h.suffix, h.switches⟩

@[spec]
theorem switchesOff_advances {fuel : Nat} {off : List Switch} : Advances p (switchesOff fuel off) := by
  induction fuel generalizing off with
  | zero => mvcgen [switchesOff]
  | succ fuel ih => mvcgen [switchesOff, ih]

@[spec]
theorem skipComment_advances : Advances p skipComment := by
  mvcgen [skipComment]
  next h _ _ _ hrest => exact (flatMap_suffix_of_dropWhile hrest).trans h.suffix

@[spec]
theorem skipLine_advances : Advances p skipLine := by
  mvcgen [skipLine]
  next h _ _ _ => exact ((flatMap_tail_suffix _).trans (flatMap_dropWhile_suffix _ _)).trans h.suffix

/-! Counts in braces, and the switches of a group. -/

theorem hasBounds_of_exact {count : Text} {r : Reading} (h : Left p ('\x7b' :: count ++ ['\x7d']) r)
    (digits : count.all isAsciiDigit = true) : HasBounds p count count := by
  obtain ⟨before, hbefore⟩ := h.suffix
  have hsplit : p = before ++ '\x7b' :: count ++ '\x7d' :: r.left := by rw [← hbefore]; simp
  exact .exact hsplit digits

theorem hasBounds_of_range {least most : Text} {r : Reading}
    (h : Left p ('\x7b' :: least ++ [','] ++ most ++ ['\x7d']) r) (leastDigits : least.all isAsciiDigit = true)
    (mostDigits : most.all isAsciiDigit = true) : HasBounds p least most := by
  obtain ⟨before, hbefore⟩ := h.suffix
  have hsplit : p = before ++ '\x7b' :: least ++ ',' :: most ++ '\x7d' :: r.left := by rw [← hbefore]; simp
  exact .range hsplit leastDigits mostDigits

theorem countOf_left {count : Text} (h : ∀ r, Left p head r → HasCount p count) :
    ⦃fun r => ⌜Left p head r⌝⦄ countOf count ⦃ends p fun _ => Left p head⦄ := by
  rw [triple_iff]
  intro r hr
  by_cases long : digitLimit < count.length
  · simpa [countOf, long] using! ⟨count, h r hr, rfl, long⟩
  · by_cases huge : hugeCount ≤ numberOf 10 count
    · simpa [countOf, long, huge] using! ⟨count, h r hr, huge⟩
    · simpa [countOf, long, huge] using! hr

theorem closeBounds_left {start : List Token} {least most : Text} (hback : start.flatMap Token.text <:+ p)
    (h : ∀ r, Left p (head ++ ['\x7d']) r → HasBounds p least most) :
    ⦃fun r => ⌜Left p head r⌝⦄ closeBounds start least most ⦃ends p fun _ => Left p []⦄ := by
  unfold closeBounds
  refine Triple.bind _ _ accept_left fun closed => ?_
  cases closed with
  | false =>
    mvcgen
    next hr => exact hr.forget
  | true =>
    refine Triple.bind _ _ (countOf_left fun r hr => ⟨most, Or.inl (h r hr)⟩) fun lo => ?_
    split
    next =>
      mvcgen
      next hr => exact hr.forget
    next =>
      refine Triple.bind _ _ (countOf_left fun r hr => ⟨least, Or.inr (h r hr)⟩) fun hi => ?_
      mvcgen
      next hr => exact hr.forget

@[spec]
theorem bounds_advances : ⦃fun r => ⌜Left p ['\x7b'] r⌝⦄ bounds ⦃ends p fun _ => Left p []⦄ := by
  have hpeek : ⦃fun r => ⌜Left p ['\x7b'] r⌝⦄ peek ⦃ends p fun _ => Left p ['\x7b']⦄ := by
    unfold peek
    mvcgen
  unfold bounds
  refine Triple.bind _ _ hpeek fun t => ?_
  split
  next =>
    mvcgen
    next h => exact h.forget
  next =>
    refine Triple.bind _ _ get_left fun start => triple_of_and fun hstart => ?_
    have hback := hstart.forget.suffix
    refine Triple.bind _ _ takeAll_left fun least => triple_of_and fun hleast => ?_
    refine Triple.bind _ _ accept_left fun comma => ?_
    cases comma with
    | true =>
      refine Triple.bind _ _ takeAll_left fun most => triple_of_and fun hmost => ?_
      exact closeBounds_left hback fun r hr => hasBounds_of_range hr hleast hmost
    | false =>
      exact closeBounds_left hback fun r hr => hasBounds_of_exact hr hleast

/-- The switches of a group for the whole pattern are named by its letters; `done` are those before `c`. -/
theorem switchesOn_left {fuel : Nat} {done : Text} {c : Char} {on : List Switch}
    (hon : ∀ s ∈ on, s ∈ done.filterMap Switch.ofLetter?) :
    ⦃fun r => ⌜Left p ('(' :: '?' :: done ++ [c]) r⌝⦄ switchesOn fuel c on
      ⦃ends p fun result r => Left p [] r ∧ (result.1 = ')' → ∀ s ∈ result.2, HasSwitch p s)⦄ := by
  induction fuel generalizing done c on with
  | zero => mvcgen [switchesOn]
  | succ fuel ih =>
    rw [switchesOn]
    split
    next => mvcgen
    next switch hswitch =>
      have hnext : ∀ s ∈ switch :: on, s ∈ (done ++ [c]).filterMap Switch.ofLetter? := by
        rw [List.forall_mem_cons]
        exact ⟨by simp [hswitch], fun s hs => by simp [List.mem_filterMap.1 (hon s hs)]⟩
      dsimp only
      split
      next => mvcgen
      next =>
        refine Triple.bind _ _ need_left fun t => ?_
        cases t with
        | escaped d => mvcgen
        | plain d =>
          dsimp only
          split
          next =>
            mvcgen
            next r h =>
              refine ⟨h.forget, fun hd s hs => ?_⟩
              subst hd
              obtain ⟨before, hbefore⟩ := h.suffix
              exact ⟨before, done ++ [c], r.left, by rw [← hbefore]; simp [Token.text], hnext s hs⟩
          next => exact @ih (done ++ [c]) d (switch :: on) hnext

/-- What the opening of a group sets for the whole pattern. -/
def Opening.Sets (p : Text) : Opening → Prop
  | .whole on => ∀ s ∈ on, HasSwitch p s
  | _ => True

@[spec]
theorem partSwitches_left {on off : List Switch} :
    ⦃fun r => ⌜Left p [] r⌝⦄ partSwitches on off ⦃ends p fun o r => Left p [] r ∧ o.Sets p⦄ := by
  mvcgen [partSwitches]

@[spec]
theorem opening_left :
    ⦃fun r => ⌜Left p ['('] r⌝⦄ opening ⦃ends p fun o r => Left p [] r ∧ o.Sets p⦄ := by
  unfold opening
  refine Triple.bind _ _ accept_left fun mark => ?_
  cases mark with
  | false =>
    mvcgen
    next h => exact ⟨h.forget, trivial⟩
  | true =>
    refine Triple.bind _ _ need_left fun t => ?_
    dsimp only
    split
    -- only the letters of switches have to be told what was read before them
    case h_10 c _ _ _ _ _ _ _ _ _ =>
      refine Triple.bind _ _ get_left fun r => triple_of_and fun hr => ?_
      refine Triple.bind _ _ (@switchesOn_left p _ [] c [] nofun) fun result => ?_
      mvcgen
      next h => exact h
      next h => exact h.1
      next h => exact h.1
    all_goals
      mvcgen
      all_goals first | exact Left.forget ‹_› | exact ⟨Left.forget ‹_›, trivial⟩

/-- However deep it is nested, a pattern is read forward. -/
theorem alternatives_sequence_advance (fuel : Nat) :
    (∀ top first mode, Advances p (alternatives fuel top first mode)) ∧
      ∀ first mode parts, Advances p (sequence fuel first mode parts) := by
  induction fuel with
  | zero =>
    constructor
    · intro top first mode
      mvcgen [alternatives]
    · intro first mode parts
      mvcgen [sequence]
  | succ fuel ih =>
    obtain ⟨iha, ihs⟩ := ih
    constructor
    · intro top first mode
      mvcgen [alternatives, iha, ihs]
    · intro first mode parts
      rw [sequence]
      refine Triple.bind _ _ peek_left fun t => ?_
      split
      case h_4 t _ _ =>
        refine Triple.bind _ _ skip_left fun _ => ?_
        mvcgen [iha, ihs]
        -- counts and openings are told what has been read; for all else it can be forgotten
        all_goals try first | exact Left.forget ‹_› | exact And.left ‹_›
        next h _ => exact ⟨h.1.suffix, fun s hs => (List.mem_append.1 hs).elim (h.2 s) (h.1.switches s)⟩
        next h _ _ _ _ => exact ⟨h.1.suffix, h.1.switches⟩
        next h _ => exact ⟨h.suffix, h.switches⟩
      all_goals
        mvcgen
        next h => exact h.1

theorem whole_left {fuel : Nat} {mode : Mode} :
    ⦃fun r => ⌜Left p [] r⌝⦄ whole fuel mode ⦃ends p fun _ _ => True⦄ := by
  have halternatives := (@alternatives_sequence_advance p fuel).1
  unfold whole
  refine Triple.bind _ _ get_left fun start => triple_of_and fun hstart => ?_
  refine Triple.bind _ _ (moveTo_advances hstart.suffix) fun _ => ?_
  refine Triple.bind _ _ (halternatives _ _ _) fun body => ?_
  refine Triple.bind _ _ get_left fun r => triple_of_and fun hr => ?_
  by_cases hboth : (r.switches.contains .ascii && r.switches.contains .unicode) = true
  · rw [if_pos hboth]
    rw [Bool.and_eq_true, List.contains_iff_mem, List.contains_iff_mem] at hboth
    exact triple_iff.2 fun _ _ => ⟨hr.switches _ hboth.1, hr.switches _ hboth.2⟩
  · rw [if_neg hboth]
    mvcgen

end

/-- A text that is refused as a pattern has a cause, whatever the names of characters are. -/
theorem hasCause_of_ofText {charNamed : Text → Option Char} {s : Text} {fault : Fault}
    (h : ofText charNamed s = .error fault) : HasCause s fault := by
  have hstart : Left s [] ⟨charNamed, tokens s, { ignoreCase := true }, [], [none], [], none, []⟩ := by
    refine ⟨?_, nofun⟩
    rw [Reading.left, flatMap_tokens]
    exact List.suffix_rfl
  have hleft := triple_iff.1 (@whole_left s (2 * (tokens s).length + 2) { ignoreCase := true }) _ hstart
  rw [map_eq_error_iff.1 h] at hleft
  exact hleft

end Dockgraph.Pattern
