import Dockgraph.Pattern.Basic

/-! Search for a pattern in a text: choices are tried in order, and the first way that lets the whole
pattern succeed counts. -/

namespace Dockgraph.Pattern

/-- A place in a text, by the characters before it, nearest first, and those after it. -/
structure Place where
  before : Text
  after : Text

/-- What a group has spanned, and how many characters were left at its end. -/
structure Span where
  text : Text
  left : Nat

/-- A place with what the groups have spanned, the latest first, and how many characters were left where each was
opened. -/
structure Match where
  place : Place
  spans : List (Nat × Span)
  openings : List (Nat × Nat)

def Match.start (place : Place) : Match := ⟨place, [], []⟩

/-- Whether a group has spanned something, at a place that is not before the one where it was opened last. -/
def Match.has (m : Match) (index : Nat) : Bool :=
  (m.spans.lookup index).any fun span => (m.openings.lookup index).all (span.left ≤ ·)

abbrev Continuation := Match → Option Match

def Place.next? : Place → Option (Char × Place)
  | ⟨_, []⟩ => none
  | ⟨before, c :: after⟩ => some (c, ⟨c :: before, after⟩)

/-- The place `n` characters before. -/
def Place.back? : Nat → Place → Option Place
  | 0, at_ => some at_
  | _ + 1, ⟨[], _⟩ => none
  | n + 1, ⟨c :: before, after⟩ => back? n ⟨before, c :: after⟩

/-- The characters between a place and a later one. -/
def Place.upTo (start stop : Place) : Text :=
  start.after.take (start.after.length - stop.after.length)

def isEdgeWord (ascii : Bool) (s : Text) : Bool :=
  match s with
  | [] => false
  | c :: _ => Category.word.admits ascii c

def Edge.holds (at_ : Place) : Edge → Bool
  | .textStart => at_.before.isEmpty
  | .textEnd => at_.after.isEmpty
  | .lastLineEnd => at_.after.isEmpty || at_.after == ['\n']
  | .lineStart => at_.before.isEmpty || at_.before.head? == some '\n'
  | .lineEnd => at_.after.isEmpty || at_.after.head? == some '\n'
  | .wordEdge ascii => isEdgeWord ascii at_.before != isEdgeWord ascii at_.after
  | .noWordEdge ascii =>
    !(at_.before.isEmpty && at_.after.isEmpty)
      && isEdgeWord ascii at_.before == isEdgeWord ascii at_.after

/-- Whether an item lists a character, case apart: some listed character has one of its lower case
forms. Beyond sixteen bits a single code is compared with the lower case alone, and a range with the
lower case and the first character of its upper case. -/
def ClassItem.admitsFolded (mode : Mode) (c : Char) : ClassItem → Bool
  | .code n => if n < 0x10000 then mode.sameCode n c else (mode.lower c).toNat == n
  | .range lo hi =>
    let within (d : Char) : Bool := lo ≤ d.toNat && d.toNat ≤ hi
    let sources := (mode.forms c).flatMap mode.sources
    sources.any (fun d => d.toNat < 0x10000 && within d)
      || (0x10000 ≤ hi && (mode.lower c :: (Text.upperChar (mode.lower c)).take 1).any within)
  | .category kind negated => kind.admits mode.ascii (mode.lower c) != negated

def ClassItem.admits (mode : Mode) (c : Char) : ClassItem → Bool
  | .code n => c.toNat == n
  | .range lo hi => lo ≤ c.toNat && c.toNat ≤ hi
  | .category kind negated => kind.admits mode.ascii c != negated

/-- Whether a class lists a character. -/
def listed (mode : Mode) (items : List ClassItem) (c : Char) : Bool :=
  if mode.ignoreCase then items.any (·.admitsFolded mode c) else items.any (·.admits mode c)

/-- One character that passes a test. -/
def one (test : Char → Bool) (m : Match) (k : Continuation) : Option Match :=
  match m.place.next? with
  | some (c, place) => if test c then k { m with place } else none
  | none => none

/-- The place after a text that stands here, case apart if the mode says so. -/
def follow? (mode : Mode) : Text → Place → Option Place
  | [], at_ => some at_
  | expected :: s, at_ =>
    match at_.next? with
    | none => none
    | some (c, place) =>
      let same := if mode.ignoreCase then mode.lower expected == mode.lower c else expected == c
      if same then follow? mode s place else none

/-- A pattern's way of matching: from here, so that the continuation succeeds. -/
abbrev Matcher := Match → Continuation → Option Match

/-- Repetition with `count` done. Once the least count is done a round is tried only if the one
before has moved on, `since` being how many characters were left when that began. -/
def rounds (appetite : Appetite) (least : Nat) (most : Option Nat) (body : Matcher)
    (k : Continuation) : Nat → Nat → Option Nat → Match → Option Match
  | 0, _, _, _ => none
  | fuel + 1, count, since, m =>
    if count < least then body m (rounds appetite least most body k fuel (count + 1) since)
    else
      let left := m.place.after.length
      let another (_ : Unit) :=
        if most.all (count < ·) && since != some left then
          body m (rounds appetite least most body k fuel (count + 1) (some left))
        else none
      match appetite with
      | .lazy => (k m).orElse another
      | _ => (another ()).orElse fun _ => k m

/-- Repetition that never gives back a round. -/
def allRounds (least : Nat) (most : Option Nat) (body : Matcher) :
    Nat → Nat → Option Nat → Match → Option Match
  | 0, _, _, m => some m
  | fuel + 1, count, since, m =>
    if count < least then (body m some).bind (allRounds least most body fuel (count + 1) since)
    else
      let left := m.place.after.length
      if most.all (count < ·) && since != some left then
        match body m some with
        | some next => allRounds least most body fuel (count + 1) (some left) next
        | none => some m
      else some m

/-- More rounds than any repetition from here can take. -/
def roundLimit (least : Nat) (m : Match) : Nat :=
  least + m.place.after.length + 2

/-- Matches a pattern here so that the continuation succeeds on what follows. -/
def run : Pattern → Matcher
  | .nothing, m, k => k m
  | .code mode negated n, m, k => one (fun c => mode.sameCode n c != negated) m k
  | .oneOf mode negated items, m, k => one (fun c => listed mode items c != negated) m k
  | .any newline, m, k => one (fun c => newline || c != '\n') m k
  | .edge place, m, k => if place.holds m.place then k m else none
  | .seq p q, m, k => p.run m fun n => q.run n k
  | .choice p q, m, k => (p.run m k).orElse fun _ => q.run m k
  | .group index p, m, k =>
    p.run { m with openings := (index, m.place.after.length) :: m.openings } fun n =>
      k { n with spans := (index, ⟨m.place.upTo n.place, n.place.after.length⟩) :: n.spans }
  | .plainGroup p, m, k => p.run m k
  | .atomic p, m, k => (p.run m some).bind k
  | .repeated appetite least most p, m, k =>
    match appetite with
    | .possessive => (allRounds least most p.run (roundLimit least m) 0 none m).bind k
    | _ => rounds appetite least most p.run k (roundLimit least m) 0 none m
  | .backreference mode index _ _, m, k =>
    match m.spans.lookup index with
    | none => none
    | some span =>
      match follow? mode span.text m.place with
      | some place => k { m with place }
      | none => none
  | .look behind negated p, m, k =>
    let start? := if behind then m.place.back? p.width.least else some m.place
    let found := start?.bind fun place => p.run { m with place } some
    if negated then (if found.isSome then none else k m)
    else found.bind fun n => k { n with place := m.place }
  | .ifGroup index p q, m, k =>
    if m.has index then p.run m k else q.run m k

/-- Whether the pattern matches here or at a later place. -/
def occursFrom (p : Pattern) (before : Text) : Text → Bool
  | [] => (p.run (.start ⟨before, []⟩) some).isSome
  | c :: after =>
    (p.run (.start ⟨before, c :: after⟩) some).isSome || occursFrom p (c :: before) after

/-- Whether the pattern matches somewhere in the text. -/
def occursIn (p : Pattern) (s : Text) : Bool :=
  occursFrom p [] s

end Dockgraph.Pattern
