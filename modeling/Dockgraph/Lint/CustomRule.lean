import Dockgraph.Json.Access
import Dockgraph.Lint.Recognition
import Dockgraph.Notice
import Dockgraph.Pattern.Engine

/-! Rules that users bring along: a pattern, the instruction that it is for, and what to say of a line that
has it. -/

namespace Dockgraph.Lint

open Pattern (Engine)

structure CustomRule (σ : Type := Char) where
  /-- Whether the pattern is found in a line. -/
  finds : Text → Bool
  /-- The keyword of the only instruction that the rule is for; empty for all. -/
  only : Text
  remark : List σ
  /-- Whether the remark has an integer that is too long to be written. -/
  isOverlong : Bool

/-- The entry's parts, where it is an object with a pattern and, if any, the name of an instruction. What it has to say
is a value of any kind. -/
structure RuleEntry (σ : Type := Char) where
  pattern : List σ
  instruction : List σ
  remark : Json σ

section
variable {σ : Type} [Glyph σ] [DecidableEq σ]

/-- A text field of a rule; what is not truthy counts as an empty text. -/
def textField? (name : Text) (fields : List (List σ × Json σ)) : Option (List σ) :=
  match (Json.field? (Glyph.ofText name) fields).bind Json.truthy? with
  | none => some []
  | some (.text s) => some s
  | some _ => none

/-- What a rule says: its message or, failing that, its id. -/
def remarkOf (fields : List (List σ × Json σ)) : Json σ :=
  match (Json.field? (Glyph.ofText "message".toList) fields).bind Json.truthy? with
  | some v => v
  | none => (Json.field? (Glyph.ofText "id".toList) fields).getD .null

/-- Reads an entry; none where it is malformed. -/
def RuleEntry.ofJson? : Json σ → Option (RuleEntry σ)
  | .object fields =>
    match textField? "pattern".toList fields, textField? "instruction".toList fields with
    | some pattern, some instruction =>
      if pattern.isEmpty then none else some ⟨pattern, instruction, remarkOf fields⟩
    | _, _ => none
  | _ => none

variable {ε : Type} (E : Engine σ ε)

/-- The rule of an entry. A half is in no keyword, whatever it is shown by. -/
def CustomRule.ofEntry (e : RuleEntry σ) : Except ε (CustomRule σ) :=
  (E.search e.pattern).map fun finds =>
    { finds
      only := Text.upper (Glyph.toText e.instruction)
      remark := e.remark.display
      isOverlong := e.remark.excess?.isSome }

/-- The well-formed rules of a list, in order. -/
def CustomRule.ofList : List (Json σ) → Except ε (List (CustomRule σ))
  | [] => .ok []
  | entry :: rest =>
    match RuleEntry.ofJson? entry with
    | none => ofList rest
    | some e =>
      match CustomRule.ofEntry E e with
      | .error fault => .error fault
      | .ok rule => (ofList rest).map (rule :: ·)

/-- What is told of the malformed entries, up to one that cannot be used at all. -/
def skipNotices : List (Json σ) → List Notice
  | [] => []
  | entry :: rest =>
    match RuleEntry.ofJson? entry with
    | none =>
      .operation .warning ("Skipping malformed custom rule: ".toList ++ entry.inspect)
        :: skipNotices rest
    | some e =>
      match CustomRule.ofEntry E e with
      | .error _ => []
      | .ok _ => skipNotices rest

end

variable {σ : Type}

/-- The entries of a rule list of any kind; nothing truthy is no list. -/
def ruleEntries (rules : Json σ) : Except Json.AccessError (List (Json σ)) :=
  match rules.truthy? with
  | none => .ok []
  | some v => v.elements

/-- Whether the rule has something to say of a line. -/
def CustomRule.applies (rule : CustomRule σ) (line : Text) (s : Statement) : Bool :=
  (rule.only.isEmpty || rule.only == s.keyword) && rule.finds line

end Dockgraph.Lint

namespace Dockgraph

def Pattern.Fault.message : Pattern.Fault → Text
  | .malformed => "malformed pattern".toList
  | .hugeRepetition => "the repetition number is too large".toList
  | .longCount digits => Numeral.tooLongToRead digits
  | .asciiAndUnicode => "ASCII and UNICODE flags are incompatible".toList
  | .longInteger => Numeral.tooLongToWrite

end Dockgraph
