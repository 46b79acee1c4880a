import Dockgraph.Number.Numeral
import Dockgraph.Text.Quoted

/-! The words of a command line as options and operands. An option may be shortened as long as no other
begins like it; a value may be attached to it; after `--` all words are operands. -/

namespace Dockgraph.Arguments

/-- What an option does. -/
inductive Kind where
  | help
  | flag
  | text
  | integer
  deriving DecidableEq, Repr

structure Switch where
  /-- How the option is written; it is known by the first of them. -/
  spellings : List Text
  kind : Kind
  deriving DecidableEq, Repr

def Switch.name (s : Switch) : Text :=
  s.spellings.headD []

/-- All spellings, for messages. -/
def Switch.title (s : Switch) : Text :=
  Text.joinWith ['/'] s.spellings

def Switch.takesValue (s : Switch) : Bool :=
  s.kind == .text || s.kind == .integer

/-- The operands that a form has room for. -/
inductive Operands where
  | none
  | one (title : Text)
  | optional
  | many (title : Text)
  /-- One of some words, and whatever follows it. -/
  | command (title : Text) (choices : List Text)
  deriving DecidableEq, Repr

structure Form where
  switches : List Switch
  operands : Operands

inductive Fault where
  | help
  | ambiguous (word : Text) (spellings : List Text)
  | attached (s : Switch) (value : Text)
  | noValue (s : Switch)
  | notInteger (s : Switch) (value : Text)
  | notChoice (title word : Text) (choices : List Text)
  | noOperand (title : Text)
  | unrecognized (words : List Text)
  deriving DecidableEq, Repr

def onSwitch (s : Switch) (message : Text) : Text :=
  "argument ".toList ++ s.title ++ ": ".toList ++ message

def listed (words : List Text) : Text :=
  Text.joinWith ", ".toList words

def Fault.message : Fault → Text
  | .help => "help is wanted".toList
  | .ambiguous word spellings =>
    "ambiguous option: ".toList ++ word ++ " could match ".toList ++ listed spellings
  | .attached s value => onSwitch s ("ignored explicit argument ".toList ++ Text.quoted value)
  | .noValue s => onSwitch s "expected one argument".toList
  | .notInteger s value => onSwitch s ("invalid int value: ".toList ++ Text.quoted value)
  | .notChoice title word choices =>
    "argument ".toList ++ title ++ ": invalid choice: ".toList ++ Text.quoted word
      ++ " (choose from ".toList ++ listed (choices.map Text.quoted) ++ [')']
  | .noOperand title => "the following arguments are required: ".toList ++ title
  | .unrecognized words => "unrecognized arguments: ".toList ++ Text.joinWith [' '] words

/-- An option that a word names, in which spelling, and the value attached to it. -/
structure Match where
  switch : Switch
  spelling : Text
  attached : Option Text

/-- What a word is. -/
inductive Token where
  | separator
  | operand (word : Text)
  | option (word : Text) (found : Option Match)

def separator : Text := ['-', '-']

def Token.word : Token → Text
  | .separator => Arguments.separator
  | .operand word => word
  | .option word _ => word

def Token.isOption : Token → Bool
  | .option .. => true
  | _ => false

/-- The options with each of their spellings. -/
def Form.table (f : Form) : List (Text × Switch) :=
  f.switches.flatMap fun s => s.spellings.map fun x => (x, s)

def Form.find? (f : Form) (spelling : Text) : Option Switch :=
  f.table.lookup spelling

/-- A word up to its first equals sign, and what follows that. -/
def splitValue (word : Text) : Text × Option Text :=
  match word.dropWhile (· != '=') with
  | [] => (word, none)
  | _ :: value => (word.takeWhile (· != '='), some value)

/-- The options whose spelling goes on from a shortened long one. -/
def longMatches (f : Form) (word : Text) : List Match :=
  let (start, value) := splitValue word
  (f.table.filter fun x => start.isPrefixOf x.1).map fun x => ⟨x.2, x.1, value⟩

/-- The options of one letter that a word begins with, the rest attached to it, and those whose spelling
goes on from the word. -/
def shortMatches (f : Form) (word : Text) : List Match :=
  f.table.filterMap fun x =>
    if x.1 = word.take 2 then some ⟨x.2, x.1, some (word.drop 2)⟩
    else if word.isPrefixOf x.1 then some ⟨x.2, x.1, none⟩
    else none

def isLong (word : Text) : Bool :=
  Arguments.separator.isPrefixOf word

def matchesOf (f : Form) (word : Text) : List Match :=
  if isLong word then longMatches f word else shortMatches f word

def isDigits (s : Text) : Bool :=
  !s.isEmpty && s.all Text.isDecimalDigit

/-- Drops a newline at the end. -/
def dropNewline (s : Text) : Text :=
  if s.getLast? = some '\n' then s.dropLast else s

/-- Whether a word writes a negative number, which no option does. -/
def isNegative (word : Text) : Bool :=
  match dropNewline word with
  | '-' :: s =>
    match s.dropWhile Text.isDecimalDigit with
    | [] => !s.isEmpty
    | '.' :: fraction => isDigits fraction
    | _ => false
  | _ => false

/-- The option that a word names in full, its value attached or not. -/
def inFull? (f : Form) (word : Text) : Option Match :=
  match f.find? word with
  | some s => some ⟨s, word, none⟩
  | none =>
    match splitValue word with
    | (_, none) => none
    | (spelling, some value) => (f.find? spelling).map fun s => ⟨s, spelling, some value⟩

/-- What a word is that begins with a hyphen and is longer. -/
def hyphenated (f : Form) (word : Text) : Except Fault Token :=
  match inFull? f word with
  | some m => .ok (.option word (some m))
  | none =>
    match matchesOf f word with
    | [] => .ok (if isNegative word || word.contains ' ' then .operand word else .option word none)
    | [m] => .ok (.option word (some m))
    | ms => .error (.ambiguous word (ms.map (·.spelling)))

def tokenOf (f : Form) (word : Text) : Except Fault Token :=
  if word.head? = some '-' && 1 < word.length then hyphenated f word else .ok (.operand word)

def tokens (f : Form) : List Text → Except Fault (List Token)
  | [] => .ok []
  | word :: rest =>
    if word = Arguments.separator then .ok (.separator :: rest.map .operand)
    else do
      let t ← tokenOf f word
      let ts ← tokens f rest
      return t :: ts

/-- What a command line says. -/
structure Reading where
  /-- The options by name, each with its value, in order. -/
  given : List (Text × Text)
  operands : Option (List Text)
  /-- The words that found no place. -/
  leftover : List Text
  deriving DecidableEq, Repr

namespace Reading

def has (r : Reading) (name : String) : Bool :=
  r.given.any fun g => g.1 == name.toList

/-- The last value that an option was given. -/
def value? (r : Reading) (name : String) : Option Text :=
  r.given.reverse.lookup name.toList

/-- Takes up an option with its value. -/
def give (r : Reading) (s : Switch) (value : Text) : Except Fault Reading :=
  match s.kind with
  | .help => .error .help
  | .integer =>
    if Numeral.isInteger value then .ok { r with given := r.given ++ [(s.name, value)] }
    else .error (.notInteger s value)
  | _ => .ok { r with given := r.given ++ [(s.name, value)] }

def giveFlags (r : Reading) (flags : List Switch) : Except Fault Reading :=
  flags.foldlM (fun r s => r.give s []) r

def leave (r : Reading) (word : Text) : Reading :=
  { r with leftover := r.leftover ++ [word] }

end Reading

/-- The options that one word stands for: flags, and a last one with the value attached to it. -/
structure Bundle where
  flags : List Switch
  last : Switch
  value : Option Text

/-- The options of one letter each from a given one on, with the letters behind it. -/
def letters (f : Form) (s : Switch) : Text → Except Fault Bundle
  | [] => .ok ⟨[], s, none⟩
  | c :: rest =>
    if s.takesValue then .ok ⟨[], s, some (c :: rest)⟩
    else
      match f.find? ['-', c] with
      | none => .error (.attached s (c :: rest))
      | some next => (letters f next rest).map fun b => { b with flags := s :: b.flags }

def Match.bundle (f : Form) (m : Match) : Except Fault Bundle :=
  match m.attached with
  | none => .ok ⟨[], m.switch, none⟩
  | some value =>
    if m.switch.takesValue then .ok ⟨[], m.switch, some value⟩
    else if isLong m.spelling || value.isEmpty then .error (.attached m.switch value)
    else letters f m.switch value

/-- Takes up the options of a word, and how many words after it are their value. -/
def takeOption (f : Form) (r : Reading) (m : Match) (rest : List Token) : Except Fault (Reading × Nat) := do
  let b ← m.bundle f
  match b.value with
  | some value => return (← (← r.giveFlags b.flags).give b.last value, 0)
  | none =>
    if b.last.takesValue then
      match rest with
      | .operand value :: _ => return (← (← r.giveFlags b.flags).give b.last value, 1)
      | _ => throw (.noValue b.last)
    else return (← (← r.giveFlags b.flags).give b.last [], 0)

/-- How many of the words are operands of the form; none where there are too few. -/
def Operands.count : Operands → List Token → Nat
  | .none, _ => 0
  | .many _, ts =>
    let run := ts.takeWhile fun t => !t.isOption
    if run.all fun t => t matches .separator then 0 else run.length
  | .command .., .operand _ :: rest => rest.length + 1
  | .command .., .separator :: .operand _ :: rest => rest.length + 2
  | .command .., _ => 0
  | _, .separator :: .operand _ :: _ => 2
  | _, .operand _ :: .separator :: _ => 2
  | _, .operand _ :: _ => 1
  | .optional, .separator :: _ => 1
  | _, _ => 0

/-- Takes up operands: without the first separator, unless they make up a command of their own. -/
def Operands.accept : Operands → List Text → Except Fault (List Text)
  | .command title choices, words =>
    let word := words.headD []
    if choices.contains word then .ok words else .error (.notChoice title word choices)
  | _, words => .ok (words.erase Arguments.separator)

/-- Takes up a word, and how many words after it go with it. -/
def take (f : Form) (r : Reading) (t : Token) (rest : List Token) : Except Fault (Reading × Nat) :=
  match t with
  | .option _ (some m) => takeOption f r m rest
  | .option word none => .ok (r.leave word, 0)
  | t =>
    match r.operands, f.operands.count (t :: rest) with
    | none, n + 1 => do
      let words ← f.operands.accept (((t :: rest).take (n + 1)).map Token.word)
      return ({ r with operands := some words }, n)
    | _, _ => .ok (r.leave t.word, 0)

/-- Takes up the words, the first `covered` of which go with one before. -/
def takeAll (f : Form) (r : Reading) (covered : Nat) : List Token → Except Fault Reading
  | [] => .ok r
  | t :: rest =>
    match covered with
    | n + 1 => takeAll f r n rest
    | 0 =>
      match take f r t rest with
      | .error fault => .error fault
      | .ok (r, n) => takeAll f r n rest

/-- Refuses a reading without the operands that the form needs. -/
def requireOperands (f : Form) (r : Reading) : Except Fault Reading :=
  match r.operands, f.operands with
  | none, .one title => .error (.noOperand title)
  | none, .many title => .error (.noOperand title)
  | none, .command title _ => .error (.noOperand title)
  | _, _ => .ok r

/-- Reads the words of a command line. -/
def read (f : Form) (words : List Text) : Except Fault Reading := do
  let ts ← tokens f words
  let r ← takeAll f ⟨[], none, []⟩ 0 ts
  requireOperands f r

end Dockgraph.Arguments
