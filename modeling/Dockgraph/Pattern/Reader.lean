import Dockgraph.Number.Numeral
import Dockgraph.Pattern.Basic
import Dockgraph.Text.Identifier

/-! Reading a pattern from text. A backslash and the character after it are one token. Which characters have a name,
and which one, is for the caller to say. -/

namespace Dockgraph.Pattern

/-- Why a text is no pattern. A malformed one can still be searched for as it stands; the others are refused
altogether. -/
inductive Fault where
  | malformed
  | hugeRepetition
  /-- A count with too many digits. -/
  | longCount (digits : Nat)
  | asciiAndUnicode
  /-- An integer that is too long to be written, in the remark of a rule. -/
  | longInteger
  deriving DecidableEq, Repr

/-- The switches of a group. `template` forbids repetition and can be set for a whole pattern only. -/
inductive Switch where
  | ignoreCase
  | ascii
  | unicode
  | dotAll
  | multiline
  | verbose
  | template
  deriving DecidableEq, Repr

def Switch.ofLetter? : Char → Option Switch
  | 'i' => some .ignoreCase
  | 'a' => some .ascii
  | 'u' => some .unicode
  | 's' => some .dotAll
  | 'm' => some .multiline
  | 'x' => some .verbose
  | 't' => some .template
  | _ => none

def Mode.turnOn (mode : Mode) : Switch → Mode
  | .ignoreCase => { mode with ignoreCase := true }
  | .ascii => { mode with ascii := true }
  | .unicode => { mode with ascii := false }
  | .dotAll => { mode with dotAll := true }
  | .multiline => { mode with multiline := true }
  | .verbose => { mode with verbose := true }
  | .template => mode

def Mode.turnOff (mode : Mode) : Switch → Mode
  | .ignoreCase => { mode with ignoreCase := false }
  | .dotAll => { mode with dotAll := false }
  | .multiline => { mode with multiline := false }
  | .verbose => { mode with verbose := false }
  | _ => mode

/-- A character of a pattern, on its own or after a backslash. -/
inductive Token where
  | plain (c : Char)
  | escaped (c : Char)
  deriving DecidableEq, Repr

/-- What a token is written as. -/
def Token.text : Token → Text
  | .plain c => [c]
  | .escaped c => ['\\', c]

/-- What the reader has met: the mode and the switches of the whole pattern, the widths of its groups
from the first (none while a group is open), their names, the number of groups that a look behind
may refer to, and the groups that conditions name. -/
structure Reading where
  /-- The character of a name. -/
  charNamed : Text → Option Char
  rest : List Token
  mode : Mode
  switches : List Switch
  widths : List (Option Width)
  names : List (Text × Nat)
  behindGroups : Option Nat
  conditions : List Nat

abbrev Read := StateT Reading (Except Fault)

def malformed {α : Type} : Read α :=
  throw .malformed

/-- A backslash with nothing after it stays alone. -/
def tokens : Text → List Token
  | [] => []
  | [c] => [.plain c]
  | c :: d :: s => if c = '\\' then .escaped d :: tokens s else .plain c :: tokens (d :: s)

/-- Moves to these tokens; a lone backslash among them is met as soon as it comes first. -/
def moveTo (rest : List Token) : Read Unit :=
  if rest.head? = some (.plain '\\') then malformed else modify fun r => { r with rest }

def peek : Read (Option Token) := do
  return (← get).rest.head?

def skip : Read Unit := do
  moveTo (← get).rest.tail

def next : Read (Option Token) := do
  let token ← peek
  skip
  return token

/-- The next token, which must be there. -/
def need : Read Token := do
  match ← next with
  | some token => return token
  | none => malformed

def accept (c : Char) : Read Bool := do
  if (← peek) = some (.plain c) then
    skip
    return true
  return false

def demand (c : Char) : Read Unit := do
  if !(← accept c) then malformed

/-- Up to `count` single characters that satisfy `p`. -/
def takeUpTo (p : Char → Bool) : Nat → Read Text
  | 0 => return []
  | count + 1 => do
    match ← peek with
    | some (.plain c) =>
      if p c then
        skip
        return c :: (← takeUpTo p count)
      return []
    | _ => return []

/-- The single characters from here on that satisfy `p`. -/
def takeAll (p : Char → Bool) : Read Text := do
  takeUpTo p (← get).rest.length

/-- The tokens before the next `c`, which is skipped; there must be some. -/
def takeUntil (c : Char) : Read Text := do
  let rest := (← get).rest
  let name := (rest.takeWhile (· ≠ .plain c)).flatMap Token.text
  match rest.dropWhile (· ≠ .plain c) with
  | [] => malformed
  | _ :: rest =>
    if name.isEmpty then malformed
    moveTo rest
    return name

def isOctal (c : Char) : Bool :=
  '0' ≤ c && c ≤ '7'

def isHex (c : Char) : Bool :=
  (Text.digitIn? 16 c).isSome

def isAsciiDigit (c : Char) : Bool :=
  '0' ≤ c && c ≤ '9'

/-- The most digits that a decimal number may have. -/
def digitLimit : Nat := 4300

/-- The value of digits in a base. -/
def numberOf (base : Nat) (s : Text) : Nat :=
  Text.valueOf base (s.filterMap (Text.digitIn? base))

/-- A code of exactly `count` hexadecimal digits. -/
def hexCode (count : Nat) : Read Nat := do
  let digits ← takeUpTo isHex count
  if digits.length ≠ count || 0x10ffff < numberOf 16 digits then malformed
  return numberOf 16 digits

/-- The escapes of one character. -/
def controlCode? : Char → Option Nat
  | 'a' => some 7
  | 'b' => some 8
  | 't' => some 9
  | 'n' => some 10
  | 'v' => some 11
  | 'f' => some 12
  | 'r' => some 13
  | '\\' => some 92
  | _ => none

def category? : Char → Option (Category × Bool)
  | 'd' => some (.digit, false)
  | 'D' => some (.digit, true)
  | 's' => some (.space, false)
  | 'S' => some (.space, true)
  | 'w' => some (.word, false)
  | 'W' => some (.word, true)
  | _ => none

def edge? (mode : Mode) : Char → Option Edge
  | 'A' => some .textStart
  | 'Z' => some .textEnd
  | 'b' => some (.wordEdge mode.ascii)
  | 'B' => some (.noWordEdge mode.ascii)
  | _ => none

/-- The code of the character whose name stands in braces. -/
def namedCode : Read Nat := do
  demand '\x7b'
  let name ← takeUntil '\x7d'
  match (← get).charNamed name with
  | some c => return c.toNat
  | none => malformed

/-- A code written by its number, by its name or by itself; letters that mean nothing are refused. -/
def plainEscape (c : Char) : Read Nat := do
  if c = 'N' then namedCode
  else if c = 'x' then hexCode 2
  else if c = 'u' then hexCode 4
  else if c = 'U' then hexCode 8
  else if c.isAlpha then malformed
  else return c.toNat

/-- An escape in a class. -/
def classEscape (c : Char) : Read ClassItem := do
  match controlCode? c, category? c with
  | some n, _ => return .code n
  | none, some (kind, negated) => return .category kind negated
  | none, none =>
    if isOctal c then
      let n := numberOf 8 (c :: (← takeUpTo isOctal 2))
      if 0o377 < n then malformed
      return .code n
    if isAsciiDigit c then malformed
    return .code (← plainEscape c)

/-- Whether a group is closed and may be referred to from here. -/
def checkReference (index : Nat) : Read Width := do
  let r ← get
  match r.widths[index]? with
  | some (some width) => return width
  | _ => malformed

/-- Inside a look behind only groups from before it may be referred to. -/
def checkBehind (index : Nat) : Read Unit := do
  match (← get).behindGroups with
  | none => return
  | some count =>
    let _ ← checkReference index
    if count ≤ index then malformed

def backreferenceTo (mode : Mode) (index : Nat) : Read Pattern := do
  let width ← checkReference index
  checkBehind index
  return .backreference mode index width.least width.most

/-- A digit other than zero after a backslash: three octal digits are a code, else one or two digits
name a group. -/
def numberEscape (mode : Mode) (c : Char) : Read Pattern := do
  match ← takeUpTo isAsciiDigit 1 with
  | [d] =>
    if isOctal c && isOctal d then
      match ← takeUpTo isOctal 1 with
      | [e] =>
        let n := numberOf 8 [c, d, e]
        if 0o377 < n then malformed
        return .code mode false n
      | _ => pure ()
    backreferenceTo mode (numberOf 10 [c, d])
  | _ => backreferenceTo mode (numberOf 10 [c])

def escape (mode : Mode) (c : Char) : Read Pattern := do
  match category? c, edge? mode c, controlCode? c with
  | some (kind, negated), _, _ => return .oneOf mode false [.category kind negated]
  | none, some place, _ => return .edge place
  | none, none, some n => return .code mode false n
  | none, none, none =>
    if c = '0' then return .code mode false (numberOf 8 (← takeUpTo isOctal 2))
    if isAsciiDigit c then numberEscape mode c
    else return .code mode false (← plainEscape c)

/-- The item that a token in a class stands for. -/
def classItem : Token → Read ClassItem
  | .escaped c => classEscape c
  | .plain c => return .code c.toNat

/-- The items of a class up to its closing bracket, which cannot come first. -/
def classItems : Nat → List ClassItem → Read (List ClassItem)
  | 0, _ => malformed
  | fuel + 1, items => do
    let token ← need
    if token = .plain ']' && !items.isEmpty then return items.reverse
    let item ← classItem token
    if ← accept '-' then
      let last ← need
      if last = .plain ']' then return (.code '-'.toNat :: item :: items).reverse
      match item, ← classItem last with
      | .code lo, .code hi =>
        if hi < lo then malformed
        classItems fuel (.range lo hi :: items)
      | _, _ => malformed
    else classItems fuel (item :: items)

/-- A class, after its opening bracket. A single code is not a class. -/
def charClass (mode : Mode) : Read Pattern := do
  let negated ← accept '^'
  match (← classItems ((← get).rest.length + 1) []).eraseDups with
  | [.code n] => return .code mode negated n
  | items => return .oneOf mode negated items

/-- The least excessive count of a repetition. -/
def hugeCount : Nat := 4294967295

/-- A count of a repetition. -/
def countOf (digits : Text) : Read Nat := do
  if digitLimit < digits.length then throw (.longCount digits.length)
  if hugeCount ≤ numberOf 10 digits then throw .hugeRepetition
  return numberOf 10 digits

/-- The counts that are written before a closing brace. Without that brace all since `start` means itself. -/
def closeBounds (start : List Token) (lo hi : Text) : Read (Option (Nat × Option Nat)) := do
  if !(← accept '\x7d') then
    moveTo start
    return none
  let least ← countOf lo
  if hi.isEmpty then return some (least, none)
  let most ← countOf hi
  if most < least then malformed
  return some (least, some most)

/-- The counts in braces, after the opening one; nothing where the braces mean themselves. -/
def bounds : Read (Option (Nat × Option Nat)) := do
  if (← peek) = some (.plain '\x7d') then return none
  let start := (← get).rest
  let lo ← takeAll isAsciiDigit
  if ← accept ',' then closeBounds start lo (← takeAll isAsciiDigit)
  else closeBounds start lo lo

def isEdge : Pattern → Bool
  | .edge _ => true
  | _ => false

def isRepeated : Pattern → Bool
  | .repeated .. => true
  | _ => false

/-- Repeats the latest part; an edge or a repetition cannot be repeated. -/
def repeatLatest (least : Nat) (most : Option Nat) (parts : List Pattern) : Read (List Pattern) :=
  match parts with
  | [] => malformed
  | part :: parts => do
    if isEdge part || isRepeated part then malformed
    if ← accept '?' then return .repeated .lazy least most part :: parts
    if ← accept '+' then return .repeated .possessive least most part :: parts
    return .repeated .greedy least most part :: parts

/-- Opens a group; a name can be given once. -/
def openGroup (name : Option Text) : Read Nat := do
  let r ← get
  let index := r.widths.length
  match name with
  | none => set { r with widths := r.widths ++ [none] }
  | some name =>
    if (r.names.lookup name).isSome then malformed
    set { r with widths := r.widths ++ [none], names := (name, index) :: r.names }
  return index

def closeGroup (index : Nat) (body : Pattern) : Read Unit :=
  modify fun r => { r with widths := r.widths.set index (some body.width) }

def groupName (closing : Char) : Read Text := do
  let name ← takeUntil closing
  if !Text.isIdentifier name then malformed
  return name

/-- The number in a condition, written as a person might. -/
def conditionNumber? (s : Text) : Option Nat :=
  match Numeral.sign (Text.trimBy Numeral.isMargin s) with
  | (negative, s) =>
    match Numeral.digits s with
    | some (d :: ds, []) =>
      let n := Text.valueOf 10 (d :: ds)
      if digitLimit < (d :: ds).length || negative && n ≠ 0 then none else some n
    | _ => none

/-- The least number that no group can have. -/
def groupLimit : Nat := 1073741823

/-- The group that a condition names. A number may be that of a later group. -/
def condition : Read Nat := do
  let name ← takeUntil ')'
  if Text.isIdentifier name then
    match (← get).names.lookup name with
    | some index => return index
    | none => malformed
  else
    match conditionNumber? name with
    | none => malformed
    | some 0 => malformed
    | some index =>
      if groupLimit ≤ index then malformed
      modify fun r => { r with conditions := index :: r.conditions }
      return index

/-- The switches up to a closing mark, which is returned; `c` is the first. The character set can be
chosen once. -/
def switchesOn : Nat → Char → List Switch → Read (Char × List Switch)
  | 0, _, _ => malformed
  | fuel + 1, c, on => do
    match Switch.ofLetter? c with
    | none => malformed
    | some switch =>
      let on := switch :: on
      if on.contains .ascii && on.contains .unicode then malformed
      match ← need with
      | .plain d => if d = ')' || d = ':' || d = '-' then return (d, on) else switchesOn fuel d on
      | .escaped _ => malformed

/-- The switches that are turned off, up to the colon. -/
def switchesOff : Nat → List Switch → Read (List Switch)
  | 0, _ => malformed
  | fuel + 1, off => do
    match ← need with
    | .plain c =>
      if c = ':' && !off.isEmpty then return off
      match Switch.ofLetter? c with
      | none => malformed
      | some switch =>
        if switch = .ascii || switch = .unicode then malformed
        switchesOff fuel (switch :: off)
    | .escaped _ => malformed

/-- What follows the question mark of a group. -/
inductive Opening where
  | comment
  | capture (name : Option Text)
  | plain
  | atomic
  | look (behind negated : Bool)
  | named (index : Nat)
  | condition
  | whole (on : List Switch)
  | part (on off : List Switch)

/-- Turns switches on and off for a group; those of a whole pattern are refused. -/
def partSwitches (on off : List Switch) : Read Opening := do
  if on.contains .template || off.contains .template then malformed
  if on.any off.contains then malformed
  return .part on off

def skipComment : Read Unit := do
  let rest := (← get).rest
  match rest.dropWhile (· ≠ .plain ')') with
  | [] => malformed
  | _ :: rest => moveTo rest

/-- Reads the opening of a group, after its parenthesis. -/
def opening : Read Opening := do
  if !(← accept '?') then return .capture none
  match ← need with
  | .plain 'P' =>
    if ← accept '<' then return .capture (some (← groupName '>'))
    demand '='
    let name ← groupName ')'
    match (← get).names.lookup name with
    | some index => return .named index
    | none => malformed
  | .plain ':' => return .plain
  | .plain '>' => return .atomic
  | .plain '#' =>
    skipComment
    return .comment
  | .plain '=' => return .look false false
  | .plain '!' => return .look false true
  | .plain '<' =>
    match ← need with
    | .plain '=' => return .look true false
    | .plain '!' => return .look true true
    | _ => malformed
  | .plain '(' => return .condition
  | .plain '-' => partSwitches [] (← switchesOff (← get).rest.length [])
  | .plain c =>
    match ← switchesOn ((← get).rest.length + 1) c [] with
    | (')', on) => return .whole on
    | ('-', on) =>
      if on.contains .template then malformed
      partSwitches on (← switchesOff (← get).rest.length [])
    | (_, on) => partSwitches on []
  | .escaped _ => malformed

/-- Whether a token is skipped in a verbose pattern. -/
def isPatternSpace : Token → Bool
  | .plain c => c == ' ' || ('\t' ≤ c && c ≤ '\r')
  | .escaped _ => false

/-- Skips the rest of the line. -/
def skipLine : Read Unit := do
  let rest := (← get).rest
  if (rest.takeWhile (· ≠ .plain '\n')).contains (.plain '\\') then malformed
  moveTo (rest.dropWhile (· ≠ .plain '\n')).tail

mutual

/-- Alternatives up to the end or a closing parenthesis. Those of a whole pattern take up its mode,
which may change at the start of the first. -/
def alternatives : Nat → Bool → Bool → Mode → Read Pattern
  | 0, _, _, _ => malformed
  | fuel + 1, top, first, mode => do
    let whole := (← get).mode
    let mode := if top then whole else mode
    let p := ofList (← sequence fuel (top && first) mode [])
    if ← accept '|' then return .choice p (← alternatives fuel top false mode)
    return p

/-- The parts up to a bar, the end or a closing parenthesis, in front of which are those read already,
the latest first. -/
def sequence : Nat → Bool → Mode → List Pattern → Read (List Pattern)
  | 0, _, _, _ => malformed
  | fuel + 1, first, mode, parts => do
    match ← peek with
    | none => return parts.reverse
    | some (.plain '|') => return parts.reverse
    | some (.plain ')') => return parts.reverse
    | some token =>
      skip
      if mode.verbose && isPatternSpace token then sequence fuel first mode parts
      else if mode.verbose && token = .plain '#' then
        skipLine
        sequence fuel first mode parts
      else
        match token with
        | .escaped c => sequence fuel first mode ((← escape mode c) :: parts)
        | .plain '[' => sequence fuel first mode ((← charClass mode) :: parts)
        | .plain '.' => sequence fuel first mode (.any mode.dotAll :: parts)
        | .plain '^' =>
          let place := if mode.multiline then .lineStart else .textStart
          sequence fuel first mode (.edge place :: parts)
        | .plain '$' =>
          let place := if mode.multiline then .lineEnd else .lastLineEnd
          sequence fuel first mode (.edge place :: parts)
        | .plain '?' => sequence fuel first mode (← repeatLatest 0 (some 1) parts)
        | .plain '*' => sequence fuel first mode (← repeatLatest 0 none parts)
        | .plain '+' => sequence fuel first mode (← repeatLatest 1 none parts)
        | .plain '\x7b' =>
          match ← bounds with
          | none => sequence fuel first mode (.code mode false '\x7b'.toNat :: parts)
          | some (least, most) => sequence fuel first mode (← repeatLatest least most parts)
        | .plain '(' =>
          match ← opening with
          | .comment => sequence fuel first mode parts
          | .whole on =>
            if !first || !parts.isEmpty then malformed
            modify fun r =>
              { r with mode := on.foldl Mode.turnOn r.mode, switches := on ++ r.switches }
            sequence fuel first (← get).mode parts
          | .capture name =>
            let index ← openGroup name
            let body ← alternatives fuel false false mode
            demand ')'
            closeGroup index body
            sequence fuel first mode (.group index body :: parts)
          | .plain =>
            let body ← alternatives fuel false false mode
            demand ')'
            sequence fuel first mode (.plainGroup body :: parts)
          | .part on off =>
            let inner := off.foldl Mode.turnOff (on.foldl Mode.turnOn mode)
            let body ← alternatives fuel false false inner
            demand ')'
            sequence fuel first mode (.plainGroup body :: parts)
          | .atomic =>
            let body ← alternatives fuel false false mode
            demand ')'
            sequence fuel first mode (.atomic body :: parts)
          | .look behind negated =>
            let outer := (← get).behindGroups
            if behind && outer.isNone then
              modify fun r => { r with behindGroups := some r.widths.length }
            let body ← alternatives fuel false false mode
            if behind && outer.isNone then modify fun r => { r with behindGroups := none }
            demand ')'
            sequence fuel first mode (.look behind negated body :: parts)
          | .named index =>
            sequence fuel first mode ((← backreferenceTo mode index) :: parts)
          | .condition =>
            let index ← condition
            checkBehind index
            let present := ofList (← sequence fuel false mode [])
            let mut absent := .nothing
            if ← accept '|' then
              absent := ofList (← sequence fuel false mode [])
              if (← peek) = some (.plain '|') then malformed
            demand ')'
            sequence fuel first mode (.ifGroup index present absent :: parts)
        | .plain c => sequence fuel first mode (.code mode false c.toNat :: parts)

end

def hasRepetition : Pattern → Bool
  | .nothing => false
  | .code .. => false
  | .oneOf .. => false
  | .any _ => false
  | .edge _ => false
  | .seq p q => p.hasRepetition || q.hasRepetition
  | .choice p q => p.hasRepetition || q.hasRepetition
  | .group _ p => p.hasRepetition
  | .plainGroup p => p.hasRepetition
  | .atomic p => p.hasRepetition
  | .repeated .. => true
  | .backreference .. => false
  | .look _ _ p => p.hasRepetition
  | .ifGroup _ p q => p.hasRepetition || q.hasRepetition

/-- A whole pattern: all of the text is read, the character set is chosen once, conditions name groups
that there are, looks behind are of fixed width, and a template has no repetition. -/
def whole (fuel : Nat) (mode : Mode) : Read Pattern := do
  let start ← get
  moveTo start.rest
  let p ← alternatives fuel true true mode
  let r ← get
  if r.switches.contains .ascii && r.switches.contains .unicode then throw .asciiAndUnicode
  if !r.rest.isEmpty then malformed
  if r.conditions.any (r.widths.length ≤ ·) then malformed
  if !p.looksFixed then malformed
  if r.switches.contains .template && p.hasRepetition then malformed
  return p

/-- Reads a pattern for a search that ignores case. -/
def ofText (charNamed : Text → Option Char) (s : Text) : Except Fault Pattern :=
  let rest := tokens s
  let mode : Mode := { ignoreCase := true }
  ((whole (2 * rest.length + 2) mode).run ⟨charNamed, rest, mode, [], [none], [], none, []⟩).map (·.1)

end Dockgraph.Pattern
