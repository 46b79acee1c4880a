import Dockgraph.Text.Quoted

/-! Texts as bytes in UTF-8. A run of bytes that begins a character and is broken off is one fault, however
long it is; the byte that breaks it off begins anew. -/

namespace Dockgraph.Encoding

abbrev Bytes := List UInt8

def encode (s : Text) : Bytes :=
  s.flatMap String.utf8EncodeChar

/-- Halves of pairs one after the other, which have no bytes: the first, its place, and how many they are. -/
structure EncodeError where
  first : Fin 0x800
  position : Nat
  count : Nat
  deriving DecidableEq, Repr

def EncodeError.message (e : EncodeError) : Text :=
  "'utf-8' codec can't encode ".toList
    ++ (if e.count = 1 then
        "character '".toList ++ Text.escapeCode (CodePoint.half e.first).toNat ++ "' in position ".toList
          ++ Text.ofNat e.position
      else "characters in position ".toList ++ Text.ofNat e.position ++ '-'
        :: Text.ofNat (e.position + e.count - 1))
    ++ ": surrogates not allowed".toList

def isHalf {σ : Type} [Glyph σ] (g : σ) : Bool :=
  match Glyph.point g with
  | .char _ => false
  | .half _ => true

/-- The bytes of a text that may hold halves; `position` is the place of its first glyph. -/
def encodeFrom {σ : Type} [Glyph σ] (position : Nat) : List σ → Except EncodeError Bytes
  | [] => .ok []
  | g :: s =>
    match Glyph.point g with
    | .char c => (encodeFrom (position + 1) s).map (String.utf8EncodeChar c ++ ·)
    | .half n => .error ⟨n, position, 1 + (s.takeWhile isHalf).length⟩

/-- What a first byte says of its character: the bits that it gives, and the range of each byte to come. -/
structure Lead where
  bits : Nat
  ranges : List (Nat × Nat)

/-- The range of a byte that goes on with a character. -/
def tail : Nat × Nat := (0x80, 0xbf)

/-- The lead of a character. The second byte is restricted where other values would write a character
longer than need be, a half of a pair, or one beyond the last. -/
def lead? (b : Nat) : Option Lead :=
  if b < 0x80 then some ⟨b, []⟩
  else if b < 0xc2 then none
  else if b < 0xe0 then some ⟨b - 0xc0, [tail]⟩
  else if b = 0xe0 then some ⟨0, [(0xa0, 0xbf), tail]⟩
  else if b = 0xed then some ⟨0xd, [(0x80, 0x9f), tail]⟩
  else if b < 0xf0 then some ⟨b - 0xe0, [tail, tail]⟩
  else if b = 0xf0 then some ⟨0, [(0x90, 0xbf), tail, tail]⟩
  else if b < 0xf4 then some ⟨b - 0xf0, [tail, tail, tail]⟩
  else if b = 0xf4 then some ⟨4, [(0x80, 0x8f), tail, tail]⟩
  else none

inductive Fault where
  | start
  | continuation
  | endOfData
  deriving DecidableEq, Repr

def Fault.reason : Fault → Text
  | .start => "invalid start byte".toList
  | .continuation => "invalid continuation byte".toList
  | .endOfData => "unexpected end of data".toList

/-- What stands at the beginning of some bytes: a character, or a fault; and the bytes of it after the
first. -/
inductive Item where
  | char (c : Char) (more : Nat)
  | fault (cause : Fault) (more : Nat)

def Item.more : Item → Nat
  | .char _ n => n
  | .fault _ n => n

/-- Reads the rest of a character, of which `taken` bytes after the first are read. -/
def readRest (bits taken : Nat) : List (Nat × Nat) → Bytes → Item
  | [], _ => .char (Char.ofNat bits) taken
  | _ :: _, [] => .fault .endOfData taken
  | (low, high) :: ranges, b :: bytes =>
    if low ≤ b.toNat && b.toNat ≤ high then
      readRest (64 * bits + (b.toNat - 0x80)) (taken + 1) ranges bytes
    else .fault .continuation taken

/-- What begins with a byte. -/
def itemAt (b : UInt8) (bytes : Bytes) : Item :=
  match lead? b.toNat with
  | none => .fault .start 0
  | some lead => readRest lead.bits 0 lead.ranges bytes

/-- The items of the bytes, the first `covered` of which belong to an item before. -/
def itemsFrom (covered : Nat) : Bytes → List Item
  | [] => []
  | b :: bytes =>
    match covered with
    | n + 1 => itemsFrom n bytes
    | 0 =>
      let item := itemAt b bytes
      item :: itemsFrom item.more bytes

def items (bytes : Bytes) : List Item :=
  itemsFrom 0 bytes

def Item.char? : Item → Option Char
  | .char c _ => some c
  | .fault .. => none

/-- The text of the bytes, what is faulty left out. -/
def decodeLenient (bytes : Bytes) : Text :=
  (items bytes).filterMap Item.char?

/-- A fault, its place, and the bytes that it takes up. -/
structure DecodeError where
  cause : Fault
  position : Nat
  bytes : Bytes
  deriving DecidableEq, Repr

def DecodeError.message (e : DecodeError) : Text :=
  "'utf-8' codec can't decode ".toList
    ++ (match e.bytes with
      | [b] => "byte 0x".toList ++ Text.ofHex 2 b.toNat ++ " in position ".toList ++ Text.ofNat e.position
      | bytes => "bytes in position ".toList ++ Text.ofNat e.position ++ '-'
          :: Text.ofNat (e.position + bytes.length - 1))
    ++ ": ".toList ++ e.cause.reason

/-- The text of the items, or the first fault among them; `position` is the place of the first. -/
def decodeItems (bytes : Bytes) (position : Nat) : List Item → Except DecodeError Text
  | [] => .ok []
  | .char c more :: rest => (decodeItems bytes (position + 1 + more) rest).map (c :: ·)
  | .fault cause more :: _ => .error ⟨cause, position, (bytes.drop position).take (more + 1)⟩

/-- The text of bytes without fault. -/
def decode (bytes : Bytes) : Except DecodeError Text :=
  decodeItems bytes 0 (items bytes)

/-- Line ends of the other styles as newlines. -/
def normaliseLines : Text → Text
  | [] => []
  | '\r' :: '\n' :: s => '\n' :: normaliseLines s
  | c :: s => (if c = '\r' then '\n' else c) :: normaliseLines s

end Dockgraph.Encoding
