import Dockgraph.Text.Encoding
import Mathlib.Data.List.Forall2

/-! Texts as bytes, and back. A character has one to four bytes, of which the first tells how many, and is read from them
again. Without carriage returns nothing happens to the line ends. Any bytes make a text of no more characters than there
are bytes. -/

namespace Dockgraph.Encoding

variable {bits taken low high : Nat} {ranges : List (Nat × Nat)} {bytes : Bytes}

theorem readRest_cons {m : Nat} (hm : low ≤ m ∧ m ≤ high) (hbyte : m < 256) :
    readRest bits taken ((low, high) :: ranges) (UInt8.ofNat m :: bytes) =
      readRest (64 * bits + (m - 0x80)) (taken + 1) ranges bytes := by
  rw [readRest, UInt8.toNat_ofNat_of_lt' hbyte, if_pos (by simpa using hm)]

theorem itemAt_ofNat {m : Nat} {lead : Lead} (hbyte : m < 256) (hlead : lead? m = some lead) :
    itemAt (UInt8.ofNat m) bytes = readRest lead.bits 0 lead.ranges bytes := by
  rw [itemAt, UInt8.toNat_ofNat_of_lt' hbyte, hlead]

/-! The leads of the characters, by the number of their bytes. -/

section
variable {n : Nat}

theorem itemAt_one (h : n < 0x80) : itemAt (UInt8.ofNat n) bytes = .char (Char.ofNat n) 0 := by
  rw [itemAt_ofNat (by omega) (if_pos h), readRest]

theorem itemAt_two (h : 0x80 ≤ n ∧ n < 0x800) :
    itemAt (UInt8.ofNat (n / 64 % 32 + 192)) (UInt8.ofNat (n % 64 + 128) :: bytes) = .char (Char.ofNat n) 1 := by
  have hfirst : n / 64 % 32 + 192 - 0xc0 = n / 64 := by omega
  have hlead : lead? (n / 64 % 32 + 192) = some ⟨n / 64, [tail]⟩ := by
    rw [lead?, if_neg (by omega), if_neg (by omega), if_pos (by omega), hfirst]
  have hbits : 64 * (n / 64) + (n % 64 + 128 - 0x80) = n := by omega
  rw [itemAt_ofNat (by omega) hlead, tail, readRest_cons (by omega) (by omega), hbits, readRest]

/-- The second byte of three begins with the other half of the range behind the first leads, which would else write
what has fewer bytes, and ends before the halves of pairs. -/
theorem exists_lead_three (h : 0x800 ≤ n ∧ n < 0x10000) (hchar : n < 0xd800 ∨ 0xdfff < n) : ∃ low high,
    lead? (n / 4096 % 16 + 224) = some ⟨n / 4096, [(low, high), tail]⟩ ∧
      low ≤ n / 64 % 64 + 128 ∧ n / 64 % 64 + 128 ≤ high := by
  by_cases hfirst : n < 0x1000
  · have hbits : n / 4096 = 0 := by omega
    refine ⟨0xa0, 0xbf, ?_, by omega, by omega⟩
    rw [hbits, lead?, if_neg (by omega), if_neg (by omega), if_neg (by omega), if_pos (by omega)]
  by_cases hpair : 0xd000 ≤ n ∧ n < 0xe000
  · have hbits : n / 4096 = 0xd := by omega
    refine ⟨0x80, 0x9f, ?_, by omega, by omega⟩
    rw [hbits, lead?, if_neg (by omega), if_neg (by omega), if_neg (by omega), if_neg (by omega), if_pos (by omega)]
  · have hbits : n / 4096 % 16 + 224 - 0xe0 = n / 4096 := by omega
    refine ⟨0x80, 0xbf, ?_, by omega, by omega⟩
    rw [lead?, if_neg (by omega), if_neg (by omega), if_neg (by omega), if_neg (by omega), if_neg (by omega),
      if_pos (by omega), hbits, tail]

theorem itemAt_three (h : 0x800 ≤ n ∧ n < 0x10000) (hchar : n < 0xd800 ∨ 0xdfff < n) :
    itemAt (UInt8.ofNat (n / 4096 % 16 + 224))
      (UInt8.ofNat (n / 64 % 64 + 128) :: UInt8.ofNat (n % 64 + 128) :: bytes) = .char (Char.ofNat n) 2 := by
  obtain ⟨low, high, hlead, hsecond⟩ := exists_lead_three h hchar
  have hbits : 64 * (64 * (n / 4096) + (n / 64 % 64 + 128 - 0x80)) + (n % 64 + 128 - 0x80) = n := by omega
  rw [itemAt_ofNat (by omega) hlead, readRest_cons hsecond (by omega), tail, readRest_cons (by omega) (by omega),
    hbits, readRest]

theorem exists_lead_four (h : 0x10000 ≤ n ∧ n < 0x110000) : ∃ low high,
    lead? (n / 262144 % 8 + 240) = some ⟨n / 262144, [(low, high), tail, tail]⟩ ∧
      low ≤ n / 4096 % 64 + 128 ∧ n / 4096 % 64 + 128 ≤ high := by
  have hskip : ∀ m, 0xf0 ≤ m → lead? m = if m = 0xf0 then some ⟨0, [(0x90, 0xbf), tail, tail]⟩
      else if m < 0xf4 then some ⟨m - 0xf0, [tail, tail, tail]⟩
      else if m = 0xf4 then some ⟨4, [(0x80, 0x8f), tail, tail]⟩ else none := by
    intro m hm
    rw [lead?, if_neg (by omega), if_neg (by omega), if_neg (by omega), if_neg (by omega), if_neg (by omega),
      if_neg (by omega)]
  rw [hskip _ (by omega)]
  by_cases hfirst : n < 0x40000
  · have hbits : n / 262144 = 0 := by omega
    refine ⟨0x90, 0xbf, ?_, by omega, by omega⟩
    rw [hbits, if_pos (by omega)]
  by_cases hlast : 0x100000 ≤ n
  · have hbits : n / 262144 = 4 := by omega
    refine ⟨0x80, 0x8f, ?_, by omega, by omega⟩
    rw [hbits, if_neg (by omega), if_neg (by omega), if_pos (by omega)]
  · have hbits : n / 262144 % 8 + 240 - 0xf0 = n / 262144 := by omega
    refine ⟨0x80, 0xbf, ?_, by omega, by omega⟩
    rw [if_neg (by omega), if_pos (by omega), hbits, tail]

theorem itemAt_four (h : 0x10000 ≤ n ∧ n < 0x110000) :
    itemAt (UInt8.ofNat (n / 262144 % 8 + 240)) (UInt8.ofNat (n / 4096 % 64 + 128) ::
      UInt8.ofNat (n / 64 % 64 + 128) :: UInt8.ofNat (n % 64 + 128) :: bytes) = .char (Char.ofNat n) 3 := by
  obtain ⟨low, high, hlead, hsecond⟩ := exists_lead_four h
  have hbits : 64 * (64 * (64 * (n / 262144) + (n / 4096 % 64 + 128 - 0x80)) + (n / 64 % 64 + 128 - 0x80)) +
      (n % 64 + 128 - 0x80) = n := by omega
  rw [itemAt_ofNat (by omega) hlead, readRest_cons hsecond (by omega), tail, readRest_cons (by omega) (by omega),
    readRest_cons (by omega) (by omega), hbits, readRest]

end

/-- What a character is written by is read as the character, whatever comes after it. -/
theorem exists_itemAt_encode (c : Char) (bytes : Bytes) : ∃ b more, String.utf8EncodeChar c = b :: more ∧
    itemAt b (more ++ bytes) = .char c more.length := by
  have hvalid : c.val.toNat < 0xd800 ∨ 0xdfff < c.val.toNat ∧ c.val.toNat < 0x110000 := c.valid
  have hself : Char.ofNat c.val.toNat = c := Char.ofNat_toNat c
  have hencode := String.utf8EncodeChar.eq_1 c
  split_ifs at hencode with hone htwo hthree
  · exact ⟨_, _, hencode, (itemAt_one (by omega)).trans (congrArg (Item.char · _) hself)⟩
  · exact ⟨_, _, hencode, (itemAt_two (by omega)).trans (congrArg (Item.char · _) hself)⟩
  · exact ⟨_, _, hencode, (itemAt_three (by omega) (by omega)).trans (congrArg (Item.char · _) hself)⟩
  · exact ⟨_, _, hencode, (itemAt_four (by omega)).trans (congrArg (Item.char · _) hself)⟩

/-! Texts. -/

theorem encode_append (s t : Text) : encode (s ++ t) = encode s ++ encode t :=
  List.flatMap_append

theorem itemsFrom_append (before bytes : Bytes) : itemsFrom before.length (before ++ bytes) = itemsFrom 0 bytes := by
  induction before with
  | nil => rfl
  | cons b before ih => exact ih

/-- The items of the bytes of a text are its characters. -/
theorem forall₂_items_encode (s : Text) :
    (items (encode s)).Forall₂ (fun item c => ∃ more, item = .char c more) s := by
  induction s with
  | nil => exact .nil
  | cons c s ih =>
    obtain ⟨b, more, hbytes, hitem⟩ := exists_itemAt_encode c (encode s)
    have hencode : encode (c :: s) = b :: (more ++ encode s) := by
      rw [encode, List.flatMap_cons, hbytes]
      rfl
    rw [hencode, items, itemsFrom, hitem, Item.more, itemsFrom_append]
    exact .cons ⟨_, rfl⟩ ih

theorem decodeItems_chars {items : List Item} {s : Text} (h : items.Forall₂ (fun item c => ∃ more, item = .char c more) s)
    (bytes : Bytes) (position : Nat) : decodeItems bytes position items = .ok s := by
  induction h generalizing position with
  | nil => rfl
  | cons hitem _ ih =>
    obtain ⟨more, rfl⟩ := hitem
    rw [decodeItems, ih]
    rfl

/-- Any text is read back from its bytes. -/
theorem decode_encode (s : Text) : decode (encode s) = .ok s :=
  decodeItems_chars (forall₂_items_encode s) _ _

/-! Halves. -/

open Glyph (ofText toText)

theorem ofText_toText {s : List CodePoint} (h : ∀ n, .half n ∉ s) : ofText (toText s) = s := by
  have hshown : ∀ g ∈ s, CodePoint.char (Glyph.point g).shown = g := by
    intro g hg
    cases g with
    | char c => rfl
    | half n => exact absurd hg (h n)
  rw [Glyph.ofText_eq, Glyph.toText_eq, List.map_map]
  exact (List.map_congr_left hshown).trans (List.map_id s)

/-- A text without halves is encoded as the text of its characters. -/
theorem encodeFrom_ofText (s : Text) (position : Nat) :
    encodeFrom position (ofText s : List CodePoint) = .ok (encode s) := by
  induction s generalizing position with
  | nil => rfl
  | cons c s ih =>
    have hcons : (ofText (c :: s) : List CodePoint) = .char c :: ofText s := rfl
    rw [hcons, encodeFrom]
    exact congrArg (Except.map (String.utf8EncodeChar c ++ ·)) (ih (position + 1))

theorem exists_encodeFrom_eq_error {s : List CodePoint} {n : Fin 0x800} (h : .half n ∈ s) (position : Nat) :
    ∃ e, encodeFrom position s = .error e := by
  induction s generalizing position with
  | nil => cases h
  | cons g s ih =>
    cases g with
    | half m => exact ⟨_, rfl⟩
    | char c =>
      obtain ⟨e, he⟩ := ih ((List.mem_cons.1 h).resolve_left nofun) (position + 1)
      exact ⟨e, congrArg (Except.map (String.utf8EncodeChar c ++ ·)) he⟩

/-! Line ends. -/

theorem normaliseLines_of_notMem {s : Text} (h : '\r' ∉ s) : normaliseLines s = s := by
  induction s with
  | nil => rfl
  | cons c s ih =>
    rw [List.mem_cons, not_or] at h
    have hc : c ≠ '\r' := Ne.symm h.1
    rw [normaliseLines.eq_def]
    simp [hc, ih h.2]

/-! Lengths. -/

theorem length_normaliseLines_le (s : Text) : (normaliseLines s).length ≤ s.length := by
  induction s using normaliseLines.induct with
  | case1 => exact Nat.le_refl 0
  | case2 s ih =>
    rw [normaliseLines, List.length_cons, List.length_cons, List.length_cons]
    omega
  | case3 c s hne ih =>
    rw [normaliseLines.eq_3 c s hne, List.length_cons, List.length_cons]
    omega

theorem length_itemsFrom_le (covered : Nat) (bytes : Bytes) : (itemsFrom covered bytes).length ≤ bytes.length := by
  induction bytes generalizing covered with
  | nil => exact Nat.le_refl 0
  | cons b bytes ih =>
    cases covered with
    | zero => exact Nat.succ_le_succ (ih _)
    | succ n => exact Nat.le_succ_of_le (ih n)

theorem length_decodeLenient_le (bytes : Bytes) : (decodeLenient bytes).length ≤ bytes.length :=
  Nat.le_trans (List.length_filterMap_le _ _) (length_itemsFrom_le 0 bytes)

end Dockgraph.Encoding
