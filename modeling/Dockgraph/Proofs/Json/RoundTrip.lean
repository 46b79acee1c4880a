import Dockgraph.Proofs.Json.Layout

/-! Documents that are written are read back, in lines or on one line. What is written is ASCII. -/

namespace Dockgraph.Json

/-- A document without doubles, with names that an object has once. -/
inductive IsExact : Json → Prop where
  | null : IsExact .null
  | bool (b : Bool) : IsExact (.bool b)
  | int (i : Int) : IsExact (.int i)
  | text (s : Text) : IsExact (.text s)
  | list {items : List Json} (items_exact : ∀ v ∈ items, IsExact v) : IsExact (.list items)
  | object {fields : List (Text × Json)} (distinct : (fields.map Prod.fst).Nodup)
    (fields_exact : ∀ f ∈ fields, IsExact f.2) : IsExact (.object fields)

/-- A document without doubles, with integers that are short enough and names that an object has once. -/
inductive IsPlain : Json → Prop where
  | null : IsPlain .null
  | bool (b : Bool) : IsPlain (.bool b)
  | int {i : Int} (short : IsShort i) : IsPlain (.int i)
  | text (s : Text) : IsPlain (.text s)
  | list {items : List Json} (items_plain : ∀ v ∈ items, IsPlain v) : IsPlain (.list items)
  | object {fields : List (Text × Json)} (distinct : (fields.map Prod.fst).Nodup)
    (fields_plain : ∀ f ∈ fields, IsPlain f.2) : IsPlain (.object fields)

theorem IsPlain.isExact {v : Json} (h : IsPlain v) : IsExact v := by
  induction h with
  | null => exact .null
  | bool b => exact .bool b
  | int _ => exact .int _
  | text s => exact .text s
  | list _ ih => exact .list ih
  | object distinct _ ih => exact .object distinct ih

theorem excessItems?_eq_none {items : List Json} (h : ∀ v ∈ items, v.excess? = none) : excessItems? items = none := by
  induction items with
  | nil => rfl
  | cons v vs ih =>
    rw [List.forall_mem_cons] at h
    rw [excessItems?, h.1, ih h.2]
    rfl

theorem excessFields?_eq_none {fields : List (Text × Json)} (h : ∀ f ∈ fields, f.2.excess? = none) :
    excessFields? fields = none := by
  induction fields with
  | nil => rfl
  | cons f fs ih =>
    rw [List.forall_mem_cons] at h
    rw [excessFields?, h.1, ih h.2]
    rfl

theorem IsPlain.excess?_eq_none {v : Json} (h : IsPlain v) : v.excess? = none := by
  induction h with
  | int short => exact excessOf_eq_none_iff.2 short
  | list _ ih => exact excessItems?_eq_none ih
  | object _ _ ih => exact excessFields?_eq_none ih
  | _ => rfl

/-! Layouts of the writer. -/

theorem isGap_newline (level : Nat) : IsGap (newline level) :=
  List.forall_mem_cons.2 ⟨rfl, fun _ hc => (List.mem_replicate.1 hc).2 ▸ rfl⟩

theorem writeField_eq (name s : Text) :
    writeText name ++ ": ".toList ++ s = '"' :: (name.flatMap escapeChar ++ '"' :: ':' :: ' ' :: s) := by
  simp [writeText_char]

theorem indentedItems_eq (level : Nat) (items : List Json) :
    indentedItems level items = Text.joinWith (',' :: newline level) (items.map (indented level)) := by
  match items with
  | [] => rfl
  | [v] => rw [List.map_singleton, Text.joinWith_singleton, indentedItems]
  | v :: w :: ws =>
    rw [List.map_cons, List.map_cons, Text.joinWith_cons_cons, ← List.map_cons, ← indentedItems_eq level (w :: ws)]
    simp [indentedItems]

theorem indentedFields_eq (level : Nat) (fields : List (Text × Json)) : indentedFields level fields =
    Text.joinWith (',' :: newline level) (fields.map (writeField (List.flatMap escapeChar) (indented level))) := by
  match fields with
  | [] => rfl
  | [f] => rw [List.map_singleton, Text.joinWith_singleton, indentedFields, writeField_eq, writeField]
  | f :: g :: gs =>
    rw [List.map_cons, List.map_cons, Text.joinWith_cons_cons, ← List.map_cons, ← indentedFields_eq level (g :: gs),
      indentedFields, writeField_eq, writeField]
    simp

theorem compactItems_eq (items : List Json) :
    compactItems items = Text.joinWith ", ".toList (items.map compact) := by
  match items with
  | [] => rfl
  | [v] => rw [List.map_singleton, Text.joinWith_singleton, compactItems]
  | v :: w :: ws =>
    change _ = Text.joinWith (',' :: [' ']) _
    rw [List.map_cons, List.map_cons, Text.joinWith_cons_cons, ← List.map_cons]
    simp [compactItems, compactItems_eq (w :: ws)]

theorem compactFields_eq (fields : List (Text × Json)) : compactFields fields =
    Text.joinWith ", ".toList (fields.map (writeField (List.flatMap escapeChar) compact)) := by
  match fields with
  | [] => rfl
  | [f] => rw [List.map_singleton, Text.joinWith_singleton, compactFields, writeField_eq, writeField]
  | f :: g :: gs =>
    change _ = Text.joinWith (',' :: [' ']) _
    rw [List.map_cons, List.map_cons, Text.joinWith_cons_cons, ← List.map_cons, compactFields, writeField_eq, writeField]
    simp [compactFields_eq (g :: gs)]

theorem IsExact.readsAs_indented {v : Json} (h : IsExact v) (level : Nat) : ReadsAs (indented level v) v := by
  induction h generalizing level with
  | null => exact readsAs_null
  | bool b => exact readsAs_bool b
  | int i => exact readsAs_int i
  | text s => exact readsAs_text (literal_written s)
  | @list items _ ih =>
    cases items with
    | nil => exact .of_succ (by decide) fun _ _ _ _ => rfl
    | cons v vs =>
      have hlist := readsAs_list (isGap_newline (level + 1)) (isGap_newline (level + 1)) (isGap_newline level)
        fun v hv => ih v hv (level + 1)
      rw [← indentedItems_eq] at hlist
      simpa [indented] using hlist
  | @object fields distinct _ ih =>
    cases fields with
    | nil => exact .of_succ (by decide) fun _ _ _ _ => rfl
    | cons f fs =>
      have hobject := readsAs_object literal_written (isGap_newline (level + 1)) (isGap_newline (level + 1))
        (isGap_newline level) distinct fun f hf => ih f hf (level + 1)
      rw [← indentedFields_eq] at hobject
      simpa [indented] using hobject

theorem IsExact.readsAs_compact {v : Json} (h : IsExact v) : ReadsAs (compact v) v := by
  induction h with
  | null => exact readsAs_null
  | bool b => exact readsAs_bool b
  | int i => exact readsAs_int i
  | text s => exact readsAs_text (literal_written s)
  | list _ ih =>
    have hlist := readsAs_list isGap_nil isGap_space isGap_nil ih
    rw [compact, compactItems_eq]
    exact hlist
  | object distinct _ ih =>
    have hobject := readsAs_object literal_written isGap_nil isGap_space isGap_nil distinct ih
    rw [compact, compactFields_eq]
    exact hobject

/-! What is written is ASCII. -/

/-- The characters of written documents: newlines and the printable ones of ASCII. -/
def isWritten (c : Char) : Bool :=
  c == '\n' || (' ' ≤ c && c ≤ '~')

theorem isWritten_digitChar {d : Nat} (h : d < 16) : isWritten (Nat.digitChar d) = true := by
  interval_cases d <;> rfl

theorem all_unitEscape {n : Nat} (h : n < 0x10000) : (unitEscape n).all isWritten = true := by
  rw [unitEscape, Text.ofHex_four h]
  simp only [List.all_cons, List.all_nil, Bool.and_true, Bool.and_eq_true]
  exact ⟨rfl, rfl, isWritten_digitChar (by omega), isWritten_digitChar (by omega), isWritten_digitChar (by omega),
    isWritten_digitChar (by omega)⟩

theorem all_escapeChar (c : Char) : (escapeChar c).all isWritten = true := by
  have hrange := toNat_range c
  have h := written_escapeChar c
  generalize escapeChar c = w at h ⊢
  cases h with
  | short listed =>
    have htable : shortEscapes.all (fun p => isWritten p.2) = true := rfl
    rw [List.all_cons, List.all_cons, List.all_eq_true.1 htable _ listed]
    rfl
  | plain quote slash low high => simp [isWritten, low, high]
  | unit small => exact all_unitEscape small
  | halves large =>
    rw [List.all_append, all_unitEscape (by omega), all_unitEscape (by omega)]
    rfl

theorem all_writeText (t : Text) : (writeText t).all isWritten = true := by
  have hall : (t.flatMap escapeChar).all isWritten = true := by
    rw [List.all_flatMap]
    exact List.all_eq_true.2 fun c _ => all_escapeChar c
  rw [writeText_char, List.all_append, List.all_cons, hall]
  rfl

theorem all_ofInt (i : Int) : (Text.ofInt i).all isWritten = true := by
  have hnat : ∀ n, (Text.ofNat n).all isWritten = true := by
    refine fun n => List.all_eq_true.2 fun c hc => ?_
    have hdigit := isDigit_of_mem_ofNat hc
    simp only [isDigit, Bool.and_eq_true, decide_eq_true_eq] at hdigit
    have hlow : ' ' ≤ c := Char.le_trans (show ' ' ≤ '0' by decide) hdigit.1
    have hhigh : c ≤ '~' := Char.le_trans hdigit.2 (show '9' ≤ '~' by decide)
    simp [isWritten, hlow, hhigh]
  cases i with
  | ofNat n => exact hnat n
  | negSucc n =>
    rw [Text.ofInt, List.all_cons, hnat]
    rfl

theorem all_newline (level : Nat) : (newline level).all isWritten = true := by
  rw [newline, List.all_cons, List.all_replicate]
  simp [isWritten]

theorem all_comma_newline (level : Nat) : (',' :: newline level).all isWritten = true := by
  rw [List.all_cons, all_newline]
  rfl

theorem all_indentedItems {items : List Json} (h : ∀ v ∈ items, ∀ level, (indented level v).all isWritten = true)
    (level : Nat) : (indentedItems level items).all isWritten = true := by
  rw [indentedItems_eq]
  exact Text.all_joinWith (all_comma_newline level) (List.forall_mem_map.2 fun v hv => h v hv level)

theorem all_indentedFields {fields : List (Text × Json)}
    (h : ∀ f ∈ fields, ∀ level, (indented level f.2).all isWritten = true) (level : Nat) :
    (indentedFields level fields).all isWritten = true := by
  rw [indentedFields_eq]
  refine Text.all_joinWith (all_comma_newline level) (List.forall_mem_map.2 fun f hf => ?_)
  rw [writeField, ← writeField_eq, List.all_append, List.all_append, all_writeText, h f hf level]
  rfl

theorem IsPlain.all_indented {v : Json} (h : IsPlain v) (level : Nat) : (indented level v).all isWritten = true := by
  induction h generalizing level with
  | null => rfl
  | bool b => cases b <;> rfl
  | int short => exact all_ofInt _
  | text s => exact all_writeText s
  | @list items items_plain ih =>
    cases items with
    | nil => rfl
    | cons v vs =>
      rw [indented, List.all_append, List.all_append, List.all_append, List.all_cons, all_newline, all_newline,
        all_indentedItems ih]
      rfl
  | @object fields distinct fields_plain ih =>
    cases fields with
    | nil => rfl
    | cons f fs =>
      rw [indented, List.all_append, List.all_append, List.all_append, List.all_cons, all_newline, all_newline,
        all_indentedFields ih]
      rfl

/-- The reader gives back a plain document that was written in lines. -/
theorem IsPlain.read_indented {v : Json} (h : IsPlain v) : read (indented 0 v) = .ok v := by
  rw [(h.isExact.readsAs_indented 0).read, h.excess?_eq_none]

end Dockgraph.Json
