import Dockgraph.Proofs.Json.Literals
import Dockgraph.Proofs.Text.Lines

/-! Documents are read back however their parts are laid out: with any white space behind brackets and commas, and with
any of the literals of their texts. What is written takes at least half the turns that the reader has, so it never runs
out of them; a name that an object has once is put at the end of the fields read so far. Only a numeral of too many
digits stops the reader, and so it does in every layout. -/

namespace Dockgraph.Json

/-! White space. -/

/-- White space between the parts of a document. -/
def IsGap (s : Text) : Prop :=
  ∀ c ∈ s, isSpace c = true

instance : DecidablePred IsGap :=
  List.decidableBAll fun c : Char => isSpace c = true

theorem skipSpace_cons {c : Char} (hc : isSpace c = false) (s : Text) : skipSpace (c :: s) = c :: s :=
  List.dropWhile_cons_of_neg (by simp [hc])

theorem IsGap.skipSpace {gap : Text} (hg : IsGap gap) {c : Char} (hc : isSpace c = false) (s : Text) :
    skipSpace (gap ++ c :: s) = c :: s := by
  rw [Json.skipSpace, List.dropWhile_append_of_pos hg]
  exact skipSpace_cons hc s

theorem isGap_nil : IsGap [] :=
  List.forall_mem_nil _

theorem isGap_space : IsGap [' '] :=
  List.forall_mem_singleton.2 rfl

theorem IsGap.append {s t : Text} (hs : IsGap s) (ht : IsGap t) : IsGap (s ++ t) :=
  List.forall_mem_append.2 ⟨hs, ht⟩

theorem isSpace_of_isDigit {c : Char} (h : isDigit c = true) : isSpace c = false := by
  simp only [isSpace, Bool.or_eq_false_iff]
  refine ⟨⟨⟨?_, ?_⟩, ?_⟩, ?_⟩ <;>
  · rw [beq_eq_false_iff_ne]
    rintro rfl
    cases h

theorem endsNumber_comma (s : Text) : EndsNumber (',' :: s) := by
  rintro c ⟨rfl⟩
  decide

theorem IsGap.endsNumber {gap : Text} (hg : IsGap gap) {close : Char} (hclose : close = ']' ∨ close = '\x7d')
    (s : Text) : EndsNumber (gap ++ close :: s) := by
  intro c hc
  cases gap with
  | nil =>
    obtain rfl := Option.some.inj hc
    rcases hclose with rfl | rfl <;> decide
  | cons b gap =>
    obtain rfl := Option.some.inj hc
    have hspace := hg b List.mem_cons_self
    simp only [isSpace, Bool.or_eq_true, beq_iff_eq] at hspace
    rcases hspace with ((rfl | rfl) | rfl) | rfl <;> decide

/-! Steps of the reader. -/

variable {fuel : Nat} {rest rest' more after : Text} {excess excess' : Option Nat}

theorem readValue_quote {s t : Text} (h : ∀ opened, readText opened (s.length + 1) s = .ok (t, rest)) :
    readValue (fuel + 1) ('"' :: s) = .ok (.text t, rest) := by
  rw [readValue.eq_def]
  simp [h]

theorem readValue_of_atom {c : Char} {s : Text} (hc : c ≠ '"' ∧ c ≠ '[' ∧ c ≠ '\x7b') :
    readValue (fuel + 1) (c :: s) = readAtom (c :: s) := by
  obtain ⟨hquote, hbracket, hbrace⟩ := hc
  rw [readValue.eq_def]
  simp [hquote, hbracket, hbrace]

theorem readValue_list_nil (h : skipSpace more = ']' :: rest) :
    readValue (fuel + 1) ('[' :: more) = .ok (.list [], rest) := by
  rw [readValue.eq_def]
  simp [h]

theorem readValue_object_nil (h : skipSpace more = '\x7d' :: rest) :
    readValue (fuel + 1) ('\x7b' :: more) = .ok (.object [], rest) := by
  rw [readValue.eq_def]
  simp [h]

theorem readValue_list {c : Char} {s : Text} {items : List Json} (hs : skipSpace more = c :: s) (hc : c ≠ ']')
    (h : readItems fuel (c :: s) = outcome excess items rest) :
    readValue (fuel + 1) ('[' :: more) = outcome excess (.list items) rest := by
  rw [readValue.eq_def]
  cases excess <;> simp [hs, hc, h, outcome]

theorem readValue_object {c : Char} {s : Text} {fields : List (Text × Json)} (hs : skipSpace more = c :: s)
    (hc : c ≠ '\x7d') (h : readFields fuel [] (c :: s) = outcome excess fields rest) :
    readValue (fuel + 1) ('\x7b' :: more) = outcome excess (.object fields) rest := by
  rw [readValue.eq_def]
  cases excess <;> simp [hs, hc, h, outcome]

theorem readItems_last {s : Text} {v : Json} (h : readValue fuel s = outcome excess v more)
    (hmore : skipSpace more = ']' :: rest) : readItems (fuel + 1) s = outcome excess [v] rest := by
  rw [readItems.eq_def]
  cases excess <;> simp [h, hmore, outcome]

theorem readItems_next {s : Text} {v : Json} {vs : List Json} (h : readValue fuel s = outcome excess v more)
    (hmore : skipSpace more = ',' :: after) (hvs : readItems fuel (skipSpace after) = outcome excess' vs rest) :
    readItems (fuel + 1) s = outcome (excess.or excess') (v :: vs) rest := by
  rw [readItems.eq_def]
  cases excess <;> cases excess' <;> simp [h, hmore, hvs, outcome]

variable {fields fields' : List (Text × Json)} {s name : Text} {v : Json}

theorem readFields_last (hname : ∀ opened, readText opened (s.length + 1) s = .ok (name, ':' :: ' ' :: more))
    (hv : readValue fuel (skipSpace (' ' :: more)) = outcome excess v rest')
    (hrest : skipSpace rest' = '\x7d' :: rest) :
    readFields (fuel + 1) fields ('"' :: s) = outcome excess (setField name v fields) rest := by
  rw [readFields.eq_def]
  cases excess <;> simp [hname, hv, hrest, outcome, skipSpace_cons (show isSpace ':' = false from rfl)]

theorem readFields_next (hname : ∀ opened, readText opened (s.length + 1) s = .ok (name, ':' :: ' ' :: more))
    (hv : readValue fuel (skipSpace (' ' :: more)) = outcome excess v rest') (hrest : skipSpace rest' = ',' :: after)
    (hfields : readFields fuel (setField name v fields) (skipSpace after) = outcome excess' fields' rest) :
    readFields (fuel + 1) fields ('"' :: s) = outcome (excess.or excess') fields' rest := by
  rw [readFields.eq_def]
  cases excess <;> cases excess' <;>
    simp [hname, hv, hrest, hfields, outcome, skipSpace_cons (show isSpace ':' = false from rfl)]

theorem setField_of_notMem (h : name ∉ fields.map Prod.fst) : setField name v fields = fields ++ [(name, v)] := by
  induction fields with
  | nil => rfl
  | cons f fields ih =>
    rw [List.map_cons, List.mem_cons, not_or] at h
    rw [setField, if_neg fun he => h.1 he.symm, ih h.2, List.cons_append]

/-! Layouts. -/

/-- The text is read as the document wherever it stands, in twice as many turns as it has characters. -/
structure ReadsAs (s : Text) (v : Json) : Prop where
  head : ∃ c t, s = c :: t ∧ isSpace c = false ∧ c ≠ ']' ∧ c ≠ '\ufeff'
  reads : ∀ fuel rest, 2 * s.length ≤ fuel → EndsNumber rest →
    readValue fuel (s ++ rest) = outcome v.excess? v rest

theorem ReadsAs.of_succ {c : Char} {t : Text} {v : Json} (hc : isSpace c = false ∧ c ≠ ']' ∧ c ≠ '\ufeff')
    (h : ∀ fuel rest, 2 * t.length + 1 ≤ fuel → EndsNumber rest →
      readValue (fuel + 1) (c :: (t ++ rest)) = outcome v.excess? v rest) : ReadsAs (c :: t) v where
  head := ⟨c, t, rfl, hc⟩
  reads fuel rest hfuel hrest := by
    rw [List.length_cons] at hfuel
    obtain ⟨f, rfl⟩ : ∃ f, fuel = f + 1 := ⟨fuel - 1, by omega⟩
    exact h f rest (by omega) hrest

theorem readsAs_null : ReadsAs "null".toList .null :=
  .of_succ (by decide) fun _ _ _ _ => rfl

theorem readsAs_bool (b : Bool) : ReadsAs (writeScalar (.bool b)) (.bool b) := by
  cases b <;> exact .of_succ (by decide) fun _ _ _ _ => rfl

theorem readsAs_text {t s : Text} (h : Literal t s) : ReadsAs ('"' :: (s ++ ['"'])) (.text t) := by
  refine .of_succ (by decide) fun fuel rest _ _ => ?_
  rw [List.append_assoc]
  exact readValue_quote fun opened => h.readText_eq opened rest

theorem exists_head_ofInt (i : Int) : ∃ c s, Text.ofInt i = c :: s ∧ (isDigit c = true ∨ c = '-') := by
  cases i with
  | ofNat n =>
    obtain ⟨c, s, hs, hc⟩ := exists_digit_ofNat n
    exact ⟨c, s, hs, Or.inl hc⟩
  | negSucc n => exact ⟨'-', _, rfl, Or.inr rfl⟩

theorem readsAs_int (i : Int) : ReadsAs (Text.ofInt i) (.int i) := by
  obtain ⟨c, s, hs, hc⟩ := exists_head_ofInt i
  have hne : ∀ d, isDigit d = false → d ≠ '-' → c ≠ d := by
    rintro d hdigit hminus rfl
    rcases hc with hc | hc
    · rw [hdigit] at hc
      cases hc
    · exact hminus hc
  have hspace : isSpace c = false := by
    rcases hc with hc | rfl
    · exact isSpace_of_isDigit hc
    · rfl
  have hatom : ∀ rest, EndsNumber rest →
      readAtom (c :: (s ++ rest)) = outcome (excessOf i.natAbs) (.int i : Json) rest := by
    intro rest hrest
    rw [← List.cons_append, ← hs]
    exact readAtom_ofInt i hrest
  rw [hs]
  refine .of_succ ⟨hspace, hne _ rfl (by decide), hne _ rfl (by decide)⟩ fun fuel rest _ hrest => ?_
  rw [readValue_of_atom ⟨hne _ rfl (by decide), hne _ rfl (by decide), hne _ rfl (by decide)⟩, hatom rest hrest]
  rfl

section Parts

variable {write : Json → Text} {opening gap closing : Text}

theorem exists_head_items (gap : Text) {items : List Json} (hne : items ≠ []) (h : ∀ v ∈ items, ReadsAs (write v) v) :
    ∃ c s, Text.joinWith (',' :: gap) (items.map write) = c :: s ∧ isSpace c = false ∧ c ≠ ']' := by
  cases items with
  | nil => exact absurd rfl hne
  | cons v vs =>
    obtain ⟨c, s, hs, hspace, hbracket, -⟩ := (h v List.mem_cons_self).head
    cases vs with
    | nil => exact ⟨c, s, by rw [List.map_singleton, Text.joinWith_singleton, hs], hspace, hbracket⟩
    | cons w ws =>
      rw [List.map_cons, List.map_cons, Text.joinWith_cons_cons, hs, List.cons_append]
      exact ⟨c, _, rfl, hspace, hbracket⟩

theorem readItems_joinWith (hg : IsGap gap) (hclosing : IsGap closing) {items : List Json} (hne : items ≠ [])
    (h : ∀ v ∈ items, ReadsAs (write v) v) (rest : Text) (fuel : Nat)
    (hfuel : 2 * (Text.joinWith (',' :: gap) (items.map write)).length + 1 ≤ fuel) :
    readItems fuel (Text.joinWith (',' :: gap) (items.map write) ++ (closing ++ ']' :: rest)) =
      outcome (excessItems? items) items rest := by
  induction items generalizing fuel with
  | nil => exact absurd rfl hne
  | cons v vs ih =>
    obtain ⟨f, rfl⟩ : ∃ f, fuel = f + 1 := ⟨fuel - 1, by omega⟩
    rw [List.forall_mem_cons] at h
    cases vs with
    | nil =>
      rw [List.map_singleton, Text.joinWith_singleton] at hfuel ⊢
      have hv := h.1.reads f (closing ++ ']' :: rest) (by omega) (hclosing.endsNumber (Or.inl rfl) rest)
      rw [excessItems?, excessItems?, Option.or_none]
      exact readItems_last hv (hclosing.skipSpace rfl rest)
    | cons w ws =>
      have hne' := List.cons_ne_nil w ws
      obtain ⟨c, s, hs, hspace, -⟩ := exists_head_items gap hne' h.2
      rw [List.map_cons, List.map_cons, Text.joinWith_cons_cons, ← List.map_cons] at hfuel ⊢
      simp only [List.length_append, List.length_cons] at hfuel
      have hskip := hg.skipSpace hspace (s ++ (closing ++ ']' :: rest))
      rw [← List.cons_append, ← hs] at hskip
      have hvs := ih hne' h.2 f (by omega)
      rw [← hskip] at hvs
      rw [List.append_assoc, List.cons_append, List.append_assoc]
      exact readItems_next (h.1.reads f _ (by omega) (endsNumber_comma _)) (skipSpace_cons rfl _) hvs

theorem readsAs_list (ho : IsGap opening) (hg : IsGap gap) (hclosing : IsGap closing) {items : List Json}
    (h : ∀ v ∈ items, ReadsAs (write v) v) :
    ReadsAs ('[' :: (opening ++ (Text.joinWith (',' :: gap) (items.map write) ++ (closing ++ [']'])))) (.list items) := by
  refine .of_succ (by decide) fun fuel rest hfuel _ => ?_
  simp only [List.length_append] at hfuel
  simp only [List.append_assoc, List.singleton_append]
  cases items with
  | nil =>
    have hskip := (ho.append hclosing).skipSpace (show isSpace ']' = false from rfl) rest
    rw [List.append_assoc] at hskip
    exact readValue_list_nil hskip
  | cons v vs =>
    have hne := List.cons_ne_nil v vs
    obtain ⟨c, s, hs, hspace, hc⟩ := exists_head_items gap hne h
    have hitems := readItems_joinWith hg hclosing hne h rest fuel (by omega)
    rw [hs, List.cons_append] at hitems ⊢
    exact readValue_list (ho.skipSpace hspace _) hc hitems

variable {literal : Text → Text}

/-- A field with its name in a literal. -/
def writeField (literal : Text → Text) (write : Json → Text) (f : Text × Json) : Text :=
  '"' :: (literal f.1 ++ '"' :: ':' :: ' ' :: write f.2)

theorem writeField_append (f : Text × Json) (s : Text) :
    writeField literal write f ++ s = '"' :: (literal f.1 ++ '"' :: ':' :: ' ' :: (write f.2 ++ s)) := by
  simp [writeField]

theorem ReadsAs.skipSpace {s : Text} {v : Json} (h : ReadsAs s v) (rest : Text) :
    Json.skipSpace (' ' :: (s ++ rest)) = s ++ rest := by
  obtain ⟨c, t, rfl, hc, -⟩ := h.head
  exact isGap_space.skipSpace hc (t ++ rest)

theorem exists_head_fields (literal : Text → Text) (write : Json → Text) (gap : Text)
    {fields : List (Text × Json)} (hne : fields ≠ []) :
    ∃ s, Text.joinWith (',' :: gap) (fields.map (writeField literal write)) = '"' :: s := by
  match fields with
  | [] => exact absurd rfl hne
  | [f] => exact ⟨_, Text.joinWith_singleton _ _⟩
  | f :: g :: fs => exact ⟨_, Text.joinWith_cons_cons gap _ _ _⟩

theorem readFields_joinWith (hl : ∀ t, Literal t (literal t)) (hg : IsGap gap) (hclosing : IsGap closing)
    {fields : List (Text × Json)} (hne : fields ≠ []) (h : ∀ f ∈ fields, ReadsAs (write f.2) f.2) (rest : Text)
    (before : List (Text × Json)) (hdistinct : ((before ++ fields).map Prod.fst).Nodup) (fuel : Nat)
    (hfuel : 2 * (Text.joinWith (',' :: gap) (fields.map (writeField literal write))).length + 1 ≤ fuel) :
    readFields fuel before (Text.joinWith (',' :: gap) (fields.map (writeField literal write)) ++
      (closing ++ '\x7d' :: rest)) = outcome (excessFields? fields) (before ++ fields) rest := by
  induction fields generalizing before fuel with
  | nil => exact absurd rfl hne
  | cons field fields ih =>
    obtain ⟨name, v⟩ := field
    obtain ⟨f, rfl⟩ : ∃ f, fuel = f + 1 := ⟨fuel - 1, by omega⟩
    rw [List.forall_mem_cons] at h
    have hfresh : name ∉ before.map Prod.fst := by
      intro hm
      rw [List.map_append, List.map_cons] at hdistinct
      exact (List.nodup_append.1 hdistinct).2.2 name hm name List.mem_cons_self rfl
    have hvalue : ReadsAs (write v) v := h.1
    cases fields with
    | nil =>
      rw [List.map_singleton, Text.joinWith_singleton] at hfuel ⊢
      simp only [writeField, List.length_append, List.length_cons] at hfuel
      have hv := hvalue.reads f (closing ++ '\x7d' :: rest) (by omega) (hclosing.endsNumber (Or.inr rfl) rest)
      rw [← hvalue.skipSpace] at hv
      rw [writeField_append, excessFields?, excessFields?, Option.or_none, ← setField_of_notMem hfresh]
      exact readFields_last (fun opened => (hl name).readText_eq opened _) hv (hclosing.skipSpace rfl rest)
    | cons g gs =>
      have hne' := List.cons_ne_nil g gs
      obtain ⟨t, ht⟩ := exists_head_fields literal write gap hne'
      have hsplit : before ++ (name, v) :: g :: gs = setField name v before ++ g :: gs := by
        rw [setField_of_notMem hfresh, List.append_assoc]
        rfl
      rw [List.map_cons, List.map_cons, Text.joinWith_cons_cons, ← List.map_cons] at hfuel ⊢
      simp only [writeField, List.length_append, List.length_cons] at hfuel
      have hskip := hg.skipSpace (show isSpace '"' = false from rfl) (t ++ (closing ++ '\x7d' :: rest))
      rw [← List.cons_append, ← ht] at hskip
      have hfields := ih hne' h.2 (setField name v before) (hsplit ▸ hdistinct) f (by omega)
      rw [← hskip] at hfields
      have hv := hvalue.reads f (',' :: (gap ++ (Text.joinWith (',' :: gap) ((g :: gs).map (writeField literal write)) ++
        (closing ++ '\x7d' :: rest)))) (by omega) (endsNumber_comma _)
      rw [← hvalue.skipSpace] at hv
      rw [List.append_assoc, List.cons_append, List.append_assoc, writeField_append, hsplit]
      exact readFields_next (fun opened => (hl name).readText_eq opened _) hv (skipSpace_cons rfl _) hfields

theorem readsAs_object (hl : ∀ t, Literal t (literal t)) (ho : IsGap opening) (hg : IsGap gap)
    (hclosing : IsGap closing) {fields : List (Text × Json)} (hdistinct : (fields.map Prod.fst).Nodup)
    (h : ∀ f ∈ fields, ReadsAs (write f.2) f.2) :
    ReadsAs ('\x7b' :: (opening ++ (Text.joinWith (',' :: gap) (fields.map (writeField literal write)) ++
      (closing ++ ['\x7d'])))) (.object fields) := by
  refine .of_succ (by decide) fun fuel rest hfuel _ => ?_
  simp only [List.length_append] at hfuel
  simp only [List.append_assoc, List.singleton_append]
  cases fields with
  | nil =>
    have hskip := (ho.append hclosing).skipSpace (show isSpace '\x7d' = false from rfl) rest
    rw [List.append_assoc] at hskip
    exact readValue_object_nil hskip
  | cons f fs =>
    have hne := List.cons_ne_nil f fs
    obtain ⟨s, hs⟩ := exists_head_fields literal write gap hne
    have hfields := readFields_joinWith hl hg hclosing hne h rest [] hdistinct fuel (by omega)
    rw [hs, List.cons_append] at hfields ⊢
    exact readValue_object (ho.skipSpace rfl _) (by decide) hfields

end Parts

/-- What is read as a document in some layout is the document, unless an integer has too many digits. -/
theorem ReadsAs.read {s : Text} {v : Json} (h : ReadsAs s v) : read s =
    match v.excess? with
    | none => .ok v
    | some digits => .error (.longNumeral digits) := by
  obtain ⟨c, t, hs, hspace, -, hmark⟩ := h.head
  have hvalue := h.reads (2 * s.length + 2) [] (by omega) (by rintro c ⟨⟩)
  rw [List.append_nil] at hvalue
  rw [Json.read, readAs, readDocument]
  rw [hs] at hvalue ⊢
  rw [if_neg (by simpa using hmark), skipSpace_cons hspace, hvalue]
  cases v.excess? <;> rfl

end Dockgraph.Json
