import Dockgraph.Graph.Basic
import Dockgraph.IdSource
import Mathlib.Data.List.Basic

/-! Ids do not clash. The number at the end of an id tells it from the others of its source, and the id of
an edge can be taken apart again: a low line ends the keyword and the first hyphen after the number ends
the source's id, whatever the session is. -/

namespace Dockgraph

namespace Text

/-- A mark that stands in neither beginning ends both of them. -/
theorem append_cons_inj_of_notMem_left {c : Char} {s s' t t' : Text} (hs : c ∉ s) (hs' : c ∉ s')
    (h : s ++ c :: t = s' ++ c :: t') : s = s' ∧ t = t' := by
  induction s generalizing s' with
  | nil =>
    cases s' with
    | nil => exact ⟨rfl, (List.cons.inj h).2⟩
    | cons d s' =>
      have hd : c = d := (List.cons.inj h).1
      exact absurd (hd ▸ List.mem_cons_self) hs'
  | cons a s ih =>
    cases s' with
    | nil =>
      have ha : a = c := (List.cons.inj h).1
      exact absurd (ha ▸ List.mem_cons_self) hs
    | cons d s' =>
      obtain ⟨ha, hrest⟩ := List.cons.inj h
      rw [List.mem_cons, not_or] at hs hs'
      obtain ⟨hst, ht⟩ := ih hs.2 hs'.2 hrest
      exact ⟨by rw [ha, hst], ht⟩

theorem append_cons_inj_of_notMem_right {c : Char} {s s' t t' : Text} (ht : c ∉ t) (ht' : c ∉ t')
    (h : s ++ c :: t = s' ++ c :: t') : s = s' ∧ t = t' := by
  have hr := congrArg List.reverse h
  simp only [List.reverse_append, List.reverse_cons, List.append_assoc, List.singleton_append] at hr
  have hinj := append_cons_inj_of_notMem_left (by simpa using ht) (by simpa using ht') hr
  exact ⟨List.reverse_inj.1 hinj.2, List.reverse_inj.1 hinj.1⟩

theorem isDigit_of_mem_ofNat {n : Nat} {c : Char} (h : c ∈ ofNat n) : c.isDigit = true :=
  Nat.isDigit_of_mem_toDigits (by omega) (by omega) h

theorem ofNat_ne_nil (n : Nat) : ofNat n ≠ [] :=
  Nat.toDigits_ne_nil

theorem ofNat_inj {m n : Nat} (h : ofNat m = ofNat n) : m = n := by
  have hv := congrArg (Nat.ofDigitChars 10 · 0) h
  simpa only [ofNat, Nat.ofDigitChars_ten_toDigits] using hv

/-- A numeral, zeros at its beginning included. -/
def IsNumeral (s : Text) : Prop :=
  s ≠ [] ∧ ∀ c ∈ s, c.isDigit = true

theorem isNumeral_ofNat (n : Nat) : IsNumeral (ofNat n) :=
  ⟨ofNat_ne_nil n, fun _ => isDigit_of_mem_ofNat⟩

theorem IsNumeral.notMem {s : Text} (h : IsNumeral s) {c : Char} (hc : c.isDigit = false) : c ∉ s := by
  intro hm
  rw [h.2 c hm] at hc
  exact Bool.noConfusion hc

theorem notMem_ofNat {n : Nat} {c : Char} (h : c.isDigit = false) : c ∉ ofNat n :=
  (isNumeral_ofNat n).notMem h

end Text

theorem Instruction.keyword_ne_nil (i : Instruction) : i.keyword ≠ [] := by
  cases i <;> decide

namespace IdSource

/-- The number of an id can be read off its end. -/
theorem number_of_form {k k' s : Text} {n n' : Nat} (h : form k s n = form k' s n') : n = n' := by
  simp only [form, List.append_assoc] at h
  rw [← List.append_assoc, ← List.append_assoc (Text.lower _)] at h
  have hd : ∀ m : Nat, '_' ∉ Text.ofNat m := fun m => Text.notMem_ofNat rfl
  exact Text.ofNat_inj (Text.append_cons_inj_of_notMem_right (hd n) (hd n') h).2

/-- The ids of nodes that a source has made so far for known instructions, and the numerals. -/
inductive Known (s : IdSource) : Text → Prop
  | issued (i : Instruction) {n : Nat} (h : n ≤ s.issued) : Known s (form i.keyword s.session n)
  | numeral (n : Nat) : Known s (Text.ofNat n)

theorem Known.mono {s s' : IdSource} {id : Text} (h : s.Known id) (hs : s'.session = s.session)
    (hn : s.issued ≤ s'.issued) : s'.Known id := by
  cases h with
  | issued i h => exact hs ▸ .issued i (Nat.le_trans h hn)
  | numeral n => exact .numeral n

theorem known_next (s : IdSource) (i : Instruction) :
    (s.next i.keyword).2.Known (s.next i.keyword).1 :=
  .issued (s := (s.next i.keyword).2) i (Nat.le_refl _)

/-- The next id is none of those before. -/
theorem not_known_next (s : IdSource) (k : Text) : ¬ s.Known (s.next k).1 := by
  generalize hid : (s.next k).1 = id
  intro h
  cases h with
  | issued i hn =>
    have := number_of_form hid
    omega
  | numeral n =>
    have hm : '_' ∈ (s.next k).1 := by simp [next, form]
    exact Text.notMem_ofNat rfl (hid ▸ hm)

/-! Taking ids apart. -/

theorem lower_keyword_ne_nil (i : Instruction) : Text.lower i.keyword ≠ [] := by
  cases i <;> decide

theorem of_mem_lower_keyword (i : Instruction) {c : Char} (h : c ∈ Text.lower i.keyword) :
    c ≠ '_' ∧ c.isDigit = false := by
  have hall : (Text.lower i.keyword).all (fun c => c != '_' && !c.isDigit) = true := by
    cases i <;> rfl
  simpa using List.all_eq_true.1 hall c h

theorem form_keyword (i : Instruction) (s : Text) (n : Nat) :
    form i.keyword s n = Text.lower i.keyword ++ '_' :: (s ++ '_' :: Text.ofNat n) := by
  simp [form, i.keyword_ne_nil]

/-- A keyword has no low line of its own, so the first one in an id ends it. -/
theorem append_form_inj {i j : Instruction} {s s' t t' : Text} {m n : Nat}
    (h : form i.keyword s m ++ t = form j.keyword s' n ++ t') :
    Text.lower i.keyword = Text.lower j.keyword ∧
      s ++ '_' :: (Text.ofNat m ++ t) = s' ++ '_' :: (Text.ofNat n ++ t') := by
  have hk : ∀ k : Instruction, '_' ∉ Text.lower k.keyword :=
    fun k hm => (of_mem_lower_keyword k hm).1 rfl
  simp only [form_keyword, List.append_assoc, List.cons_append] at h
  exact Text.append_cons_inj_of_notMem_left (hk i) (hk j) h

/-- The session can be read off an id, whatever hyphens, digits and low lines it has. -/
theorem session_of_form {i j : Instruction} {s s' : Text} {m n : Nat}
    (h : form i.keyword s m = form j.keyword s' n) : s = s' := by
  have hd : ∀ m : Nat, '_' ∉ Text.ofNat m := fun m => Text.notMem_ofNat rfl
  have hpadded : form i.keyword s m ++ [] = form j.keyword s' n ++ [] := by rw [h]
  have hrest := (append_form_inj hpadded).2
  rw [List.append_nil, List.append_nil] at hrest
  exact (Text.append_cons_inj_of_notMem_right (hd m) (hd n) hrest).1

/-- The ids that nodes may have in a session: those with the keyword of an instruction, and the numerals. -/
inductive NodeId (session : Text) : Text → Prop
  | formed (i : Instruction) (n : Nat) : NodeId session (form i.keyword session n)
  | numeral {digits : Text} (h : Text.IsNumeral digits) : NodeId session digits

theorem Known.nodeId {s : IdSource} {id : Text} (h : s.Known id) : NodeId s.session id := by
  cases h with
  | issued i _ => exact .formed i _
  | numeral n => exact .numeral (Text.isNumeral_ofNat n)

theorem form_keyword_ne_numeral (i : Instruction) (s t t' : Text) (n : Nat) {digits : Text}
    (h : Text.IsNumeral digits) : form i.keyword s n ++ t ≠ digits ++ t' := by
  intro he
  obtain ⟨c, k, hk⟩ := List.exists_cons_of_ne_nil (lower_keyword_ne_nil i)
  obtain ⟨d, ds, rfl⟩ := List.exists_cons_of_ne_nil h.1
  rw [form_keyword, hk] at he
  -- the one begins with a letter, the other with a digit
  have hcd : c = d := (List.cons.inj he).1
  have hd : d.isDigit = true := h.2 d List.mem_cons_self
  have hc' := (of_mem_lower_keyword i (c := c) (by simp [hk])).2
  rw [hcd, hd] at hc'
  exact Bool.noConfusion hc'

/-- What stands before a hyphen is the same id, though the session may hold hyphens of its own. -/
theorem NodeId.append_hyphen_inj {session x x' y y' : Text} (hx : NodeId session x) (hx' : NodeId session x')
    (h : x ++ '-' :: y = x' ++ '-' :: y') : x = x' ∧ y = y' := by
  cases hx with
  | numeral hd =>
    cases hx' with
    | numeral hd' => exact Text.append_cons_inj_of_notMem_left (hd.notMem rfl) (hd'.notMem rfl) h
    | formed i' n' => exact absurd h.symm (form_keyword_ne_numeral i' _ _ _ n' hd)
  | formed i n =>
    cases hx' with
    | numeral hd' => exact absurd h (form_keyword_ne_numeral i _ _ _ n hd')
    | formed i' n' =>
      have hd : ∀ m : Nat, '-' ∉ Text.ofNat m := fun m => Text.notMem_ofNat rfl
      obtain ⟨hkk, hrest⟩ := append_form_inj h
      have hnum := (List.cons.inj (List.append_cancel_left hrest)).2
      obtain ⟨hn, hy⟩ := Text.append_cons_inj_of_notMem_left (hd n) (hd n') hnum
      exact ⟨by rw [form_keyword, form_keyword, hkk, hn], hy⟩

theorem NodeId.between_inj {session x x' y y' : Text} (hx : NodeId session x) (hx' : NodeId session x')
    (h : (Edge.between x y).id = (Edge.between x' y').id) : x = x' ∧ y = y' :=
  hx.append_hyphen_inj hx' (List.cons.inj h).2

theorem Known.between_inj {s : IdSource} {x x' y y' : Text} (hx : s.Known x) (hx' : s.Known x')
    (h : (Edge.between x y).id = (Edge.between x' y').id) : x = x' ∧ y = y' :=
  hx.nodeId.between_inj hx'.nodeId h

/-! The ids that one source makes one after another. -/

theorem getElem?_nextAll (s : IdSource) (ks : List Text) (n : Nat) :
    (s.nextAll ks)[n]? = ks[n]?.map fun k => form k s.session (s.issued + n + 1) := by
  induction ks generalizing s n with
  | nil => rfl
  | cons k ks ih =>
    cases n with
    | zero => rfl
    | succ n =>
      rw [nextAll, List.getElem?_cons_succ, ih, List.getElem?_cons_succ]
      simp only [next]
      congr 2
      funext k
      congr 1
      omega

theorem length_nextAll (s : IdSource) (ks : List Text) : (s.nextAll ks).length = ks.length := by
  induction ks generalizing s with
  | nil => rfl
  | cons k ks ih => rw [nextAll, List.length_cons, ih, List.length_cons]

theorem nodup_nextAll (s : IdSource) (ks : List Text) : (s.nextAll ks).Nodup := by
  induction ks generalizing s with
  | nil => exact List.nodup_nil
  | cons k ks ih =>
    refine List.nodup_cons.2 ⟨fun hm => ?_, ih _⟩
    -- the ids that come later have greater numbers
    obtain ⟨n, hn⟩ := List.getElem?_of_mem hm
    rw [getElem?_nextAll, Option.map_eq_some_iff] at hn
    obtain ⟨k', -, hid⟩ := hn
    have hnum := number_of_form hid
    simp only [next] at hnum
    omega

/-- The ids that a new source hands out for keywords, some of which may be missing. -/
def handedOut (session : Text) (keywords : List (Option Text)) : List Text :=
  (ofSession session).nextAll (keywords.map (·.getD []))

/-- A new source hands out the id for an instruction, at its place in some sequence of keywords. -/
def HandsOut (session id : Text) : Prop :=
  ∃ (keywords : List (Option Text)) (n : Nat) (i : Instruction),
    keywords[n]? = some (some i.keyword) ∧ (handedOut session keywords)[n]? = some id

theorem HandsOut.exists_form {session id : Text} (h : HandsOut session id) :
    ∃ (i : Instruction) (n : Nat), id = form i.keyword session n := by
  obtain ⟨keywords, n, i, hk, hid⟩ := h
  rw [handedOut, getElem?_nextAll, List.getElem?_map, hk, Option.map_some, Option.map_some, Option.some.injEq] at hid
  exact ⟨i, _, hid.symm⟩

theorem nodeId_of_handsOut_or_numeral {session id : Text} (h : HandsOut session id ∨ Text.IsNumeral id) :
    NodeId session id := by
  rcases h with h | h
  · obtain ⟨i, n, rfl⟩ := h.exists_form
    exact .formed i n
  · exact .numeral h

/-- One source hands out no id twice, whatever the keywords, and sources of different sessions share none that is for an
instruction. The id of an edge that leaves such an id, or a numeral, tells both of its ends. -/
theorem ids_kept_apart :
    (∀ session keywords, (handedOut session keywords).length = keywords.length ∧ (handedOut session keywords).Nodup) ∧
    (∀ session session', session ≠ session' → ∀ id, HandsOut session id → ¬ HandsOut session' id) ∧
    (∀ session x x', HandsOut session x ∨ Text.IsNumeral x → HandsOut session x' ∨ Text.IsNumeral x' →
      ∀ y y', (Edge.between x y).id = (Edge.between x' y').id → x = x' ∧ y = y') := by
  refine ⟨fun session keywords => ⟨?_, nodup_nextAll _ _⟩, fun session session' hne id h h' => ?_,
    fun session x x' hx hx' y y' h => ?_⟩
  · rw [handedOut, length_nextAll, List.length_map]
  · obtain ⟨i, m, rfl⟩ := h.exists_form
    obtain ⟨j, n, hid⟩ := h'.exists_form
    exact hne (session_of_form hid)
  · exact (nodeId_of_handsOut_or_numeral hx).between_inj (nodeId_of_handsOut_or_numeral hx') h

/-- A session that goes on as another one's ids do, a missing keyword, and a numeral that begins with zeros. -/
theorem ids_kept_apart_tangled :
    (handedOut "1_2-3" [some "RUN", none, some "run", some "RUN"]).Nodup ∧
    (HandsOut "1_2-3" "run_1_2-3_4" ∧ "1_2-3".toList ≠ "1".toList ∧ ¬ HandsOut "1" "run_1_2-3_4") ∧
    (Text.IsNumeral "007" ∧ (Edge.between "run_1_2-3_4" "007").id ≠ (Edge.between "007" "run_1_2-3_4").id) := by
  obtain ⟨hnodup, hapart, hedges⟩ := ids_kept_apart
  have hrun : HandsOut "1_2-3" "run_1_2-3_4" :=
    ⟨[some "RUN", none, some "run", some "RUN"], 3, .run, by decide +kernel, by decide +kernel⟩
  have hne : "1_2-3".toList ≠ "1".toList := by decide
  have hnumeral : Text.IsNumeral "007" := ⟨by decide, List.all_eq_true.1 (by decide)⟩
  refine ⟨(hnodup _ _).2, ⟨hrun, hne, hapart _ _ hne _ hrun⟩, hnumeral, fun h => ?_⟩
  have hends := hedges "1_2-3" _ _ (.inl hrun) (.inr hnumeral) _ _ h
  exact absurd hends.1 (by decide)

end IdSource

end Dockgraph
