import Mathlib.Data.List.Forall2

/-! When steps that may be refused come to a value, and when to a refusal. -/

namespace Dockgraph

variable {ε δ α β : Type} {r : Except ε α} {f : α → Except ε β}

theorem bind_eq_ok_iff {b : β} : (r >>= f) = .ok b ↔ ∃ a, r = .ok a ∧ f a = .ok b := by
  cases r <;> simp [bind, Except.bind]

theorem bind_eq_error_iff {e : ε} : (r >>= f) = .error e ↔ r = .error e ∨ ∃ a, r = .ok a ∧ f a = .error e := by
  cases r <;> simp [bind, Except.bind]

theorem map_eq_ok_iff {f : α → β} {b : β} : r.map f = .ok b ↔ ∃ a, r = .ok a ∧ f a = b := by
  cases r <;> simp [Except.map]

theorem map_eq_error_iff {f : α → β} {e : ε} : r.map f = .error e ↔ r = .error e := by
  cases r <;> simp [Except.map]

theorem mapError_eq_ok_iff {f : ε → δ} {a : α} : r.mapError f = .ok a ↔ r = .ok a := by
  cases r with
  | ok =>
    constructor
    · exact fun h => congrArg Except.ok (Except.ok.inj h)
    · exact fun h => congrArg Except.ok (Except.ok.inj h)
  | error =>
    constructor
    · intro h
      cases h
    · intro h
      cases h

theorem mapError_eq_error_iff {f : ε → δ} {d : δ} : r.mapError f = .error d ↔ ∃ e, r = .error e ∧ f e = d := by
  cases r with
  | ok =>
    constructor
    · intro h
      cases h
    · rintro ⟨e, h, -⟩
      cases h
  | error e =>
    constructor
    · exact fun h => ⟨e, rfl, Except.error.inj h⟩
    · rintro ⟨_, h, rfl⟩
      cases h
      rfl

/-! Lists of steps. -/

theorem exists_forall₂ {R : α → β → Prop} {as : List α} (h : ∀ a ∈ as, ∃ b, R a b) : ∃ bs, as.Forall₂ R bs := by
  induction as with
  | nil => exact ⟨[], .nil⟩
  | cons a as ih =>
    rw [List.forall_mem_cons] at h
    obtain ⟨b, hb⟩ := h.1
    obtain ⟨bs, hbs⟩ := ih h.2
    exact ⟨b :: bs, .cons hb hbs⟩

theorem mapM_eq_ok_of_forall₂ {as : List α} {bs : List β} (h : as.Forall₂ (fun a b => f a = .ok b) bs) :
    as.mapM f = .ok bs := by
  induction h with
  | nil => rfl
  | cons ha _ ih =>
    rw [List.mapM_cons, ha, ih]
    rfl

theorem exists_mapM_eq_ok {as : List α} (h : ∀ a ∈ as, ∃ b, f a = .ok b) : ∃ bs, as.mapM f = .ok bs :=
  (exists_forall₂ h).imp fun _ => mapM_eq_ok_of_forall₂

theorem exists_mapM_map_eq_ok {γ : Type} {g : γ → α} (h : ∀ c, ∃ b, f (g c) = .ok b) (cs : List γ) :
    ∃ bs, (cs.map g).mapM f = .ok bs :=
  exists_mapM_eq_ok (List.forall_mem_map.2 fun c _ => h c)

end Dockgraph
