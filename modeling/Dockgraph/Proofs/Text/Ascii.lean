import Dockgraph.Text.Blank
import Dockgraph.Text.Case

/-! ASCII texts. In them upper case is a matter of single characters, is reached at once, and makes no blanks. -/

namespace Dockgraph.Text

def IsAscii (s : Text) : Prop :=
  ∀ c ∈ s, c.toNat < 128

instance : DecidablePred IsAscii :=
  List.decidableBAll fun c : Char => c.toNat < 128

/-- What holds of the first 128 characters holds of all that are ASCII. -/
theorem of_ascii {P : Char → Prop} {c : Char} (hc : c.toNat < 128) (h : ∀ n < 128, P (Char.ofNat n)) : P c :=
  Char.ofNat_toNat c ▸ h c.toNat hc

theorem toUpper_of_ascii {c : Char} (hc : c.toNat < 128) :
    c.toUpper.toNat < 128 ∧ c.toUpper.toUpper = c.toUpper ∧ isBlank c.toUpper = isBlank c := by
  refine of_ascii (P := fun c => c.toUpper.toNat < 128 ∧ c.toUpper.toUpper = c.toUpper ∧
    isBlank c.toUpper = isBlank c) hc ?_
  decide +kernel

variable {s : Text}

theorem upper_eq_map (h : IsAscii s) : upper s = s.map Char.toUpper := by
  induction s with
  | nil => rfl
  | cons c s ih =>
    rw [IsAscii, List.forall_mem_cons] at h
    rw [upper, List.flatMap_cons, upperChar, if_pos h.1, ← upper, ih h.2]
    rfl

theorem IsAscii.upper (h : IsAscii s) : IsAscii (upper s) := by
  intro c hc
  rw [upper_eq_map h, List.mem_map] at hc
  obtain ⟨d, hd, rfl⟩ := hc
  exact (toUpper_of_ascii (h d hd)).1

theorem upper_upper (h : IsAscii s) : Text.upper (Text.upper s) = Text.upper s := by
  rw [upper_eq_map h.upper, upper_eq_map h, List.map_map]
  exact List.map_congr_left fun c hc => (toUpper_of_ascii (h c hc)).2.1

theorem isBlank_of_mem_upper (h : IsAscii s) (hs : ∀ c ∈ s, isBlank c = false) :
    ∀ c ∈ Text.upper s, isBlank c = false := by
  intro c hc
  rw [upper_eq_map h, List.mem_map] at hc
  obtain ⟨d, hd, rfl⟩ := hc
  rw [(toUpper_of_ascii (h d hd)).2.2]
  exact hs d hd

end Dockgraph.Text
