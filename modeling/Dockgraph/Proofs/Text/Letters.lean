import Dockgraph.Text.Fold
import Mathlib.Tactic.SplitIfs

/-! The characters that count as a given letter when case does not matter. The table of lower cases is
searched backwards for them, which finds all: so what holds of the few characters that are found holds
of every character that counts as the letter. -/

namespace Dockgraph.Text

/-- No row maps a character to a surrogate or past the last code point. -/
def CaseRow.InRange (row : CaseRow) : Prop :=
  row.image + (row.last - row.first) < 0xd800 ∨
    0xdfff < row.image ∧ row.image + (row.last - row.first) < 0x110000

theorem inRange_of_mem_lowerRows : ∀ row ∈ lowerRows, row.InRange := by
  unfold CaseRow.InRange
  decide +kernel

theorem CaseRow.map?_eq_some {row : CaseRow} {n m : Nat} (h : row.map? n = some m) :
    row.first ≤ n ∧ n ≤ row.last ∧ m = row.image + (n - row.first) := by
  rw [map?, Option.ite_none_right_eq_some] at h
  simp only [Bool.and_eq_true, decide_eq_true_eq, Option.some.injEq] at h
  exact ⟨h.1.1.1, h.1.1.2, h.2.symm⟩

theorem CaseRow.source?_of_map? {row : CaseRow} {n m : Nat} (h : row.map? n = some m) :
    row.source? m = some n := by
  obtain ⟨hfirst, -, hm⟩ := map?_eq_some h
  have hs : row.first + (m - row.image) = n := by omega
  have hi : row.image ≤ m := by omega
  simp [source?, hs, hi, h]

theorem toNat_ofNat_of_map? {row : CaseRow} (hr : row ∈ lowerRows) {n m : Nat}
    (h : row.map? n = some m) : (Char.ofNat m).toNat = m := by
  obtain ⟨hfirst, hlast, hm⟩ := CaseRow.map?_eq_some h
  have hv : m.isValidChar := by
    rcases inRange_of_mem_lowerRows row hr with hlow | ⟨hsur, hhigh⟩
    · exact Or.inl (by omega)
    · exact Or.inr (by omega)
  rw [Char.ofNat, dif_pos hv]
  rfl

theorem mem_lowerSources_mapRows (c : Char) : c ∈ lowerSources (mapRows lowerRows c) := by
  cases hm : lowerRows.findSome? (·.map? c.toNat) with
  | none => simp [lowerSources, mapRows, hm]
  | some n =>
    obtain ⟨row, hr, hrow⟩ := List.exists_of_findSome?_eq_some hm
    have himage : (mapRows lowerRows c).toNat = n := by
      rw [mapRows, hm]
      exact toNat_ofNat_of_map? hr hrow
    refine List.mem_append_right _ (List.mem_map.2 ⟨c.toNat, ?_, Char.ofNat_toNat c⟩)
    rw [himage]
    exact List.mem_filterMap.2 ⟨row, hr, CaseRow.source?_of_map? hrow⟩

theorem mem_lowerSources_toLower : ∀ n < 128,
    Char.ofNat n ∈ lowerSources (Char.ofNat n).toLower := by
  decide +kernel

/-- Every character is found among the sources of its lower case. -/
theorem mem_lowerSources (c : Char) : c ∈ lowerSources (lowerOne c) := by
  unfold lowerOne
  split_ifs with hascii hdot
  · simpa using mem_lowerSources_toLower c.toNat hascii
  · subst hdot
    decide +kernel
  · exact mem_lowerSources_mapRows c

theorem sameLetter_self (c : Char) : sameLetter c c = true := by
  simp [sameLetter, foldForms]

/-- The characters that are found for the letter `k`: the sources of its forms. -/
def variants (k : Char) : List Char :=
  (foldForms k).flatMap lowerSources

theorem mem_variants_of_sameLetter {k c : Char} (h : sameLetter k c = true) : c ∈ variants k :=
  List.mem_flatMap.2 ⟨lowerOne c, by simpa [sameLetter] using h, mem_lowerSources c⟩

end Dockgraph.Text
