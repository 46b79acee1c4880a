/-! Membership in a table of code point ranges. -/

namespace Dockgraph.Text

/-- Whether `n` lies in one of the ranges, which are closed, disjoint and ascending. -/
def inRanges (n : Nat) : List (Nat × Nat) → Bool
  | [] => false
  | (lo, hi) :: rest => if n < lo then false else n ≤ hi || inRanges n rest

theorem exists_of_inRanges {n : Nat} {table : List (Nat × Nat)} (h : inRanges n table = true) :
    ∃ r ∈ table, r.1 ≤ n ∧ n ≤ r.2 := by
  induction table with
  | nil => simp [inRanges] at h
  | cons r rest ih =>
    obtain ⟨lo, hi⟩ := r
    by_cases hlo : n < lo
    · simp [inRanges, hlo] at h
    · by_cases hhi : n ≤ hi
      · exact ⟨(lo, hi), by simp, by omega, hhi⟩
      · have h' : inRanges n rest = true := by simpa [inRanges, hlo, hhi] using h
        obtain ⟨r, hr, hb⟩ := ih h'
        exact ⟨r, by simp [hr], hb⟩

end Dockgraph.Text
