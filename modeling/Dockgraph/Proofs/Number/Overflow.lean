import Dockgraph.Number.Double
import Mathlib.Tactic.SplitIfs

/-! Integers beyond all doubles. The greatest double is `2 ^ 1024 - 2 ^ 971`; an integer rounds to it while it is
nearer to it than to `2 ^ 1024`, and from the middle of the two on, where the tie goes to the even one, there is
no double for it. -/

namespace Dockgraph

/-- Below an even multiple of the divisor, the quotient rounds up to it from the middle on. -/
theorem roundDiv_eq_iff_of_lt {n h q : Nat} (hh : 0 < h) (hq : q % 2 = 0) (hn : n < 2 * h * q) :
    roundDiv n (2 * h) = q ↔ 2 * h * q ≤ n + h := by
  have hdiv := Nat.div_add_mod n (2 * h)
  have hmod := Nat.mod_lt n (Nat.mul_pos Nat.two_pos hh)
  have hlt : n / (2 * h) < q := Nat.div_lt_of_lt_mul hn
  unfold roundDiv
  dsimp only
  generalize n / (2 * h) = k at *
  generalize n % (2 * h) = r at *
  rcases Nat.lt_or_ge (k + 1) q with hfar | hnear
  · have hmul : 2 * h * (k + 2) ≤ 2 * h * q := Nat.mul_le_mul_left _ hfar
    rw [Nat.mul_add] at hmul
    split_ifs <;> omega
  · obtain rfl : q = k + 1 := by omega
    rw [Nat.mul_add, Nat.mul_one]
    split_ifs <;> omega

namespace Double

theorem scaleTwo_neg {num den k : Nat} (hk : 0 < k) :
    scaleTwo num den (-(k : Int)) = (num, den * Nat.pow 2 k) := by
  have hexp : (-(-(k : Int))).toNat = k := by omega
  rw [scaleTwo, if_neg (by omega), hexp]

theorem floorLog2_one {n : Nat} (hn : n ≠ 0) : floorLog2 n 1 = n.log2 := by
  have hle := Nat.log2_self_le hn
  have hone : Nat.log2 1 = 0 := rfl
  unfold floorLog2 scaleTwo
  rw [hone]
  dsimp only
  split_ifs with hsign hlt hlt
  · simp only [Nat.pow_eq] at hlt
    have hz : n.log2 = 0 := by omega
    simp [hz] at hlt
    omega
  · simp
  · have he : (-(-((n.log2 : Int) - (0 : Nat)))).toNat = n.log2 := by omega
    rw [he, Nat.one_mul] at hlt
    exact absurd hlt (Nat.not_lt.2 hle)
  · simp

/-- A natural number overflows with its leading bit, or when that of the greatest double is rounded up. -/
theorem ofRatio_eq_infinite_iff {s : Bool} {n : Nat} (hn : n ≠ 0) :
    (∃ t, ofRatio s n 1 = .infinite t) ↔
      1023 < n.log2 ∨ n.log2 = 1023 ∧ roundDiv n (Nat.pow 2 (n.log2 - 52)) = Nat.pow 2 53 := by
  have he : max ((n.log2 : Int) - 52) (-1074) = n.log2 - 52 := by omega
  rw [ofRatio, if_neg hn, floorLog2_one hn]
  simp only [he]
  by_cases hlog : n.log2 = 1023
  · have hexp : (n.log2 : Int) - 52 = (n.log2 - 52 : Nat) := by omega
    rw [hexp, scaleTwo_neg (by omega), Nat.one_mul]
    generalize roundDiv n (Nat.pow 2 (n.log2 - 52)) = m
    by_cases hm : m = Nat.pow 2 53
    · rw [if_pos hm, if_pos (by dsimp only; omega)]
      exact iff_of_true ⟨s, rfl⟩ (Or.inr ⟨hlog, hm⟩)
    · rw [if_neg hm, if_neg (by dsimp only; omega)]
      refine iff_of_false (fun ⟨t, ht⟩ => ?_) (fun h => ?_)
      · cases ht
      · exact h.elim (fun hlt => by omega) fun heq => hm heq.2
  · generalize scaleTwo n 1 (-((n.log2 : Int) - 52)) = scaled
    generalize roundDiv scaled.1 scaled.2 = m
    split_ifs <;> simp <;> omega

/-- The least natural number that no double stands for. -/
def firstHuge : Nat := Nat.pow 2 1024 - Nat.pow 2 970

/-- With the last place of the greatest double at `2 * 2 ^ k`. -/
theorem firstHuge_eq {k : Nat} (hk : k = 970) : firstHuge = (Nat.pow 2 54 - 1) * Nat.pow 2 k := by
  have htop : 1024 = 54 + k := by omega
  rw [firstHuge, htop, ← hk]
  simp only [Nat.pow_eq]
  rw [Nat.pow_add, Nat.sub_mul, Nat.one_mul]

theorem firstHuge_pos : 0 < firstHuge := by
  -- the exponent is a name, so that no power of its size is written out
  obtain ⟨k, hk⟩ : ∃ k, k = 970 := ⟨_, rfl⟩
  rw [firstHuge_eq hk]
  exact Nat.mul_pos (by decide) (Nat.two_pow_pos k)

theorem firstHuge_le_iff {n : Nat} (hn : n ≠ 0) :
    firstHuge ≤ n ↔
      1023 < n.log2 ∨ n.log2 = 1023 ∧ roundDiv n (Nat.pow 2 (n.log2 - 52)) = Nat.pow 2 53 := by
  obtain ⟨k, hk⟩ : ∃ k, k = 970 := ⟨_, rfl⟩
  have hlow := Nat.log2_self_le hn
  have hhigh := Nat.lt_log2_self (n := n)
  have hhalf : 0 < 2 ^ k := Nat.two_pow_pos k
  rw [firstHuge_eq hk]
  simp only [Nat.pow_eq]
  rcases Nat.lt_trichotomy n.log2 1023 with hlog | hlog | hlog
  · have hle : 2 ^ (n.log2 + 1) ≤ 2 ^ (53 + k) := Nat.pow_le_pow_right Nat.two_pos (by omega)
    rw [Nat.pow_succ, Nat.pow_add 2 53 k] at hle
    rw [Nat.pow_succ] at hhigh
    generalize 2 ^ k = h at *
    omega
  · have hunit : n.log2 - 52 = k + 1 := by omega
    have hnext : n.log2 + 1 = 54 + k := by omega
    rw [hnext, Nat.pow_add] at hhigh
    rw [hunit, @Nat.pow_add_one' 2 k]
    generalize 2 ^ k = h at *
    have hround := @roundDiv_eq_iff_of_lt n h (2 ^ 53) hhalf rfl (by omega)
    rw [hround]
    omega
  · have hle : 2 ^ (54 + k) ≤ 2 ^ n.log2 := Nat.pow_le_pow_right Nat.two_pos (by omega)
    rw [Nat.pow_add] at hle
    generalize 2 ^ k = h at *
    omega

/-- An integer has no double from the middle between the greatest double and the next power of two on. -/
theorem ofInt?_eq_none_iff {i : Int} : ofInt? i = none ↔ firstHuge ≤ i.natAbs := by
  have hinf : ofInt? i = none ↔ ∃ t, ofRatio (i < 0) i.natAbs 1 = .infinite t := by
    unfold ofInt?
    split <;> simp_all
  rw [hinf]
  by_cases hi : i.natAbs = 0
  · have hpos := firstHuge_pos
    rw [hi]
    simp [ofRatio]
    omega
  · rw [ofRatio_eq_infinite_iff hi, firstHuge_le_iff hi]

end Double

end Dockgraph
