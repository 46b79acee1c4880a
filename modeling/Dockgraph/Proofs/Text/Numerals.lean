import Dockgraph.Proofs.Ids
import Mathlib.Tactic.IntervalCases

/-! Numerals are read back: the decimal one begins with a zero only for zero itself, and the hexadecimal one of four
digits has one digit for each power of sixteen. -/

namespace Dockgraph.Text

/-! Decimal numerals. -/

theorem head?_ofNat_of_le {n : Nat} (h : 10 ≤ n) : (ofNat n).head? = (ofNat (n / 10)).head? := by
  rw [ofNat, Nat.toDigits_of_base_le (by omega) h]
  exact List.head?_append_of_ne_nil _ (ofNat_ne_nil _)

theorem head?_ofNat_ne_zero {n : Nat} (hn : n ≠ 0) : (ofNat n).head? ≠ some '0' := by
  induction n using Nat.strong_induction_on with
  | _ n ih =>
    rcases Nat.lt_or_ge n 10 with hlt | hge
    · rw [ofNat, Nat.toDigits_of_lt_base hlt]
      interval_cases n
      · exact absurd rfl hn
      all_goals decide
    · rw [head?_ofNat_of_le hge]
      exact ih (n / 10) (by omega) (by omega)

theorem length_ofNat_le {n k : Nat} (hk : 0 < k) (h : n < 10 ^ k) : (ofNat n).length ≤ k :=
  (Nat.length_toDigits_le_iff (by omega) hk).2 h

/-! Hexadecimal numerals. -/

theorem digitIn?_digitChar {d : Nat} (h : d < 16) : digitIn? 16 (Nat.digitChar d) = some d := by
  interval_cases d <;> rfl

theorem ofHex_succ {width : Nat} (hw : 0 < width) (n : Nat) :
    ofHex (width + 1) n = ofHex width (n / 16) ++ [Nat.digitChar (n % 16)] := by
  rcases Nat.lt_or_ge n 16 with hlt | hge
  · have hdiv : n / 16 = 0 := Nat.div_eq_of_lt hlt
    obtain ⟨k, rfl⟩ : ∃ k, width = k + 1 := ⟨width - 1, by omega⟩
    rw [ofHex, ofHex, hdiv, Nat.toDigits_of_lt_base hlt, Nat.toDigits_of_lt_base (by omega : 0 < 16),
      Nat.mod_eq_of_lt hlt]
    simp only [List.length_singleton, Nat.add_sub_cancel, List.append_assoc]
    rw [List.replicate_succ', List.append_assoc]
    rfl
  · rw [ofHex, ofHex, Nat.toDigits_of_base_le (by omega) hge]
    simp only [List.length_append, List.length_singleton, Nat.add_sub_add_right, List.append_assoc]

theorem ofHex_one {n : Nat} (h : n < 16) : ofHex 1 n = [Nat.digitChar n] := by
  rw [ofHex, Nat.toDigits_of_lt_base h]
  rfl

theorem ofHex_four {n : Nat} (h : n < 0x10000) : ofHex 4 n =
    [Nat.digitChar (n / 4096), Nat.digitChar (n / 256 % 16), Nat.digitChar (n / 16 % 16),
      Nat.digitChar (n % 16)] := by
  have h2 : n / 16 / 16 = n / 256 := Nat.div_div_eq_div_mul n 16 16
  have h3 : n / 16 / 16 / 16 = n / 4096 := by rw [h2, Nat.div_div_eq_div_mul]
  rw [ofHex_succ (by omega), ofHex_succ (by omega), ofHex_succ (by omega), h3, h2, ofHex_one (by omega)]
  rfl

end Dockgraph.Text
