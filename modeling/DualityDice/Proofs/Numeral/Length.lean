import Mathlib.Algebra.Group.Int.Defs
import Mathlib.Algebra.Group.Nat.Defs
import DualityDice.Proofs.Numeral

namespace DualityDice.Numeral

theorem length_ofNat_le_iff {n places : Nat} (h : 0 < places) :
    (ofNat n).length ≤ places ↔ n < 10 ^ places :=
  Nat.length_toDigits_le_iff (by decide) h

theorem length_ofInt_le {n : Int} {places : Nat} (hplaces : 0 < places)
    (hlow : -10 ^ places < n) (hhigh : n < 10 ^ (places + 1)) :
    (ofInt n).length ≤ places + 1 := by
  cases n with
  | ofNat n =>
      have hmagnitude : n < 10 ^ (places + 1) := by
        rw [Int.ofNat_eq_natCast] at hhigh
        exact_mod_cast hhigh
      exact (length_ofNat_le_iff (Nat.succ_pos places)).mpr hmagnitude
  | negSucc n =>
      have hmagnitude : n + 1 < 10 ^ places := by
        rw [Int.negSucc_eq] at hlow
        exact_mod_cast Int.neg_lt_neg_iff.mp hlow
      have hdigits := (length_ofNat_le_iff hplaces).mpr hmagnitude
      rw [ofInt, List.length_cons]
      omega

theorem value_cons (c : Char) (digits : Text) :
    value (c :: digits) = 10 ^ digits.length * (c.toNat - 48) + value digits := by
  rw [value, Nat.ofDigitChars_cons, Nat.ofDigitChars_eq_ofDigitChars_zero, Nat.mul_zero,
    Nat.zero_add]
  rfl

theorem value_lt {digits : Text} (h : ∀ c ∈ digits, c.isDigit = true) :
    value digits < 10 ^ digits.length := by
  induction digits with
  | nil => exact Nat.one_pos
  | cons c digits ih =>
      obtain ⟨hfirst, hrest⟩ := List.forall_mem_cons.mp h
      have hdigit : c.toNat - 48 ≤ 9 := by
        obtain ⟨_, hhigh⟩ : 48 ≤ c.toNat ∧ c.toNat ≤ 57 := Char.isDigit_iff_toNat.mp hfirst
        omega
      calc
        value (c :: digits) = 10 ^ digits.length * (c.toNat - 48) + value digits :=
          value_cons c digits
        _ < 10 ^ digits.length * (c.toNat - 48) + 10 ^ digits.length :=
          Nat.add_lt_add_left (ih hrest) _
        _ = 10 ^ digits.length * (c.toNat - 48 + 1) := (Nat.mul_succ _ _).symm
        _ ≤ 10 ^ digits.length * 10 := Nat.mul_le_mul_left _ (by omega)
        _ = 10 ^ (c :: digits).length := (Nat.pow_succ ..).symm

theorem length_ofNat_value_le {digits : Text} (h : IsDigits digits) :
    (ofNat (value digits)).length ≤ digits.length :=
  (length_ofNat_le_iff (List.length_pos_iff.mpr h.1)).mpr (value_lt h.2)

end DualityDice.Numeral
