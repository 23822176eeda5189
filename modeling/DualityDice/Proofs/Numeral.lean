import Mathlib.Logic.Basic
import DualityDice.Numeral

namespace DualityDice.Numeral

def IsDigits (text : Text) : Prop :=
  text ≠ [] ∧ ∀ c ∈ text, c.isDigit = true

instance (text : Text) : Decidable (IsDigits text) :=
  inferInstanceAs (Decidable (_ ∧ _))

def value (digits : Text) : Nat :=
  Nat.ofDigitChars 10 digits 0

def signedValue (sign : Char) (digits : Text) : Int :=
  if sign = '-' then -(value digits : Int) else value digits

theorem isDigits_iff {text : Text} :
    IsDigits text ↔ (!text.isEmpty && text.all Char.isDigit) = true := by
  cases text <;> simp [IsDigits]

theorem not_isDigits_iff {text : Text} :
    ¬IsDigits text ↔ text = [] ∨ ∃ c ∈ text, c.isDigit = false := by
  rw [IsDigits, not_and_or, ne_eq, not_not]
  simp

theorem toNat?_eq_ite (text : Text) :
    toNat? text = if IsDigits text then some (value text) else none := by
  rw [toNat?, value]
  exact ite_congr (propext isDigits_iff.symm) (fun _ => rfl) (fun _ => rfl)

theorem toNat?_eq_some_iff {text : Text} {n : Nat} :
    toNat? text = some n ↔ IsDigits text ∧ value text = n := by
  rw [toNat?_eq_ite]
  split <;> simp_all

theorem isDigits_ofNat (n : Nat) : IsDigits (ofNat n) :=
  ⟨ofNat_ne_nil n, fun _ h => isDigit_of_mem_ofNat h⟩

theorem value_ofNat (n : Nat) : value (ofNat n) = n :=
  (toNat?_eq_some_iff.mp (toNat?_ofNat n)).2

theorem toNat_ne_zero_iff {word : UInt32} : word.toNat ≠ 0 ↔ word ≠ 0 := by
  rw [ne_eq, ne_eq, ← UInt32.toNat_inj, UInt32.toNat_zero]

theorem one_le_iff_ne_zero {word : UInt32} : 1 ≤ word ↔ word ≠ 0 := by
  rw [UInt32.le_iff_toNat_le, UInt32.toNat_one, ← toNat_ne_zero_iff]
  omega

theorem exists_toNat_eq_iff (n : Nat) :
    (∃ word : UInt32, word.toNat = n) ↔ n ≤ 4294967295 := by
  constructor
  · rintro ⟨word, rfl⟩
    have := word.toNat_lt
    omega
  · intro hfits
    have hlt : n < UInt32.size := by
      rw [UInt32.size]
      omega
    exact ⟨UInt32.ofNat n, UInt32.toNat_ofNat_of_lt' hlt⟩

theorem exists_toInt_eq_iff (n : Int) :
    (∃ word : Int32, word.toInt = n) ↔ -2147483648 ≤ n ∧ n ≤ 2147483647 := by
  constructor
  · rintro ⟨word, rfl⟩
    have hlow : -2147483648 ≤ word.toInt := word.le_toInt
    have hhigh : word.toInt < 2147483648 := word.toInt_lt
    omega
  · rintro ⟨hlow, hhigh⟩
    exact ⟨Int32.ofInt n, Int32.toInt_ofInt_of_le hlow (by omega)⟩

theorem toWord32?_eq_some_iff {n : Nat} {word : UInt32} :
    toWord32? n = some word ↔ word.toNat = n := by
  constructor
  · intro h
    unfold toWord32? at h
    split at h
    · rw [← Option.some.inj h]
      exact UInt32.toNat_ofNatLT
    · contradiction
  · rintro rfl
    exact toWord32?_toNat word

theorem toWord64?_eq_some_iff {n : Nat} {word : UInt64} :
    toWord64? n = some word ↔ word.toNat = n := by
  constructor
  · intro h
    unfold toWord64? at h
    split at h
    · rw [← Option.some.inj h]
      exact UInt64.toNat_ofNatLT
    · contradiction
  · rintro rfl
    exact toWord64?_toNat word

theorem toSigned32?_eq_some_iff {n : Int} {word : Int32} :
    toSigned32? n = some word ↔ word.toInt = n := by
  constructor
  · intro h
    unfold toSigned32? at h
    split at h
    · rename_i hfits
      rw [← Option.some.inj h]
      exact Int32.toInt_ofInt_of_le hfits.1 (by omega)
    · contradiction
  · rintro rfl
    exact toSigned32?_toInt word

theorem toInt?_cons_eq_ite {sign : Char} (digits : Text) (hsign : sign = '+' ∨ sign = '-') :
    toInt? (sign :: digits) =
      if IsDigits digits then some (signedValue sign digits) else none := by
  rcases hsign with rfl | rfl
  · rw [toInt?_plus, toNat?_eq_ite]
    split <;> rfl
  · rw [toInt?_minus, toNat?_eq_ite]
    split <;> rfl

theorem readSigned32?_cons_eq_some_iff {sign : Char} {digits : Text} {word : Int32}
    (hsign : sign = '+' ∨ sign = '-') :
    readSigned32? (sign :: digits) = some word ↔
      IsDigits digits ∧ word.toInt = signedValue sign digits := by
  rw [readSigned32?, toInt?_cons_eq_ite digits hsign]
  split
  · rename_i h
    simp [h, toSigned32?_eq_some_iff]
  · rename_i h
    simp [h]

end DualityDice.Numeral
