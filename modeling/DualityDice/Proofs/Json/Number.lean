import DualityDice.Json.Reader
import DualityDice.Proofs.Numeral.Start

namespace DualityDice.Json

/-- Whether what follows a value begins as it may behind a number: with white space,
a comma or a closing bracket, if with anything. -/
def Closes (rest : Text) : Prop :=
  ∀ c, rest.head? = some c → c ∈ [' ', '\n', '\r', '\t', ',', ']', '\x7d']

theorem closes_nil : Closes [] := by
  intro c hc
  contradiction

section Closes

variable {rest : Text}

theorem Closes.stops (h : Closes rest) : Numeral.Stops rest := by
  have hall : [' ', '\n', '\r', '\t', ',', ']', '\x7d'].all (fun c => !c.isDigit) = true := rfl
  intro c hc
  have hdigit := List.all_eq_true.mp hall c (h c hc)
  rwa [Bool.not_eq_true'] at hdigit

theorem readFraction_of_closes (h : Closes rest) : readFraction rest = some ([], rest) := by
  unfold readFraction
  split
  · exact absurd (h '.' rfl) (by decide)
  · rfl

theorem readExponent_of_closes (h : Closes rest) : readExponent rest = some ([], rest) := by
  unfold readExponent
  split
  · rename_i c rest
    have hletter : ¬(c = 'e' ∨ c = 'E') := by
      rintro (rfl | rfl)
      · exact absurd (h 'e' rfl) (by decide)
      · exact absurd (h 'E' rfl) (by decide)
    rw [if_neg hletter]
  · rfl

theorem readDigits_ofNat_append (n : Nat) (h : Numeral.Stops rest) :
    readDigits (Numeral.ofNat n ++ rest) = some (Numeral.ofNat n, rest) := by
  have hne : (Numeral.ofNat n).isEmpty = false :=
    List.isEmpty_eq_false_iff.mpr (Numeral.ofNat_ne_nil n)
  unfold readDigits
  rw [Numeral.takeWhile_ofNat_append n h, Numeral.dropWhile_ofNat_append n h]
  simp only [hne, Bool.false_eq_true, if_false]

theorem readWhole_ofNat_append (n : Nat) (h : Numeral.Stops rest) :
    readWhole (Numeral.ofNat n ++ rest) = some (Numeral.ofNat n, rest) := by
  by_cases hzero : n = 0
  · rw [hzero]
    rfl
  · unfold readWhole
    split
    · rename_i heq
      have hhead := Numeral.head?_ofNat_ne_zero hzero
      rw [← List.head?_append_of_ne_nil _ (Numeral.ofNat_ne_nil n), heq] at hhead
      exact absurd rfl hhead
    · exact readDigits_ofNat_append n h

theorem readNumber_ofNat_append (negative : Bool) (n : Nat) (h : Closes rest) :
    readNumber negative (Numeral.ofNat n ++ rest) =
      some (number negative (Numeral.ofNat n) [] [], rest) := by
  rw [readNumber, readWhole_ofNat_append n h.stops]
  simp only [Option.bind_eq_bind, Option.bind_some, readFraction_of_closes h,
    readExponent_of_closes h]

end Closes

theorem number_ofNat (n : Nat) : number false (Numeral.ofNat n) [] [] = .integer n := by
  unfold number
  simp [Numeral.toInt?_ofNat]

theorem number_negative (n : Nat) :
    number true (Numeral.ofNat (n + 1)) [] [] = .integer (.negSucc n) := by
  have hzero : (Numeral.ofNat (n + 1) == ['0']) = false := by
    rw [beq_eq_false_iff_ne]
    intro heq
    have hhead := Numeral.head?_ofNat_ne_zero (Nat.succ_ne_zero n)
    rw [heq] at hhead
    exact hhead rfl
  have hvalue : Numeral.toInt? ('-' :: Numeral.ofNat (n + 1)) = some (.negSucc n) :=
    Numeral.toInt?_ofInt (.negSucc n)
  unfold number
  simp [hzero, hvalue]

end DualityDice.Json
