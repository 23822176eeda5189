import Mathlib.Data.List.Basic
import DualityDice.Proofs.Numeral

namespace DualityDice.Numeral

def Stops (rest : Text) : Prop :=
  ∀ c, rest.head? = some c → c.isDigit = false

theorem stops_cons {c : Char} (h : c.isDigit = false) (rest : Text) : Stops (c :: rest) := by
  intro d hd
  rw [← Option.some.inj hd]
  exact h

theorem stops_append (start : Text) {c : Char} (hstart : start.head? = some c)
    (hc : c.isDigit = false) (rest : Text) : Stops (start ++ rest) := by
  intro d hd
  rw [List.head?_append, hstart, Option.some_or] at hd
  rw [← Option.some.inj hd]
  exact hc

theorem exists_ofNat_eq_cons (n : Nat) :
    ∃ c digits, ofNat n = c :: digits ∧ c.isDigit = true := by
  obtain ⟨c, digits, hdigits⟩ := List.exists_cons_of_ne_nil (ofNat_ne_nil n)
  have hmem : c ∈ ofNat n := by
    rw [hdigits]
    exact List.mem_cons_self
  exact ⟨c, digits, hdigits, isDigit_of_mem_ofNat hmem⟩

theorem takeWhile_ofNat_append (n : Nat) {rest : Text} (h : Stops rest) :
    (ofNat n ++ rest).takeWhile Char.isDigit = ofNat n := by
  rw [List.takeWhile_append_of_pos fun _ hc => isDigit_of_mem_ofNat hc]
  cases rest with
  | nil => simp
  | cons c rest => simp [h c rfl]

theorem dropWhile_ofNat_append (n : Nat) {rest : Text} (h : Stops rest) :
    (ofNat n ++ rest).dropWhile Char.isDigit = rest := by
  rw [List.dropWhile_append_of_pos fun _ hc => isDigit_of_mem_ofNat hc]
  cases rest with
  | nil => rfl
  | cons c rest => simp [h c rfl]

theorem head?_ofNat_ne_zero {n : Nat} (h : n ≠ 0) : (ofNat n).head? ≠ some '0' := by
  induction n using Nat.strongRecOn with
  | ind n ih =>
      rw [ofNat, Nat.toDigits_eq_if (by decide)]
      split
      · rw [List.head?_cons, ne_eq, Option.some.injEq, Nat.digitChar_eq_zero]
        exact h
      · rw [List.head?_append_of_ne_nil _ Nat.toDigits_ne_nil]
        exact ih (n / 10) (by omega) (by omega)

def readNat? (text : Text) : Option (Nat × Text) :=
  (toNat? (text.takeWhile Char.isDigit)).map fun n => (n, text.dropWhile Char.isDigit)

def readInt? : Text → Option (Int × Text)
  | '-' :: rest => (readNat? rest).map fun (n, rest) => (-(n : Int), rest)
  | text => (readNat? text).map fun (n, rest) => ((n : Int), rest)

theorem readNat?_ofNat_append (n : Nat) {rest : Text} (h : Stops rest) :
    readNat? (ofNat n ++ rest) = some (n, rest) := by
  rw [readNat?, takeWhile_ofNat_append n h, dropWhile_ofNat_append n h, toNat?_ofNat]
  rfl

theorem readNat?_eq_none {text : Text} (h : Stops text) : readNat? text = none := by
  have hdigits : text.takeWhile Char.isDigit = [] := by
    cases text with
    | nil => rfl
    | cons c rest => simp [h c rfl]
  rw [readNat?, hdigits]
  rfl

theorem readInt?_eq_none {text : Text} (h : Stops text) (hminus : text.head? ≠ some '-') :
    readInt? text = none := by
  unfold readInt?
  split
  · contradiction
  · rw [readNat?_eq_none h]
    rfl

theorem readInt?_ofNat_append (n : Nat) {rest : Text} (h : Stops rest) :
    readInt? (ofNat n ++ rest) = some ((n : Int), rest) := by
  have hread := readNat?_ofNat_append n h
  obtain ⟨c, digits, hdigits, hdigit⟩ := exists_ofNat_eq_cons n
  rw [hdigits, List.cons_append] at hread ⊢
  have hminus : c ≠ '-' := by
    rintro rfl
    contradiction
  rw [readInt?, hread]
  · rfl
  · intro rest' heq
    exact hminus (List.cons.inj heq).1

theorem readInt?_ofInt_append (n : Int) {rest : Text} (h : Stops rest) :
    readInt? (ofInt n ++ rest) = some (n, rest) := by
  cases n with
  | ofNat n => exact readInt?_ofNat_append n h
  | negSucc n =>
      rw [ofInt, List.cons_append, readInt?, readNat?_ofNat_append _ h]
      rfl

end DualityDice.Numeral
