import DualityDice.Text.Basic

namespace DualityDice.Numeral

def ofNat (n : Nat) : Text :=
  Nat.toDigits 10 n

def ofInt : Int → Text
  | .ofNat n => ofNat n
  | .negSucc n => '-' :: ofNat (n + 1)

def signed (n : Int) : Text :=
  (if n < 0 then '-' else '+') :: ofNat n.natAbs

/-- The number a text of decimal digits stands for. Leading zeros are
allowed, a text without digits is no numeral. -/
def toNat? (text : Text) : Option Nat :=
  if !text.isEmpty && text.all Char.isDigit then some (Nat.ofDigitChars 10 text 0)
  else none

theorem ofNat_ne_nil (n : Nat) : ofNat n ≠ [] := by
  rw [ofNat, Nat.toDigits_eq_if (by decide)]
  split <;> simp

theorem isDigit_of_mem_ofNat {n : Nat} {c : Char} (h : c ∈ ofNat n) : c.isDigit = true :=
  Nat.isDigit_of_mem_toDigits (by decide) (by decide) h

theorem toNat?_ofNat (n : Nat) : toNat? (ofNat n) = some n := by
  have hdigits : (ofNat n).all Char.isDigit = true :=
    List.all_eq_true.mpr fun c h => isDigit_of_mem_ofNat h
  have hvalue : Nat.ofDigitChars 10 (ofNat n) 0 = n :=
    Nat.ofDigitChars_toDigits (by decide) (by decide)
  simp [toNat?, hdigits, ofNat_ne_nil, hvalue]

def toPlusNat? : Text → Option Nat
  | '+' :: digits => toNat? digits
  | digits => toNat? digits

def toInt? : Text → Option Int
  | '-' :: digits => (toNat? digits).map fun n : Nat => -(n : Int)
  | text => (toPlusNat? text).map Int.ofNat

theorem toPlusNat?_ofNat (n : Nat) : toPlusNat? (ofNat n) = some n := by
  have hvalue := toNat?_ofNat n
  have hdigit : ∀ c ∈ ofNat n, c.isDigit = true := fun _ h => isDigit_of_mem_ofNat h
  revert hvalue hdigit
  generalize ofNat n = digits
  intro hvalue hdigit
  unfold toPlusNat?
  split
  · exact absurd (hdigit '+' (by simp)) (by decide)
  · exact hvalue

theorem toInt?_ofNat (n : Nat) : toInt? (ofNat n) = some (n : Int) := by
  have hvalue := toPlusNat?_ofNat n
  have hdigit : ∀ c ∈ ofNat n, c.isDigit = true := fun _ h => isDigit_of_mem_ofNat h
  revert hvalue hdigit
  generalize ofNat n = digits
  intro hvalue hdigit
  unfold toInt?
  split
  · exact absurd (hdigit '-' (by simp)) (by decide)
  · simp [hvalue]

theorem toInt?_minus (digits : Text) :
    toInt? ('-' :: digits) = (toNat? digits).map fun n : Nat => -(n : Int) := rfl

theorem toInt?_plus (digits : Text) :
    toInt? ('+' :: digits) = (toNat? digits).map fun n : Nat => (n : Int) := rfl

theorem toInt?_ofInt (n : Int) : toInt? (ofInt n) = some n := by
  cases n with
  | ofNat n => exact toInt?_ofNat n
  | negSucc n =>
      rw [ofInt, toInt?_minus, toNat?_ofNat]
      rfl

theorem toInt?_signed (n : Int) : toInt? (signed n) = some n := by
  by_cases h : n < 0
  · rw [signed, if_pos h, toInt?_minus, toNat?_ofNat, Option.map_some]
    congr 1
    omega
  · rw [signed, if_neg h, toInt?_plus, toNat?_ofNat, Option.map_some]
    congr 1
    omega

def toWord32? (n : Nat) : Option UInt32 :=
  if h : n < UInt32.size then some (UInt32.ofNatLT n h) else none

def toWord64? (n : Nat) : Option UInt64 :=
  if h : n < UInt64.size then some (UInt64.ofNatLT n h) else none

def toSigned32? (n : Int) : Option Int32 :=
  if -2147483648 ≤ n ∧ n ≤ 2147483647 then some (Int32.ofInt n) else none

theorem toWord32?_toNat (word : UInt32) : toWord32? word.toNat = some word := by
  simp [toWord32?, word.toNat_lt_size]

theorem toWord64?_toNat (word : UInt64) : toWord64? word.toNat = some word := by
  simp [toWord64?, word.toNat_lt_size]

theorem toSigned32?_toInt (word : Int32) : toSigned32? word.toInt = some word := by
  have hlow : -2147483648 ≤ word.toInt := word.le_toInt
  have hhigh : word.toInt < 2147483648 := word.toInt_lt
  have hfits : -2147483648 ≤ word.toInt ∧ word.toInt ≤ 2147483647 := by omega
  rw [toSigned32?, if_pos hfits, Int32.ofInt_toInt]

def isSigned64 (n : Int) : Bool :=
  -9223372036854775808 ≤ n && n ≤ 9223372036854775807

/-- Whether an integer fits into a word of 64 bits, with a sign or without. -/
def isWord64 (n : Int) : Bool :=
  -9223372036854775808 ≤ n && n ≤ 18446744073709551615

def readWord64? (text : Text) : Option UInt64 :=
  (toPlusNat? text).bind toWord64?

def readSigned32? (text : Text) : Option Int32 :=
  (toInt? text).bind toSigned32?

end DualityDice.Numeral
