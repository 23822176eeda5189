import DualityDice.Numeral
import DualityDice.Text.Hex
import DualityDice.Toml.Basic

namespace DualityDice.Toml

/-- The digits of the given class at the start of a text, and the rest. A
single underscore may stand between two digits; it is left out. -/
def takeDigits (isDigit : Char → Bool) : Text → Text × Text
  | [] => ([], [])
  | '_' :: d :: rest =>
      if isDigit d then
        let (digits, rest) := takeDigits isDigit rest
        (d :: digits, rest)
      else ([], '_' :: d :: rest)
  | c :: rest =>
      if isDigit c then
        let (digits, rest) := takeDigits isDigit rest
        (c :: digits, rest)
      else ([], c :: rest)

def readDigits (isDigit : Char → Bool) : Text → Option (Text × Text)
  | [] => none
  | c :: rest => if isDigit c then some (takeDigits isDigit (c :: rest)) else none

/-- The digits before the point of a decimal number. A zero at the start
stands alone. -/
def readWhole : Text → Option (Text × Text)
  | '0' :: rest => some (['0'], rest)
  | text => readDigits Char.isDigit text

def readSign : Text → Text × Text
  | '+' :: rest => (['+'], rest)
  | '-' :: rest => (['-'], rest)
  | text => ([], text)

def readFraction : Text → Option (Option Text × Text)
  | '.' :: rest => (readDigits Char.isDigit rest).map fun (digits, rest) => (some digits, rest)
  | text => some (none, text)

def readExponent : Text → Option (Option (Text × Text) × Text)
  | c :: rest =>
      if c = 'e' ∨ c = 'E' then
        let (sign, rest) := readSign rest
        (readDigits Char.isDigit rest).map fun (digits, rest) => (some (sign, digits), rest)
      else some (none, c :: rest)
  | [] => some (none, [])

/-- Whether a positive decimal number, `digits` times ten to the `exponent`,
is rounded to infinity as a binary number of 64 bits: whether it reaches
half-way from the greatest one to the next power of two. -/
def roundsToInfinity (digits : Nat) (exponent : Int) : Bool :=
  let bound := Nat.pow 2 1024 - Nat.pow 2 970
  let size : Int := (Nat.toDigits 10 digits).length + exponent
  if digits = 0 ∨ size < 300 then false
  else if 320 < size then true
  else if exponent < 0 then bound * Nat.pow 10 exponent.natAbs ≤ digits
  else bound ≤ digits * Nat.pow 10 exponent.natAbs

def exponentValue (exponent : Option (Text × Text)) : Int :=
  match exponent with
  | some (sign, digits) =>
      let value : Int := Nat.ofDigitChars 10 digits 0
      if sign = ['-'] then -value else value
  | none => 0

/-- The number of its parts: an integer of 64 bits if there is neither
fraction nor exponent, else a real number, which may not be too large. -/
def decimal? (sign whole : Text) (fraction : Option Text) (exponent : Option (Text × Text)) :
    Option Toml :=
  match fraction, exponent with
  | none, none => do
      let value ← Numeral.toInt? (sign ++ whole)
      if Numeral.isSigned64 value then some (.integer value) else none
  | _, _ =>
      let fraction := fraction.getD []
      let digits := Nat.ofDigitChars 10 (whole ++ fraction) 0
      let shifted := exponentValue exponent - fraction.length
      if sign ≠ ['-'] && roundsToInfinity digits shifted then none
      else some (.real (sign ++ whole ++ ['.'] ++ fraction ++
        match exponent with
        | some (sign, digits) => ['e'] ++ sign ++ digits
        | none => []))

/-- An integer of 63 bits in the given base, whose two letters have been
read. -/
def readBased (base : Nat) (isDigit : Char → Bool) (text : Text) : Option (Toml × Text) := do
  let (digits, rest) ← readDigits isDigit text
  let value := digits.foldl (fun value c => base * value + (Text.hexDigit? c).getD 0) 0
  if Numeral.isSigned64 value then some (.integer value, rest) else none

def readNumber : Text → Option (Toml × Text)
  | '0' :: 'x' :: rest => readBased 16 (fun c => (Text.hexDigit? c).isSome) rest
  | '0' :: 'o' :: rest => readBased 8 (fun c => '0' ≤ c && c ≤ '7') rest
  | '0' :: 'b' :: rest => readBased 2 (fun c => c == '0' || c == '1') rest
  | text =>
      let (sign, rest) := readSign text
      match rest with
      | 'i' :: 'n' :: 'f' :: rest => some (.real (sign ++ ['i', 'n', 'f']), rest)
      | 'n' :: 'a' :: 'n' :: rest => some (.real (sign ++ ['n', 'a', 'n']), rest)
      | _ => do
          let (whole, rest) ← readWhole rest
          let (fraction, rest) ← readFraction rest
          let (exponent, rest) ← readExponent rest
          let value ← decimal? sign whole fraction exponent
          some (value, rest)

end DualityDice.Toml
