import DualityDice.Json.Basic
import DualityDice.Numeral
import DualityDice.Text.Hex

namespace DualityDice.Json

def isSpace (c : Char) : Bool :=
  c == ' ' || c == '\n' || c == '\r' || c == '\t'

def skipSpace (text : Text) : Text :=
  text.dropWhile isSpace

def unescape? (c : Char) : Option Char :=
  if c = '"' ∨ c = '\\' ∨ c = '/' then some c
  else if c = 'b' then some '\x08'
  else if c = 'f' then some '\x0C'
  else if c = 'n' then some '\n'
  else if c = 'r' then some '\r'
  else if c = 't' then some '\t'
  else none

/-- The code units of a quoted text, whose opening quote has been read, and
what stands behind its closing quote. An escape may give half of a surrogate
pair. -/
def readUnits : Text → Option (List Nat × Text)
  | [] => none
  | '"' :: rest => some ([], rest)
  | '\\' :: 'u' :: a :: b :: c :: d :: rest => do
      let unit ← Text.hexValue? [a, b, c, d]
      let (units, rest) ← readUnits rest
      some (unit :: units, rest)
  | '\\' :: c :: rest => do
      let plain ← unescape? c
      let (units, rest) ← readUnits rest
      some (plain.toNat :: units, rest)
  | c :: rest => do
      if c.toNat < 0x20 then none
      else
        let (units, rest) ← readUnits rest
        some (c.toNat :: units, rest)

def isHighSurrogate (unit : Nat) : Bool :=
  0xD800 ≤ unit && unit < 0xDC00

def isLowSurrogate (unit : Nat) : Bool :=
  0xDC00 ≤ unit && unit < 0xE000

/-- The characters of code units. A half without its other half is
refused. -/
def ofUnits? : List Nat → Option Text
  | [] => some []
  | high :: low :: rest =>
      if isHighSurrogate high then
        if isLowSurrogate low then do
          let c ← Text.scalar? (0x10000 + (high - 0xD800) * 0x400 + (low - 0xDC00))
          let text ← ofUnits? rest
          some (c :: text)
        else none
      else do
        let c ← Text.scalar? high
        let text ← ofUnits? (low :: rest)
        some (c :: text)
  | [unit] => (Text.scalar? unit).map fun c => [c]

def readQuoted (text : Text) : Option (Text × Text) := do
  let (units, rest) ← readUnits text
  let value ← ofUnits? units
  some (value, rest)

def readDigits (text : Text) : Option (Text × Text) :=
  let digits := text.takeWhile Char.isDigit
  if digits.isEmpty then none else some (digits, text.dropWhile Char.isDigit)

def readWhole : Text → Option (Text × Text)
  | '0' :: rest => some (['0'], rest)
  | text => readDigits text

def readFraction : Text → Option (Text × Text)
  | '.' :: rest => (readDigits rest).map fun (digits, rest) => ('.' :: digits, rest)
  | text => some ([], text)

def readExponent : Text → Option (Text × Text)
  | c :: rest =>
      if c = 'e' ∨ c = 'E' then
        match rest with
        | '+' :: digits => (readDigits digits).map fun (ds, rest) => (c :: '+' :: ds, rest)
        | '-' :: digits => (readDigits digits).map fun (ds, rest) => (c :: '-' :: ds, rest)
        | digits => (readDigits digits).map fun (ds, rest) => (c :: ds, rest)
      else some ([], c :: rest)
  | [] => some ([], [])

/-- The number of a spelling: an integer where there is neither fraction nor
exponent, and no minus sign before a zero. -/
def number (negative : Bool) (whole fraction exponent : Text) : Json :=
  let spelling := (if negative then ['-'] else []) ++ whole ++ fraction ++ exponent
  if fraction.isEmpty && exponent.isEmpty && !(negative && whole == ['0']) then
    match Numeral.toInt? spelling with
    | some value => .integer value
    | none => .real spelling
  else .real spelling

def readNumber (negative : Bool) (text : Text) : Option (Json × Text) := do
  let (whole, rest) ← readWhole text
  let (fraction, rest) ← readFraction rest
  let (exponent, rest) ← readExponent rest
  some (number negative whole fraction exponent, rest)

def readWord (word : Text) (value : Json) (text : Text) : Option (Json × Text) :=
  (text.dropStart? word).map fun rest => (value, rest)

mutual

/-- A value and the rest. Each step into a value or on to the next item takes
one unit of fuel. -/
def readValue : Nat → Text → Option (Json × Text)
  | 0, _ => none
  | fuel + 1, text =>
      match skipSpace text with
      | [] => none
      | c :: rest =>
          if c = '"' then (readQuoted rest).map fun (value, rest) => (.string value, rest)
          else if c = '[' then
            match skipSpace rest with
            | ']' :: rest => some (.array [], rest)
            | rest => (readItems fuel rest).map fun (items, rest) => (.array items, rest)
          else if c = '\x7b' then
            match skipSpace rest with
            | '\x7d' :: rest => some (.object [], rest)
            | rest =>
                (readMembers fuel rest).map fun (members, rest) => (.object members, rest)
          else if c = '-' then readNumber true rest
          else if c.isDigit then readNumber false (c :: rest)
          else if c = 'n' then readWord "ull".toList .null rest
          else if c = 't' then readWord "rue".toList (.boolean true) rest
          else if c = 'f' then readWord "alse".toList (.boolean false) rest
          else none

def readItems : Nat → Text → Option (List Json × Text)
  | 0, _ => none
  | fuel + 1, text => do
      let (item, rest) ← readValue fuel text
      match skipSpace rest with
      | ',' :: rest =>
          let (items, rest) ← readItems fuel rest
          some (item :: items, rest)
      | ']' :: rest => some ([item], rest)
      | _ => none

def readMembers : Nat → Text → Option (List (Text × Json) × Text)
  | 0, _ => none
  | fuel + 1, text =>
      match skipSpace text with
      | '"' :: rest => do
          let (key, rest) ← readQuoted rest
          match skipSpace rest with
          | ':' :: rest =>
              let (value, rest) ← readValue fuel rest
              match skipSpace rest with
              | ',' :: rest =>
                  let (members, rest) ← readMembers fuel rest
                  some ((key, value) :: members, rest)
              | '\x7d' :: rest => some ([(key, value)], rest)
              | _ => none
          | _ => none
      | _ => none

end

def read? (text : Text) : Option Json :=
  match readValue (2 * text.length + 1) text with
  | some (value, rest) => if (skipSpace rest).isEmpty then some value else none
  | none => none

end DualityDice.Json
