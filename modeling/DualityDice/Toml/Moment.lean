import DualityDice.Toml.Basic

namespace DualityDice.Toml

def readTwoDigits (least greatest : Nat) : Text → Option (Nat × Text)
  | a :: b :: rest =>
      if a.isDigit && b.isDigit then
        let value := Nat.ofDigitChars 10 [a, b] 0
        if least ≤ value ∧ value ≤ greatest then some (value, rest) else none
      else none
  | _ => none

def readMark (mark : Char) : Text → Option Text
  | c :: rest => if c = mark then some rest else none
  | [] => none

def isLeapYear (year : Nat) : Bool :=
  year % 4 == 0 && (year % 100 != 0 || year % 400 == 0)

def daysOf (year month : Nat) : Nat :=
  if month = 2 then if isLeapYear year then 29 else 28
  else if month = 4 ∨ month = 6 ∨ month = 9 ∨ month = 11 then 30
  else 31

def dropDate? : Text → Option Text
  | a :: b :: c :: d :: rest =>
      if [a, b, c, d].all Char.isDigit then do
        let year := Nat.ofDigitChars 10 [a, b, c, d] 0
        let rest ← readMark '-' rest
        let (month, rest) ← readTwoDigits 1 12 rest
        let rest ← readMark '-' rest
        let (_, rest) ← readTwoDigits 1 (daysOf year month) rest
        some rest
      else none
  | _ => none

def dropSecondFraction : Text → Text
  | '.' :: c :: rest => if c.isDigit then rest.dropWhile Char.isDigit else '.' :: c :: rest
  | text => text

/-- What stands behind a time of the day. Its seconds have to be given. -/
def dropTime? (text : Text) : Option Text := do
  let (_, rest) ← readTwoDigits 0 23 text
  let rest ← readMark ':' rest
  let (_, rest) ← readTwoDigits 0 59 rest
  let rest ← readMark ':' rest
  let (_, rest) ← readTwoDigits 0 60 rest
  some (dropSecondFraction rest)

def dropOffset (text : Text) : Text :=
  match text with
  | c :: rest =>
      if c = 'Z' ∨ c = 'z' then rest
      else if c = '+' ∨ c = '-' then
        let behind := do
          let (_, rest) ← readTwoDigits 0 23 rest
          let rest ← readMark ':' rest
          let (_, rest) ← readTwoDigits 0 59 rest
          some rest
        behind.getD text
      else text
  | [] => []

def dropDayTime (text : Text) : Text :=
  match text with
  | c :: rest =>
      if c = 'T' ∨ c = 't' ∨ c = ' ' then
        match dropTime? rest with
        | some rest => dropOffset rest
        | none => text
      else text
  | [] => []

def dropMoment? (text : Text) : Option Text :=
  match dropDate? text with
  | some rest => some (dropDayTime rest)
  | none => dropTime? text

def readMoment (text : Text) : Option (Toml × Text) :=
  (dropMoment? text).map fun rest =>
    (.moment (text.take (text.length - rest.length)), rest)

end DualityDice.Toml
