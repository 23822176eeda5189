import DualityDice.Environment.Quoted
import DualityDice.Numeral
import DualityDice.Text.Blank
import DualityDice.Toml.Key
import DualityDice.Toml.Number

namespace DualityDice.Environment

def isSpace (c : Char) : Bool :=
  c == ' ' || c == '\t' || c == '\n' || c == '\x0C' || c == '\r'

def skipSpace (text : Text) : Text :=
  text.dropWhile isSpace

def isSeparator (c : Char) : Bool :=
  c == ',' || c == '\x7b' || c == '\x7d' || c == '[' || c == ']'

def isExponent : Text → Bool
  | [] => true
  | c :: rest =>
      let digits := (Toml.readSign rest).2
      (c == 'e' || c == 'E') && !digits.isEmpty && digits.all Char.isDigit

def isReal (text : Text) : Bool :=
  let unsigned := (Toml.readSign text).2
  let whole := unsigned.takeWhile Char.isDigit
  match unsigned.dropWhile Char.isDigit with
  | '.' :: rest =>
      !(whole ++ rest.takeWhile Char.isDigit).isEmpty &&
        isExponent (rest.dropWhile Char.isDigit)
  | _ => false

/-- The value of a text without quotes: a real number if it has a point, an
integer if it fits into 64 bits with a sign or without one, else a string. -/
def bareValue (text : Text) : Toml :=
  if isReal text then .real text
  else
    match Numeral.toInt? text with
    | some n => if Numeral.isWord64 n then .integer n else .string text
    | none => .string text

def readBare (text : Text) : Toml × Text :=
  let isBare (c : Char) : Bool := !isSeparator c
  (bareValue (Text.trim (text.takeWhile isBare)), text.dropWhile isBare)

def readItems {α : Type} (readItem : Text → Except Fault (α × Text)) (close : Char) :
    Nat → Text → Except Fault (List α × Text)
  | 0, _ => .error .noValue
  | fuel + 1, text =>
      match text.dropStart? [close] with
      | some rest => .ok ([], rest)
      | none => do
          let (item, rest) ← readItem text
          match rest.dropStart? [','] with
          | some rest => do
              let (items, rest) ← readItems readItem close fuel rest
              .ok (item :: items, rest)
          | none => do
              let rest ← demand (rest.dropStart? [close])
              .ok ([item], rest)

def readKey : Text → Except Fault (Text × Text)
  | '"' :: rest => readQuoted rest
  | text =>
      let key := text.takeWhile Toml.isBareKeyChar
      if key.isEmpty then .error .noValue
      else .ok (key, text.dropWhile Toml.isBareKeyChar)

def readPair (readValue : Text → Except Fault (Toml × Text)) (text : Text) :
    Except Fault ((Text × Toml) × Text) := do
  let (key, rest) ← readKey (skipSpace text)
  let rest ← demand ((skipSpace rest).dropStart? ['='])
  let (value, rest) ← readValue rest
  .ok ((key, value), skipSpace rest)

def readScalar (text : Text) : Except Fault (Toml × Text) :=
  match text.dropStart? "true".toList, text.dropStart? "false".toList with
  | some rest, _ => .ok (.boolean true, rest)
  | _, some rest => .ok (.boolean false, rest)
  | none, none =>
      match text with
      | '"' :: rest => do
          let (value, rest) ← readQuoted rest
          .ok (.string value, rest)
      | '\'' :: c :: '\'' :: rest => .ok (.string [c], rest)
      | '\'' :: _ => .error .noValue
      | text => .ok (readBare text)

def readValue (depth : Nat) (text : Text) : Except Fault (Toml × Text) := do
  let (value, rest) ←
    match depth, skipSpace text with
    | depth + 1, '\x7b' :: rest => do
        let (members, rest) ← readItems (readPair (readValue depth)) '\x7d' (rest.length + 1) rest
        .ok (.table members, rest)
    | depth + 1, '[' :: rest => do
        let (items, rest) ← readItems (readValue depth) ']' (rest.length + 1) rest
        .ok (.array items, rest)
    | _, text => readScalar text
  .ok (value, skipSpace rest)

/-- The value of a variable. What is no value, or has something behind it, is
taken as a string as it stands. There is none only where an escape cuts a
character. -/
def valueOf? (text : Text) : Option Toml :=
  match readValue (text.length + 1) text with
  | .ok (value, []) => some value
  | .error .cutCharacter => none
  | _ => some (.string text)

end DualityDice.Environment
