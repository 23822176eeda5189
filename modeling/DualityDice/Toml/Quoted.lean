import DualityDice.Text.Hex
import DualityDice.Toml.Spacing

namespace DualityDice.Toml

def unescape? (c : Char) : Option Char :=
  if c = '"' ∨ c = '\\' then some c
  else if c = 'b' then some '\x08'
  else if c = 't' then some '\t'
  else if c = 'n' then some '\n'
  else if c = 'f' then some '\x0C'
  else if c = 'r' then some '\r'
  else none

def ofHex? (digits : Text) : Option Char :=
  (Text.hexValue? digits).bind Text.scalar?

def isQuotable (c : Char) : Bool :=
  isPlain c && c != '"' && c != '\\'

/-- What stands between double quotes whose opening one has been read, and the
rest. A character behind a backslash closes nothing. -/
def splitQuoted : Text → Option (Text × Text)
  | [] => none
  | '"' :: rest => some ([], rest)
  | '\\' :: c :: rest =>
      (splitQuoted rest).map fun (inner, rest) => ('\\' :: c :: inner, rest)
  | c :: rest => (splitQuoted rest).map fun (inner, rest) => (c :: inner, rest)

def unescape : Text → Option Text
  | [] => some []
  | '\\' :: 'u' :: a :: b :: c :: d :: rest => do
      let char ← ofHex? [a, b, c, d]
      (unescape rest).map (char :: ·)
  | '\\' :: 'U' :: a :: b :: c :: d :: e :: f :: g :: h :: rest => do
      let char ← ofHex? [a, b, c, d, e, f, g, h]
      (unescape rest).map (char :: ·)
  | '\\' :: c :: rest => do
      let char ← unescape? c
      (unescape rest).map (char :: ·)
  | c :: rest => if isQuotable c then (unescape rest).map (c :: ·) else none

def readQuoted (text : Text) : Option (Text × Text) := do
  let (inner, rest) ← splitQuoted text
  (unescape inner).map fun text => (text, rest)

def readLiteral (text : Text) : Option (Text × Text) :=
  let isInner (c : Char) : Bool := isPlain c && c != '\''
  match text.dropWhile isInner with
  | '\'' :: rest => some (text.takeWhile isInner, rest)
  | _ => none

def isLineBlank (text : Text) : Bool :=
  (dropNewline? (skipSpace text)).isSome

/-- A text in three double quotes whose opening has been read, and the rest.
While lines are being joined, white space and line breaks are passed over. Up
to two quotes before the closing ones belong to the text. -/
def readLongQuoted (joining : Bool) : Text → Option (Text × Text)
  | [] => none
  | '"' :: '"' :: '"' :: '"' :: '"' :: rest => some (['"', '"'], rest)
  | '"' :: '"' :: '"' :: '"' :: rest => some (['"'], rest)
  | '"' :: '"' :: '"' :: rest => some ([], rest)
  | '\\' :: 'u' :: a :: b :: c :: d :: rest => do
      let char ← ofHex? [a, b, c, d]
      let (text, rest) ← readLongQuoted false rest
      some (char :: text, rest)
  | '\\' :: 'U' :: a :: b :: c :: d :: e :: f :: g :: h :: rest => do
      let char ← ofHex? [a, b, c, d, e, f, g, h]
      let (text, rest) ← readLongQuoted false rest
      some (char :: text, rest)
  | '\\' :: c :: rest => do
      if isLineBlank (c :: rest) then readLongQuoted true (c :: rest)
      else
        let char ← unescape? c
        let (text, rest) ← readLongQuoted false rest
        some (char :: text, rest)
  | '\r' :: '\n' :: rest =>
      if joining then readLongQuoted true rest
      else (readLongQuoted false rest).map fun (text, rest) => ('\n' :: text, rest)
  | c :: rest =>
      if joining && (isSpace c || c == '\n') then readLongQuoted true rest
      else if isPlain c || c == '\n' then
        (readLongQuoted false rest).map fun (text, rest) => (c :: text, rest)
      else none

def readLongLiteral : Text → Option (Text × Text)
  | [] => none
  | '\'' :: '\'' :: '\'' :: '\'' :: '\'' :: rest => some (['\'', '\''], rest)
  | '\'' :: '\'' :: '\'' :: '\'' :: rest => some (['\''], rest)
  | '\'' :: '\'' :: '\'' :: rest => some ([], rest)
  | '\r' :: '\n' :: rest =>
      (readLongLiteral rest).map fun (text, rest) => ('\n' :: text, rest)
  | c :: rest =>
      if isPlain c || c == '\n' then
        (readLongLiteral rest).map fun (text, rest) => (c :: text, rest)
      else none

def skipNewline (text : Text) : Text :=
  (dropNewline? text).getD text

def readString : Text → Option (Text × Text)
  | '"' :: '"' :: '"' :: rest => readLongQuoted false (skipNewline rest)
  | '"' :: rest => readQuoted rest
  | '\'' :: '\'' :: '\'' :: rest => readLongLiteral (skipNewline rest)
  | '\'' :: rest => readLiteral rest
  | _ => none

end DualityDice.Toml
