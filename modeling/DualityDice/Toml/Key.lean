import DualityDice.Toml.Basic
import DualityDice.Toml.Quoted

namespace DualityDice.Toml

def isBareKeyChar (c : Char) : Bool :=
  c.isAlphanum || c == '_' || c == '-'

def readKeyPart : Text → Option (Text × Text)
  | '"' :: rest => readQuoted rest
  | '\'' :: rest => readLiteral rest
  | text =>
      let part := text.takeWhile isBareKeyChar
      if part.isEmpty then none else some (part, text.dropWhile isBareKeyChar)

/-- The parts of a dotted key, at most the given number of them, and the rest.
White space may surround each part. -/
def readKeyParts : Nat → Text → Option (List Text × Text)
  | 0, _ => none
  | allowed + 1, text => do
      let (part, rest) ← readKeyPart (skipSpace text)
      match skipSpace rest with
      | '.' :: rest =>
          let (parts, rest) ← readKeyParts allowed rest
          some (part :: parts, rest)
      | rest => some ([part], rest)

def readKey (text : Text) : Option (List Text × Text) :=
  readKeyParts (nestingLimit - 1) text

end DualityDice.Toml
