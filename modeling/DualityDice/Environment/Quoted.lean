import DualityDice.Text.Utf8
import DualityDice.Toml.Quoted

/-!
Texts in double quotes in the values of environment variables. The escapes are
those of TOML, but an escape shortens what stands before it: of the text before
the first escape as many bytes are kept as it has characters. So nothing is lost
of a text in ASCII, and a value may not be readable at all, because this cut
falls inside a character.
-/

namespace DualityDice.Environment

inductive Fault where
  | noValue
  | cutCharacter
deriving DecidableEq

def demand {α : Type} : Option α → Except Fault α
  | some part => .ok part
  | none => .error .noValue

/-- What the first escape leaves of the text before it. -/
def shorten (before : Text) : Except Fault Text :=
  match Text.takeBytes? before.length before with
  | some kept => .ok kept
  | none => .error .cutCharacter

def unescape (inner : Text) : Except Fault Text := do
  let isBefore (c : Char) : Bool := c != '\\'
  let before ← demand (Toml.unescape (inner.takeWhile isBefore))
  match inner.dropWhile isBefore with
  | [] => .ok before
  | escaped => do
      let kept ← shorten before
      let rest ← demand (Toml.unescape escaped)
      .ok (kept ++ rest)

def readQuoted (text : Text) : Except Fault (Text × Text) := do
  let (inner, rest) ← demand (Toml.splitQuoted text)
  let text ← unescape inner
  .ok (text, rest)

end DualityDice.Environment
