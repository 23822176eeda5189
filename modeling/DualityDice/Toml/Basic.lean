import DualityDice.Text.Basic

namespace DualityDice

/-- A value of a TOML document. Integers are exact; other numbers and points
in time keep their spelling. -/
inductive Toml where
  | string (value : Text)
  | integer (value : Int)
  | boolean (value : Bool)
  | real (spelling : Text)
  | moment (spelling : Text)
  | array (items : List Toml)
  | table (members : List (Text × Toml))

namespace Toml

/-- The value of a key: the last one, where the key is repeated. -/
def lookup (key : Text) : List (Text × Toml) → Option Toml
  | [] => none
  | (name, value) :: rest =>
      match lookup key rest with
      | some later => some later
      | none => if name = key then some value else none

/-- Arrays and inline tables can be nested to less than this depth, and a
dotted key has fewer parts. -/
def nestingLimit : Nat := 80

end Toml

end DualityDice
