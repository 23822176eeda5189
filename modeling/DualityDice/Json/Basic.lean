import DualityDice.Text.Basic

namespace DualityDice

/-- A JSON value. Numbers written as plain integers are kept apart from all
others, which keep their spelling; an object keeps its members as they are
written. -/
inductive Json where
  | null
  | boolean (value : Bool)
  | integer (value : Int)
  | real (spelling : Text)
  | string (value : Text)
  | array (items : List Json)
  | object (members : List (Text × Json))

namespace Json

/-- The value of a key among an object's members: the last one, where the key
is repeated. -/
def lookup (key : Text) : List (Text × Json) → Option Json
  | [] => none
  | (name, value) :: rest =>
      match lookup key rest with
      | some later => some later
      | none => if name = key then some value else none

end Json

end DualityDice
