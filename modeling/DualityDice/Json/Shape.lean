import DualityDice.Json.Basic
import DualityDice.Numeral

namespace DualityDice.Json

def string? : Json → Option Text
  | .string value => some value
  | _ => none

def word32? : Json → Option UInt32
  | .integer (.ofNat n) => Numeral.toWord32? n
  | _ => none

def word64? : Json → Option UInt64
  | .integer (.ofNat n) => Numeral.toWord64? n
  | _ => none

def signed32? : Json → Option Int32
  | .integer n => Numeral.toSigned32? n
  | _ => none

/-- The name of a choice: a string, or the only key of an object that has
null for its value. -/
def choice? : Json → Option Text
  | .string name => some name
  | .object [(name, .null)] => some name
  | _ => none

def choiceOf? {α : Type} (nameOf : α → Text) (choices : List α) (value : Json) : Option α :=
  match value.choice? with
  | some name => choices.find? fun choice => nameOf choice = name
  | none => none

/-- The values of a record's fields, each absent where it is not given. An
object names them and may hold other keys; an array gives them in order and
may not be longer. -/
def fields? (keys : List Text) : Json → Option (List (Option Json))
  | .object members => some (keys.map fun key => lookup key members)
  | .array items =>
      if items.length ≤ keys.length then
        some (items.map some ++ List.replicate (keys.length - items.length) none)
      else none
  | _ => none

def optional {α : Type} (standard : α) (read : Json → Option α) : Option Json → Option α
  | none => some standard
  | some value => read value

end DualityDice.Json
