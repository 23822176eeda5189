import DualityDice.Outcome
import DualityDice.Request.Json

namespace DualityDice

namespace Favor

def jsonName : Favor → Text
  | hope => "Hope".toList
  | fear => "Fear".toList
  | critical => "Critical".toList

def toJson (favor : Favor) : Json :=
  .string favor.jsonName

def ofJson? : Json → Option Favor :=
  Json.choiceOf? jsonName [hope, fear, critical]

end Favor

namespace Outcome

def keys : List Text :=
  ["hope_value".toList, "fear_value".toList, "hope_die".toList,
    "modifier_die".toList, "modifier_value".toList, "base_modifier".toList]

def toJson (outcome : Outcome) : Json :=
  .object
    [("base_modifier".toList, .integer outcome.flatModifier.toInt),
      ("fear_value".toList, .integer outcome.fearValue.toNat),
      ("hope_die".toList, outcome.hopeDie.toJson),
      ("hope_value".toList, .integer outcome.hopeValue.toNat),
      ("modifier_die".toList, outcome.modifierDie.toJson),
      ("modifier_value".toList, .integer outcome.modifierValue.toInt)]

def ofJson? (value : Json) : Option Outcome :=
  match value.fields? keys with
  | some [some hope, some fear, some hopeDie, some modifierDie, some modifier, some flat] => do
      let hopeValue ← hope.word32?
      let fearValue ← fear.word32?
      let hopeDie ← HopeDie.ofJson? hopeDie
      let modifierDie ← ModifierDie.ofJson? modifierDie
      let modifierValue ← modifier.signed32?
      let flatModifier ← flat.signed32?
      some { hopeValue, fearValue, hopeDie, modifierDie, modifierValue, flatModifier }
  | _ => none

end Outcome

end DualityDice
