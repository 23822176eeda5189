import DualityDice.Json.Shape
import DualityDice.Request.Basic

namespace DualityDice

namespace RollType

def jsonName : RollType → Text
  | normal => "Normal".toList
  | advantage => "Advantage".toList
  | disadvantage => "Disadvantage".toList

def toJson (rollType : RollType) : Json :=
  .string rollType.jsonName

def ofJson? : Json → Option RollType :=
  Json.choiceOf? jsonName [normal, advantage, disadvantage]

end RollType

namespace HopeDie

def jsonName : HopeDie → Text
  | d12 => "D12".toList
  | d20 => "D20".toList

def toJson (die : HopeDie) : Json :=
  .string die.jsonName

def ofJson? : Json → Option HopeDie :=
  Json.choiceOf? jsonName [d12, d20]

end HopeDie

namespace ModifierDie

def jsonName : ModifierDie → Text
  | d6 => "D6".toList
  | d8 => "D8".toList
  | d10 => "D10".toList

def toJson (die : ModifierDie) : Json :=
  .string die.jsonName

def ofJson? : Json → Option ModifierDie :=
  Json.choiceOf? jsonName [d6, d8, d10]

end ModifierDie

namespace Request

def keys : List Text :=
  ["base_modifier".toList, "roll_type".toList, "hope_die".toList,
    "modifier_die".toList, "repeat_count".toList]

def toJson (request : Request) : Json :=
  .object
    [("base_modifier".toList, .integer request.flatModifier.toInt),
      ("hope_die".toList, request.hopeDie.toJson),
      ("modifier_die".toList, request.modifierDie.toJson),
      ("repeat_count".toList, .integer request.rolls.toNat),
      ("roll_type".toList, request.rollType.toJson)]

def ofJson? (value : Json) : Option Request :=
  match value.fields? keys with
  | some [some flat, some rollType, some hopeDie, some modifierDie, some rolls] => do
      let flatModifier ← flat.signed32?
      let rollType ← RollType.ofJson? rollType
      let hopeDie ← HopeDie.ofJson? hopeDie
      let modifierDie ← ModifierDie.ofJson? modifierDie
      let rolls ← rolls.word32?
      some { rolls, hopeDie, rollType, modifierDie, flatModifier }
  | _ => none

end Request

end DualityDice
