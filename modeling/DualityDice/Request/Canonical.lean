import DualityDice.Request.Basic

namespace DualityDice

def RollType.markersFor (die : ModifierDie) : RollType → Text
  | .normal => []
  | .advantage => List.replicate die.markers 'v'
  | .disadvantage => List.replicate die.markers 'i'

namespace Request

def countText (rolls : UInt32) : Text :=
  if rolls = 1 then [] else Numeral.ofNat rolls.toNat ++ ['#']

def flatText (flat : Int32) : Text :=
  if flat = 0 then [] else Numeral.signed flat.toInt

/-- The canonical spelling of a request: count, `dd`, Hope die, markers and
flat modifier, each left out where it says nothing. -/
def canonical (request : Request) : Text :=
  countText request.rolls ++ ['d', 'd'] ++
    (if request.hopeDie = .d20 then ['2', '0'] else []) ++
    request.rollType.markersFor request.modifierDie ++
    flatText request.flatModifier

end Request

end DualityDice
