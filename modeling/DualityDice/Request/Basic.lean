import DualityDice.Dice
import DualityDice.Error

namespace DualityDice

/-- A roll as it is asked for. The modifier die counts only where the roll
type calls for one. -/
structure Request where
  rolls : UInt32 := 1
  hopeDie : HopeDie := .d12
  rollType : RollType := .normal
  modifierDie : ModifierDie := .d6
  flatModifier : Int32 := 0
deriving DecidableEq

namespace Request

def plain : Request := {}

def checkLimit (request : Request) (allowed : UInt32) : Except Error Unit :=
  if allowed < request.rolls then .error (.tooManyRolls request.rolls allowed)
  else .ok ()

end Request

end DualityDice
