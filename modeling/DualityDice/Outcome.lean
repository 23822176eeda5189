import DualityDice.Dice

namespace DualityDice

inductive Favor where
  | hope
  | fear
  | critical
deriving DecidableEq

/-- The values that one roll shows. The modifier value is zero for a normal
roll and negative for a disadvantage. -/
structure Outcome where
  hopeValue : UInt32
  fearValue : UInt32
  hopeDie : HopeDie
  modifierDie : ModifierDie
  modifierValue : Int32
  flatModifier : Int32
deriving DecidableEq

namespace Outcome

def isCritical (outcome : Outcome) : Bool :=
  outcome.hopeValue == outcome.fearValue

def favor (outcome : Outcome) : Favor :=
  if outcome.isCritical then .critical
  else if outcome.fearValue < outcome.hopeValue then .hope
  else .fear

/-- The total of a roll. A critical roll counts its two equal dice alone. -/
def total (outcome : Outcome) : Int :=
  let dice : Int := outcome.hopeValue.toNat + outcome.fearValue.toNat
  if outcome.isCritical then dice
  else dice + outcome.modifierValue.toInt + outcome.flatModifier.toInt

end Outcome

end DualityDice
