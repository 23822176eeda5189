import DualityDice.Numeral

namespace DualityDice

def fearSides : UInt32 := 12

/-- Whether a modifier die is rolled, and which way it moves the total. -/
inductive RollType where
  | normal
  | advantage
  | disadvantage
deriving DecidableEq

def RollType.label : RollType → Text
  | .normal => "normal".toList
  | .advantage => "advantage".toList
  | .disadvantage => "disadvantage".toList

inductive HopeDie where
  | d12
  | d20
deriving DecidableEq

namespace HopeDie

def sides : HopeDie → UInt32
  | d12 => 12
  | d20 => 20

def label (die : HopeDie) : Text :=
  'd' :: Numeral.ofNat die.sides.toNat

end HopeDie

inductive ModifierDie where
  | d6
  | d8
  | d10
deriving DecidableEq

namespace ModifierDie

def sides : ModifierDie → UInt32
  | d6 => 6
  | d8 => 8
  | d10 => 10

def label (die : ModifierDie) : Text :=
  'd' :: Numeral.ofNat die.sides.toNat

/-- The die that a number of markers selects: the second marker steps up
from the d6 to the d8, and any further one to the d10. -/
def ofMarkers : Nat → ModifierDie
  | 0 | 1 => d6
  | 2 => d8
  | _ => d10

/-- The least positive number of markers that selects a die. -/
def markers : ModifierDie → Nat
  | d6 => 1
  | d8 => 2
  | d10 => 3

theorem ofMarkers_markers (die : ModifierDie) : ofMarkers die.markers = die := by
  cases die <;> rfl

end ModifierDie

end DualityDice
