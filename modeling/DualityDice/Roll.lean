import DualityDice.Outcome
import DualityDice.Random.Source
import DualityDice.Request.Basic

namespace DualityDice

def fearBounds : Bounds :=
  ⟨1, fearSides, by decide⟩

def HopeDie.bounds (die : HopeDie) : Bounds :=
  ⟨1, die.sides, by cases die <;> decide⟩

def ModifierDie.bounds (die : ModifierDie) : Bounds :=
  ⟨1, die.sides, by cases die <;> decide⟩

namespace Request

variable {σ : Type} [Source σ]

/-- The value of the modifier die, read as a signed word and negated for a
disadvantage. A normal roll draws nothing. -/
def rollModifier (request : Request) (source : σ) : Int32 × σ :=
  match request.rollType with
  | .normal => (0, source)
  | .advantage =>
      let (value, source) := Source.draw request.modifierDie.bounds source
      (value.toInt32, source)
  | .disadvantage =>
      let (value, source) := Source.draw request.modifierDie.bounds source
      (-value.toInt32, source)

/-- Rolls once: the Fear die first, then the Hope die, then the modifier die
if there is one. -/
def rollOnce (request : Request) (source : σ) : Outcome × σ :=
  let (fearValue, source) := Source.draw fearBounds source
  let (hopeValue, source) := Source.draw request.hopeDie.bounds source
  let (modifierValue, source) := request.rollModifier source
  ({ hopeValue, fearValue, hopeDie := request.hopeDie,
     modifierDie := request.modifierDie, modifierValue,
     flatModifier := request.flatModifier }, source)

def rollTimes (request : Request) : Nat → σ → List Outcome × σ
  | 0, source => ([], source)
  | n + 1, source =>
      let (outcome, source) := request.rollOnce source
      let (outcomes, source) := rollTimes request n source
      (outcome :: outcomes, source)

def roll (request : Request) (source : σ) : List Outcome × σ :=
  request.rollTimes request.rolls.toNat source

end Request

end DualityDice
