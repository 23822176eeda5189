import DualityDice.Random.Source

namespace DualityDice

/-- A source that repeats the given values for ever, whatever bounds are asked
for. -/
structure Script where
  values : List UInt32
  position : Nat := 0

/-- An empty script gives the least value asked for. -/
instance : Source Script where
  draw bounds script :=
    let value := (script.values[script.position % script.values.length]?).getD bounds.low
    (value, ⟨script.values, script.position + 1⟩)

end DualityDice
