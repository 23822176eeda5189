import DualityDice.Grid
import DualityDice.Request.Canonical
import DualityDice.Request.Reader

namespace DualityDice.Explanation

def modifierDie (request : Request) : Text :=
  match request.rollType with
  | .normal => ['—']
  | _ => request.modifierDie.label

def grid (request : Request) : Grid where
  head := ["Field".toList, "Value".toList]
  rows :=
    [["Rolls".toList, Numeral.ofNat request.rolls.toNat],
      ["Hope die".toList, request.hopeDie.label],
      ["Fear die".toList, 'd' :: Numeral.ofNat fearSides.toNat],
      ["Roll type".toList, request.rollType.label],
      ["Modifier die".toList, modifierDie request],
      ["Flat modifier".toList, Numeral.signed request.flatModifier.toInt]]

def ofRequest (request : Request) : Text :=
  Text.joinLines (grid request).lines ++ "\n\n  Canonical notation: ".toList ++
    request.canonical ++ ['\n']

def run (spelling : Text) : Except Error Text := do
  let request ← Request.read spelling
  .ok (ofRequest request)

end DualityDice.Explanation
