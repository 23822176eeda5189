import DualityDice.Outcome

namespace DualityDice.Report

def hopeLabel : Text := "Esperança".toList

def fearLabel : Text := "Medo".toList

def criticalLabel : Text := "Rolagem Crítica!".toList

def advantageLabel : Text := "Vantagem".toList

def disadvantageLabel : Text := "Desvantagem".toList

def bold (n : Nat) : Text :=
  ['*', '*'] ++ Numeral.ofNat n ++ ['*', '*']

def face (n : Nat) : Text :=
  ['['] ++ bold n ++ [']']

def parenthesized (label : Text) : Text :=
  ['('] ++ label ++ [')']

def fearDie : Text :=
  fearLabel ++ " (d".toList ++ Numeral.ofNat fearSides.toNat ++ [')']

def hopeClause (outcome : Outcome) : Text :=
  face outcome.hopeValue.toNat ++ [' '] ++ hopeLabel ++ [' '] ++
    parenthesized outcome.hopeDie.label

def modifierClause (outcome : Outcome) : Text :=
  let value := outcome.modifierValue.toInt
  let die := parenthesized outcome.modifierDie.label
  if 0 < value then
    " + ".toList ++ face value.natAbs ++ [' '] ++ advantageLabel ++ [' '] ++ die
  else if value < 0 then
    " - ".toList ++ face value.natAbs ++ [' '] ++ disadvantageLabel ++ [' '] ++ die
  else []

def flatClause (outcome : Outcome) : Text :=
  let value := outcome.flatModifier.toInt
  if 0 < value then " + ".toList ++ bold value.natAbs
  else if value < 0 then " - ".toList ++ bold value.natAbs
  else []

/-- The report of a critical roll: both dice show one value, and no modifier
is mentioned. -/
def criticalLine (outcome : Outcome) : Text :=
  "`".toList ++ criticalLabel ++ "` (**".toList ++ Numeral.ofInt outcome.total ++
    "**) ⟵ ".toList ++ hopeClause outcome ++ " = ".toList ++ fearDie

def favoredLine (side : Text) (outcome : Outcome) : Text :=
  "`".toList ++ Numeral.ofInt outcome.total ++ " com ".toList ++ side ++ "` ⟵ ".toList ++
    hopeClause outcome ++ " + ".toList ++ face outcome.fearValue.toNat ++ [' '] ++
    fearDie ++ modifierClause outcome ++ flatClause outcome

def line (outcome : Outcome) : Text :=
  match outcome.favor with
  | .critical => criticalLine outcome
  | .hope => favoredLine hopeLabel outcome
  | .fear => favoredLine fearLabel outcome

def numberedFrom (start : Nat) : List Outcome → List Text
  | [] => []
  | outcome :: rest =>
      (Numeral.ofNat start ++ ['.', ' '] ++ line outcome) :: numberedFrom (start + 1) rest

def numbered (outcomes : List Outcome) : Text :=
  Text.joinLines (numberedFrom 1 outcomes)

def ofOutcomes : List Outcome → Text
  | [outcome] => line outcome
  | outcomes => numbered outcomes

end DualityDice.Report
