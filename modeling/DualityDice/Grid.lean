import DualityDice.Text.Basic

namespace DualityDice

structure Grid where
  head : List Text
  rows : List (List Text)

namespace Grid

def widths (grid : Grid) : List Nat :=
  grid.rows.foldl (fun widths row => List.zipWith max widths (row.map List.length))
    (grid.head.map List.length)

def pad (width : Nat) (cell : Text) : Text :=
  cell ++ List.replicate (width - cell.length) ' '

def cellLine (widths : List Nat) (cells : List Text) : Text :=
  (List.zipWith pad widths cells).flatMap (fun cell => ['|', ' '] ++ cell ++ [' ']) ++ ['|']

def rule (widths : List Nat) (dash edge joint : Char) : Text :=
  [edge] ++
    List.intercalate [joint] (widths.map fun width => List.replicate (width + 2) dash) ++
    [edge]

/-- The lines of a grid: a frame, the head above a double rule, and the rows
with a rule between them. -/
def lines (grid : Grid) : List Text :=
  let widths := grid.widths
  [rule widths '-' '+' '+', cellLine widths grid.head, rule widths '=' '+' '='] ++
    List.intersperse (rule widths '-' '|' '+') (grid.rows.map (cellLine widths)) ++
    [rule widths '-' '+' '+']

end Grid

end DualityDice
