namespace DualityDice.Text

structure CharRange where
  first : Nat
  last : Nat

namespace CharRange

def contains (range : CharRange) (c : Char) : Bool :=
  range.first ≤ c.toNat && c.toNat ≤ range.last

def anyContains (ranges : List CharRange) (c : Char) : Bool :=
  ranges.any fun range => range.contains c

end CharRange

end DualityDice.Text
