import DualityDice.Text.Basic
import DualityDice.Text.CharRange

namespace DualityDice.Text

/-- The code points with the `White_Space` property of Unicode 16.0. -/
def blankRanges : List CharRange :=
  [⟨0x9, 0xD⟩, ⟨0x20, 0x20⟩, ⟨0x85, 0x85⟩, ⟨0xA0, 0xA0⟩, ⟨0x1680, 0x1680⟩,
    ⟨0x2000, 0x200A⟩, ⟨0x2028, 0x2029⟩, ⟨0x202F, 0x202F⟩, ⟨0x205F, 0x205F⟩,
    ⟨0x3000, 0x3000⟩]

def isBlank (c : Char) : Bool :=
  CharRange.anyContains blankRanges c

def dropBlanks (text : Text) : Text :=
  text.filter fun c => !isBlank c

def trimStart (among : Char → Bool) (text : Text) : Text :=
  text.dropWhile among

def trimEnd (among : Char → Bool) (text : Text) : Text :=
  (text.reverse.dropWhile among).reverse

def trim (text : Text) : Text :=
  trimEnd isBlank (trimStart isBlank text)

end DualityDice.Text
