import DualityDice.Text.Basic

namespace DualityDice.Text

def resetStyle : Text := "\x1b[0m".toList

def beginStyle (code : Text) : Text :=
  "\x1b[".toList ++ code ++ ['m']

/-- A text with a style begun again behind each place where it ends all
styles. -/
def resumeStyle (style : Text) : Text → Text
  | '\x1b' :: '[' :: '0' :: 'm' :: rest => resetStyle ++ style ++ resumeStyle style rest
  | c :: rest => c :: resumeStyle style rest
  | [] => []

def paint (code text : Text) : Text :=
  beginStyle code ++ resumeStyle (beginStyle code) text ++ resetStyle

end DualityDice.Text
