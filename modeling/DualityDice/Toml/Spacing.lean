import DualityDice.Text.Basic

namespace DualityDice.Toml

def isSpace (c : Char) : Bool :=
  c == ' ' || c == '\t'

def skipSpace (text : Text) : Text :=
  text.dropWhile isSpace

def isPlain (c : Char) : Bool :=
  c == '\t' || (0x20 ≤ c.toNat && c.toNat ≠ 0x7F)

def dropNewline? : Text → Option Text
  | '\n' :: rest => some rest
  | '\r' :: '\n' :: rest => some rest
  | _ => none

def skipComment : Text → Text
  | '#' :: rest => rest.dropWhile isPlain
  | text => text

/-- What stands behind the end of a line, which may hold white space and a
comment. The end of the document ends a line. -/
def endLine? (text : Text) : Option Text :=
  match skipComment (skipSpace text) with
  | [] => some []
  | rest => dropNewline? rest

def skipFiller (inComment : Bool) : Text → Text
  | [] => []
  | '\r' :: '\n' :: rest => skipFiller false rest
  | c :: rest =>
      if c = '\n' then skipFiller false rest
      else if inComment then
        if isPlain c then skipFiller true rest else c :: rest
      else if isSpace c then skipFiller false rest
      else if c = '#' then skipFiller true rest
      else c :: rest

end DualityDice.Toml
