import DualityDice.Json.Basic
import DualityDice.Numeral

namespace DualityDice.Json

/-- The spelling of a character in a JSON text. Control characters have a
short escape or a hexadecimal one, and all others but quote and backslash
stand for themselves. -/
def escape (c : Char) : Text :=
  if c = '"' then ['\\', '"']
  else if c = '\\' then ['\\', '\\']
  else if c = '\n' then ['\\', 'n']
  else if c = '\r' then ['\\', 'r']
  else if c = '\t' then ['\\', 't']
  else if c = '\x08' then ['\\', 'b']
  else if c = '\x0C' then ['\\', 'f']
  else if c.toNat < 0x20 then
    ['\\', 'u', '0', '0', Nat.digitChar (c.toNat / 16), Nat.digitChar (c.toNat % 16)]
  else [c]

def quote (text : Text) : Text :=
  '"' :: text.flatMap escape ++ ['"']

/-- How a value is laid out: the white space after a colon, and the white space
that begins an item at the given depth. -/
structure Layout where
  afterColon : Text
  lineStart : Nat → Text

def Layout.compact : Layout := ⟨[], fun _ => []⟩

def Layout.pretty : Layout := ⟨[' '], fun depth => '\n' :: List.replicate (2 * depth) ' '⟩

mutual

def write (layout : Layout) (depth : Nat) : Json → Text
  | .null => "null".toList
  | .boolean true => "true".toList
  | .boolean false => "false".toList
  | .integer value => Numeral.ofInt value
  | .real spelling => spelling
  | .string value => quote value
  | .array [] => ['[', ']']
  | .array (item :: rest) =>
      '[' :: layout.lineStart (depth + 1) ++ write layout (depth + 1) item ++
        writeItems layout depth rest
  | .object [] => ['\x7b', '\x7d']
  | .object ((key, value) :: rest) =>
      '\x7b' :: layout.lineStart (depth + 1) ++ quote key ++ [':'] ++ layout.afterColon ++
        write layout (depth + 1) value ++ writeMembers layout depth rest

def writeItems (layout : Layout) (depth : Nat) : List Json → Text
  | [] => layout.lineStart depth ++ [']']
  | item :: rest =>
      ',' :: layout.lineStart (depth + 1) ++ write layout (depth + 1) item ++
        writeItems layout depth rest

def writeMembers (layout : Layout) (depth : Nat) : List (Text × Json) → Text
  | [] => layout.lineStart depth ++ ['\x7d']
  | (key, value) :: rest =>
      ',' :: layout.lineStart (depth + 1) ++ quote key ++ [':'] ++ layout.afterColon ++
        write layout (depth + 1) value ++ writeMembers layout depth rest

end

def compact (value : Json) : Text :=
  write .compact 0 value

def pretty (value : Json) : Text :=
  write .pretty 0 value

end DualityDice.Json
