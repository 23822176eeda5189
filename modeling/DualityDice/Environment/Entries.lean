import DualityDice.Environment.Value

namespace DualityDice

abbrev Environment := List (Text × Text)

namespace Environment

def nameStart : Text := "DUALITY_".toList

/-- The key that a variable sets, as the parts between its full stops. White
space around the name and around the key is left out. A name that begins
otherwise, or has an empty part, sets none. -/
def keyOf? (name : Text) : Option (List Text) :=
  match (Text.toLowerAscii (Text.trim name)).dropStart? (Text.toLowerAscii nameStart) with
  | some key =>
      let parts := (Text.trim key).splitAll '.'
      if parts.any List.isEmpty then none else some parts
  | none => none

def nest (keys : List Text) (value : Toml) : Toml :=
  keys.foldr (fun key value => .table [(key, value)]) value

/-- What the environment sets, in order. A later entry for a key counts. A name
that goes on behind a full stop sets a table. There is nothing if one value
cannot be read. -/
def entries? : Environment → Option (List (Text × Toml))
  | [] => some []
  | (name, text) :: rest =>
      match keyOf? name with
      | some (key :: inner) => do
          let value ← valueOf? text
          let entries ← entries? rest
          some ((key, nest inner value) :: entries)
      | _ => entries? rest

end Environment

end DualityDice
