import DualityDice.Toml.Basic

/-!
Wrapped values in a settings file. A table below the top level may hold a value
under a key for that purpose: then it stands for the value, and whatever else it
holds does not matter. A second key is reserved, and no such table may have it.
-/

namespace DualityDice.Settings

def wrappedKey : Text := "___figment_value_value".toList

def reservedKey : Text := "___figment_value_id".toList

mutual

/-- The value that a value stands for, with all values in it unwrapped too. -/
def unwrap : Toml → Option Toml
  | .array items => (unwrapItems items).map .array
  | .table members => do
      let members ← unwrapMembers members
      some ((Toml.lookup wrappedKey members).getD (.table members))
  | value => some value

def unwrapItems : List Toml → Option (List Toml)
  | [] => some []
  | item :: rest => do
      let item ← unwrap item
      let items ← unwrapItems rest
      some (item :: items)

def unwrapMembers : List (Text × Toml) → Option (List (Text × Toml))
  | [] => some []
  | (key, value) :: rest =>
      if key = reservedKey then none
      else do
        let value ← unwrap value
        let members ← unwrapMembers rest
        some ((key, value) :: members)

end

/-- The members of a document, unwrapped. The document itself stands for
nothing else, whatever its keys are. -/
def unwrapDocument (members : List (Text × Toml)) : Option (List (Text × Toml)) :=
  members.mapM fun (key, value) => (unwrap value).map fun value => (key, value)

end DualityDice.Settings
