import DualityDice.Json.Shape
import DualityDice.Settings.Basic

namespace DualityDice.Settings

def keys : List Text :=
  ["name".toList, "seed".toList, "log_filter".toList, "max_rolls".toList]

/-- Settings as a JSON object. A seed that is not set is left out. -/
def toJson (settings : Settings) : Json :=
  .object <|
    [("log_filter".toList, .string settings.logFilter),
      ("max_rolls".toList, .integer settings.maxRolls.toNat),
      ("name".toList, .string settings.name)] ++
    match settings.seed with
    | some seed => [("seed".toList, .integer seed.toNat)]
    | none => []

def seedOfJson? : Json → Option (Option UInt64)
  | .null => some none
  | value => value.word64?.map some

def ofJson? (value : Json) : Option Settings :=
  match value.fields? keys with
  | some [name, seed, logFilter, maxRolls] => do
      let name ← Json.optional standard.name Json.string? name
      let seed ← Json.optional standard.seed seedOfJson? seed
      let logFilter ← Json.optional standard.logFilter Json.string? logFilter
      let maxRolls ← Json.optional standard.maxRolls Json.word32? maxRolls
      some { name, seed, logFilter, maxRolls }
  | _ => none

end DualityDice.Settings
