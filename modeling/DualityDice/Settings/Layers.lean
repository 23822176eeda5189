import DualityDice.Environment.Entries
import DualityDice.Files
import DualityDice.Settings.Basic
import DualityDice.Settings.Wrapped
import DualityDice.Toml.Reader

/-!
Loading settings: standard values, a file, and the environment, each layer over
the one before, key by key.
-/

namespace DualityDice

namespace Settings

def stringOf? : Toml → Option Text
  | .string value => some value
  | _ => none

def word64Of? : Toml → Option UInt64
  | .integer (.ofNat n) => Numeral.toWord64? n
  | _ => none

def word32Of? : Toml → Option UInt32
  | .integer (.ofNat n) => Numeral.toWord32? n
  | _ => none

structure Layers where
  file : List (Text × Toml)
  environment : List (Text × Toml)

namespace Layers

/-- The value that counts for a key: the environment's if it sets the key,
else the file's. -/
def value? (layers : Layers) (key : Text) : Option Toml :=
  match Toml.lookup key layers.environment with
  | some value => some value
  | none => Toml.lookup key layers.file

/-- The setting at a key. Only the value that counts has to be of the right
type. -/
def setting {α : Type} (layers : Layers) (key : Text) (read : Toml → Option α)
    (standard : α) : Except Error α :=
  match layers.value? key with
  | none => .ok standard
  | some value =>
      match read value with
      | some setting => .ok setting
      | none => .error (.invalidSettings (.illTyped key))

def settings (layers : Layers) : Except Error Settings := do
  let name ← layers.setting "name".toList stringOf? standard.name
  let seed ← layers.setting "seed".toList (fun value => (word64Of? value).map some) standard.seed
  let logFilter ← layers.setting "log_filter".toList stringOf? standard.logFilter
  let maxRolls ← layers.setting "max_rolls".toList word32Of? standard.maxRolls
  .ok { name, seed, logFilter, maxRolls }

end Layers

/-- The contents of the settings file at a path, which has to name a file. They
are read by way of its full path; where that leads to none, or there is no path,
there are none, and that is no error. -/
def contentsOf (files : Files) : Option Text → Except Error (Option Bytes)
  | none => .ok none
  | some path =>
      match files.contents? path with
      | some _ => .ok (files.find? path)
      | none => .error (.invalidSettings (.fileNotFound path))

def membersOf : Option Bytes → Except Error (List (Text × Toml))
  | none => .ok []
  | some contents =>
      match ((Text.ofUtf8? contents).bind Toml.read?).bind unwrapDocument with
      | some members => .ok members
      | none => .error (.invalidSettings .malformedFile)

def entriesOf (environment : Environment) : Except Error (List (Text × Toml)) :=
  match Environment.entries? environment with
  | some entries => .ok entries
  | none => .error .cutCharacter

/-- The settings that the file at a path and the environment give, if they
make sense. The file has to be there before the environment is looked at, and
the environment has to be readable before the file's contents matter. -/
def load (files : Files) (path : Option Text) (environment : Environment) :
    Except Error Settings := do
  let contents ← contentsOf files path
  let entries ← entriesOf environment
  let members ← membersOf contents
  let settings ← Layers.settings ⟨members, entries⟩
  settings.validate
  .ok settings

end Settings

end DualityDice
