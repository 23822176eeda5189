import DualityDice.Text.Basic
import DualityDice.Numeral

namespace DualityDice

inductive SettingsFault where
  | emptyName
  | noRolls
  | fileNotFound (path : Text)
  | malformedFile
  /-- The value that counts for a key has another type than the key's, or is
  out of its range. -/
  | illTyped (key : Text)
deriving DecidableEq

inductive Error where
  | notARoll (text : Text)
  | tooManyRolls (requested allowed : UInt32)
  | invalidSettings (fault : SettingsFault)
  | invalidInput
  | cutCharacter
deriving DecidableEq

def SettingsFault.details? : SettingsFault → Option Text
  | .emptyName => some "name must not be empty".toList
  | .noRolls => some "max_rolls must be at least 1".toList
  | .fileNotFound path => some ("config file not found: ".toList ++ path)
  | .malformedFile => none
  | .illTyped _ => none

def Error.message : Error → Text
  | .notARoll text => "not a roll: ".toList ++ text
  | .tooManyRolls requested allowed =>
      "too many rolls: ".toList ++ Numeral.ofNat requested.toNat ++ " (max ".toList ++
        Numeral.ofNat allowed.toNat ++ ")".toList
  | .invalidSettings fault =>
      "invalid config".toList ++
        match fault.details? with
        | some details => ": ".toList ++ details
        | none => []
  | .invalidInput => "stream did not contain valid UTF-8".toList
  | .cutCharacter => "a variable is cut inside a character".toList

end DualityDice
