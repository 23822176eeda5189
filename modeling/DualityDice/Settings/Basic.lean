import DualityDice.Error
import DualityDice.Text.Blank

namespace DualityDice

/-- What a bot and the commands can be told: the bot's name, the seed of its
generator, which log lines are wanted, and the most rolls that one message may
ask for. -/
structure Settings where
  name : Text
  seed : Option UInt64
  logFilter : Text
  maxRolls : UInt32
deriving DecidableEq

def defaultMaxRolls : UInt32 := 100

namespace Settings

def standard : Settings where
  name := "duality".toList
  seed := none
  logFilter := "warn".toList
  maxRolls := defaultMaxRolls

def withName (settings : Settings) (name : Text) : Settings :=
  { settings with name }

def withSeed (settings : Settings) (seed : UInt64) : Settings :=
  { settings with seed := some seed }

def withLogFilter (settings : Settings) (logFilter : Text) : Settings :=
  { settings with logFilter }

def withMaxRolls (settings : Settings) (maxRolls : UInt32) : Settings :=
  { settings with maxRolls }

/-- The first thing that is wrong with the settings: a blank name, or a limit
that allows no roll. -/
def fault? (settings : Settings) : Option SettingsFault :=
  if settings.name.trim = [] then some .emptyName
  else if settings.maxRolls = 0 then some .noRolls
  else none

def validate (settings : Settings) : Except Error Unit :=
  match settings.fault? with
  | some fault => .error (.invalidSettings fault)
  | none => .ok ()

end Settings

end DualityDice
