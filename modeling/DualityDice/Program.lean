import DualityDice.Batch
import DualityDice.Chat
import DualityDice.CommandLine.Invocation
import DualityDice.Explanation
import DualityDice.Settings.Layers

namespace DualityDice.Program

structure Ending where
  status : UInt8
  printed : Text
  complaint : Text
deriving DecidableEq

/-- What the program finds around it: the files, the environment, the input,
and a key for rolls that no seed fixes. -/
structure Surroundings where
  files : Files
  environment : Environment
  input : Bytes
  key : ChaCha.Key

def version : Text := "0.1.0".toList

def usage : Text :=
  "Usage: duality [--config PATH] [--seed N] COMMAND\n\nCommands:\n".toList ++
    "  roll [--json] [NOTATION]...\n  chat [--name NAME]\n  explain NOTATION\n".toList

def ofStop : CommandLine.Stop → Ending
  | .misuse => ⟨2, [], usage⟩
  | .version level => ⟨0, level.title ++ [' '] ++ version ++ ['\n'], []⟩
  | .help => ⟨0, usage, []⟩

def complaintOf (error : Error) : Text :=
  "error: ".toList ++ error.message ++ ['\n']

/-- The exit status that tells of an error. A value that cannot be read has its
own. -/
def statusOf : Error → UInt8
  | .cutCharacter => 101
  | _ => 1

def ofResult (printed : Text) : Option Error → Ending
  | none => ⟨0, printed, []⟩
  | some error => ⟨statusOf error, printed, complaintOf error⟩

/-- The settings that a command runs with: those that are loaded, then the
seed of the arguments, then the name that a chat is given. -/
def settingsFor (files : Files) (environment : Environment)
    (invocation : CommandLine.Invocation) : Except Error Settings := do
  let settings ← Settings.load files invocation.config environment
  let settings := match invocation.seed with
    | some seed => settings.withSeed seed
    | none => settings
  .ok <|
    match invocation.command with
    | .chat (some name) => settings.withName name
    | _ => settings

def perform (surroundings : Surroundings) (settings : Settings) :
    CommandLine.Command → Ending
  | .roll spellings asJson =>
      match Batch.run settings spellings asJson surroundings.key with
      | .ok printed => ofResult printed none
      | .error error => ofResult [] (some error)
  | .chat _ =>
      let bot := Bot.start settings surroundings.key
      let (printed, error) :=
        Chat.run (Chat.isPainted surroundings.environment) bot surroundings.input
      ofResult printed error
  | .explain spelling =>
      match Explanation.run spelling with
      | .ok printed => ofResult printed none
      | .error error => ofResult [] (some error)

def start (surroundings : Surroundings) (arguments : List Text) :
    Except Ending (Settings × CommandLine.Command) :=
  match CommandLine.read arguments with
  | .error stop => .error (ofStop stop)
  | .ok invocation =>
      match settingsFor surroundings.files surroundings.environment invocation with
      | .error error => .error (ofResult [] (some error))
      | .ok settings => .ok (settings, invocation.command)

def run (surroundings : Surroundings) (arguments : List Text) : Ending :=
  match start surroundings arguments with
  | .error ending => ending
  | .ok (settings, command) => perform surroundings settings command

end DualityDice.Program
