import DualityDice.CommandLine.Arguments

namespace DualityDice.CommandLine

inductive Command where
  | roll (spellings : List Text) (asJson : Bool)
  | chat (name : Option Text)
  | explain (spelling : Text)
deriving DecidableEq

structure Invocation where
  config : Option Text
  seed : Option UInt64
  command : Command
deriving DecidableEq

def Given.command? (given : Given) : Option Command :=
  match given.level, given.operands with
  | .roll, [] => some (.roll [['d', 'd']] given.json)
  | .roll, spellings => some (.roll spellings given.json)
  | .chat, _ => some (.chat given.name)
  | .explain, [spelling] => some (.explain spelling)
  | _, _ => none

/-- Reads the arguments behind a command, then looks at what is pending from
before it. A value given behind the command counts. -/
def readCommand (before : Given) (level : Level) (arguments : List Text) :
    Except Stop Invocation := do
  let behind ← { level : Given }.readArguments arguments
  let behind ← behind.settle
  match behind.command? with
  | none => .error .misuse
  | some command =>
      let before ← before.settle
      .ok
        { config := behind.config.orElse fun _ => before.config,
          seed := behind.seed.orElse fun _ => before.seed,
          command }

def readTop (given : Given) : List Text → Except Stop Invocation
  | [] => .error .misuse
  | argument :: rest =>
      let isPlain := !given.onlyOperands && !given.awaitsValue
      match if isPlain then levelOf? argument else none with
      | some level => readCommand given level rest
      | none =>
          if isPlain && argument = "help".toList then readHelp rest
          else do
            let given ← given.readArgument argument
            readTop given rest
where
  readHelp : List Text → Except Stop Invocation
    | [] => .error .help
    | [word] =>
        if (levelOf? word).isSome ∨ word = "help".toList then .error .help
        else .error .misuse
    | _ => .error .misuse

def read (arguments : List Text) : Except Stop Invocation :=
  readTop { level := .top } arguments

end DualityDice.CommandLine
