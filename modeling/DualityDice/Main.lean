import DualityDice.Program

namespace DualityDice.Main

def printText (output : IO.FS.Stream) (text : Text) : IO Unit := do
  output.putStr (String.ofList text)
  output.flush

/-- The next line without its line feed, or none at the end of the input. -/
partial def readLine (input : IO.FS.Stream) (read : Bytes) : IO (Option Bytes) := do
  let chunk ← input.read 1
  match chunk.toList with
  | [] => pure (if read.isEmpty then none else some read.reverse)
  | byte :: _ =>
      if byte = 10 then pure (some read.reverse) else readLine input (byte :: read)

/-- Goes on with a chat until it ends, and gives the error that ends it. -/
partial def chat (painted : Bool) (bot : Bot) : IO (Option Error) := do
  let output ← IO.getStdout
  printText output Chat.prompt
  match ← readLine (← IO.getStdin) [] with
  | none => pure none
  | some line =>
      match Chat.hearLine painted bot line with
      | .next printed bot =>
          printText output printed
          chat painted bot
      | .quit => pure none
      | .refuse error => pure (some error)

/-- The variables of the process: names and values with an equals sign
between, each ended by a zero byte. -/
def readVariables : IO Environment := do
  let bytes ← try IO.FS.readBinFile "/proc/self/environ" catch _ => pure ByteArray.empty
  let entries := (bytes.toList.splitBy fun byte _ => byte != 0).map fun entry =>
    entry.filter fun byte => byte != 0
  pure (entries.filterMap fun entry => (Text.ofUtf8? entry).bind fun text => text.splitFirst '=')

def readFile (path : Text) : IO (Option Bytes) :=
  try
    let bytes ← IO.FS.readBinFile (String.ofList path)
    pure (some bytes.toList)
  catch _ => pure none

def readFiles (arguments : List Text) : IO Files := do
  let steps := Text.splitAll '/' (← IO.currentDir).toString.toList
  let place := (steps.filter fun step => !step.isEmpty).reverse
  match CommandLine.read arguments with
  | .ok { config := some path, .. } =>
      let found ← (path :: Files.attempts place path).mapM fun path => do
        pure (path, ← readFile path)
      pure ⟨place, fun path => (found.lookup path).join⟩
  | _ => pure ⟨place, fun _ => none⟩

def readKey : IO ChaCha.Key := do
  let bytes ← IO.getRandomBytes 32
  pure <| Vector.ofFn fun i =>
    ((bytes.toList.drop (4 * i.val)).take 4).foldl (fun word byte => word * 256 + byte.toUInt32) 0

def finish (ending : Program.Ending) : IO UInt32 := do
  printText (← IO.getStdout) ending.printed
  printText (← IO.getStderr) ending.complaint
  pure ending.status.toUInt32

end DualityDice.Main

open DualityDice in
def main (arguments : List String) : IO UInt32 := do
  let arguments := arguments.map String.toList
  let surroundings : Program.Surroundings :=
    { files := ← Main.readFiles arguments, environment := ← Main.readVariables, input := [],
      key := ← Main.readKey }
  match Program.start surroundings arguments with
  | .ok (settings, .chat _) =>
      let bot := Bot.start settings surroundings.key
      let painted := Chat.isPainted surroundings.environment
      Main.printText (← IO.getStdout) (Chat.banner painted bot.settings.name)
      Main.finish (Program.ofResult [] (← Main.chat painted bot))
  | _ => Main.finish (Program.run surroundings arguments)
