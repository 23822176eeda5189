import DualityDice.Bot
import DualityDice.Environment.Entries
import DualityDice.Text.Paint
import DualityDice.Text.Utf8

namespace DualityDice.Chat

def defaultAuthor : Text := "user".toList

def quitWord : Text := "/quit".toList

def prompt : Text := ['>', ' ']

def styled (painted : Bool) (code text : Text) : Text :=
  if painted then Text.paint code text else text

def banner (painted : Bool) (name : Text) : Text :=
  "  ".toList ++ styled painted ['1'] "Listening".toList ++ " as '".toList ++ name ++
    "'\n  Type `author: message` or just a message, '/quit' to exit.\n\n".toList

def replyText (painted : Bool) (name answer : Text) : Text :=
  styled painted ['3', '2'] (name ++ [':']) ++ [' '] ++ answer ++ ['\n', '\n']

/-- The message of a trimmed line. What stands before the first colon is the
author, if it is not blank. -/
def messageOf (line : Text) : Message :=
  match line.splitFirst ':' with
  | some (author, content) =>
      if author.trim = [] then ⟨defaultAuthor, line⟩ else ⟨author.trim, content.trim⟩
  | none => ⟨defaultAuthor, line⟩

inductive Step where
  | next (printed : Text) (bot : Bot)
  | quit
  | refuse (error : Error)

def hearLine (painted : Bool) (bot : Bot) (line : Bytes) : Step :=
  match Text.ofUtf8? line with
  | none => .refuse .invalidInput
  | some line =>
      let input := line.trim
      if input = [] then .next [] bot
      else if Text.toLowerAscii input = quitWord then .quit
      else
        match bot.hear (messageOf input) with
        | (some answer, bot) => .next (replyText painted bot.settings.name answer) bot
        | (none, bot) => .next [] bot

/-- What is printed while lines are taken up, each after a prompt, and the
error that ends the chat early. -/
def hearLines (painted : Bool) (bot : Bot) : List Bytes → Text × Option Error
  | [] => (prompt, none)
  | line :: rest =>
      match hearLine painted bot line with
      | .next printed bot =>
          let (more, error) := hearLines painted bot rest
          (prompt ++ printed ++ more, error)
      | .quit => (prompt, none)
      | .refuse error => (prompt, some error)

def linesOf : Bytes → List Bytes
  | [] => []
  | byte :: rest =>
      if byte = 10 then [] :: linesOf rest
      else
        match linesOf rest with
        | line :: lines => (byte :: line) :: lines
        | [] => [[byte]]

def isPainted (environment : Environment) : Bool :=
  match environment.find? fun (name, _) => name = "CLICOLOR_FORCE".toList with
  | some (_, value) => value ≠ ['0']
  | none => false

def run (painted : Bool) (bot : Bot) (input : Bytes) : Text × Option Error :=
  let (printed, error) := hearLines painted bot (linesOf input)
  (banner painted bot.settings.name ++ printed, error)

end DualityDice.Chat
