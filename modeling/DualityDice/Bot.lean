import DualityDice.Random.Generator
import DualityDice.Report
import DualityDice.Request.Reader
import DualityDice.Roll
import DualityDice.Settings.Basic

namespace DualityDice

/-- The reply to a text and the source after it. There is no reply, and
nothing is drawn, where the text is no roll or asks for more rolls than are
allowed. -/
def reply {σ : Type} [Source σ] (allowed : UInt32) (text : Text) (source : σ) :
    Option Text × σ :=
  match Request.ofText? text with
  | none => (none, source)
  | some request =>
      match request.checkLimit allowed with
      | .error _ => (none, source)
      | .ok _ =>
          let (outcomes, source) := request.roll source
          (some (Report.ofOutcomes outcomes), source)

structure Message where
  author : Text
  content : Text
deriving DecidableEq

structure Bot where
  settings : Settings
  generator : Generator

namespace Bot

def start (settings : Settings) (fallback : ChaCha.Key) : Bot :=
  ⟨settings, Generator.start settings.seed fallback⟩

/-- The bot's reply to a message and the bot after it. A message of its own
gets none. -/
def hear (bot : Bot) (message : Message) : Option Text × Bot :=
  if message.author = bot.settings.name then (none, bot)
  else
    let (answer, generator) := reply bot.settings.maxRolls message.content bot.generator
    (answer, { bot with generator })

def hearAll (bot : Bot) : List Message → List (Option Text) × Bot
  | [] => ([], bot)
  | message :: rest =>
      let (answer, bot) := bot.hear message
      let (answers, bot) := hearAll bot rest
      (answer :: answers, bot)

end Bot

end DualityDice
