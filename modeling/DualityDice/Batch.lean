import DualityDice.Json.Writer
import DualityDice.Outcome.Json
import DualityDice.Random.Generator
import DualityDice.Report
import DualityDice.Request.Canonical
import DualityDice.Request.Reader
import DualityDice.Roll
import DualityDice.Settings.Basic

namespace DualityDice.Batch

def readOne (allowed : UInt32) (spelling : Text) : Except Error Request := do
  let request ← Request.read spelling
  request.checkLimit allowed
  .ok request

/-- The requests that texts spell. The first text that is no roll, or asks for
too many, decides the error. -/
def read (allowed : UInt32) : List Text → Except Error (List Request)
  | [] => .ok []
  | spelling :: rest => do
      let request ← readOne allowed spelling
      let requests ← read allowed rest
      .ok (request :: requests)

structure Entry where
  request : Request
  outcomes : List Outcome

def roll {σ : Type} [Source σ] : List Request → σ → List Entry × σ
  | [], source => ([], source)
  | request :: rest, source =>
      let (outcomes, source) := request.roll source
      let (entries, source) := roll rest source
      (⟨request, outcomes⟩ :: entries, source)

def report (entries : List Entry) : Text :=
  entries.flatMap fun entry => Report.ofOutcomes entry.outcomes ++ ['\n']

def outcomeJson (outcome : Outcome) : Json :=
  .object
    [("favor".toList, outcome.favor.toJson), ("roll".toList, outcome.toJson),
      ("total".toList, .integer outcome.total)]

def Entry.toJson (entry : Entry) : Json :=
  .object
    [("notation".toList, .string entry.request.canonical),
      ("outcomes".toList, .array (entry.outcomes.map outcomeJson)),
      ("request".toList, entry.request.toJson)]

def toJson (entries : List Entry) : Json :=
  .array (entries.map Entry.toJson)

/-- What a batch of rolls prints, reports or a JSON text, and what is left of its source.
There is no source before all texts are read. -/
def runOver {σ : Type} [Source σ] (make : Unit → σ) (allowed : UInt32) (spellings : List Text)
    (asJson : Bool) : Except Error Text × Option σ :=
  match read allowed spellings with
  | .error error => (.error error, none)
  | .ok requests =>
      let (entries, source) := roll requests (make ())
      (.ok (if asJson then (toJson entries).pretty ++ ['\n'] else report entries), some source)

def run (settings : Settings) (spellings : List Text) (asJson : Bool)
    (fallback : ChaCha.Key) : Except Error Text :=
  (runOver (fun _ => Generator.start settings.seed fallback) settings.maxRolls spellings
    asJson).1

end DualityDice.Batch
