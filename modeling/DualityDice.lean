import DualityDice.Batch
import DualityDice.Bot
import DualityDice.Chat
import DualityDice.CommandLine.Arguments
import DualityDice.CommandLine.Invocation
import DualityDice.CommandLine.Switch
import DualityDice.Dice
import DualityDice.Directory
import DualityDice.Environment.Quoted
import DualityDice.Environment.Value
import DualityDice.Environment.Entries
import DualityDice.Error
import DualityDice.Explanation
import DualityDice.Files
import DualityDice.Grid
import DualityDice.Json.Basic
import DualityDice.Json.Reader
import DualityDice.Json.Shape
import DualityDice.Json.Writer
import DualityDice.Main
import DualityDice.Numeral
import DualityDice.Outcome
import DualityDice.Outcome.Json
import DualityDice.Program
import DualityDice.Random.ChaCha
import DualityDice.Random.Generator
import DualityDice.Random.Script
import DualityDice.Random.Source
import DualityDice.Report
import DualityDice.Request.Basic
import DualityDice.Request.Canonical
import DualityDice.Request.Json
import DualityDice.Request.Reader
import DualityDice.Roll
import DualityDice.Settings.Basic
import DualityDice.Settings.Json
import DualityDice.Settings.Layers
import DualityDice.Settings.Wrapped
import DualityDice.Text.Basic
import DualityDice.Text.Blank
import DualityDice.Text.Cased
import DualityDice.Text.CharRange
import DualityDice.Text.Hex
import DualityDice.Text.Lowercase
import DualityDice.Text.Paint
import DualityDice.Text.Utf8
import DualityDice.Toml.Basic
import DualityDice.Toml.Key
import DualityDice.Toml.Moment
import DualityDice.Toml.Number
import DualityDice.Toml.Quoted
import DualityDice.Toml.Reader
import DualityDice.Toml.Spacing
import DualityDice.Toml.Table
import DualityDice.Proofs.Numeral
import DualityDice.Proofs.Spelling.Parts
import DualityDice.Proofs.Spelling.Markers
import DualityDice.Proofs.Spelling.Reading
import DualityDice.Proofs.Spelling.Language
import DualityDice.Proofs.Spelling.Meaning
import DualityDice.Proofs.Text.Plain
import DualityDice.Proofs.Spelling.Canonical
import DualityDice.Proofs.Reply
import DualityDice.Proofs.Silence
import DualityDice.Proofs.Text.Lines
import DualityDice.Proofs.Report.Lines
import DualityDice.Proofs.Draws
import DualityDice.Proofs.Answer
import DualityDice.Proofs.Numeral.Start
import DualityDice.Proofs.Report.Reader
import DualityDice.Proofs.Report.Unambiguous
import DualityDice.Proofs.Text.Utf8
import DualityDice.Proofs.Text.Trim
import DualityDice.Proofs.Batch
import DualityDice.Proofs.Chat.Lines
import DualityDice.Proofs.Chat.Accepted
import DualityDice.Proofs.Json.Number
import DualityDice.Proofs.Json.Quoted
import DualityDice.Proofs.Json.Steps
import DualityDice.Proofs.Json.RoundTrip
import DualityDice.Proofs.Json.Shape
import DualityDice.Proofs.Batch.Json
import DualityDice.Proofs.Batch.Refusal
import DualityDice.Proofs.Random.Scaling
import DualityDice.Proofs.Range
import DualityDice.Proofs.Text.Utf8.Parts
import DualityDice.Proofs.Chat.Transcript
import DualityDice.Proofs.Chat.OwnLines
import DualityDice.Proofs.Explanation
import DualityDice.Proofs.Respelling
import DualityDice.Proofs.Program
import DualityDice.Proofs.Environment.Entries
import DualityDice.Proofs.Settings.Wrapped
import DualityDice.Proofs.Environment.Readable
import DualityDice.Proofs.Settings.Effective
import DualityDice.Proofs.Text.Lowercase
import DualityDice.Proofs.Echo
import DualityDice.Proofs.Random.Fairness
import DualityDice.Proofs.Batch.Repetition
import DualityDice.Proofs.Json.Fields
import DualityDice.Proofs.Json.Records
import DualityDice.Proofs.Draws.Places
import DualityDice.Proofs.Report.Numbered
import DualityDice.Proofs.Text.Blur
import DualityDice.Proofs.Spelling.Blindness
import DualityDice.Proofs.Toml.Spelling
import DualityDice.Proofs.Environment.Spelling
import DualityDice.Proofs.Settings.Variables
import DualityDice.Proofs.Numeral.Length
import DualityDice.Proofs.Report.Width
import DualityDice.Proofs.Spelling.Shortest
