import DualityDice.Toml.Key
import DualityDice.Toml.Moment
import DualityDice.Toml.Number
import DualityDice.Toml.Table

namespace DualityDice.Toml

/-- The items of an array whose opening bracket has been read, up to its
closing one, and the rest. Line breaks and comments may stand anywhere
between, and a comma may follow the last item. -/
def readItems (readItem : Text → Option (Toml × Text)) :
    Nat → Text → Option (List Toml × Text)
  | 0, _ => none
  | fuel + 1, text =>
      match skipFiller false text with
      | ']' :: rest => some ([], rest)
      | text => do
          let (item, rest) ← readItem text
          match skipFiller false rest with
          | ',' :: rest =>
              let (items, rest) ← readItems readItem fuel rest
              some (item :: items, rest)
          | ']' :: rest => some ([item], rest)
          | _ => none

def readPair (readItem : Text → Option (Toml × Text)) (text : Text) :
    Option ((List Text × Toml) × Text) := do
  let (key, rest) ← readKey text
  let rest ← match rest with
    | '=' :: rest => some rest
    | _ => none
  let (value, rest) ← readItem (skipSpace rest)
  some ((key, value), rest)

/-- Adds the pairs of an inline table, of which there is one at least, up to
its closing brace, to the members read so far, and gives the rest. They stand
on one line and no comma follows the last one. -/
def readPairs (readItem : Text → Option (Toml × Text)) :
    Nat → Members → Text → Option (Members × Text)
  | 0, _, _ => none
  | fuel + 1, members, text => do
      let ((key, value), rest) ← readPair readItem text
      let members ← members.insert value key
      match skipSpace rest with
      | ',' :: rest => readPairs readItem fuel members rest
      | '\x7d' :: rest => some (members, rest)
      | _ => none

def readInline (readItem : Text → Option (Toml × Text)) (text : Text) :
    Option (Toml × Text) :=
  match skipSpace text with
  | '\x7d' :: rest => some (.table [], rest)
  | text =>
      (readPairs readItem text.length [] text).map fun (members, rest) =>
        (.table (finish members), rest)

def readMomentOrNumber (text : Text) : Option (Toml × Text) :=
  match readMoment text with
  | some found => some found
  | none => readNumber text

def readScalar (text : Text) : Option (Toml × Text) :=
  match text with
  | [] => none
  | c :: _ =>
      if c = '"' ∨ c = '\'' then (readString text).map fun (value, rest) => (.string value, rest)
      else if c = 't' then
        (text.dropStart? "true".toList).map fun rest => (.boolean true, rest)
      else if c = 'f' then
        (text.dropStart? "false".toList).map fun rest => (.boolean false, rest)
      else readMomentOrNumber text

def readValue : Nat → Text → Option (Toml × Text)
  | 0, '[' :: _ => none
  | 0, '\x7b' :: _ => none
  | depth + 1, '[' :: rest =>
      (readItems (readValue depth) (rest.length + 1) rest).map fun (items, rest) =>
        (.array items, rest)
  | depth + 1, '\x7b' :: rest => readInline (readValue depth) rest
  | _, text => readScalar text

def readAny (text : Text) : Option (Toml × Text) :=
  readValue (nestingLimit - 1) text

/-- A document that is being read: what it holds, and the path of the header
that was read last. -/
structure Draft where
  root : Members := []
  path : List Text := []

namespace Draft

def insert (draft : Draft) (key : List Text) (value : Toml) : Option Draft :=
  (draft.root.changeAt (Members.insert value key) draft.path).map fun root =>
    { draft with root }

/-- Begins what a header names: `start` is told the last part of its path. -/
def start (draft : Draft) (start : Text → Members → Option Members) (path : List Text) :
    Option Draft := do
  let name ← path.getLast?
  let root ← draft.root.changeAt (start name) path.dropLast
  some { root, path }

def readLine (draft : Draft) (text : Text) : Option (Draft × Text) :=
  match text with
  | '[' :: '[' :: rest => do
      let (path, rest) ← readKey rest
      match rest with
      | ']' :: ']' :: rest =>
          let draft ← draft.start Members.beginItem path
          some (draft, rest)
      | _ => none
  | '[' :: rest => do
      let (path, rest) ← readKey rest
      match rest with
      | ']' :: rest =>
          let draft ← draft.start Members.beginTable path
          some (draft, rest)
      | _ => none
  | '#' :: _ => some (draft, text)
  | _ =>
      if (dropNewline? text).isSome then some (draft, text)
      else do
        let ((key, value), rest) ← readPair readAny text
        let draft ← draft.insert key value
        some (draft, rest)

def readLines : Nat → Draft → Text → Option Draft
  | 0, _, _ => none
  | fuel + 1, draft, text =>
      match skipSpace text with
      | [] => some draft
      | text => do
          let (draft, rest) ← draft.readLine text
          let rest ← endLine? rest
          readLines fuel draft rest

end Draft

/-- The members of the table that a document stands for. A byte order mark may
come first. -/
def read? (text : Text) : Option (List (Text × Toml)) :=
  let text := match text with
    | '\uFEFF' :: rest => rest
    | text => text
  (Draft.readLines (text.length + 1) {} text).map fun draft => finish draft.root

end DualityDice.Toml
