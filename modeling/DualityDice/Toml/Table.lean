import DualityDice.Toml.Basic

/-!
Tables while a document is being read. How a table came about decides whether a
header or a dotted key may add to it.
-/

namespace DualityDice.Toml

/-- How a table of a document came about: by a header of its own, as a step
of a longer header, or as a step of a dotted key. -/
inductive Origin where
  | header
  | passed
  | dotted
deriving DecidableEq

/-- What stands at a key of a document that is being read: a value, a table
that may still grow, or an array of tables, whose last one may grow. -/
inductive Node where
  | value (value : Toml)
  | table (origin : Origin) (members : List (Text × Node))
  | tables (earlier : List (List (Text × Node))) (last : List (Text × Node))

abbrev Members := List (Text × Node)

namespace Members

def node? (key : Text) (members : Members) : Option Node :=
  List.lookup key members

def replace (key : Text) (node : Node) (members : Members) : Members :=
  members.map fun (name, old) => (name, if name = key then node else old)

def add (key : Text) (node : Node) (members : Members) : Members :=
  members ++ [(key, node)]

/-- Gives a dotted key its value. The key may not be there yet, and the tables
on the way to it may not have headers; the one that takes the value has to
come from a dotted key itself. -/
def insert (value : Toml) : List Text → Members → Option Members
  | [], _ => none
  | [key], members =>
      match members.node? key with
      | some _ => none
      | none => some (members.add key (.value value))
  | key :: next :: rest, members =>
      match members.node? key with
      | none => do
          let inner ← insert value (next :: rest) []
          some (members.add key (.table .dotted inner))
      | some (.table .dotted inner) => do
          let inner ← insert value (next :: rest) inner
          some (members.replace key (.table .dotted inner))
      | some (.table .passed inner) =>
          if rest.isEmpty then none
          else do
            let inner ← insert value (next :: rest) inner
            some (members.replace key (.table .passed inner))
      | some (.tables earlier last) =>
          if rest.isEmpty then none
          else do
            let last ← insert value (next :: rest) last
            some (members.replace key (.tables earlier last))
      | some (.table .header _) => none
      | some (.value _) => none

/-- Changes the table that a header's path leads to. A table that is missing
on the way is made, and an array of tables leads to its last one. -/
def changeAt (change : Members → Option Members) : List Text → Members → Option Members
  | [], members => change members
  | key :: rest, members =>
      match members.node? key with
      | none => do
          let inner ← changeAt change rest []
          some (members.add key (.table .passed inner))
      | some (.table origin inner) => do
          let inner ← changeAt change rest inner
          some (members.replace key (.table origin inner))
      | some (.tables earlier last) => do
          let last ← changeAt change rest last
          some (members.replace key (.tables earlier last))
      | some (.value _) => none

/-- Begins a table with a header. Only a table that longer headers passed
through may be there already. -/
def beginTable (key : Text) (members : Members) : Option Members :=
  match members.node? key with
  | none => some (members.add key (.table .header []))
  | some (.table .passed inner) => some (members.replace key (.table .header inner))
  | some _ => none

def beginItem (key : Text) (members : Members) : Option Members :=
  match members.node? key with
  | none => some (members.add key (.tables [] []))
  | some (.tables earlier last) =>
      some (members.replace key (.tables (earlier ++ [last]) []))
  | some _ => none

end Members

mutual

def Node.toToml : Node → Toml
  | .value value => value
  | .table _ members => .table (finish members)
  | .tables earlier last => .array (finishAll earlier ++ [.table (finish last)])

def finish : List (Text × Node) → List (Text × Toml)
  | [] => []
  | (key, node) :: rest => (key, node.toToml) :: finish rest

def finishAll : List (List (Text × Node)) → List Toml
  | [] => []
  | members :: rest => .table (finish members) :: finishAll rest

end

end DualityDice.Toml
