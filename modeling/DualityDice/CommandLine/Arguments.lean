import DualityDice.CommandLine.Switch
import DualityDice.Numeral

/-!
Taking arguments one by one. The value of a switch is looked at only when the
next switch or operand comes, or the level ends.
-/

namespace DualityDice.CommandLine

inductive Stop where
  | misuse
  | version (level : Level)
  | help
deriving DecidableEq

/-- A switch that takes a value, whose value has not been looked at yet. -/
structure Pending where
  switch : Switch
  value : Option Text

structure Given where
  level : Level
  config : Option Text := none
  seed : Option UInt64 := none
  name : Option Text := none
  json : Bool := false
  operands : List Text := []
  pending : Option Pending := none
  onlyOperands : Bool := false

namespace Given

/-- Takes the value of a switch. A switch cannot be given twice, a path may not
be empty, and a seed is a number of 64 bits. -/
def setValue (given : Given) (switch : Switch) (value : Text) : Except Stop Given :=
  match switch with
  | .config =>
      if given.config.isSome ∨ value = [] then .error .misuse
      else .ok { given with config := some value }
  | .seed =>
      match given.seed, Numeral.readWord64? value with
      | none, some seed => .ok { given with seed := some seed }
      | _, _ => .error .misuse
  | .name =>
      if given.name.isSome then .error .misuse
      else .ok { given with name := some value }
  | .json | .version | .help => .error .misuse

def settle (given : Given) : Except Stop Given :=
  match given.pending with
  | none => .ok given
  | some ⟨switch, some value⟩ => { given with pending := none }.setValue switch value
  | some ⟨_, none⟩ => .error .misuse

def setFlag (given : Given) (switch : Switch) : Except Stop Given := do
  let given ← given.settle
  match switch with
  | .json => if given.json then .error .misuse else .ok { given with json := true }
  | .version => .error (.version given.level)
  | .help => .error .help
  | .config | .seed | .name => .error .misuse

/-- Takes a switch whose value may be attached to it. Without one, the value is
expected in the next argument. -/
def setSwitch (given : Given) (switch : Switch) (attached : Option Text) :
    Except Stop Given := do
  let given ← given.settle
  match attached with
  | some value => given.setValue switch value
  | none => .ok { given with pending := some ⟨switch, none⟩ }

def readWord (given : Given) (text : Text) : Except Stop Given :=
  let (word, attached) := match text.splitFirst '=' with
    | some (word, value) => (word, some value)
    | none => (text, none)
  match Switch.ofWord? given.level word with
  | none => .error .misuse
  | some switch =>
      if switch.takesValue then given.setSwitch switch attached
      else if attached.isSome then .error .misuse
      else given.setFlag switch

/-- The value attached to a letter: the letters behind it, less an equals
sign. -/
def attachedValue : Text → Option Text
  | [] => none
  | '=' :: value => some value
  | value => some value

def readLetters (given : Given) : Text → Except Stop Given
  | [] => .ok given
  | letter :: rest =>
      match Switch.ofLetter? given.level letter with
      | none => .error .misuse
      | some switch =>
          if switch.takesValue then given.setSwitch switch (attachedValue rest)
          else do
            let given ← given.setFlag switch
            given.readLetters rest

def hasRoom (given : Given) : Bool :=
  match given.level with
  | .roll => true
  | .explain => given.operands.isEmpty
  | .top | .chat => false

def addOperand (given : Given) (operand : Text) : Except Stop Given := do
  let given ← given.settle
  if given.hasRoom then .ok { given with operands := given.operands ++ [operand] }
  else .error .misuse

def awaitsValue (given : Given) : Bool :=
  match given.pending with
  | some ⟨_, none⟩ => true
  | _ => false

def readPlain (given : Given) (argument : Text) : Except Stop Given :=
  match given.pending with
  | some ⟨switch, none⟩ => .ok { given with pending := some ⟨switch, some argument⟩ }
  | _ => given.addOperand argument

/-- Takes one argument. Two hyphens alone make operands of all that follow. -/
def readArgument (given : Given) (argument : Text) : Except Stop Given :=
  if given.onlyOperands then given.addOperand argument
  else
    match argument with
    | ['-', '-'] => .ok { given with onlyOperands := true }
    | '-' :: '-' :: word => given.readWord word
    | '-' :: letter :: letters => given.readLetters (letter :: letters)
    | _ => given.readPlain argument

def readArguments (given : Given) : List Text → Except Stop Given
  | [] => .ok given
  | argument :: rest => do
      let given ← given.readArgument argument
      given.readArguments rest

end Given

end DualityDice.CommandLine
