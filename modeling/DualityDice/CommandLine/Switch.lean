import DualityDice.Text.Basic

namespace DualityDice.CommandLine

inductive Level where
  | top
  | roll
  | chat
  | explain
deriving DecidableEq

def levelOf? (word : Text) : Option Level :=
  if word = "roll".toList then some .roll
  else if word = "chat".toList then some .chat
  else if word = "explain".toList then some .explain
  else none

def Level.title : Level → Text
  | .top => "duality".toList
  | .roll => "duality-roll".toList
  | .chat => "duality-chat".toList
  | .explain => "duality-explain".toList

inductive Switch where
  | config
  | seed
  | name
  | json
  | version
  | help
deriving DecidableEq

namespace Switch

def takesValue : Switch → Bool
  | config | seed | name => true
  | json | version | help => false

def isAllowed : Switch → Level → Bool
  | name, level => level = .chat
  | json, level => level = .roll
  | _, _ => true

def ofWord? (level : Level) (word : Text) : Option Switch :=
  let switch :=
    if word = "config".toList then some config
    else if word = "seed".toList then some seed
    else if word = "name".toList then some name
    else if word = "json".toList then some json
    else if word = "version".toList then some version
    else if word = "help".toList then some help
    else none
  switch.filter fun switch => switch.isAllowed level

def ofLetter? (level : Level) (letter : Char) : Option Switch :=
  let switch :=
    if letter = 'c' then some config
    else if letter = 's' then some seed
    else if letter = 'n' then some name
    else if letter = 'V' then some version
    else if letter = 'h' then some help
    else none
  switch.filter fun switch => switch.isAllowed level

end Switch

end DualityDice.CommandLine
