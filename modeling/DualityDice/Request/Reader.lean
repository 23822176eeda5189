import DualityDice.Request.Basic
import DualityDice.Text.Blank
import DualityDice.Text.Lowercase
import DualityDice.Text.Utf8

/-!
Reading requests. The spelling is free: case and white space do not count, and
unknown characters behind `dd` are passed over.
-/

namespace DualityDice

/-- What has been read so far of the text behind `dd`: how many markers, and
the roll type that the first of them chose. The count is a word, and begins
again at zero behind the last one. -/
structure Markers where
  count : UInt32 := 0
  rollType : RollType := .normal
deriving DecidableEq

namespace Markers

def mark (markers : Markers) (kind : RollType) : Markers where
  count := markers.count + 1
  rollType := if markers.count = 0 then kind else markers.rollType

/-- Reads the text behind `dd` in one pass: markers are counted, and the
first sign begins the flat modifier, which takes all the rest. Every other
character is passed over. -/
def scan (markers : Markers) : Text → Option (Markers × Int32)
  | [] => some (markers, 0)
  | c :: rest =>
      if c = 'v' then scan (markers.mark .advantage) rest
      else if c = 'i' then scan (markers.mark .disadvantage) rest
      else if c = '+' ∨ c = '-' then
        (Numeral.readSigned32? (c :: rest)).map fun flat => (markers, flat)
      else scan markers rest

end Markers

namespace Request

def normalize (text : Text) : Text :=
  Text.dropBlanks (Text.lowercase text)

/-- The number of rolls that the text before a number sign asks for. Text
that is no numeral asks for one roll; zero and what needs more than 32 bits
is refused. -/
def countOf? (text : Text) : Option UInt32 :=
  match Numeral.toNat? text with
  | none => some 1
  | some n => if n = 0 then none else Numeral.toWord32? n

/-- The Hope die that the first two bytes of the text behind `dd` name. -/
def hopeDieOf (body : Text) : HopeDie :=
  if Text.takeBytes? 2 body = some ['2', '0'] then .d20 else .d12

def ofBody? (rolls : UInt32) (body : Text) : Option Request :=
  (Markers.scan {} body).map fun (markers, flat) =>
    { rolls, hopeDie := hopeDieOf body, rollType := markers.rollType,
      modifierDie := .ofMarkers markers.count.toNat, flatModifier := flat }

def ofNormalized? (text : Text) : Option Request :=
  match text.splitFirst '#' with
  | some (count, behind) => do
      let rolls ← countOf? count
      let body ← behind.dropStart? ['d', 'd']
      ofBody? rolls body
  | none => do
      let body ← text.dropStart? ['d', 'd']
      ofBody? 1 body

def ofText? (text : Text) : Option Request :=
  let normalized := normalize text
  if normalized = ['d', 'd'] then some plain else ofNormalized? normalized

def read (text : Text) : Except Error Request :=
  match ofText? text with
  | some request => .ok request
  | none => .error (.notARoll text.trim)

end Request

end DualityDice
