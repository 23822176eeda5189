import DualityDice.Random.ChaCha
import DualityDice.Random.Source

/-!
The seeded generator: a seed is spread to a key, and the words of its key stream
are scaled to the bounds of a draw.
-/

namespace DualityDice

/-- A generator of random words: the key stream of a key. It holds the
counter of the next block and the words of the last one that are left. -/
structure Generator where
  key : ChaCha.Key
  counter : UInt64 := 0
  waiting : List UInt32 := []

namespace Generator

def advance (state : UInt64) : UInt64 :=
  state * 6364136223846793005 + 11634580027462260723

def output (state : UInt64) : UInt32 :=
  let mixed := (((state >>> 18) ^^^ state) >>> 27).toUInt32
  let amount := (state >>> 59).toUInt32
  (mixed >>> amount) ||| (mixed <<< (32 - amount))

def keyOfSeed (seed : UInt64) : ChaCha.Key :=
  Vector.ofFn fun i => output (Nat.repeat advance (i.val + 1) seed)

def ofSeed (seed : UInt64) : Generator :=
  ⟨keyOfSeed seed, 0, []⟩

def start (seed : Option UInt64) (fallback : ChaCha.Key) : Generator :=
  match seed with
  | some seed => ofSeed seed
  | none => ⟨fallback, 0, []⟩

def next (generator : Generator) : UInt32 × Generator :=
  match generator.waiting with
  | word :: waiting => (word, { generator with waiting })
  | [] =>
      let block := ChaCha.keyBlock generator.key generator.counter
      (block[0], ⟨generator.key, generator.counter + 1, block.toList.tail⟩)

/-- The number of values that bounds allow; zero stands for all of them. -/
def width (bounds : Bounds) : UInt32 :=
  bounds.high - bounds.low + 1

/-- A value within bounds. The next word is scaled to the width; the fraction
left over is refined with one further word where that could still carry. -/
def draw (bounds : Bounds) (generator : Generator) : UInt32 × Generator :=
  let (word, generator) := generator.next
  let width := width bounds
  if width = 0 then (word, generator)
  else
    let product := word.toUInt64 * width.toUInt64
    let whole := (product >>> 32).toUInt32
    let fraction := product.toUInt32
    if fraction > 0 - width then
      let (word, generator) := generator.next
      let refinement := ((word.toUInt64 * width.toUInt64) >>> 32).toUInt32
      let carry := fraction.toUInt64 + refinement.toUInt64 ≥ 0x100000000
      (bounds.low + (if carry then whole + 1 else whole), generator)
    else (bounds.low + whole, generator)

instance : Source Generator where
  draw := Generator.draw

end Generator

end DualityDice
