namespace DualityDice.ChaCha

abbrev Block := Vector UInt32 16

abbrev Key := Vector UInt32 8

def rotateLeft (word : UInt32) (amount : UInt32) : UInt32 :=
  (word <<< amount) ||| (word >>> (32 - amount))

/-- One half step of a quarter round: add the second word to the first, then
mix the sum into the third and rotate that. -/
def mix (block : Block) (a b d : Fin 16) (amount : UInt32) : Block :=
  let sum := block[a] + block[b]
  (block.set a sum).set d (rotateLeft (block[d] ^^^ sum) amount)

def quarterRound (block : Block) (a b c d : Fin 16) : Block :=
  let block := mix block a b d 16
  let block := mix block c d b 12
  let block := mix block a b d 8
  mix block c d b 7

/-- A round on the columns of a block and one on its diagonals. -/
def doubleRound (block : Block) : Block :=
  let block := quarterRound block 0 4 8 12
  let block := quarterRound block 1 5 9 13
  let block := quarterRound block 2 6 10 14
  let block := quarterRound block 3 7 11 15
  let block := quarterRound block 0 5 10 15
  let block := quarterRound block 1 6 11 12
  let block := quarterRound block 2 7 8 13
  quarterRound block 3 4 9 14

/-- The block before its rounds: four constant words, the key, the counter in
two words, and two zeros. -/
def startBlock (key : Key) (counter : UInt64) : Block :=
  #v[0x61707865, 0x3320646e, 0x79622d32, 0x6b206574,
    key[0], key[1], key[2], key[3], key[4], key[5], key[6], key[7],
    counter.toUInt32, (counter >>> 32).toUInt32, 0, 0]

/-- The block of the key stream at the counter: twelve rounds, and the start
block added to their result. -/
def keyBlock (key : Key) (counter : UInt64) : Block :=
  let start := startBlock key counter
  Vector.zipWith (· + ·) (Nat.repeat doubleRound 6 start) start

end DualityDice.ChaCha
