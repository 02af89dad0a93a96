/-!
# A reproducible stream of random words

The stream is the output of the ChaCha block function with eight rounds. Its state holds the
key, the number of the next block and the words of the current block that have not been drawn.
A seed of 64 bits is stretched to a key by eight steps of a linear congruential generator whose
output is permuted.
-/

namespace QubitRotation.Random

/-- The words a block is computed from and made of. -/
abbrev Block := Vector UInt32 16

namespace Block

/-- A word turned left by `n` bits. -/
def turnLeft (word n : UInt32) : UInt32 := (word <<< n) ||| (word >>> (32 - n))

/-- Mixes four words of a block. -/
def quarterRound (block : Block) (a b c d : Fin 16) : Block :=
  let block := block.set a (block[a] + block[b])
  let block := block.set d (turnLeft (block[d] ^^^ block[a]) 16)
  let block := block.set c (block[c] + block[d])
  let block := block.set b (turnLeft (block[b] ^^^ block[c]) 12)
  let block := block.set a (block[a] + block[b])
  let block := block.set d (turnLeft (block[d] ^^^ block[a]) 8)
  let block := block.set c (block[c] + block[d])
  block.set b (turnLeft (block[b] ^^^ block[c]) 7)

/-- Mixes the columns of a block, then its diagonals. -/
def doubleRound (block : Block) : Block :=
  [(0, 4, 8, 12), (1, 5, 9, 13), (2, 6, 10, 14), (3, 7, 11, 15),
    (0, 5, 10, 15), (1, 6, 11, 12), (2, 7, 8, 13), (3, 4, 9, 14)].foldl
    (fun block (a, b, c, d) => quarterRound block a b c d) block

/-- Eight rounds, with the words they started from added at the end. -/
def scramble (block : Block) : Block :=
  let mixed := (List.replicate 4 ()).foldl (fun block _ => doubleRound block) block
  mixed.zipWith (· + ·) block

/-- The sixteen words of a block in pairs, the low half of each pair first. -/
def pairs (block : Block) : List UInt64 :=
  (List.finRange 8).map fun i =>
    let low := block[2 * i.val]
    let high := block[2 * i.val + 1]
    (high.toUInt64 <<< 32) ||| low.toUInt64

end Block

/-- A key of the stream. -/
abbrev Key := Vector UInt32 8

namespace Key

/-- One step of the generator behind a seed. -/
def advance (state : UInt64) : UInt64 := state * 6364136223846793005 + 11634580027462260723

/-- The word that a state of the generator gives out. -/
def output (state : UInt64) : UInt32 :=
  let word := (((state >>> 18) ^^^ state) >>> 27).toUInt32
  let turn := (state >>> 59).toUInt32
  (word >>> turn) ||| (word <<< (32 - turn))

/-- The state of the generator after `steps` steps. -/
def advanceTimes (state : UInt64) : (steps : Nat) → UInt64
  | 0 => state
  | steps + 1 => advanceTimes (advance state) steps

/-- The key that a seed is stretched to. -/
def ofSeed (seed : UInt64) : Key :=
  Vector.ofFn fun i => output (advanceTimes seed (i.val + 1))

end Key

/-- A position in the stream of a key. -/
structure Stream where
  key : Key
  nextBlock : UInt64 := 0
  pending : List UInt64 := []

namespace Stream

/-- The start of the stream of a seed. -/
def ofSeed (seed : UInt64) : Stream := { key := .ofSeed seed }

/-- The words that block `number` is computed from: four constants, the key, the number and
two zeros. -/
def input (key : Key) (number : UInt64) : Block :=
  #v[0x61707865, 0x3320646e, 0x79622d32, 0x6b206574,
    key[0], key[1], key[2], key[3], key[4], key[5], key[6], key[7],
    number.toUInt32, (number >>> 32).toUInt32, 0, 0]

/-- The pairs of words in block `number` of the stream. -/
def block (key : Key) (number : UInt64) : List UInt64 := (input key number).scramble.pairs

/-- The next word and the position after it. -/
def next (stream : Stream) : UInt64 × Stream :=
  match stream.pending with
  | word :: rest => (word, { stream with pending := rest })
  | [] =>
      let fresh := block stream.key stream.nextBlock
      (fresh.headD 0,
        { stream with nextBlock := stream.nextBlock + 1, pending := fresh.tail })

end Stream

end QubitRotation.Random
