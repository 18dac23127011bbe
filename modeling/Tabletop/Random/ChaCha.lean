/-!
# The ChaCha stream with twelve rounds

A stream of words of 32 bits that is determined by a key of eight words. Each block of sixteen
words is the sum of a starting state and the state that twelve rounds make of it; the starting
state holds four constants, the key and the number of the block.
-/

namespace Tabletop.ChaCha

abbrev Block := Vector UInt32 16

abbrev Key := Vector UInt32 8

def rotateLeft (w : UInt32) (n : UInt32) : UInt32 := (w <<< n) ||| (w >>> (32 - n))

/-- Mixes four words of a block. -/
def quarterRound (a b c d : Fin 16) (w : Block) : Block :=
  let w := w.set a (w[a] + w[b])
  let w := w.set d (rotateLeft (w[d] ^^^ w[a]) 16)
  let w := w.set c (w[c] + w[d])
  let w := w.set b (rotateLeft (w[b] ^^^ w[c]) 12)
  let w := w.set a (w[a] + w[b])
  let w := w.set d (rotateLeft (w[d] ^^^ w[a]) 8)
  let w := w.set c (w[c] + w[d])
  w.set b (rotateLeft (w[b] ^^^ w[c]) 7)

/-- Two rounds: the columns of the block, then its diagonals. -/
def doubleRound (w : Block) : Block :=
  quarterRound 3 4 9 14 <| quarterRound 2 7 8 13 <| quarterRound 1 6 11 12 <|
  quarterRound 0 5 10 15 <| quarterRound 3 7 11 15 <| quarterRound 2 6 10 14 <|
  quarterRound 1 5 9 13 <| quarterRound 0 4 8 12 w

def times {α : Type} (f : α → α) : Nat → α → α
  | 0, a => a
  | n + 1, a => times f n (f a)

/-- The starting state of a block. -/
def start (key : Key) (counter : UInt64) : Block :=
  #v[0x61707865, 0x3320646E, 0x79622D32, 0x6B206574,
    key[0], key[1], key[2], key[3], key[4], key[5], key[6], key[7],
    counter.toUInt32, (counter >>> 32).toUInt32, 0, 0]

/-- The block with the given number. -/
def block (key : Key) (counter : UInt64) : Block :=
  let w := start key counter
  Vector.zipWith (· + ·) (times doubleRound 6 w) w

/-- A position in the stream of a key: the number of the next block, and the words of the current
one that have not been read. -/
structure Stream where
  key : Key
  counter : UInt64 := 0
  unread : List UInt32 := []
  deriving Repr

def Stream.next (s : Stream) : UInt32 × Stream :=
  match s.unread with
  | w :: rest => (w, { s with unread := rest })
  | [] =>
    let words := block s.key s.counter
    (words[0], { s with counter := s.counter + 1, unread := words.toList.tail })

end Tabletop.ChaCha
