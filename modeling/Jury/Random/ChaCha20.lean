/-!
# The ChaCha20 key stream

The key stream consists of blocks of sixteen 32-bit words, each the result of twenty rounds on a
key and the number of the block. The stream is read in 64-bit words, the low half first.
-/

namespace Jury.ChaCha20

/-- Sixteen words in four rows of four. -/
abbrev Block := Vector UInt32 16

/-- Eight words of key. -/
abbrev Key := Vector UInt32 8

/-- The bits of `x` moved up by `n`, those that leave at the top coming in at the bottom. -/
def rotateLeft (x n : UInt32) : UInt32 :=
  (x <<< n) ||| (x >>> (32 - n))

/-- Adds one word to another and mixes the sum into a third. -/
def mix (s : Block) (a b d : Fin 16) (turn : UInt32) : Block :=
  let s := s.set a (s[a] + s[b])
  s.set d (rotateLeft (s[d] ^^^ s[a]) turn)

/-- A quarter of a round, on four words. -/
def quarterRound (s : Block) (a b c d : Fin 16) : Block :=
  let s := mix s a b d 16
  let s := mix s c d b 12
  let s := mix s a b d 8
  mix s c d b 7

/-- Two rounds: one on the columns and one on the diagonals. -/
def doubleRound (s : Block) : Block :=
  let s := quarterRound s 0 4 8 12
  let s := quarterRound s 1 5 9 13
  let s := quarterRound s 2 6 10 14
  let s := quarterRound s 3 7 11 15
  let s := quarterRound s 0 5 10 15
  let s := quarterRound s 1 6 11 12
  let s := quarterRound s 2 7 8 13
  quarterRound s 3 4 9 14

/-- The block before the rounds: four constants, the key, the block's number in two words, and
two words of zero. -/
def initial (key : Key) (counter : UInt64) : Block :=
  #v[0x61707865, 0x3320646e, 0x79622d32, 0x6b206574,
    key[0], key[1], key[2], key[3], key[4], key[5], key[6], key[7],
    counter.toUInt32, (counter >>> 32).toUInt32, 0, 0]

/-- The block of the key stream with number `counter`. -/
def block (key : Key) (counter : UInt64) : Block :=
  let s := initial key counter
  s.zipWith (· + ·) (Nat.repeat doubleRound 10 s)

/-- The 64-bit word of the key stream with number `n`. -/
def word (key : Key) (n : Nat) : UInt64 :=
  let b := block key (n / 8).toUInt64
  let low := b.get ⟨2 * (n % 8), by omega⟩
  let high := b.get ⟨2 * (n % 8) + 1, by omega⟩
  low.toUInt64 ||| (high.toUInt64 <<< 32)

end Jury.ChaCha20
