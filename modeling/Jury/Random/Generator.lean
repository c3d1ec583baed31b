import Jury.Fault
import Jury.Random.ChaCha20
import Jury.Random.Source

/-!
# The seeded generator

A full seed of 32 bytes is the key of a ChaCha20 stream; a compact seed of eight bytes is first
expanded to one by a linear congruential generator with a permuted output. The generator yields
the words of the stream one after the other, so a copy of it goes on as the generator itself
would.
-/

namespace Jury

/-- The two lengths of a seed. -/
inductive SeedWidth where
  | compact
  | full
  deriving DecidableEq, Repr

def SeedWidth.length : SeedWidth → Nat
  | compact => 8
  | full => 32

/-- A seed: as many bytes as its width asks for. -/
structure Seed where
  width : SeedWidth
  bytes : List UInt8
  length_bytes : bytes.length = width.length

namespace Seed

/-- The seed made of these bytes. -/
def ofBytes (width : SeedWidth) (bytes : List UInt8) : Except Fault Seed :=
  if h : bytes.length = width.length then .ok ⟨width, bytes, h⟩
  else .error (.seedLength bytes.length width.length)

/-- The number whose bytes are given, the low one first. -/
def littleEndian (bytes : List UInt8) : Nat :=
  bytes.foldr (fun b n => b.toNat + 256 * n) 0

/-- One step of the congruential generator that expands a compact seed. -/
def stepState (state : UInt64) : UInt64 :=
  state * 6364136223846793005 + 11634580027462260723

/-- The word that a state of the congruential generator puts out. -/
def permute (state : UInt64) : UInt32 :=
  let x := (((state >>> 18) ^^^ state) >>> 27).toUInt32
  let turn := (state >>> 59).toUInt32
  (x >>> turn) ||| (x <<< ((32 - turn) % 32))

/-- The words of the key that a compact seed expands to: the outputs of as many steps. -/
def expand : Nat → UInt64 → List UInt32
  | 0, _ => []
  | n + 1, state => permute (stepState state) :: expand n (stepState state)

def key (seed : Seed) : ChaCha20.Key :=
  let words := match seed.width with
    | .compact => expand 8 (littleEndian seed.bytes).toUInt64
    | .full => (List.range 8).map fun i =>
      (littleEndian ((seed.bytes.drop (4 * i)).take 4)).toUInt32
  Vector.ofFn fun i => words.getD i 0

end Seed

/-- A generator: its key, and the number of words it has yielded. -/
structure Generator where
  key : ChaCha20.Key
  drawn : Nat := 0

namespace Generator

def ofSeed (seed : Seed) : Generator :=
  { key := seed.key }

/-- A generator never runs dry. The number of its block has 64 bits and a block is eight words,
so after 2^67 words it comes round. -/
instance : RandomSource Generator where
  next? g := some (ChaCha20.word g.key g.drawn, { g with drawn := g.drawn + 1 })
  horizon _ := 1 <<< 67

end Generator

end Jury
