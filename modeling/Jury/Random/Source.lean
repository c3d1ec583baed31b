/-!
# Drawing from random words

Drawing from a source of raw 64-bit words. A value below a bound is drawn by masking words to the
bits that the bound needs until one is small enough, so that every value is as likely as any
other; an element of a list is drawn by drawing its position.
-/

namespace Jury

/-- Something that yields raw words. `horizon` is a number of words after which the source has
either run dry or come round to where it was, so that a draw that has looked at so many of them
in vain never ends. -/
class RandomSource (σ : Type) where
  next? : σ → Option (UInt64 × σ)
  horizon : σ → Nat

/-- A script is a source that runs dry at its end. -/
instance : RandomSource (List UInt64) where
  next?
    | [] => none
    | word :: script => some (word, script)
  horizon script := script.length + 1

/-- Why a draw has no value. -/
inductive DrawFault where
  | emptyRange (lo hi : UInt64)
  | emptyList
  | exhausted
  deriving DecidableEq, Repr

def DrawFault.message : DrawFault → String
  | emptyRange lo hi => "next_range: empty range [" ++ toString lo ++ ", " ++ toString hi ++ ")"
  | emptyList => "choose_uniform: empty sequence"
  | exhausted => "script exhausted"

namespace RandomSource

variable {σ : Type} [RandomSource σ]

def draw (s : σ) : Except DrawFault UInt64 × σ :=
  match next? s with
  | none => (.error .exhausted, s)
  | some (word, s) => (.ok word, s)

/-- The word whose bits are all those up to the highest bit of `n`. -/
def smear (n : UInt64) : UInt64 :=
  let n := n ||| (n >>> 1)
  let n := n ||| (n >>> 2)
  let n := n ||| (n >>> 4)
  let n := n ||| (n >>> 8)
  let n := n ||| (n >>> 16)
  n ||| (n >>> 32)

/-- The first of the next `fuel` words that is below `n` when masked. -/
def firstBelow (n mask : UInt64) : Nat → σ → Except DrawFault UInt64 × σ
  | 0, s => (.error .exhausted, s)
  | fuel + 1, s =>
    match next? s with
    | none => (.error .exhausted, s)
    | some (word, s) =>
      if word &&& mask < n then (.ok (word &&& mask), s) else firstBelow n mask fuel s

def below (n : UInt64) (s : σ) : Except DrawFault UInt64 × σ :=
  firstBelow n (smear (n - 1)) (horizon s) s

/-- A value from `lo` to `hi - 1`. -/
def range (lo hi : UInt64) (s : σ) : Except DrawFault UInt64 × σ :=
  if lo < hi then
    let (r, s) := below (hi - lo) s
    (r.map (lo + ·), s)
  else (.error (.emptyRange lo hi), s)

def choose {α : Type} (items : List α) (s : σ) : Except DrawFault α × σ :=
  if items.isEmpty then (.error .emptyList, s)
  else
    match range 0 items.length.toUInt64 s with
    | (.error fault, s) => (.error fault, s)
    | (.ok position, s) =>
      match items[position.toNat]? with
      | some item => (.ok item, s)
      | none => (.error .emptyList, s)

/-- Does something `n` times and collects the results, up to the first failure. -/
def collect {α : Type} (draw : σ → Except DrawFault α × σ) :
    Nat → σ → Except DrawFault (List α) × σ
  | 0, s => (.ok [], s)
  | n + 1, s =>
    match draw s with
    | (.error fault, s) => (.error fault, s)
    | (.ok value, s) =>
      let (r, s) := collect draw n s
      (r.map (value :: ·), s)

end RandomSource

end Jury
