/-!
# Binary floating-point numbers

Numbers of 64 bits, computed exactly. Every finite one is a whole number of units of 2^-1074, so
sums and comparisons are those of whole numbers, and an operation rounds once, to the nearest
representable number of units, a tie going to the even significand.
-/

namespace Jury

/-- A number of 64 bits: not a number, an infinity, or a signed number of units of 2^-1074. -/
inductive Binary64 where
  | nan
  | infinite (negative : Bool)
  | finite (negative : Bool) (units : Nat)
  deriving DecidableEq, Repr

namespace Binary64

/-- The number of units that make one. -/
def one : Nat := 1 <<< 1074

/-- The least number of units that is too large: the largest finite number is below 2^1024. -/
def ceiling : Nat := 1 <<< 2098

/-- The quotient of two whole numbers, rounded to the nearest one, a tie to the even one. -/
def divideToEven (num den : Nat) : Nat :=
  let q := num / den
  let r := num % den
  if den < 2 * r ∨ (2 * r = den ∧ q % 2 = 1) then q + 1 else q

/-- The number of low units that a significand of 53 bits cannot tell apart near `units`, as a
power of two. -/
def spacing (units : Nat) : Nat :=
  units.log2 - 52

/-- The representable number nearest to `num / den` units. -/
def nearest (negative : Bool) (num den : Nat) : Binary64 :=
  let shift := spacing (num / den)
  let units := divideToEven num (den <<< shift) <<< shift
  if units < ceiling then finite negative units else infinite negative

/-- The number that 64 bits stand for: a sign, eleven bits of exponent and 52 of fraction. -/
def ofBits (bits : UInt64) : Binary64 :=
  let n := bits.toNat
  let negative := n >>> 63 == 1
  let exponent := n >>> 52 % 2048
  let fraction := n % (1 <<< 52)
  if exponent = 2047 then if fraction = 0 then infinite negative else nan
  else if exponent = 0 then finite negative fraction
  else finite negative ((1 <<< 52 + fraction) <<< (exponent - 1))

/-- The bits of a number; those of a quiet one for what is not a number. -/
def toBits : Binary64 → UInt64
  | nan => 0x7FF8000000000000
  | infinite negative => ((if negative then 1 <<< 63 else 0) + 2047 <<< 52 : Nat).toUInt64
  | finite negative units =>
    let shift := spacing units
    ((if negative then 1 <<< 63 else 0) + shift <<< 52 + units >>> shift : Nat).toUInt64

def isFinite : Binary64 → Bool
  | finite _ _ => true
  | _ => false

/-- A finite number in units, with its sign. -/
def signed (negative : Bool) (units : Nat) : Int :=
  if negative then -(units : Int) else units

/-- The order of numbers; what is not a number stands in no order, not even with itself. -/
def le : Binary64 → Binary64 → Bool
  | nan, _ => false
  | _, nan => false
  | infinite true, _ => true
  | _, infinite false => true
  | infinite false, _ => false
  | _, infinite true => false
  | finite m a, finite n b => signed m a ≤ signed n b

/-- Zero or more, in the order of numbers. -/
def isNonNegative (x : Binary64) : Bool :=
  le (finite false 0) x

/-- The distance of two finite numbers, rounded. -/
def distance (m : Bool) (a : Nat) (n : Bool) (b : Nat) : Binary64 :=
  nearest false (signed m a - signed n b).natAbs 1

/-- A number without a sign divided by a positive finite one, rounded. -/
def dividedBy (x : Binary64) (units : Nat) : Binary64 :=
  match x with
  | finite _ a => nearest false (a * one) units
  | other => other

end Binary64

end Jury
