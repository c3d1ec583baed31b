import Jury.Number.Binary64
import Jury.Text.Decimal

/-!
# Reading floating-point numbers

Decimal text read as a `Binary64`: an optional sign, then `inf`, `infinity` or `nan` in any case,
or digits with at most one point and an optional exponent. The digits stand for an exact decimal,
which is rounded once.
-/

namespace Jury.Binary64

open Jury.Text

/-- The parts of a decimal: the digits before the point, those after it, and the exponent. -/
structure Decimal where
  whole : List Char
  fraction : List Char
  exponent : Int
  deriving DecidableEq, Repr

/-- The exponent after its `e`: an optional sign and at least one digit. -/
def exponent? : List Char → Option Int
  | '-' :: digits => (natural? digits).map fun n => -(n : Int)
  | '+' :: digits => (natural? digits).map fun n => (n : Int)
  | digits => (natural? digits).map fun n => (n : Int)

/-- What follows the digits: nothing, or an exponent. -/
def suffix? : List Char → Option Int
  | [] => some 0
  | 'e' :: cs => exponent? cs
  | 'E' :: cs => exponent? cs
  | _ => none

/-- The parts of a decimal without a sign. There is a digit before the point or after it. -/
def decimal? (cs : List Char) : Option Decimal :=
  let whole := cs.takeWhile isDigit
  match cs.dropWhile isDigit with
  | '.' :: cs =>
    let fraction := cs.takeWhile isDigit
    if whole.isEmpty && fraction.isEmpty then none
    else (suffix? (cs.dropWhile isDigit)).map (⟨whole, fraction, ·⟩)
  | cs => if whole.isEmpty then none else (suffix? cs).map (⟨whole, [], ·⟩)

/-- The number nearest to `value * 10 ^ exponent`, where `value` has `length` digits. Beyond 10^310
everything is infinite and below 10^-330 everything is zero, so that no exponent makes the numbers
in between long. -/
def ofScaled (negative : Bool) (value length : Nat) (exponent : Int) : Binary64 :=
  if value = 0 then finite negative 0
  else if 310 < length + exponent then infinite negative
  else if length + exponent < -330 then finite negative 0
  else if 0 ≤ exponent then nearest negative (value * Nat.pow 10 exponent.toNat * one) 1
  else nearest negative (value * one) (Nat.pow 10 (-exponent).toNat)

/-- The number nearest to a decimal. -/
def ofDecimal (negative : Bool) (d : Decimal) : Binary64 :=
  let digits := (d.whole ++ d.fraction).dropWhile (· == '0')
  let value := digits.foldl (fun n c => n * 10 + (c.toNat - '0'.toNat)) 0
  ofScaled negative value digits.length (d.exponent - d.fraction.length)

def unsigned? (negative : Bool) (cs : List Char) : Option Binary64 :=
  let word := cs.map Char.toLower
  if word = "inf".toList ∨ word = "infinity".toList then some (infinite negative)
  else if word = "nan".toList then some nan
  else (decimal? cs).map (ofDecimal negative)

def parse? (text : String) : Option Binary64 :=
  match text.toList with
  | '-' :: cs => unsigned? true cs
  | '+' :: cs => unsigned? false cs
  | cs => unsigned? false cs

end Jury.Binary64
