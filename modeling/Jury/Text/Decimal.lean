/-!
# Whole numbers as text

A number is an optional sign and at least one ASCII digit, with nothing around it; leading zeros
are read, a value out of range is refused.
-/

namespace Jury.Text

/-- The value of an ASCII digit. -/
def digit? (c : Char) : Option Nat :=
  if '0' ≤ c ∧ c ≤ '9' then some (c.toNat - '0'.toNat) else none

def isDigit (c : Char) : Bool :=
  (digit? c).isSome

/-- The value of `digits` read after digits of value `high`. -/
def naturalFrom (high : Nat) : List Char → Option Nat
  | [] => some high
  | c :: digits => (digit? c).bind fun d => naturalFrom (high * 10 + d) digits

/-- The value of a non-empty row of digits. -/
def natural? (digits : List Char) : Option Nat :=
  if digits.isEmpty then none else naturalFrom 0 digits

/-- A number below `bound`, with an optional `+`. -/
def unsigned? (bound : Nat) (text : String) : Option Nat :=
  let digits := match text.toList with
    | '+' :: digits => digits
    | digits => digits
  (natural? digits).filter (· < bound)

/-- A number from `-bound` to `bound - 1`, with an optional `+` or `-`. -/
def signed? (bound : Nat) (text : String) : Option Int :=
  match text.toList with
  | '-' :: digits => (natural? digits).bind fun n => if n ≤ bound then some (-(n : Int)) else none
  | '+' :: digits => (natural? digits).bind fun n => if n < bound then some (n : Int) else none
  | digits => (natural? digits).bind fun n => if n < bound then some (n : Int) else none

/-- A number below 2^32, as a word. -/
def word? (text : String) : Option UInt32 :=
  (unsigned? UInt32.size text).map Nat.toUInt32

end Jury.Text
