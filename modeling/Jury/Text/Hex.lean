/-!
# Hexadecimal text

Bytes are written as two lowercase digits each, the high one first, and read back from exactly
such text.
-/

namespace Jury.Hex

/-- Why a text is not the hexadecimal form of bytes. -/
inductive Fault where
  /-- A character other than `0` to `9` and `a` to `f`. -/
  | character (c : Char)
  /-- One digit is left over. -/
  | oddLength
  deriving DecidableEq, Repr

/-- The value of a lowercase hexadecimal digit. -/
def digit? (c : Char) : Option Nat :=
  if '0' ≤ c ∧ c ≤ '9' then some (c.toNat - '0'.toNat)
  else if 'a' ≤ c ∧ c ≤ 'f' then some (c.toNat - 'a'.toNat + 10)
  else none

/-- The value of a hexadecimal digit of either case. -/
def digitOfAnyCase? (c : Char) : Option Nat :=
  digit? c.toLower

/-- The number that a row of digits stands for. -/
def value (digits : List Nat) : Nat :=
  digits.foldl (fun n digit => n * 16 + digit) 0

/-- The lowercase digit of a value below 16. -/
def digit (n : Nat) : Char :=
  if n < 10 then Char.ofNat ('0'.toNat + n) else Char.ofNat ('a'.toNat + (n - 10))

/-- The digits of a number, without leading zeros. -/
def ofNat (n : Nat) : List Char :=
  Nat.toDigits 16 n

def encodeByte (b : UInt8) : List Char :=
  [digit (b.toNat / 16), digit (b.toNat % 16)]

def encode (bytes : List UInt8) : String :=
  String.ofList (bytes.flatMap encodeByte)

/-- The bytes that a row of digits stands for. -/
def pairs : List Nat → Except Fault (List UInt8)
  | [] => .ok []
  | [_] => .error .oddLength
  | high :: low :: digits => (pairs digits).map ((high * 16 + low).toUInt8 :: ·)

/-- The values of a row of digits, or the first character that is none. -/
def digits : List Char → Except Fault (List Nat)
  | [] => .ok []
  | c :: cs =>
    match digit? c with
    | none => .error (.character c)
    | some d => (digits cs).map (d :: ·)

/-- The bytes that a text stands for. A character that is no digit is reported before an odd
length. -/
def decode (text : String) : Except Fault (List UInt8) :=
  (digits text.toList).bind pairs

end Jury.Hex
