/-!
# UTF-8

Bytes are read one by one. Between characters the reader holds nothing; inside one it holds the
lead's promise: how many continuation bytes are still owed and in which range the next one lies. A
byte that breaks the promise ends the broken part, and is then read from between characters, so a
broken part is always as long as some valid sequence begins. The bytes of a text can be cut before
every byte that begins a character.
-/

namespace Jury.Utf8

/-- What is owed after the first bytes of a character: the bits read so far, the number of
continuation bytes to come, and the range that the next one lies in. -/
structure Owed where
  code : Nat
  tails : Nat
  low : UInt8
  high : UInt8
  deriving DecidableEq, Repr

/-- What the first byte of a character promises, if it can be one. The narrower ranges keep out
longer spellings of shorter characters, surrogates, and what lies beyond U+10FFFF. -/
def lead? (b : UInt8) : Option Owed :=
  if b < 0x80 then some ⟨b.toNat, 0, 0x80, 0xBF⟩
  else if b < 0xC2 then none
  else if b ≤ 0xDF then some ⟨b.toNat - 0xC0, 1, 0x80, 0xBF⟩
  else if b == 0xE0 then some ⟨0x0, 2, 0xA0, 0xBF⟩
  else if b == 0xED then some ⟨0xD, 2, 0x80, 0x9F⟩
  else if b ≤ 0xEF then some ⟨b.toNat - 0xE0, 2, 0x80, 0xBF⟩
  else if b == 0xF0 then some ⟨0x0, 3, 0x90, 0xBF⟩
  else if b ≤ 0xF3 then some ⟨b.toNat - 0xF0, 3, 0x80, 0xBF⟩
  else if b == 0xF4 then some ⟨0x4, 3, 0x80, 0x8F⟩
  else none

/-- What reading has brought so far: characters, and `none` for each broken part. -/
abbrev Parts := List (Option Char)

/-- A byte met between characters. -/
def start (b : UInt8) : Parts × Option Owed :=
  match lead? b with
  | none => ([none], none)
  | some owed => if owed.tails = 0 then ([some (Char.ofNat owed.code)], none) else ([], some owed)

/-- A byte met while `owed` is outstanding. -/
def follow (owed : Owed) (b : UInt8) : Parts × Option Owed :=
  if owed.low ≤ b ∧ b ≤ owed.high then
    let code := owed.code * 64 + (b.toNat - 0x80)
    if owed.tails ≤ 1 then ([some (Char.ofNat code)], none)
    else ([], some ⟨code, owed.tails - 1, 0x80, 0xBF⟩)
  else
    let (parts, owed) := start b
    (none :: parts, owed)

def step : Option Owed → UInt8 → Parts × Option Owed
  | none, b => start b
  | some owed, b => follow owed b

/-- The parts of a byte string, read while `owed` is outstanding. -/
def partsFrom (owed : Option Owed) : List UInt8 → Parts
  | [] => if owed.isSome then [none] else []
  | b :: bytes =>
    let (parts, owed) := step owed b
    parts ++ partsFrom owed bytes

/-- The characters and broken parts of a byte string. -/
def parts (bytes : List UInt8) : Parts :=
  partsFrom none bytes

/-- The text of a byte string, if no part of it is broken. -/
def decode? (bytes : List UInt8) : Option String :=
  ((parts bytes).mapM id).map String.ofList

/-- The text of a byte string, with U+FFFD for each broken part. -/
def decodeLossy (bytes : List UInt8) : String :=
  String.ofList ((parts bytes).map (·.getD '\uFFFD'))

def encode (text : String) : List UInt8 :=
  text.toList.flatMap String.utf8EncodeChar

/-! ### Cutting -/

/-- Whether a byte of a text begins a character, and does not carry one on. -/
def isLeading (b : UInt8) : Bool :=
  b < 0x80 || 0xC0 ≤ b

/-- Whether the first `n` bytes of a text end where a character does. -/
def isBoundary (bytes : List UInt8) (n : Nat) : Bool :=
  n == 0 || match bytes[n]? with
    | some b => isLeading b
    | none => n == bytes.length

@[simp]
theorem isBoundary_zero (bytes : List UInt8) : isBoundary bytes 0 = true :=
  rfl

/-- The last place where a text can be cut that is not behind its first `n` bytes, searched for
byte by byte. -/
def lastBoundary (bytes : List UInt8) (n : Nat) : Nat :=
  if _h : isBoundary bytes n = true then n else lastBoundary bytes (n - 1)
termination_by n
decreasing_by
  have hpos : n ≠ 0 := by
    rintro rfl
    exact _h (isBoundary_zero bytes)
  omega

end Jury.Utf8
