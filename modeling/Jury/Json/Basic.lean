import Jury.Text.Decimal
import Jury.Text.Hex

/-!
# JSON

JSON as syntax. Strings and keys are kept as they are written, so that a value which nobody asks
for needs no decoding; numbers keep their text, so that `1` and `1.0` stay apart; an object keeps
its fields in order, repeated ones included.
-/

namespace Jury

inductive Json where
  | null
  | bool (value : Bool)
  | number (text : List Char)
  | string (body : List Char)
  | array (items : List Json)
  | object (fields : List (List Char × Json))
  deriving Repr

namespace Json

open Jury.Text (isDigit natural?)

/-! ### Strings -/

/-- One character in the body of a string: the quote, the backslash and the controls are
escaped. -/
def escapeChar (c : Char) : List Char :=
  if c = '"' then ['\\', '"']
  else if c = '\\' then ['\\', '\\']
  else if c = '\x08' then ['\\', 'b']
  else if c = '\x0c' then ['\\', 'f']
  else if c = '\n' then ['\\', 'n']
  else if c = '\x0d' then ['\\', 'r']
  else if c = '\t' then ['\\', 't']
  else if c.toNat < 0x20 then
    ['\\', 'u', '0', '0', Hex.digit (c.toNat / 16), Hex.digit (c.toNat % 16)]
  else [c]

/-- The body of the string for a text. -/
def escape (text : String) : List Char :=
  text.toList.flatMap escapeChar

/-- The value of four hexadecimal digits. -/
def hexUnit? (a b c d : Char) : Option Nat :=
  ([a, b, c, d].mapM Hex.digitOfAnyCase?).map Hex.value

/-- The character that a one-letter escape stands for. -/
def escapedChar? (c : Char) : Option Char :=
  if c = '"' then some '"'
  else if c = '\\' then some '\\'
  else if c = '/' then some '/'
  else if c = 'b' then some '\x08'
  else if c = 'f' then some '\x0c'
  else if c = 'n' then some '\n'
  else if c = 'r' then some '\x0d'
  else if c = 't' then some '\t'
  else none

/-- The body of a string, up to its closing quote, and what follows. Controls must be escaped,
and an escape must be one letter or four hexadecimal digits. -/
def body? : List Char → Option (List Char × List Char)
  | [] => none
  | '"' :: rest => some ([], rest)
  | '\\' :: 'u' :: a :: b :: c :: d :: rest =>
    if (hexUnit? a b c d).isNone then none
    else (body? rest).map fun (body, rest) => ('\\' :: 'u' :: a :: b :: c :: d :: body, rest)
  | '\\' :: c :: rest =>
    if (escapedChar? c).isNone then none
    else (body? rest).map fun (body, rest) => ('\\' :: c :: body, rest)
  | c :: rest =>
    if c.toNat < 0x20 ∨ c = '\\' then none
    else (body? rest).map fun (body, rest) => (c :: body, rest)

/-- A unit that begins a pair of surrogates. -/
def isHighSurrogate (unit : Nat) : Bool :=
  0xD800 ≤ unit && unit < 0xDC00

/-- A unit that ends a pair of surrogates. -/
def isLowSurrogate (unit : Nat) : Bool :=
  0xDC00 ≤ unit && unit < 0xE000

/-- The characters that the body of a string stands for. A surrogate stands for a character only
together with its partner. -/
def unescape? : List Char → Option (List Char)
  | [] => some []
  | '\\' :: 'u' :: a :: b :: c :: d :: rest => do
    let unit ← hexUnit? a b c d
    if isLowSurrogate unit then none
    else if isHighSurrogate unit then
      match rest with
      | '\\' :: 'u' :: a :: b :: c :: d :: rest =>
        let low ← hexUnit? a b c d
        if isLowSurrogate low then
          let code := 0x10000 + (unit - 0xD800) * 0x400 + (low - 0xDC00)
          return Char.ofNat code :: (← unescape? rest)
        else none
      | _ => none
    else return Char.ofNat unit :: (← unescape? rest)
  | '\\' :: c :: rest => do return (← escapedChar? c) :: (← unescape? rest)
  | c :: rest => do return c :: (← unescape? rest)

/-! ### Building values -/

def ofString (text : String) : Json :=
  string (escape text)

def ofWord (n : UInt32) : Json :=
  number (toString n).toList

/-- The object for a row of named values. -/
def record (fields : List (String × Json)) : Json :=
  object (fields.map fun field => (escape field.1, field.2))

/-! ### Writing -/

mutual

/-- A value without blanks. -/
def chars : Json → List Char
  | null => ['n', 'u', 'l', 'l']
  | bool true => ['t', 'r', 'u', 'e']
  | bool false => ['f', 'a', 'l', 's', 'e']
  | number text => text
  | string body => '"' :: body ++ ['"']
  | array items => '[' :: itemChars items ++ [']']
  | object fields => '\x7b' :: fieldChars fields ++ ['\x7d']

def itemChars : List Json → List Char
  | [] => []
  | [item] => item.chars
  | item :: items => item.chars ++ ',' :: itemChars items

def fieldChars : List (List Char × Json) → List Char
  | [] => []
  | [(key, value)] => '"' :: key ++ '"' :: ':' :: value.chars
  | (key, value) :: fields => '"' :: key ++ '"' :: ':' :: value.chars ++ ',' :: fieldChars fields

end

/-- A value as text, without blanks. -/
def render (value : Json) : String :=
  String.ofList value.chars

/-! ### Reading -/

/-- Drops the blanks that JSON allows between its parts. -/
def skipBlanks (cs : List Char) : List Char :=
  cs.dropWhile fun c => c == ' ' || c == '\t' || c == '\n' || c == '\x0d'

/-- At least one digit, and what follows. -/
def digits? (cs : List Char) : Option (List Char × List Char) :=
  if (cs.takeWhile isDigit).isEmpty then none
  else some (cs.takeWhile isDigit, cs.dropWhile isDigit)

/-- The digits before the point: a zero, or digits that do not begin with one. -/
def wholePart? : List Char → Option (List Char × List Char)
  | '0' :: cs => if (cs.takeWhile isDigit).isEmpty then some (['0'], cs) else none
  | cs => digits? cs

/-- The point and the digits after it, if there is a point. -/
def fractionPart? : List Char → Option (List Char × List Char)
  | '.' :: cs => (digits? cs).map fun (digits, cs) => ('.' :: digits, cs)
  | cs => some ([], cs)

/-- The exponent, if there is one. -/
def exponentPart? : List Char → Option (List Char × List Char)
  | c :: cs =>
    if c = 'e' ∨ c = 'E' then
      match cs with
      | '+' :: cs => (digits? cs).map fun (digits, cs) => (c :: '+' :: digits, cs)
      | '-' :: cs => (digits? cs).map fun (digits, cs) => (c :: '-' :: digits, cs)
      | cs => (digits? cs).map fun (digits, cs) => (c :: digits, cs)
    else some ([], c :: cs)
  | [] => some ([], [])

/-- A number, and what follows. -/
def number? (cs : List Char) : Option (Json × List Char) := do
  let (sign, cs) := match cs with
    | '-' :: cs => (['-'], cs)
    | cs => ([], cs)
  let (whole, cs) ← wholePart? cs
  let (fraction, cs) ← fractionPart? cs
  let (exponent, cs) ← exponentPart? cs
  return (number (sign ++ whole ++ fraction ++ exponent), cs)

mutual

/-- A value, and what follows; `fuel` bounds the number of values and separators read. -/
def value? : Nat → List Char → Option (Json × List Char)
  | 0, _ => none
  | fuel + 1, cs =>
    match skipBlanks cs with
    | 'n' :: 'u' :: 'l' :: 'l' :: cs => some (null, cs)
    | 't' :: 'r' :: 'u' :: 'e' :: cs => some (bool true, cs)
    | 'f' :: 'a' :: 'l' :: 's' :: 'e' :: cs => some (bool false, cs)
    | '"' :: cs => (body? cs).map fun (body, cs) => (string body, cs)
    | '[' :: cs =>
      match skipBlanks cs with
      | ']' :: cs => some (array [], cs)
      | cs => (items? fuel cs).map fun (items, cs) => (array items, cs)
    | '\x7b' :: cs =>
      match skipBlanks cs with
      | '\x7d' :: cs => some (object [], cs)
      | cs => (fields? fuel cs).map fun (fields, cs) => (object fields, cs)
    | cs => number? cs

/-- Items up to the closing bracket, and what follows. -/
def items? : Nat → List Char → Option (List Json × List Char)
  | 0, _ => none
  | fuel + 1, cs => do
    let (item, cs) ← value? fuel cs
    match skipBlanks cs with
    | ',' :: cs => (items? fuel cs).map fun (items, cs) => (item :: items, cs)
    | ']' :: cs => some ([item], cs)
    | _ => none

/-- Fields up to the closing brace, and what follows. -/
def fields? : Nat → List Char → Option (List (List Char × Json) × List Char)
  | 0, _ => none
  | fuel + 1, cs => do
    match skipBlanks cs with
    | '"' :: cs =>
      let (key, cs) ← body? cs
      match skipBlanks cs with
      | ':' :: cs =>
        let (value, cs) ← value? fuel cs
        match skipBlanks cs with
        | ',' :: cs => (fields? fuel cs).map fun (fields, cs) => ((key, value) :: fields, cs)
        | '\x7d' :: cs => some ([(key, value)], cs)
        | _ => none
      | _ => none
    | _ => none

end

/-- The value that a text stands for. Each value and each separator takes a character, so the
fuel suffices. -/
def parse? (text : String) : Option Json := do
  let cs := text.toList
  let (value, rest) ← value? (2 * cs.length + 2) cs
  if (skipBlanks rest).isEmpty then some value else none

/-! ### Taking values apart -/

/-- A number that is a word. -/
def toWord? : Json → Option UInt32
  | number text => ((natural? text).filter (· < UInt32.size)).map Nat.toUInt32
  | _ => none

def toBool? : Json → Option Bool
  | bool value => some value
  | _ => none

def toText? : Json → Option String
  | string body => (unescape? body).map String.ofList
  | _ => none

def toItems? : Json → Option (List Json)
  | array items => some items
  | _ => none

/-- The fields of an object with their keys as text. -/
def namedFields? (fields : List (List Char × Json)) : Option (List (String × Json)) :=
  fields.mapM fun (key, value) => do return (String.ofList (← unescape? key), value)

/-- The named values of a record whose fields are `names`. A record is an object, where only fields
of other names may be repeated, or an array of values in the order of the fields. -/
def toRow? (names : List String) : Json → Option (List (String × Json))
  | object fields => do
    let row ← namedFields? fields
    if names.all fun name => row.countP (·.1 == name) ≤ 1 then some row else none
  | array items => if items.length ≤ names.length then some (names.zip items) else none
  | _ => none

/-- The variant that a value names, and what belongs to it: an object with one field. -/
def toVariant? : Json → Option (String × Json)
  | object [(key, value)] => do return (String.ofList (← unescape? key), value)
  | _ => none

end Json

end Jury
