import Jury.Text.Blank

/-!
# Plain text

What is left of a text that is written where escape sequences have no meaning: the sequences and
the control characters are dropped, and the ASCII blanks stay.
-/

namespace Jury.Text

/-- Where a reader of escape sequences is. -/
inductive Sequence where
  | outside
  /-- After the character that opens a sequence. -/
  | opened
  /-- In a sequence that one more letter or digit ends. -/
  | short
  /-- In a sequence with parameters, which a letter ends. -/
  | parameters
  /-- In a sequence that holds a text, which a bell may end. -/
  | text (bell : Bool)
  deriving DecidableEq, Repr

/-- Whether a character outside of sequences is kept. -/
def isPlain (c : Char) : Bool :=
  isSeparator c || (0x20 ≤ c.toNat && c != '\x7f')

namespace Sequence

/-- Where a printable character leads in a sequence. -/
def letter (c : Char) : Sequence → Sequence
  | opened =>
    if c.toNat < 0x30 then short
    else if c = '[' then parameters
    else if c = ']' then text true
    else if c = 'P' ∨ c = 'X' ∨ c = '^' ∨ c = '_' then text false
    else outside
  | short => if c.toNat < 0x30 then short else outside
  | parameters => if c.toNat < 0x40 then parameters else outside
  | s => s

/-- Where a character leads, and whether it is kept. A blank other than the space breaks a sequence
off, unless the sequence holds a text. -/
def next (c : Char) (s : Sequence) : Sequence × Bool :=
  if c = '\x1b' then (opened, false)
  else if c = '\x18' ∨ c = '\x1a' then (outside, false)
  else
    match s with
    | outside => (outside, isPlain c)
    | text bell => (if bell ∧ c = '\x07' then outside else text bell, false)
    | s =>
      if isSeparator c && c != ' ' then (outside, true)
      else if isPlain c then (s.letter c, false)
      else (s, false)

/-- The characters that are kept of a text which begins in a sequence. -/
def plain (s : Sequence) : List Char → List Char
  | [] => []
  | c :: cs =>
    match s.next c with
    | (s, true) => c :: s.plain cs
    | (s, false) => s.plain cs

end Sequence

/-- A text without escape sequences and control characters. -/
def plain (text : String) : String :=
  String.ofList (Sequence.outside.plain text.toList)

end Jury.Text
