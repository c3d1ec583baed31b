import Jury.Text.Blank
import Jury.Text.Utf8

/-!
# Lines of a control stream

The lines of a control stream. A line is read up to a line feed or the end of the stream and loses
the blanks at both ends; a line of blanks is skipped. A line that is not UTF-8 is still a line,
but has no text.
-/

namespace Jury.Control

/-- A line of a control stream: its text, if it is UTF-8, and the number of bytes that reading it
takes, those of the blank lines before it included. -/
structure Line where
  text : Option String
  size : Nat
  deriving DecidableEq, Repr

namespace Line

/-- The line made of these bytes, unless it is blank. -/
def ofBytes? (size : Nat) (bytes : List UInt8) : Option Line :=
  match Utf8.decode? bytes with
  | none => some ⟨none, size⟩
  | some text =>
    if text.toList.all Text.isBlank then none else some ⟨some (Text.trim text), size⟩

/-- The lines of a byte string, where `held` is the part of the first line that was read already,
last byte first, and `size` counts the bytes since the end of the last line that was not blank. -/
def allFrom (size : Nat) (held : List UInt8) : List UInt8 → List Line
  | [] => if held.isEmpty then [] else (ofBytes? size held.reverse).toList
  | b :: bytes =>
    if b = 0x0A then
      match ofBytes? (size + 1) held.reverse with
      | none => allFrom (size + 1) [] bytes
      | some line => line :: allFrom 0 [] bytes
    else allFrom (size + 1) (b :: held) bytes

def all (bytes : List UInt8) : List Line :=
  allFrom 0 [] bytes

end Line

end Jury.Control
