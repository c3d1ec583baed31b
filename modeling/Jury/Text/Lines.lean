import Jury.Text.Blank

/-!
# Lines of a text

A line ends before a line feed, or before a carriage return and a line feed; what follows the last
line feed is a line only if it is not empty.
-/

namespace Jury.Text

/-- The line whose characters are `held`, last first, that a line feed has ended. -/
def endedLine : List Char → String
  | '\r' :: held => String.ofList held.reverse
  | held => String.ofList held.reverse

/-- The lines of a text, where `held` is the part of the first line that was read already, last
character first. -/
def linesFrom (held : List Char) : List Char → List String
  | [] => if held.isEmpty then [] else [String.ofList held.reverse]
  | c :: cs => if c = '\n' then endedLine held :: linesFrom [] cs else linesFrom (c :: held) cs

/-- The lines of a text, without their ends. -/
def lines (text : String) : List String :=
  linesFrom [] text.toList

/-- The two sides of the first `=` of a line, if it has one. -/
def splitAtEquals? (line : String) : Option (String × String) :=
  let cs := line.toList
  match cs.dropWhile (· != '=') with
  | [] => none
  | _ :: value => some (String.ofList (cs.takeWhile (· != '=')), String.ofList value)

end Jury.Text
