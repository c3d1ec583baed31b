/-!
# Blanks

Tokens and fields stand between the five ASCII blanks; lines and values are trimmed of every
character with the property White_Space.
-/

namespace Jury.Text

/-- The blanks that separate tokens and fields: space, tab, line feed, form feed and carriage
return. -/
def isSeparator (c : Char) : Bool :=
  c == ' ' || c == '\t' || c == '\n' || c == '\x0c' || c == '\x0d'

/-- The same five blanks as bytes. -/
def isSeparatorByte (b : UInt8) : Bool :=
  b == 0x20 || b == 0x09 || b == 0x0A || b == 0x0C || b == 0x0D

/-- The characters with the property White_Space. -/
def isBlank (c : Char) : Bool :=
  let n := c.toNat
  (0x09 ≤ n && n ≤ 0x0D) || n == 0x20 || n == 0x85 || n == 0xA0 || n == 0x1680 ||
    (0x2000 ≤ n && n ≤ 0x200A) || n == 0x2028 || n == 0x2029 || n == 0x202F || n == 0x205F ||
    n == 0x3000

/-- Every separator is a blank; the vertical tab is a blank that separates nothing. -/
theorem isBlank_of_isSeparator {c : Char} (h : isSeparator c = true) : isBlank c = true := by
  simp only [isSeparator, Bool.or_eq_true, beq_iff_eq] at h
  rcases h with (((rfl | rfl) | rfl) | rfl) | rfl <;> decide

/-- The characters of `cs` without the blanks at both ends. -/
def trimChars (cs : List Char) : List Char :=
  ((cs.dropWhile isBlank).reverse.dropWhile isBlank).reverse

def trim (s : String) : String :=
  String.ofList (trimChars s.toList)

/-- The maximal runs of items that `sep` does not hold of, where `held` is the part of the first
run that was read already, last item first. -/
def runsFrom {α : Type} (sep : α → Bool) (held : List α) : List α → List (List α)
  | [] => if held.isEmpty then [] else [held.reverse]
  | x :: xs =>
    if sep x then
      if held.isEmpty then runsFrom sep [] xs else held.reverse :: runsFrom sep [] xs
    else runsFrom sep (x :: held) xs

/-- The maximal runs of items that `sep` does not hold of, in order. -/
def runs {α : Type} (sep : α → Bool) (xs : List α) : List (List α) :=
  runsFrom sep [] xs

/-- The pieces between the items equal to `sep`, where `held` is the part of the first piece that
was read already, last item first. There is always at least one piece, and a piece may be empty. -/
def piecesFrom {α : Type} [BEq α] (sep : α) (held : List α) : List α → List (List α)
  | [] => [held.reverse]
  | x :: xs =>
    if x == sep then held.reverse :: piecesFrom sep [] xs else piecesFrom sep (x :: held) xs

/-- The fields of a line: its maximal runs of characters other than separators. -/
def fields (line : String) : List String :=
  (runs isSeparator line.toList).map String.ofList

end Jury.Text
