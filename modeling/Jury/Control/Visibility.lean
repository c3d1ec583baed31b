import Jury.Text.Blank
import Jury.Text.Hex

/-!
# Sets of visible parts

Sets of named parts that a contestant may be shown, kept as the bits of a word. A set is written
as the names of its parts, in the order of their bits, joined by ` | `; bits without a name follow
as one hexadecimal number.
-/

namespace Jury.Control

/-- A kind of parts: its name, and the names of the parts, that of the lowest bit first. -/
structure PartKind where
  name : String
  parts : List String

namespace PartKind

def test : PartKind :=
  ⟨"TestVisibleComponents", ["TEST_DATA", "OUTPUT", "ANSWER"]⟩

def subtask : PartKind :=
  ⟨"SubtaskVisibleComponents", ["SCORE"]⟩

/-- The set that holds the test data alone. -/
def testData : UInt32 := 1

/-- Each part's bit and name. -/
def bits (kind : PartKind) : List (UInt32 × String) :=
  kind.parts.mapIdx fun i name => (1 <<< i.toUInt32, name)

def allBits (kind : PartKind) : UInt32 :=
  kind.bits.foldl (fun all (bit, _) => all ||| bit) 0

/-- The words that stand for a set: the names of its parts, and the bits that have no name. -/
def words (kind : PartKind) (set : UInt32) : List String :=
  let named := kind.bits.filterMap fun (bit, name) => if set &&& bit ≠ 0 then some name else none
  let unnamed := set &&& ~~~kind.allBits
  if unnamed = 0 then named
  else named ++ ["0x" ++ String.ofList (Hex.ofNat unnamed.toNat)]

def render (kind : PartKind) (set : UInt32) : String :=
  String.intercalate " | " (kind.words set)

/-- A set as text, shown with its kind; an empty set is shown as a number. -/
def shown (kind : PartKind) (set : UInt32) : String :=
  kind.name ++ "(" ++ (if set = 0 then "0x0" else kind.render set) ++ ")"

/-- The word that hexadecimal digits with an optional `+` stand for. -/
def hexWord? (digits : List Char) : Option UInt32 :=
  let digits := match digits with
    | '+' :: digits => digits
    | digits => digits
  if digits.isEmpty then none
  else
    let value := (digits.mapM Hex.digitOfAnyCase?).map Hex.value
    (value.filter (· < UInt32.size)).map Nat.toUInt32

/-- The bits that one word of a set's text stands for: a name, or a hexadecimal number. -/
def word? (kind : PartKind) (word : List Char) : Option UInt32 :=
  match word with
  | '0' :: 'x' :: digits => hexWord? digits
  | _ => (kind.bits.find? fun (_, name) => name.toList == word).map (·.1)

/-- The set that a text stands for. Blanks around the words do not matter, nor does their order,
and a blank text is the empty set. -/
def parse? (kind : PartKind) (text : String) : Option UInt32 :=
  if text.toList.all Text.isBlank then some 0
  else
    (Text.piecesFrom '|' [] text.toList).foldl (fun set word => do
      return (← set) ||| (← kind.word? (Text.trimChars word))) (some 0)

/-- Whether a set holds no bits but those of named parts. -/
def declares (kind : PartKind) (set : UInt32) : Bool :=
  set &&& ~~~kind.allBits == 0

end PartKind

end Jury.Control
