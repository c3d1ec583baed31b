import Jury.Fault
import Jury.Text.Blank
import Jury.Text.Decimal

/-!
# Fields of control lines

The fields of control lines: numbers, flags and status codes, and how many of them a line has.
-/

namespace Jury.Control

open Jury.Text (trim unsigned? isBlank)

/-- A field that is a number below `bound`. Blanks around it do not matter. -/
def numberField (bound : Nat) (what item : String) : Except Fault Nat :=
  match unsigned? bound (trim item) with
  | some n => .ok n
  | none => .error (.protocol (.notNumber what item))

/-- A field that is a word. -/
def wordField (what item : String) : Except Fault UInt32 :=
  (numberField UInt32.size what item).map Nat.toUInt32

/-- A field that is `0` or `1`. -/
def flagField (what item : String) : Except Fault Bool :=
  if item = "0" then .ok false
  else if item = "1" then .ok true
  else .error (.protocol (.notFlag what item))

def renderFlag (flag : Bool) : String :=
  if flag then "1" else "0"

/-- A field that names a status kind. -/
def kindField (item : String) : Except Fault StatusKind :=
  match StatusKind.ofName? item with
  | some kind => .ok kind
  | none => .error (.protocol (.unknownKind item))

/-- A status code travels as one token: it is not empty and has no blanks. -/
def checkStatusCode (code : String) : Except Fault Unit :=
  if code.isEmpty || code.toList.any isBlank then .error (.protocol (.statusCode code)) else .ok ()

end Jury.Control
