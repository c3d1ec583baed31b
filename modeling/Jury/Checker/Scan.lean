import Jury.Number.Parse

/-!
# Values read from tokens

The values that a checker can read from a token.
-/

namespace Jury.Checker

open Jury.Text (unsigned? signed?)

/-- What kind of value a token is read as. -/
inductive ValueType where
  | u8
  | i32
  | u32
  | i64
  | u64
  | f64
  | bool
  | char
  | string
  deriving DecidableEq, Repr

/-- A value read from a token. -/
inductive Value where
  | integer (value : Int)
  | number (value : Binary64)
  | truth (value : Bool)
  | character (value : Char)
  | text (value : String)
  deriving DecidableEq, Repr

/-- The value that a token stands for, if it is one of the type. A character is a token of one
character, and every token is a string. -/
def ValueType.parse? (type : ValueType) (token : String) : Option Value :=
  match type with
  | u8 => (unsigned? UInt8.size token).map fun n => .integer n
  | u32 => (unsigned? UInt32.size token).map fun n => .integer n
  | u64 => (unsigned? UInt64.size token).map fun n => .integer n
  | i32 => (signed? (1 <<< 31) token).map .integer
  | i64 => (signed? (1 <<< 63) token).map .integer
  | f64 => (Binary64.parse? token).map .number
  | bool =>
    if token = "true" then some (.truth true)
    else if token = "false" then some (.truth false)
    else none
  | char => match token.toList with
    | [c] => some (.character c)
    | _ => none
  | string => some (.text token)

end Jury.Checker
