import Jury.Launch.Descriptors
import Jury.Text.Blank
import Jury.Text.Decimal

/-!
# The environment of a program

What a program learns from its environment: variables that hold numbers, bytes in hexadecimal, and
the numbers of the descriptors that it is to use. A program opens its descriptors one after the
other; when one cannot be used, those before it are closed again.
-/

namespace Jury.Launch

open Jury.Text (trim signed?)

/-- The environment of a program: its variables, and its open descriptors. -/
structure Environment where
  lookup : String → Option String
  descriptors : Descriptors := {}

namespace Environment

/-- The value of a variable that must be present. -/
def required (env : Environment) (name : String) : Except Fault String :=
  match env.lookup name with
  | some value => .ok value
  | none => .error (.environment (.missing name))

/-- A variable that holds an integer of 64 bits. Blanks around it do not matter. -/
def integer (env : Environment) (name : String) : Except Fault Int := do
  let value ← env.required name
  match signed? (1 <<< 63) (trim value) with
  | some n => return n
  | none => throw (.environment (.notInteger name value))

def word (env : Environment) (name : String) : Except Fault UInt32 := do
  let n ← env.integer name
  if 0 ≤ n ∧ n < UInt32.size then return n.toNat.toUInt32
  else throw (.environment (.notWord name n))

/-- A variable that holds the number of a descriptor open in a direction. -/
def descriptor (env : Environment) (name : String) (direction : Direction) :
    Except Fault Int := do
  let n ← env.integer name
  if n < Int32.minValue.toInt ∨ Int32.maxValue.toInt < n then
    throw (.descriptor (.outOfRange name n))
  match env.descriptors.check n direction with
  | .ok () => return n
  | .error cause => throw (.descriptor (.unusable name n cause))

/-- Opens the descriptor that a variable names as a stream. Opening asks once more whether it can be
used. -/
def stream (env : Environment) (name : String) (direction : Direction) : Except Fault Int := do
  let n ← env.descriptor name direction
  match env.descriptors.check n direction with
  | .ok () => return n
  | .error cause => throw (.descriptor cause)

/-- A variable that holds bytes in lowercase hexadecimal. Blanks are not allowed. -/
def hexBytes (env : Environment) (name : String) : Except Fault (List UInt8) := do
  let value ← env.required name
  match Hex.decode value with
  | .ok bytes => return bytes
  | .error cause => throw (.environment (.notHex name value cause))

/-- The descriptors that are open by the time one of those wanted cannot be used, or that all are
open. -/
def opened (env : Environment) : List (String × Direction) → List Int
  | [] => []
  | (name, direction) :: wanted =>
    match env.descriptor name direction with
    | .ok n => n :: env.opened wanted
    | .error _ => []

def close (env : Environment) (numbers : List Int) : Environment :=
  { env with descriptors := env.descriptors.close numbers }

end Environment

/-- The descriptors that a checker is given. -/
structure CheckerDescriptors where
  test : Int
  correct : Int
  solution : Int
  verdict : Int
  comments : Int
  deriving DecidableEq, Repr

/-- What a checker opens, in this order. -/
def CheckerDescriptors.wanted : List (String × Direction) :=
  [("JJS_CORR", .read), ("JJS_SOL", .read), ("JJS_TEST", .read), ("JJS_CHECKER_OUT", .write),
    ("JJS_CHECKER_COMMENT", .write)]

def CheckerDescriptors.numbers (d : CheckerDescriptors) : List Int :=
  [d.correct, d.solution, d.test, d.verdict, d.comments]

/-- The checker's descriptors. The streams are resolved before the channels, and the correct
answer first. -/
def CheckerDescriptors.resolve (env : Environment) : Except Fault CheckerDescriptors := do
  let correct ← env.descriptor "JJS_CORR" .read
  let solution ← env.descriptor "JJS_SOL" .read
  let test ← env.descriptor "JJS_TEST" .read
  let verdict ← env.descriptor "JJS_CHECKER_OUT" .write
  let comments ← env.descriptor "JJS_CHECKER_COMMENT" .write
  return { test, correct, solution, verdict, comments }

/-- The comment channels that a valuer is given. -/
structure ValuerDescriptors where
  publicComments : Int
  privateComments : Int
  deriving DecidableEq, Repr

/-- What a valuer opens, in this order. -/
def ValuerDescriptors.wanted : List (String × Direction) :=
  [("JJS_VALUER_COMMENT_PUB", .write), ("JJS_VALUER_COMMENT_PRIV", .write)]

/-- The valuer's descriptors, the public one resolved first. -/
def ValuerDescriptors.resolve (env : Environment) : Except Fault ValuerDescriptors := do
  let publicComments ← env.descriptor "JJS_VALUER_COMMENT_PUB" .write
  let privateComments ← env.descriptor "JJS_VALUER_COMMENT_PRIV" .write
  return { publicComments, privateComments }

end Jury.Launch
