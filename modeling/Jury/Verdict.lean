import Jury.Outcome
import Jury.Text.Lines

/-!
# The verdict file

A verdict is one line `outcome=<name>`, which the checker writes and the harness reads. Reading
skips blank lines and allows blanks around the tag and its value; the first line that is at fault
decides the error.
-/

namespace Jury

/-- Why a text is no verdict file. Lines are counted from zero, blank ones included. -/
inductive VerdictFault where
  | malformed (line : Nat)
  | unknownTag (line : Nat) (tag : String)
  | tagRedefined
  | tagMissing
  | tagFormat (value : String)
  deriving DecidableEq, Repr

namespace Verdict

open Jury.Text

/-- The only tag of a verdict file. -/
def tag : String := "outcome"

def render (outcome : Outcome) : String :=
  tag ++ "=" ++ outcome.name ++ "\n"

/-- The outcome that a line gives, where `line` is its number and `found` the outcome so far. -/
def readLine (number : Nat) (found : Option Outcome) (line : String) :
    Except VerdictFault Outcome :=
  match splitAtEquals? line with
  | none => .error (.malformed number)
  | some (key, value) =>
    if trim key ≠ tag then .error (.unknownTag number (trim key))
    else
      match Outcome.ofName? (trim value), found with
      | none, _ => .error (.tagFormat (trim value))
      | some _, some _ => .error .tagRedefined
      | some outcome, none => .ok outcome

/-- The outcome that lines numbered from `number` give, after `found`. -/
def readLines (number : Nat) (found : Option Outcome) : List String → Except VerdictFault Outcome
  | [] => match found with
    | none => .error .tagMissing
    | some outcome => .ok outcome
  | line :: rest =>
    if line.toList.all isBlank then readLines (number + 1) found rest
    else
      match readLine number found line with
      | .error fault => .error fault
      | .ok outcome => readLines (number + 1) (some outcome) rest

def parse (text : String) : Except VerdictFault Outcome :=
  readLines 0 none (lines text)

end Verdict

def VerdictFault.message : VerdictFault → String
  | malformed line => "line " ++ toString line ++ ": expected `key=value`"
  | unknownTag line tag => "line " ++ toString line ++ ": unknown tag `" ++ tag ++ "`"
  | tagRedefined => "tag `" ++ Verdict.tag ++ "` is defined twice"
  | tagMissing => "tag `" ++ Verdict.tag ++ "` is missing"
  | tagFormat value => "tag `" ++ Verdict.tag ++ "` has invalid value `" ++ value ++ "`"

end Jury
