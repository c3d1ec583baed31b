import Jury.Checker.Tokens
import Jury.Command.Exit

/-!
# The token checker as a program

A faulty command line of the token checker is the problem package's fault and still yields a
verdict.
-/

namespace Jury.Command.CmpTokens

open Jury.Checker Jury.Launch

def spec : Spec where
  name := "cmp-tokens"
  versionName := "cmp-tokens"
  options := [
    ⟨"epsilon", some "EPSILON", "Compare decimal tokens with this tolerance"⟩,
    ⟨"ignore-case", none, "Compare tokens ignoring ASCII case"⟩]

/-- The tolerance that a text stands for: a finite number that is not negative. -/
def tolerance? (text : String) : Option Binary64 :=
  (Binary64.parse? (Text.trim text)).filter fun x => x.isFinite && x.isNonNegative

/-- What the command line says of the comparison: the text of a tolerance, if there is one, and
whether the case of letters is ignored. -/
structure Arguments where
  epsilon : Option String := none
  ignoreCase : Bool := false
  deriving DecidableEq, Repr

def Arguments.ofGiven (given : List (String × Option String)) : Arguments where
  epsilon := (given.lookup "epsilon").join
  ignoreCase := (given.lookup "ignore-case").isSome

/-- The comparison that the arguments ask for, or why there is none. -/
def compareOptions (arguments : Arguments) : Except String CompareOptions :=
  match arguments.epsilon with
  | none => .ok { ignoreCase := arguments.ignoreCase }
  | some text =>
    match tolerance? text with
    | some tolerance => .ok { tolerance := some tolerance, ignoreCase := arguments.ignoreCase }
    | none => .error (text ++ " is not valid epsilon value")

def trimEnd (text : String) : String :=
  String.ofList (text.toList.reverse.dropWhile Text.isBlank).reverse

/-- Checks with the given options, or judges the checker itself to be at fault. -/
def check (options : Except String CompareOptions) (s : Session) :
    Except Crash Outcome × Session :=
  match options with
  | .error message => (s.comment ("fatal: " ++ trimEnd message)).finish (.ok .checkerLogicError)
  | .ok options =>
    let (result, s) := checkTokens options s
    s.finish result

def launch (options : Except String CompareOptions) (env : Environment) : Exit :=
  match CheckerDescriptors.resolve env with
  | .error fault =>
    .fatal fault.message (env.close (env.opened CheckerDescriptors.wanted)).descriptors
  | .ok d =>
    let (result, s) := check options (d.session env.descriptors)
    .ofChecker d (d.settle s env.descriptors) result

def run (arguments : List String) (env : Environment) : Exit :=
  match spec.read arguments with
  | .inquiry inquiry => .inquiry spec inquiry env.descriptors
  | .fault fault => launch (.error (fault.message spec)) env
  | .run given => launch (compareOptions (.ofGiven given)) env

end Jury.Command.CmpTokens
