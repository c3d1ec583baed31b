import Jury.Number.Parse

/-!
# Comparing tokens

When an answer token matches the expected one. With a tolerance, an expected token that is a plain
decimal is compared as a number; every other token is compared as text.
-/

namespace Jury.Checker

open Jury.Text (isDigit)

/-- How tokens are compared. -/
structure CompareOptions where
  tolerance : Option Binary64 := none
  ignoreCase : Bool := false
  deriving DecidableEq, Repr

/-- Whether two numbers are within `tolerance`: their distance if the expected one is below one in
size, and its share of the expected one otherwise. Only finite numbers are within anything. -/
def withinTolerance (expected actual tolerance : Binary64) : Bool :=
  match expected, actual with
  | .finite m a, .finite n b =>
    let distance := Binary64.distance m a n b
    if a < Binary64.one then distance.le tolerance else (distance.dividedBy a).le tolerance
  | _, _ => false

/-- Whether two texts are equal when the case of ASCII letters is ignored. -/
def equalIgnoringCase (lhs rhs : String) : Bool :=
  lhs.toList.map Char.toLower == rhs.toList.map Char.toLower

/-- Whether a text is a plain decimal: an optional minus sign, digits, and at most one point with
digits on both sides. -/
def isPlainDecimal (token : String) : Bool :=
  let body := match token.toList with
    | '-' :: body => body
    | body => body
  body != [] && body.head? != some '.' && body.getLast? != some '.' &&
    body.all (fun c => isDigit c || c == '.') && body.count '.' ≤ 1

/-- Whether the token `actual` matches the expected one. -/
def tokensMatch (options : CompareOptions) (expected actual : String) : Bool :=
  match options.tolerance, isPlainDecimal expected with
  | some tolerance, true =>
    match Binary64.parse? expected, Binary64.parse? actual with
    | some e, some a => withinTolerance e a tolerance
    | _, _ => false
  | _, _ => if options.ignoreCase then equalIgnoringCase expected actual else expected == actual

end Jury.Checker
