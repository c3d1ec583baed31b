/-!
# Outcomes and status kinds

The two closed taxonomies of the judge: what a checker says about an answer, and how a finished
test is reported to a valuer. Both travel by name.
-/

namespace Jury

/-- A checker's verdict on one answer. -/
inductive Outcome where
  | ok
  | wrongAnswer
  | presentationError
  | checkerLogicError
  deriving DecidableEq, Repr

namespace Outcome

def all : List Outcome :=
  [ok, wrongAnswer, presentationError, checkerLogicError]

/-- The name an outcome travels by. -/
def name : Outcome → String
  | ok => "Ok"
  | wrongAnswer => "WrongAnswer"
  | presentationError => "PresentationError"
  | checkerLogicError => "CheckerLogicError"

def ofName? (name : String) : Option Outcome :=
  all.find? (·.name == name)

end Outcome

/-- How a finished test is classified for a valuer. -/
inductive StatusKind where
  | accepted
  | rejected
  | internalError
  | skipped
  deriving DecidableEq, Repr

namespace StatusKind

def all : List StatusKind :=
  [accepted, rejected, internalError, skipped]

/-- The name a kind travels by. -/
def name : StatusKind → String
  | accepted => "Accepted"
  | rejected => "Rejected"
  | internalError => "InternalError"
  | skipped => "Skipped"

def ofName? (name : String) : Option StatusKind :=
  all.find? (·.name == name)

/-- Only an accepted test is passed. -/
def isPassed (kind : StatusKind) : Bool :=
  kind == accepted

end StatusKind

end Jury
