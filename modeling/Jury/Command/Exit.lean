import Jury.Command.Line
import Jury.Launch.Station
import Jury.Text.Utf8

/-!
# The end of a program

How a program ends: its exit status, and what its descriptors hold. A program that finds its
launch or its harness at fault says so on the standard error and exits with status 1, unless the
standard error was one of the descriptors that it had closed by then.
-/

namespace Jury.Command

open Jury.Launch

structure Exit where
  status : Nat
  files : Descriptors
  deriving DecidableEq, Repr

namespace Exit

/-- Ends with a text on a descriptor. -/
def saying (status : Nat) (number : Int) (text : String) (files : Descriptors) : Exit :=
  ⟨status, files.write number (Utf8.encode text)⟩

/-- Ends over a fault that cannot be recovered from. -/
def fatal (message : String) (files : Descriptors) : Exit :=
  saying 1 2 ("fatal error: " ++ message ++ "\n") files

/-- Ends a checker with what came of it. A checker whose verdict cannot be written closes its
descriptors first. -/
def ofChecker (d : CheckerDescriptors) (files : Descriptors) :
    Except Checker.Crash Outcome → Exit
  | .ok _ => ⟨0, files⟩
  | .error (.verdictUnwritable cause) =>
    .fatal (Checker.Crash.verdictUnwritable cause).message (files.close d.numbers)
  | .error crash => .fatal crash.message files

def inquiry (spec : Spec) (inquiry : Inquiry) (files : Descriptors) : Exit :=
  saying 0 1 (inquiry.answer spec) files

/-- Ends over a command line that cannot be run. -/
def usage (spec : Spec) (fault : LineFault) (files : Descriptors) : Exit :=
  saying 2 2 (fault.message spec) files

end Exit

end Jury.Command
