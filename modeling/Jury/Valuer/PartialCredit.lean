import Jury.Valuer.Talk

/-!
# The policy of partial credit

Every test is run, in order, and the score is the share of accepted tests. The policy's state is
the number of accepted tests; the judge log is kept by the session.
-/

namespace Jury.Valuer.PartialCredit

open Jury.Control

/-- The share of accepted tests in percent, rounded down. -/
def score (accepted tests : UInt32) : UInt32 :=
  (accepted.toUInt64 * 100 / tests.toUInt64).toUInt32

/-- The entry of a finished test in the judge log. -/
def logged (entry : TestEntry) : TestEntry :=
  { entry with
    score := some (if entry.kind.isPassed then 1 else 0)
    parts := entry.parts ||| PartKind.testData }

/-- Names the judge log and asks for the first test. -/
def start (view : View) (accepted : UInt32) : Talk (Except Fault Unit × UInt32) := do
  Talk.setLog { view.log with name := "main" }
  return (← Talk.select 1 true, accepted)

/-- Reports the score so far, then goes on to the next test or, after the last one, ends
judging. -/
def testEnded (entry : TestEntry) (view : View) (accepted : UInt32) :
    Talk (Except Fault Unit × UInt32) := do
  let accepted := if entry.kind.isPassed then accepted + 1 else accepted
  if !entry.kind.isPassed then
    Talk.comment .judges ("test " ++ toString entry.test ++ ": " ++ entry.statusCode)
  let log := view.log.addTest (logged entry)
  Talk.setLog log
  let share := score accepted view.tests
  match ← Talk.reportLive share with
  | .error fault => return (.error fault, accepted)
  | .ok () =>
    if entry.test < view.tests then return (← Talk.select (entry.test + 1) true, accepted)
    else
      Talk.comment .contestant
        ("passed " ++ toString accepted ++ " of " ++ toString view.tests ++ " tests")
      Talk.setLog {}
      return (← Talk.finish share (accepted == view.tests) log, accepted)

def policy : Scorer UInt32 where
  start := start
  testEnded := testEnded

end Jury.Valuer.PartialCredit
