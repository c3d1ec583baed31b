import Jury.Valuer.Talk

/-!
# The policy of ICPC contests

Tests are run in order, and the first failure ends judging. The policy's state is the judge log.
-/

namespace Jury.Valuer.Icpc

open Jury.Control

/-- The score of a solution that passes every test. -/
def fullScore : UInt32 := 100

/-- The state in which judging begins: an empty log. -/
def fresh : JudgeLog :=
  { name := "main" }

/-- The entry of a finished test in the judge log: what failed is shown whole. -/
def logged (entry : TestEntry) : TestEntry :=
  { entry with
    score := some 0
    parts :=
      if entry.kind.isPassed then entry.parts ||| PartKind.testData else PartKind.test.allBits }

def start (log : JudgeLog) : Talk (Except Fault Unit × JudgeLog) := do
  return (← Talk.select 1 true, log)

/-- Goes on to the next test, or ends judging after a failure and after the last test. -/
def testEnded (entry : TestEntry) (view : View) (log : JudgeLog) :
    Talk (Except Fault Unit × JudgeLog) := do
  let log := log.addTest (logged entry)
  if !entry.kind.isPassed then
    Talk.comment .contestant
      ("solution failed on test " ++ toString entry.test ++ ": (status " ++ entry.statusCode ++ ")")
    return (← Talk.finish 0 false log, {})
  else if entry.test = view.tests then
    Talk.comment .contestant "ok, all tests passed"
    return (← Talk.finish fullScore true log, {})
  else return (← Talk.select (entry.test + 1) true, log)

def policy : Scorer JudgeLog where
  start _ := start
  testEnded := testEnded

end Jury.Valuer.Icpc
