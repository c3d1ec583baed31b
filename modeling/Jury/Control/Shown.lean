import Jury.Control.Notification
import Jury.Control.Response
import Jury.Text.Quoted

/-!
# Messages shown to a person

Each value is shown on one line, a record as its name and its fields between braces, texts quoted.
-/

namespace Jury.Control

open Jury.Text (quoted)

/-- A record: its name, and the name and the shown value of each field. -/
def shownRecord (name : String) (fields : List (String × String)) : String :=
  name ++ " \x7b " ++ String.intercalate ", " (fields.map fun (key, value) => key ++ ": " ++ value)
    ++ " \x7d"

def shownList (items : List String) : String :=
  "[" ++ String.intercalate ", " items ++ "]"

/-- A value that may be missing. -/
def shownOption : Option UInt32 → String
  | none => "None"
  | some n => "Some(" ++ toString n ++ ")"

def TestEntry.shown (e : TestEntry) : String :=
  shownRecord "JudgeLogTestEntry" [
    ("test_id", toString e.test),
    ("status_code", quoted e.statusCode),
    ("status_kind", e.kind.name),
    ("components", PartKind.test.shown e.parts),
    ("score", shownOption e.score)]

def SubtaskEntry.shown (e : SubtaskEntry) : String :=
  shownRecord "JudgeLogSubtaskEntry" [
    ("subtask_id", toString e.subtask),
    ("score", toString e.score),
    ("components", PartKind.subtask.shown e.parts)]

def JudgeLog.shown (log : JudgeLog) : String :=
  shownRecord "JudgeLog" [
    ("name", quoted log.name),
    ("tests", shownList (log.tests.map TestEntry.shown)),
    ("subtasks", shownList (log.subtasks.map SubtaskEntry.shown))]

def Response.shown : Response → String
  | test id live => shownRecord "Test" [("test_id", toString id), ("live", toString live)]
  | liveScore score => shownRecord "LiveScore" [("score", toString score)]
  | finish score full log =>
    shownRecord "Finish" [
      ("score", toString score),
      ("treat_as_full", toString full),
      ("judge_log", log.shown)]

def Notification.shown (n : Notification) : String :=
  shownRecord "TestDoneNotification" [
    ("test_id", toString n.test),
    ("status_kind", n.kind.name),
    ("status_code", quoted n.statusCode)]

end Jury.Control
