import Jury.Control.Notification
import Jury.Control.Response
import Jury.Json.Library

/-!
# Messages as JSON

The JSON form of messages. It keeps what does not travel to the harness: the name of a judge log
and the scores of its tests, where a test without a score has no such field. What the records are is
declared for every library and every way to write sets of parts.
-/

namespace Jury.Control

open Json (Codec Fields Library Variants)

section

variable (L : Library) (parts : PartKind → Codec L.Value UInt32)

/-! ### Judge logs -/

/-- A status kind has nothing but its name. -/
def kindCodec : Codec L.Value StatusKind :=
  L.named StatusKind.name StatusKind.ofName?

def TestEntry.shape :
    Fields L.Value (UInt32 × String × StatusKind × UInt32 × Option UInt32 × Unit) :=
  .required "test_id" L.word <|
  .required "status_code" L.text <|
  .required "status_kind" (kindCodec L) <|
  .required "components" (parts .test) <|
  .optional "score" (L.option L.word) .nil

def TestEntry.codec : Codec L.Value TestEntry :=
  (L.record (shape L parts)).map
    (fun e => (e.test, e.statusCode, e.kind, e.parts, e.score, ()))
    fun (test, statusCode, kind, parts, score, ()) => { test, statusCode, kind, parts, score }

def SubtaskEntry.shape : Fields L.Value (UInt32 × UInt32 × UInt32 × Unit) :=
  .required "subtask_id" L.word <|
  .required "score" L.word <|
  .required "components" (parts .subtask) .nil

def SubtaskEntry.codec : Codec L.Value SubtaskEntry :=
  (L.record (shape L parts)).map (fun e => (e.subtask, e.score, e.parts, ()))
    fun (subtask, score, parts, ()) => { subtask, score, parts }

def JudgeLog.shape : Fields L.Value (String × List TestEntry × List SubtaskEntry × Unit) :=
  .required "name" L.text <|
  .required "tests" (L.list (TestEntry.codec L parts)) <|
  .required "subtasks" (L.list (SubtaskEntry.codec L parts)) .nil

def JudgeLog.codec : Codec L.Value JudgeLog :=
  (L.record (shape L parts)).map (fun log => (log.name, log.tests, log.subtasks, ()))
    fun (name, tests, subtasks, ()) => { name, tests, subtasks }

/-! ### Messages -/

/-- The data of a message, kind by kind. -/
abbrev Response.Data : Type :=
  (UInt32 × Bool × Unit) ⊕ (UInt32 × Unit) ⊕ (UInt32 × Bool × JudgeLog × Unit) ⊕ Empty

namespace Response

def data : Response → Data
  | test id live => .inl (id, live, ())
  | liveScore score => .inr (.inl (score, ()))
  | finish score full log => .inr (.inr (.inl (score, full, log, ())))

def ofData : Data → Response
  | .inl (id, live, ()) => test id live
  | .inr (.inl (score, ())) => liveScore score
  | .inr (.inr (.inl (score, full, log, ()))) => finish score full log

def variants : Variants L.Value Data :=
  .cons "Test" (.required "test_id" L.word <| .required "live" L.bool .nil) <|
  .cons "LiveScore" (.required "score" L.word .nil) <|
  .cons "Finish" (.required "score" L.word <| .required "treat_as_full" L.bool <|
    .required "judge_log" (JudgeLog.codec L parts) .nil) .nil

def codec : Codec L.Value Response :=
  (L.variant (variants L parts)).map data ofData

/-- A message as JSON text. -/
def toText (r : Response) : String :=
  L.print ((codec L parts).write r)

/-- The message that a JSON text stands for. -/
def ofText? (text : String) : Option Response := do
  (codec L parts).read? (← L.parse? text)

end Response

def Notification.shape : Fields L.Value (UInt32 × StatusKind × String × Unit) :=
  .required "test_id" L.word <|
  .required "status_kind" (kindCodec L) <|
  .required "status_code" L.text .nil

def Notification.codec : Codec L.Value Notification :=
  (L.record (shape L)).map (fun n => (n.test, n.kind, n.statusCode, ()))
    fun (test, kind, statusCode, ()) => { test, kind, statusCode }

end

/-! ### The library that runs -/

/-- A set of parts as its text. -/
def PartKind.codec (kind : PartKind) : Codec Json UInt32 where
  write set := .ofString (kind.render set)
  read? value := do kind.parse? (← value.toText?)

def Response.toJson (r : Response) : Json :=
  (codec Json.library PartKind.codec).write r

def Response.parseJson? (text : String) : Option Response :=
  ofText? Json.library PartKind.codec text

def Notification.toJson (n : Notification) : Json :=
  (codec Json.library).write n

end Jury.Control
