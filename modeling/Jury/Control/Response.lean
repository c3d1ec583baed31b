import Jury.Control.Field
import Jury.Control.Line
import Jury.Control.Visibility

/-!
# Messages to the harness

What a valuer tells the harness, and how it travels: one line for a request to run a test and for
a live score, and for the end of judging a line followed by the judge log, whose entries are
announced by their number. Reading a stream of messages is done line by line; between lines, all
that is known of an unfinished message is a `Block`.
-/

namespace Jury.Control

open Jury.Text (fields)

/-- One test in a judge log. -/
structure TestEntry where
  test : UInt32
  statusCode : String
  kind : StatusKind
  /-- The parts of the test that may be shown. -/
  parts : UInt32 := 0
  /-- What the test adds to the score; it does not travel. -/
  score : Option UInt32 := none
  deriving DecidableEq, Repr

/-- One subtask in a judge log. -/
structure SubtaskEntry where
  subtask : UInt32
  score : UInt32
  /-- The parts of the subtask that may be shown. -/
  parts : UInt32
  deriving DecidableEq, Repr

/-- The record of a judging. -/
structure JudgeLog where
  /-- The name does not travel. -/
  name : String := ""
  tests : List TestEntry := []
  subtasks : List SubtaskEntry := []
  deriving DecidableEq, Repr

def JudgeLog.addTest (log : JudgeLog) (entry : TestEntry) : JudgeLog :=
  { log with tests := log.tests ++ [entry] }

def JudgeLog.addSubtask (log : JudgeLog) (entry : SubtaskEntry) : JudgeLog :=
  { log with subtasks := log.subtasks ++ [entry] }

/-- A message from a valuer to the harness. -/
inductive Response where
  | test (test : UInt32) (live : Bool)
  | liveScore (score : UInt32)
  | finish (score : UInt32) (full : Bool) (log : JudgeLog)
  deriving DecidableEq, Repr

/-! ### Writing -/

def TestEntry.render (e : TestEntry) : String :=
  toString e.test ++ " " ++ e.kind.name ++ " " ++ e.statusCode ++ " " ++ toString e.parts ++ "\n"

def SubtaskEntry.render (e : SubtaskEntry) : String :=
  toString e.subtask ++ " " ++ toString e.score ++ " " ++ toString e.parts ++ "\n"

/-- A row of entries: their number, and a line for each. -/
def renderEntries {α : Type} (render : α → String) (entries : List α) : String :=
  toString entries.length ++ "\n" ++ String.join (entries.map render)

def JudgeLog.render (log : JudgeLog) : String :=
  renderEntries TestEntry.render log.tests ++ renderEntries SubtaskEntry.render log.subtasks

/-- A message as it travels. -/
def Response.render : Response → String
  | test id live => "RUN " ++ toString id ++ " " ++ renderFlag live ++ "\n"
  | liveScore score => "LIVE-SCORE " ++ toString score ++ "\n"
  | finish score full log =>
    "DONE " ++ toString score ++ " " ++ renderFlag full ++ "\n" ++ log.render

/-- The texts that a row of entries is written in. -/
def entryPieces {α : Type} (render : α → String) (entries : List α) : List String :=
  (toString entries.length ++ "\n") :: entries.map render

/-- The texts that a message is written in, one after another: one for each of its lines. -/
def Response.pieces : Response → List String
  | test id live => [(test id live).render]
  | liveScore score => [(liveScore score).render]
  | finish score full log =>
    ("DONE " ++ toString score ++ " " ++ renderFlag full ++ "\n") ::
      (entryPieces TestEntry.render log.tests ++ entryPieces SubtaskEntry.render log.subtasks)

/-- A judge log can travel if every status code can. -/
def JudgeLog.validate (log : JudgeLog) : Except Fault Unit :=
  log.tests.forM fun entry => checkStatusCode entry.statusCode

/-! ### Reading -/

/-- A set of parts without undeclared ones. -/
def partsField (kind : PartKind) (fault : UInt32 → ProtocolFault) (what item : String) :
    Except Fault UInt32 := do
  let parts ← wordField what item
  if kind.declares parts then return parts else throw (.protocol (fault parts))

def TestEntry.parse (line : String) : Except Fault TestEntry :=
  match fields line with
  | [test, kind, code, parts] => do
    let test ← wordField "test id" test
    let kind ← kindField kind
    let parts ← partsField .test .unknownTestParts "test flags" parts
    return { test, kind, statusCode := code, parts }
  | items => .error (.protocol (.itemCount "test entry" 4 items.length))

def SubtaskEntry.parse (line : String) : Except Fault SubtaskEntry :=
  match fields line with
  | [subtask, score, parts] => do
    let subtask ← wordField "subtask id" subtask
    let score ← wordField "subtask score" score
    let parts ← partsField .subtask .unknownSubtaskParts "subtask flags" parts
    return { subtask, score, parts }
  | items => .error (.protocol (.itemCount "subtask entry" 3 items.length))

/-- The first line of a final message. -/
structure Header where
  score : UInt32
  full : Bool
  deriving DecidableEq, Repr

/-- What is known of an unfinished message: nothing, or its header and the part of the judge log
that has been read, with the number of entries that are still to come. -/
inductive Block where
  | idle
  | testCount (header : Header)
  | tests (header : Header) (left : Nat) (read : List TestEntry)
  | subtaskCount (header : Header) (tests : List TestEntry)
  | subtasks (header : Header) (tests : List TestEntry) (left : Nat) (read : List SubtaskEntry)
  deriving DecidableEq, Repr

namespace Block

/-- What the next line should be, for a message that ends too early. -/
def expected? : Block → Option String
  | idle => none
  | testCount _ => some "test entry count"
  | tests _ _ _ => some "test entry"
  | subtaskCount _ _ => some "subtask entry count"
  | subtasks _ _ _ _ => some "subtask entry"

/-- After `left` test entries that are still to come. -/
def afterTests (header : Header) (left : Nat) (read : List TestEntry) : Block :=
  if left = 0 then subtaskCount header read else tests header left read

/-- After `left` subtask entries that are still to come: the message, when there are none. -/
def afterSubtasks (header : Header) (listed : List TestEntry) (left : Nat)
    (read : List SubtaskEntry) : Option Response × Block :=
  if left = 0 then
    (some (.finish header.score header.full { tests := listed, subtasks := read }), idle)
  else (none, subtasks header listed left read)

/-- The first line of a message. -/
def start (line : String) : Except Fault (Option Response × Block) :=
  match fields line with
  | ["RUN", test, live] => do
    let test ← wordField "RUN test id" test
    let live ← flagField "RUN live" live
    return (some (.test test live), idle)
  | ["LIVE-SCORE", score] => do
    let score ← wordField "LIVE-SCORE score" score
    return (some (.liveScore score), idle)
  | ["DONE", score, full] => do
    let score ← wordField "DONE score" score
    let full ← flagField "DONE treat_as_full" full
    return (none, testCount ⟨score, full⟩)
  | _ => .error (.protocol (.unexpectedResponse line))

/-- One more line: the message that it completes, if any, and what is known after it. Entries are
counted by 64-bit numbers. -/
def feed (line : String) : Block → Except Fault (Option Response × Block)
  | idle => start line
  | testCount header => do
    let count ← numberField UInt64.size "test entry count" line
    return (none, afterTests header count [])
  | tests header left read => do
    let entry ← TestEntry.parse line
    return (none, afterTests header (left - 1) (read ++ [entry]))
  | subtaskCount header listed => do
    let count ← numberField UInt64.size "subtask entry count" line
    return afterSubtasks header listed count []
  | subtasks header listed left read => do
    let entry ← SubtaskEntry.parse line
    return afterSubtasks header listed (left - 1) (read ++ [entry])

/-- One more line of a stream, which may not be UTF-8. -/
def feedLine (line : Line) (block : Block) : Except Fault (Option Response × Block) :=
  match line.text with
  | none => .error (.io .notUtf8)
  | some text => block.feed text

/-- The fault of a stream that ends here, if it must not. -/
def endFault? (block : Block) : Option Fault :=
  block.expected?.map fun what => .protocol (.unexpectedEnd what)

end Block

/-- A stream of messages as it was read: the messages, and the fault that ended it, if any. -/
structure Transcript where
  responses : List Response
  fault : Option Fault
  deriving DecidableEq, Repr

namespace Transcript

/-- The messages of lines that follow an unfinished one. -/
def ofLines (block : Block) : List Line → Transcript
  | [] => ⟨[], block.endFault?⟩
  | line :: lines =>
    match block.feedLine line with
    | .error fault => ⟨[], some fault⟩
    | .ok (none, block) => ofLines block lines
    | .ok (some response, block) =>
      let rest := ofLines block lines
      { rest with responses := response :: rest.responses }

/-- The messages of a control stream. -/
def decode (bytes : List UInt8) : Transcript :=
  ofLines .idle (Line.all bytes)

end Transcript

end Jury.Control
