import Jury.Channel
import Jury.Dialogue
import Jury.Verdict
import Jury.Checker.Scan
import Jury.Checker.TokenReader

/-!
# Checker sessions

A checker reads three streams and ends with one verdict. A stream that ends early, holds a
malformed token or has data left stops the checker with a verdict that names whose fault it is:
the contestant's for their own answer, the problem package's for the test and the correct answer.
What the checker has to say goes to the comment channel, line by line; a comment that cannot be
written is lost, but the channel must be flushed before the verdict is written.
-/

namespace Jury.Checker

/-- One of the three streams that a checker reads. -/
inductive Stream where
  | test
  | correct
  | solution
  deriving DecidableEq, Repr

namespace Stream

/-- The verdict when a stream is not what it should be. -/
def faultOutcome : Stream → Outcome
  | solution => .presentationError
  | test | correct => .checkerLogicError

/-- What a stream is called in comments. -/
def description : Stream → String
  | test => "test file"
  | correct => "correct answer"
  | solution => "provided answer"

/-- How grave a fault of the stream is. -/
def severity : Stream → String
  | solution => "error"
  | test | correct => "fatal"

end Stream

/-- Something for each of the three streams. -/
structure PerStream (α : Type) where
  test : α
  correct : α
  solution : α
  deriving DecidableEq, Repr

namespace PerStream

variable {α : Type}

def get (p : PerStream α) : Stream → α
  | .test => p.test
  | .correct => p.correct
  | .solution => p.solution

def set (p : PerStream α) (stream : Stream) (value : α) : PerStream α :=
  match stream with
  | .test => { p with test := value }
  | .correct => { p with correct := value }
  | .solution => { p with solution := value }

@[simp]
theorem get_set_self (p : PerStream α) (stream : Stream) (value : α) :
    (p.set stream value).get stream = value := by
  cases stream <;> rfl

@[simp]
theorem get_set_of_ne (p : PerStream α) {stream other : Stream} (value : α) (h : other ≠ stream) :
    (p.set stream value).get other = p.get other := by
  cases stream <;> cases other <;> first | rfl | exact absurd rfl h

/-- The sum of a measure over the three streams. -/
def total (measure : α → Nat) (p : PerStream α) : Nat :=
  measure p.test + measure p.correct + measure p.solution

theorem total_set (measure : α → Nat) (p : PerStream α) (stream : Stream) (value : α) :
    (p.set stream value).total measure + measure (p.get stream) =
      p.total measure + measure value := by
  cases stream <;> simp [total, set, get] <;> omega

end PerStream

/-- What ends the whole checker, without a verdict. -/
inductive Crash where
  | unreadable (stream : Stream) (cause : IoFault)
  | verdictUnwritable (cause : IoFault)
  | startedTwice
  deriving DecidableEq, Repr

def Crash.message : Crash → String
  | unreadable stream cause => "failed to read " ++ stream.description ++ ": " ++ cause.message
  | verdictUnwritable cause => "failed to write verdict: " ++ cause.message
  | startedTwice => "checker is initialized twice"

/-- Why a step of a checker has no answer. -/
inductive Stop where
  /-- The checker stops with a verdict. -/
  | rejected (outcome : Outcome)
  | crashed (crash : Crash)
  deriving DecidableEq, Repr

/-- A checker session: for each stream the bytes at hand and the deliveries to come, and the two
channels. Streams that share a descriptor take from one source, that of their `origin`. -/
structure Session where
  held : PerStream (List UInt8) := ⟨[], [], []⟩
  sources : PerStream (List Delivery)
  origin : PerStream Stream := ⟨.test, .correct, .solution⟩
  comments : Channel := {}
  verdict : Channel := {}

/-- The number of bytes that a comment stays below. -/
def commentLimit : Nat := 4096

/-- What marks a comment that was cut. -/
def truncationMarker : String := "... (comment was truncated)"

/-- A comment as it is written: the text itself if it is below the limit, or else as much of it as
stays below it and ends with a whole character, and the mark. -/
def truncateComment (text : String) : String :=
  if text.utf8ByteSize < commentLimit then text
  else
    let bytes := Utf8.encode text
    Utf8.decodeLossy (bytes.take (Utf8.lastBoundary bytes (commentLimit - 1))) ++ truncationMarker

namespace Session

/-- A session over three byte strings, with nothing written yet. -/
def ofBytes (test correct solution : List UInt8) : Session :=
  let deliver := Delivery.ofBytes 8191
  { sources := ⟨deliver test, deliver correct, deliver solution⟩ }

def reader (s : Session) (stream : Stream) : TokenReader :=
  ⟨s.held.get stream, s.sources.get (s.origin.get stream)⟩

def setReader (s : Session) (stream : Stream) (r : TokenReader) : Session :=
  { s with
    held := s.held.set stream r.held
    sources := s.sources.set (s.origin.get stream) r.source }

def comment (s : Session) (text : String) : Session :=
  { s with comments := (s.comments.write (truncateComment text ++ "\n")).2 }

/-- The next token of a stream, or `none` when it is exhausted. -/
def nextToken (s : Session) (stream : Stream) : Except Stop (Option String) × Session :=
  match (s.reader stream).next with
  | (.ok token, r) => (.ok token, s.setReader stream r)
  | (.error cause, r) =>
    (.error (.crashed (.unreadable stream cause)),
      (s.setReader stream r).comment "check_utils: read failed")

/-- Stops the checker over a fault of `stream`, with a comment. -/
def reject (s : Session) (stream : Stream) (text : String) : Stop × Session :=
  (.rejected stream.faultOutcome, s.comment (stream.severity ++ ": " ++ text))

/-- The next token of a stream, read as a value. -/
def scan (s : Session) (stream : Stream) (type : ValueType) : Except Stop Value × Session :=
  match s.nextToken stream with
  | (.error stop, s) => (.error stop, s)
  | (.ok none, s) =>
    let (stop, s) := s.reject stream ("unexpected EOF when reading " ++ stream.description)
    (.error stop, s)
  | (.ok (some token), s) =>
    match type.parse? token with
    | some value => (.ok value, s)
    | none =>
      let (stop, s) :=
        s.reject stream ("malformed token `" ++ token ++ "` in " ++ stream.description)
      (.error stop, s)

/-- Demands that only separators are left in a stream. -/
def checkEnd (s : Session) (stream : Stream) : Except Stop Unit × Session :=
  match (s.reader stream).isAtEnd with
  | (.error cause, r) => (.error (.crashed (.unreadable stream cause)), s.setReader stream r)
  | (.ok true, r) => (.ok (), s.setReader stream r)
  | (.ok false, r) =>
    let (stop, s) := (s.setReader stream r).reject stream (stream.description ++ " has data yet")
    (.error stop, s)

/-- Ends the session: flushes the comments, writes the verdict, and flushes it. -/
def conclude (s : Session) (outcome : Outcome) : Except IoFault Unit × Session :=
  match s.comments.flush with
  | (.error cause, comments) => (.error cause, { s with comments })
  | (.ok (), comments) =>
    match s.verdict.write (Verdict.render outcome) with
    | (.error cause, verdict) => (.error cause, { s with comments, verdict })
    | (.ok (), verdict) =>
      let (flushed, verdict) := verdict.flush
      (flushed, { s with comments, verdict })

end Session

/-! ### Requests -/

/-- What a checker's logic can ask of its session. -/
inductive Request where
  | next (stream : Stream)
  | scan (stream : Stream) (type : ValueType)
  | checkEnd (stream : Stream)
  | comment (text : String)
  deriving DecidableEq, Repr

/-- What the session answers. -/
inductive Answer where
  | token (token : Option String)
  | value (value : Value)
  | done
  deriving DecidableEq, Repr

def Session.answer (request : Request) (s : Session) : Except Stop Answer × Session :=
  match request with
  | .next stream => let (r, s) := s.nextToken stream; (r.map .token, s)
  | .scan stream type => let (r, s) := s.scan stream type; (r.map .value, s)
  | .checkEnd stream => let (r, s) := s.checkEnd stream; (r.map fun _ => .done, s)
  | .comment text => (.ok .done, s.comment text)

/-- A checker's logic: it asks, is answered, and ends with a verdict or a stop. -/
abbrev Logic := Dialogue Request (Except Stop Answer) (Except Stop Outcome)

/-- Makes requests one after the other and ends at the first one that stops the checker, or else
with `outcome`. -/
def Logic.ofRequests (outcome : Outcome) : List Request → Logic
  | [] => .done (.ok outcome)
  | request :: requests => .ask request fun
    | .error stop => .done (.error stop)
    | .ok _ => Logic.ofRequests outcome requests

/-- The verdict that a checker's logic reaches, unless it crashes. -/
def reached : Except Stop Outcome → Except Crash Outcome
  | .ok outcome => .ok outcome
  | .error (.rejected outcome) => .ok outcome
  | .error (.crashed crash) => .error crash

/-- Ends a session with the verdict that was reached. -/
def Session.finish (s : Session) (result : Except Stop Outcome) :
    Except Crash Outcome × Session :=
  match reached result with
  | .error crash => (.error crash, s)
  | .ok outcome =>
    match s.conclude outcome with
    | (.ok (), s) => (.ok outcome, s)
    | (.error cause, s) => (.error (.verdictUnwritable cause), s)

/-- Runs a checker's logic and writes the verdict that it reaches. -/
def Session.evaluate (s : Session) (logic : Logic) : Except Crash Outcome × Session :=
  let (result, s) := logic.run Session.answer s
  s.finish result

end Jury.Checker
