import Jury.Channel
import Jury.Control.Notification
import Jury.Control.Response
import Jury.Dialogue

/-!
# Valuer sessions

A session is what a scoring policy can do, and what has happened so far. A policy asks for tests,
reports a live score, and ends the session with a final score and a judge log; it may build that
log in the session, and it writes comments for the contestant and for the judges. A request that
the session refuses changes nothing.

The session remembers what it wrote and was told as a history. The texts of the three channels are
views of that history.
-/

namespace Jury.Valuer

open Jury.Control

inductive Pipe where
  | control
  | publicComments
  | privateComments
  deriving DecidableEq, Repr

/-- Something for each of the three channels. -/
structure PerPipe (α : Type) where
  control : α
  publicComments : α
  privateComments : α

namespace PerPipe

variable {α : Type}

def get (p : PerPipe α) : Pipe → α
  | .control => p.control
  | .publicComments => p.publicComments
  | .privateComments => p.privateComments

def set (p : PerPipe α) (pipe : Pipe) (value : α) : PerPipe α :=
  match pipe with
  | .control => { p with control := value }
  | .publicComments => { p with publicComments := value }
  | .privateComments => { p with privateComments := value }

@[simp]
theorem get_set_self (p : PerPipe α) (pipe : Pipe) (value : α) :
    (p.set pipe value).get pipe = value := by
  cases pipe <;> rfl

@[simp]
theorem get_set_of_ne (p : PerPipe α) {pipe other : Pipe} (value : α) (h : other ≠ pipe) :
    (p.set pipe value).get other = p.get other := by
  cases pipe <;> cases other <;> first | rfl | exact absurd rfl h

end PerPipe

inductive Event where
  /-- A message was written and flushed. -/
  | sent (response : Response)
  /-- Writing or flushing a message failed after this much of it. -/
  | torn (text : String)
  /-- This text reached a comment channel. -/
  | commented (pipe : Pipe) (text : String)
  /-- A result was handed to the policy. -/
  | delivered (result : Notification)
  deriving DecidableEq, Repr

/-- What an event puts on a channel. -/
def Event.text (pipe : Pipe) : Event → String
  | sent response => if pipe = .control then response.render else ""
  | torn text => if pipe = .control then text else ""
  | commented channel text => if pipe = channel then text else ""
  | delivered _ => ""

/-- What a history, given last event first, has put on a channel. -/
def writtenText (pipe : Pipe) : List Event → String
  | [] => ""
  | event :: events => writtenText pipe events ++ event.text pipe

structure Session where
  stage : Stage := .awaitingInit
  /-- The number of tests of the problem; zero until it is known. -/
  tests : UInt32 := 0
  /-- The tests that were asked for and not yet reported, each once. -/
  pending : List UInt32 := []
  log : JudgeLog := {}
  /-- What happened, last event first. -/
  history : List Event := []
  health : PerPipe Health := ⟨.sound, .sound, .sound⟩

namespace Session

def written (s : Session) (pipe : Pipe) : String :=
  writtenText pipe s.history

/-- Whether the final score was sent. -/
def isFinished (s : Session) : Bool :=
  s.stage == .finished

/-- Whether messages may be sent. -/
def isOpen (s : Session) : Bool :=
  s.stage == .awaitingBegin || s.stage == .running

/-- Uses a channel once: what befalls the operation, and the session after it. -/
def use (s : Session) (pipe : Pipe) (op : Operation) : Option Breakage × Session :=
  let (breakage, health) := (s.health.get pipe).next op
  (breakage, { s with health := s.health.set pipe health })

def record (s : Session) (event : Event) : Session :=
  { s with history := event :: s.history }

/-- Writes a message to the control channel, a line at a time, and flushes it. -/
def send (s : Session) (response : Response) : Except Fault Unit × Session :=
  let (result, channel) := Channel.deliver { health := s.health.control } response.pieces
  let s := { s with health.control := channel.health }
  match result with
  | .ok () => (.ok (), s.record (.sent response))
  | .error cause => (.error (.io cause), s.record (.torn channel.text))

/-- Asks for a test. It must be one of the problem's and must not be pending. -/
def select (s : Session) (test : UInt32) (live : Bool) : Except Fault Unit × Session :=
  if !s.isOpen then (.error (.contract (.selectIn s.stage)), s)
  else if test < 1 ∨ s.tests < test then (.error (.contract (.testOutOfRange test s.tests)), s)
  else if s.pending.contains test then (.error (.contract (.alreadyRequested test)), s)
  else
    match s.send (.test test live) with
    | (.ok (), s) => (.ok (), { s with pending := test :: s.pending })
    | (.error fault, s) => (.error fault, s)

def reportLive (s : Session) (score : UInt32) : Except Fault Unit × Session :=
  if !s.isOpen then (.error (.contract (.liveScoreIn s.stage)), s)
  else s.send (.liveScore score)

/-- Ends the session with a score and a judge log. -/
def finish (s : Session) (score : UInt32) (full : Bool) (log : JudgeLog) :
    Except Fault Unit × Session :=
  if !s.isOpen then (.error (.contract (.finishIn s.stage)), s)
  else
    match log.validate with
    | .error fault => (.error fault, s)
    | .ok () =>
      match s.send (.finish score full log) with
      | (.ok (), s) => (.ok (), { s with stage := .finished })
      | (.error fault, s) => (.error fault, s)

/-- Writes a comment line; one that cannot be written is lost. -/
def comment (s : Session) (pipe : Pipe) (text : String) : Session :=
  let line := text ++ "\n"
  match s.use pipe .write with
  | (none, s) => s.record (.commented pipe line)
  | (some b, s) => s.record (.commented pipe (String.ofList (line.toList.take b.taken)))

/-- Flushes the comment channels; a failure is of no consequence. -/
def flushComments (s : Session) : Session :=
  ((s.use .publicComments .flush).2.use .privateComments .flush).2

end Session

/-! ### Requests -/

/-- The two comment channels, by who reads them. -/
inductive Audience where
  | contestant
  | judges
  deriving DecidableEq, Repr

def Audience.pipe : Audience → Pipe
  | contestant => .publicComments
  | judges => .privateComments

/-- What a policy can ask of the session. -/
inductive Request where
  | select (test : UInt32) (live : Bool)
  | reportLive (score : UInt32)
  | finish (score : UInt32) (full : Bool) (log : JudgeLog)
  | comment (audience : Audience) (text : String)
  /-- Replaces the judge log that the session keeps for the policy. -/
  | setLog (log : JudgeLog)
  deriving DecidableEq, Repr

/-- What a policy sees of the session. -/
structure View where
  stage : Stage
  tests : UInt32
  outstanding : Nat
  log : JudgeLog
  deriving DecidableEq, Repr

def Session.view (s : Session) : View :=
  ⟨s.stage, s.tests, s.pending.length, s.log⟩

/-- The answer to a request: whether it was granted, and the view after it. -/
structure Reply where
  result : Except Fault Unit
  view : View
  deriving Repr

/-- What a request does to a session. -/
def Session.perform (s : Session) : Request → Except Fault Unit × Session
  | .select test live => s.select test live
  | .reportLive score => s.reportLive score
  | .finish score full log => s.finish score full log
  | .comment audience text => (.ok (), s.comment audience.pipe text)
  | .setLog log => (.ok (), { s with log })

/-- The answer to a request, and the session after it. -/
def Session.answer (request : Request) (s : Session) : Reply × Session :=
  let (result, s) := s.perform request
  (⟨result, s.view⟩, s)

end Jury.Valuer
