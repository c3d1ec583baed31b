import Jury.Valuer.Session

/-!
# Judging

A scoring policy is led through a session by what the harness says. The policy is consulted before
the number of tests is known, when it is known, and for each finished test; it must leave each of
the latter two with a test pending or the session finished. Judging goes line by line, so what has
happened never depends on lines that are yet to come.
-/

namespace Jury.Valuer

open Jury.Control

/-- A scoring policy, with a state of its own: what it does when it is consulted. Each callback
ends with its result and the policy's new state. -/
structure Policy (R A σ : Type) where
  prepare : View → σ → Dialogue R A (Except Fault Unit × σ) := fun _ s => .done (.ok (), s)
  start : View → σ → Dialogue R A (Except Fault Unit × σ)
  testEnded : TestEntry → View → σ → Dialogue R A (Except Fault Unit × σ)

/-- The occasions on which a policy is consulted. -/
inductive Occasion where
  | prepare
  | start
  | testEnded
  deriving DecidableEq, Repr

/-- One consultation: the session before it and after it. -/
structure Consultation where
  occasion : Occasion
  before : Session
  after : Session

/-- What judging waits for. -/
inductive Status where
  | counting
  | judging
  | over (result : Except Fault Unit)
  deriving Repr

/-- Judging so far. -/
structure Run (σ : Type) where
  policy : σ
  session : Session
  status : Status
  /-- The consultations, last first. -/
  consultations : List Consultation := []

/-- What the harness says next: a line, which may not be UTF-8, or that there is nothing more. -/
inductive Heard where
  | line (text : Option String)
  | ended
  deriving DecidableEq, Repr

namespace Run

variable {R A σ : Type}

def stop (run : Run σ) (result : Except Fault Unit) : Run σ :=
  { run with status := .over result }

def enter (run : Run σ) (stage : Stage) : Run σ :=
  { run with session := { run.session with stage } }

/-- Consults the policy, whose requests `answer` answers. -/
def consult (answer : R → Session → A × Session) (occasion : Occasion)
    (callback : View → σ → Dialogue R A (Except Fault Unit × σ)) (run : Run σ) :
    Except Fault Unit × Run σ :=
  let ((result, policy), session) :=
    (callback run.session.view run.policy).run answer run.session
  (result,
    { run with
      policy
      session
      consultations := ⟨occasion, run.session, session⟩ :: run.consultations })

/-- Goes on after a consultation that should have left a test pending or the session finished. -/
def proceed (idle : ContractFault) (run : Run σ) : Run σ :=
  if run.session.isFinished then { run with session := run.session.flushComments }.stop (.ok ())
  else if run.session.pending.isEmpty then run.stop (.error (.contract idle))
  else { run.enter .running with status := .judging }

def begin (answer : R → Session → A × Session) (policy : Policy R A σ) (state : σ)
    (session : Session) : Run σ :=
  let run : Run σ := { policy := state, session, status := .counting }
  match run.consult answer .prepare policy.prepare with
  | (.error fault, run) => run.stop (.error fault)
  | (.ok (), run) => run.enter .awaitingTestCount

def hearCount (answer : R → Session → A × Session) (policy : Policy R A σ) (line : String)
    (run : Run σ) : Run σ :=
  match Text.word? line with
  | none => run.stop (.error (.protocol (.countNotNumber line)))
  | some tests =>
    if tests = 0 then run.stop (.error (.protocol .noTests))
    else
      let run := { run with session := { run.session with tests, stage := .awaitingBegin } }
      match run.consult answer .start policy.start with
      | (.error fault, run) => run.stop (.error fault)
      | (.ok (), run) => run.proceed .nothingSelected

/-- Takes the result of a pending test into the session. -/
def deliver (run : Run σ) (result : Notification) : Run σ :=
  let session := run.session.record (.delivered result)
  { run with session := { session with pending := session.pending.erase result.test } }

def hearResult (answer : R → Session → A × Session) (policy : Policy R A σ) (line : String)
    (run : Run σ) : Run σ :=
  match Notification.parse line with
  | .error fault => run.stop (.error fault)
  | .ok result =>
    if result.test < 1 ∨ run.session.tests < result.test then
      run.stop (.error (.protocol (.resultOutOfRange result.test run.session.tests)))
    else if !run.session.pending.contains result.test then
      run.stop (.error (.protocol (.resultNotPending result.test)))
    else
      let entry : TestEntry :=
        { test := result.test, statusCode := result.statusCode, kind := result.kind }
      match (run.deliver result).consult answer .testEnded (policy.testEnded entry) with
      | (.error fault, run) => run.stop (.error fault)
      | (.ok (), run) => run.proceed (.stalled result.test)

/-- Hears what the harness says next. Once judging is over nothing is heard. -/
def hear (answer : R → Session → A × Session) (policy : Policy R A σ) (heard : Heard)
    (run : Run σ) : Run σ :=
  match run.status, heard with
  | .over _, _ => run
  | _, .line none => run.stop (.error (.io .notUtf8))
  | .counting, .line (some line) => run.hearCount answer policy line
  | .judging, .line (some line) => run.hearResult answer policy line
  | .counting, .ended => run.stop (.error (.protocol .closedBeforeCount))
  | .judging, .ended =>
    run.stop (.error (.protocol (.closedWhileOutstanding run.session.pending.length)))

/-- Hears lines until judging is over, or else that there are no more. Also counts the bytes left
unread, of `left` ones that the lines were read from. -/
def hearAll (answer : R → Session → A × Session) (policy : Policy R A σ) (run : Run σ)
    (left : Nat) : List Line → Run σ × Nat
  | [] => match run.status with
    | .over _ => (run, left)
    | _ => (run.hear answer policy .ended, 0)
  | line :: lines =>
    match run.status with
    | .over _ => (run, left)
    | _ => (run.hear answer policy (.line line.text)).hearAll answer policy (left - line.size) lines

end Run

/-- Judges with a policy on what the harness says. Also counts the bytes left unread. -/
def judge {R A σ : Type} (answer : R → Session → A × Session) (policy : Policy R A σ) (state : σ)
    (session : Session) (input : List UInt8) : Run σ × Nat :=
  (Run.begin answer policy state session).hearAll answer policy input.length (Line.all input)

end Jury.Valuer
