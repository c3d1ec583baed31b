import Jury.Valuer.Run

/-!
# Scripted policies

A policy that follows a script, for rehearsing judging: it takes the steps written down for each
consultation, whatever the session answers, and notes every answer. A step may also break one of
the session's channels, or mend it.
-/

namespace Jury.Valuer.Scripted

open Jury.Control

inductive Step where
  | select (test : UInt32) (live : Bool)
  | reportLive (score : UInt32)
  | finish (score : UInt32) (full : Bool) (log : JudgeLog)
  /-- Ends the session with the log that it keeps, which is emptied. -/
  | finishKept (score : UInt32) (full : Bool)
  | nameLog (name : String)
  | addTest (entry : TestEntry)
  | addSubtask (entry : SubtaskEntry)
  /-- Adds the entry that this consultation is about. -/
  | addEntry
  | dropLog
  | comment (audience : Audience) (text : String)
  | setHealth (pipe : Pipe) (health : Health)
  /-- Ends the consultation with a complaint. -/
  | complain (complaint : String)

/-- The steps for each consultation; those for results in the order in which results come. -/
structure Script where
  prepare : List Step := []
  start : List Step := []
  testEnded : List (List Step) := []
  /-- Whether a refused step ends its consultation. -/
  propagate : Bool := false

/-- What a script asks for: what policies ask for, or another health of a channel. -/
inductive Request where
  | ask (request : Valuer.Request)
  | setHealth (pipe : Pipe) (health : Health)

/-- The answer to what a script asks for. -/
def answer (request : Request) (s : Session) : Reply × Session :=
  match request with
  | .ask request => s.answer request
  | .setHealth pipe health =>
    let s := { s with health := s.health.set pipe health }
    (⟨.ok (), s.view⟩, s)

/-- The notes of a scripted policy: how many results it was told, and the answers to the steps of
each consultation. -/
structure Notes where
  results : Nat := 0
  answers : List (List Reply) := []

/-- What a step does, given the entry that the consultation is about and what was last seen of the
session: the answer that counts. -/
def Step.play (entry : Option TestEntry) (view : View) : Step → Dialogue Request Reply Reply
  | .select test live => Dialogue.request (.ask (.select test live))
  | .reportLive score => Dialogue.request (.ask (.reportLive score))
  | .finish score full log => Dialogue.request (.ask (.finish score full log))
  | .finishKept score full => do
    discard <| Dialogue.request (.ask (.setLog {}))
    Dialogue.request (.ask (.finish score full view.log))
  | .nameLog name => Dialogue.request (.ask (.setLog { view.log with name }))
  | .addTest entry => Dialogue.request (.ask (.setLog (view.log.addTest entry)))
  | .addSubtask entry => Dialogue.request (.ask (.setLog (view.log.addSubtask entry)))
  | .addEntry => Dialogue.request (.ask (.setLog ((entry.map view.log.addTest).getD view.log)))
  | .dropLog => Dialogue.request (.ask (.setLog {}))
  | .comment audience text => Dialogue.request (.ask (.comment audience text))
  | .setHealth pipe health => Dialogue.request (.setHealth pipe health)
  | .complain complaint => pure ⟨.error (.contract (.policy complaint)), view⟩

/-- Whether a step that fails ends its consultation. -/
def Step.isDecisive (propagate : Bool) : Step → Bool
  | .complain _ => true
  | _ => propagate

/-- Takes steps one after the other. The result is the consultation's own, with the answers. -/
def take (propagate : Bool) (entry : Option TestEntry) (view : View) :
    List Step → Dialogue Request Reply (Except Fault Unit × List Reply)
  | [] => pure (.ok (), [])
  | step :: steps => do
    let reply ← step.play entry view
    match step.isDecisive propagate, reply.result with
    | true, .error fault => return (.error fault, [reply])
    | _, _ =>
      let (result, replies) ← take propagate entry reply.view steps
      return (result, reply :: replies)

/-- A consultation: takes its steps and notes the answers. -/
def consult (script : Script) (entry : Option TestEntry) (steps : List Step) (view : View)
    (notes : Notes) : Dialogue Request Reply (Except Fault Unit × Notes) := do
  let (result, replies) ← take script.propagate entry view steps
  return (result, { notes with answers := notes.answers ++ [replies] })

def policy (script : Script) : Policy Request Reply Notes where
  prepare := consult script none script.prepare
  start := consult script none script.start
  testEnded entry view notes :=
    consult script entry (script.testEnded.getD notes.results []) view
      { notes with results := notes.results + 1 }

end Jury.Valuer.Scripted
