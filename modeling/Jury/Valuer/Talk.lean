import Jury.Valuer.Run

/-!
# The words of policies

The words in which policies are written, one for each request.
-/

namespace Jury.Valuer

open Jury.Control

/-- A policy's side of a dialogue with a session. -/
abbrev Talk (α : Type) := Dialogue Request Reply α

/-- A policy that talks to a session. -/
abbrev Scorer (σ : Type) := Policy Request Reply σ

namespace Talk

def select (test : UInt32) (live : Bool) : Talk (Except Fault Unit) := do
  return (← Dialogue.request (.select test live)).result

def reportLive (score : UInt32) : Talk (Except Fault Unit) := do
  return (← Dialogue.request (.reportLive score)).result

def finish (score : UInt32) (full : Bool) (log : JudgeLog) : Talk (Except Fault Unit) := do
  return (← Dialogue.request (.finish score full log)).result

def comment (audience : Audience) (text : String) : Talk Unit := do
  discard <| Dialogue.request (.comment audience text)

/-- Replaces the judge log that the session keeps. -/
def setLog (log : JudgeLog) : Talk Unit := do
  discard <| Dialogue.request (.setLog log)

end Talk

end Jury.Valuer
