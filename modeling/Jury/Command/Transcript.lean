import Jury.Command.Exit
import Jury.Control.Json
import Jury.Control.Shown

/-!
# Showing a control stream

The program that shows a recorded control stream, one message a line, up to the first fault.
-/

namespace Jury.Command.Transcript

open Jury.Control Jury.Launch

def spec : Spec where
  name := "valuer-transcript"
  versionName := "valuer-transcript"
  options := [⟨"json", none, "Print one JSON object per response"⟩]

/-- A message on a line of its own, either as JSON, for which `toText` is used, or as it is shown to
a person. -/
def lineWith (toText : Response → String) (json : Bool) (response : Response) : String :=
  (if json then toText response else response.shown) ++ "\n"

def line (json : Bool) (response : Response) : String :=
  lineWith (Response.toText Json.library PartKind.codec) json response

/-- The report of a fault in the message with this number. A failed read is listed with its own
cause. -/
def report (number : Nat) (fault : Fault) : String :=
  "Error: response #" ++ toString number ++ "\n\nCaused by:\n" ++
    match fault with
    | .io cause => "    0: " ++ fault.message ++ "\n    1: " ++ cause.message ++ "\n"
    | _ => "    " ++ fault.message ++ "\n"

/-- Shows the stream on the standard input. -/
def launch (json : Bool) (env : Environment) : Exit :=
  let input := ((env.descriptors.get? 0).map OpenFile.rest).getD []
  let transcript := Control.Transcript.decode input
  let shown := String.join (transcript.responses.map (line json))
  let files := env.descriptors.write 1 (Utf8.encode shown)
  match transcript.fault with
  | none => ⟨0, files⟩
  | some fault => .saying 1 2 (report (transcript.responses.length + 1) fault) files

def run (arguments : List String) (env : Environment) : Exit :=
  match spec.read arguments with
  | .inquiry inquiry => .inquiry spec inquiry env.descriptors
  | .fault fault => .usage spec fault env.descriptors
  | .run given => launch (given.lookup "json").isSome env

end Jury.Command.Transcript
